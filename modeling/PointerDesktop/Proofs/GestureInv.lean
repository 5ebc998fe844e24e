import PointerDesktop.Proofs.Reachable
import PointerDesktop.Proofs.SceneInv

/-!
# Gestures hold the top window, whatever callers do

Every operation of a desktop keeps `Scene.Ok`. Four of them have to see to the gesture for that:
`create` and `focus` give the focus to another window, `close` and `hide` take the gesture's window
away. Main statement: `Desktop.gesture_on_top`.
-/

namespace PointerDesktop

theorem Flags.contains_union {f g h : Flags} (hf : f.contains h = true) :
    (f.union g).contains h = true := by
  unfold contains union at *
  rw [beq_iff_eq] at *
  have hb := congrArg UInt32.toBitVec hf
  refine UInt32.toBitVec_inj.1 ?_
  rw [UInt32.toBitVec_and] at hb ⊢
  rw [UInt32.toBitVec_or]
  ext i hi
  have hbit := congrArg (·[i]) hb
  simp only [BitVec.getElem_and, BitVec.getElem_or] at hbit ⊢
  rw [← hbit]
  grind

namespace Scene.Ok
variable {d : Desktop}

theorem update (h : d.toScene.Ok) (id : WindowId) (change : Window → Except WindowError Window)
    (hc : ∀ w w', change w = .ok w' →
      w'.id = w.id ∧ ∀ f, w.flags.contains f = true → w'.flags.contains f = true) :
    (d.update id change).state.toScene.Ok := by
  unfold Desktop.update
  split
  · exact h
  · next w hw =>
    split
    · exact h
    · next w' hw' =>
      obtain ⟨hid, hflags⟩ := hc w w' hw'
      refine ⟨h.stack.put _, h.gesture.put (v := w) ?_ hflags⟩
      rw [hid, Stack.id_of_find? hw]
      exact hw

theorem create (h : d.toScene.Ok) (title : String) (size : Size) (flags : Flags) :
    (d.create title size flags).state.toScene.Ok := by
  have hs := h.stack.create title size flags d.config d.theme.windowBackground d.heap
  unfold Desktop.create
  dsimp only
  split
  · exact of_idle hs rfl
  · next e he =>
    rcases d.stack.create_cases title size flags d.config d.theme.windowBackground d.heap with
      ⟨e', -, hstate⟩ | ⟨w, -, -, -, hresult, -⟩
    · refine ⟨hs, ?_⟩
      show d.tracker.gesture.Anchored (d.stack.create ..).state.1
      rw [hstate]
      exact h.gesture
    · rw [hresult] at he
      cases he

/-- After a gesture on `id` has been abandoned, none is on `id`. -/
theorem anchored_forget (h : d.toScene.Ok) (id : WindowId) :
    (d.tracker.forget id).state.gesture.Anchored d.stack ∧
      (d.tracker.forget id).state.gesture.window? ≠ some id := by
  unfold Tracker.forget
  split
  · exact ⟨trivial, fun hw => by cases hw⟩
  · next hw => exact ⟨h.gesture, hw⟩

theorem close (h : d.toScene.Ok) (id : WindowId) : (d.close id).state.toScene.Ok := by
  obtain ⟨hg, hid⟩ := h.anchored_forget id
  unfold Desktop.close
  split
  · exact h
  · exact ⟨(h.stack.notify id .close).remove id, (hg.notify id .close).remove hid⟩

theorem setSize (h : d.toScene.Ok) (id : WindowId) (size : Size) :
    (d.setSize id size).state.toScene.Ok := by
  unfold Desktop.setSize
  split
  · exact h
  · next w hw =>
    split
    · exact h
    · split
      · exact ⟨h.stack, h.gesture⟩
      · next w' heap hw' =>
        have hput : Scene.Ok { stack := d.stack.put w', tracker := d.tracker, heap := heap } := by
          refine ⟨h.stack.put _, h.gesture.put (v := w) ?_ fun f hf => ?_⟩
          · rw [Window.id_resize hw', Stack.id_of_find? hw]
            exact hw
          · rw [Window.flags_resize hw']
            exact hf
        dsimp only
        split
        · exact hput
        · exact hput.notify id (.resize size)

theorem setTitle (h : d.toScene.Ok) (id : WindowId) (title : String) :
    (d.setTitle id title).state.toScene.Ok := by
  unfold Desktop.setTitle
  split
  · exact h
  · next w hw =>
    split
    · exact ⟨h.stack, h.gesture⟩
    · next w' heap hw' =>
      rw [Window.setTitle_eq hw']
      refine ⟨h.stack.put _, h.gesture.put (v := w) ?_ fun f hf => hf⟩
      show d.stack.find? w.id = some w
      rw [Stack.id_of_find? hw]
      exact hw

theorem hide (h : d.toScene.Ok) (id : WindowId) : (d.hide id).state.toScene.Ok := by
  obtain ⟨hg, hid⟩ := h.anchored_forget id
  unfold Desktop.hide
  split
  · exact h
  · next w hw =>
    have hwid := Stack.id_of_find? hw
    have hput := h.stack.put (w.setVisible false)
    have hfind : ∀ id', (d.tracker.forget id).state.gesture.window? = some id' →
        (d.stack.put (w.setVisible false)).find? id' = d.stack.find? id' := by
      intro id' hid'
      refine Stack.find?_put_ne fun he => hid ?_
      rw [hid', he]
      exact congrArg some hwid
    dsimp only
    split
    · next hfocus =>
      -- the gesture's window has the focus, so it would be `id`
      refine ⟨hput.unfocus, hg.mono (fun id' hw' hf' => ?_) fun id' v hw' hv => ?_⟩
      · exact absurd (hw'.trans (hf'.symm.trans hfocus)) hid
      · exact ⟨v, (hfind id' hw').trans hv, fun _ hf => hf⟩
    · exact ⟨hput, hg.mono (fun _ _ _ => rfl) fun id' v hw' hv =>
        ⟨v, (hfind id' hw').trans hv, fun _ hf => hf⟩⟩

theorem focus (h : d.toScene.Ok) (id : WindowId) : (d.focus id).state.toScene.Ok := by
  unfold Desktop.focus
  split
  · exact h
  · next s hs =>
    have hraise : s = d.stack.raise id := by
      unfold Stack.raise
      rw [hs]
    subst hraise
    dsimp only
    have hok := h.stack.raise id
    split
    · next hg =>
      refine ⟨hok, h.gesture.mono (fun id' hw' hf' => ?_) fun id' v hw' hv => ?_⟩
      · rw [hg] at hw'
        cases hw'
        obtain ⟨w, hw⟩ : ∃ w, d.stack.find? id = some w := by
          cases hw : d.stack.find? id with
          | none =>
            unfold Stack.promote at hs
            rw [hw] at hs
            cases hs
          | some w => exact ⟨w, rfl⟩
        rw [Stack.focused_raise hw, hf']
      · rw [hg] at hw'
        cases hw'
        exact ⟨v, by rw [Stack.find?_raise h.stack.nodup hv, hv], fun _ hf => hf⟩
    · exact of_idle hok rfl

theorem takeSample (h : d.toScene.Ok) (s : Sample) : (d.takeSample s).state.toScene.Ok :=
  Scene.Ok.step h d.config s.position s.buttons

theorem apply (h : d.toScene.Ok) (op : Operation) (hop : op.isPointer = false) :
    (d.apply op).state.toScene.Ok := by
  cases op with
  | create title size flags => exact h.create title size flags
  | close id => exact h.close id
  | setPosition id x y =>
    refine h.update id _ fun w w' hw => ?_
    cases hw
    exact ⟨rfl, fun _ hf => hf⟩
  | setSize id size => exact h.setSize id size
  | setMinimum id size =>
    refine h.update id _ fun w w' hw => ?_
    unfold Window.setMinimum at hw
    split at hw
    · cases hw
    · cases hw
      exact ⟨rfl, fun _ hf => hf⟩
  | setTitle id title => exact h.setTitle id title
  | setBackground id color =>
    refine h.update id _ fun w w' hw => ?_
    cases hw
    exact ⟨rfl, fun _ hf => hf⟩
  | reveal id =>
    refine h.update id _ fun w w' hw => ?_
    cases hw
    exact ⟨rfl, fun _ hf => Flags.contains_union hf⟩
  | hide id => exact h.hide id
  | focus id => exact h.focus id
  | setSink id sink =>
    refine h.update id _ fun w w' hw => ?_
    cases hw
    exact ⟨rfl, fun _ hf => hf⟩
  | clearSink id kind =>
    refine h.update id _ fun w w' hw => ?_
    cases hw
    exact ⟨rfl, fun _ hf => hf⟩
  | setObserver observer => exact h
  | feed byte => cases hop
  | drain source => cases hop
  | pointTo p buttons => cases hop
  | pressKey key =>
    simp only [Desktop.apply, Desktop.silent, Desktop.pressKey]
    split
    · exact h
    · exact h.notify _ _
  | paint => exact ⟨h.stack.paint _ _ _ d.cursor, h.gesture.paint _ _ _ d.cursor⟩
  | setScreen screen =>
    simp only [Desktop.apply, Desktop.silent, Desktop.setScreen]
    split <;> exact h

end Scene.Ok

/-- In every desktop that operations lead to, stacking order and gesture are sound. -/
theorem Desktop.Reachable.ok {d : Desktop} (hd : d.Reachable) : d.toScene.Ok :=
  hd.ind (P := fun d => d.toScene.Ok) (fun _ _ _ _ => ⟨Stack.Ok.empty, trivial⟩)
    (fun _ _ h => h) (fun _ op hop h => h.apply op hop) fun _ q h => h.takeSample q

/-- After any run of operations on a desktop that started without windows, a gesture is on an open,
visible window that has the focus and is the topmost one; a dragged window has a title bar, a resized
one can be resized, and the edges it is resized by are some, and no two opposite ones. -/
theorem Desktop.gesture_on_top (config : Config) (theme : Theme) (display : Display) (heap : Heap)
    (ops : List Operation) :
    let d := ((start config theme display heap).state.run ops).state
    match d.tracker.gesture with
    | .idle => True
    | .dragging g =>
      ∃ w, d.stack.find? g.window = some w ∧ d.stack.focused = some g.window ∧
        d.stack.topmost? = some g.window ∧ w.isVisible = true ∧ w.isTitled = true
    | .resizing g =>
      ∃ w, d.stack.find? g.window = some w ∧ d.stack.focused = some g.window ∧
        d.stack.topmost? = some g.window ∧ w.isVisible = true ∧ w.isResizable = true ∧
        g.edges.isEmpty = false ∧
        ¬ (g.edges.contains .left = true ∧ g.edges.contains .right = true) ∧
        ¬ (g.edges.contains .top = true ∧ g.edges.contains .bottom = true) := by
  intro d
  have hd : d.toScene.Ok := ((Reachable.start config theme display heap).run ops).ok
  have hg := hd.gesture
  cases h : d.tracker.gesture with
  | idle => trivial
  | dragging g =>
    rw [h] at hg
    obtain ⟨hfocus, w, hw, hvis, htitled⟩ := hg
    exact ⟨w, hw, hfocus, hd.stack.top _ hfocus, hvis, htitled⟩
  | resizing g =>
    rw [h] at hg
    obtain ⟨⟨hfocus, w, hw, hvis, hres⟩, hedges⟩ := hg
    exact ⟨w, hw, hfocus, hd.stack.top _ hfocus, hvis, hres, hedges⟩

end PointerDesktop
