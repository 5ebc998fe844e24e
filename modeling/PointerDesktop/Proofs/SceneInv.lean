import PointerDesktop.Proofs.EdgeSpans
import PointerDesktop.Proofs.SceneSteps
import PointerDesktop.Proofs.StackInv

/-!
# Gestures hold the top window

`Gesture.Anchored s g`: the window of the gesture `g` is open in `s`, has the focus, is visible and
has the property (title bar or resizable edges) that the gesture grabs it by. `Scene.Ok` adds that
the order of the stack is sound, so that the window is also the top one. A sample keeps `Scene.Ok`
(`Scene.Ok.step`); a change of the stack keeps a gesture anchored if it keeps the focus and the
flags of the window that the gesture is on (`Gesture.Anchored.mono`).
-/

namespace PointerDesktop

/-- Some edges, and no two opposite ones. -/
def Edges.Proper (e : Edges) : Prop :=
  e.isEmpty = false ∧ ¬ (e.contains .left = true ∧ e.contains .right = true) ∧
    ¬ (e.contains .top = true ∧ e.contains .bottom = true)

theorem Rect.edgesNear_proper (r : Rect) (p : Point) (reach : UInt32)
    (h : (r.edgesNear p reach).isEmpty = false) : (r.edgesNear p reach).Proper :=
  ⟨h, r.edgesNear_not_opposite p reach⟩

/-- The window `id` is open in `s`, has the focus, is visible and has a further property. -/
def Stack.Holds (s : Stack) (id : WindowId) (property : Flags) : Prop :=
  s.focused = some id ∧
    ∃ w, s.find? id = some w ∧ w.isVisible = true ∧ w.flags.contains property = true

def Gesture.Anchored (s : Stack) : Gesture → Prop
  | .idle => True
  | .dragging d => s.Holds d.window .titled
  | .resizing d => s.Holds d.window .resizable ∧ d.edges.Proper

namespace Stack.Holds
variable {s s' : Stack} {id : WindowId} {property : Flags}

theorem mono (h : s.Holds id property) (hf : s'.focused = s.focused)
    (hw : ∀ w, s.find? id = some w → ∃ w', s'.find? id = some w' ∧
      ∀ f, w.flags.contains f = true → w'.flags.contains f = true) : s'.Holds id property := by
  obtain ⟨hid, w, hfind, hvis, hprop⟩ := h
  obtain ⟨w', hfind', hflags⟩ := hw w hfind
  exact ⟨hf.trans hid, w', hfind', hflags _ hvis, hflags _ hprop⟩

end Stack.Holds

namespace Gesture.Anchored
variable {s s' : Stack} {g : Gesture} {v w : Window} {id : WindowId}

/-- The window of a gesture has the focus. -/
theorem focused (h : g.Anchored s) (hw : g.window? = some id) : s.focused = some id := by
  cases g with
  | idle => cases hw
  | dragging d => exact h.1.trans hw
  | resizing d => exact h.1.1.trans hw

theorem mono (h : g.Anchored s)
    (hf : ∀ id, g.window? = some id → s.focused = some id → s'.focused = s.focused)
    (hw : ∀ id w, g.window? = some id → s.find? id = some w → ∃ w', s'.find? id = some w' ∧
      ∀ f, w.flags.contains f = true → w'.flags.contains f = true) : g.Anchored s' := by
  cases g with
  | idle => trivial
  | dragging d => exact Stack.Holds.mono h (hf _ rfl h.1) fun w => hw _ w rfl
  | resizing d => exact ⟨h.1.mono (hf _ rfl h.1.1) fun w => hw _ w rfl, h.2⟩

theorem put (h : g.Anchored s) (hv : s.find? w.id = some v)
    (hflags : ∀ f, v.flags.contains f = true → w.flags.contains f = true) :
    g.Anchored (s.put w) := by
  refine h.mono (fun _ _ _ => rfl) fun id u _ hu => ?_
  by_cases hid : id = w.id
  · subst hid
    rw [hv] at hu
    cases hu
    exact ⟨w, Stack.find?_put_self hv, hflags⟩
  · exact ⟨u, by rw [Stack.find?_put_ne hid, hu], fun _ hf => hf⟩

theorem notify (h : g.Anchored s) (id : WindowId) (event : WindowEvent) :
    g.Anchored (s.notify id event).state := by
  cases hw : s.find? id with
  | none =>
    unfold Stack.notify
    rw [hw]
    exact h
  | some w =>
    rw [Stack.notify_eq hw]
    refine h.put (v := w) ?_ fun _ hf => hf
    show s.find? w.id = some w
    rw [Stack.id_of_find? hw, hw]

theorem remove (h : g.Anchored s) (hid : g.window? ≠ some id) : g.Anchored (s.remove id) := by
  refine h.mono (fun id' hw hf => ?_) fun id' w hw hfind => ⟨w, ?_, fun _ hf => hf⟩
  · show (if s.focused = some id then none else s.focused) = s.focused
    rw [if_neg fun hf' => hid (hw.trans (hf.symm.trans hf'))]
  · rw [Stack.find?_remove_ne fun he => hid (hw.trans (congrArg some he)), hfind]

theorem paint (h : g.Anchored s) (display : Display) (theme : Theme) (config : Config)
    (cursor : Point) : g.Anchored (s.paint display theme config cursor).state := by
  refine h.mono (fun _ _ _ => rfl) fun id w _ hw => ?_
  rw [Stack.paint_state, Stack.find?_map _ fun w => w.id_paint display theme config _, hw]
  exact ⟨_, rfl, fun f hf => by rw [Window.flags_paint]; exact hf⟩

end Gesture.Anchored

theorem Window.anchored_grab? {s : Stack} {w : Window} {config : Config} {p : Point} {g : Gesture}
    (hw : s.focusedWindow? = some w) (hg : w.grab? config p = some g) : g.Anchored s := by
  obtain ⟨hfocus, hfind⟩ := Stack.focusedWindow?_eq_some.1 hw
  unfold grab? at hg
  split at hg
  · cases hg
  next hvis =>
  rw [Bool.not_eq_true, Bool.not_eq_false'] at hvis
  split at hg
  · next hbar =>
    cases hg
    unfold inTitlebar at hbar
    exact ⟨hfocus, w, hfind, hvis, (Bool.and_eq_true_iff.1 hbar).1⟩
  · dsimp only at hg
    split at hg
    · cases hg
    next hedges =>
    cases hg
    rw [Bool.not_eq_true] at hedges
    unfold edgesNear at hedges ⊢
    split at hedges
    · next hres =>
      rw [if_pos hres]
      exact ⟨⟨hfocus, w, hfind, hvis, (Bool.and_eq_true_iff.1 hres).2⟩,
        Rect.edgesNear_proper _ _ _ hedges⟩
    · cases hedges

structure Scene.Ok (s : Scene) : Prop where
  stack : s.stack.Ok
  gesture : s.tracker.gesture.Anchored s.stack

namespace Scene.Ok
variable {s : Scene}

theorem of_idle {s : Scene} (hs : s.stack.Ok) (hg : s.tracker.gesture = .idle) : s.Ok :=
  ⟨hs, by rw [hg]; trivial⟩

theorem raiseAt (h : s.Ok) (p : Point) (hg : s.tracker.gesture = .idle) : (s.raiseAt p).Ok := by
  unfold Scene.raiseAt
  split
  · exact h
  split
  · exact h
  · exact of_idle (h.stack.raise _) hg

theorem notify (h : s.Ok) (id : WindowId) (event : WindowEvent) : (s.notify id event).state.Ok :=
  ⟨h.stack.notify id event, h.gesture.notify id event⟩

theorem pulled (h : s.Ok) {d : EdgeDrag} {w w' : Window} {target : Rect} {heap : Heap}
    (hg : s.tracker.gesture = .resizing d) (hw : s.stack.find? d.window = some w)
    (hw' : w.resize target.size s.heap = (.ok w', heap)) : (s.pulled d w' target heap).Ok := by
  have hd : Gesture.Anchored s.stack (.resizing { d with engaged := true }) := by
    have := h.gesture
    rw [hg] at this
    exact this
  refine ⟨h.stack.put _, hd.put (v := w) ?_ fun f hf => ?_⟩
  · show s.stack.find? w'.id = some w
    rw [Window.id_resize hw', Stack.id_of_find? hw]
    exact hw
  · show w'.flags.contains f = true
    rw [Window.flags_resize hw']
    exact hf

theorem acts {t : Traced Scene} (h : s.Ok) {config : Config} {p : Point}
    (ht : Acts config p s t) : t.state.Ok := by
  cases ht with
  | rest => exact h
  | grab _ hw hg => exact ⟨h.stack, Window.anchored_grab? hw hg⟩
  | raise hidle => exact h.raiseAt p hidle
  | click _ _ _ _ _ => exact h.notify _ _
  | hover _ _ _ _ => exact h.notify _ _
  | @drag d w hg hw =>
    have hd : Gesture.Anchored s.stack (.dragging { d with engaged := true }) := by
      have := h.gesture
      rw [hg] at this
      exact this
    refine ⟨h.stack.put _, hd.put (v := w) ?_ fun _ hf => hf⟩
    show s.stack.find? w.id = some w
    rw [Stack.id_of_find? hw]
    exact hw
  | refuse notice heap hg =>
    have hd := h.gesture
    rw [hg] at hd
    exact ⟨h.stack, hd⟩
  | pull hg _ _ hw hw' _ => exact h.pulled hg hw hw'
  | pullTell hg _ _ hw hw' => exact (h.pulled hg hw hw').notify _ _
  | drop => exact of_idle h.stack rfl
  | release _ _ _ => exact (of_idle (s := s.setGesture .idle) h.stack rfl).notify _ _

theorem act (h : s.Ok) (config : Config) (p : Point) (buttons : Buttons) :
    (s.act config p buttons).state.Ok := by
  have hnote : (s.note p buttons).Ok := ⟨h.stack, h.gesture⟩
  exact hnote.acts acts_act

theorem step (h : s.Ok) (config : Config) (p : Point) (buttons : Buttons) :
    (s.step config p buttons).state.Ok := by
  unfold Scene.step
  dsimp only
  split
  · next hidle =>
    exact (h.act config p buttons).raiseAt p (Gesture.isIdle_iff.1 hidle)
  · exact h.act config p buttons

end Scene.Ok

end PointerDesktop
