import PointerDesktop.Proofs.GestureLife
import PointerDesktop.Proofs.MinimumSize
import PointerDesktop.Proofs.WindowSteps

/-!
# The axes that a drag of edges spares

A drag of edges rebuilds the whole place of its window from the place at the press, the axis of which
it has grabbed no edge included. As long as that is where the window still is, the drag spares the axis
(`Scene.AtPress`); a caller who has moved or resized the window along it since finds that undone by the
next sample that pulls. Main statement: `Desktop.pull_spares_axis_iff`.
-/

namespace PointerDesktop

inductive Axis where
  | horizontal | vertical
deriving DecidableEq, Repr

/-- Where a rectangle starts along an axis, and how long it is. -/
def Rect.along (r : Rect) : Axis → UInt32 × UInt32
  | .horizontal => (r.x, r.width)
  | .vertical => (r.y, r.height)

/-- Some edge of the set moves along the axis. -/
def Edges.grabs (e : Edges) : Axis → Bool
  | .horizontal => e.contains .left || e.contains .right
  | .vertical => e.contains .top || e.contains .bottom

theorem Rect.along_resized {r : Rect} {e : Edges} {axis : Axis} (h : e.grabs axis = false)
    (dx dy : Int) (least : Size) : (r.resized e dx dy least).along axis = r.along axis := by
  have hspan : ∀ start length : UInt32,
      (nearestWord start.toNat, nearestWord ((start.toNat : Int) + length.toNat - start.toNat)) =
        (start, length) := by
    intro start length
    have hlength : (start.toNat : Int) + length.toNat - start.toNat = length.toNat := by omega
    rw [hlength, nearestWord_toNat, nearestWord_toNat]
  cases axis with
  | horizontal =>
    obtain ⟨hleft, hright⟩ := Bool.or_eq_false_iff.1 h
    unfold resized movedSpan
    rw [hleft, hright]
    exact hspan r.x r.width
  | vertical =>
    obtain ⟨htop, hbottom⟩ := Bool.or_eq_false_iff.1 h
    unfold resized movedSpan
    rw [htop, hbottom]
    exact hspan r.y r.height

/-- The operation sets place or size of the window. -/
def Operation.places (id : WindowId) : Operation → Bool
  | .setPosition id' .. | .setSize id' _ => id' = id
  | _ => false

theorem Window.Edited.rect_eq {d : Desktop} {op : Operation} {w w' : Window} (h : w.Edited d op w')
    (hop : op.places w.id = false) : w'.rect = w.rect := by
  cases h with
  | moveTo hmove => simp [hmove, Operation.places] at hop
  | resize hsize _ => simp [hsize, Operation.places] at hop
  | paint _ focused => exact w.rect_paint d.display d.theme d.config focused
  | _ => rfl

/-! ### Samples -/

namespace Scene

/-- The drag has engaged with the pointer at `p`, and the window gets the size that it asks for. -/
def Pulls (config : Config) (g : EdgeDrag) (p : Point) (heap : Heap) (w : Window) : Prop :=
  engages config g.engaged g.origin p = true ∧
    ∃ w' heap', w.resize (w.resizeTarget g p).size heap = (.ok w', heap')

/-- A window whose edges are dragged is where it was at the press, on an axis of which no edge is. -/
def AtPress (s : Scene) : Prop :=
  ∀ g w axis, s.tracker.gesture = .resizing g → s.stack.find? g.window = some w →
    g.edges.grabs axis = false → w.rect.along axis = g.originRect.along axis

variable {s : Scene} {config : Config} {p : Point} {buttons : Buttons} {g : EdgeDrag}

/-- A sample with the left button down puts the window to the place that the drag asks for, or leaves
it alone. -/
theorem Sound.step_resizing (h : s.Sound) (hg : s.tracker.gesture = .resizing g)
    (hheld : buttons.contains .left = true) (config : Config) (p : Point) :
    ∃ w w', s.stack.find? g.window = some w ∧
      (s.step config p buttons).state.stack.find? g.window = some w' ∧
      (Pulls config g p s.heap w ∧ w'.rect = w.resizeTarget g p ∨
        ¬ Pulls config g p s.heap w ∧ w' = w) := by
  have hanchored := h.ok.gesture
  rw [hg] at hanchored
  obtain ⟨⟨-, w, hw, -⟩, -⟩ := hanchored
  have hstep : s.step config p buttons = (s.note p buttons).resizeTo config g p := by
    rw [step_of_busy, act_resizing hg hheld]
    rw [← tracker_step]
    exact (h.ok.continues (by rw [hg]; rfl) hheld).isIdle
  have hfind : (s.note p buttons).stack.find? g.window = some w := hw
  refine ⟨w, ?_⟩
  rw [hstep]
  by_cases hpull : Pulls config g p s.heap w
  · obtain ⟨he, v, heap, hv⟩ := hpull
    obtain ⟨-, w', hw', hrect, -⟩ := find?_resizeTo he hfind hv
    exact ⟨w', hw, hw', .inl ⟨⟨he, v, heap, hv⟩, hrect⟩⟩
  · refine ⟨w, hw, ?_, .inr ⟨hpull, rfl⟩⟩
    unfold resizeTo
    split
    · next he =>
      dsimp only [setGesture]
      rw [hfind]
      dsimp only
      split
      · exact hw
      · next v heap hv => exact absurd ⟨he, v, heap, hv⟩ hpull
    · exact hw

namespace AtPress

theorem step (h : s.AtPress) (hs : s.Sound) (config : Config) (p : Point) (buttons : Buttons) :
    (s.step config p buttons).state.AtPress := by
  intro g' w' axis hg' hw' haxis
  have hbusy : (s.step config p buttons).state.tracker.gesture.isIdle = false := by
    rw [hg']
    rfl
  cases hidle : s.tracker.gesture.isIdle with
  | true =>
    -- a drag that starts takes note of the window's place
    obtain ⟨-, -, w, g, hw, hgrab, hstep⟩ := step_of_start (Gesture.isIdle_iff.1 hidle) hbusy
    rw [hstep] at hg' hw'
    have hg' : g = .resizing g' := hg'
    rw [hg'] at hgrab
    have hpress := Window.of_grab?_resizing hgrab
    have hw' : s.stack.find? g'.window = some w' := hw'
    rw [hpress] at hw' ⊢
    cases (Stack.focusedWindow?_eq_some.1 hw).2.symm.trans hw'
    rfl
  | false =>
    -- a drag that goes on puts the window back to it, or leaves the window alone
    have hheld : buttons.contains .left = true := by
      by_contra hup
      rw [gesture_step_of_up (by simpa using hup)] at hbusy
      cases hbusy
    have hgoes : s.tracker.gesture.Continues (s.step config p buttons).state.tracker.gesture :=
      hs.ok.continues hidle hheld
    rw [hg'] at hgoes
    generalize hg : s.tracker.gesture = g at hgoes
    cases hgoes with
    | @resizing g _ _ =>
      obtain ⟨w, v, hw, hv, hmoved⟩ := hs.step_resizing hg hheld config p
      cases hv.symm.trans hw'
      rcases hmoved with ⟨-, hrect⟩ | ⟨-, rfl⟩
      · rw [hrect]
        exact Rect.along_resized haxis ..
      · exact h g w' axis hg hw haxis

theorem steps (h : s.AtPress) (hs : s.Sound) (config : Config) (qs : List Sample) :
    (s.steps config qs).state.AtPress := by
  induction qs generalizing s with
  | nil => exact h
  | cons q qs ih => exact ih (h.step hs config q.position q.buttons) (hs.step config q)

end AtPress
end Scene

/-! ### Operations -/

namespace Desktop
variable {d : Desktop}

/-- The operation sets place or size of the window whose edges are being dragged. -/
def disturbs (d : Desktop) (op : Operation) : Bool :=
  match d.tracker.gesture with
  | .resizing g => op.places g.window
  | .idle | .dragging _ => false

/-- No operation of the run disturbs a drag of edges. -/
def undisturbed (d : Desktop) : List Operation → Bool
  | [] => true
  | op :: ops => !d.disturbs op && (d.apply op).state.undisturbed ops

theorem atPress_apply (h : d.toScene.AtPress) (hd : d.toScene.Sound) {op : Operation}
    (hop : d.disturbs op = false) : (d.apply op).state.toScene.AtPress := by
  cases hpointer : op.isPointer with
  | true =>
    rw [(d.takes_apply hpointer).scene]
    exact h.steps hd _ _
  | false =>
    intro g w' axis hg hw' haxis
    have htracker : (d.apply op).state.tracker = d.tracker := by
      rcases d.tracker_apply hpointer with ht | ⟨-, ht⟩
      · exact ht
      · have hidle : (d.apply op).state.tracker.gesture = .idle := congrArg Tracker.gesture ht
        cases hidle.symm.trans hg
    have hg : d.tracker.gesture = .resizing g := htracker ▸ hg
    rcases (d.edits_apply hpointer).window hd hw' with ⟨w, hw, hedited⟩ | ⟨hnone, -⟩
    · have hplaces : op.places w.id = false := by
        rw [Stack.id_of_find? hw]
        simpa [disturbs, hg] using hop
      rw [hedited.rect_eq hplaces]
      exact h g w axis hg hw haxis
    · -- the window of the drag was open before
      have hanchored := hd.ok.gesture
      rw [hg] at hanchored
      obtain ⟨⟨-, w, hw, -⟩, -⟩ := hanchored
      cases hnone.symm.trans hw

theorem atPress_run (h : d.toScene.AtPress) (hd : d.toScene.Sound) {ops : List Operation}
    (hops : d.undisturbed ops = true) : (d.run ops).state.toScene.AtPress := by
  induction ops generalizing d with
  | nil => exact h
  | cons op ops ih =>
    obtain ⟨hop, hops⟩ := Bool.and_eq_true_iff.1 hops
    exact ih (atPress_apply h hd (by simpa using hop)) (hd.apply op) hops

/-- After any run, a sample with the left button down leaves place and size of the window whose edges
are dragged as they are along an axis of which no edge is dragged, exactly if the sample does not pull
or the window is, along that axis, where it was at the press. A window that no caller has moved or
resized during a drag of its edges is. -/
theorem pull_spares_axis_iff (config : Config) (theme : Theme) (display : Display) (heap : Heap)
    (ops : List Operation) {g : EdgeDrag}
    (hg : ((start config theme display heap).state.run ops).state.tracker.gesture = .resizing g)
    {q : Sample} (hheld : q.buttons.contains .left = true) :
    let d := ((start config theme display heap).state.run ops).state
    ∃ w w', d.stack.find? g.window = some w ∧
      (d.takeSample q).state.stack.find? g.window = some w' ∧
      ∀ axis, g.edges.grabs axis = false →
        (w'.rect.along axis = w.rect.along axis ↔
          ¬ Scene.Pulls d.config g q.position d.heap w ∨ w.rect.along axis = g.originRect.along axis) ∧
        ((start config theme display heap).state.undisturbed ops = true →
          w'.rect.along axis = w.rect.along axis) := by
  intro d
  have hstart := Reachable.start config theme display heap
  have hd : d.toScene.Sound := (hstart.run ops).sound
  obtain ⟨w, w', hw, hw', hmoved⟩ := hd.step_resizing hg hheld d.config q.position
  refine ⟨w, w', hw, hw', fun axis haxis => ?_⟩
  have hiff : w'.rect.along axis = w.rect.along axis ↔
      ¬ Scene.Pulls d.config g q.position d.heap w ∨ w.rect.along axis = g.originRect.along axis := by
    rcases hmoved with ⟨hpull, hrect⟩ | ⟨hpull, rfl⟩
    · have htarget : w'.rect.along axis = g.originRect.along axis := by
        rw [hrect]
        exact Rect.along_resized haxis ..
      rw [htarget, or_iff_right (not_not.2 hpull)]
      exact eq_comm
    · exact iff_of_true rfl (.inl hpull)
  refine ⟨hiff, fun hops => hiff.2 (.inr ?_)⟩
  have hfresh : (start config theme display heap).state.toScene.AtPress := fun _ _ _ hidle => by
    cases hidle
  exact atPress_run hfresh hstart.sound hops g w axis hg hw haxis

/-- The right edge of a window is dragged while a caller moves another window and renames this one. -/
theorem pull_spares_axis_iff_vertical :
    let ops := [.create "v" ⟨20, 20⟩ .resizable, .create "w" ⟨20, 20⟩ .resizable,
      .pointTo ⟨120, 110⟩ .left, .setPosition ⟨1⟩ 300 200, .setTitle ⟨2⟩ "x",
      .pointTo ⟨124, 110⟩ .left]
    let d := ((start {} {} .software (.upTo 4194304)).state.run ops).state
    let q : Sample := ⟨⟨130, 300⟩, .left, ⟨124, 110⟩⟩
    d.tracker.gesture = .resizing ⟨⟨2⟩, .right, ⟨120, 110⟩, ⟨100, 100, 20, 20⟩, true⟩ ∧
      q.buttons.contains .left = true ∧
      (start {} {} .software (.upTo 4194304)).state.undisturbed ops = true ∧
      ∃ w w', d.stack.find? ⟨2⟩ = some w ∧ (d.takeSample q).state.stack.find? ⟨2⟩ = some w' ∧
        w.rect = ⟨100, 100, 24, 20⟩ ∧ w'.rect.width = 30 ∧
        w'.rect.along .vertical = w.rect.along .vertical := by
  intro ops d q
  have hg : d.tracker.gesture =
      .resizing ⟨⟨2⟩, .right, ⟨120, 110⟩, ⟨100, 100, 20, 20⟩, true⟩ := by decide +kernel
  have hheld : q.buttons.contains .left = true := by decide
  have hops : (start {} {} .software (.upTo 4194304)).state.undisturbed ops = true := by
    decide +kernel
  have hbefore : (d.stack.find? ⟨2⟩).map (·.rect) = some ⟨100, 100, 24, 20⟩ := by decide +kernel
  have hafter : ((d.takeSample q).state.stack.find? ⟨2⟩).map (·.rect.width) = some 30 := by
    decide +kernel
  obtain ⟨w, w', hw, hw', hspares⟩ := pull_spares_axis_iff {} {} .software _ ops hg hheld
  have hw : d.stack.find? ⟨2⟩ = some w := hw
  have hw' : (d.takeSample q).state.stack.find? ⟨2⟩ = some w' := hw'
  rw [hw] at hbefore
  rw [hw'] at hafter
  exact ⟨hg, hheld, hops, w, w', hw, hw', Option.some.inj hbefore, Option.some.inj hafter,
    (hspares .vertical (by decide)).2 hops⟩

/-- While the right edge of a window is dragged, a caller moves the window down. The next sample moves it
up again. -/
theorem moved_while_held_comes_back :
    let d := ((start {} {} .software (.upTo 4194304)).state.run
      [.create "w" ⟨20, 20⟩ .resizable, .pointTo ⟨120, 110⟩ .left, .setPosition ⟨1⟩ 100 130]).state
    let q : Sample := ⟨⟨130, 110⟩, .left, ⟨120, 110⟩⟩
    ∃ g, d.tracker.gesture = .resizing g ∧ q.buttons.contains .left = true ∧
      g.edges.grabs .vertical = false ∧
      (d.stack.find? g.window).map (·.rect.along .vertical) = some (130, 20) ∧
      ((d.takeSample q).state.stack.find? g.window).map (·.rect.along .vertical) =
        some (100, 20) := by
  refine ⟨⟨⟨1⟩, .right, ⟨120, 110⟩, ⟨100, 100, 20, 20⟩, false⟩, ?_⟩
  decide +kernel

end Desktop
end PointerDesktop
