import PointerDesktop.Proofs.GestureInv
import PointerDesktop.Proofs.WindowInv

/-!
# Presses that grab and releases

A press that grabs a window takes note of where and what it has grabbed (`Window.of_grab?_dragging`,
`Window.of_grab?_resizing`). A release hands the window what `Window.releaseEvent?` says and leaves all
windows as they are (`Scene.step_release`).
-/

namespace PointerDesktop

namespace Window
variable {w : Window} {config : Config} {p : Point}

/-- The drag of a window that was pressed at `p`. -/
def grabbed (w : Window) (p : Point) (engaged : Bool) : Drag :=
  { window := w.id, grab := w.toLocal p, origin := p, engaged := engaged }

theorem of_grab?_dragging {g : Drag} (h : w.grab? config p = some (.dragging g)) :
    w.isVisible = true ∧ w.inTitlebar p config.titlebarHeight = true ∧ g = w.grabbed p false := by
  unfold grab? at h
  split at h
  · cases h
  next hvis =>
  rw [Bool.not_eq_true, Bool.not_eq_false'] at hvis
  split at h
  · next hbar =>
    cases h
    exact ⟨hvis, hbar, rfl⟩
  · dsimp only at h
    split at h <;> cases h

theorem of_grab?_resizing {g : EdgeDrag} (h : w.grab? config p = some (.resizing g)) :
    g = { window := w.id, edges := g.edges, origin := p, originRect := w.rect
          engaged := false } := by
  unfold grab? at h
  split at h
  · cases h
  split at h
  · cases h
  · dsimp only at h
    split at h
    · cases h
    · cases h
      rfl

theorem kind_releaseEvent? {g : Gesture} {event : WindowEvent}
    (h : w.releaseEvent? p g = some event) : event.kind ≠ .draw := by
  cases g with
  | idle => cases h
  | dragging d =>
    simp only [releaseEvent?] at h
    split at h
    · cases h
    · cases h
      exact fun h => by cases h
  | resizing d =>
    cases h
    split <;> exact fun h => by cases h

@[simp] theorem deliveries_handed (w : Window) (event : WindowEvent) :
    deliveries (w.handed event) = w.handed event := by
  unfold handed
  cases w.sinks.get? event.kind <;> rfl

/-- A window that has just been put into the stack is handed an event. -/
theorem Ok.notify_put {s : Stack} {v : Window} {event : WindowEvent} (hw : w.Ok)
    (hv : s.find? w.id = some v) (hdraw : event.kind ≠ .draw) :
    (s.put w).notify w.id event = { state := s.put w, effects := w.handed event } := by
  obtain ⟨hstate, heffects⟩ := hw.notify hdraw
  rw [Stack.notify_eq (Stack.find?_put_self hv), hstate, heffects, Stack.put_put rfl]

end Window

namespace Scene
variable {s : Scene} {config : Config} {buttons : Buttons} {w : Window}

theorem find?_raiseAt (hs : s.stack.ids.Nodup) (p : Point) (id : WindowId) :
    (s.raiseAt p).stack.find? id = s.stack.find? id := by
  unfold raiseAt
  split
  · rfl
  · next id' hhit =>
    split
    · rfl
    · obtain ⟨v, hv, rfl, -⟩ := Stack.topmostAt?_eq_some hhit
      exact Stack.find?_raise hs (Stack.find?_of_mem hs hv)

/-- The release of a gesture on `w` at `r`. -/
theorem step_release (hs : s.stack.Ok) (hw : s.tracker.gesture.window?.bind s.stack.find? = some w)
    (hok : w.Ok) (hup : buttons.contains .left = false) (config : Config) (r : Point) :
    (s.step config r buttons).state.tracker.gesture = .idle ∧
      (∀ id, (s.step config r buttons).state.stack.find? id = s.stack.find? id) ∧
      (s.step config r buttons).effects =
        (w.releaseEvent? r s.tracker.gesture).toList.flatMap w.handed := by
  have hidle : (s.step config r buttons).state.tracker.gesture = .idle := gesture_step_of_up hup
  obtain ⟨id, hid, hfind⟩ := Option.bind_eq_some_iff.1 hw
  have hbusy : s.tracker.gesture.isIdle = false := by
    cases hg : s.tracker.gesture with
    | idle =>
      rw [hg] at hid
      cases hid
    | _ => rfl
  rw [← Stack.id_of_find? hfind] at hfind
  have hact : s.act config r buttons =
      { state := (s.note r buttons).setGesture .idle
        effects := (w.releaseEvent? r s.tracker.gesture).toList.flatMap w.handed } := by
    rw [act_release hbusy hup]
    unfold release
    dsimp only [note, setGesture]
    rw [hw]
    dsimp only
    cases he : w.releaseEvent? r s.tracker.gesture with
    | none => rfl
    | some event =>
      obtain ⟨hstate, heffects⟩ := hok.notify (Window.kind_releaseEvent? he)
      unfold notify
      dsimp only
      rw [Stack.notify_eq hfind, hstate, heffects, Stack.put_self hs.nodup hfind]
      simp
  refine ⟨hidle, fun id => ?_, ?_⟩ <;> rw [step_of_idle (by rw [hact]; rfl), hact]
  exact find?_raiseAt (s := (s.note r buttons).setGesture .idle) hs.nodup r id

end Scene
end PointerDesktop
