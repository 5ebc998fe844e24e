import PointerDesktop.Proofs.Reachable

/-!
# Windows are sound

`Window.Ok`: a window has pixels, as many as its size asks for, and the sink in each of its places is
of the kind of the place. Every write keeps it (`Window.Ok.write`), so it holds of every window of
every desktop that operations lead to. Such a window hands an event to its sink and, unless it is asked
to draw, stays as it is (`Window.Ok.notify`).
-/

namespace PointerDesktop

theorem Surface.size_paint (s : Surface) (strokes : List Stroke) :
    (s.paint strokes).size = s.size := by
  have hstroke : ∀ (s : Surface) (k : Stroke), (s.stroke k).size = s.size := by
    intro s k
    cases k with
    | fillRect rect color =>
      unfold stroke fillRect
      dsimp only
      split <;> rfl
    | _ => rfl
  unfold paint
  induction strokes generalizing s with
  | nil => rfl
  | cons k strokes ih => exact (ih _).trans (hstroke s k)

/-- Every sink is in the place for its kind. -/
def Sinks.Placed (s : Sinks) : Prop := ∀ kind sink, s.get? kind = some sink → sink.kind = kind

theorem Sinks.Placed.put {s : Sinks} (h : s.Placed) {kind : EventKind} {sink : Option EventSink}
    (hsink : ∀ k, sink = some k → k.kind = kind) : (s.put kind sink).Placed := by
  intro kind' k hk
  rw [get?_put] at hk
  split at hk
  · next heq => rw [heq, hsink k hk]
  · exact h kind' k hk

/-- What the sink paints on taking an event: nothing, if it is not for drawing. -/
def EventSink.strokes : EventSink → List Stroke
  | .draw _ strokes => strokes
  | _ => []

theorem EventSink.strokes_of_kind {sink : EventSink} (h : sink.kind ≠ .draw) :
    sink.strokes = [] := by
  cases sink <;> first | rfl | exact absurd rfl h

/-- A sink takes the events of its kind and no others. -/
theorem EventSink.accept?_eq (sink : EventSink) (event : WindowEvent) :
    sink.accept? event = if sink.kind = event.kind then some sink.strokes else none := by
  cases sink <;> cases event <;> rfl

namespace Sinks
variable {s : Sinks} {event : WindowEvent} {sink : EventSink}

theorem dispatch_of_bound (hsink : s.get? event.kind = some sink) (hkind : sink.kind = event.kind)
    (id : WindowId) (surface : Surface) :
    s.dispatch id event surface =
      { state := surface.paint sink.strokes
        effects := [.deliver sink id event surface.size]
        result := true } := by
  unfold dispatch
  rw [hsink]
  dsimp only
  rw [EventSink.accept?_eq, if_pos hkind]

theorem dispatch_of_empty (hnone : s.get? event.kind = none) (id : WindowId) (surface : Surface) :
    s.dispatch id event surface = { state := surface, result := false } := by
  unfold dispatch
  rw [hnone]

end Sinks

namespace Window

/-- What the window's sink for an event is handed, if there is one. -/
def handed (w : Window) (event : WindowEvent) : List Effect :=
  (w.sinks.get? event.kind).toList.map fun sink => .deliver sink w.id event w.size

structure Ok (w : Window) : Prop where
  nonempty : w.size.isEmpty = false
  surface : w.surface.size = w.size
  sinks : w.sinks.Placed

namespace Ok
variable {pull : Option (Window × Rect × Heap)} {w w' : Window} {size : Size} {heap heap' : Heap}

theorem create {id : WindowId} {title : String} {flags : Flags} {config : Config}
    {background : Color}
    (h : Window.create id title size flags config background heap = (.ok w, heap')) : w.Ok := by
  obtain ⟨hsize, rfl⟩ := create_eq h
  exact ⟨hsize, rfl, fun kind _ hk => by cases kind <;> cases hk⟩

theorem resize (hw : w.Ok) (h : w.resize size heap = (.ok w', heap')) : w'.Ok := by
  obtain ⟨hsize, ⟨-, rfl⟩ | ⟨-, rfl⟩⟩ := resize_ok h
  · exact hw
  · exact ⟨hsize, rfl, hw.sinks⟩

/-- An event that is no request to draw is handed to its sink and leaves the window as it is. -/
theorem notify (hw : w.Ok) {event : WindowEvent} (hdraw : event.kind ≠ .draw) :
    (w.notify event).state = w ∧ (w.notify event).effects = w.handed event := by
  unfold Window.notify handed
  cases hsink : w.sinks.get? event.kind with
  | none =>
    rw [Sinks.dispatch_of_empty hsink]
    exact ⟨rfl, rfl⟩
  | some sink =>
    have hkind := hw.sinks _ _ hsink
    rw [Sinks.dispatch_of_bound hsink hkind, EventSink.strokes_of_kind (hkind ▸ hdraw), hw.surface]
    exact ⟨rfl, rfl⟩

theorem write (hw : w.Ok) (h : Write pull w w') : w'.Ok := by
  cases h with
  | paint strokes => exact ⟨hw.nonempty, (Surface.size_paint _ _).trans hw.surface, hw.sinks⟩
  | moveTo x y => exact ⟨hw.nonempty, hw.surface, hw.sinks⟩
  | resize _ hresize => exact hw.resize hresize
  | pull _ hresize =>
    have hr := hw.resize hresize
    exact ⟨hr.nonempty, hr.surface, hr.sinks⟩
  | setMinimum hmin =>
    unfold setMinimum at hmin
    split at hmin
    · cases hmin
    · cases hmin
      exact ⟨hw.nonempty, hw.surface, hw.sinks⟩
  | bind sink =>
    exact ⟨hw.nonempty, hw.surface, hw.sinks.put fun k hk => by cases hk; rfl⟩
  | unbind kind => exact ⟨hw.nonempty, hw.surface, hw.sinks.put fun k hk => by cases hk⟩
  | _ => exact ⟨hw.nonempty, hw.surface, hw.sinks⟩

theorem written (hw : w.Ok) (h : Written pull w w') : w'.Ok := by
  induction h with
  | refl => exact hw
  | tail _ hstep ih => exact ih.write hstep

end Ok

end Window

theorem Scene.windows_ok_step {s : Scene} (hok : ∀ w ∈ s.stack.windows, w.Ok) (config : Config)
    (p : Point) (buttons : Buttons) :
    ∀ w ∈ (s.step config p buttons).state.stack.windows, w.Ok := by
  intro w' hw'
  obtain ⟨w, hw, hww'⟩ := s.written_step config p buttons w' hw'
  exact (hok w hw).written hww'

theorem Desktop.Reachable.window_ok {d : Desktop} (hd : d.Reachable) :
    ∀ w ∈ d.stack.windows, w.Ok :=
  hd.windows (fun _ _ _ h hw => hw.write h) fun _ _ _ _ _ _ _ _ _ h => .create h

end PointerDesktop
