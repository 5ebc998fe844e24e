import PointerDesktop.Effect

/-! # The sinks of a window

`Sinks` has one numbered place for each kind of event. An event whose place is empty is dropped. -/

namespace PointerDesktop

structure Sinks where
  /-- What is in the place of each number. -/
  places : Vector (Option EventSink) EventKind.count := .replicate EventKind.count none
deriving DecidableEq, Repr

namespace Sinks

def get? (s : Sinks) (kind : EventKind) : Option EventSink := s.places[kind.index]

/-- Replaces what is in the place for `kind`. -/
def put (s : Sinks) (kind : EventKind) (sink : Option EventSink) : Sinks where
  places := s.places.set kind.index sink

/-- Binds a sink, in place of any earlier one of its kind. -/
def set (s : Sinks) (sink : EventSink) : Sinks := s.put sink.kind (some sink)

def clear (s : Sinks) (kind : EventKind) : Sinks := s.put kind none

def isBound (s : Sinks) (kind : EventKind) : Bool := (s.get? kind).isSome

theorem get?_put (s : Sinks) (kind kind' : EventKind) (sink : Option EventSink) :
    (s.put kind sink).get? kind' = if kind' = kind then sink else s.get? kind' := by
  unfold put get?
  rw [Fin.getElem_fin, Fin.getElem_fin, Vector.getElem_set]
  cases kind <;> cases kind' <;> rfl

/-- Hands `event` to the sink of its kind, which may paint on `surface`. The result says whether
there was a sink to take it. -/
def dispatch (s : Sinks) (window : WindowId) (event : WindowEvent) (surface : Surface) :
    Outcome Surface Bool :=
  match s.get? event.kind with
  | none => { state := surface, result := false }
  | some sink =>
    match sink.accept? event with
    | none => { state := surface, result := false }
    | some strokes =>
      { state := surface.paint strokes
        effects := [.deliver sink window event surface.size]
        result := true }

end Sinks

end PointerDesktop
