import PointerDesktop.Event
import PointerDesktop.Log

/-! # Effects

An operation is a function from a state to a state. What the world sees of it (log notices, calls
of the display, events handed to clients, calls of the pointer observer) it lists, in order, as
`Effect`s. -/

namespace PointerDesktop

/-- A request to the display. -/
inductive DisplayCall where
  /-- Paint the screen behind all windows. -/
  | clearScreen (color : Color)
  /-- Clear a window's surface, whose size is given. -/
  | clear (surface : Size)
  /-- Fill a rectangle of a window's surface. -/
  | rect (rect : Rect) (color : Color)
  /-- Write a text on a window's surface, starting at `(x, y)`. -/
  | text (text : String) (x y : UInt32) (color : Color)
  /-- Copy the finished surface of a window to the screen. -/
  | present (window : WindowId) (surface : Surface)
  | drawCursor (position : Point)
  | eraseCursor (position : Point)
deriving DecidableEq, Repr

/-- The call changes the screen itself and not the surface of a window. -/
def DisplayCall.reachesScreen : DisplayCall → Bool
  | .clear _ | .rect .. | .text .. => false
  | .clearScreen _ | .present .. | .drawCursor _ | .eraseCursor _ => true

inductive Effect where
  | log (notice : Notice)
  | display (call : DisplayCall)
  /-- `sink` takes `event` for a window whose surface has the given size. -/
  | deliver (sink : EventSink) (window : WindowId) (event : WindowEvent) (surface : Size)
  /-- The pointer observer of the given name sees a sample. -/
  | observe (observer : String) (position : Point) (buttons : Buttons)
deriving DecidableEq, Repr

/-- A new state, and what was seen on the way to it. -/
structure Traced (σ : Type) where
  state : σ
  effects : List Effect := []

/-- A new state, what was seen on the way to it, and an answer. -/
structure Outcome (σ α : Type) extends Traced σ where
  result : α

end PointerDesktop
