import PointerDesktop.Pointer.Buttons
import PointerDesktop.Surface
import PointerDesktop.Window.Identity

/-! # Window events and their sinks -/

namespace PointerDesktop

inductive EventKind where
  | close | resize | mouseMove | mouseButton | keyPress | draw
deriving DecidableEq, Repr, Inhabited

namespace EventKind

def all : List EventKind := [.close, .resize, .mouseMove, .mouseButton, .keyPress, .draw]

/-- Number of kinds. -/
abbrev count : Nat := 6

def index : EventKind → Fin count
  | .close => 0
  | .resize => 1
  | .mouseMove => 2
  | .mouseButton => 3
  | .keyPress => 4
  | .draw => 5

end EventKind

/-- A notification to one window. Positions are relative to the window's corner. -/
inductive WindowEvent where
  | close
  | resize (size : Size)
  | mouseMove (position : Point) (buttons : Buttons)
  | mouseButton (position : Point) (buttons : Buttons)
  | keyPress (key : UInt8)
  | draw
deriving DecidableEq, Repr, Inhabited

def WindowEvent.kind : WindowEvent → EventKind
  | .close => .close
  | .resize _ => .resize
  | .mouseMove .. => .mouseMove
  | .mouseButton .. => .mouseButton
  | .keyPress _ => .keyPress
  | .draw => .draw

/-- A client's receiver for one kind of event, known by a name. The receiver of draw events
answers with the strokes that paint the window's content. -/
inductive EventSink where
  | close (name : String)
  | resize (name : String)
  | mouseMove (name : String)
  | mouseButton (name : String)
  | keyPress (name : String)
  | draw (name : String) (strokes : List Stroke)
deriving DecidableEq, Repr

namespace EventSink

def kind : EventSink → EventKind
  | close _ => .close
  | resize _ => .resize
  | mouseMove _ => .mouseMove
  | mouseButton _ => .mouseButton
  | keyPress _ => .keyPress
  | draw .. => .draw

def name : EventSink → String
  | close name | resize name | mouseMove name | mouseButton name | keyPress name
  | draw name _ => name

/-- What `sink` paints when it takes `event`; nothing at all if it cannot take it. -/
def accept? : (sink : EventSink) → (event : WindowEvent) → Option (List Stroke)
  | close _, .close => some []
  | resize _, .resize _ => some []
  | mouseMove _, .mouseMove .. => some []
  | mouseButton _, .mouseButton .. => some []
  | keyPress _, .keyPress _ => some []
  | draw _ strokes, .draw => some strokes
  | _, _ => none

end EventSink

end PointerDesktop
