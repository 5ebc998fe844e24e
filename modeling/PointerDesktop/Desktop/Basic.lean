import PointerDesktop.Frame
import PointerDesktop.Pointer.Mouse
import PointerDesktop.Scene

/-! # The desktop

`Desktop` is the whole state: windows, pointer, settings and display. Each operation returns the
state after it, the effects in the order in which they happened, and an answer if it has one. -/

namespace PointerDesktop

structure Desktop extends Scene where
  config : Config
  theme : Theme
  display : Display
  mouse : Mouse
  /-- The name of the observer that sees every pointer sample, if there is one. -/
  observer : Option String := none

namespace Desktop

/-- A desktop without windows. -/
def start (config : Config) (theme : Theme) (display : Display) (heap : Heap) :
    Traced Desktop where
  state :=
    { heap := heap, config := config, theme := theme, display := display
      mouse := .ofScreen config.screen }
  effects := [.log (.desktopStarted config)]

def cursor (d : Desktop) : Point := d.mouse.position

/-- The answer that there is no such window. -/
def unknown (d : Desktop) (id : WindowId) : Outcome Desktop (Except WindowError Unit) where
  state := d
  effects := [.log (.unknownWindow id)]
  result := .error .unknownWindow

/-- Replaces a window by what `change` makes of it. -/
def update (d : Desktop) (id : WindowId) (change : Window → Except WindowError Window) :
    Outcome Desktop (Except WindowError Unit) :=
  match d.stack.find? id with
  | none => d.unknown id
  | some w =>
    match change w with
    | .error e => { state := d, result := .error e }
    | .ok w' => { state := { d with stack := d.stack.put w' }, result := .ok () }

/-! ### Windows -/

/-- Opens a visible window on top of the stack and gives it the focus, if there is memory for it. A
gesture under way loses its target then and ends. -/
def create (d : Desktop) (title : String) (size : Size) (flags : Flags) :
    Outcome Desktop (Except WindowError WindowId) :=
  let created := d.stack.create title size flags d.config d.theme.windowBackground d.heap
  let (stack, heap) := created.state
  match created.result with
  | .ok _ =>
    { created with
      state := { d with stack := stack, tracker := d.tracker.cancel, heap := heap } }
  | .error e =>
    let notice :=
      if e = .outOfMemory then .creationStarved title size else .creationRejected title e
    { created with
      state := { d with stack := stack, heap := heap }
      effects := created.effects ++ [.log notice] }

/-- Tells the window, then removes it. -/
def close (d : Desktop) (id : WindowId) : Outcome Desktop (Except WindowError Unit) :=
  match d.stack.find? id with
  | none => d.unknown id
  | some _ =>
    let told := d.stack.notify id .close
    let forgot := d.tracker.forget id
    { state := { d with stack := told.state.remove id, tracker := forgot.state }
      effects := told.effects ++ forgot.effects ++ [.log (.closed id)]
      result := .ok () }

def setPosition (d : Desktop) (id : WindowId) (x y : UInt32) :
    Outcome Desktop (Except WindowError Unit) :=
  d.update id fun w => .ok (w.moveTo x y)

/-- Resizes a window and tells it if its size has changed. A size below the window's minimum is
rejected. -/
def setSize (d : Desktop) (id : WindowId) (size : Size) :
    Outcome Desktop (Except WindowError Unit) :=
  match d.stack.find? id with
  | none => d.unknown id
  | some w =>
    if size.isEmpty || size.below w.minimum then
      { state := d
        effects := [.log (.sizeRejected id size)]
        result := .error .invalidGeometry }
    else
      match w.resize size d.heap with
      | (.error e, heap) =>
        { state := { d with heap := heap }
          effects := [.log (.resizeFailed id size e)]
          result := .error e }
      | (.ok resized, heap) =>
        let stack := d.stack.put resized
        if size = w.size then
          { state := { d with stack := stack, heap := heap }, result := .ok () }
        else
          let told := stack.notify id (.resize size)
          { state := { d with stack := told.state, heap := heap }
            effects := told.effects
            result := .ok () }

def setMinimum (d : Desktop) (id : WindowId) (size : Size) :
    Outcome Desktop (Except WindowError Unit) :=
  d.update id fun w => w.setMinimum size

def setTitle (d : Desktop) (id : WindowId) (title : String) :
    Outcome Desktop (Except WindowError Unit) :=
  match d.stack.find? id with
  | none => d.unknown id
  | some w =>
    match w.setTitle title d.heap with
    | (.error e, heap) => { state := { d with heap := heap }, result := .error e }
    | (.ok w', heap) =>
      { state := { d with stack := d.stack.put w', heap := heap }, result := .ok () }

/-- The new colour shows from the next frame on. -/
def setBackground (d : Desktop) (id : WindowId) (color : Color) :
    Outcome Desktop (Except WindowError Unit) :=
  d.update id fun w => .ok { w with background := color }

def reveal (d : Desktop) (id : WindowId) : Outcome Desktop (Except WindowError Unit) :=
  d.update id fun w => .ok (w.setVisible true)

/-- Takes a window off the screen. It loses the focus, and a gesture on it ends. -/
def hide (d : Desktop) (id : WindowId) : Outcome Desktop (Except WindowError Unit) :=
  match d.stack.find? id with
  | none => d.unknown id
  | some w =>
    let stack := d.stack.put (w.setVisible false)
    let forgot := d.tracker.forget id
    { state :=
        { d with
          stack := if stack.focused = some id then stack.unfocus else stack
          tracker := forgot.state }
      effects := forgot.effects
      result := .ok () }

/-- Raises a window and gives it the focus. A gesture on another window ends. -/
def focus (d : Desktop) (id : WindowId) : Outcome Desktop (Except WindowError Unit) :=
  match d.stack.promote id with
  | .error e =>
    { state := d, effects := [.log (.unfocusableWindow id)], result := .error e }
  | .ok stack =>
    let tracker := if d.tracker.gesture.window? = some id then d.tracker else d.tracker.cancel
    { state := { d with stack := stack, tracker := tracker }, result := .ok () }

def setSink (d : Desktop) (id : WindowId) (sink : EventSink) :
    Outcome Desktop (Except WindowError Unit) :=
  d.update id fun w => .ok { w with sinks := w.sinks.set sink }

def clearSink (d : Desktop) (id : WindowId) (kind : EventKind) :
    Outcome Desktop (Except WindowError Unit) :=
  d.update id fun w => .ok { w with sinks := w.sinks.clear kind }

/-! ### Input -/

def setObserver (d : Desktop) (observer : Option String) : Desktop :=
  { d with observer := observer }

/-- The cursor calls that a sample makes. -/
def cursorEffects (sample : Sample) : List Effect :=
  if sample.moved then
    [.display (.eraseCursor sample.previous), .display (.drawCursor sample.position)]
  else []

/-- The call of the observer that a sample makes. -/
def observerEffects (d : Desktop) (sample : Sample) : List Effect :=
  match d.observer with
  | none => []
  | some name => [.observe name sample.position sample.buttons]

/-- Moves the drawn cursor, tells the observer, and lets the windows take the sample. -/
def takeSample (d : Desktop) (sample : Sample) : Traced Desktop :=
  let stepped := d.toScene.step d.config sample.position sample.buttons
  { state := { d with toScene := stepped.state }
    effects := cursorEffects sample ++ d.observerEffects sample ++ stepped.effects }

/-- Takes one byte of the pointing device. -/
def feed (d : Desktop) (byte : UInt8) : Traced Desktop :=
  let fed := d.mouse.feed byte
  let d := { d with mouse := fed.state }
  match fed.result with
  | none => { state := d, effects := fed.effects }
  | some sample =>
    let taken := d.takeSample sample
    { state := taken.state, effects := fed.effects ++ taken.effects }

/-- Takes an absolute pointer position, which goes past the packet decoder. -/
def pointTo (d : Desktop) (p : Point) (buttons : Buttons) : Traced Desktop :=
  let previous := d.mouse.position
  let d := { d with mouse := d.mouse.warp p }
  d.takeSample ⟨d.mouse.position, buttons, previous⟩

/-- Hands a key press to the focused window. -/
def pressKey (d : Desktop) (key : UInt8) : Traced Desktop :=
  match d.stack.focused with
  | none => { state := d }
  | some id =>
    let told := d.stack.notify id (.keyPress key)
    { state := { d with stack := told.state }, effects := told.effects }

/-! ### Output -/

/-- Paints one frame. -/
def paint (d : Desktop) : Traced Desktop :=
  let painted := d.stack.paint d.display d.theme d.config d.cursor
  { state := { d with stack := painted.state }, effects := painted.effects }

/-- Takes on a new screen size. The cursor is pulled back to the screen; windows stay where they
are. -/
def setScreen (d : Desktop) (screen : Size) : Traced Desktop :=
  if screen.isEmpty then { state := d, effects := [.log (.emptyScreen screen)] }
  else
    let moved := d.mouse.setScreen screen
    { state := { d with config := { d.config with screen := screen }, mouse := moved.state }
      effects := moved.effects }

end Desktop

end PointerDesktop
