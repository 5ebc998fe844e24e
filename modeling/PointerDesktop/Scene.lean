import PointerDesktop.Gesture
import PointerDesktop.Stack

/-! # The pointer on the window stack

`Scene.step` takes one pointer sample: it starts, continues or ends a gesture, hands out pointer
events and, while no gesture is under way, lets the focus follow the pointer. -/

namespace PointerDesktop

/-- The windows, what the pointer remembers, and the memory that windows take. -/
structure Scene where
  stack : Stack := {}
  tracker : Tracker := {}
  heap : Heap

namespace Scene

def setGesture (s : Scene) (gesture : Gesture) : Scene :=
  { s with tracker := { s.tracker with gesture := gesture } }

def notify (s : Scene) (id : WindowId) (event : WindowEvent) : Traced Scene :=
  let told := s.stack.notify id event
  { state := { s with stack := told.state }, effects := told.effects }

/-- The window under the pointer, if there is one, comes to the top and gets the focus. -/
def raiseAt (s : Scene) (p : Point) : Scene :=
  match s.stack.topmostAt? p with
  | none => s
  | some id => if s.stack.focused = some id then s else { s with stack := s.stack.raise id }

/-- The left button goes down at `p`. The focused window may be grabbed; else the press raises
the window under the pointer, or belongs to its content if it has the focus already. -/
def press (s : Scene) (config : Config) (p : Point) (buttons : Buttons) : Traced Scene :=
  match s.stack.focusedWindow?.bind (·.grab? config p) with
  | some gesture => { state := s.setGesture gesture }
  | none =>
    match s.stack.focusedWindow? with
    | none => { state := s.raiseAt p }
    | some w =>
      if s.stack.topmostAt? p = some w.id then
        s.notify w.id (.mouseButton (w.toLocal p) buttons)
      else { state := s.raiseAt p }

/-- The pointer moves with the left button up: the focused window is told, whatever other buttons
are down. -/
def hover (s : Scene) (p : Point) (buttons : Buttons) : Traced Scene :=
  match s.stack.focusedWindow? with
  | none => { state := s }
  | some w => s.notify w.id (.mouseMove (w.toLocal p) buttons)

/-- The gesture has engaged, or engages with the pointer at `p`. -/
def engages (config : Config) (engaged : Bool) (origin p : Point) : Bool :=
  engaged || config.clickThreshold.toNat ≤ p.distance origin

/-- A drag comes to `p`. -/
def dragTo (s : Scene) (config : Config) (d : Drag) (p : Point) : Traced Scene :=
  if engages config d.engaged d.origin p then
    let s := s.setGesture (.dragging { d with engaged := true })
    match s.stack.find? d.window with
    | none => { state := s.setGesture .idle }
    | some w => { state := { s with stack := s.stack.put (w.dragged d p) } }
  else { state := s }

/-- A drag of edges comes to `p`. Without memory for the size that it asks for the window stays as it
is. -/
def resizeTo (s : Scene) (config : Config) (d : EdgeDrag) (p : Point) : Traced Scene :=
  if engages config d.engaged d.origin p then
    let s := s.setGesture (.resizing { d with engaged := true })
    match s.stack.find? d.window with
    | none => { state := s.setGesture .idle }
    | some w =>
      let target := w.resizeTarget d p
      match w.resize target.size s.heap with
      | (.error e, heap) =>
        { state := { s with heap := heap }
          effects := [.log (.resizeFailed d.window target.size e)] }
      | (.ok resized, heap) =>
        let placed : Scene :=
          { s with stack := s.stack.put (resized.moveTo target.x target.y), heap := heap }
        if target.size = w.size then { state := placed }
        else placed.notify d.window (.resize target.size)
  else { state := s }

/-- The gesture ends at `p`. -/
def release (s : Scene) (p : Point) : Traced Scene :=
  let gesture := s.tracker.gesture
  let s := s.setGesture .idle
  match gesture.window?.bind s.stack.find? with
  | none => { state := s }
  | some w =>
    match w.releaseEvent? p gesture with
    | none => { state := s }
    | some event => s.notify w.id event

/-- One pointer sample, up to the point where the focus follows. -/
def act (s : Scene) (config : Config) (p : Point) (buttons : Buttons) : Traced Scene :=
  let pressed := (buttons.pressedSince s.tracker.buttons).contains .left
  let held := buttons.contains .left
  let moved := s.tracker.position != some p
  let s : Scene :=
    { s with tracker := { s.tracker with buttons := buttons, position := some p } }
  match s.tracker.gesture with
  | .idle =>
    if pressed then s.press config p buttons
    else if !held && moved then s.hover p buttons
    else { state := s }
  | .dragging d => if held then s.dragTo config d p else s.release p
  | .resizing d => if held then s.resizeTo config d p else s.release p

/-- One pointer sample at `p`. -/
def step (s : Scene) (config : Config) (p : Point) (buttons : Buttons) : Traced Scene :=
  let acted := s.act config p buttons
  if acted.state.tracker.gesture.isIdle then
    { acted with state := acted.state.raiseAt p }
  else acted

end Scene

end PointerDesktop
