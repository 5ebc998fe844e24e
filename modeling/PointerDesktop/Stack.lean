import PointerDesktop.Window.HitTest

/-! # The window stack

`Stack` holds the open windows from the bottom to the top, and which of them has the focus. Ids
are given out in increasing order and never again. -/

namespace PointerDesktop

structure Stack where
  /-- From the bottom of the stack to its top. -/
  windows : List Window := []
  focused : Option WindowId := none
  nextId : UInt32 := 1
deriving DecidableEq, Repr

namespace Stack

def find? (s : Stack) (id : WindowId) : Option Window :=
  s.windows.find? (·.id == id)

def contains (s : Stack) (id : WindowId) : Bool := s.windows.any (·.id == id)

/-- Ids from the bottom of the stack to its top. -/
def ids (s : Stack) : List WindowId := s.windows.map (·.id)

def focusedWindow? (s : Stack) : Option Window := s.focused.bind s.find?

def topmost? (s : Stack) : Option WindowId := s.windows.getLast?.map (·.id)

/-- The topmost visible window over a point of the screen. -/
def topmostAt? (s : Stack) (p : Point) : Option WindowId :=
  (s.windows.reverse.find? fun w => w.isVisible && w.contains p).map (·.id)

/-- Replaces the window that has the id of `w`. -/
def put (s : Stack) (w : Window) : Stack :=
  { s with windows := s.windows.map fun v => if v.id = w.id then w else v }

/-- Takes a window out of the stack. No other window gets its focus. -/
def remove (s : Stack) (id : WindowId) : Stack :=
  { s with
    windows := s.windows.eraseP (·.id == id)
    focused := if s.focused = some id then none else s.focused }

/-- Moves a window to the top and gives it the focus. -/
def promote (s : Stack) (id : WindowId) : Except WindowError Stack :=
  match s.find? id with
  | none => .error .unknownWindow
  | some w => .ok
    { s with windows := s.windows.eraseP (·.id == id) ++ [w], focused := some id }

/-- Moves a window to the top and gives it the focus, if it is open. -/
def raise (s : Stack) (id : WindowId) : Stack :=
  match s.promote id with
  | .error _ => s
  | .ok s' => s'

def unfocus (s : Stack) : Stack := { s with focused := none }

/-- Opens a window on top of the stack and gives it the focus, if there is memory for its place and
for the window. -/
def create (s : Stack) (title : String) (size : Size) (flags : Flags) (config : Config)
    (background : Color) (heap : Heap) : Outcome (Stack × Heap) (Except WindowError WindowId) :=
  match heap.ask (.place s.windows.length) with
  | (false, heap) => { state := (s, heap), result := .error .outOfMemory }
  | (true, heap) =>
    if s.nextId.toNat = maxWord then
      { state := (s, heap), effects := [.log .idsExhausted], result := .error .outOfMemory }
    else
      let id : WindowId := ⟨s.nextId⟩
      match Window.create id title size flags config background heap with
      | (.error e, heap) => { state := (s, heap), result := .error e }
      | (.ok w, heap) =>
        { state :=
            ({ windows := s.windows ++ [w], focused := some id, nextId := s.nextId + 1 }, heap)
          effects := [.log (.created id title size)]
          result := .ok id }

/-- Hands an event to a window, if it is open. -/
def notify (s : Stack) (id : WindowId) (event : WindowEvent) : Traced Stack :=
  match s.find? id with
  | none => { state := s }
  | some w =>
    let told := w.notify event
    { state := s.put told.state, effects := told.effects }

end Stack

end PointerDesktop
