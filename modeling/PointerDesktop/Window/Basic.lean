import PointerDesktop.Event.Sinks

/-! # Windows -/

namespace PointerDesktop

structure Window where
  id : WindowId
  title : String
  rect : Rect
  flags : Flags
  /-- Smallest size that a resize leaves. -/
  minimum : Size
  background : Color
  surface : Surface
  sinks : Sinks
deriving DecidableEq, Repr

namespace Window

/-- A copy of a title, if there is memory for it. -/
def copyTitle (title : String) (heap : Heap) : Except WindowError String × Heap :=
  match heap.reserve title.utf8ByteSize with
  | (true, heap) => (.ok title, heap)
  | (false, heap) => (.error .outOfMemory, heap)

/-- A visible window at the configured origin, if there is memory for it. A window smaller than the
configured minimum is its own minimum. -/
def create (id : WindowId) (title : String) (size : Size) (flags : Flags) (config : Config)
    (background : Color) (heap : Heap) : Except WindowError Window × Heap :=
  if size.isEmpty then (.error .invalidGeometry, heap)
  else
    match Surface.allocate size background heap with
    | (.error e, heap) => (.error e, heap)
    | (.ok surface, heap) =>
      match copyTitle title heap with
      | (.error e, heap) => (.error e, heap)
      | (.ok title, heap) =>
        (.ok
          { id := id
            title := title
            rect := ⟨config.originX, config.originY, size.width, size.height⟩
            flags := flags.union .visible
            minimum := config.minimum.min size
            background := background
            surface := surface
            sinks := {} },
          heap)

def size (w : Window) : Size := w.rect.size

def isVisible (w : Window) : Bool := w.flags.contains .visible

def isTitled (w : Window) : Bool := w.flags.contains .titled

def isBordered (w : Window) : Bool := w.flags.contains .bordered

def isResizable (w : Window) : Bool := w.flags.contains .resizable

def setVisible (w : Window) (visible : Bool) : Window :=
  { w with flags := if visible then w.flags.union .visible else w.flags.diff .visible }

def moveTo (w : Window) (x y : UInt32) : Window :=
  { w with rect := { w.rect with x := x, y := y } }

/-- Without memory for the new title the window keeps the one that it has. -/
def setTitle (w : Window) (title : String) (heap : Heap) : Except WindowError Window × Heap :=
  match copyTitle title heap with
  | (.error e, heap) => (.error e, heap)
  | (.ok title, heap) => (.ok { w with title := title }, heap)

/-- Gives the window a new size and a fresh surface in its background colour, if there is memory for
it. A window that has the size already keeps its pixels. -/
def resize (w : Window) (size : Size) (heap : Heap) : Except WindowError Window × Heap :=
  if size.isEmpty then (.error .invalidGeometry, heap)
  else if size = w.size then (.ok w, heap)
  else
    match Surface.allocate size w.background heap with
    | (.error e, heap) => (.error e, heap)
    | (.ok surface, heap) =>
      (.ok
        { w with
          rect := { w.rect with width := size.width, height := size.height }
          surface := surface },
        heap)

/-- Sets the smallest size, which is never above the current one. -/
def setMinimum (w : Window) (size : Size) : Except WindowError Window :=
  if size.isEmpty then .error .invalidGeometry
  else .ok { w with minimum := size.min w.size }

/-- The part of the surface inside border and title bar. Border and title bar are added as words, so
that the highest title bar of all under a border comes out as none. -/
def clientRect (w : Window) (titlebarHeight : UInt32) : Rect :=
  let border := if w.isBordered then 1 else 0
  let titlebar := if w.isTitled then titlebarHeight else 0
  (Rect.ofSize w.size).inset border (border + titlebar) border border

/-- Hands an event to the window's sink for it. -/
def notify (w : Window) (event : WindowEvent) : Outcome Window Bool :=
  let told := w.sinks.dispatch w.id event w.surface
  { state := { w with surface := told.state }, effects := told.effects, result := told.result }

end Window

end PointerDesktop
