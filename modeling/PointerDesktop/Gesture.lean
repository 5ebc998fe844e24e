import PointerDesktop.Window.HitTest

/-! # Gestures

A gesture starts with a press of the left button on the focused window's title bar or edges and
lasts as long as the button is held. It is a click until the pointer has moved `clickThreshold`
away from where it was pressed; from then on it is *engaged* and moves or resizes the window. -/

namespace PointerDesktop

structure Drag where
  window : WindowId
  /-- The press, as seen from the window's corner. -/
  grab : Point
  /-- The press on the screen. -/
  origin : Point
  engaged : Bool
deriving DecidableEq, Repr, Inhabited

structure EdgeDrag where
  window : WindowId
  edges : Edges
  /-- The press on the screen. -/
  origin : Point
  /-- The window's place at the press. -/
  originRect : Rect
  engaged : Bool
deriving DecidableEq, Repr, Inhabited

inductive Gesture where
  | idle
  | dragging (drag : Drag)
  | resizing (drag : EdgeDrag)
deriving DecidableEq, Repr, Inhabited

namespace Gesture

def isIdle : Gesture → Bool
  | idle => true
  | dragging _ | resizing _ => false

/-- The window that is dragged or resized. -/
def window? : Gesture → Option WindowId
  | idle => none
  | dragging d => some d.window
  | resizing d => some d.window

end Gesture

namespace Window

/-- The gesture that a press at `p` starts on the window, if it is visible. The title bar goes
before the edges. -/
def grab? (w : Window) (config : Config) (p : Point) : Option Gesture :=
  if !w.isVisible then none
  else if w.inTitlebar p config.titlebarHeight then
    some (.dragging { window := w.id, grab := w.toLocal p, origin := p, engaged := false })
  else
    let edges := w.edgesNear p config.resizeBorder
    if edges.isEmpty then none
    else
      some (.resizing
        { window := w.id, edges := edges, origin := p, originRect := w.rect, engaged := false })

/-- The window under a drag that has come to `p`: the grabbed point follows the pointer, but the
corner stays on the screen. -/
def dragged (w : Window) (d : Drag) (p : Point) : Window :=
  w.moveTo (nearestWord (p.x.toInt - d.grab.x.toInt)) (nearestWord (p.y.toInt - d.grab.y.toInt))

/-- Where a drag of edges that has come to `p` wants the window. -/
def resizeTarget (w : Window) (d : EdgeDrag) (p : Point) : Rect :=
  d.originRect.resized d.edges (p.x.toInt - d.origin.x.toInt) (p.y.toInt - d.origin.y.toInt)
    w.minimum

/-- What the window is told when a gesture on it ends at `p`: a gesture that never engaged was a
click, and a resize announces the final size. -/
def releaseEvent? (w : Window) (p : Point) : Gesture → Option WindowEvent
  | .idle => none
  | .dragging d => if d.engaged then none else some (.mouseButton (w.toLocal p) .left)
  | .resizing d =>
    some (if d.engaged then .resize w.size else .mouseButton (w.toLocal p) .left)

end Window

/-- The memory of the pointer between two samples. -/
structure Tracker where
  gesture : Gesture := .idle
  /-- Held at the last sample. -/
  buttons : Buttons := .none
  /-- Where the last sample was. -/
  position : Option Point := none
deriving DecidableEq, Repr, Inhabited

namespace Tracker

/-- Abandons a gesture on a window that goes away. -/
def forget (t : Tracker) (id : WindowId) : Traced Tracker :=
  if t.gesture.window? = some id then
    { state := { t with gesture := .idle }, effects := [.log (.gestureDropped id)] }
  else { state := t }

def cancel (t : Tracker) : Tracker := { t with gesture := .idle }

end Tracker

end PointerDesktop
