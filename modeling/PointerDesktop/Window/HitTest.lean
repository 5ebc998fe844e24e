import PointerDesktop.Geometry.Edges
import PointerDesktop.Window.Basic

/-! # What a point of the screen means to a window -/

namespace PointerDesktop

namespace Window

def contains (w : Window) (p : Point) : Bool := w.rect.contains p

/-- The screen area of the title bar, if the window has one. -/
def titlebarRect (w : Window) (titlebarHeight : UInt32) : Rect :=
  { w.rect with height := min titlebarHeight w.rect.height }

def inTitlebar (w : Window) (p : Point) (titlebarHeight : UInt32) : Bool :=
  w.isTitled && (w.titlebarRect titlebarHeight).contains p

/-- The edges by which a press at `p` resizes the window. -/
def edgesNear (w : Window) (p : Point) (reach : UInt32) : Edges :=
  if w.isVisible && w.isResizable then w.rect.edgesNear p reach else .none

/-- A screen point as seen from the window's corner. -/
def toLocal (w : Window) (p : Point) : Point := p.relativeTo w.rect

/-- A point seen from the window's corner as a screen point. -/
def toScreen (w : Window) (p : Point) : Point := p.fromCorner w.rect

end Window

end PointerDesktop
