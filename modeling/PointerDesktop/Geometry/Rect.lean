import PointerDesktop.Geometry.Saturating

/-! # Points and rectangles

The screen's origin is its top-left corner, `x` grows to the right and `y` downward. Window
geometry is unsigned; pointer positions are signed, because a position taken relative to a window
may lie above it or to its left. Comparisons are between exact integers. -/

namespace PointerDesktop

/-- A pointer position, or a displacement between two. -/
structure Point where
  x : Int32
  y : Int32
deriving DecidableEq, Repr, Inhabited

structure Size where
  width : UInt32
  height : UInt32
deriving DecidableEq, Repr, Inhabited

namespace Size

/-- A side is zero. -/
def isEmpty (s : Size) : Bool :=
  s.width == 0 || s.height == 0

/-- The smaller of two sizes on each axis. -/
def min (s t : Size) : Size :=
  ⟨Min.min s.width t.width, Min.min s.height t.height⟩

/-- Narrower or lower than `t`. -/
def below (s t : Size) : Bool :=
  s.width < t.width || s.height < t.height

end Size

/-- An axis-aligned rectangle with its top-left corner at `(x, y)`. -/
structure Rect where
  x : UInt32
  y : UInt32
  width : UInt32
  height : UInt32
deriving DecidableEq, Repr, Inhabited

namespace Rect

def left (r : Rect) : Int := r.x.toNat

def top (r : Rect) : Int := r.y.toNat

/-- One past the last column. -/
def right (r : Rect) : Int := r.left + r.width.toNat

/-- One past the last row. -/
def bottom (r : Rect) : Int := r.top + r.height.toNat

def size (r : Rect) : Size := ⟨r.width, r.height⟩

def isEmpty (r : Rect) : Bool := r.size.isEmpty

/-- The rectangle of a given size at the origin. -/
def ofSize (s : Size) : Rect := ⟨0, 0, s.width, s.height⟩

/-- The right and bottom edges do not belong to the rectangle. -/
def contains (r : Rect) (p : Point) : Bool :=
  r.left ≤ p.x.toInt && p.x.toInt < r.right && r.top ≤ p.y.toInt && p.y.toInt < r.bottom

/-- Moves every edge inward; a rectangle with no room left is empty. -/
def inset (r : Rect) (left top right bottom : UInt32) : Rect where
  x := satAdd r.x left
  y := satAdd r.y top
  width := satSub r.width (satAdd left right)
  height := satSub r.height (satAdd top bottom)

/-- The rectangle with the given edges, each stored as the nearest word. -/
def ofEdges (left top right bottom : Int) : Rect where
  x := nearestWord left
  y := nearestWord top
  width := nearestWord (right - left)
  height := nearestWord (bottom - top)

/-- The common part of two rectangles, if they overlap. -/
def intersect? (r s : Rect) : Option Rect :=
  let left := max r.left s.left
  let top := max r.top s.top
  let right := min r.right s.right
  let bottom := min r.bottom s.bottom
  if right ≤ left ∨ bottom ≤ top then none else some (ofEdges left top right bottom)

end Rect

namespace Point

/-- `p` as seen from the corner `(x, y)`, reduced to a signed word on each axis. -/
def relativeTo (p : Point) (r : Rect) : Point :=
  ⟨Int32.ofInt (p.x.toInt - r.left), Int32.ofInt (p.y.toInt - r.top)⟩

/-- The screen point that `p` names when it is seen from the corner of `r`. -/
def fromCorner (p : Point) (r : Rect) : Point :=
  ⟨Int32.ofInt (p.x.toInt + r.left), Int32.ofInt (p.y.toInt + r.top)⟩

/-- Chebyshev distance. -/
def distance (p q : Point) : Nat :=
  max (p.x.toInt - q.x.toInt).natAbs (p.y.toInt - q.y.toInt).natAbs

end Point

end PointerDesktop
