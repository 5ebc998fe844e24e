import PointerDesktop.Geometry.Rect

/-! # Window edges under the pointer

`Rect.edgesNear` says which edges a point grabs, `Rect.resized` where a rectangle goes when the
grabbed edges move. Both treat the two axes alike and independently. -/

namespace PointerDesktop

/-- A set of window edges. Bits beyond the four edges are kept and ignored. -/
structure Edges where
  bits : UInt8
deriving DecidableEq, Repr, Inhabited

namespace Edges

def none : Edges := ⟨0⟩
def left : Edges := ⟨1⟩
def right : Edges := ⟨2⟩
def top : Edges := ⟨4⟩
def bottom : Edges := ⟨8⟩

def union (e f : Edges) : Edges := ⟨e.bits ||| f.bits⟩

def isEmpty (e : Edges) : Bool := e.bits == 0

/-- Every edge of `f` is in `e`. -/
def contains (e f : Edges) : Bool := e.bits &&& f.bits == f.bits

/-- Some edge of `f` is in `e`. -/
def intersects (e f : Edges) : Bool := e.bits &&& f.bits != 0

/-- A horizontal and a vertical edge meet. -/
def isCorner (e : Edges) : Bool :=
  e.intersects (left.union right) && e.intersects (top.union bottom)

end Edges

/-- The end of the span from `lo` to `hi` that the coordinate `v` grabs, if one is within `reach`:
the nearer end, and of two equally near ones the high end. -/
def spanGrab (v lo hi : Int) (reach : Nat) (low high : Edges) : Edges :=
  let toLow := (v - lo).natAbs
  let toHigh := (v - hi).natAbs
  if toLow ≤ reach ∨ toHigh ≤ reach then
    if toLow < toHigh then low else high
  else .none

/-- The ends of a span after its low end, or else its high end, has moved by `delta`. The moving
end stops where the span would be shorter than `least`; the low end also stops at zero. -/
def movedSpan (lowMoves highMoves : Bool) (lo hi delta least : Int) : Int × Int :=
  if lowMoves then (max (min (lo + delta) (hi - least)) 0, hi)
  else if highMoves then (lo, max (hi + delta) (lo + least))
  else (lo, hi)

namespace Rect

/-- The edges of `r` that a press at `p` grabs. The point has to lie within `reach` of the
rectangle on every side. -/
def edgesNear (r : Rect) (p : Point) (reach : UInt32) : Edges :=
  let t : Int := reach.toNat
  let x := p.x.toInt
  let y := p.y.toInt
  if x < r.left - t ∨ r.right + t < x ∨ y < r.top - t ∨ r.bottom + t < y then .none
  else
    (spanGrab x r.left r.right reach.toNat .left .right).union
      (spanGrab y r.top r.bottom reach.toNat .top .bottom)

/-- `r` with the edges in `edges` moved by `(dx, dy)`, never smaller than `least` or one pixel. -/
def resized (r : Rect) (edges : Edges) (dx dy : Int) (least : Size) : Rect :=
  let h := movedSpan (edges.contains .left) (edges.contains .right) r.left r.right dx
    (max least.width.toNat 1)
  let v := movedSpan (edges.contains .top) (edges.contains .bottom) r.top r.bottom dy
    (max least.height.toNat 1)
  ofEdges h.1 v.1 h.2 v.2

end Rect

end PointerDesktop
