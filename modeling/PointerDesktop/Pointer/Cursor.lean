import PointerDesktop.Effect

/-! # The cursor

`Cursor` adds up the displacements that a pointing device reports. Its position, and the one
before that, are always pixels of the screen. -/

namespace PointerDesktop

structure Cursor where
  position : Point
  previous : Point
  /-- Width of the screen, at least 1. -/
  width : Int32
  /-- Height of the screen, at least 1. -/
  height : Int32
deriving DecidableEq, Repr, Inhabited

/-- The largest coordinate of a point. -/
def maxCoordinate : Int := 2147483647

/-- The coordinate nearest to an integer. -/
def nearestCoordinate (v : Int) : Int32 := .ofInt (max (-2147483648) (min v maxCoordinate))

/-- The point nearest to `(x, y)`. -/
def Point.nearest (x y : Int) : Point := ⟨nearestCoordinate x, nearestCoordinate y⟩

namespace Cursor

/-- The nearest side length from 1 to the largest coordinate. -/
def extent (side : UInt32) : Int32 :=
  Int32.ofInt (max 1 (min side.toNat maxCoordinate))

/-- The coordinate nearest to `v` on a side of the given length. -/
def clampTo (v : Int) (extent : Int32) : Int32 :=
  Int32.ofInt (max 0 (min v (extent.toInt - 1)))

theorem toInt_extent (side : UInt32) :
    (extent side).toInt = max 1 (min (side.toNat : Int) maxCoordinate) := by
  unfold extent maxCoordinate
  exact Int32.toInt_ofInt_of_le (by omega) (by omega)

theorem toInt_clampTo (v : Int) (extent : Int32) :
    (clampTo v extent).toInt = max 0 (min v (extent.toInt - 1)) := by
  have hlt := extent.toInt_lt
  unfold clampTo
  exact Int32.toInt_ofInt_of_le (by omega) (by omega)

/-- A cursor in the middle of the screen. -/
def ofScreen (screen : Size) : Cursor :=
  let width := extent screen.width
  let height := extent screen.height
  let centre : Point := ⟨Int32.ofInt (width.toInt / 2), Int32.ofInt (height.toInt / 2)⟩
  { position := centre, previous := centre, width := width, height := height }

/-- The pixel of the screen nearest to `(x, y)`. -/
def clamp (c : Cursor) (x y : Int) : Point :=
  ⟨clampTo x c.width, clampTo y c.height⟩

/-- Moves to the pixel nearest to `(x, y)`. -/
def moveTo (c : Cursor) (x y : Int) : Cursor :=
  { c with position := c.clamp x y, previous := c.position }

/-- Moves by `(dx, dy)`, as far as the screen reaches. The sums are taken in words, which stop at the
largest and the smallest coordinate. -/
def moveBy (c : Cursor) (dx dy : Int) : Cursor :=
  let sum := Point.nearest (c.position.x.toInt + dx) (c.position.y.toInt + dy)
  c.moveTo sum.x.toInt sum.y.toInt

/-- Takes on a new screen size and pulls both positions back to it. An empty size is ignored. -/
def setScreen (c : Cursor) (screen : Size) : Traced Cursor :=
  if screen.isEmpty then { state := c, effects := [.log (.emptyBounds screen)] }
  else
    let c := { c with width := extent screen.width, height := extent screen.height }
    { state :=
        { c with
          position := c.clamp c.position.x.toInt c.position.y.toInt
          previous := c.clamp c.previous.x.toInt c.previous.y.toInt } }

end Cursor

end PointerDesktop
