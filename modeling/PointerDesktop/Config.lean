import PointerDesktop.Geometry.Rect

/-! # Desktop settings -/

namespace PointerDesktop

structure Config where
  screen : Size := ⟨800, 600⟩
  /-- Height of the band at the top of a titled window by which it is dragged. -/
  titlebarHeight : UInt32 := 24
  /-- How far from an edge a press still grabs it. -/
  resizeBorder : UInt32 := 5
  /-- How far the pointer travels while held before a press is no longer a click. -/
  clickThreshold : UInt32 := 3
  /-- Smallest size of a window, unless it is created smaller. -/
  minimum : Size := ⟨48, 32⟩
  /-- Where new windows appear. -/
  originX : UInt32 := 100
  originY : UInt32 := 100
deriving DecidableEq, Repr, Inhabited

/-- Width and height of the cell of one character. -/
def glyphSize : UInt32 := 8

/-- Distance of a title from the left edge of its window. -/
def titleInset : UInt32 := 8

namespace Config

/-- Asks for at least one pixel on each axis. -/
def withMinimum (c : Config) (width height : UInt32) : Config :=
  { c with minimum := ⟨if width = 0 then 1 else width, if height = 0 then 1 else height⟩ }

/-- The row at which a title starts, so that it is centred in the title bar. -/
def titleBaseline (c : Config) : UInt32 := satSub c.titlebarHeight glyphSize / 2

end Config

end PointerDesktop
