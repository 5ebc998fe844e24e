import PointerDesktop.Color
import PointerDesktop.Error
import PointerDesktop.Geometry.Rect
import PointerDesktop.Heap

/-! # Pixel surfaces

A `Surface` holds the pixels of one window, row by row from the top. Everything that paints on it
does so by `Stroke`s, and strokes never reach outside the surface or change its size. -/

namespace PointerDesktop

/-- `px` with the `n` pixels from `start` on set to `c`. -/
def fillSpan (c : Color) : (n start : Nat) → (px : Array Color) → Array Color
  | 0, _, px => px
  | n + 1, start, px => fillSpan c n (start + 1) (px.setIfInBounds start c)

/-- `px` with `rows` spans of length `n` set to `c`, the first at `start` and each `stride` pixels
after the one before. -/
def fillRows (c : Color) (stride n : Nat) :
    (rows start : Nat) → (px : Array Color) → Array Color
  | 0, _, px => px
  | rows + 1, start, px => fillRows c stride n rows (start + stride) (fillSpan c n start px)

@[simp] theorem size_fillSpan (c : Color) (n start : Nat) (px : Array Color) :
    (fillSpan c n start px).size = px.size := by
  induction n generalizing start px with
  | zero => rfl
  | succ n ih => simp [fillSpan, ih]

@[simp] theorem size_fillRows (c : Color) (stride n rows start : Nat) (px : Array Color) :
    (fillRows c stride n rows start px).size = px.size := by
  induction rows generalizing start px with
  | zero => rfl
  | succ rows ih => simp [fillRows, ih]

structure Surface where
  size : Size
  pixels : Array Color
  size_pixels : pixels.size = size.width.toNat * size.height.toNat
deriving DecidableEq, Repr

/-- One painting operation. -/
inductive Stroke where
  | fill (color : Color)
  /-- Fills the part of `rect` that lies on the surface. -/
  | fillRect (rect : Rect) (color : Color)
  /-- Sets one pixel by its place in row order; a place past the end is ignored. -/
  | setPixel (index : Nat) (color : Color)
deriving DecidableEq, Repr

namespace Surface

instance : Inhabited Surface := ⟨⟨⟨0, 0⟩, #[], rfl⟩⟩

def bytesPerPixel : Nat := 4

/-- A surface of the given size and one colour, whether or not it could be allocated. -/
def filled (size : Size) (color : Color) : Surface where
  size := size
  pixels := Array.replicate (size.width.toNat * size.height.toNat) color
  size_pixels := by simp

/-- Bytes that the pixels of a surface take. -/
def byteCount (size : Size) : Nat := bytesPerPixel * (size.width.toNat * size.height.toNat)

/-- A new surface of the given size and colour, if there is memory for its pixels. -/
def allocate (size : Size) (color : Color) (heap : Heap) : Except WindowError Surface × Heap :=
  match heap.reserve (byteCount size) with
  | (true, heap) => (.ok (filled size color), heap)
  | (false, heap) => (.error .outOfMemory, heap)

/-- The colour at column `x` and row `y`, if that is on the surface. -/
def pixel? (s : Surface) (x y : UInt32) : Option Color :=
  if x < s.size.width ∧ y < s.size.height then
    s.pixels[y.toNat * s.size.width.toNat + x.toNat]?
  else none

def fill (s : Surface) (color : Color) : Surface := filled s.size color

def fillRect (s : Surface) (rect : Rect) (color : Color) : Surface :=
  match (Rect.ofSize s.size).intersect? rect with
  | none => s
  | some clip =>
    { s with
      pixels := fillRows color s.size.width.toNat clip.width.toNat clip.height.toNat
        (clip.y.toNat * s.size.width.toNat + clip.x.toNat) s.pixels
      size_pixels := by simp [s.size_pixels] }

def setPixel (s : Surface) (index : Nat) (color : Color) : Surface where
  size := s.size
  pixels := s.pixels.setIfInBounds index color
  size_pixels := by simp [s.size_pixels]

def stroke (s : Surface) : Stroke → Surface
  | .fill color => s.fill color
  | .fillRect rect color => s.fillRect rect color
  | .setPixel index color => s.setPixel index color

/-- Applies strokes from the first to the last. -/
def paint (s : Surface) (strokes : List Stroke) : Surface :=
  strokes.foldl stroke s

end Surface

end PointerDesktop
