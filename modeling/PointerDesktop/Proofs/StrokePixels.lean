import PointerDesktop.Proofs.CheckedParts
import PointerDesktop.Proofs.PixelOrigins

/-!
# What strokes leave behind

A filled rectangle sets the pixels that it covers and that lie on the surface, and no others
(`Surface.pixel?_fillRect`). So each stroke gives a pixel a colour or leaves it alone
(`Surface.pixel?_stroke`), and after several strokes a pixel shows the last one that reached it
(`Surface.pixel?_paint`).
-/

namespace PointerDesktop

/-! ### Rows of pixels -/

theorem getElem?_fillSpan (c : Color) (n start : Nat) (px : Array Color) (i : Nat) :
    (fillSpan c n start px)[i]? =
      if start ≤ i ∧ i < start + n then px[i]?.map fun _ => c else px[i]? := by
  induction n generalizing start px with
  | zero =>
    rw [if_neg (by omega)]
    rfl
  | succ n ih =>
    rw [fillSpan, ih, Array.getElem?_setIfInBounds]
    by_cases hi : start = i
    · subst hi
      rw [if_neg (by omega), if_pos rfl]
      by_cases hsize : start < px.size <;> simp [hsize]
    · rw [if_neg hi]
      exact if_congr (by omega) rfl rfl

theorem getElem?_fillRows (c : Color) (stride n rows start : Nat) (px : Array Color) (i : Nat) :
    (fillRows c stride n rows start px)[i]? =
      if ∃ j < rows, start + j * stride ≤ i ∧ i < start + j * stride + n then px[i]?.map fun _ => c
      else px[i]? := by
  induction rows generalizing start px with
  | zero =>
    rw [if_neg (by simp)]
    rfl
  | succ rows ih =>
    have hrows : (∃ j < rows + 1, start + j * stride ≤ i ∧ i < start + j * stride + n) ↔
        (start ≤ i ∧ i < start + n) ∨
          ∃ j < rows, start + stride + j * stride ≤ i ∧ i < start + stride + j * stride + n := by
      simp only [Nat.exists_lt_succ_left, Nat.zero_mul, Nat.add_zero, Nat.zero_add, Nat.succ_mul,
        Nat.add_assoc, Nat.add_comm stride]
    rw [fillRows, ih, getElem?_fillSpan, if_congr hrows rfl rfl]
    by_cases hfirst : start ≤ i ∧ i < start + n
    · rw [if_pos hfirst, if_pos (Or.inl hfirst), Option.map_map]
      exact ite_self _
    · rw [if_neg hfirst]
      exact if_congr (or_iff_right hfirst).symm rfl rfl

/-- A place in a row is in no other row. Here the rows are `width` long, and of some of them the span
from column `cx` to column `cx + cw` is meant. -/
theorem exists_row_iff {width cx cw x : Nat} (cy ch y : Nat) (hx : x < width)
    (hclip : cx + cw ≤ width) :
    (∃ j < ch, cy * width + cx + j * width ≤ y * width + x ∧
        y * width + x < cy * width + cx + j * width + cw) ↔
      (cx ≤ x ∧ x < cx + cw) ∧ cy ≤ y ∧ y < cy + ch := by
  have hrow : ∀ j, cy * width + cx + j * width = (cy + j) * width + cx := fun j => by
    rw [Nat.add_mul]
    omega
  simp only [hrow]
  constructor
  · rintro ⟨j, hj, hlow, hhigh⟩
    obtain rfl : y = cy + j := by
      rcases Nat.lt_trichotomy y (cy + j) with hlt | heq | hgt
      · have hbelow := Nat.mul_le_mul_right width (Nat.succ_le_of_lt hlt)
        rw [Nat.succ_mul] at hbelow
        omega
      · exact heq
      · have habove := Nat.mul_le_mul_right width (Nat.succ_le_of_lt hgt)
        rw [Nat.succ_mul] at habove
        omega
    omega
  · rintro ⟨hcolumn, hlow, hhigh⟩
    refine ⟨y - cy, by omega, ?_⟩
    rw [Nat.add_sub_cancel' hlow]
    omega

/-! ### Rectangles -/

namespace Rect
variable {r s : Rect} {x y : Int}

/-- The rectangle has a pixel at column `x` and row `y`. -/
def Covers (r : Rect) (x y : Int) : Prop :=
  (r.left ≤ x ∧ x < r.right) ∧ r.top ≤ y ∧ y < r.bottom

instance (r : Rect) (x y : Int) : Decidable (r.Covers x y) := inferInstanceAs (Decidable (_ ∧ _))

theorem contains_iff_covers {p : Point} : r.contains p = true ↔ r.Covers p.x.toInt p.y.toInt := by
  simp only [contains, Covers, Bool.and_eq_true, decide_eq_true_eq, and_assoc]

/-- At a place of words the edges may be compared as natural numbers. -/
theorem covers_iff {x y : UInt32} :
    r.Covers x.toNat y.toNat ↔
      (r.x.toNat ≤ x.toNat ∧ x.toNat < r.x.toNat + r.width.toNat) ∧
        r.y.toNat ≤ y.toNat ∧ y.toNat < r.y.toNat + r.height.toNat := by
  simp only [Covers, left, right, top, bottom]
  omega

theorem covers_ofSize {size : Size} {x y : UInt32} :
    (ofSize size).Covers x.toNat y.toNat ↔ x < size.width ∧ y < size.height := by
  rw [covers_iff, UInt32.lt_iff_toNat_lt, UInt32.lt_iff_toNat_lt]
  simp only [ofSize, UInt32.toNat_zero]
  omega

/-- Along one axis: what is between the edges of the common part, each stored as the nearest word. -/
theorem between_common {a b c d v : Int} (hlow : 0 ≤ a) (hword : a ≤ maxWord) (hword' : c ≤ maxWord)
    (hlong : b ≤ a + maxWord) :
    ((nearestWord (max a c)).toNat ≤ v ∧
        v < (nearestWord (max a c)).toNat + (nearestWord (min b d - max a c)).toNat) ↔
      (a ≤ v ∧ v < b) ∧ c ≤ v ∧ v < d := by
  have hcorner : ((nearestWord (max a c)).toNat : Int) = max a c := by
    rw [toNat_nearestWord]
    omega
  have hspan : ((nearestWord (min b d - max a c)).toNat : Int) = max 0 (min b d - max a c) := by
    rw [toNat_nearestWord]
    omega
  rw [hcorner, hspan]
  omega

/-- The common part of two rectangles covers what both cover. -/
theorem covers_intersect? :
    (∃ clip, r.intersect? s = some clip ∧ clip.Covers x y) ↔ r.Covers x y ∧ s.Covers x y := by
  unfold intersect?
  dsimp only
  split
  · next hapart =>
    constructor
    · rintro ⟨clip, hclip, -⟩
      cases hclip
    · rintro ⟨⟨hx, hy⟩, hx', hy'⟩
      omega
  · have hword : ∀ v : UInt32, (0 : Int) ≤ v.toNat ∧ (v.toNat : Int) ≤ maxWord := fun v =>
      ⟨Int.natCast_nonneg _, Int.ofNat_le.2 (Nat.le_of_lt_succ v.toNat_lt)⟩
    have hx := between_common (b := r.right) (d := s.right) (v := x) (hword r.x).1 (hword r.x).2
      (hword s.x).2 (Int.add_le_add_left (hword r.width).2 _)
    have hy := between_common (b := r.bottom) (d := s.bottom) (v := y) (hword r.y).1 (hword r.y).2
      (hword s.y).2 (Int.add_le_add_left (hword r.height).2 _)
    simp only [Option.some.injEq, exists_eq_left']
    exact (and_congr hx hy).trans and_and_and_comm

end Rect

/-! ### Surfaces -/

namespace Surface
variable {s : Surface} {x y : UInt32}

/-- A filled rectangle sets the pixels that it covers. -/
theorem pixel?_fillRect (rect : Rect) (color : Color) (hx : x < s.size.width)
    (hy : y < s.size.height) :
    (s.fillRect rect color).pixel? x y =
      if rect.Covers x.toNat y.toNat then some color else s.pixel? x y := by
  have hcovers := Rect.covers_intersect? (r := .ofSize s.size) (s := rect) (x := x.toNat) (y := y.toNat)
  rw [and_iff_right (Rect.covers_ofSize.2 ⟨hx, hy⟩)] at hcovers
  unfold fillRect
  cases hclip : (Rect.ofSize s.size).intersect? rect with
  | none =>
    rw [hclip] at hcovers
    rw [if_neg (by simpa using hcovers.not.1)]
  | some clip =>
    obtain ⟨old, hold⟩ := Option.isSome_iff_exists.1 ((s.isSome_pixel? x y).2 ⟨hx, hy⟩)
    have hplace : s.pixels[y.toNat * s.size.width.toNat + x.toNat]? = some old := by
      rwa [pixel?, if_pos ⟨hx, hy⟩] at hold
    have hwidth := (Rect.le_of_intersect? hclip).1
    have hrow := (exists_row_iff clip.y.toNat clip.height.toNat y.toNat
      (UInt32.lt_iff_toNat_lt.1 hx) hwidth).trans Rect.covers_iff.symm
    rw [hclip] at hcovers
    rw [hold, pixel?]
    dsimp only
    rw [if_pos ⟨hx, hy⟩, getElem?_fillRows, hplace]
    exact if_congr (hrow.trans (by simpa using hcovers)) rfl rfl

/-- Filling a rectangle stops at no slice that leaves the pixels. It sets the pixels of the surface that
lie between the edges of the rectangle, also if these are past the largest word, and no others. Size and
number of pixels stay. -/
theorem fillRect_fills_overlap (s : Surface) (rect : Rect) (color : Color) :
    let filled := s.fillRect rect color
    s.fillRect? rect color = some filled ∧
      filled.size = s.size ∧
      filled.pixels.size = s.pixels.size ∧
      ∀ x y, filled.pixel? x y =
        if (x < s.size.width ∧ y < s.size.height) ∧
            (rect.x.toNat ≤ x.toNat ∧ x.toNat < rect.x.toNat + rect.width.toNat) ∧
            rect.y.toNat ≤ y.toNat ∧ y.toNat < rect.y.toNat + rect.height.toNat then some color
        else s.pixel? x y := by
  intro filled
  have hsize : filled.size = s.size := s.size_paint [.fillRect rect color]
  refine ⟨s.fillRect?_eq rect color, hsize, ?_, fun x y => ?_⟩
  · rw [filled.size_pixels, s.size_pixels, hsize]
  · by_cases hon : x < s.size.width ∧ y < s.size.height
    · rw [show filled.pixel? x y = _ from pixel?_fillRect rect color hon.1 hon.2]
      exact if_congr (Rect.covers_iff.trans (and_iff_right hon).symm) rfl rfl
    · -- there is no such pixel, neither before nor after
      rw [if_neg fun h => hon h.1]
      unfold pixel?
      rw [hsize, if_neg hon, if_neg hon]

/-- Right and bottom edge of the rectangle are past the last word. -/
example : ((filled ⟨3, 2⟩ .black).fillRect ⟨2, 1, 0xFFFFFFFF, 0xFFFFFFFF⟩ .white).pixels =
    #[.black, .black, .black, .black, .black, .white] := by
  decide

end Surface

/-! ### Strokes -/

/-- The colour that the stroke gives to the pixel at column `x` and row `y` of a surface of the given
size, if it reaches it. -/
def Stroke.ink? (size : Size) (x y : UInt32) : Stroke → Option Color
  | .fill color => some color
  | .fillRect rect color => if rect.Covers x.toNat y.toNat then some color else none
  | .setPixel index color =>
    if index = y.toNat * size.width.toNat + x.toNat then some color else none

/-- The colour of the last stroke that reaches the pixel. -/
def Stroke.top? (size : Size) (x y : UInt32) (strokes : List Stroke) : Option Color :=
  strokes.reverse.findSome? (ink? size x y)

namespace Stroke
variable {size : Size} {x y : UInt32}

@[simp] theorem top?_nil : top? size x y [] = none := rfl

theorem top?_append (strokes more : List Stroke) :
    top? size x y (strokes ++ more) = (top? size x y more).or (top? size x y strokes) := by
  unfold top?
  rw [List.reverse_append, List.findSome?_append]

theorem top?_cons (stroke : Stroke) (strokes : List Stroke) :
    top? size x y (stroke :: strokes) = (top? size x y strokes).or (stroke.ink? size x y) := by
  unfold top?
  rw [List.reverse_cons, List.findSome?_append, List.findSome?_singleton]

end Stroke

namespace Surface
variable {s : Surface} {x y : UInt32}

theorem size_stroke (s : Surface) (stroke : Stroke) : (s.stroke stroke).size = s.size :=
  s.size_paint [stroke]

/-- A stroke gives a pixel a colour or leaves it alone. -/
theorem pixel?_stroke (hx : x < s.size.width) (hy : y < s.size.height) (stroke : Stroke) :
    (s.stroke stroke).pixel? x y = (stroke.ink? s.size x y).or (s.pixel? x y) := by
  cases stroke with
  | fill color => exact pixel?_filled color hx hy
  | fillRect rect color =>
    show (s.fillRect rect color).pixel? x y = _
    rw [pixel?_fillRect rect color hx hy, Stroke.ink?]
    split <;> rfl
  | setPixel index color =>
    have hplace := place_lt hx hy
    show (s.setPixel index color).pixel? x y = _
    simp only [pixel?, setPixel, Stroke.ink?, hx, hy, and_self, if_true, Array.getElem?_setIfInBounds]
    split
    · next heq =>
      rw [heq, if_pos hplace]
      rfl
    · rfl

/-- After several strokes a pixel shows the last one that reaches it. -/
theorem pixel?_paint (hx : x < s.size.width) (hy : y < s.size.height) (strokes : List Stroke) :
    (s.paint strokes).pixel? x y = (Stroke.top? s.size x y strokes).or (s.pixel? x y) := by
  induction strokes generalizing s with
  | nil => rfl
  | cons stroke strokes ih =>
    have hsize := s.size_stroke stroke
    have hrest := ih (s := s.stroke stroke) (by rwa [hsize]) (by rwa [hsize])
    rw [hsize] at hrest
    show ((s.stroke stroke).paint strokes).pixel? x y = _
    rw [hrest, pixel?_stroke hx hy, Stroke.top?_cons, Option.or_assoc]

end Surface
end PointerDesktop
