import PointerDesktop.Geometry.Edges

/-!
# Which edges a point grabs, and where they go

Both rules treat the two axes alike, so each is one fact about a span of integers. A coordinate grabs
the end of the span that is nearer, if that end is in reach (`spanGrab_cases`); the end that moves
goes to the nearest place that is neither off the screen nor too close to the other end
(`spanMoves`). Main statements: `Rect.edgesNear_classifies` and
`Rect.resized_moves_grabbed`.
-/

namespace PointerDesktop

/-! ### Grabbing -/

/-- The low end of the span from `lo` to `hi` is within reach of `v`, and nearer than the high end. -/
def GrabsLow (v lo hi : Int) (reach : Nat) : Prop :=
  (v - lo).natAbs ≤ reach ∧ (v - lo).natAbs < (v - hi).natAbs

/-- The high end of the span is within reach of `v`, and no further than the low end. -/
def GrabsHigh (v lo hi : Int) (reach : Nat) : Prop :=
  (v - hi).natAbs ≤ reach ∧ (v - hi).natAbs ≤ (v - lo).natAbs

/-- The point is no further than `reach` from the rectangle, whose edges belong to it. -/
def Rect.Near (r : Rect) (reach : Nat) (p : Point) : Prop :=
  (r.left - reach ≤ p.x.toInt ∧ p.x.toInt ≤ r.right + reach) ∧
    (r.top - reach ≤ p.y.toInt ∧ p.y.toInt ≤ r.bottom + reach)

theorem Edges.isEmpty_iff {e : Edges} : e.isEmpty = true ↔ e = .none := by
  unfold isEmpty none
  rw [beq_iff_eq, mk.injEq]

theorem grabs_iff {v lo hi : Int} {reach : Nat} :
    GrabsLow v lo hi reach ∨ GrabsHigh v lo hi reach ↔
      (v - lo).natAbs ≤ reach ∨ (v - hi).natAbs ≤ reach := by
  unfold GrabsLow GrabsHigh
  omega

/-- What a coordinate grabs of a span. -/
theorem spanGrab_cases (v lo hi : Int) (reach : Nat) (low high : Edges) :
    (GrabsLow v lo hi reach ∧ ¬ GrabsHigh v lo hi reach ∧
        spanGrab v lo hi reach low high = low) ∨
      (¬ GrabsLow v lo hi reach ∧ GrabsHigh v lo hi reach ∧
        spanGrab v lo hi reach low high = high) ∨
      (¬ GrabsLow v lo hi reach ∧ ¬ GrabsHigh v lo hi reach ∧
        spanGrab v lo hi reach low high = .none) := by
  unfold spanGrab GrabsLow GrabsHigh
  dsimp only
  split
  · split
    · exact .inl ⟨by omega, by omega, rfl⟩
    · exact .inr (.inl ⟨by omega, by omega, rfl⟩)
  · exact .inr (.inr ⟨by omega, by omega, rfl⟩)

/-- What two coordinates grab of a horizontal and of a vertical span. -/
theorem contains_spanGrabs (v lo hi u lo' hi' : Int) (reach : Nat) :
    let e := (spanGrab v lo hi reach .left .right).union (spanGrab u lo' hi' reach .top .bottom)
    (e.contains .left = true ↔ GrabsLow v lo hi reach) ∧
      (e.contains .right = true ↔ GrabsHigh v lo hi reach) ∧
      (e.contains .top = true ↔ GrabsLow u lo' hi' reach) ∧
      (e.contains .bottom = true ↔ GrabsHigh u lo' hi' reach) ∧
      (e.isEmpty = false ↔ (GrabsLow v lo hi reach ∨ GrabsHigh v lo hi reach) ∨
        (GrabsLow u lo' hi' reach ∨ GrabsHigh u lo' hi' reach)) := by
  intro e
  rcases spanGrab_cases v lo hi reach .left .right with
      ⟨hlow, hhigh, hx⟩ | ⟨hlow, hhigh, hx⟩ | ⟨hlow, hhigh, hx⟩ <;>
    rcases spanGrab_cases u lo' hi' reach .top .bottom with
      ⟨hlow', hhigh', hy⟩ | ⟨hlow', hhigh', hy⟩ | ⟨hlow', hhigh', hy⟩ <;>
    simp only [e, hx, hy, hlow, hhigh, hlow', hhigh'] <;> decide

namespace Rect
variable {r : Rect} {p : Point} {reach : UInt32}

theorem edgesNear_of_near (h : r.Near reach.toNat p) :
    r.edgesNear p reach =
      (spanGrab p.x.toInt r.left r.right reach.toNat .left .right).union
        (spanGrab p.y.toInt r.top r.bottom reach.toNat .top .bottom) := by
  unfold Near at h
  unfold edgesNear
  exact if_neg (by omega)

theorem edgesNear_of_not_near (h : ¬ r.Near reach.toNat p) : r.edgesNear p reach = .none := by
  unfold Near at h
  unfold edgesNear
  exact if_pos (by omega)

theorem near_of_edgesNear (h : (r.edgesNear p reach).isEmpty = false) : r.Near reach.toNat p := by
  by_cases hnear : r.Near reach.toNat p
  · exact hnear
  · rw [edgesNear_of_not_near hnear] at h
    cases h

theorem edgesNear_not_opposite (r : Rect) (p : Point) (reach : UInt32) :
    ¬ ((r.edgesNear p reach).contains .left = true ∧ (r.edgesNear p reach).contains .right = true) ∧
      ¬ ((r.edgesNear p reach).contains .top = true ∧
        (r.edgesNear p reach).contains .bottom = true) := by
  by_cases hnear : r.Near reach.toNat p
  · obtain ⟨hleft, hright, htop, hbottom, -⟩ :=
      contains_spanGrabs p.x.toInt r.left r.right p.y.toInt r.top r.bottom reach.toNat
    rw [edgesNear_of_near hnear, hleft, hright, htop, hbottom]
    unfold GrabsLow GrabsHigh
    omega
  · rw [edgesNear_of_not_near hnear]
    decide

/-- A point further than `reach` from the rectangle grabs nothing. Any other point grabs on each axis
the nearer edge, if that one is within reach, and of two equally near ones the right or the bottom
edge. So it never grabs two opposite edges, and it grabs some edge exactly if it is within reach of
the line through one. -/
theorem edgesNear_classifies (r : Rect) (p : Point) (reach : UInt32) :
    let e := r.edgesNear p reach
    let t := reach.toNat
    let x := p.x.toInt
    let y := p.y.toInt
    (¬ r.Near t p → e = .none) ∧
    (r.Near t p →
      (e.contains .left = true ↔ GrabsLow x r.left r.right t) ∧
      (e.contains .right = true ↔ GrabsHigh x r.left r.right t) ∧
      (e.contains .top = true ↔ GrabsLow y r.top r.bottom t) ∧
      (e.contains .bottom = true ↔ GrabsHigh y r.top r.bottom t)) ∧
    ¬ (e.contains .left = true ∧ e.contains .right = true) ∧
    ¬ (e.contains .top = true ∧ e.contains .bottom = true) ∧
    (e.isEmpty = false ↔ r.Near t p ∧
      ((x - r.left).natAbs ≤ t ∨ (x - r.right).natAbs ≤ t ∨
        (y - r.top).natAbs ≤ t ∨ (y - r.bottom).natAbs ≤ t)) ∧
    (r.contains p = true → t < (x - r.left).natAbs → t < (x - r.right).natAbs →
      t < (y - r.top).natAbs → t < (y - r.bottom).natAbs → e = .none) := by
  intro e t x y
  obtain ⟨hhorizontal, hvertical⟩ := r.edgesNear_not_opposite p reach
  by_cases hnear : r.Near t p
  · have he : e = _ := edgesNear_of_near hnear
    obtain ⟨hleft, hright, htop, hbottom, hempty⟩ :=
      contains_spanGrabs x r.left r.right y r.top r.bottom t
    rw [← he] at hleft hright htop hbottom hempty
    have hsome : e.isEmpty = false ↔ (x - r.left).natAbs ≤ t ∨ (x - r.right).natAbs ≤ t ∨
        (y - r.top).natAbs ≤ t ∨ (y - r.bottom).natAbs ≤ t := by
      rw [hempty, grabs_iff, grabs_iff, or_assoc]
    refine ⟨fun h => absurd hnear h, fun _ => ⟨hleft, hright, htop, hbottom⟩, hhorizontal,
      hvertical, by rw [hsome, and_iff_right hnear], ?_⟩
    intro _ hx hx' hy hy'
    refine Edges.isEmpty_iff.1 ?_
    rw [← Bool.not_eq_false, hsome]
    omega
  · have he : e = .none := edgesNear_of_not_near hnear
    refine ⟨fun _ => he, fun h => absurd h hnear, hhorizontal, hvertical, ?_, fun _ _ _ _ _ => he⟩
    exact ⟨fun h => absurd (near_of_edgesNear h) hnear, fun h => absurd h.1 hnear⟩

end Rect

/-! ### Moving -/

theorem Size.isEmpty_eq_false {s : Size} :
    s.isEmpty = false ↔ 0 < s.width.toNat ∧ 0 < s.height.toNat := by
  unfold isEmpty
  simp only [Bool.or_eq_false_iff, beq_eq_false_iff_ne, ne_eq, ← UInt32.toNat_inj, UInt32.toNat_zero]
  omega

section
variable {lowMoves highMoves : Bool} {lo hi delta least : Int}

theorem movedSpan_lt (hlo : 0 ≤ lo) (hhi : lo < hi) (hleast : 1 ≤ least) :
    (movedSpan lowMoves highMoves lo hi delta least).1 <
      (movedSpan lowMoves highMoves lo hi delta least).2 := by
  unfold movedSpan
  split
  · dsimp only
    omega
  split
  · dsimp only
    omega
  · exact hhi

theorem movedSpan_zero (hlo : 0 ≤ lo) (hleast : least ≤ hi - lo) :
    movedSpan lowMoves highMoves lo hi 0 least = (lo, hi) := by
  unfold movedSpan
  split
  · rw [Prod.mk.injEq]
    omega
  split
  · rw [Prod.mk.injEq]
    omega
  · rfl

/-- The span from `lo` of length `len` becomes the one from `lo'` of length `len'`, where its low end,
or else its high end, is to move by `delta`. The low end goes to the place nearest to that between zero
and the last one that leaves a length of `least`; the length that the high end leaves is at least
`least`, and stops at the largest word. -/
structure SpanMoves (low high : Bool) (lo len delta least lo' len' : Int) : Prop where
  of_low : low = true →
    lo' = max 0 (min (lo + delta) (lo + len - least)) ∧ lo' + len' = lo + len
  of_high : high = true → lo' = lo ∧ len' = min (max (len + delta) least) maxWord
  of_neither : low = false → high = false → lo' = lo ∧ len' = len

/-- The ends of a moved span are words, but for a length that the high end may leave. -/
theorem toNat_movedSpan (hlo : 0 ≤ lo) (hhi : hi ≤ maxWord) (hleast : 0 ≤ least)
    (hroom : least ≤ hi - lo) :
    let ends := movedSpan lowMoves highMoves lo hi delta least
    ((nearestWord ends.1).toNat : Int) = ends.1 ∧
      ((nearestWord (ends.2 - ends.1)).toNat : Int) = min (ends.2 - ends.1) maxWord ∧
      (highMoves = false → ends.2 - ends.1 ≤ maxWord) := by
  intro ends
  rw [toNat_nearestWord, toNat_nearestWord]
  unfold maxWord at *
  cases lowMoves <;> cases highMoves <;> simp [ends, movedSpan] <;> omega

/-- Ends that are not opposite move as they are to. -/
theorem spanMoves {start length : UInt32} (hfits : start.toNat + length.toNat ≤ maxWord)
    (hopposite : ¬ (lowMoves = true ∧ highMoves = true)) (hleast : 0 ≤ least)
    (hroom : least ≤ length.toNat) (delta : Int) :
    let ends := movedSpan lowMoves highMoves start.toNat (start.toNat + length.toNat) delta least
    SpanMoves lowMoves highMoves start.toNat length.toNat delta least
      (nearestWord ends.1).toNat (nearestWord (ends.2 - ends.1)).toNat := by
  intro ends
  obtain ⟨hstart, hlength, hword⟩ :
      ((nearestWord ends.1).toNat : Int) = ends.1 ∧
        ((nearestWord (ends.2 - ends.1)).toNat : Int) = min (ends.2 - ends.1) maxWord ∧
        (highMoves = false → ends.2 - ends.1 ≤ maxWord) :=
    toNat_movedSpan (by omega) (by omega) hleast (by omega)
  rw [hstart, hlength]
  refine ⟨fun hlow => ?_, fun hhigh => ?_, fun hlow hhigh => ?_⟩
  · have hhigh : highMoves = false := by simpa [hlow] using hopposite
    have hle := hword hhigh
    simp only [ends, hlow, hhigh, movedSpan, if_true] at hle ⊢
    omega
  · have hlow : lowMoves = false := by simpa [hhigh] using hopposite
    simp only [ends, hlow, hhigh, movedSpan, if_true, Bool.false_eq_true, if_false, true_and]
    omega
  · simp only [ends, hlow, hhigh, movedSpan, Bool.false_eq_true, if_false, true_and]
    omega

theorem SpanMoves.least_le {low high : Bool} {len lo' len' : Int}
    (h : SpanMoves low high lo len delta least lo' len') (hlo : 0 ≤ lo) (hlen : least ≤ len)
    (hword : len ≤ maxWord) : least ≤ len' := by
  cases hlow : low with
  | true =>
    obtain ⟨hlo', hlen'⟩ := h.of_low hlow
    omega
  | false =>
    cases hhigh : high with
    | true =>
      obtain ⟨-, hlen'⟩ := h.of_high hhigh
      omega
    | false =>
      obtain ⟨-, hlen'⟩ := h.of_neither hlow hhigh
      omega

end

namespace Rect
variable {r : Rect} {least : Size}

theorem lt_of_nonempty (h : r.size.isEmpty = false) : r.left < r.right ∧ r.top < r.bottom := by
  obtain ⟨hw, hh⟩ := Size.isEmpty_eq_false.1 h
  have hw : 0 < r.width.toNat := hw
  have hh : 0 < r.height.toNat := hh
  unfold right bottom
  omega

/-- Moving its edges leaves a rectangle with at least one pixel. -/
theorem resized_nonempty (h : r.size.isEmpty = false) (edges : Edges) (dx dy : Int) (least : Size) :
    (r.resized edges dx dy least).size.isEmpty = false := by
  have hword : ∀ i j : Int, i < j → 0 < (nearestWord (j - i)).toNat := by
    intro i j hij
    rw [toNat_nearestWord]
    unfold maxWord
    omega
  obtain ⟨hx, hy⟩ := lt_of_nonempty h
  rw [Size.isEmpty_eq_false]
  exact ⟨hword _ _ (movedSpan_lt (Int.natCast_nonneg _) hx (by omega)),
    hword _ _ (movedSpan_lt (Int.natCast_nonneg _) hy (by omega))⟩

/-- Edges that do not move leave a rectangle as it is, if it is as large as it has to be. -/
theorem resized_zero (h : r.size.isEmpty = false) (edges : Edges)
    (hw : least.width ≤ r.width) (hh : least.height ≤ r.height) : r.resized edges 0 0 least = r := by
  obtain ⟨hx, hy⟩ := lt_of_nonempty h
  rw [UInt32.le_iff_toNat_le] at hw hh
  have hspan : ∀ a b : UInt32, ((a.toNat : Int) + b.toNat) - a.toNat = b.toNat := by
    intro a b
    omega
  unfold right left at hx
  unfold bottom top at hy
  unfold resized right bottom left top
  rw [movedSpan_zero (Int.natCast_nonneg _) (by omega),
    movedSpan_zero (Int.natCast_nonneg _) (by omega)]
  unfold ofEdges
  simp only [hspan, nearestWord_toNat]

/-- Where a rectangle goes along the horizontal axis depends on nothing of the other one. -/
theorem resized_horizontal {s : Rect} {e f : Edges} {least' : Size} (hx : s.x = r.x)
    (hwidth : s.width = r.width) (hleft : f.contains .left = e.contains .left)
    (hright : f.contains .right = e.contains .right) (hleast : least'.width = least.width)
    (dx dy dy' : Int) :
    (s.resized f dx dy' least').x = (r.resized e dx dy least).x ∧
      (s.resized f dx dy' least').width = (r.resized e dx dy least).width := by
  unfold resized right left
  rw [hx, hwidth, hleft, hright, hleast]
  exact ⟨rfl, rfl⟩

theorem resized_vertical {s : Rect} {e f : Edges} {least' : Size} (hy : s.y = r.y)
    (hheight : s.height = r.height) (htop : f.contains .top = e.contains .top)
    (hbottom : f.contains .bottom = e.contains .bottom) (hleast : least'.height = least.height)
    (dx dx' dy : Int) :
    (s.resized f dx' dy least').y = (r.resized e dx dy least).y ∧
      (s.resized f dx' dy least').height = (r.resized e dx dy least).height := by
  unfold resized bottom top
  rw [hy, hheight, htop, hbottom, hleast]
  exact ⟨rfl, rfl⟩

/-- The grabbed edges of a rectangle that ends within the words, and is as large as it has to be, go to
the nearest place that they may take, and the others stay. What happens along one axis depends on nothing
of the other. The result is as large as it has to be; edges that are not moved leave the rectangle as it
is; and the words of the result are the exact numbers, but for a width or height that the right or the
lower edge takes beyond the largest word. -/
theorem resized_moves_grabbed {e : Edges} (hright : r.right ≤ maxWord) (hbottom : r.bottom ≤ maxWord)
    (hhorizontal : ¬ (e.contains .left = true ∧ e.contains .right = true))
    (hvertical : ¬ (e.contains .top = true ∧ e.contains .bottom = true))
    (hwidth : max least.width.toNat 1 ≤ r.width.toNat)
    (hheight : max least.height.toNat 1 ≤ r.height.toNat) (dx dy : Int) :
    let r' := r.resized e dx dy least
    let leastWidth : Int := max least.width.toNat 1
    let leastHeight : Int := max least.height.toNat 1
    let h := movedSpan (e.contains .left) (e.contains .right) r.left r.right dx leastWidth
    let v := movedSpan (e.contains .top) (e.contains .bottom) r.top r.bottom dy leastHeight
    SpanMoves (e.contains .left) (e.contains .right) r.left r.width.toNat dx leastWidth
      r'.left r'.width.toNat ∧
    SpanMoves (e.contains .top) (e.contains .bottom) r.top r.height.toNat dy leastHeight
      r'.top r'.height.toNat ∧
    (∀ (s : Rect) (f : Edges) (least' : Size) (dy' : Int), s.x = r.x → s.width = r.width →
      f.contains .left = e.contains .left → f.contains .right = e.contains .right →
      least'.width = least.width →
      (s.resized f dx dy' least').x = r'.x ∧ (s.resized f dx dy' least').width = r'.width) ∧
    (∀ (s : Rect) (f : Edges) (least' : Size) (dx' : Int), s.y = r.y → s.height = r.height →
      f.contains .top = e.contains .top → f.contains .bottom = e.contains .bottom →
      least'.height = least.height →
      (s.resized f dx' dy least').y = r'.y ∧ (s.resized f dx' dy least').height = r'.height) ∧
    (leastWidth ≤ r'.width.toNat ∧ leastHeight ≤ r'.height.toNat) ∧
    r.resized e 0 0 least = r ∧
    (r'.left = h.1 ∧ r'.width.toNat = min (h.2 - h.1) maxWord ∧
      (e.contains .right = false → r'.right = h.2)) ∧
    (r'.top = v.1 ∧ r'.height.toNat = min (v.2 - v.1) maxWord ∧
      (e.contains .bottom = false → r'.bottom = v.2)) := by
  intro r' leastWidth leastHeight h v
  have hfitsx : r.x.toNat + r.width.toNat ≤ maxWord := by
    unfold right left at hright
    omega
  have hfitsy : r.y.toNat + r.height.toNat ≤ maxWord := by
    unfold bottom top at hbottom
    omega
  have hleastx : 0 ≤ leastWidth := by omega
  have hleasty : 0 ≤ leastHeight := by omega
  have hx : SpanMoves _ _ _ _ _ _ r'.left r'.width.toNat :=
    spanMoves hfitsx hhorizontal hleastx (by omega) dx
  have hy : SpanMoves _ _ _ _ _ _ r'.top r'.height.toNat :=
    spanMoves hfitsy hvertical hleasty (by omega) dy
  have hsize : r.size.isEmpty = false := by
    rw [Size.isEmpty_eq_false]
    show 0 < r.width.toNat ∧ 0 < r.height.toNat
    omega
  refine ⟨hx, hy, fun s f least' dy' h₁ h₂ h₃ h₄ h₅ => resized_horizontal h₁ h₂ h₃ h₄ h₅ dx dy dy',
    fun s f least' dx' h₁ h₂ h₃ h₄ h₅ => resized_vertical h₁ h₂ h₃ h₄ h₅ dx dx' dy,
    ⟨hx.least_le (by omega) (by omega) (by omega), hy.least_le (by omega) (by omega) (by omega)⟩,
    resized_zero hsize e ?_ ?_, ?_, ?_⟩
  · rw [UInt32.le_iff_toNat_le]
    omega
  · rw [UInt32.le_iff_toNat_le]
    omega
  · have hends : r'.left = h.1 ∧ r'.width.toNat = min (h.2 - h.1) maxWord ∧
        (e.contains .right = false → h.2 - h.1 ≤ maxWord) :=
      toNat_movedSpan (Int.natCast_nonneg _) hright (by omega) (by unfold right; omega)
    unfold right
    exact ⟨hends.1, hends.2.1, fun hfree => by have := hends.2.2 hfree; omega⟩
  · have hends : r'.top = v.1 ∧ r'.height.toNat = min (v.2 - v.1) maxWord ∧
        (e.contains .bottom = false → v.2 - v.1 ≤ maxWord) :=
      toNat_movedSpan (Int.natCast_nonneg _) hbottom (by omega) (by unfold bottom; omega)
    unfold bottom
    exact ⟨hends.1, hends.2.1, fun hfree => by have := hends.2.2 hfree; omega⟩

/-- The left edge is pulled off the screen, and the lower one to above the upper one. -/
theorem resized_moves_grabbed_corner :
    let r : Rect := ⟨100, 100, 200, 100⟩
    let e := Edges.left.union .bottom
    let least : Size := ⟨48, 32⟩
    let r' := r.resized e (-500) (-500) least
    r.right ≤ maxWord ∧ r.bottom ≤ maxWord ∧
      ¬ (e.contains .left = true ∧ e.contains .right = true) ∧
      ¬ (e.contains .top = true ∧ e.contains .bottom = true) ∧
      max least.width.toNat 1 ≤ r.width.toNat ∧ max least.height.toNat 1 ≤ r.height.toNat ∧
      r'.left = 0 ∧ r'.right = r.right ∧ r'.top = r.top ∧ r'.height.toNat = 32 := by
  intro r e least r'
  have hright : r.right ≤ maxWord := by decide
  have hbottom : r.bottom ≤ maxWord := by decide
  have hhorizontal : ¬ (e.contains .left = true ∧ e.contains .right = true) := by decide
  have hvertical : ¬ (e.contains .top = true ∧ e.contains .bottom = true) := by decide
  have hwidth : max least.width.toNat 1 ≤ r.width.toNat := by decide
  have hheight : max least.height.toNat 1 ≤ r.height.toNat := by decide
  obtain ⟨hx, hy, -⟩ :=
    resized_moves_grabbed hright hbottom hhorizontal hvertical hwidth hheight (-500) (-500)
  obtain ⟨hleft, hkept⟩ := hx.of_low (by decide)
  obtain ⟨htop, hlength⟩ := hy.of_high (by decide)
  have hzero : r'.left = 0 := hleft.trans (by decide +kernel)
  have hleast : (r'.height.toNat : Int) = 32 := hlength.trans (by decide +kernel)
  exact ⟨hright, hbottom, hhorizontal, hvertical, hwidth, hheight, hzero, hkept, htop, by omega⟩

end Rect

end PointerDesktop
