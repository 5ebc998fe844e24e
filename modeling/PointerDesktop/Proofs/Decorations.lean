import PointerDesktop.Proofs.StrokePixels

/-!
# The picture that decorations make

A decorated window shows its rim over its title over its title bar over its background
(`Window.layered`), each in one colour. The strokes of each layer are taken apart on their own
(`Display.top?_glyphs`, `Window.top?_titlebar`, `Window.top?_border`), and the last layer that reaches
a pixel shows (`Window.pixel?_decorate`). Main statement: `Window.decorated_layers`.
-/

namespace PointerDesktop

/-- Column `x` is in the block of a character that is no blank, when the characters stand in the cells
from cell `n` on. -/
def Inked (cs : List Char) (n x : Nat) : Prop :=
  ∃ k, ∃ _ : k < cs.length, cs[k] ≠ ' ' ∧ 9 + 8 * (n + k) ≤ x ∧ x ≤ 14 + 8 * (n + k)

instance (cs : List Char) (n x : Nat) : Decidable (Inked cs n x) :=
  inferInstanceAs (Decidable (∃ k, ∃ _ : k < cs.length, _))

theorem not_inked_nil (n x : Nat) : ¬ Inked [] n x := by simp [Inked]

theorem inked_cons {c : Char} {cs : List Char} {n x : Nat} :
    Inked (c :: cs) n x ↔ (c ≠ ' ' ∧ 9 + 8 * n ≤ x ∧ x ≤ 14 + 8 * n) ∨ Inked cs (n + 1) x := by
  have hcell : ∀ k, n + (k + 1) = n + 1 + k := fun k => by omega
  unfold Inked
  constructor
  · rintro ⟨k, hk, hc, hx⟩
    cases k with
    | zero => exact .inl ⟨hc, hx⟩
    | succ k => exact .inr ⟨k, Nat.lt_of_succ_lt_succ hk, hc, hcell k ▸ hx⟩
  · rintro (⟨hc, hx⟩ | ⟨k, hk, hc, hx⟩)
    · exact ⟨0, Nat.zero_lt_succ _, hc, hx⟩
    · exact ⟨k + 1, Nat.succ_lt_succ hk, hc, (hcell k).symm ▸ hx⟩

namespace Window

/-- The pixel is one of the outermost of the window. -/
def OnRim (w : Window) (x y : UInt32) : Prop :=
  x = 0 ∨ y = 0 ∨ x.toNat + 1 = w.size.width.toNat ∨ y.toNat + 1 = w.size.height.toNat

instance (w : Window) (x y : UInt32) : Decidable (w.OnRim x y) :=
  inferInstanceAs (Decidable (_ ∨ _))

/-- The pixel is in the block of a character of the title that is no blank. -/
def OnTitle (w : Window) (config : Config) (x y : UInt32) : Prop :=
  Inked w.title.toList 0 x.toNat ∧
    config.titleBaseline.toNat + 1 ≤ y.toNat ∧ y.toNat ≤ config.titleBaseline.toNat + 6

instance (w : Window) (config : Config) (x y : UInt32) : Decidable (w.OnTitle config x y) :=
  inferInstanceAs (Decidable (_ ∧ _))

/-- What is seen of the decorated window. -/
def layered (w : Window) (theme : Theme) (config : Config) (focused : Bool) (x y : UInt32) : Color :=
  if w.isBordered = true ∧ w.OnRim x y then theme.border
  else if w.isTitled = true ∧ w.OnTitle config x y then theme.textPrimary
  else if w.isTitled = true ∧ y < config.titlebarHeight then theme.titlebarFor focused
  else w.background

end Window

/-! ### Layers -/

/-- Of two things in one colour it does not matter which one shows. -/
theorem ite_or_ite {p q : Prop} [Decidable p] [Decidable q] (color : Color) :
    (if p then some color else none).or (if q then some color else none) =
      if p ∨ q then some color else none := by
  by_cases p <;> by_cases q <;> simp [*]

theorem Color.exists_ne (c : Color) : ∃ other : Color, other ≠ c := by
  by_cases h : c = .black
  · exact ⟨.white, by rw [h]; decide⟩
  · exact ⟨.black, Ne.symm h⟩

theorem Config.toNat_titleBaseline (c : Config) :
    c.titleBaseline.toNat = (c.titlebarHeight.toNat - 8) / 2 := by
  unfold titleBaseline
  rw [UInt32.toNat_div, toNat_satSub]
  rfl

theorem Config.titleBaseline_lt (c : Config) : c.titleBaseline.toNat < 2147483648 := by
  have hlt := c.titlebarHeight.toNat_lt
  rw [toNat_titleBaseline]
  omega

namespace Display
variable {size : Size} {x y : UInt32}

/-- The block of the character in cell `n`. -/
theorem covers_glyph {baseline start : UInt32} {n : Nat} (hx : x < size.width)
    (hbaseline : baseline.toNat < 2147483648) (hstart : start.toNat = min (8 + 8 * n) maxWord) :
    Rect.Covers ⟨satAdd start 1, satAdd baseline 1, glyphSize - 2, glyphSize - 2⟩ x.toNat y.toNat ↔
      (9 + 8 * n ≤ x.toNat ∧ x.toNat ≤ 14 + 8 * n) ∧
        baseline.toNat + 1 ≤ y.toNat ∧ y.toNat ≤ baseline.toNat + 6 := by
  have hlt := size.width.toNat_lt
  have hblock : (glyphSize - 2).toNat = 6 := rfl
  rw [UInt32.lt_iff_toNat_lt] at hx
  simp only [Rect.covers_iff, toNat_satAdd, hblock, hstart, UInt32.toNat_one, maxWord]
  omega

/-- The characters that stand in the cells from cell `n` on. -/
theorem top?_glyphs {baseline : UInt32} (color : Color) (hx : x < size.width)
    (hbaseline : baseline.toNat < 2147483648) (cs : List Char) {start : UInt32} {n : Nat}
    (hstart : start.toNat = min (8 + 8 * n) maxWord) :
    Stroke.top? size x y (glyphs baseline color cs start) =
      if Inked cs n x.toNat ∧ baseline.toNat + 1 ≤ y.toNat ∧ y.toNat ≤ baseline.toNat + 6 then
        some color
      else none := by
  induction cs generalizing start n with
  | nil => simp [glyphs, not_inked_nil]
  | cons c cs ih =>
    have hnext : (satAdd start glyphSize).toNat = min (8 + 8 * (n + 1)) maxWord := by
      rw [toNat_satAdd, hstart]
      show min (min (8 + 8 * n) maxWord + 8) maxWord = _
      omega
    have hrest := ih hnext
    have hblock := covers_glyph (y := y) hx hbaseline hstart
    rw [glyphs]
    by_cases hc : c = ' '
    · rw [if_pos hc, hrest]
      exact if_congr (and_congr_left' (by simp [inked_cons, hc])) rfl rfl
    · rw [if_neg hc, Stroke.top?_cons, hrest, Stroke.ink?, if_congr hblock rfl rfl, ite_or_ite]
      refine if_congr ?_ rfl rfl
      rw [inked_cons, and_iff_right hc, ← or_and_right, or_comm]

end Display

namespace Window
variable {w : Window} {x y : UInt32}

theorem top?_titlebar (w : Window) (theme : Theme) (config : Config) (focused : Bool)
    (hx : x < w.size.width) (hy : y < w.size.height) :
    Stroke.top? w.size x y
        ((w.titlebarCalls theme config focused).flatMap Display.software.strokes) =
      if w.isTitled = true ∧ w.OnTitle config x y then some theme.textPrimary
      else if w.isTitled = true ∧ y < config.titlebarHeight then some (theme.titlebarFor focused)
      else none := by
  unfold titlebarCalls
  cases htitled : w.isTitled with
  | false => simp
  | true =>
    have hbar : Rect.Covers ⟨0, 0, w.size.width, min config.titlebarHeight w.size.height⟩ x.toNat
        y.toNat ↔ y < config.titlebarHeight := by
      rw [UInt32.lt_iff_toNat_lt] at hx hy ⊢
      simp only [Rect.covers_iff, UInt32.toNat_zero, UInt32.toNat_min]
      omega
    have htext := Display.top?_glyphs (y := y) theme.textPrimary hx config.titleBaseline_lt
      w.title.toList (show titleInset.toNat = min (8 + 8 * 0) maxWord from rfl)
    show Stroke.top? w.size x y (.fillRect _ _ :: (Display.glyphs _ _ _ _ ++ [])) = _
    rw [List.append_nil, Stroke.top?_cons, htext, Stroke.ink?, if_congr hbar rfl rfl]
    simp only [OnTitle, true_and]
    split <;> rfl

theorem top?_border (w : Window) (theme : Theme) (hx : x < w.size.width) (hy : y < w.size.height) :
    Stroke.top? w.size x y ((w.borderCalls theme).flatMap Display.software.strokes) =
      if w.isBordered = true ∧ w.OnRim x y then some theme.border else none := by
  unfold borderCalls
  cases hbordered : w.isBordered with
  | false => simp
  | true =>
    show Stroke.top? w.size x y [.fillRect _ _, .fillRect _ _, .fillRect _ _, .fillRect _ _] = _
    simp only [Stroke.top?_cons, Stroke.top?_nil, Option.none_or, Stroke.ink?, ite_or_ite]
    refine if_congr ?_ rfl rfl
    rw [UInt32.lt_iff_toNat_lt] at hx hy
    simp only [Rect.covers_iff, OnRim, true_and, ← UInt32.toNat_inj, toNat_satSub,
      UInt32.toNat_zero, UInt32.toNat_one]
    omega

/-- The decorated window shows its layers, whatever its surface showed before. -/
theorem pixel?_decorate (hsurface : w.surface.size = w.size) (theme : Theme) (config : Config)
    (focused : Bool) (hx : x < w.size.width) (hy : y < w.size.height) :
    (w.decorate .software theme config focused).state.surface.pixel? x y =
      some (w.layered theme config focused x y) := by
  have hground : (Rect.ofSize w.size).Covers x.toNat y.toNat := Rect.covers_ofSize.2 ⟨hx, hy⟩
  show (w.surface.paint ((w.decorationCalls theme config focused).flatMap
    Display.software.strokes)).pixel? x y = _
  rw [Surface.pixel?_paint (by rwa [hsurface]) (by rwa [hsurface]), hsurface]
  have hlayers : (w.decorationCalls theme config focused).flatMap Display.software.strokes =
      [.fill .black, .fillRect (.ofSize w.size) w.background] ++
        ((w.titlebarCalls theme config focused).flatMap Display.software.strokes ++
          (w.borderCalls theme).flatMap Display.software.strokes) := by
    rw [← List.flatMap_append]
    rfl
  rw [hlayers, Stroke.top?_append, Stroke.top?_append, w.top?_border theme hx hy,
    w.top?_titlebar theme config focused hx hy]
  simp only [Stroke.top?_cons, Stroke.top?_nil, Option.none_or, Stroke.ink?, if_pos hground, layered]
  split
  · rfl
  split
  · rfl
  split <;> rfl

/-- The first stroke of a decoration covers all that was there. -/
theorem decorate_of_size {s : Surface} (hsize : s.size = w.surface.size) (theme : Theme)
    (config : Config) (focused : Bool) :
    (decorate { w with surface := s } .software theme config focused).state =
      (w.decorate .software theme config focused).state := by
  have hcleared : s.fill .black = w.surface.fill .black := congrArg (Surface.filled · .black) hsize
  let rest := .fillRect (.ofSize w.size) w.background ::
    (w.titlebarCalls theme config focused ++ w.borderCalls theme).flatMap Display.software.strokes
  exact congrArg (fun cleared : Surface => { w with surface := cleared.paint rest }) hcleared

/-- A decorated window whose surface has its size shows its rim, if it is bordered, over its title and
its title bar, if it is titled, over its background; what its surface showed before does not matter.
Only the pixels of the window change. -/
theorem decorated_layers (w : Window) (hsurface : w.surface.size = w.size) (theme : Theme)
    (config : Config) (focused : Bool) :
    let decorated := (w.decorate .software theme config focused).state
    (∀ x y, x < w.size.width → y < w.size.height →
      decorated.surface.pixel? x y =
        some (if w.isBordered = true ∧ w.OnRim x y then theme.border
          else if w.isTitled = true ∧ w.OnTitle config x y then theme.textPrimary
          else if w.isTitled = true ∧ y < config.titlebarHeight then theme.titlebarFor focused
          else w.background)) ∧
    (∀ s : Surface, s.size = w.size →
      (decorate { w with surface := s } .software theme config focused).state = decorated) ∧
    decorated.surface.size = w.size ∧
    decorated = { w with surface := decorated.surface } := by
  intro decorated
  refine ⟨fun x y hx hy => pixel?_decorate hsurface theme config focused hx hy,
    fun s hs => decorate_of_size (hs.trans hsurface.symm) theme config focused, ?_, rfl⟩
  exact (Surface.size_paint _ _).trans hsurface

/-- A small window whose title runs past its right edge: rim over title, title over title bar, a blank,
and the first row below the title bar. -/
theorem decorated_layers_small :
    let w : Window :=
      { id := ⟨1⟩, title := "a b", rect := ⟨7, 9, 30, 12⟩, flags := .union .bordered .titled
        minimum := ⟨30, 12⟩, background := .white, surface := .filled ⟨30, 12⟩ .black, sinks := {} }
    let config : Config := { titlebarHeight := 8 }
    let decorated := (w.decorate .software {} config true).state
    w.surface.size = w.size ∧
      decorated.surface.pixel? 29 3 = some (Theme.border {}) ∧
      decorated.surface.pixel? 28 3 = some (Theme.textPrimary {}) ∧
      decorated.surface.pixel? 18 3 = some (Theme.titlebarFocused {}) ∧
      decorated.surface.pixel? 28 8 = some .white := by
  intro w config decorated
  have hsurface : w.surface.size = w.size := rfl
  have hpixel := (decorated_layers w hsurface {} config true).1
  refine ⟨hsurface, ?_, ?_, ?_, ?_⟩
  · rw [hpixel 29 3 (by decide) (by decide)]
    decide
  · rw [hpixel 28 3 (by decide) (by decide)]
    decide
  · rw [hpixel 18 3 (by decide) (by decide)]
    decide
  · rw [hpixel 28 8 (by decide) (by decide)]
    decide

end Window
end PointerDesktop
