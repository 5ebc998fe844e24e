import PointerDesktop.Proofs.Decorations

/-!
# Title bars hit and painted

The title bar that a pointer hits is the one that is painted. The hit is decided on the screen, where a
window may stand anywhere and a point may have negative coordinates, and the painting is done on the
window's surface and clipped to it; seen from the window's corner the two are one rectangle
(`Rect.contains_iff_local`). Main statement: `Window.inTitlebar_iff_filled`.
-/

namespace PointerDesktop

/-- A rectangle contains a point of the screen when, seen from its corner, the point is in a rectangle
of its size. -/
theorem Rect.contains_iff_local {r : Rect} {p : Point} :
    r.contains p = true ↔ (ofSize r.size).Covers (p.x.toInt - r.left) (p.y.toInt - r.top) := by
  rw [contains_iff_covers]
  simp only [Covers, ofSize, size, left, top, right, bottom, UInt32.toNat_zero]
  omega

/-- The part of a rectangle that lies on the surface has a pixel at column `x` and row `y`. -/
def Surface.Meets (s : Surface) (r : Rect) (x y : Int) : Prop :=
  ∃ clip, (Rect.ofSize s.size).intersect? r = some clip ∧ clip.Covers x y

namespace Window
variable {w : Window} {display : Display} {theme : Theme} {config : Config} {focused : Bool}
  {r : Rect} {p : Point} {x y : Int}

/-- Whatever the theme, the decorations fill the rectangle in its colour for title bars. -/
def FillsBar (w : Window) (display : Display) (config : Config) (focused : Bool) (r : Rect) : Prop :=
  ∀ theme : Theme, .display (.rect r (theme.titlebarFor focused)) ∈
    (w.decorate display theme config focused).effects

/-- A decoration fills the window's background, its title bar and the four sides of its border. -/
theorem rect_mem_decorate {color : Color} :
    .display (.rect r color) ∈ (w.decorate display theme config focused).effects ↔
      (r = .ofSize w.size ∧ color = w.background) ∨
        (w.isTitled = true ∧ r = .ofSize (w.titlebarRect config.titlebarHeight).size ∧
          color = theme.titlebarFor focused) ∨
        .rect r color ∈ w.borderCalls theme := by
  have hcalls : .display (.rect r color) ∈ (w.decorate display theme config focused).effects ↔
      .rect r color ∈ w.decorationCalls theme config focused := by
    simp [decorate]
  have hbar : .rect r color ∈ w.titlebarCalls theme config focused ↔
      w.isTitled = true ∧ r = .ofSize (w.titlebarRect config.titlebarHeight).size ∧
        color = theme.titlebarFor focused := by
    unfold titlebarCalls
    split
    · next htitled => simp [htitled, titlebarRect, Rect.ofSize, Rect.size, size]
    · next htitled => simp [htitled]
  rw [hcalls, ← hbar]
  simp [decorationCalls]

theorem color_of_mem_borderCalls {color : Color} (h : .rect r color ∈ w.borderCalls theme) :
    color = theme.border := by
  unfold borderCalls at h
  split at h
  · simp only [List.mem_cons, DisplayCall.rect.injEq, List.not_mem_nil, or_false] at h
    obtain ⟨-, rfl⟩ | ⟨-, rfl⟩ | ⟨-, rfl⟩ | ⟨-, rfl⟩ := h <;> rfl
  · cases h

/-- Of what is filled in the colour of title bars only the title bar is left, once background and border
have other colours. -/
theorem bar_mem_decorate (hground : theme.titlebarFor focused ≠ w.background)
    (hborder : theme.titlebarFor focused ≠ theme.border) :
    .display (.rect r (theme.titlebarFor focused)) ∈
        (w.decorate display theme config focused).effects ↔
      w.isTitled = true ∧ r = .ofSize (w.titlebarRect config.titlebarHeight).size := by
  rw [rect_mem_decorate]
  constructor
  · rintro (⟨-, heq⟩ | ⟨htitled, hr, -⟩ | hmem)
    · exact absurd heq hground
    · exact ⟨htitled, hr⟩
    · exact absurd (color_of_mem_borderCalls hmem) hborder
  · rintro ⟨htitled, hr⟩
    exact .inr (.inl ⟨htitled, hr, rfl⟩)

theorem fillsBar_iff : w.FillsBar display config focused r ↔
    w.isTitled = true ∧ r = .ofSize (w.titlebarRect config.titlebarHeight).size := by
  constructor
  · intro hfills
    -- a theme in which nothing but the title bar has the colour of title bars
    obtain ⟨ink, hink⟩ := w.background.exists_ne
    let theme : Theme := { titlebar := ink, titlebarFocused := ink, border := w.background }
    have hbar : theme.titlebarFor focused = ink := by cases focused <;> rfl
    have hground : theme.titlebarFor focused ≠ w.background := hbar ▸ hink
    have hborder : theme.titlebarFor focused ≠ theme.border := hbar ▸ hink
    exact (bar_mem_decorate hground hborder).1 (hfills theme)
  · rintro ⟨htitled, hr⟩ theme
    exact rect_mem_decorate.2 (.inr (.inl ⟨htitled, hr, rfl⟩))

/-- The title bar is no higher than the window. -/
theorem covers_ofSize_of_titlebar {height : UInt32}
    (h : (Rect.ofSize (w.titlebarRect height).size).Covers x y) : (Rect.ofSize w.size).Covers x y := by
  have hheight : (min height w.rect.height).toNat = min height.toNat w.rect.height.toNat :=
    UInt32.toNat_min ..
  simp only [Rect.Covers, Rect.ofSize, Rect.size, titlebarRect, size, Rect.left, Rect.top, Rect.right,
    Rect.bottom, hheight] at h ⊢
  omega

theorem inTitlebar_iff_covers {height : UInt32} : w.inTitlebar p height = true ↔
    w.isTitled = true ∧ (Rect.ofSize (w.titlebarRect height).size).Covers (p.x.toInt - w.rect.left)
      (p.y.toInt - w.rect.top) := by
  unfold inTitlebar
  rw [Bool.and_eq_true, Rect.contains_iff_local]
  rfl

theorem contains_of_inTitlebar {height : UInt32} (h : w.inTitlebar p height = true) :
    w.contains p = true :=
  Rect.contains_iff_local.2 (covers_ofSize_of_titlebar (inTitlebar_iff_covers.1 h).2)

theorem meets_titlebar (hsurface : w.surface.size = w.size) {height : UInt32} :
    w.surface.Meets (.ofSize (w.titlebarRect height).size) x y ↔
      (Rect.ofSize (w.titlebarRect height).size).Covers x y := by
  unfold Surface.Meets
  rw [Rect.covers_intersect?, hsurface]
  exact and_iff_right_of_imp covers_ofSize_of_titlebar

/-- A point of the screen hits the title bar exactly when the decorations fill a rectangle in the colour
of title bars and the part of it on the surface has the pixel where the point is, seen from the window's
corner. In a theme in which neither background nor border look like title bars this may be read off the
calls of that theme alone. A point that hits the title bar is in the window. -/
theorem inTitlebar_iff_filled (w : Window) (hsurface : w.surface.size = w.size) (display : Display)
    (config : Config) (focused : Bool) (p : Point) :
    let x := p.x.toInt - w.rect.left
    let y := p.y.toInt - w.rect.top
    (w.inTitlebar p config.titlebarHeight = true ↔
      ∃ r, w.FillsBar display config focused r ∧ w.surface.Meets r x y) ∧
    (∀ theme : Theme, theme.titlebarFor focused ≠ w.background →
      theme.titlebarFor focused ≠ theme.border →
      (w.inTitlebar p config.titlebarHeight = true ↔
        ∃ r, .display (.rect r (theme.titlebarFor focused)) ∈
          (w.decorate display theme config focused).effects ∧ w.surface.Meets r x y)) ∧
    (w.inTitlebar p config.titlebarHeight = true → w.contains p = true) := by
  intro x y
  have hhit : w.inTitlebar p config.titlebarHeight = true ↔
      w.isTitled = true ∧
        w.surface.Meets (.ofSize (w.titlebarRect config.titlebarHeight).size) x y := by
    rw [inTitlebar_iff_covers, meets_titlebar hsurface]
  refine ⟨?_, fun theme hground hborder => ?_, contains_of_inTitlebar⟩
  · simp only [hhit, fillsBar_iff, and_assoc, exists_and_left, exists_eq_left]
  · simp only [hhit, bar_mem_decorate hground hborder, and_assoc, exists_and_left, exists_eq_left]

/-- A window lower than its title bar should be is hit down to its last row and no further. -/
theorem inTitlebar_iff_filled_low :
    let w : Window :=
      { id := ⟨1⟩, title := "a", rect := ⟨100, 4, 30, 12⟩, flags := .titled, minimum := ⟨30, 12⟩
        background := .black, surface := .filled ⟨30, 12⟩ .black, sinks := {} }
    let filled (r : Rect) : Prop := .display (.rect r (Theme.titlebarFor {} true)) ∈
      (w.decorate .software {} {} true).effects
    w.surface.size = w.size ∧
      Theme.titlebarFor {} true ≠ w.background ∧ Theme.titlebarFor {} true ≠ Theme.border {} ∧
      (∃ r, w.FillsBar .software {} true r ∧ w.surface.Meets r 29 11) ∧
      (∃ r, filled r ∧ w.surface.Meets r 29 11) ∧ (¬ ∃ r, filled r ∧ w.surface.Meets r 29 12) ∧
      w.contains ⟨129, 15⟩ = true := by
  intro w filled
  have hsurface : w.surface.size = w.size := rfl
  have hground : Theme.titlebarFor {} true ≠ w.background := by decide
  have hborder : Theme.titlebarFor {} true ≠ Theme.border {} := by decide
  have hlast := inTitlebar_iff_filled w hsurface .software {} true ⟨129, 15⟩
  have hbelow := inTitlebar_iff_filled w hsurface .software {} true ⟨129, 16⟩
  have hhit : w.inTitlebar ⟨129, 15⟩ ({} : Config).titlebarHeight = true := by decide
  refine ⟨hsurface, hground, hborder, hlast.1.1 hhit, (hlast.2.1 {} hground hborder).1 hhit,
    fun hmeets => ?_, hlast.2.2 hhit⟩
  exact absurd ((hbelow.2.1 {} hground hborder).2 hmeets) (by decide)

end Window
end PointerDesktop
