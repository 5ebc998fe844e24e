import PointerDesktop.Proofs.Decorations

/-!
# The client area

The blocks of a title keep their size when the title bar does not, so under a low title bar they reach
into the client area (`Window.TitleSpills`). And the frame of the highest title bar of all is one row
too high for a word under a border, so that the client area takes in the bar (`Window.BarDropped`).
Where neither is so, the decorations leave the client area to the background.
Main statement: `Window.client_clean_iff`.
-/

namespace PointerDesktop

namespace Window
variable {w : Window} {config : Config} {theme : Theme} {focused : Bool} {x y : UInt32}

/-- Pixels that the border takes on each side. -/
def rim (w : Window) : Nat := if w.isBordered then 1 else 0

/-- Rows that border and title bar take at the top. -/
def frameTop (w : Window) (config : Config) : Nat :=
  w.rim + if w.isTitled then config.titlebarHeight.toNat else 0

/-- A block of the title has a pixel in the client area. -/
def TitleSpills (w : Window) (config : Config) : Prop :=
  w.isTitled = true ∧ w.frameTop config ≤ 6 ∧
    max 1 (w.frameTop config) + w.rim < w.size.height.toNat ∧
    ∃ k, ∃ _ : k < w.title.toList.length, w.title.toList[k] ≠ ' ' ∧
      9 + 8 * k + w.rim < w.size.width.toNat

instance (w : Window) (config : Config) : Decidable (w.TitleSpills config) :=
  inferInstanceAs (Decidable (_ ∧ _ ∧ _ ∧ ∃ k, ∃ _ : k < w.title.toList.length, _))

/-- No word holds the number of rows that border and title bar take, and the window has pixels inside
its border. -/
def BarDropped (w : Window) (config : Config) : Prop :=
  maxWord < w.frameTop config ∧ 2 < w.size.width.toNat ∧ 1 < w.size.height.toNat

instance (w : Window) (config : Config) : Decidable (w.BarDropped config) :=
  inferInstanceAs (Decidable (_ ∧ _))

theorem rim_le (w : Window) : w.rim ≤ 1 := by
  unfold rim
  split <;> decide

theorem isBordered_iff : w.isBordered = true ↔ w.rim = 1 := by
  unfold rim
  split <;> simp [*]

theorem frameTop_le (w : Window) (config : Config) : w.frameTop config ≤ maxWord + 1 := by
  have hrim := w.rim_le
  have hbar := config.titlebarHeight.toNat_lt
  unfold frameTop maxWord
  split <;> omega

theorem rim_of_lt_frameTop (h : maxWord < w.frameTop config) : w.rim = 1 := by
  have hrim := w.rim_le
  have hbar := config.titlebarHeight.toNat_lt
  unfold frameTop maxWord at h
  split at h <;> omega

theorem clientRect_fields (w : Window) (config : Config) :
    (w.clientRect config.titlebarHeight).x.toNat = w.rim ∧
      (w.clientRect config.titlebarHeight).y.toNat = w.frameTop config % (maxWord + 1) ∧
      (w.clientRect config.titlebarHeight).width.toNat = w.size.width.toNat - 2 * w.rim ∧
      (w.clientRect config.titlebarHeight).height.toNat =
        w.size.height.toNat - (w.frameTop config % (maxWord + 1) + w.rim) := by
  have hwidth := w.size.width.toNat_lt
  have hheight := w.size.height.toNat_lt
  have hborder : (if w.isBordered then 1 else 0 : UInt32).toNat = w.rim := by
    unfold rim
    split <;> rfl
  have htop : ((if w.isBordered then 1 else 0 : UInt32) +
      if w.isTitled then config.titlebarHeight else 0).toNat = w.frameTop config % (maxWord + 1) := by
    rw [UInt32.toNat_add, hborder, frameTop]
    split <;> rfl
  have hrim := w.rim_le
  have hlt : w.frameTop config % (maxWord + 1) < maxWord + 1 := Nat.mod_lt _ (by decide)
  simp only [clientRect, Rect.inset, Rect.ofSize, toNat_satAdd, toNat_satSub, hborder, htop,
    UInt32.toNat_zero, maxWord]
  omega

/-- The client area is what is below the frame's top and inside its border. -/
theorem covers_clientRect :
    (w.clientRect config.titlebarHeight).Covers x.toNat y.toNat ↔
      (w.rim ≤ x.toNat ∧ x.toNat + w.rim < w.size.width.toNat) ∧
        w.frameTop config % (maxWord + 1) ≤ y.toNat ∧ y.toNat + w.rim < w.size.height.toNat := by
  obtain ⟨hx, hy, hwidth, hheight⟩ := w.clientRect_fields config
  rw [Rect.covers_iff, hx, hy, hwidth, hheight]
  omega

theorem clientRect_inside (w : Window) (config : Config)
    (hsome : (w.clientRect config.titlebarHeight).isEmpty = false) :
    (w.clientRect config.titlebarHeight).right ≤ w.size.width.toNat ∧
      (w.clientRect config.titlebarHeight).bottom ≤ w.size.height.toNat := by
  obtain ⟨hx, hy, hwidth, hheight⟩ := w.clientRect_fields config
  obtain ⟨hw, hh⟩ : (w.clientRect config.titlebarHeight).width.toNat ≠ 0 ∧
      (w.clientRect config.titlebarHeight).height.toNat ≠ 0 := by
    simpa [Rect.isEmpty, Size.isEmpty, Rect.size, ← UInt32.toNat_inj] using hsome
  simp only [Rect.right, Rect.bottom, Rect.left, Rect.top]
  omega

/-- A pixel of the client area is a pixel of the window. -/
theorem lt_of_covers_clientRect (h : (w.clientRect config.titlebarHeight).Covers x.toNat y.toNat) :
    x < w.size.width ∧ y < w.size.height := by
  obtain ⟨⟨-, hx⟩, -, hy⟩ := covers_clientRect.1 h
  rw [UInt32.lt_iff_toNat_lt, UInt32.lt_iff_toNat_lt]
  omega

theorem frameTop_le_of_covers (hbar : ¬ w.BarDropped config)
    (h : (w.clientRect config.titlebarHeight).Covers x.toNat y.toNat) :
    w.frameTop config ≤ y.toNat := by
  obtain ⟨⟨hleft, hright⟩, htop, hbottom⟩ := covers_clientRect.1 h
  by_cases hfits : w.frameTop config ≤ maxWord
  · rwa [Nat.mod_eq_of_lt (Nat.lt_add_one_of_le hfits)] at htop
  · have hrim := rim_of_lt_frameTop (Nat.lt_of_not_le hfits)
    exact absurd ⟨by omega, by omega, by omega⟩ hbar

/-- Inside the border only its rows can be taken from the client area. -/
theorem onRim_iff_of_covers (hrim : w.rim = 1)
    (h : (w.clientRect config.titlebarHeight).Covers x.toNat y.toNat) : w.OnRim x y ↔ y = 0 := by
  obtain ⟨⟨hleft, hright⟩, -, hbottom⟩ := covers_clientRect.1 h
  simp only [OnRim, ← UInt32.toNat_inj, UInt32.toNat_zero]
  omega

/-- Under a title bar with room for them the blocks of the title stay above the client area. -/
theorem titleSpills_of_onTitle (htitled : w.isTitled = true) (htop : w.frameTop config ≤ y.toNat)
    (h : (w.clientRect config.titlebarHeight).Covers x.toNat y.toNat) (hblock : w.OnTitle config x y) :
    w.TitleSpills config := by
  obtain ⟨⟨k, hk, hc, hblockx, -⟩, hrow⟩ := hblock
  obtain ⟨⟨-, hright⟩, -, hbottom⟩ := covers_clientRect.1 h
  have hframe : w.frameTop config = w.rim + config.titlebarHeight.toNat := by
    rw [frameTop, if_pos htitled]
  rw [config.toNat_titleBaseline] at hrow
  exact ⟨htitled, by omega, by omega, k, hk, hc, by omega⟩

theorem layered_client (hspills : ¬ w.TitleSpills config) (hbar : ¬ w.BarDropped config)
    (h : (w.clientRect config.titlebarHeight).Covers x.toNat y.toNat) :
    w.layered theme config focused x y = w.background := by
  have htop := frameTop_le_of_covers hbar h
  unfold layered
  rw [if_neg, if_neg, if_neg]
  · rintro ⟨htitled, hrow⟩
    rw [UInt32.lt_iff_toNat_lt] at hrow
    rw [frameTop, if_pos htitled] at htop
    omega
  · rintro ⟨htitled, hblock⟩
    exact hspills (titleSpills_of_onTitle htitled htop h hblock)
  · rintro ⟨hbordered, honrim⟩
    have hrim := isBordered_iff.1 hbordered
    have hrow := (onRim_iff_of_covers hrim h).1 honrim
    rw [hrow, frameTop, hrim, UInt32.toNat_zero] at htop
    omega

/-- Where a title reaches below its bar, the client area has a pixel in the colour of the title. -/
theorem exists_layered_title (h : w.TitleSpills config) :
    ∃ x y, (w.clientRect config.titlebarHeight).Covers (UInt32.toNat x) (UInt32.toNat y) ∧
      ∀ theme focused, w.layered theme config focused x y = theme.textPrimary := by
  obtain ⟨htitled, htop, hbottom, k, hk, hc, hright⟩ := h
  have hwidth := w.size.width.toNat_lt
  have hx : (UInt32.ofNat (9 + 8 * k)).toNat = 9 + 8 * k :=
    UInt32.toNat_ofNat_of_lt' (show _ < 2 ^ 32 by omega)
  have hy : (UInt32.ofNat (max 1 (w.frameTop config))).toNat = max 1 (w.frameTop config) :=
    UInt32.toNat_ofNat_of_lt' (show _ < 2 ^ 32 by omega)
  have hrim := w.rim_le
  have hclient : (w.clientRect config.titlebarHeight).Covers
      (UInt32.ofNat (9 + 8 * k)).toNat (UInt32.ofNat (max 1 (w.frameTop config))).toNat := by
    have hword : w.frameTop config < maxWord + 1 := Nat.lt_of_le_of_lt htop (by decide)
    rw [covers_clientRect, hx, hy, Nat.mod_eq_of_lt hword]
    omega
  have hblock : w.OnTitle config (.ofNat (9 + 8 * k)) (.ofNat (max 1 (w.frameTop config))) := by
    rw [frameTop, if_pos htitled] at htop
    unfold OnTitle
    rw [config.toNat_titleBaseline, hx, hy, frameTop, if_pos htitled]
    exact ⟨⟨k, hk, hc, by omega⟩, by omega⟩
  refine ⟨_, _, hclient, fun theme focused => ?_⟩
  unfold layered
  rw [if_neg, if_pos ⟨htitled, hblock⟩]
  rintro ⟨hbordered, honrim⟩
  have hrow := (onRim_iff_of_covers (isBordered_iff.1 hbordered) hclient).1 honrim
  rw [hrow, UInt32.toNat_zero] at hy
  omega

/-- Where the frame is too high for a word, the client area has a pixel in the colour of the border. -/
theorem exists_layered_border (h : w.BarDropped config) :
    ∃ x y, (w.clientRect config.titlebarHeight).Covers (UInt32.toNat x) (UInt32.toNat y) ∧
      ∀ theme focused, w.layered theme config focused x y = theme.border := by
  obtain ⟨hframe, hwidth, hheight⟩ := h
  have hrim := rim_of_lt_frameTop hframe
  have hround : w.frameTop config % (maxWord + 1) = 0 := by
    rw [Nat.le_antisymm (w.frameTop_le config) hframe]
    rfl
  have hclient : (w.clientRect config.titlebarHeight).Covers (UInt32.toNat 1) (UInt32.toNat 0) := by
    rw [covers_clientRect, hround, hrim, UInt32.toNat_one, UInt32.toNat_zero]
    omega
  refine ⟨1, 0, hclient, fun theme focused => ?_⟩
  exact if_pos ⟨isBordered_iff.2 hrim, .inr (.inl rfl)⟩

/-- A client area that is not empty lies on the surface. In every theme, focused or not, all of it shows
the background after the window is decorated, exactly when no block of the title reaches into it and
the rows of the frame fit into a word. -/
theorem client_clean_iff (w : Window) (hsurface : w.surface.size = w.size) (config : Config) :
    let client := w.clientRect config.titlebarHeight
    (client.isEmpty = false →
      client.right ≤ w.surface.size.width.toNat ∧ client.bottom ≤ w.surface.size.height.toNat) ∧
    ((∀ theme focused x y, client.Covers (UInt32.toNat x) (UInt32.toNat y) →
        (w.decorate .software theme config focused).state.surface.pixel? x y = some w.background) ↔
      ¬ w.TitleSpills config ∧ ¬ w.BarDropped config) := by
  intro client
  have hpixel : ∀ theme focused x y, client.Covers (UInt32.toNat x) (UInt32.toNat y) →
      (w.decorate .software theme config focused).state.surface.pixel? x y =
        some (w.layered theme config focused x y) := fun theme focused x y hclient => by
    obtain ⟨hx, hy⟩ := lt_of_covers_clientRect hclient
    exact pixel?_decorate hsurface theme config focused hx hy
  -- a pixel that is not background shows in a theme whose colour for it is another one
  refine ⟨fun hsome => hsurface ▸ w.clientRect_inside config hsome, fun hclean => ⟨?_, ?_⟩, ?_⟩
  · intro hspills
    obtain ⟨x, y, hclient, hlayered⟩ := exists_layered_title hspills
    obtain ⟨ink, hink⟩ := w.background.exists_ne
    have hshown := hclean { textPrimary := ink } false x y hclient
    rw [hpixel _ _ x y hclient, hlayered] at hshown
    exact hink (Option.some.inj hshown)
  · intro hbar
    obtain ⟨x, y, hclient, hlayered⟩ := exists_layered_border hbar
    obtain ⟨ink, hink⟩ := w.background.exists_ne
    have hshown := hclean { border := ink } false x y hclient
    rw [hpixel _ _ x y hclient, hlayered] at hshown
    exact hink (Option.some.inj hshown)
  · rintro ⟨hspills, hbar⟩ theme focused x y hclient
    rw [hpixel _ _ x y hclient, layered_client hspills hbar hclient]

/-- One window under the usual title bar, which leaves its client area alone, and under a title bar of
two rows, which does not. -/
theorem client_clean_iff_two_bars :
    let w : Window :=
      { id := ⟨1⟩, title := "a", rect := ⟨0, 0, 20, 40⟩, flags := .union .bordered .titled
        minimum := ⟨20, 40⟩, background := .white, surface := .filled ⟨20, 40⟩ .black, sinks := {} }
    let low : Config := { titlebarHeight := 2 }
    w.surface.size = w.size ∧
      (w.clientRect ({} : Config).titlebarHeight).isEmpty = false ∧
      (∀ theme focused x y, (w.clientRect ({} : Config).titlebarHeight).Covers (UInt32.toNat x)
          (UInt32.toNat y) →
        (w.decorate .software theme {} focused).state.surface.pixel? x y = some .white) ∧
      ¬ ∀ theme focused x y, (w.clientRect low.titlebarHeight).Covers (UInt32.toNat x)
          (UInt32.toNat y) →
        (w.decorate .software theme low focused).state.surface.pixel? x y = some .white := by
  intro w low
  have hsurface : w.surface.size = w.size := rfl
  refine ⟨hsurface, by decide, (client_clean_iff w hsurface {}).2.2 (by decide), fun hclean => ?_⟩
  exact ((client_clean_iff w hsurface low).2.1 hclean).1 (by decide)

/-- Under a title bar of two rows the only letter of a title reaches into the client area. -/
theorem letter_in_client_area :
    let w : Window :=
      { id := ⟨1⟩, title := "a", rect := ⟨0, 0, 20, 10⟩, flags := .titled, minimum := ⟨20, 10⟩
        background := .white, surface := .filled ⟨20, 10⟩ .white, sinks := {} }
    let decorated := (w.decorate .software {} { titlebarHeight := 2 } true).state
    w.clientRect 2 = ⟨0, 2, 20, 8⟩ ∧ (w.clientRect 2).Covers 9 2 ∧
      decorated.surface.pixel? 9 2 = some (Theme.textPrimary {}) ∧
      decorated.surface.pixel? 9 2 ≠ some w.background := by
  intro w decorated
  have hpixel : decorated.surface.pixel? 9 2 = some (Theme.textPrimary {}) := by
    rw [pixel?_decorate (w := w) rfl {} { titlebarHeight := 2 } true (by decide) (by decide)]
    decide
  refine ⟨by decide, by decide, hpixel, ?_⟩
  rw [hpixel]
  decide

end Window
end PointerDesktop
