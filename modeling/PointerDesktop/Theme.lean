import PointerDesktop.Color

/-! # Palettes -/

namespace PointerDesktop

/-- A palette. The defaults are the dark blue one that the desktop starts with. -/
structure Theme where
  background : Color := .ofHex 0x1A1A2E
  windowBackground : Color := .ofHex 0x0A0A1E
  titlebar : Color := .ofHex 0x2A5A8C
  titlebarFocused : Color := .ofHex 0x4A90E2
  border : Color := .ofHex 0x1E1E3F
  textPrimary : Color := .ofHex 0xE0E0E0
  textSecondary : Color := .ofHex 0xA0A0A0
  accent : Color := .ofHex 0x4A90E2
  highlight : Color := .ofHex 0x2D2D5A
  buttonNormal : Color := .ofHex 0x2A5A8C
  buttonHover : Color := .ofHex 0x6AA8FF
  buttonPressed : Color := .ofHex 0x050510
  scrollbar : Color := .ofHex 0x2D2D5A
deriving DecidableEq, Repr, Inhabited

/-- The places of a palette. -/
inductive Theme.Slot where
  | background | windowBackground | titlebar | titlebarFocused | border | textPrimary
  | textSecondary | accent | highlight | buttonNormal | buttonHover | buttonPressed | scrollbar
deriving DecidableEq, Repr, Inhabited

namespace Theme

def Slot.all : List Slot :=
  [.background, .windowBackground, .titlebar, .titlebarFocused, .border, .textPrimary,
    .textSecondary, .accent, .highlight, .buttonNormal, .buttonHover, .buttonPressed, .scrollbar]

def color (t : Theme) : Slot → Color
  | .background => t.background
  | .windowBackground => t.windowBackground
  | .titlebar => t.titlebar
  | .titlebarFocused => t.titlebarFocused
  | .border => t.border
  | .textPrimary => t.textPrimary
  | .textSecondary => t.textSecondary
  | .accent => t.accent
  | .highlight => t.highlight
  | .buttonNormal => t.buttonNormal
  | .buttonHover => t.buttonHover
  | .buttonPressed => t.buttonPressed
  | .scrollbar => t.scrollbar

/-- The title bar of the focused window is brighter than the others. -/
def titlebarFor (t : Theme) (focused : Bool) : Color :=
  if focused then t.titlebarFocused else t.titlebar

end Theme

end PointerDesktop
