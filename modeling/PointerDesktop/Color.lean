/-! # Colours -/

namespace PointerDesktop

/-- A colour as one word: alpha in the high byte, then red, green and blue. -/
structure Color where
  argb : UInt32
deriving DecidableEq, Repr, Inhabited

namespace Color

def rgba (red green blue alpha : UInt8) : Color :=
  ⟨(alpha.toUInt32 <<< 24) ||| (red.toUInt32 <<< 16) ||| (green.toUInt32 <<< 8) |||
    blue.toUInt32⟩

/-- An opaque colour. -/
def rgb (red green blue : UInt8) : Color := rgba red green blue 0xFF

/-- The opaque colour written `0xRRGGBB`; the high byte of the number does not count. -/
def ofHex (hex : UInt32) : Color := ⟨0xFF000000 ||| (hex &&& 0x00FFFFFF)⟩

def black : Color := ⟨0xFF000000⟩

def white : Color := ⟨0xFFFFFFFF⟩

def red (c : Color) : UInt8 := (c.argb >>> 16).toUInt8

def green (c : Color) : UInt8 := (c.argb >>> 8).toUInt8

def blue (c : Color) : UInt8 := c.argb.toUInt8

end Color

end PointerDesktop
