import PointerDesktop.Geometry.Rect

/-! # Pointer buttons and samples -/

namespace PointerDesktop

/-- A set of held buttons. Bits beyond the three buttons are kept. -/
structure Buttons where
  bits : UInt8
deriving DecidableEq, Repr, Inhabited

namespace Buttons

def none : Buttons := ⟨0⟩
def left : Buttons := ⟨1⟩
def right : Buttons := ⟨2⟩
def middle : Buttons := ⟨4⟩

/-- The buttons that exist. -/
def all : Buttons := ⟨7⟩

/-- The buttons in the first byte of a packet. -/
def ofStatus (byte : UInt8) : Buttons := ⟨byte &&& all.bits⟩

/-- Every button of `c` is in `b`. -/
def contains (b c : Buttons) : Bool := b.bits &&& c.bits == c.bits

/-- The buttons that are not held. -/
def compl (b : Buttons) : Buttons := ⟨~~~b.bits &&& all.bits⟩

def inter (b c : Buttons) : Buttons := ⟨b.bits &&& c.bits⟩

/-- Held now and not in `previous`. -/
def pressedSince (now previous : Buttons) : Buttons := now.inter previous.compl

/-- Held in `previous` and no longer. -/
def releasedSince (now previous : Buttons) : Buttons := previous.inter now.compl

end Buttons

/-- One report of the pointer: where it is, what is held, and where it was before. -/
structure Sample where
  position : Point
  buttons : Buttons
  previous : Point
deriving DecidableEq, Repr, Inhabited

def Sample.moved (s : Sample) : Bool := s.position != s.previous

end PointerDesktop
