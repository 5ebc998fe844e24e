/-! # Window identity and flags -/

namespace PointerDesktop

/-- Names a window for as long as the desktop lives. -/
structure WindowId where
  number : UInt32
deriving DecidableEq, Repr, Inhabited

def WindowId.label (id : WindowId) : String := "#" ++ toString id.number

/-- A set of window properties. Bits without a meaning are kept. -/
structure Flags where
  bits : UInt32
deriving DecidableEq, Repr, Inhabited

namespace Flags

/-- Has a frame one pixel wide. -/
def bordered : Flags := ⟨1⟩

/-- Can be resized by dragging its edges. -/
def resizable : Flags := ⟨2⟩

/-- Takes part in painting and in hit-testing. -/
def visible : Flags := ⟨4⟩

/-- Has a title bar, by which it can be dragged. -/
def titled : Flags := ⟨8⟩

/-- Every property of `g` is in `f`. -/
def contains (f g : Flags) : Bool := f.bits &&& g.bits == g.bits

def union (f g : Flags) : Flags := ⟨f.bits ||| g.bits⟩

def diff (f g : Flags) : Flags := ⟨f.bits &&& ~~~g.bits⟩

end Flags

end PointerDesktop
