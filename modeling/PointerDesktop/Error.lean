/-! # Failures of window and pointer operations -/

namespace PointerDesktop

inductive WindowError where
  /-- There is no memory for the place of a window, its pixels or its title, or no id is left. -/
  | outOfMemory
  /-- A side is zero, or a size is below the window's minimum. -/
  | invalidGeometry
  /-- No open window has the given id. -/
  | unknownWindow
  /-- A byte cannot start a pointer packet. -/
  | malformedPacket
deriving DecidableEq, Repr, Inhabited

def WindowError.message : WindowError → String
  | .outOfMemory => "out of memory"
  | .invalidGeometry => "invalid window geometry"
  | .unknownWindow => "unknown window"
  | .malformedPacket => "malformed pointer packet"

end PointerDesktop
