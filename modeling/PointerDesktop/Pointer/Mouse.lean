import PointerDesktop.Pointer.Cursor
import PointerDesktop.Pointer.Packet

/-! # The mouse: a packet decoder that drives a cursor -/

namespace PointerDesktop

structure Mouse where
  decoder : Decoder
  cursor : Cursor
deriving DecidableEq, Repr, Inhabited

namespace Mouse

def ofScreen (screen : Size) : Mouse := ⟨{}, .ofScreen screen⟩

def position (m : Mouse) : Point := m.cursor.position

/-- Moves the cursor as a packet says; the device counts `dy` upward. -/
def follow (m : Mouse) (packet : Packet) : Mouse :=
  { m with cursor := m.cursor.moveBy packet.dx (-packet.dy) }

/-- Takes one byte of the device. A byte that completes a packet yields a sample. -/
def feed (m : Mouse) (byte : UInt8) : Outcome Mouse (Option Sample) :=
  let (read, decoder) := m.decoder.push byte
  let m := { m with decoder := decoder }
  match read with
  | .error _ => { state := m, effects := [.log (.malformedByte byte)], result := none }
  | .ok none => { state := m, result := none }
  | .ok (some packet) =>
    let m := m.follow packet
    { state := m
      result := some ⟨m.cursor.position, packet.buttons, m.cursor.previous⟩ }

/-- Moves the cursor to the pixel nearest to `p`. -/
def warp (m : Mouse) (p : Point) : Mouse :=
  { m with cursor := m.cursor.moveTo p.x.toInt p.y.toInt }

/-- Drops the packet that is being assembled. -/
def resync (m : Mouse) : Mouse := { m with decoder := m.decoder.reset }

def setScreen (m : Mouse) (screen : Size) : Traced Mouse :=
  let moved := m.cursor.setScreen screen
  { state := { m with cursor := moved.state }, effects := moved.effects }

end Mouse

end PointerDesktop
