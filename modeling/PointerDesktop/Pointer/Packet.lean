import PointerDesktop.Error
import PointerDesktop.Pointer.Buttons

/-! # Pointer packets

A pointing device reports each movement by three bytes. The first holds the buttons in its low
bits, a bit that is always set, the signs of the two displacements and an overflow bit for each;
the other two hold the low eight bits of the displacements, which are nine-bit two's complement
numbers. `Decoder` assembles packets from bytes and finds the next packet after a byte was lost. -/

namespace PointerDesktop

/-- A decoded packet. `dy` grows upward. -/
structure Packet where
  dx : Int
  dy : Int
  buttons : Buttons
deriving DecidableEq, Repr, Inhabited

namespace Packet

def alwaysOne : UInt8 := 0x08
def xSign : UInt8 := 0x10
def ySign : UInt8 := 0x20
def xOverflow : UInt8 := 0x40
def yOverflow : UInt8 := 0x80

/-- Bytes in a packet. -/
def length : Nat := 3

/-- Some bit of `mask` is set in `byte`. -/
def hasBit (byte mask : UInt8) : Bool := byte &&& mask != 0

/-- A displacement from its low byte and its sign. -/
def displacement (low : UInt8) (negative : Bool) : Int :=
  if negative then low.toNat - 256 else low.toNat

/-- The packet of three bytes. An axis that overflowed is reported as not moved. -/
def ofBytes (status x y : UInt8) : Packet where
  dx := if hasBit status xOverflow then 0 else displacement x (hasBit status xSign)
  dy := if hasBit status yOverflow then 0 else displacement y (hasBit status ySign)
  buttons := .ofStatus status

/-- One of the displacements does not fit in a packet. -/
def overflowed (status : UInt8) : Bool := hasBit status (xOverflow ||| yOverflow)

end Packet

namespace Decoder

/-- The bytes of the packet that is being assembled. -/
inductive Phase where
  | empty
  | one (status : UInt8)
  | two (status x : UInt8)
deriving DecidableEq, Repr, Inhabited

def Phase.pending : Phase → Nat
  | .empty => 0
  | .one _ => 1
  | .two _ _ => 2

structure Stats where
  /-- Complete packets. -/
  packets : UInt64 := 0
  /-- Bytes dropped while looking for the start of a packet. -/
  resyncBytes : UInt64 := 0
  /-- Packets with an overflow bit. -/
  overflowPackets : UInt64 := 0
deriving DecidableEq, Repr, Inhabited

end Decoder

structure Decoder where
  phase : Decoder.Phase := .empty
  stats : Decoder.Stats := {}
deriving DecidableEq, Repr, Inhabited

namespace Decoder

/-- Takes one byte; the third byte of a packet completes it. A byte that has to start a packet
and cannot is dropped. -/
def push (d : Decoder) (byte : UInt8) : Except WindowError (Option Packet) × Decoder :=
  match d.phase with
  | .empty =>
    if Packet.hasBit byte Packet.alwaysOne then (.ok none, { d with phase := .one byte })
    else
      (.error .malformedPacket, { d with stats.resyncBytes := d.stats.resyncBytes + 1 })
  | .one status => (.ok none, { d with phase := .two status byte })
  | .two status x =>
    let overflows := if Packet.overflowed status then 1 else 0
    (.ok (some (.ofBytes status x byte)),
      { phase := .empty
        stats :=
          { d.stats with
            packets := d.stats.packets + 1
            overflowPackets := d.stats.overflowPackets + overflows } })

def pending (d : Decoder) : Nat := d.phase.pending

/-- Drops the packet that is being assembled. -/
def reset (d : Decoder) : Decoder := { d with phase := .empty }

end Decoder

end PointerDesktop
