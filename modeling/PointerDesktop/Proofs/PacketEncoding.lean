import PointerDesktop.Proofs.PacketStreams

/-!
# Packets are read as they were written

A `Report` is what a device has to say; `Report.encode` writes it as three bytes. Reading them gives the
report back, but for an axis that overflowed (`Report.packet_encode`, `Report.overflowed_encode`). Main
statement: `Decoder.pushAll_encode`, for streams of reports with noise around them.
-/

namespace PointerDesktop

/-- A movement, `dy` growing upward, with the buttons that are held. An axis overflows if the device
moved by more than it can say. -/
structure Report where
  dx : Int
  dy : Int
  buttons : Buttons
  xOverflows : Bool
  yOverflows : Bool
  dx_range : -256 ≤ dx ∧ dx ≤ 255
  dy_range : -256 ≤ dy ∧ dy ≤ 255
  buttons_exist : Buttons.all.contains buttons = true

namespace Packet

/-- The first byte of a packet without buttons: the bit that is always set, signs and overflows. -/
def header (xNegative yNegative xOverflows yOverflows : Bool) : UInt8 :=
  let flag := fun (mask : UInt8) (set : Bool) => if set then mask else 0
  alwaysOne ||| flag xSign xNegative ||| flag ySign yNegative ||| flag xOverflow xOverflows |||
    flag yOverflow yOverflows

theorem hasBit_header (a b c e : Bool) :
    hasBit (header a b c e) alwaysOne = true ∧ hasBit (header a b c e) xSign = a ∧
      hasBit (header a b c e) ySign = b ∧ hasBit (header a b c e) xOverflow = c ∧
      hasBit (header a b c e) yOverflow = e ∧ overflowed (header a b c e) = (c || e) ∧
      header a b c e &&& 7 = 0 := by
  revert a b c e
  decide

/-- A displacement is read off its low byte and its sign. -/
theorem displacement_ofInt {v : Int} (hv : -256 ≤ v ∧ v ≤ 255) :
    displacement (.ofInt v) (v < 0) = v := by
  have hlow : (UInt8.ofInt v).toNat = (v % 256).toNat := by
    unfold UInt8.ofInt
    rw [UInt8.toNat_ofNat_of_lt']
    · rfl
    · show _ < 256
      omega
  unfold displacement
  rw [hlow]
  split
  · next h =>
    have hneg : v < 0 := of_decide_eq_true h
    omega
  · next h =>
    have hpos : ¬ v < 0 := fun hneg => h (decide_eq_true hneg)
    omega

end Packet

namespace Report

def header (r : Report) : UInt8 := Packet.header (r.dx < 0) (r.dy < 0) r.xOverflows r.yOverflows

/-- What a decoder makes of the report: an axis that overflowed has not moved. -/
def packet (r : Report) : Packet where
  dx := if r.xOverflows then 0 else r.dx
  dy := if r.yOverflows then 0 else r.dy
  buttons := r.buttons

variable (r : Report)

theorem bits_and_seven : r.buttons.bits &&& 7 = r.buttons.bits := by
  have h := r.buttons_exist
  unfold Buttons.contains Buttons.all at h
  rw [UInt8.and_comm]
  exact beq_iff_eq.1 h

/-- The buttons are in the low three bits of the first byte and leave the others alone. -/
theorem or_header_and {mask : UInt8} (hmask : 7 &&& mask = 0) :
    (r.buttons.bits ||| r.header) &&& mask = r.header &&& mask := by
  rw [Packet.or_and, ← r.bits_and_seven, UInt8.and_assoc, hmask, UInt8.and_zero, UInt8.zero_or]

theorem hasBit_or_header {mask : UInt8} (hmask : 7 &&& mask = 0) :
    Packet.hasBit (r.buttons.bits ||| r.header) mask = Packet.hasBit r.header mask := by
  unfold Packet.hasBit
  rw [r.or_header_and hmask]

/-- The report as three bytes: buttons and header, then the low bytes of the displacements. -/
def encode : Packet.Bytes where
  status := r.buttons.bits ||| r.header
  x := .ofInt r.dx
  y := .ofInt r.dy
  starts := by
    rw [r.hasBit_or_header (by decide)]
    exact (Packet.hasBit_header ..).1

theorem overflowed_encode :
    Packet.overflowed r.encode.status = (r.xOverflows || r.yOverflows) := by
  obtain ⟨-, -, -, -, -, h, -⟩ := Packet.hasBit_header (r.dx < 0) (r.dy < 0) r.xOverflows r.yOverflows
  rw [← h]
  exact r.hasBit_or_header (by decide)

theorem packet_encode : r.encode.packet = r.packet := by
  obtain ⟨-, hx, hy, hxo, hyo, -, hlow⟩ :=
    Packet.hasBit_header (r.dx < 0) (r.dy < 0) r.xOverflows r.yOverflows
  have hbuttons : (r.buttons.bits ||| r.header) &&& 7 = r.buttons.bits := by
    rw [Packet.or_and, r.bits_and_seven]
    unfold header
    rw [hlow, UInt8.or_zero]
  unfold Packet.Bytes.packet Packet.ofBytes encode Buttons.ofStatus Buttons.all packet
  dsimp only
  rw [r.hasBit_or_header (by decide), r.hasBit_or_header (by decide), r.hasBit_or_header (by decide),
    r.hasBit_or_header (by decide), hbuttons]
  unfold header
  rw [hx, hy, hxo, hyo, Packet.displacement_ofInt r.dx_range, Packet.displacement_ofInt r.dy_range]

end Report

/-- A decoder with nothing pending reads a stream of reports, with noise before each of them and after
the last, as it was meant: the first two bytes of a report come to nothing yet, the third to what it
says; every byte of noise is dropped. In the end nothing is pending, and reports, noise and overflows
have been counted, in words. -/
theorem Decoder.pushAll_encode {d : Decoder} (hd : d.pending = 0)
    {stream : List (List UInt8 × Report)} {rest : List UInt8}
    (hnoise : ∀ s ∈ stream, ∀ b ∈ s.1, Packet.IsNoise b) (hrest : ∀ b ∈ rest, Packet.IsNoise b) :
    let (results, after) :=
      d.pushAll ((stream.flatMap fun s => s.1 ++ s.2.encode.toList) ++ rest)
    results = (stream.flatMap fun s => dropped s.1 ++ read s.2.packet) ++ dropped rest ∧
      packets results = stream.map (·.2.packet) ∧
      after.pending = 0 ∧
      after.stats =
        { packets := d.stats.packets + .ofNat stream.length
          resyncBytes :=
            d.stats.resyncBytes + .ofNat ((stream.flatMap (·.1)).length + rest.length)
          overflowPackets := d.stats.overflowPackets +
            .ofNat (stream.countP fun s => s.2.xOverflows || s.2.yOverflows) } := by
  have hstream := pushAll_stream Report.encode (pending_eq_zero.1 hd) hnoise
  have hlast := pushAll_noise
    (d := (d.pushAll (stream.flatMap fun s => s.1 ++ s.2.encode.toList)).2) (by rw [hstream]) hrest
  rw [pushAll_append, hlast, hstream]
  simp only [Report.packet_encode, Report.overflowed_encode, packets_append, packets_flatMap,
    packets_dropped, packets_read, List.nil_append, List.append_nil, UInt64.ofNat_add,
    UInt64.add_assoc]
  exact ⟨trivial, List.map_eq_flatMap.symm, rfl, trivial⟩

/-- Payload that looks like the start of a packet, noise in front and behind, and an axis that has
overflowed. -/
theorem Decoder.pushAll_encode_amid_noise :
    let far : Report := ⟨-256, 255, ⟨5⟩, false, false, by decide, by decide, by decide⟩
    let lost : Report := ⟨-1, 8, .none, true, false, by decide, by decide, by decide⟩
    let stream : List (List UInt8 × Report) := [([0x00, 0xF7], far), ([], lost)]
    let bytes : List UInt8 := [0x00, 0xF7, 0x1D, 0x00, 0xFF, 0x58, 0xFF, 0x08, 0x12]
    let d : Decoder := { stats := { packets := 7 } }
    d.pending = 0 ∧ (∀ s ∈ stream, ∀ b ∈ s.1, Packet.IsNoise b) ∧
      (∀ b ∈ [0x12], Packet.IsNoise b) ∧
      (stream.flatMap fun s => s.1 ++ s.2.encode.toList) ++ [0x12] = bytes ∧
      packets (d.pushAll bytes).1 = [⟨-256, 255, ⟨5⟩⟩, ⟨0, 8, .none⟩] ∧
      (d.pushAll bytes).2.pending = 0 ∧ (d.pushAll bytes).2.stats = ⟨9, 3, 1⟩ := by
  intro far lost stream bytes d
  have hnoise : ∀ s ∈ stream, ∀ b ∈ s.1, Packet.IsNoise b := by
    unfold Packet.IsNoise
    decide +kernel
  have hrest : ∀ b ∈ [0x12], Packet.IsNoise b := by
    unfold Packet.IsNoise
    decide +kernel
  have hbytes : (stream.flatMap fun s => s.1 ++ s.2.encode.toList) ++ [0x12] = bytes := by decide
  have hread := pushAll_encode (d := d) rfl hnoise hrest
  rw [hbytes] at hread
  obtain ⟨-, hpackets, hpending, hstats⟩ := hread
  exact ⟨rfl, hnoise, hrest, hbytes, hpackets, hpending, hstats⟩

end PointerDesktop
