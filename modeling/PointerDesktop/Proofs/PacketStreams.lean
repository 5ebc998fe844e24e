import PointerDesktop.Pointer.Packet

/-!
# Streams of packets

`Decoder.run` gives a decoder bytes, and now and then a reset, and lists the results of the pushes. A
packet's bytes complete it if nothing is pending before them (`Decoder.pushAll_bytes`), whatever the
last two of them look like; bytes that cannot start a packet are dropped one by one
(`Decoder.pushAll_noise`). So a stream of packets with such bytes between them is read exactly
(`Decoder.pushAll_stream`).
-/

namespace PointerDesktop

theorem Packet.or_and (a b mask : UInt8) :
    (a ||| b) &&& mask = a &&& mask ||| b &&& mask := by
  simp only [← UInt8.toBitVec_inj, UInt8.toBitVec_and, UInt8.toBitVec_or]
  ext i hi
  simp [Bool.and_or_distrib_right]

/-- The three bytes of a packet. -/
structure Packet.Bytes where
  status : UInt8
  x : UInt8
  y : UInt8
  starts : Packet.hasBit status Packet.alwaysOne = true

namespace Packet.Bytes

def toList (b : Bytes) : List UInt8 := [b.status, b.x, b.y]

def packet (b : Bytes) : Packet := .ofBytes b.status b.x b.y

end Packet.Bytes

/-- A byte that cannot start a packet. -/
def Packet.IsNoise (byte : UInt8) : Prop := hasBit byte alwaysOne = false

namespace Decoder

/-- What the push of a byte comes to: a packet, none yet, or the byte is dropped. -/
abbrev Result := Except WindowError (Option Packet)

inductive Input where
  | byte (byte : UInt8)
  | reset

def take (d : Decoder) : Input → List Result × Decoder
  | .byte byte => ([(d.push byte).1], (d.push byte).2)
  | .reset => ([], d.reset)

/-- Takes inputs from the first to the last; one result for each byte. -/
def run (d : Decoder) : List Input → List Result × Decoder
  | [] => ([], d)
  | i :: is => ((d.take i).1 ++ ((d.take i).2.run is).1, ((d.take i).2.run is).2)

/-- Pushes bytes from the first to the last. -/
def pushAll (d : Decoder) (bytes : List UInt8) : List Result × Decoder :=
  d.run (bytes.map .byte)

/-- The packets among the results. -/
def packets (results : List Result) : List Packet :=
  results.filterMap fun
    | .ok packet => packet
    | .error _ => none

/-- The results of pushing bytes that a decoder drops. -/
def dropped (bytes : List UInt8) : List Result := bytes.map fun _ => .error .malformedPacket

/-- The results of pushing the bytes of a packet. -/
def read (packet : Packet) : List Result := [.ok none, .ok none, .ok (some packet)]

variable {d : Decoder} {is js : List Input}

theorem run_append (d : Decoder) (is js : List Input) :
    d.run (is ++ js) =
      ((d.run is).1 ++ ((d.run is).2.run js).1, ((d.run is).2.run js).2) := by
  induction is generalizing d with
  | nil => rfl
  | cons i is ih => simp only [List.cons_append, run, ih, List.append_assoc]

theorem run_concat (d : Decoder) (is : List Input) (i : Input) :
    d.run (is ++ [i]) = ((d.run is).1 ++ ((d.run is).2.take i).1, ((d.run is).2.take i).2) := by
  rw [run_append]
  simp only [run, List.append_nil]

theorem pushAll_append (d : Decoder) (bytes more : List UInt8) :
    d.pushAll (bytes ++ more) =
      ((d.pushAll bytes).1 ++ ((d.pushAll bytes).2.pushAll more).1,
        ((d.pushAll bytes).2.pushAll more).2) := by
  unfold pushAll
  rw [List.map_append, run_append]

theorem pushAll_cons (d : Decoder) (byte : UInt8) (bytes : List UInt8) :
    d.pushAll (byte :: bytes) =
      ((d.push byte).1 :: ((d.push byte).2.pushAll bytes).1,
        ((d.push byte).2.pushAll bytes).2) := rfl

@[simp] theorem packets_append (rs qs : List Result) :
    packets (rs ++ qs) = packets rs ++ packets qs :=
  List.filterMap_append

theorem pending_eq_zero : d.pending = 0 ↔ d.phase = .empty := by
  unfold pending Phase.pending
  cases d.phase <;> simp

/-! ### Pushes, by what is pending -/

theorem push_start (hd : d.phase = .empty) {byte : UInt8}
    (hbyte : Packet.hasBit byte Packet.alwaysOne = true) :
    d.push byte = (.ok none, { d with phase := .one byte }) := by
  unfold push
  rw [hd]
  exact if_pos hbyte

theorem push_noise (hd : d.phase = .empty) {byte : UInt8} (hbyte : Packet.IsNoise byte) :
    d.push byte =
      (.error .malformedPacket, { d with stats.resyncBytes := d.stats.resyncBytes + 1 }) := by
  unfold push
  rw [hd]
  exact if_neg (by rw [hbyte]; exact Bool.false_ne_true)

theorem push_second {status : UInt8} (hd : d.phase = .one status) (byte : UInt8) :
    d.push byte = (.ok none, { d with phase := .two status byte }) := by
  unfold push
  rw [hd]

theorem push_third {status x : UInt8} (hd : d.phase = .two status x) (byte : UInt8) :
    d.push byte =
      (.ok (some (.ofBytes status x byte)),
        { phase := .empty
          stats :=
            { d.stats with
              packets := d.stats.packets + 1
              overflowPackets :=
                d.stats.overflowPackets + if Packet.overflowed status then 1 else 0 } }) := by
  unfold push
  rw [hd]

/-- All that a push can do. -/
theorem push_cases (d : Decoder) (byte : UInt8) :
    (d.phase = .empty ∧ Packet.hasBit byte Packet.alwaysOne = true ∧
        d.push byte = (.ok none, { d with phase := .one byte })) ∨
      (d.phase = .empty ∧ Packet.IsNoise byte ∧
        d.push byte =
          (.error .malformedPacket,
            { d with stats.resyncBytes := d.stats.resyncBytes + 1 })) ∨
      (∃ status, d.phase = .one status ∧
        d.push byte = (.ok none, { d with phase := .two status byte })) ∨
      ∃ status x, d.phase = .two status x ∧
        d.push byte =
          (.ok (some (.ofBytes status x byte)),
            { phase := .empty
              stats :=
                { d.stats with
                  packets := d.stats.packets + 1
                  overflowPackets :=
                    d.stats.overflowPackets + if Packet.overflowed status then 1 else 0 } }) := by
  cases hphase : d.phase with
  | empty =>
    cases hbyte : Packet.hasBit byte Packet.alwaysOne with
    | true => exact .inl ⟨rfl, rfl, push_start hphase hbyte⟩
    | false => exact .inr (.inl ⟨rfl, hbyte, by rw [push_noise hphase hbyte, hphase]⟩)
  | one status => exact .inr (.inr (.inl ⟨status, rfl, push_second hphase byte⟩))
  | two status x => exact .inr (.inr (.inr ⟨status, x, rfl, push_third hphase byte⟩))

/-! ### Whole streams -/

theorem pushAll_noise (hd : d.phase = .empty) {bytes : List UInt8}
    (hbytes : ∀ b ∈ bytes, Packet.IsNoise b) :
    d.pushAll bytes =
      (dropped bytes,
        { d with stats.resyncBytes := d.stats.resyncBytes + .ofNat bytes.length }) := by
  induction bytes generalizing d with
  | nil =>
    obtain ⟨phase, stats⟩ := d
    simp [pushAll, run, dropped]
  | cons b bytes ih =>
    have hb := push_noise hd (hbytes b List.mem_cons_self)
    have hrest := ih (d := (d.push b).2) (by rw [hb]; exact hd)
      fun b' h => hbytes b' (List.mem_cons_of_mem _ h)
    rw [pushAll_cons, hrest, hb, List.length_cons, UInt64.ofNat_add, UInt64.add_comm (.ofNat _),
      ← UInt64.add_assoc]
    rfl

theorem pushAll_bytes (hd : d.phase = .empty) (b : Packet.Bytes) :
    d.pushAll b.toList =
      (read b.packet,
        { phase := .empty
          stats :=
            { d.stats with
              packets := d.stats.packets + 1
              overflowPackets :=
                d.stats.overflowPackets + if Packet.overflowed b.status then 1 else 0 } }) := by
  unfold Packet.Bytes.toList
  rw [pushAll_cons, push_start hd b.starts]
  rfl

/-- A stream of packets, each given by what it is encoded from and with noise before it. -/
theorem pushAll_stream {α : Type} (encode : α → Packet.Bytes) (hd : d.phase = .empty)
    {stream : List (List UInt8 × α)} (hnoise : ∀ s ∈ stream, ∀ b ∈ s.1, Packet.IsNoise b) :
    d.pushAll (stream.flatMap fun s => s.1 ++ (encode s.2).toList) =
      (stream.flatMap fun s => dropped s.1 ++ read (encode s.2).packet,
        { phase := .empty
          stats :=
            { packets := d.stats.packets + .ofNat stream.length
              resyncBytes := d.stats.resyncBytes + .ofNat (stream.flatMap (·.1)).length
              overflowPackets := d.stats.overflowPackets +
                .ofNat (stream.countP fun s => Packet.overflowed (encode s.2).status) } }) := by
  induction stream generalizing d with
  | nil =>
    obtain ⟨phase, stats⟩ := d
    cases hd
    simp [pushAll, run]
  | cons s stream ih =>
    have hdrop := pushAll_noise hd (hnoise s List.mem_cons_self)
    have hread := pushAll_bytes (d := (d.pushAll s.1).2) (by rw [hdrop]; exact hd) (encode s.2)
    have hrest := ih (d := ((d.pushAll s.1).2.pushAll (encode s.2).toList).2) (by rw [hread])
      fun s' h => hnoise s' (List.mem_cons_of_mem _ h)
    rw [List.flatMap_cons, pushAll_append, pushAll_append, hrest, hread, hdrop]
    simp only [List.flatMap_cons, List.append_assoc, List.length_cons, List.length_append,
      List.countP_cons, UInt64.ofNat_add, Prod.mk.injEq, mk.injEq, Stats.mk.injEq, true_and]
    refine ⟨?_, ?_, ?_⟩
    · rw [UInt64.add_assoc, UInt64.add_comm 1]
      rfl
    · exact UInt64.add_assoc ..
    · rw [UInt64.add_assoc, UInt64.add_comm (ite ..)]
      split <;> rfl

/-- A stream of packets without noise. -/
theorem pushAll_packets (hd : d.phase = .empty) (stream : List Packet.Bytes) :
    d.pushAll (stream.flatMap (·.toList)) =
      (stream.flatMap fun b => read b.packet,
        { phase := .empty
          stats :=
            { d.stats with
              packets := d.stats.packets + .ofNat stream.length
              overflowPackets := d.stats.overflowPackets +
                .ofNat (stream.countP fun b => Packet.overflowed b.status) } }) := by
  have hnone : (stream.map fun b => (([] : List UInt8), b)).flatMap (·.1) = [] := by simp
  have hnoise : ∀ s ∈ stream.map fun b => (([] : List UInt8), b), ∀ b ∈ s.1, Packet.IsNoise b := by
    simp
  have hread := pushAll_stream id hd hnoise
  rw [hnone] at hread
  simpa [List.flatMap_map, List.countP_map, dropped, Function.comp_def] using hread

@[simp] theorem packets_dropped (bytes : List UInt8) : packets (dropped bytes) = [] := by
  unfold packets dropped
  simp

@[simp] theorem packets_read (packet : Packet) : packets (read packet) = [packet] := rfl

theorem packets_flatMap {α : Type} (l : List α) (results : α → List Result) :
    packets (l.flatMap results) = l.flatMap fun a => packets (results a) :=
  List.filterMap_flatMap

end Decoder
end PointerDesktop
