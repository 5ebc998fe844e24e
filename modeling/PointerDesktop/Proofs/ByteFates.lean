import PointerDesktop.Proofs.CutStreams

/-!
# What becomes of every byte

A byte that a decoder is handed becomes part of a packet, is dropped because it cannot start one, is
lost to a reset, or is still pending. `Decoder.Fate` is what becomes of the bytes from a moment with
nothing pending to the next one. Whatever a fresh decoder is handed comes down to fates, one after the
other, and to what is pending in the end (`Decoder.comesTo_run`). The results tell of all bytes but
those (`Decoder.told_run`), and the counters count the results in words (`Decoder.tally_run`). Main
statement: `Decoder.accounts_for_bytes`.
-/

namespace PointerDesktop
namespace Packet

/-- What the three bytes of a packet say: two displacements of nine bits, whose signs are bits 4 and 5 of
the first byte, and the buttons in its bits 0 to 2. An axis with its overflow bit set, which is bit 6 or
7, has not moved. -/
def Bytes.content (b : Bytes) : Packet where
  dx := if b.status.toBitVec[6] then 0 else (b.x.toBitVec.cons b.status.toBitVec[4]).toInt
  dy := if b.status.toBitVec[7] then 0 else (b.y.toBitVec.cons b.status.toBitVec[5]).toInt
  buttons := ⟨b.status &&& 7⟩

/-- Masks with one bit. -/
theorem hasBit_twoPow (byte : UInt8) (i : Nat) (h : i < 8) :
    hasBit byte (.ofBitVec (.twoPow 8 i)) = byte.toBitVec[i] := by
  have hand : byte &&& .ofBitVec (.twoPow 8 i) =
      .ofBitVec (if byte.toBitVec[i] then .twoPow 8 i else 0#8) :=
    congrArg UInt8.ofBitVec (BitVec.and_twoPow ..)
  have hne : UInt8.ofBitVec (.twoPow 8 i) ≠ 0 := by
    intro hzero
    have hbit := congrArg (fun b : UInt8 => b.toBitVec[i]) hzero
    simp [BitVec.getElem_twoPow] at hbit
  unfold hasBit
  rw [hand]
  cases byte.toBitVec[i] with
  | true => exact bne_iff_ne.2 hne
  | false => rfl

theorem hasBit_or (byte a b : UInt8) : hasBit byte (a ||| b) = (hasBit byte a || hasBit byte b) := by
  unfold hasBit
  rw [UInt8.and_comm, or_and, UInt8.and_comm a, UInt8.and_comm b, Bool.eq_iff_iff, Bool.or_eq_true,
    bne_iff_ne, bne_iff_ne, bne_iff_ne, ne_eq, UInt8.or_eq_zero_iff]
  tauto

theorem overflowed_eq (status : UInt8) :
    overflowed status = (status.toBitVec[6] || status.toBitVec[7]) := by
  unfold overflowed
  rw [hasBit_or]
  exact congrArg₂ or (hasBit_twoPow status 6 (by decide)) (hasBit_twoPow status 7 (by decide))

/-- A low byte and a sign are a number of nine bits. -/
theorem displacement_eq_toInt (low : UInt8) (negative : Bool) :
    displacement low negative = (low.toBitVec.cons negative).toInt := by
  have hlow : low.toBitVec.toNat = low.toNat := rfl
  rw [BitVec.toInt_eq_msb_cond, BitVec.msb_cons, BitVec.toNat_cons', hlow]
  unfold displacement
  cases negative with
  | true =>
    simp only [if_true, Bool.toNat_true]
    omega
  | false =>
    simp only [Bool.false_eq_true, if_false, Bool.toNat_false]
    omega

theorem Bytes.packet_eq_content (b : Bytes) : b.packet = b.content := by
  have hxs : hasBit b.status xSign = b.status.toBitVec[4] := hasBit_twoPow _ 4 (by decide)
  have hys : hasBit b.status ySign = b.status.toBitVec[5] := hasBit_twoPow _ 5 (by decide)
  have hxo : hasBit b.status xOverflow = b.status.toBitVec[6] := hasBit_twoPow _ 6 (by decide)
  have hyo : hasBit b.status yOverflow = b.status.toBitVec[7] := hasBit_twoPow _ 7 (by decide)
  unfold Bytes.packet ofBytes content
  rw [hxs, hys, hxo, hyo, displacement_eq_toInt, displacement_eq_toInt]
  rfl

end Packet

namespace Decoder

/-- The bytes that are pending. -/
def Phase.bytes : Phase → List UInt8
  | .empty => []
  | .one status => [status]
  | .two status x => [status, x]

/-- What becomes of the bytes from a moment with nothing pending to the next one. -/
inductive Fate where
  /-- Three of them make a packet. -/
  | packet (bytes : Packet.Bytes)
  /-- One that cannot start a packet is dropped. -/
  | noise (byte : UInt8) (h : Packet.IsNoise byte)
  /-- A reset comes when some are pending, or none. -/
  | cut (pending : Phase)

namespace Fate

def inputs : Fate → List Input
  | .packet bytes => bytes.toList.map .byte
  | .noise byte _ => [.byte byte]
  | .cut pending => pending.bytes.map .byte ++ [.reset]

def results : Fate → List Result
  | .packet bytes => read bytes.packet
  | .noise byte _ => dropped [byte]
  | .cut pending => pending.bytes.map fun _ => .ok none

/-- The bytes of the packet, if it is one. -/
def packet? : Fate → Option Packet.Bytes
  | .packet bytes => some bytes
  | .noise .. | .cut _ => none

end Fate

/-- The packets among fates, as bytes. -/
def made (fs : List Fate) : List Packet.Bytes := fs.filterMap (·.packet?)

/-- Inputs `is` with results `rs` come to fates, one after the other, and to what is pending in `d`. -/
structure ComesTo (is : List Input) (rs : List Result) (fs : List Fate) (d : Decoder) : Prop where
  inputs : is = fs.flatMap (·.inputs) ++ d.phase.bytes.map .byte
  results : rs = fs.flatMap (·.results) ++ d.phase.bytes.map fun _ => .ok none
  overflows :
    d.stats.overflowPackets = .ofNat ((made fs).countP fun b => Packet.overflowed b.status)
  starts : ∀ status ∈ d.phase.bytes.head?, Packet.hasBit status Packet.alwaysOne = true

/-- How many bytes resets drop of what a decoder is handed: at each of them, those that are pending. -/
def lost (d : Decoder) : List Input → Nat
  | [] => 0
  | .byte b :: is => (d.push b).2.lost is
  | .reset :: is => d.pending + d.reset.lost is

/-- The results that tell of a dropped byte. -/
def errors (rs : List Result) : List Result := rs.filter fun r => !r.isOk

/-- The bytes that results tell of: those that were dropped and those of the packets. -/
def told (rs : List Result) : Nat := (errors rs).length + 3 * (packets rs).length

variable {d : Decoder} {is : List Input} {rs : List Result} {fs : List Fate}

/-! ### Counts -/

theorem pending_lt (d : Decoder) : d.pending < 3 := by
  unfold pending Phase.pending
  split <;> omega

theorem errors_append (rs more : List Result) : errors (rs ++ more) = errors rs ++ errors more :=
  List.filter_append ..

theorem told_append (rs more : List Result) : told (rs ++ more) = told rs + told more := by
  unfold told
  rw [errors_append, packets_append, List.length_append, List.length_append]
  omega

theorem told_push (d : Decoder) (b : UInt8) :
    told [(d.push b).1] + (d.push b).2.pending = d.pending + 1 := by
  rcases d.push_cases b with ⟨hphase, -, h⟩ | ⟨hphase, -, h⟩ | ⟨status, hphase, h⟩ |
    ⟨status, x, hphase, h⟩
  all_goals
    rw [h]
    unfold pending
    rw [hphase]
    rfl

/-- No byte gets lost but to a reset. -/
theorem told_run (d : Decoder) (is : List Input) :
    told (d.run is).1 + (d.run is).2.pending + d.lost is = d.pending + (bytesOf is).length := by
  induction is generalizing d with
  | nil => exact Nat.zero_add _
  | cons i is ih =>
    cases i with
    | byte b =>
      have hpush := d.told_push b
      have hrest := ih (d.push b).2
      show told ([(d.push b).1] ++ ((d.push b).2.run is).1) + ((d.push b).2.run is).2.pending +
        (d.push b).2.lost is = d.pending + ((bytesOf is).length + 1)
      rw [told_append]
      omega
    | reset =>
      have hrest := ih d.reset
      have hreset : d.reset.pending = 0 := rfl
      show told (d.reset.run is).1 + (d.reset.run is).2.pending + (d.pending + d.reset.lost is) =
        d.pending + (bytesOf is).length
      omega

/-- What a push tells is what it counts. -/
theorem tally_push (d : Decoder) (b : UInt8) :
    (d.push b).2.stats.packets = d.stats.packets + .ofNat (packets [(d.push b).1]).length ∧
      (d.push b).2.stats.resyncBytes =
        d.stats.resyncBytes + .ofNat (errors [(d.push b).1]).length := by
  rcases d.push_cases b with ⟨-, -, h⟩ | ⟨-, -, h⟩ | ⟨status, -, h⟩ | ⟨status, x, -, h⟩
  · rw [h]
    exact ⟨(UInt64.add_zero _).symm, (UInt64.add_zero _).symm⟩
  · rw [h]
    exact ⟨(UInt64.add_zero _).symm, rfl⟩
  · rw [h]
    exact ⟨(UInt64.add_zero _).symm, (UInt64.add_zero _).symm⟩
  · rw [h]
    exact ⟨rfl, (UInt64.add_zero _).symm⟩

theorem tally_run (d : Decoder) (is : List Input) :
    (d.run is).2.stats.packets = d.stats.packets + .ofNat (packets (d.run is).1).length ∧
      (d.run is).2.stats.resyncBytes =
        d.stats.resyncBytes + .ofNat (errors (d.run is).1).length := by
  induction is using List.reverseRecOn with
  | nil => exact ⟨(UInt64.add_zero _).symm, (UInt64.add_zero _).symm⟩
  | append_singleton is i ih =>
    rw [run_concat, packets_append, errors_append, List.length_append, List.length_append,
      UInt64.ofNat_add, UInt64.ofNat_add, ← UInt64.add_assoc, ← UInt64.add_assoc, ← ih.1, ← ih.2]
    cases i with
    | byte b => exact tally_push _ b
    | reset => exact ⟨(UInt64.add_zero _).symm, (UInt64.add_zero _).symm⟩

/-! ### Fates -/

theorem packets_results (fs : List Fate) :
    packets (fs.flatMap (·.results)) = (made fs).map (·.packet) := by
  induction fs with
  | nil => rfl
  | cons f fs ih =>
    rw [List.flatMap_cons, packets_append, ih]
    cases f with
    | packet bytes => rfl
    | noise byte h => rfl
    | cut pending => cases pending <;> rfl

namespace ComesTo
variable {d' : Decoder}

/-- One byte more is pending. -/
theorem wait (h : ComesTo is rs fs d) {b : UInt8} (hbytes : d'.phase.bytes = d.phase.bytes ++ [b])
    (hstats : d'.stats = d.stats)
    (hstarts : ∀ status ∈ d'.phase.bytes.head?, Packet.hasBit status Packet.alwaysOne = true) :
    ComesTo (is ++ [.byte b]) (rs ++ [.ok none]) fs d' := by
  obtain ⟨rfl, rfl, hoverflows, -⟩ := h
  refine ⟨?_, ?_, by rw [hstats, hoverflows], hstarts⟩
  · rw [hbytes, List.map_append, List.append_assoc]
    rfl
  · rw [hbytes, List.map_append, List.append_assoc]
    rfl

/-- What is pending comes to a fate with what comes next. -/
theorem close (h : ComesTo is rs fs d) {f : Fate} {js : List Input} {qs : List Result}
    (hinputs : f.inputs = d.phase.bytes.map .byte ++ js)
    (hresults : f.results = (d.phase.bytes.map fun _ => .ok none) ++ qs) (hphase : d'.phase = .empty)
    (hstats : d'.stats.overflowPackets = d.stats.overflowPackets +
      .ofNat ((made [f]).countP fun b => Packet.overflowed b.status)) :
    ComesTo (is ++ js) (rs ++ qs) (fs ++ [f]) d' := by
  obtain ⟨rfl, rfl, hoverflows, -⟩ := h
  refine ⟨?_, ?_, ?_, ?_⟩
  · rw [hphase, List.flatMap_append, List.flatMap_singleton, hinputs, List.append_assoc]
    exact (List.append_nil _).symm
  · rw [hphase, List.flatMap_append, List.flatMap_singleton, hresults, List.append_assoc]
    exact (List.append_nil _).symm
  · rw [hstats, hoverflows, ← UInt64.ofNat_add, ← List.countP_append]
    exact congrArg (fun bs => UInt64.ofNat (List.countP _ bs)) List.filterMap_append.symm
  · rw [hphase]
    rintro status ⟨⟩

theorem push (h : ComesTo is rs fs d) (b : UInt8) :
    ∃ fs', ComesTo (is ++ [.byte b]) (rs ++ [(d.push b).1]) fs' (d.push b).2 := by
  have hstarts := h.starts
  rcases d.push_cases b with ⟨hphase, hb, hpush⟩ | ⟨hphase, hb, hpush⟩ | ⟨status, hphase, hpush⟩ |
    ⟨status, x, hphase, hpush⟩
  · rw [hpush]
    refine ⟨fs, h.wait (by rw [hphase]; rfl) rfl ?_⟩
    rintro status ⟨⟩
    exact hb
  · rw [hpush]
    exact ⟨_, h.close (f := .noise b hb) (by rw [hphase]; rfl) (by rw [hphase]; rfl) hphase
      (UInt64.add_zero _).symm⟩
  · rw [hphase] at hstarts
    rw [hpush]
    exact ⟨fs, h.wait (by rw [hphase]; rfl) rfl hstarts⟩
  · rw [hphase] at hstarts
    rw [hpush]
    refine ⟨_, h.close (f := .packet ⟨status, x, b, hstarts _ rfl⟩) (by rw [hphase]; rfl)
      (by rw [hphase]; rfl) rfl ?_⟩
    show _ = _ + UInt64.ofNat (List.countP _ [_])
    rw [List.countP_singleton]
    split <;> rfl

theorem reset (h : ComesTo is rs fs d) : ∃ fs', ComesTo (is ++ [.reset]) rs fs' d.reset := by
  have hclose : ComesTo (is ++ [.reset]) (rs ++ []) (fs ++ [.cut d.phase]) d.reset :=
    h.close rfl (List.append_nil _).symm rfl (UInt64.add_zero _).symm
  rw [List.append_nil] at hclose
  exact ⟨_, hclose⟩

end ComesTo

/-- Whatever a fresh decoder is handed comes to fates. -/
theorem comesTo_run (is : List Input) :
    ∃ fs, ComesTo is (run {} is).1 fs (run {} is).2 := by
  induction is using List.reverseRecOn with
  | nil => exact ⟨[], rfl, rfl, rfl, by rintro _ ⟨⟩⟩
  | append_singleton is i ih =>
    obtain ⟨fs, h⟩ := ih
    rw [run_concat]
    cases i with
    | byte b => exact h.push b
    | reset =>
      show ∃ fs, ComesTo _ ((run {} is).1 ++ []) fs _
      rw [List.append_nil]
      exact h.reset

theorem ComesTo.packets (h : ComesTo is rs fs d) :
    Decoder.packets rs = (made fs).map (·.packet) := by
  have hpending : Decoder.packets (d.phase.bytes.map fun _ => .ok none) = [] := by
    cases d.phase <;> rfl
  rw [h.results, packets_append, packets_results, hpending, List.append_nil]

/-- Every byte that a fresh decoder is handed is accounted for, whatever comes and whenever it is reset:
it was dropped, or is part of a packet, or is pending, or was lost to a reset. Packets and dropped bytes
are counted as they are told, and packets with an overflow bit in their first byte are counted apart; the
counters are words, and exact as long as there are not too many bytes for a word. And the inputs come to
fates one after the other, each with its results: so a packet is made of three bytes with no reset
between them, of which the first has bit 3 set, it is told when the third of them comes, it says what
their bits say, and it shares no byte with another packet. -/
theorem accounts_for_bytes (is : List Input) :
    let (results, d) := run {} is
    (bytesOf is).length =
        (errors results).length + 3 * (packets results).length + d.pending + lost {} is ∧
      d.stats.packets = .ofNat (packets results).length ∧
      d.stats.resyncBytes = .ofNat (errors results).length ∧
      ((bytesOf is).length < UInt64.size →
        (bytesOf is).length =
            d.stats.resyncBytes.toNat + 3 * d.stats.packets.toNat + d.pending + lost {} is ∧
          d.stats.packets.toNat = (packets results).length ∧
          d.stats.resyncBytes.toNat = (errors results).length) ∧
      d.pending < 3 ∧
      ∃ fates : List Fate,
        is = fates.flatMap (·.inputs) ++ d.phase.bytes.map .byte ∧
        results = fates.flatMap (·.results) ++ d.phase.bytes.map (fun _ => .ok none) ∧
        packets results = (made fates).map (·.content) ∧
        (∀ b ∈ made fates, b.status.toBitVec[3] = true) ∧
        d.stats.overflowPackets =
          .ofNat ((made fates).countP fun b => b.status.toBitVec[6] || b.status.toBitVec[7]) := by
  have htold : told (run {} is).1 + (run {} is).2.pending + lost {} is = 0 + _ := told_run {} is
  unfold told at htold
  obtain ⟨hpackets, herrors⟩ := tally_run {} is
  rw [show ({} : Decoder).stats.packets = 0 from rfl, UInt64.zero_add] at hpackets
  rw [show ({} : Decoder).stats.resyncBytes = 0 from rfl, UInt64.zero_add] at herrors
  obtain ⟨fates, hfates⟩ := comesTo_run is
  refine ⟨by omega, hpackets, herrors, ?_, pending_lt _, fates, hfates.inputs, hfates.results, ?_,
    ?_, ?_⟩
  · intro hfew
    have hp : (run {} is).2.stats.packets.toNat = (packets (run {} is).1).length := by
      rw [hpackets]
      exact UInt64.toNat_ofNat_of_lt' (by omega)
    have he : (run {} is).2.stats.resyncBytes.toNat = (errors (run {} is).1).length := by
      rw [herrors]
      exact UInt64.toNat_ofNat_of_lt' (by omega)
    exact ⟨by omega, hp, he⟩
  · rw [hfates.packets]
    exact List.map_congr_left fun b _ => b.packet_eq_content
  · intro b _
    rw [← Packet.hasBit_twoPow b.status 3 (by decide)]
    exact b.starts
  · rw [hfates.overflows]
    congr 1
    exact List.countP_congr fun b _ => by rw [Packet.overflowed_eq]

/-- A packet, a byte that starts none, one that is lost to a reset, and one that is pending. -/
example : run {} [.byte 0x48, .byte 0xFF, .byte 0x05, .byte 0x07, .byte 0x09, .reset, .byte 0x08] =
    ([.ok none, .ok none, .ok (some ⟨0, 5, .none⟩), .error .malformedPacket, .ok none, .ok none],
      ⟨.one 0x08, ⟨1, 1, 1⟩⟩) := by
  rfl

end Decoder
end PointerDesktop
