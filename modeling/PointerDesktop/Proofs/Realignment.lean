import PointerDesktop.Proofs.ByteFates

/-!
# Back in step within one packet

A decoder that has lost a byte, or has seen one too many, starts the next packet in the middle. Whatever
is pending then, one packet whose payload cannot be taken for the start of another brings it back in
step: it completes what is pending with some of the packet's bytes and drops the others
(`Decoder.pushAll_first`). Main statement: `Decoder.realigns`.
-/

namespace PointerDesktop

/-- Neither byte of the payload can be taken for the start of a packet. -/
def Packet.Bytes.IsPlain (b : Packet.Bytes) : Prop := Packet.IsNoise b.x ∧ Packet.IsNoise b.y

namespace Decoder
variable {d : Decoder} {first : Packet.Bytes}

/-- As many bytes of the packet are dropped as were pending before it. -/
theorem pushAll_first (d : Decoder) (hfirst : first.IsPlain) :
    ∃ packet, (d.pushAll first.toList).1 =
        List.replicate (2 - d.pending) (.ok none) ++ [.ok (some packet)] ++
          List.replicate d.pending (.error .malformedPacket) ∧
      (d.pushAll first.toList).2.phase = .empty := by
  obtain ⟨hx, hy⟩ := hfirst
  unfold pending
  cases hphase : d.phase with
  | empty =>
    rw [pushAll_bytes hphase]
    exact ⟨first.packet, rfl, rfl⟩
  | one status =>
    unfold Packet.Bytes.toList
    rw [pushAll_cons, push_second hphase, pushAll_cons, push_third rfl, pushAll_cons,
      push_noise rfl hy]
    exact ⟨_, rfl, rfl⟩
  | two status x =>
    unfold Packet.Bytes.toList
    rw [pushAll_cons, push_third hphase, pushAll_cons, push_noise rfl hx, pushAll_cons,
      push_noise rfl hy]
    exact ⟨_, rfl, rfl⟩

theorem errors_flatMap_read (stream : List Packet.Bytes) :
    errors (stream.flatMap fun b => read b.packet) = [] := by
  induction stream with
  | nil => rfl
  | cons b stream ih =>
    rw [List.flatMap_cons, errors_append, ih]
    rfl

/-- Whatever is pending when a packet comes whose payload is plain: its bytes make one packet, and as
many of them are dropped as were pending, which is two at most. After it nothing is pending, and all
further packets are read exactly, whatever their payload is. -/
theorem realigns (d : Decoder) (hfirst : first.IsPlain) (later : List Packet.Bytes) :
    let opening := d.pushAll first.toList
    let whole := d.pushAll ((first :: later).flatMap (·.toList))
    (packets opening.1).length = 1 ∧
      (errors opening.1).length = d.pending ∧ d.pending ≤ 2 ∧
      opening.2.pending = 0 ∧
      whole.1 = opening.1 ++ later.flatMap (fun b => read b.packet) ∧
      packets whole.1 = packets opening.1 ++ later.map (·.packet) ∧
      errors whole.1 = errors opening.1 ∧
      whole.2.pending = 0 ∧
      whole.2.stats.resyncBytes = opening.2.stats.resyncBytes := by
  intro opening whole
  obtain ⟨packet, hresults, hphase⟩ := d.pushAll_first hfirst
  have hlater : opening.2.pushAll (later.flatMap (·.toList)) = _ := pushAll_packets hphase later
  have hwhole : whole = (opening.1 ++ (opening.2.pushAll (later.flatMap (·.toList))).1,
      (opening.2.pushAll (later.flatMap (·.toList))).2) := d.pushAll_append ..
  rw [hwhole, hlater]
  refine ⟨?_, ?_, Nat.le_of_lt_succ d.pending_lt, pending_eq_zero.2 hphase, rfl, ?_, ?_, rfl, rfl⟩
  · show (packets (d.pushAll first.toList).1).length = 1
    rw [hresults]
    simp [packets]
  · show (errors (d.pushAll first.toList).1).length = d.pending
    rw [hresults]
    simp [errors, Except.isOk, Except.toBool]
  · rw [packets_append, packets_flatMap]
    simp [List.map_eq_flatMap]
  · rw [errors_append, errors_flatMap_read, List.append_nil]

/-- Two bytes are pending that no packet starts with, and a later packet has a payload that looks like
the start of one. -/
theorem realigns_with_two_pending :
    let d : Decoder := { phase := .two 0x00 0xFF }
    let first : Packet.Bytes := ⟨0x09, 0x05, 0x10, by decide⟩
    let later : List Packet.Bytes := [⟨0x0A, 0x08, 0x0F, by decide⟩, ⟨0x18, 0xF0, 0x01, by decide⟩]
    let whole := d.pushAll ((first :: later).flatMap (·.toList))
    first.IsPlain ∧ d.pending = 2 ∧
      packets whole.1 = [⟨255, 9, .none⟩, ⟨8, 15, .right⟩, ⟨-16, 1, .none⟩] ∧
      (errors whole.1).length = 2 ∧ whole.2.pending = 0 := by
  intro d first later whole
  have hfirst : first.IsPlain := by
    unfold Packet.Bytes.IsPlain Packet.IsNoise
    decide
  obtain ⟨-, hdropped, -, -, -, hpackets, herrors, hpending, -⟩ := d.realigns hfirst later
  exact ⟨hfirst, rfl, hpackets.trans (by decide), (congrArg List.length herrors).trans hdropped,
    hpending⟩

end Decoder
end PointerDesktop
