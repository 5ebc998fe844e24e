import Mathlib.Data.ENat.Lattice
import PointerDesktop.Proofs.DrainedSamples
import PointerDesktop.Proofs.Refusals

/-!
# Drains until the source is dry

A drain takes what its source gives before it is dry for the first time (`Desktop.supply`), as long as
the budget lasts (`Desktop.length_answers`). The budget is a whole number of packets. So a drain of a
stream of packets leaves nothing pending when it has spent it, and drains that go on until one of them
leaves some of it feed the stream to its end (`Desktop.drainsDry_stream`). Main statement:
`Desktop.drain_feeds`.
-/

namespace PointerDesktop
namespace Desktop

/-- How many bytes a source gives before it is dry for the first time. -/
noncomputable def supply (source : Nat → Option UInt8) : ℕ∞ :=
  ⨅ (asked : Nat) (_ : source asked = none), (asked : ℕ∞)

/-- `bytes` are the first answers of a source. -/
def Gives (source : Nat → Option UInt8) (bytes : List UInt8) : Prop :=
  ∀ asked < bytes.length, source asked = bytes[asked]?

/-- What is seen but for the log: calls of the display, of clients and of the observer. -/
def calls (effects : List Effect) : List Effect := effects.filter fun e => !e.isLog

/-- `t` is what comes of drains that go on until one of them leaves some of its budget. Each asks its
source from where the one before it has stopped. -/
inductive DrainsDry : Desktop → (Nat → Option UInt8) → Traced Desktop → Prop where
  | last {d : Desktop} {source : Nat → Option UInt8}
      (hleft : (d.drain source).result.taken < drainBudget) :
      DrainsDry d source (d.drain source).toTraced
  | next {d : Desktop} {source : Nat → Option UInt8} {t : Traced Desktop}
      (hspent : drainBudget ≤ (d.drain source).result.taken)
      (h : DrainsDry (d.drain source).state
        (fun asked => source ((d.drain source).result.asked + asked)) t) :
      DrainsDry d source
        { state := t.state, effects := (d.drain source).effects ++ t.effects }

variable {d : Desktop} {source : Nat → Option UInt8} {bytes more : List UInt8}
  {t t' : Traced Desktop}

/-! ### What a source gives -/

theorem le_supply_iff {n : Nat} : n ≤ supply source ↔ ∀ asked < n, source asked ≠ none := by
  unfold supply
  rw [le_iInf₂_iff]
  constructor
  · intro h asked hlt hdry
    exact absurd (ENat.natCast_le_natCast.1 (h asked hdry)) (Nat.not_le.2 hlt)
  · intro h asked hdry
    exact ENat.natCast_le_natCast.2 (Nat.not_lt.1 fun hlt => h asked hlt hdry)

namespace Gives

theorem le_supply (h : Gives source bytes) : bytes.length ≤ supply source :=
  le_supply_iff.2 fun asked hlt => by
    rw [h asked hlt, List.getElem?_eq_getElem hlt]
    exact Option.some_ne_none _

theorem supply_eq (h : Gives source bytes) (hdry : source bytes.length = none) :
    supply source = bytes.length :=
  le_antisymm (iInf₂_le bytes.length hdry) h.le_supply

theorem eq (h : Gives source bytes) (h' : Gives source more) (hlength : bytes.length = more.length) :
    bytes = more := by
  apply List.ext_getElem?
  intro asked
  by_cases hlt : asked < bytes.length
  · exact (h asked hlt).symm.trans (h' asked (hlength ▸ hlt))
  · rw [List.getElem?_eq_none (by omega), List.getElem?_eq_none (by omega)]

theorem front (h : Gives source (bytes ++ more)) : Gives source bytes := by
  intro asked hlt
  rw [h asked (by rw [List.length_append]; omega), List.getElem?_append_left hlt]

theorem back (h : Gives source (bytes ++ more)) :
    Gives (fun asked => source (bytes.length + asked)) more := by
  intro asked hlt
  show source (bytes.length + asked) = _
  rw [h _ (by rw [List.length_append]; omega), List.getElem?_append_right (Nat.le_add_right _ _),
    Nat.add_sub_cancel_left]

end Gives

/-! ### What a drain takes -/

/-- Answers from some place on end with the budget or where the source is dry. -/
theorem gives_answers_from (source : Nat → Option UInt8) (budget asked : Nat) :
    let bytes := answers source budget asked
    Gives (fun k => source (asked + k)) bytes ∧
      (bytes.length < budget ∧ source (asked + bytes.length) = none ∨ bytes.length = budget) := by
  induction budget generalizing asked with
  | zero => exact ⟨fun _ h => absurd h (Nat.not_lt_zero _), .inr rfl⟩
  | succ budget ih =>
    unfold answers
    cases hfirst : source asked with
    | none => exact ⟨fun _ h => absurd h (Nat.not_lt_zero _), .inl ⟨Nat.succ_pos _, hfirst⟩⟩
    | some byte =>
      obtain ⟨hgives, hend⟩ := ih (asked + 1)
      constructor
      · rintro (_ | k) hk
        · exact hfirst
        · show source (asked + k + 1) = _
          rw [Nat.add_right_comm]
          exact hgives k (Nat.lt_of_succ_lt_succ hk)
      · rw [Nat.add_right_comm] at hend
        exact hend.imp (fun h => ⟨Nat.succ_lt_succ h.1, h.2⟩) (congrArg Nat.succ)

theorem gives_answers (source : Nat → Option UInt8) (budget : Nat) :
    let bytes := answers source budget 0
    Gives source bytes ∧
      (bytes.length < budget ∧ source bytes.length = none ∨ bytes.length = budget) := by
  have h := gives_answers_from source budget 0
  simpa only [Nat.zero_add] using h

/-- A drain takes what the source gives before it is dry, as long as the budget lasts. -/
theorem length_answers (source : Nat → Option UInt8) (budget : Nat) :
    ((answers source budget 0).length : ℕ∞) = min (supply source) budget := by
  obtain ⟨hgives, ⟨hlt, hdry⟩ | heq⟩ := gives_answers source budget
  · rw [hgives.supply_eq hdry, min_eq_left (ENat.natCast_le_natCast.2 hlt.le)]
  · rw [heq, min_eq_right (heq ▸ hgives.le_supply)]

namespace Gives

theorem answers_eq (h : Gives source bytes) {budget : Nat}
    (hlength : (bytes.length : ℕ∞) = min (supply source) budget) :
    answers source budget 0 = bytes :=
  (gives_answers source budget).1.eq h
    (ENat.natCast_inj.1 ((length_answers source budget).trans hlength.symm))

/-- The source is dry before the budget is spent. -/
theorem drain_of_dry (h : Gives source bytes) (hdry : source bytes.length = none)
    (hleft : bytes.length < drainBudget) (d : Desktop) :
    d.drain source =
      { toTraced := d.feedAll bytes, result := ⟨bytes.length, bytes.length + 1⟩ } := by
  have hanswers : answers source drainBudget 0 = bytes := h.answers_eq <| by
    rw [h.supply_eq hdry, min_eq_left (ENat.natCast_le_natCast.2 hleft.le)]
  rw [drain_eq, hanswers]
  exact if_neg hleft.ne

/-- The budget is spent before the source is dry. -/
theorem drain_of_spent (h : Gives source bytes) (hspent : bytes.length = drainBudget)
    (d : Desktop) :
    d.drain source =
      { state := (d.feedAll bytes).state.resync
        effects := (d.feedAll bytes).effects ++ [.log (.pointerPortBusy drainBudget)]
        result := ⟨drainBudget, drainBudget⟩ } := by
  have hanswers : answers source drainBudget 0 = bytes := h.answers_eq <| by
    rw [← hspent, min_eq_right h.le_supply]
  rw [drain_eq, hanswers]
  exact if_pos hspent

end Gives

/-! ### Drains of a stream of packets -/

theorem calls_append (effects more : List Effect) :
    calls (effects ++ more) = calls effects ++ calls more :=
  List.filter_append ..

theorem DrainsDry.unique (h : d.DrainsDry source t) (h' : d.DrainsDry source t') : t = t' := by
  induction h generalizing t' with
  | last hleft =>
    cases h' with
    | last => rfl
    | next hspent => exact absurd hleft (Nat.not_lt.2 hspent)
  | next hspent _ ih =>
    cases h' with
    | last hleft => exact absurd hleft (Nat.not_lt.2 hspent)
    | next _ h' => rw [ih h']

theorem phase_feedAll_packets (hd : d.mouse.decoder.phase = .empty) (stream : List Packet.Bytes) :
    (d.feedAll (stream.flatMap (·.toList))).state.mouse.decoder.phase = .empty := by
  have hread := Decoder.pushAll_packets hd stream
  unfold Decoder.pushAll at hread
  rw [(d.follows_feedAll _).mouse, hread]

theorem resync_of_empty (hd : d.mouse.decoder.phase = .empty) : d.resync = d := by
  unfold resync Mouse.resync Decoder.reset
  rw [← hd]

theorem length_flatMap_toList (stream : List Packet.Bytes) :
    (stream.flatMap (·.toList)).length = 3 * stream.length := by
  simp [List.length_flatMap, Packet.Bytes.toList, Nat.mul_comm]

theorem exists_drainsDry_stream (hd : d.mouse.decoder.phase = .empty) {stream : List Packet.Bytes}
    (hgives : Gives source (stream.flatMap (·.toList)))
    (hdry : source (stream.flatMap (·.toList)).length = none) :
    let fed := d.feedAll (stream.flatMap (·.toList))
    ∃ t, d.DrainsDry source t ∧ t.state = fed.state ∧ calls t.effects = calls fed.effects := by
  have hbudget : drainBudget = 3 * 32 := rfl
  induction hn : stream.length using Nat.strong_induction_on generalizing d source stream with
  | _ n ih =>
  intro fed
  rcases Nat.lt_or_ge stream.length 32 with hshort | hlong
  · -- the budget lasts to the end
    have hleft : (stream.flatMap (·.toList)).length < drainBudget := by
      rw [length_flatMap_toList]
      omega
    have hdrain := hgives.drain_of_dry hdry hleft d
    have hlast : d.DrainsDry source (d.drain source).toTraced := .last (by rwa [hdrain])
    rw [hdrain] at hlast
    exact ⟨_, hlast, rfl, rfl⟩
  · -- the budget is spent on the first packets, and the rest is left to further drains
    obtain ⟨front, back, rfl, hfront⟩ : ∃ front back, stream = front ++ back ∧ front.length = 32 :=
      ⟨_, _, (List.take_append_drop 32 stream).symm, List.length_take_of_le hlong⟩
    rw [List.flatMap_append] at hgives hdry
    have hspent : (front.flatMap (·.toList)).length = drainBudget := by
      rw [length_flatMap_toList, hfront, hbudget]
    have hphase := phase_feedAll_packets hd front
    have hdrain := hgives.front.drain_of_spent hspent d
    rw [resync_of_empty hphase] at hdrain
    obtain ⟨t, hrest, hstate, hcalls⟩ := ih back.length
      (by rw [← hn, List.length_append]; omega) hphase hgives.back
      (by rwa [List.length_append] at hdry) rfl
    have hall : d.DrainsDry source _ :=
      .next (by rw [hdrain]) (t := t) (by rw [hdrain, ← hspent]; exact hrest)
    refine ⟨_, hall, ?_, ?_⟩
    · show t.state = (d.feedAll ((front ++ back).flatMap (·.toList))).state
      rw [List.flatMap_append, feedAll_append, hstate]
    · show calls ((d.drain source).effects ++ t.effects) =
        calls (d.feedAll ((front ++ back).flatMap (·.toList))).effects
      rw [List.flatMap_append, feedAll_append, hdrain]
      dsimp only
      rw [calls_append, calls_append, calls_append, hcalls]
      simp [calls, Effect.isLog]

/-- Drains of a stream of packets go on until it is dry, and do what feeding it does. -/
theorem drainsDry_stream (stream : List Packet.Bytes) (hd : d.mouse.decoder.pending = 0)
    (hgives : Gives source (stream.flatMap (·.toList)))
    (hdry : source (stream.flatMap (·.toList)).length = none) :
    let fed := d.feedAll (stream.flatMap (·.toList))
    (∃ t, d.DrainsDry source t) ∧
      ∀ t, d.DrainsDry source t → t.state = fed.state ∧ calls t.effects = calls fed.effects := by
  obtain ⟨t, ht, hsame⟩ := exists_drainsDry_stream (Decoder.pending_eq_zero.1 hd) hgives hdry
  exact ⟨⟨t, ht⟩, fun t' ht' => ht.unique ht' ▸ hsame⟩

/-- With `n` bytes that the source gives before it is dry, a drain takes all of them or what its budget
of 96 bytes allows, and asks once more if that lasts. It does what feeding what it takes does; just if the
budget is spent nothing is pending then, and but for that all is as it has been fed. Of a stream that starts with nothing pending it cuts no packet: drains
that go on until one of them leaves some of its budget come to an end, and do what feeding the stream
does. -/
theorem drain_feeds (d : Desktop) (source : Nat → Option UInt8) :
    let n := supply source
    let drained := d.drain source
    (drained.result.taken : ℕ∞) = min n 96 ∧
      (drained.result.asked : ℕ∞) = min (n + 1) 96 ∧
      (∃ bytes, Gives source bytes ∧ bytes.length = drained.result.taken ∧
        let fed := d.feedAll bytes
        (n < 96 → drained.state = fed.state ∧ drained.effects = fed.effects) ∧
        (96 ≤ n → drained.state.mouse.decoder.pending = 0 ∧
          drained.state = { fed.state with mouse.decoder.phase := .empty } ∧
          drained.effects = fed.effects ++ [.log (.pointerPortBusy 96)])) ∧
      ∀ stream : List Packet.Bytes, d.mouse.decoder.pending = 0 →
        Gives source (stream.flatMap (·.toList)) → source (stream.flatMap (·.toList)).length = none →
          let fed := d.feedAll (stream.flatMap (·.toList))
          (∃ t, d.DrainsDry source t) ∧
            ∀ t, d.DrainsDry source t → t.state = fed.state ∧ calls t.effects = calls fed.effects := by
  intro n drained
  have hbudget : (96 : ℕ∞) = drainBudget := rfl
  obtain ⟨hgives, ⟨hleft, hdry⟩ | hspent⟩ := gives_answers source drainBudget
  · have hn : n = (answers source drainBudget 0).length := hgives.supply_eq hdry
    have hlt : n < 96 := by
      rw [hn, hbudget]
      exact ENat.natCast_lt_natCast.2 hleft
    have hdrain : drained = _ := hgives.drain_of_dry hdry hleft d
    rw [hdrain]
    refine ⟨?_, ?_, ⟨_, hgives, rfl, fun _ => ⟨rfl, rfl⟩, fun h => absurd hlt (not_lt.2 h)⟩,
      drainsDry_stream⟩
    · rw [min_eq_left hlt.le, hn]
    · rw [min_eq_left (Order.add_one_le_of_lt hlt), hn]
      rfl
  · have hn : 96 ≤ n := by
      rw [hbudget, ← hspent]
      exact hgives.le_supply
    have hdrain : drained = _ := hgives.drain_of_spent hspent d
    rw [hdrain]
    exact ⟨(min_eq_right hn).symm, (min_eq_right (hn.trans le_self_add)).symm,
      ⟨_, hgives, hspent, fun h => absurd h (not_lt.2 hn), fun _ => ⟨rfl, rfl, rfl⟩⟩,
      drainsDry_stream⟩

/-- The first drain spends its budget on 32 of the packets, the second takes the press that is left. With
a byte that starts no packet before the stream, the budget ends in the middle of a packet, of which
nothing is left pending. -/
theorem drain_feeds_past_budget :
    let d := ((start {} {} .software (.upTo 4194304)).state.run [.create "w" ⟨4, 4⟩ .titled]).state
    let step : Packet.Bytes := ⟨0x08, 0x01, 0x00, by decide⟩
    let stream := List.replicate 32 step ++ [⟨0x09, 0x05, 0x00, by decide⟩]
    let bytes := stream.flatMap (·.toList)
    let source := fun asked => bytes[asked]?
    let shifted := fun asked => (0x00 :: bytes)[asked]?
    let cut := d.feedAll ((0x00 :: bytes).take 96)
    96 ≤ supply source ∧ (d.drain source).result.taken = 96 ∧
      (d.drain source).result.asked = 96 ∧
      (d.drain source).effects.getLast? = some (.log (.pointerPortBusy 96)) ∧
      d.mouse.decoder.pending = 0 ∧ Gives source bytes ∧ source bytes.length = none ∧
      (∃ t, d.DrainsDry source t ∧ t.state.cursor = ⟨437, 300⟩ ∧
        (calls t.effects).getLast? = some (.display (.drawCursor ⟨437, 300⟩))) ∧
      96 ≤ supply shifted ∧ cut.state.mouse.decoder.pending = 2 ∧
      (d.drain shifted).state.mouse.decoder.pending = 0 ∧
      (d.drain shifted).state = { cut.state with mouse.decoder.phase := .empty } := by
  intro d step stream bytes source shifted cut
  have hgives : Gives source bytes := fun _ _ => rfl
  have hdry : source bytes.length = none := by decide +kernel
  have hsupply : supply source = 99 := hgives.supply_eq hdry
  have hn : 96 ≤ supply source := by
    rw [hsupply]
    decide
  have hd : d.mouse.decoder.pending = 0 := by decide +kernel
  obtain ⟨htaken, hasked, ⟨_, -, -, -, hspent⟩, hstream⟩ := drain_feeds d source
  obtain ⟨⟨t, ht⟩, hsame⟩ := hstream stream hd hgives hdry
  obtain ⟨hstate, hcalls⟩ := hsame t ht
  rw [min_eq_right hn] at htaken
  rw [min_eq_right (hn.trans le_self_add)] at hasked
  -- what the drain is given of the shifted stream are its first 96 bytes
  have hshifted : Gives shifted ((0x00 :: bytes).take 96 ++ (0x00 :: bytes).drop 96) := by
    rw [List.take_append_drop]
    exact fun _ _ => rfl
  have hlength : ((0x00 :: bytes).take 96).length = 96 := by decide +kernel
  have hn' : 96 ≤ supply shifted := by
    have hle := hshifted.front.le_supply
    rwa [hlength] at hle
  obtain ⟨htaken', -, ⟨first, hfirst, hfirstLength, -, hspent'⟩, -⟩ := drain_feeds d shifted
  rw [min_eq_right hn', ← hfirstLength] at htaken'
  have hfirstLength : first.length = 96 := ENat.natCast_inj.1 htaken'
  have hfirst : first = (0x00 :: bytes).take 96 :=
    hfirst.eq hshifted.front (by rw [hfirstLength, hlength])
  have hfed : d.feedAll first = cut := congrArg d.feedAll hfirst
  rw [hfed] at hspent'
  obtain ⟨hpending, hcut, -⟩ := hspent' hn'
  refine ⟨hn, ENat.natCast_inj.1 htaken, ENat.natCast_inj.1 hasked, ?_, hd, hgives, hdry,
    ⟨t, ht, ?_, ?_⟩, hn', by decide +kernel, hpending, hcut⟩
  · rw [(hspent hn).2.2]
    exact List.getLast?_concat
  · rw [hstate]
    decide +kernel
  · rw [hcalls]
    decide +kernel

end Desktop
end PointerDesktop
