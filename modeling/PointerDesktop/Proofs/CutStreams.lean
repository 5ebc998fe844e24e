import Mathlib.Data.List.Basic
import Mathlib.Data.List.Induction
import PointerDesktop.Proofs.PacketStreams

/-!
# Streams of packets that are cut

A reset that comes in the middle of a packet drops what has come of it. Whatever a decoder is handed,
every packet that it reads is three adjacent bytes of that (`Decoder.accounts_run`). Which bytes these
are is another matter: after a reset in the middle of a packet of the stream, the rest of it may look
like the start of another one, and packets are read that the stream does not hold. As long as it does
not, the packets read are those of the stream that no reset has cut. Main statement:
`Decoder.inStep_run`.
-/

namespace PointerDesktop

namespace Decoder

/-- The bytes among the inputs. -/
def bytesOf (is : List Input) : List UInt8 :=
  is.filterMap fun
    | .byte b => some b
    | .reset => none

/-- How many bytes come before each reset. -/
def resets : List Input → List Nat
  | [] => []
  | .byte _ :: is => (resets is).map (· + 1)
  | .reset :: is => 0 :: resets is

@[simp] theorem bytesOf_append (is js : List Input) :
    bytesOf (is ++ js) = bytesOf is ++ bytesOf js :=
  List.filterMap_append

@[simp] theorem bytesOf_byte (b : UInt8) : bytesOf [.byte b] = [b] := rfl

@[simp] theorem bytesOf_reset : bytesOf [.reset] = [] := rfl

theorem resets_append (is js : List Input) :
    resets (is ++ js) = resets is ++ (resets js).map (· + (bytesOf is).length) := by
  induction is with
  | nil => simp [resets, bytesOf]
  | cons i is ih =>
    cases i with
    | byte b =>
      simp only [List.cons_append, resets, ih, List.map_append, List.map_map]
      rfl
    | reset =>
      simp only [List.cons_append, resets, ih]
      rfl

@[simp] theorem resets_concat_byte (is : List Input) (b : UInt8) :
    resets (is ++ [.byte b]) = resets is := by
  rw [resets_append]
  exact List.append_nil _

@[simp] theorem resets_concat_reset (is : List Input) :
    resets (is ++ [.reset]) = resets is ++ [(bytesOf is).length] := by
  rw [resets_append]
  simp [resets]

theorem le_of_mem_resets {is : List Input} {n : Nat} (h : n ∈ resets is) :
    n ≤ (bytesOf is).length := by
  induction is using List.reverseRecOn with
  | nil => cases h
  | append_singleton is i ih =>
    rw [bytesOf_append, List.length_append]
    cases i with
    | byte b =>
      rw [resets_concat_byte] at h
      exact Nat.le_add_right_of_le (ih h)
    | reset =>
      rw [resets_concat_reset, List.mem_append, List.mem_singleton] at h
      rcases h with h | rfl
      · exact Nat.le_add_right_of_le (ih h)
      · exact Nat.le_add_right _ _

/-! ### Every packet is three adjacent bytes -/

/-- The packets are those of three adjacent bytes each, in the order of the bytes and without using one
of them twice; bytes in between are skipped. -/
inductive Reads : List UInt8 → List Packet → Prop where
  | nil : Reads [] []
  | skip {bytes : List UInt8} {ps : List Packet} (h : Reads bytes ps) (b : UInt8) :
      Reads (bytes ++ [b]) ps
  | packet {bytes : List UInt8} {ps : List Packet} (h : Reads bytes ps) (b : Packet.Bytes) :
      Reads (bytes ++ b.toList) (ps ++ [b.packet])

/-- The packets have been read off the bytes but for those that are pending. -/
def Accounts (bytes : List UInt8) (ps : List Packet) : Phase → Prop
  | .empty => Reads bytes ps
  | .one status =>
    Packet.hasBit status Packet.alwaysOne = true ∧ ∃ bs, bytes = bs ++ [status] ∧ Reads bs ps
  | .two status x =>
    Packet.hasBit status Packet.alwaysOne = true ∧ ∃ bs, bytes = bs ++ [status, x] ∧ Reads bs ps

namespace Accounts
variable {bytes : List UInt8} {ps : List Packet} {d : Decoder}

theorem reads {phase : Phase} (h : Accounts bytes ps phase) : Reads bytes ps := by
  cases phase with
  | empty => exact h
  | one status =>
    obtain ⟨-, bs, rfl, hbs⟩ := h
    exact hbs.skip status
  | two status x =>
    obtain ⟨-, bs, rfl, hbs⟩ := h
    have htwo := (hbs.skip status).skip x
    rwa [List.append_assoc] at htwo

theorem push (h : Accounts bytes ps d.phase) (b : UInt8) :
    Accounts (bytes ++ [b]) (ps ++ packets [(d.push b).1]) (d.push b).2.phase := by
  generalize hphase : d.phase = phase at h
  cases phase with
  | empty =>
    cases hb : Packet.hasBit b Packet.alwaysOne with
    | true =>
      rw [push_start hphase hb]
      exact ⟨hb, bytes, rfl, (List.append_nil ps).symm ▸ h⟩
    | false =>
      rw [push_noise hphase hb]
      show Accounts (bytes ++ [b]) (ps ++ []) d.phase
      rw [hphase, List.append_nil]
      exact h.skip b
  | one status =>
    obtain ⟨hstatus, bs, rfl, hbs⟩ := h
    rw [push_second hphase]
    exact ⟨hstatus, bs, List.append_assoc .., (List.append_nil ps).symm ▸ hbs⟩
  | two status x =>
    obtain ⟨hstatus, bs, rfl, hbs⟩ := h
    have hread := hbs.packet ⟨status, x, b, hstatus⟩
    rw [push_third hphase, List.append_assoc]
    exact hread

end Accounts

/-- Whatever a decoder without pending bytes is handed. -/
theorem accounts_run {d : Decoder} (hd : d.phase = .empty) (is : List Input) :
    Accounts (bytesOf is) (packets (d.run is).1) (d.run is).2.phase := by
  induction is using List.reverseRecOn with
  | nil =>
    show Accounts [] [] d.phase
    rw [hd]
    exact .nil
  | append_singleton is i ih =>
    rw [run_concat, bytesOf_append, packets_append]
    cases i with
    | byte b => exact ih.push b
    | reset =>
      rw [bytesOf_reset, List.append_nil]
      exact (List.append_nil (packets _)).symm ▸ ih.reads

/-! ### Streams of packets -/

/-- The inputs hold a reset in the middle of the `i`-th packet of a stream. -/
def cut (is : List Input) (i : Nat) : Bool := (resets is).any fun n => 3 * i < n && n < 3 * i + 3

/-- The packets of a stream that the inputs hold as a whole and without a reset. -/
def whole (stream : List Packet.Bytes) (is : List Input) : List Packet.Bytes :=
  (List.range ((bytesOf is).length / 3)).filterMap fun i => if cut is i then none else stream[i]?

/-- What comes from the `n`-th byte on of the packet in the middle of which that is. -/
def restOfPacket (bytes : List UInt8) (n : Nat) : List UInt8 := (bytes.drop n).take ((3 - n % 3) % 3)

/-- After a reset in the middle of a packet, the inputs hold no byte of the packet that could start
one. -/
def Recovers (is : List Input) : Prop :=
  ∀ n ∈ resets is, ∀ b ∈ restOfPacket (bytesOf is) n, Packet.IsNoise b

/-- What is pending after the first `n` bytes of a stream. -/
def underWay (stream : List Packet.Bytes) (n : Nat) : Phase :=
  match stream[n / 3]?, n % 3 with
  | some p, 1 => .one p.status
  | some p, 2 => .two p.status p.x
  | _, _ => .empty

section
variable {d : Decoder} {is : List Input} {stream : List Packet.Bytes} {ps : List Packet}
  {p : Packet.Bytes} {b : UInt8} {i : Nat}

theorem getElem?_stream (stream : List Packet.Bytes) (n : Nat) :
    (stream.flatMap (·.toList))[n]? = stream[n / 3]?.bind (·.toList[n % 3]?) := by
  induction stream generalizing n with
  | nil => rfl
  | cons p stream ih =>
    rw [List.flatMap_cons]
    have hlen : p.toList.length = 3 := rfl
    by_cases hn : n < 3
    · rw [List.getElem?_append_left (by omega), Nat.div_eq_of_lt hn, Nat.mod_eq_of_lt hn]
      rfl
    · rw [List.getElem?_append_right (by omega), ih, hlen, ← Nat.mod_eq_sub_mod (by omega),
        show n / 3 = (n - 3) / 3 + 1 by omega]
      rfl

theorem cut_concat_byte (is : List Input) (b : UInt8) (i : Nat) :
    cut (is ++ [.byte b]) i = cut is i := by
  unfold cut
  rw [resets_concat_byte]

/-- A reset cuts the packet that is under way, if one is. -/
theorem cut_concat_reset (is : List Input) (i : Nat) :
    cut (is ++ [.reset]) i =
      (cut is i || (3 * i < (bytesOf is).length && (bytesOf is).length < 3 * i + 3)) := by
  unfold cut
  rw [resets_concat_reset, List.any_append]
  simp

/-- A packet of which no byte has come has not been cut. -/
theorem cut_eq_false (h : (bytesOf is).length ≤ 3 * i) : cut is i = false := by
  unfold cut
  rw [List.any_eq_false]
  intro n hn
  have hle := le_of_mem_resets hn
  simp
  omega

theorem whole_concat_reset (stream : List Packet.Bytes) (is : List Input) :
    whole stream (is ++ [.reset]) = whole stream is := by
  unfold whole
  rw [bytesOf_append, bytesOf_reset, List.append_nil]
  apply List.filterMap_congr
  intro i hi
  have hlt := List.mem_range.1 hi
  have hpast : ¬ (bytesOf is).length < 3 * i + 3 := by omega
  simp [cut_concat_reset, hpast]

/-- A byte that ends no packet adds none. -/
theorem whole_concat_byte (stream : List Packet.Bytes) (b : UInt8)
    (h : (bytesOf is).length % 3 ≠ 2) : whole stream (is ++ [.byte b]) = whole stream is := by
  unfold whole
  simp only [bytesOf_append, bytesOf_byte, List.length_append, List.length_singleton,
    cut_concat_byte]
  rw [show ((bytesOf is).length + 1) / 3 = (bytesOf is).length / 3 by omega]

theorem whole_concat_last (hp : stream[(bytesOf is).length / 3]? = some p) (b : UInt8)
    (h : (bytesOf is).length % 3 = 2) :
    whole stream (is ++ [.byte b]) =
      whole stream is ++ if cut is ((bytesOf is).length / 3) then [] else [p] := by
  unfold whole
  simp only [bytesOf_append, bytesOf_byte, List.length_append, List.length_singleton,
    cut_concat_byte]
  rw [show ((bytesOf is).length + 1) / 3 = (bytesOf is).length / 3 + 1 by omega, List.range_succ,
    List.filterMap_append]
  congr 1
  rw [List.filterMap_cons, List.filterMap_nil, hp]
  cases cut is ((bytesOf is).length / 3) <;> rfl

theorem underWay_first (stream : List Packet.Bytes) (q : Nat) :
    underWay stream (3 * q) = .empty := by
  unfold underWay
  rw [Nat.mul_mod_right]
  split <;> simp_all

theorem underWay_second {q : Nat} (hp : stream[q]? = some p) :
    underWay stream (3 * q + 1) = .one p.status := by
  unfold underWay
  rw [show (3 * q + 1) / 3 = q by omega, Nat.mul_add_mod, hp]
  rfl

theorem underWay_third {q : Nat} (hp : stream[q]? = some p) :
    underWay stream (3 * q + 2) = .two p.status p.x := by
  unfold underWay
  rw [show (3 * q + 2) / 3 = q by omega, Nat.mul_add_mod, hp]
  rfl

/-- The packets read are those of the stream that are whole, and what is pending is what is under way,
unless that has been cut. -/
structure InStep (stream : List Packet.Bytes) (is : List Input) (ps : List Packet) (phase : Phase) :
    Prop where
  packets : ps = (whole stream is).map (·.packet)
  phase : phase =
    if cut is ((bytesOf is).length / 3) then .empty else underWay stream (bytesOf is).length

namespace InStep

theorem reset {phase : Phase} (h : InStep stream is ps phase) :
    InStep stream (is ++ [.reset]) ps .empty := by
  refine ⟨by rw [whole_concat_reset, h.packets], ?_⟩
  rw [bytesOf_append, bytesOf_reset, List.append_nil, cut_concat_reset]
  by_cases hn : (bytesOf is).length % 3 = 0
  · obtain ⟨q, hq⟩ := Nat.dvd_of_mod_eq_zero hn
    rw [hq, underWay_first, ite_self]
  · rw [if_pos]
    simp
    omega

/-- The first byte of a packet comes when nothing is pending, and starts it. -/
theorem first {q : Nat} (h : InStep stream is ps d.phase) (hn : (bytesOf is).length = 3 * q)
    (hp : stream[q]? = some p) :
    InStep stream (is ++ [.byte p.status]) (ps ++ Decoder.packets [(d.push p.status).1])
      (d.push p.status).2.phase := by
  have hempty : d.phase = .empty := by
    rw [h.phase, hn, underWay_first, ite_self]
  rw [push_start hempty p.starts]
  refine ⟨?_, ?_⟩
  · rw [whole_concat_byte _ _ (by omega), ← h.packets]
    exact List.append_nil ps
  · rw [bytesOf_append, bytesOf_byte, List.length_append, List.length_singleton, hn,
      cut_concat_byte, show (3 * q + 1) / 3 = q by omega, cut_eq_false (by omega),
      underWay_second hp]
    rfl

theorem second {q : Nat} (h : InStep stream is ps d.phase) (hn : (bytesOf is).length = 3 * q + 1)
    (hp : stream[q]? = some p) (hcut : cut is q = true → Packet.IsNoise p.x) :
    InStep stream (is ++ [.byte p.x]) (ps ++ Decoder.packets [(d.push p.x).1])
      (d.push p.x).2.phase := by
  have hphase := h.phase
  rw [hn, show (3 * q + 1) / 3 = q by omega, underWay_second hp] at hphase
  have hsame : whole stream (is ++ [.byte p.x]) = whole stream is :=
    whole_concat_byte _ _ (by omega)
  have hnext : (bytesOf (is ++ [.byte p.x])).length = 3 * q + 2 := by simp [hn]
  -- nothing is pending if the packet has been cut, else its first byte
  suffices Decoder.packets [(d.push p.x).1] = [] ∧
      (d.push p.x).2.phase = if cut is q then .empty else .two p.status p.x by
    obtain ⟨hnone, hafter⟩ := this
    refine ⟨by rw [hnone, List.append_nil, hsame, h.packets], ?_⟩
    rw [hafter, hnext, cut_concat_byte, show (3 * q + 2) / 3 = q by omega, underWay_third hp]
  cases hc : cut is q with
  | true =>
    rw [hc, if_pos rfl] at hphase
    rw [push_noise hphase (hcut hc)]
    exact ⟨rfl, hphase⟩
  | false =>
    rw [hc] at hphase
    rw [push_second hphase]
    exact ⟨rfl, rfl⟩

/-- The last byte of a packet completes it, unless it has been cut. -/
theorem third {q : Nat} (h : InStep stream is ps d.phase) (hn : (bytesOf is).length = 3 * q + 2)
    (hp : stream[q]? = some p) (hcut : cut is q = true → Packet.IsNoise p.y) :
    InStep stream (is ++ [.byte p.y]) (ps ++ Decoder.packets [(d.push p.y).1])
      (d.push p.y).2.phase := by
  have hphase := h.phase
  have hq : (bytesOf is).length / 3 = q := by omega
  rw [hq, hn, underWay_third hp] at hphase
  have hlast : whole stream (is ++ [.byte p.y]) =
      whole stream is ++ if cut is q then [] else [p] := by
    have hadd := whole_concat_last (hq ▸ hp) p.y (by omega)
    rwa [hq] at hadd
  have hnext : (bytesOf (is ++ [.byte p.y])).length = 3 * (q + 1) := by simp [hn]; omega
  suffices Decoder.packets [(d.push p.y).1] = (if cut is q then [] else [p]).map (·.packet) ∧
      (d.push p.y).2.phase = .empty by
    obtain ⟨hread, hafter⟩ := this
    refine ⟨by rw [hread, hlast, List.map_append, h.packets], ?_⟩
    rw [hafter, hnext, underWay_first, ite_self]
  cases hc : cut is q with
  | true =>
    rw [hc, if_pos rfl] at hphase
    rw [push_noise hphase (hcut hc)]
    exact ⟨rfl, hphase⟩
  | false =>
    rw [hc] at hphase
    rw [push_third hphase]
    exact ⟨rfl, rfl⟩

theorem byte (h : InStep stream is ps d.phase)
    (hb : (stream.flatMap (·.toList))[(bytesOf is).length]? = some b)
    (hcut : cut is ((bytesOf is).length / 3) = true → Packet.IsNoise b) :
    InStep stream (is ++ [.byte b]) (ps ++ Decoder.packets [(d.push b).1]) (d.push b).2.phase := by
  rw [getElem?_stream] at hb
  obtain ⟨p, hp, hb⟩ := Option.bind_eq_some_iff.1 hb
  generalize hq : (bytesOf is).length / 3 = q at hp hcut
  rcases (by omega : (bytesOf is).length = 3 * q ∨ (bytesOf is).length = 3 * q + 1 ∨
    (bytesOf is).length = 3 * q + 2) with hn | hn | hn
  · obtain rfl : p.status = b := by
      rw [hn, Nat.mul_mod_right] at hb
      exact Option.some.inj hb
    exact h.first hn hp
  · obtain rfl : p.x = b := by
      rw [hn, Nat.mul_add_mod] at hb
      exact Option.some.inj hb
    exact h.second hn hp hcut
  · obtain rfl : p.y = b := by
      rw [hn, Nat.mul_add_mod] at hb
      exact Option.some.inj hb
    exact h.third hn hp hcut

end InStep

theorem mem_restOfPacket {bytes : List UInt8} {n : Nat} :
    b ∈ restOfPacket bytes n ↔ ∃ k, 3 * (k / 3) < n ∧ n ≤ k ∧ bytes[k]? = some b := by
  unfold restOfPacket
  rw [List.mem_iff_getElem?]
  constructor
  · rintro ⟨j, hj⟩
    rw [List.getElem?_take] at hj
    split at hj
    · next hlt =>
      rw [List.getElem?_drop] at hj
      exact ⟨n + j, by omega, by omega, hj⟩
    · cases hj
  · rintro ⟨k, hlt, hle, hk⟩
    refine ⟨k - n, ?_⟩
    rw [List.getElem?_take, if_pos (by omega), List.getElem?_drop, Nat.add_sub_cancel' hle]
    exact hk

theorem Recovers.front {js : List Input} (h : Recovers (is ++ js)) : Recovers is := by
  intro n hn b hb
  obtain ⟨k, hlt, hle, hk⟩ := mem_restOfPacket.1 hb
  refine h n ?_ b (mem_restOfPacket.2 ⟨k, hlt, hle, ?_⟩)
  · rw [resets_append]
    exact List.mem_append_left _ hn
  · rw [bytesOf_append, List.getElem?_append_left (List.getElem?_eq_some_iff.1 hk).1]
    exact hk

/-- Reading a stream of packets, with resets in between after which it recovers. -/
theorem inStep_run (hd : d.phase = .empty) (his : bytesOf is <+: stream.flatMap (·.toList))
    (hrec : Recovers is) : InStep stream is (packets (d.run is).1) (d.run is).2.phase := by
  induction is using List.reverseRecOn with
  | nil =>
    refine ⟨rfl, ?_⟩
    show d.phase = _
    rw [hd]
    exact ((congrArg _ (underWay_first stream 0)).trans (ite_self _)).symm
  | append_singleton is i ih =>
    have hfront : bytesOf is <+: stream.flatMap (·.toList) :=
      ((bytesOf_append is [i]).symm ▸ List.prefix_append ..).trans his
    have h := ih hfront hrec.front
    rw [run_concat, packets_append]
    cases i with
    | byte b =>
      have hlast : (bytesOf (is ++ [.byte b]))[(bytesOf is).length]? = some b := by simp
      refine h.byte ?_ fun hcut => ?_
      · -- it is the next byte of the stream
        exact (List.prefix_iff_getElem?.1 his _ (List.getElem?_eq_some_iff.1 hlast).1).trans
          ((List.getElem?_eq_getElem _).symm.trans hlast)
      · -- it belongs to the packet that a reset has cut, so it starts none
        obtain ⟨n, hn, hin⟩ := List.any_eq_true.1 hcut
        simp only [Bool.and_eq_true, decide_eq_true_eq] at hin
        exact hrec n (by rw [resets_concat_byte]; exact hn) b
          (mem_restOfPacket.2 ⟨_, hin.1, le_of_mem_resets hn, hlast⟩)
    | reset =>
      show InStep stream _ (packets (d.run is).1 ++ []) .empty
      rw [List.append_nil]
      exact h.reset

theorem whole_sublist (stream : List Packet.Bytes) (is : List Input) :
    (whole stream is).Sublist stream := by
  have htake (m : Nat) : ((List.range m).filterMap fun i =>
      if cut is i then none else stream[i]?).Sublist (stream.take m) := by
    induction m with
    | zero => exact List.nil_sublist _
    | succ m ih =>
      rw [List.range_succ, List.filterMap_append, List.take_add_one]
      refine ih.append ?_
      rw [List.filterMap_cons, List.filterMap_nil]
      cases cut is m with
      | true => exact List.nil_sublist _
      | false => cases stream[m]? <;> exact List.Sublist.refl _
  exact (htake _).trans (List.take_sublist ..)

end

end Decoder

end PointerDesktop
