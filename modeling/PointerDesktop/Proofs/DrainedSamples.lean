import PointerDesktop.Proofs.CutStreams
import PointerDesktop.Proofs.PointerPath

/-!
# The samples of drains

Drains hand the decoder the bytes that their sources answer, and a reset whenever one has spent its
budget (`Desktop.handed`). The packets that it reads move the cursor and make the samples
(`Desktop.follows_drains`). Main statement: `Desktop.drained_samples`, for a stream of packets that
comes by way of drains.
-/

namespace PointerDesktop

namespace Cursor

/-- The cursor after packets. -/
def along (c : Cursor) : List Packet → Cursor
  | [] => c
  | p :: ps => (c.moveBy p.dx (-p.dy)).along ps

/-- The samples that packets make of the cursor. -/
def track (c : Cursor) : List Packet → List Sample
  | [] => []
  | p :: ps => c.sample p :: (c.moveBy p.dx (-p.dy)).track ps

theorem along_append (c : Cursor) (ps qs : List Packet) :
    c.along (ps ++ qs) = (c.along ps).along qs := by
  induction ps generalizing c with
  | nil => rfl
  | cons p ps ih => exact ih _

theorem track_append (c : Cursor) (ps qs : List Packet) :
    c.track (ps ++ qs) = c.track ps ++ (c.along ps).track qs := by
  induction ps generalizing c with
  | nil => rfl
  | cons p ps ih => exact congrArg (c.sample p :: ·) (ih _)

theorem map_buttons_track (c : Cursor) (ps : List Packet) :
    (c.track ps).map (·.buttons) = ps.map (·.buttons) := by
  induction ps generalizing c with
  | nil => rfl
  | cons p ps ih => exact congrArg (p.buttons :: ·) (ih _)

end Cursor

/-- By the inputs `is` of its decoder the mouse becomes `m'`, and `qs` are the samples. -/
structure Mouse.Follows (m : Mouse) (is : List Decoder.Input) (qs : List Sample) (m' : Mouse) :
    Prop where
  samples : qs = m.cursor.track (Decoder.packets (m.decoder.run is).1)
  mouse : m' = ⟨(m.decoder.run is).2, m.cursor.along (Decoder.packets (m.decoder.run is).1)⟩

theorem Mouse.Follows.append {m m' m'' : Mouse} {is js : List Decoder.Input} {qs rs : List Sample}
    (h : m.Follows is qs m') (h' : m'.Follows js rs m'') :
    m.Follows (is ++ js) (qs ++ rs) m'' := by
  obtain ⟨rfl, rfl⟩ := h
  obtain ⟨rfl, rfl⟩ := h'
  constructor
  · rw [Decoder.run_append, Decoder.packets_append, Cursor.track_append]
  · rw [Decoder.run_append, Decoder.packets_append, Cursor.along_append]

theorem Mouse.follows_feed (m : Mouse) (byte : UInt8) :
    m.Follows [.byte byte] (m.feed byte).result.toList (m.feed byte).state := by
  have hrun : m.decoder.run [.byte byte] =
      ([(m.decoder.push byte).1], (m.decoder.push byte).2) := rfl
  unfold feed
  rcases hpush : m.decoder.push byte with ⟨_ | _ | packet, decoder⟩
  all_goals exact ⟨by rw [hrun, hpush]; rfl, by rw [hrun, hpush]; rfl⟩

namespace Desktop
variable {d : Desktop}

/-- What a drain hands the decoder. -/
def handedBy (source : Nat → Option UInt8) : List Decoder.Input :=
  (answers source drainBudget 0).map .byte ++
    if (answers source drainBudget 0).length = drainBudget then [.reset] else []

/-- What drains hand the decoder one after the other. -/
def handed (sources : List (Nat → Option UInt8)) : List Decoder.Input := sources.flatMap handedBy

theorem follows_feed (d : Desktop) (byte : UInt8) :
    d.mouse.Follows [.byte byte] ((d.byteSamplings byte).map (·.2)) (d.feed byte).state.mouse := by
  have hfed := d.mouse.follows_feed byte
  unfold byteSamplings
  cases h : (d.mouse.feed byte).result with
  | none =>
    rw [feed_of_none h]
    rwa [h] at hfed
  | some q =>
    rw [feed_of_some h]
    rwa [h] at hfed

theorem follows_feedAll (d : Desktop) (bytes : List UInt8) :
    d.mouse.Follows (bytes.map .byte) ((d.bytesSamplings bytes).map (·.2))
      (d.feedAll bytes).state.mouse := by
  induction bytes generalizing d with
  | nil => exact ⟨rfl, rfl⟩
  | cons byte bytes ih =>
    rw [feedAll_cons, bytesSamplings, List.map_append]
    exact (d.follows_feed byte).append (ih _)

theorem follows_drain (d : Desktop) (source : Nat → Option UInt8) :
    d.mouse.Follows (handedBy source) ((d.opSamplings (.drain source)).map (·.2))
      (d.apply (.drain source)).state.mouse := by
  have hfed := d.follows_feedAll (answers source drainBudget 0)
  unfold handedBy
  show d.mouse.Follows _ _ (d.drain source).state.mouse
  rw [drain_eq]
  dsimp only
  split
  · have hreset : (d.feedAll (answers source drainBudget 0)).state.mouse.Follows [.reset] []
        (d.feedAll (answers source drainBudget 0)).state.resync.mouse := ⟨rfl, rfl⟩
    have h := hfed.append hreset
    rwa [List.append_nil] at h
  · rwa [List.append_nil]

/-- The samples of drains are made of the packets that the decoder reads. -/
theorem follows_drains (d : Desktop) (sources : List (Nat → Option UInt8)) :
    d.mouse.Follows (handed sources) (d.samples (sources.map .drain))
      (d.run (sources.map .drain)).state.mouse := by
  induction sources generalizing d with
  | nil => exact ⟨rfl, rfl⟩
  | cons source sources ih =>
    unfold samples at ih ⊢
    rw [List.map_cons, samplings, List.map_append]
    exact (d.follows_drain source).append (ih _)

/-- A stream of packets comes to a desktop with nothing pending by way of drains. Every sample is read
off three adjacent bytes of the stream, the first of which can start a packet, from the first to the
last and without using a byte twice. If no drain has spent its budget in the middle of a packet, or the
rest of that packet cannot start another one, then the samples are those of the packets of the stream,
in their order, but for the ones that are cut. -/
theorem drained_samples (hd : d.mouse.decoder.pending = 0) {sources : List (Nat → Option UInt8)}
    {stream : List Packet.Bytes}
    (hstream : Decoder.bytesOf (handed sources) <+: stream.flatMap (·.toList)) :
    let inputs := handed sources
    let packets := Decoder.packets (d.mouse.decoder.run inputs).1
    d.samples (sources.map .drain) = d.mouse.cursor.track packets ∧
      Decoder.Reads (Decoder.bytesOf inputs) packets ∧
      (Decoder.Recovers inputs →
        packets = (Decoder.whole stream inputs).map (·.packet) ∧
          (Decoder.whole stream inputs).Sublist stream) := by
  intro inputs packets
  have hphase := Decoder.pending_eq_zero.1 hd
  refine ⟨(d.follows_drains sources).samples, (Decoder.accounts_run hphase inputs).reads,
    fun hrec => ?_⟩
  exact ⟨(Decoder.inStep_run hphase hstream hrec).packets, Decoder.whole_sublist stream inputs⟩

/-- The second drain spends its budget one byte into a packet; the third starts with the rest of it. -/
theorem drained_samples_past_cut :
    let d := (start {} {} .software (.upTo 4194304)).state
    let still : Packet.Bytes := ⟨0x08, 0x00, 0x00, by decide⟩
    let stream : List Packet.Bytes :=
      List.replicate 32 still ++ [⟨0x38, 0xF7, 0xF0, by decide⟩, ⟨0x09, 0x05, 0x09, by decide⟩]
    let bytes := stream.flatMap (·.toList)
    let sources := [bytes.take 1, bytes.drop 1, bytes.drop 97].map fun part asked => part[asked]?
    d.mouse.decoder.pending = 0 ∧ Decoder.bytesOf (handed sources) = bytes ∧
      Decoder.Recovers (handed sources) ∧
      d.samples (sources.map .drain) =
        d.mouse.cursor.track (List.replicate 32 still.packet ++ [⟨5, 9, .left⟩]) := by
  intro d still stream bytes sources
  have hbytes : Decoder.bytesOf (handed sources) = bytes := by decide +kernel
  have hrec : Decoder.Recovers (handed sources) := by
    unfold Decoder.Recovers Packet.IsNoise
    decide +kernel
  have hstream : Decoder.bytesOf (handed sources) <+: stream.flatMap (·.toList) :=
    ⟨[], (List.append_nil _).trans hbytes⟩
  obtain ⟨hsamples, -, hkept⟩ := drained_samples (d := d) rfl hstream
  have hwhole : (Decoder.whole stream (handed sources)).map (·.packet) =
      List.replicate 32 still.packet ++ [⟨5, 9, .left⟩] := by decide +kernel
  rw [(hkept hrec).1, hwhole] at hsamples
  exact ⟨rfl, hbytes, hrec, hsamples⟩

/-- If the rest of the packet can start another one, a press may come of it that no packet of the stream
holds. -/
theorem press_made_up_after_cut :
    let d := (start {} {} .software (.upTo 4194304)).state
    let still : Packet.Bytes := ⟨0x08, 0x00, 0x00, by decide⟩
    let stream := List.replicate 32 still ++ [⟨0x48, 0x09, 0x00, by decide⟩, still]
    let bytes := stream.flatMap (·.toList)
    let sources := [bytes.take 1, bytes.drop 1, bytes.drop 97].map fun part asked => part[asked]?
    Decoder.bytesOf (handed sources) = bytes ∧
      ¬ ∃ kept : List Packet.Bytes, kept.Sublist stream ∧
        d.samples (sources.map .drain) = d.mouse.cursor.track (kept.map (·.packet)) := by
  intro d still stream bytes sources
  refine ⟨by decide +kernel, ?_⟩
  rintro ⟨kept, hkept, hsamples⟩
  have hpressed : Buttons.left ∈ (d.samples (sources.map .drain)).map (·.buttons) := by
    decide +kernel
  have hreleased : ∀ b ∈ stream, b.packet.buttons ≠ .left := by decide +kernel
  rw [hsamples, Cursor.map_buttons_track, List.map_map] at hpressed
  obtain ⟨b, hb, hleft⟩ := List.mem_map.1 hpressed
  exact hreleased b (hkept.subset hb) hleft

end Desktop
end PointerDesktop
