import PointerDesktop.Proofs.PacketStreams
import PointerDesktop.Proofs.Samples

/-!
# Two ways for the pointer to come in

A pointing device reports how far the pointer has moved, byte by byte; other sources say where it is.
What a byte of the device does to a desktop is read off what it does to the decoder
(`Desktop.feed_of_push_packet` and its companions). Main statement: `Desktop.packet_points`, the
packet is worth as much as the point that it leads to.
-/

namespace PointerDesktop

namespace Cursor

/-- Stopping at the largest and the smallest coordinate makes no difference to what is clamped to the
screen anyway. -/
theorem clampTo_nearestCoordinate (v : Int) (extent : Int32) :
    clampTo (nearestCoordinate v).toInt extent = clampTo v extent := by
  have hlt := extent.toInt_lt
  have hnearest : (nearestCoordinate v).toInt = max (-2147483648) (min v 2147483647) := by
    unfold nearestCoordinate maxCoordinate
    rw [Int32.toInt_ofInt_of_le (by omega) (by omega)]
  unfold clampTo
  rw [hnearest]
  congr 1
  omega

theorem moveTo_nearest (c : Cursor) (x y : Int) :
    c.moveTo (Point.nearest x y).x.toInt (Point.nearest x y).y.toInt = c.moveTo x y := by
  unfold moveTo clamp Point.nearest
  rw [clampTo_nearestCoordinate, clampTo_nearestCoordinate]

/-- So a displacement leads where the exact sums lead. -/
theorem moveBy_eq (c : Cursor) (dx dy : Int) :
    c.moveBy dx dy = c.moveTo (c.position.x.toInt + dx) (c.position.y.toInt + dy) :=
  c.moveTo_nearest _ _

/-- The sample that a packet makes of the cursor. -/
def sample (c : Cursor) (packet : Packet) : Sample :=
  ⟨(c.moveBy packet.dx (-packet.dy)).position, packet.buttons, c.position⟩

end Cursor

namespace Desktop
variable {d : Desktop} {byte : UInt8} {decoder : Decoder} {packet : Packet}

theorem feed_of_push_none (h : d.mouse.decoder.push byte = (.ok none, decoder)) :
    d.feed byte = { state := { d with mouse := { d.mouse with decoder := decoder } } } := by
  unfold feed Mouse.feed
  rw [h]

theorem feed_of_push_packet (h : d.mouse.decoder.push byte = (.ok (some packet), decoder)) :
    d.feed byte =
      takeSample { d with mouse := Mouse.follow { d.mouse with decoder := decoder } packet }
        (d.mouse.cursor.sample packet) := by
  unfold feed Mouse.feed
  rw [h]
  rfl

/-- The three bytes of a packet make one sample. -/
theorem feedAll_bytes (hd : d.mouse.decoder.phase = .empty) (b : Packet.Bytes) :
    d.feedAll b.toList =
      takeSample
        { d with
          mouse := Mouse.follow ⟨(d.mouse.decoder.pushAll b.toList).2, d.mouse.cursor⟩ b.packet }
        (d.mouse.cursor.sample b.packet) := by
  have hfirst := feed_of_push_none (Decoder.push_start hd b.starts)
  have hsecond (stats : Decoder.Stats) :=
    feed_of_push_none (d := { d with mouse := ⟨⟨.one b.status, stats⟩, d.mouse.cursor⟩ })
      (Decoder.push_second rfl b.x)
  have hthird (stats : Decoder.Stats) :=
    feed_of_push_packet (d := { d with mouse := ⟨⟨.two b.status b.x, stats⟩, d.mouse.cursor⟩ })
      (Decoder.push_third rfl b.y)
  rw [Decoder.pushAll_bytes hd b]
  unfold Packet.Bytes.toList
  rw [feedAll_cons, hfirst, feedAll_cons, hsecond, feedAll_cons, hthird]
  simp only [feedAll, List.map_nil, run, List.nil_append, List.append_nil]
  rfl

/-- With nothing pending, three bytes that make a packet do what a pointer position does: the one that
the packet leads to from the cursor, each coordinate as near to it as a word can say. Windows, order,
focus, gesture and cursor come out the same, and display, observer and clients are called alike. Only
the decoder tells the difference. -/
theorem packet_points (hd : d.mouse.decoder.pending = 0) (b : Packet.Bytes) :
    let target := Point.nearest (d.cursor.x.toInt + b.packet.dx) (d.cursor.y.toInt - b.packet.dy)
    let fed := d.run [.feed b.status, .feed b.x, .feed b.y]
    let pointed := d.run [.pointTo target b.packet.buttons]
    let decoded := d.mouse.decoder.pushAll b.toList
    decoded.1 = Decoder.read b.packet ∧
      fed.effects = pointed.effects ∧
      fed.state = { pointed.state with mouse := ⟨decoded.2, pointed.state.mouse.cursor⟩ } := by
  intro target fed pointed decoded
  have hphase := Decoder.pending_eq_zero.1 hd
  have hread : decoded.1 = Decoder.read b.packet := by
    show (d.mouse.decoder.pushAll b.toList).1 = _
    rw [Decoder.pushAll_bytes hphase b]
  have hfed : fed = takeSample
      { d with mouse := Mouse.follow ⟨decoded.2, d.mouse.cursor⟩ b.packet }
      (d.mouse.cursor.sample b.packet) := feedAll_bytes hphase b
  have hcursor : d.mouse.cursor.moveTo target.x.toInt target.y.toInt =
      d.mouse.cursor.moveBy b.packet.dx (-b.packet.dy) := by
    rw [Cursor.moveBy_eq, ← Int.sub_eq_add_neg]
    exact Cursor.moveTo_nearest ..
  have hpointed : pointed = takeSample { d with mouse := Mouse.follow d.mouse b.packet }
      (d.mouse.cursor.sample b.packet) := by
    have hwarp : d.mouse.warp target = Mouse.follow d.mouse b.packet := by
      unfold Mouse.warp Mouse.follow
      rw [hcursor]
    have hpoint : d.pointTo target b.packet.buttons = takeSample
        { d with mouse := Mouse.follow d.mouse b.packet } (d.mouse.cursor.sample b.packet) := by
      unfold pointTo
      rw [hwarp]
      rfl
    show d.run _ = _
    simp only [run, apply, silent, hpoint, List.append_nil]
  rw [hfed, hpointed]
  exact ⟨hread, rfl, rfl⟩

/-- A packet with the left button down that leads past the last coordinate there is. -/
theorem packet_points_past_edge :
    let d := ((start { screen := ⟨4000000000, 600⟩ } {} .software (.upTo 4194304)).state.run
      [.create "w" ⟨4, 4⟩ .titled, .setObserver (some "o"), .pointTo ⟨2147483640, 100⟩ .none]).state
    let fed := d.run [.feed 0x09, .feed 0xFF, .feed 0x10]
    let pointed := d.run [.pointTo ⟨2147483647, 84⟩ .left]
    d.mouse.decoder.pending = 0 ∧ fed.effects = pointed.effects ∧
      fed.effects =
        [.display (.eraseCursor ⟨2147483640, 100⟩), .display (.drawCursor ⟨2147483646, 84⟩),
          .observe "o" ⟨2147483646, 84⟩ .left] ∧
      fed.state.cursor = pointed.state.cursor := by
  intro d fed pointed
  have hd : d.mouse.decoder.pending = 0 := by decide +kernel
  have hpoints := packet_points hd ⟨0x09, 0xFF, 0x10, by decide⟩
  have htarget : Point.nearest
      (d.cursor.x.toInt + (Packet.ofBytes 0x09 0xFF 0x10).dx)
      (d.cursor.y.toInt - (Packet.ofBytes 0x09 0xFF 0x10).dy) = ⟨2147483647, 84⟩ := by
    decide +kernel
  dsimp only [Packet.Bytes.packet] at hpoints
  rw [htarget] at hpoints
  obtain ⟨-, heffects, hstate⟩ := hpoints
  have hcursor := congrArg Desktop.cursor hstate
  exact ⟨hd, heffects, by decide +kernel, hcursor⟩

end Desktop
end PointerDesktop
