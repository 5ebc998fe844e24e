import Mathlib.Data.List.Rotate
import PointerDesktop.Proofs.OnScreen

/-!
# Operations that are not always defined

Some operations on machine data stop the machine on arguments outside their domain: a range whose bounds
are the wrong way round, a slice that leaves its array, an index past the end. Here they are checked, and
`none` is a stop. What the desktop does with its parts by them is written with the checks in place, and
comes to what it comes to without them (the lemmas `..?_eq`). Why it does is different for each part: a
cursor has at least one pixel to be on, the pixels of a surface are as many as its size says, an index
comes from a search, and between two bytes a packet is not complete (`Cells.Holds`).
-/

namespace PointerDesktop

/-- The integer of a range that is nearest to `v`. The bounds have to be the right way round. -/
def nearest? (lo hi v : Int) : Option Int :=
  if lo ≤ hi then some (max lo (min v hi)) else none

/-- Takes out the entry at an index, which has to exist. -/
def removeAt? {α : Type} (l : List α) (index : Nat) : Option (List α) :=
  if index < l.length then some (l.eraseIdx index) else none

/-- Turns what stands from an index on by one place to the left. That must not be empty. -/
def rotateFrom? {α : Type} (l : List α) (index : Nat) : Option (List α) :=
  if index < l.length then some (l.take index ++ (l.drop index).rotate 1) else none

/-- Sets the `n` pixels from `start` on to `c`. All of them have to exist. -/
def fillSlice? (c : Color) (n start : Nat) (px : Array Color) : Option (Array Color) :=
  if start + n ≤ px.size then some (fillSpan c n start px) else none

/-- `fillRows`, one slice after the other. -/
def fillRows? (c : Color) (stride n : Nat) :
    (rows start : Nat) → (px : Array Color) → Option (Array Color)
  | 0, _, px => some px
  | rows + 1, start, px => do fillRows? c stride n rows (start + stride) (← fillSlice? c n start px)

example : nearest? 0 (-1) 5 = none ∧ removeAt? [1, 2] 2 = none ∧ rotateFrom? [1, 2] 2 = none ∧
    rotateFrom? [1, 2, 3] 1 = some [1, 3, 2] ∧ fillSlice? .black 3 2 #[.black] = none := by
  decide

theorem nearest?_eq {lo hi : Int} (h : lo ≤ hi) (v : Int) :
    nearest? lo hi v = some (max lo (min v hi)) :=
  if_pos h

/-! ### Words and places of windows -/

def word? (v : Int) : Option UInt32 := (nearest? 0 maxWord v).map fun i => .ofNat i.toNat

theorem word?_eq (v : Int) : word? v = some (nearestWord v) := by
  have hnat : (max 0 (min v maxWord)).toNat = min v.toNat maxWord := by
    unfold maxWord
    omega
  unfold word? nearestWord
  rw [nearest?_eq (by decide), Option.map_some, hnat]

def Rect.resized? (r : Rect) (edges : Edges) (dx dy : Int) (least : Size) : Option Rect :=
  let h := movedSpan (edges.contains .left) (edges.contains .right) r.left r.right dx
    (max least.width.toNat 1)
  let v := movedSpan (edges.contains .top) (edges.contains .bottom) r.top r.bottom dy
    (max least.height.toNat 1)
  do some ⟨← word? h.1, ← word? v.1, ← word? (h.2 - h.1), ← word? (v.2 - v.1)⟩

theorem Rect.resized?_eq (r : Rect) (edges : Edges) (dx dy : Int) (least : Size) :
    r.resized? edges dx dy least = some (r.resized edges dx dy least) := by
  unfold resized?
  simp only [word?_eq]
  rfl

namespace Window

def dragged? (w : Window) (d : Drag) (p : Point) : Option Window := do
  some (w.moveTo (← word? (p.x.toInt - d.grab.x.toInt)) (← word? (p.y.toInt - d.grab.y.toInt)))

theorem dragged?_eq (w : Window) (d : Drag) (p : Point) : w.dragged? d p = some (w.dragged d p) := by
  unfold dragged?
  simp only [word?_eq]
  rfl

def resizeTarget? (w : Window) (d : EdgeDrag) (p : Point) : Option Rect :=
  d.originRect.resized? d.edges (p.x.toInt - d.origin.x.toInt) (p.y.toInt - d.origin.y.toInt)
    w.minimum

theorem resizeTarget?_eq (w : Window) (d : EdgeDrag) (p : Point) :
    w.resizeTarget? d p = some (w.resizeTarget d p) :=
  Rect.resized?_eq ..

end Window

/-! ### The cursor -/

namespace Cursor
variable {c : Cursor} {screen : Size}

def clampTo? (v : Int) (extent : Int32) : Option Int32 :=
  (nearest? 0 (extent.toInt - 1) v).map .ofInt

def clamp? (c : Cursor) (x y : Int) : Option Point := do
  some ⟨← clampTo? x c.width, ← clampTo? y c.height⟩

def moveTo? (c : Cursor) (x y : Int) : Option Cursor := do
  some { c with position := ← c.clamp? x y, previous := c.position }

def moveBy? (c : Cursor) (dx dy : Int) : Option Cursor :=
  let sum := Point.nearest (c.position.x.toInt + dx) (c.position.y.toInt + dy)
  c.moveTo? sum.x.toInt sum.y.toInt

def setScreen? (c : Cursor) (screen : Size) : Option (Traced Cursor) :=
  if screen.isEmpty then some { state := c, effects := [.log (.emptyBounds screen)] }
  else do
    let c := { c with width := extent screen.width, height := extent screen.height }
    some
      { state :=
          { c with
            position := ← c.clamp? c.position.x.toInt c.position.y.toInt
            previous := ← c.clamp? c.previous.x.toInt c.previous.y.toInt } }

theorem clampTo?_eq (side : UInt32) (v : Int) :
    clampTo? v (extent side) = some (clampTo v (extent side)) := by
  have hpos := extent_pos side
  unfold clampTo? clampTo
  rw [nearest?_eq (by omega), Option.map_some]

theorem clamp?_eq (hw : c.width = extent screen.width) (hh : c.height = extent screen.height)
    (x y : Int) : c.clamp? x y = some (c.clamp x y) := by
  unfold clamp? clamp
  rw [hw, hh, clampTo?_eq, clampTo?_eq]
  rfl

theorem Ok.moveTo?_eq (h : c.Ok screen) (x y : Int) : c.moveTo? x y = some (c.moveTo x y) := by
  unfold moveTo?
  rw [clamp?_eq h.width h.height]
  rfl

theorem Ok.moveBy?_eq (h : c.Ok screen) (dx dy : Int) : c.moveBy? dx dy = some (c.moveBy dx dy) :=
  h.moveTo?_eq ..

theorem setScreen?_eq (c : Cursor) (screen : Size) :
    c.setScreen? screen = some (c.setScreen screen) := by
  unfold setScreen? setScreen
  split
  · rfl
  · have hclamp : ∀ x y : Int, Cursor.clamp? { c with
        width := extent screen.width, height := extent screen.height } x y = some _ :=
      fun x y => clamp?_eq rfl rfl x y
    simp only [hclamp]
    rfl

end Cursor

/-! ### The bytes of a packet -/

/-- The bytes of a packet as they are kept while it is assembled: as many cells as a packet has, and the
index of the one that the next byte goes to. -/
structure Cells where
  index : Nat := 0
  bytes : Vector UInt8 Packet.length := .replicate Packet.length 0
  stats : Decoder.Stats := {}

namespace Cells
variable {c : Cells}

def push? (c : Cells) (byte : UInt8) : Option (Except WindowError (Option Packet) × Cells) :=
  if c.index = 0 ∧ Packet.hasBit byte Packet.alwaysOne = false then
    some (.error .malformedPacket, { c with stats.resyncBytes := c.stats.resyncBytes + 1 })
  else if h : c.index < Packet.length then
    let bytes := c.bytes.set c.index byte h
    if c.index + 1 < Packet.length then
      some (.ok none, { c with index := c.index + 1, bytes := bytes })
    else
      let overflows : UInt64 := if Packet.overflowed bytes[0] then 1 else 0
      some (.ok (some (.ofBytes bytes[0] bytes[1] bytes[2])),
        { index := 0
          bytes := bytes
          stats :=
            { c.stats with
              packets := c.stats.packets + 1
              overflowPackets := c.stats.overflowPackets + overflows } })
  else none

def reset (c : Cells) : Cells := { c with index := 0 }

example : (Cells.push? { index := 3 } 8).isNone = true := by decide

/-- What the cells hold: the bytes up to the index. -/
def decoder (c : Cells) : Decoder where
  phase :=
    match c.index with
    | 0 => .empty
    | 1 => .one c.bytes[0]
    | _ => .two c.bytes[0] c.bytes[1]
  stats := c.stats

/-- The index is that of a cell, and the cells hold what the decoder does. -/
structure Holds (c : Cells) (d : Decoder) : Prop where
  index : c.index < Packet.length
  decoder : c.decoder = d

theorem Holds.reset {d : Decoder} (h : c.Holds d) : c.reset.Holds d.reset := by
  obtain ⟨-, rfl⟩ := h
  exact ⟨Nat.succ_pos _, rfl⟩

theorem Holds.push? {d : Decoder} (h : c.Holds d) (byte : UInt8) :
    ∃ c', c.push? byte = some ((d.push byte).1, c') ∧ c'.Holds (d.push byte).2 := by
  obtain ⟨hindex, rfl⟩ := h
  obtain ⟨index, bytes, stats⟩ := c
  obtain rfl | rfl | rfl : index = 0 ∨ index = 1 ∨ index = 2 := by
    have hlength : index < 3 := hindex
    omega
  · cases hbit : Packet.hasBit byte Packet.alwaysOne with
    | false =>
      refine ⟨⟨0, bytes, { stats with resyncBytes := stats.resyncBytes + 1 }⟩, ?_, Nat.succ_pos _, ?_⟩
      · simp [Cells.push?, Decoder.push, Cells.decoder, hbit]
      · simp [Decoder.push, Cells.decoder, hbit]
    | true =>
      refine ⟨⟨1, bytes.set 0 byte hindex, stats⟩, ?_, Nat.succ_lt_succ (Nat.succ_pos _), ?_⟩
      · simp [Cells.push?, Decoder.push, Cells.decoder, hbit, Packet.length]
      · simp [Decoder.push, Cells.decoder, hbit]
  · refine ⟨⟨2, bytes.set 1 byte hindex, stats⟩, ?_, Nat.lt_succ_self 2, ?_⟩
    · simp [Cells.push?, Decoder.push, Cells.decoder, Packet.length]
    · simp [Decoder.push, Cells.decoder]
  · have hstatus : (bytes.set 2 byte hindex)[0] = bytes[0] := Vector.getElem_set_ne _ _ (by decide)
    have hx : (bytes.set 2 byte hindex)[1] = bytes[1] := Vector.getElem_set_ne _ _ (by decide)
    have hy : (bytes.set 2 byte hindex)[2] = byte := Vector.getElem_set_self _
    refine ⟨⟨0, bytes.set 2 byte hindex,
      ((⟨.two bytes[0] bytes[1], stats⟩ : Decoder).push byte).2.stats⟩, ?_, Nat.succ_pos _, rfl⟩
    unfold Cells.push?
    rw [if_neg (by simp), dif_pos hindex]
    dsimp only
    rw [if_neg (by decide), hstatus, hx, hy]
    rfl

end Cells

/-! ### Surfaces -/

theorem fillRows?_eq {c : Color} {stride n rows start : Nat} {px : Array Color}
    (h : ∀ i < rows, start + i * stride + n ≤ px.size) :
    fillRows? c stride n rows start px = some (fillRows c stride n rows start px) := by
  induction rows generalizing start px with
  | zero => rfl
  | succ rows ih =>
    have hfirst : start + n ≤ px.size := by simpa using h 0 (Nat.succ_pos _)
    unfold fillRows? fillSlice?
    rw [if_pos hfirst]
    refine ih fun i hi => ?_
    have hrow := h (i + 1) (by omega)
    rw [Nat.succ_mul] at hrow
    rw [size_fillSpan]
    omega

theorem size_of_fillRows? {c : Color} {stride n rows start : Nat} {px px' : Array Color}
    (h : fillRows? c stride n rows start px = some px') : px'.size = px.size := by
  induction rows generalizing start px with
  | zero =>
    cases h
    rfl
  | succ rows ih =>
    obtain ⟨filled, hfilled, hrest⟩ := Option.bind_eq_some_iff.1 h
    unfold fillSlice? at hfilled
    split at hfilled
    · cases hfilled
      rw [ih hrest, size_fillSpan]
    · cases hfilled

/-- What a surface and a rectangle have in common lies on the surface. -/
theorem Rect.le_of_intersect? {size : Size} {r clip : Rect}
    (h : (Rect.ofSize size).intersect? r = some clip) :
    clip.x.toNat + clip.width.toNat ≤ size.width.toNat ∧
      clip.y.toNat + clip.height.toNat ≤ size.height.toNat := by
  unfold intersect? at h
  dsimp only at h
  split at h
  · cases h
  next hoverlap =>
  cases h
  have hwidth := size.width.toNat_lt
  have hheight := size.height.toNat_lt
  simp only [ofEdges, toNat_nearestWord]
  simp only [ofSize, left, top, right, bottom, maxWord] at *
  simp only [UInt32.toNat_zero] at *
  omega

namespace Surface

def fillRect? (s : Surface) (rect : Rect) (color : Color) : Option Surface :=
  match (Rect.ofSize s.size).intersect? rect with
  | none => some s
  | some clip =>
    match h : fillRows? color s.size.width.toNat clip.width.toNat clip.height.toNat
        (clip.y.toNat * s.size.width.toNat + clip.x.toNat) s.pixels with
    | none => none
    | some px => some
      { s with pixels := px, size_pixels := (size_of_fillRows? h).trans s.size_pixels }

/-- A client that sets a single pixel minds the range itself. -/
def stroke? (s : Surface) : Stroke → Option Surface
  | .fill color => some (s.fill color)
  | .fillRect rect color => s.fillRect? rect color
  | .setPixel index color => some (s.setPixel index color)

def paint? (s : Surface) (strokes : List Stroke) : Option Surface :=
  strokes.foldlM stroke? s

theorem fillRect?_eq (s : Surface) (rect : Rect) (color : Color) :
    s.fillRect? rect color = some (s.fillRect rect color) := by
  unfold fillRect? fillRect
  cases hclip : (Rect.ofSize s.size).intersect? rect with
  | none => rfl
  | some clip =>
    obtain ⟨hwidth, hheight⟩ := Rect.le_of_intersect? hclip
    have hinside : ∀ i < clip.height.toNat,
        clip.y.toNat * s.size.width.toNat + clip.x.toNat + i * s.size.width.toNat +
          clip.width.toNat ≤ s.pixels.size := by
      intro i hi
      rw [s.size_pixels]
      calc clip.y.toNat * s.size.width.toNat + clip.x.toNat + i * s.size.width.toNat +
            clip.width.toNat
          = (clip.y.toNat + i) * s.size.width.toNat + (clip.x.toNat + clip.width.toNat) := by
            rw [Nat.add_mul]
            omega
        _ ≤ (clip.y.toNat + i) * s.size.width.toNat + s.size.width.toNat :=
            Nat.add_le_add_left hwidth _
        _ = (clip.y.toNat + i + 1) * s.size.width.toNat := (Nat.succ_mul ..).symm
        _ ≤ s.size.height.toNat * s.size.width.toNat := Nat.mul_le_mul_right _ (by omega)
        _ = s.size.width.toNat * s.size.height.toNat := Nat.mul_comm ..
    have hrows := fillRows?_eq (c := color) hinside
    dsimp only
    split
    · next hnone =>
      rw [hrows] at hnone
      cases hnone
    · next px hpx =>
      rw [hrows] at hpx
      cases hpx
      rfl

theorem paint?_eq (s : Surface) (strokes : List Stroke) : s.paint? strokes = some (s.paint strokes) := by
  have hstroke : ∀ (s : Surface) (k : Stroke), s.stroke? k = some (s.stroke k) := by
    intro s k
    cases k with
    | fillRect rect color => exact s.fillRect?_eq rect color
    | _ => rfl
  unfold paint? paint
  induction strokes generalizing s with
  | nil => rfl
  | cons k strokes ih =>
    rw [List.foldlM_cons, hstroke]
    exact ih (s.stroke k)

end Surface

/-! ### The stack -/

namespace Stack
variable {s : Stack} {w : Window} {id : WindowId}

def remove? (s : Stack) (id : WindowId) : Option Stack :=
  match s.windows.findIdx? (·.id == id) with
  | none => some s
  | some index => do
    some
      { s with
        windows := ← removeAt? s.windows index
        focused := if s.focused = some id then none else s.focused }

def promote? (s : Stack) (id : WindowId) : Option (Except WindowError Stack) :=
  match s.windows.findIdx? (·.id == id) with
  | none => some (.error .unknownWindow)
  | some index => do
    some (.ok { s with windows := ← rotateFrom? s.windows index, focused := some id })

def raise? (s : Stack) (id : WindowId) : Option Stack := do
  match ← s.promote? id with
  | .error _ => some s
  | .ok s' => some s'

/-- Where the search for a window ends. -/
theorem split_of_find? (hw : s.find? id = some w) :
    ∃ below above, s.windows = below ++ w :: above ∧
      s.windows.findIdx? (·.id == id) = some below.length ∧
      s.windows.eraseP (·.id == id) = below ++ above := by
  obtain ⟨hid, below, above, hwindows, hbelow⟩ := List.find?_eq_some_iff_append.1 hw
  have hne : ∀ v ∈ below, ¬ (v.id == id) = true := by simpa using hbelow
  refine ⟨below, above, hwindows, ?_, ?_⟩
  · rw [hwindows, List.findIdx?_append, List.findIdx?_eq_none_iff.2 (by simpa using hne),
      List.findIdx?_cons, if_pos hid]
    simp
  · rw [hwindows, List.eraseP_append_right _ hne,
      List.eraseP_cons_of_pos (p := fun v : Window => v.id == id) hid]

theorem remove?_eq (hw : s.find? id = some w) : s.remove? id = some (s.remove id) := by
  obtain ⟨below, above, hwindows, hindex, herase⟩ := split_of_find? hw
  have hremoved : removeAt? s.windows below.length = some (below ++ above) := by
    unfold removeAt?
    rw [hwindows, if_pos (by simp)]
    simp [List.eraseIdx_append_of_length_le]
  unfold remove? remove
  rw [hindex, herase]
  dsimp only
  rw [hremoved]
  rfl

theorem promote?_eq (s : Stack) (id : WindowId) : s.promote? id = some (s.promote id) := by
  unfold promote?
  cases hw : s.find? id with
  | none =>
    have hnone : s.windows.findIdx? (·.id == id) = none :=
      List.findIdx?_eq_none_iff.2 (by simpa using List.find?_eq_none.1 hw)
    rw [hnone]
    unfold promote
    rw [hw]
  | some w =>
    obtain ⟨below, above, hwindows, hindex, herase⟩ := split_of_find? hw
    have hrotated : rotateFrom? s.windows below.length = some (below ++ above ++ [w]) := by
      unfold rotateFrom?
      rw [hwindows, if_pos (by simp)]
      simp
    rw [hindex, promote_eq hw, herase]
    dsimp only
    rw [hrotated]
    rfl

theorem raise?_eq (s : Stack) (id : WindowId) : s.raise? id = some (s.raise id) := by
  unfold raise? raise
  rw [promote?_eq]
  cases s.promote id <;> rfl

end Stack
end PointerDesktop
