import PointerDesktop.Proofs.EventRouting
import PointerDesktop.Proofs.Locality
import PointerDesktop.Proofs.StrokePixels

/-!
# What the places in events tell

An event of the pointer names its place as seen from the window's corner, in signed words. A corner may
be farther from the pointer than these reach, and then the place is one full turn of the words off
(`turned`), so that a point far to the left of a window may seem to be inside it (`Rect.ComesRound`).
In every other case the place tells whether the point is in the window.
Main statement: `Desktop.places_tell_inside`.
-/

namespace PointerDesktop

/-! ### Places in words -/

/-- What the coordinate `v` is taken for when signed words say how far it is from `corner`. -/
def turned (v corner : Int) : Int := if v + 2147483648 < corner then v + 4294967296 else v

theorem toInt_ofInt_sub {v corner : Int} (hv : 0 ≤ v) (hlt : v < 2147483648) (hcorner : 0 ≤ corner)
    (hword : corner < 4294967296) : (Int32.ofInt (v - corner)).toInt = turned v corner - corner := by
  rw [Int32.toInt_ofInt, Int.bmod_def]
  simp only [turned, Int32.size]
  omega

/-- The place is one inside a window of this size. -/
def Size.Holds (size : Size) (place : Point) : Prop :=
  (0 ≤ place.x.toInt ∧ place.x.toInt < size.width.toNat) ∧
    0 ≤ place.y.toInt ∧ place.y.toInt < size.height.toNat

instance (size : Size) (place : Point) : Decidable (size.Holds place) :=
  inferInstanceAs (Decidable (_ ∧ _))

namespace Rect
variable {r : Rect} {p : Point}

/-- The point is too far from the corner for signed words, and a full turn brings it into the
rectangle. -/
def ComesRound (r : Rect) (p : Point) : Prop :=
  (p.x.toInt + 2147483648 < r.left ∨ p.y.toInt + 2147483648 < r.top) ∧
    r.Covers (turned p.x.toInt r.left) (turned p.y.toInt r.top)

instance (r : Rect) (p : Point) : Decidable (r.ComesRound p) := inferInstanceAs (Decidable (_ ∧ _))

theorem covers_turned :
    r.Covers (turned p.x.toInt r.left) (turned p.y.toInt r.top) ↔
      r.contains p = true ∨ r.ComesRound p := by
  by_cases hfar : p.x.toInt + 2147483648 < r.left ∨ p.y.toInt + 2147483648 < r.top
  · -- so far from the corner the point is outside, whatever the other axis says
    have hout : ¬ r.contains p = true := by
      rw [contains_iff_covers, Covers]
      omega
    rw [or_iff_right hout, ComesRound, and_iff_right hfar]
  · have hround : ¬ r.ComesRound p := fun h => hfar h.1
    rw [or_iff_left hround, contains_iff_covers, turned, turned, if_neg (by omega), if_neg (by omega)]

/-- A point of the rectangle does not come round to it. -/
theorem not_comesRound_of_contains (h : r.contains p = true) : ¬ r.ComesRound p := by
  rintro ⟨hfar, -⟩
  rw [contains_iff_covers, Covers] at h
  omega

/-- A rectangle whose edges are words has no room for what comes round. -/
theorem not_comesRound_of_words (hx : 0 ≤ p.x.toInt) (hy : 0 ≤ p.y.toInt)
    (hright : r.right ≤ 4294967296) (hbottom : r.bottom ≤ 4294967296) : ¬ r.ComesRound p := by
  rintro ⟨hfar, hcovers⟩
  unfold Covers turned at hcovers
  omega

end Rect

namespace Point
variable {p : Point} {r : Rect}

/-- What a place tells of its point. -/
theorem toInt_relativeTo_turned (hx : 0 ≤ p.x.toInt) (hy : 0 ≤ p.y.toInt) :
    (p.relativeTo r).x.toInt = turned p.x.toInt r.left - r.left ∧
      (p.relativeTo r).y.toInt = turned p.y.toInt r.top - r.top := by
  have hleft : r.left < 4294967296 := Int.ofNat_lt.2 r.x.toNat_lt
  have htop : r.top < 4294967296 := Int.ofNat_lt.2 r.y.toNat_lt
  exact ⟨toInt_ofInt_sub hx p.x.toInt_lt (Int.natCast_nonneg _) hleft,
    toInt_ofInt_sub hy p.y.toInt_lt (Int.natCast_nonneg _) htop⟩

/-- The place of a point of the rectangle is exact. -/
theorem relativeTo_of_contains (hx : 0 ≤ p.x.toInt) (hy : 0 ≤ p.y.toInt)
    (h : r.contains p = true) :
    (p.relativeTo r).x.toInt = p.x.toInt - r.left ∧ (p.relativeTo r).y.toInt = p.y.toInt - r.top := by
  obtain ⟨hplacex, hplacey⟩ := toInt_relativeTo_turned (r := r) hx hy
  rw [Rect.contains_iff_covers, Rect.Covers] at h
  rw [hplacex, hplacey, turned, turned, if_neg (by omega), if_neg (by omega)]
  exact ⟨rfl, rfl⟩

/-- A place is inside when its point is in the rectangle or comes round to it. -/
theorem holds_relativeTo_iff (hx : 0 ≤ p.x.toInt) (hy : 0 ≤ p.y.toInt) :
    r.size.Holds (p.relativeTo r) ↔ r.contains p = true ∨ r.ComesRound p := by
  obtain ⟨hplacex, hplacey⟩ := toInt_relativeTo_turned (r := r) hx hy
  rw [← Rect.covers_turned, Size.Holds, hplacex, hplacey]
  simp only [Rect.Covers, Rect.right, Rect.bottom, Rect.size]
  omega

end Point

/-! ### Places in events -/

/-- The place that an event of the pointer names. -/
def WindowEvent.place? : WindowEvent → Option Point
  | .mouseMove place _ | .mouseButton place _ => some place
  | _ => none

theorem Scene.Emits.place {s : Scene} {config : Config} {p place : Point} {buttons : Buttons}
    {w : Window} {event : WindowEvent} (h : s.Emits config p buttons w event)
    (hplace : event.place? = some place) : place = w.toLocal p := by
  cases h <;> cases hplace <;> rfl

namespace Desktop
variable {d : Desktop} {q : Sample} {sink : EventSink} {id : WindowId} {event : WindowEvent}
  {size : Size} {place : Point}

/-- An event of the pointer names the place of its sample in an open window. -/
theorem place_of_deliver (h : d.toScene.Ok)
    (he : .deliver sink id event size ∈ (d.takeSample q).effects)
    (hplace : event.place? = some place) :
    ∃ w, d.stack.find? id = some w ∧ place = w.toLocal q.position := by
  have hdelivered : .deliver sink id event size ∈ deliveries (d.takeSample q).effects :=
    List.mem_filter.2 ⟨he, rfl⟩
  rcases routes_takeSample h q with hnone | ⟨w, sink', event', size', hw, -, hemits, hes⟩
  · rw [hnone] at hdelivered
    cases hdelivered
  · rw [hes, List.mem_singleton] at hdelivered
    cases hdelivered
    exact ⟨w, (Stack.focusedWindow?_eq_some.1 hw).2, hemits.place hplace⟩

/-- Each event of the pointer that a sample hands out names the place of the sample in an open window.
If the point is in the window, then that is told, and exactly where. In every case the place tells
whether the point is in the window, exactly when the point does not come round to it; and it does not
come round to a window with words for edges. -/
theorem places_tell_inside (hd : d.Reachable) (op : Operation) :
    ∀ m ∈ d.opSamplings op, ∀ sink id event size place,
      .deliver sink id event size ∈ (m.1.takeSample m.2).effects → event.place? = some place →
      let p := m.2.position
      ∃ w, m.1.stack.find? id = some w ∧ place = w.toLocal p ∧
        (w.contains p = true → w.size.Holds place ∧
          place.x.toInt = p.x.toInt - w.rect.left ∧ place.y.toInt = p.y.toInt - w.rect.top) ∧
        ((w.size.Holds place ↔ w.contains p = true) ↔ ¬ w.rect.ComesRound p) ∧
        (w.rect.right ≤ 4294967296 → w.rect.bottom ≤ 4294967296 → ¬ w.rect.ComesRound p) := by
  intro m hm sink id event size place he hplace p
  have hok := (d.sound_opSamplings hd.sound op m hm).ok
  obtain ⟨hx, hy⟩ := nonneg_opSamplings hm
  obtain ⟨w, hw, rfl⟩ := place_of_deliver hok he hplace
  have hinside : w.size.Holds (w.toLocal p) ↔ w.contains p = true ∨ w.rect.ComesRound p :=
    Point.holds_relativeTo_iff hx hy
  refine ⟨w, hw, rfl, fun hc => ⟨hinside.2 (.inl hc), Point.relativeTo_of_contains hx hy hc⟩, ?_,
    Rect.not_comesRound_of_words hx hy⟩
  rw [hinside, or_iff_left_iff_imp]
  constructor
  · intro hall hround
    exact Rect.not_comesRound_of_contains (hall hround) hround
  · intro hnot hround
    exact absurd hround hnot

/-- A point to the left of a window and above it. -/
theorem places_tell_inside_corner :
    let d := ((start {} {} .software (.upTo 4194304)).state.run
      [.create "w" ⟨100, 50⟩ ⟨0⟩, .setSink ⟨1⟩ (.mouseMove "move")]).state
    let m : Desktop × Sample :=
      ({ d with mouse := d.mouse.warp ⟨99, 0⟩ },
        ⟨(d.mouse.warp ⟨99, 0⟩).position, .none, d.mouse.position⟩)
    d.Reachable ∧ m ∈ d.opSamplings (.pointTo ⟨99, 0⟩ .none) ∧ m.2.position = ⟨99, 0⟩ ∧
      .deliver (.mouseMove "move") ⟨1⟩ (.mouseMove ⟨-1, -100⟩ .none) ⟨100, 50⟩ ∈
        (m.1.takeSample m.2).effects ∧
      ∃ w, d.stack.find? ⟨1⟩ = some w ∧
        (w.size.Holds ⟨-1, -100⟩ ↔ w.contains m.2.position = true) := by
  intro d m
  have hd : d.Reachable := (Reachable.start {} {} .software (.upTo 4194304)).run _
  have hm : m ∈ d.opSamplings (.pointTo ⟨99, 0⟩ .none) := List.mem_singleton_self _
  have he : .deliver (.mouseMove "move") ⟨1⟩ (.mouseMove ⟨-1, -100⟩ .none) ⟨100, 50⟩ ∈
      (m.1.takeSample m.2).effects := by decide +kernel
  obtain ⟨w, hw, -, -, htells, hwords⟩ :=
    places_tell_inside hd (.pointTo ⟨99, 0⟩ .none) m hm _ _ _ _ ⟨-1, -100⟩ he rfl
  have hrect : (d.stack.find? ⟨1⟩).map (·.rect) = some ⟨100, 100, 100, 50⟩ := by decide +kernel
  have hwrect : w.rect = ⟨100, 100, 100, 50⟩ := by
    have hfound : d.stack.find? ⟨1⟩ = some w := hw
    rw [hfound] at hrect
    exact Option.some.inj hrect
  refine ⟨hd, hm, by decide +kernel, he, w, hw, htells.2 (hwords ?_ ?_)⟩ <;> rw [hwrect] <;> decide

/-- A window that begins at the last column of all is told that the pointer, far to its left, is at its
column 11. -/
theorem far_point_seems_inside :
    let d := ((start {} {} .software (.upTo 4194304)).state.run
      [.create "w" ⟨100, 100⟩ ⟨0⟩, .setSink ⟨1⟩ (.mouseMove "move"),
        .setPosition ⟨1⟩ 4294967295 0]).state
    (d.stack.find? ⟨1⟩).map (fun w => (w.rect, w.contains ⟨10, 10⟩)) =
        some (⟨4294967295, 0, 100, 100⟩, false) ∧
      deliveries (d.apply (.pointTo ⟨10, 10⟩ .none)).effects =
        [.deliver (.mouseMove "move") ⟨1⟩ (.mouseMove ⟨11, 10⟩ .none) ⟨100, 100⟩] ∧
      Size.Holds ⟨100, 100⟩ ⟨11, 10⟩ := by
  decide +kernel

end Desktop
end PointerDesktop
