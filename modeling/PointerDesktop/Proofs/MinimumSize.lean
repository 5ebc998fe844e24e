import PointerDesktop.Proofs.Reachable

/-!
# When a window is smaller than its minimum

An edge drag computes the window's new place from the place at the press and from the minimum of
now. A caller may enlarge the window and its minimum in between, and then the edges that stay put may
leave less room than the minimum asks for: `Desktop.Starves`. Everything else that writes sizes or
minima keeps every window at least as large as its minimum, so that a run does so exactly if none of
its samples starves a window (`Desktop.roomy_iff_never_starved`).
-/

namespace PointerDesktop

theorem Size.below_eq_false {s t : Size} :
    s.below t = false ↔ t.width ≤ s.width ∧ t.height ≤ s.height := by
  unfold below
  rw [Bool.or_eq_false_iff, decide_eq_false_iff_not, decide_eq_false_iff_not, UInt32.not_lt,
    UInt32.not_lt]

theorem Size.min_below (s t : Size) : t.below (s.min t) = false := by
  rw [below_eq_false]
  exact ⟨Std.min_le_right, Std.min_le_right⟩

/-! ### Room for the moving edges -/

/-- A span from `lo` to `hi` can be made `least` long by moving its low or else its high end. The
low end cannot go below zero; without a moving end the span keeps its length. -/
def SpanRoom (lowMoves highMoves : Bool) (lo hi : Int) (least : Nat) : Prop :=
  if lowMoves then least ≤ hi else if highMoves then True else least ≤ hi - lo

/-- The place at the press has room for a size of `least` after its grabbed edges have moved. -/
def EdgeDrag.HasRoom (d : EdgeDrag) (least : Size) : Prop :=
  SpanRoom (d.edges.contains .left) (d.edges.contains .right) d.originRect.left d.originRect.right
      least.width.toNat ∧
    SpanRoom (d.edges.contains .top) (d.edges.contains .bottom) d.originRect.top
      d.originRect.bottom least.height.toNat

theorem le_movedSpan {lowMoves highMoves : Bool} {lo hi delta : Int} {least : UInt32}
    (hlo : 0 ≤ lo) (hhi : lo ≤ hi) :
    let ends := movedSpan lowMoves highMoves lo hi delta (max least.toNat 1)
    least ≤ nearestWord (ends.2 - ends.1) ↔ SpanRoom lowMoves highMoves lo hi least.toNat := by
  have hword : ∀ i : Int, 0 ≤ i → (least ≤ nearestWord i ↔ (least.toNat : Int) ≤ i) := by
    intro i hi
    have := least.toNat_lt
    rw [UInt32.le_iff_toNat_le, toNat_nearestWord]
    unfold maxWord
    omega
  unfold movedSpan SpanRoom
  dsimp only
  split
  · rw [hword _ (by dsimp only; omega)]
    dsimp only
    omega
  split
  · rw [hword _ (by dsimp only; omega)]
    dsimp only
    rw [iff_true]
    omega
  · exact hword _ (by dsimp only; omega)

/-- The size that an edge drag asks for is below the minimum exactly if there is no room for it. -/
theorem Window.below_resizeTarget (w : Window) (d : EdgeDrag) (p : Point) :
    (w.resizeTarget d p).size.below w.minimum = false ↔ d.HasRoom w.minimum := by
  rw [Size.below_eq_false]
  exact and_congr
    (le_movedSpan (Int.natCast_nonneg _) (Int.le_add_of_nonneg_right (Int.natCast_nonneg _)))
    (le_movedSpan (Int.natCast_nonneg _) (Int.le_add_of_nonneg_right (Int.natCast_nonneg _)))

/-! ### Writes -/

/-- The window is at least as large as its minimum. -/
def Window.Roomy (w : Window) : Prop := w.size.below w.minimum = false

namespace Window
variable {pull : Option (Window × Rect × Heap)} {w w' : Window} {heap heap' : Heap}

theorem size_resize {size : Size} (h : w.resize size heap = (.ok w', heap')) : w'.size = size := by
  rw [resize_eq h]
  rfl

theorem minimum_resize {size : Size} (h : w.resize size heap = (.ok w', heap')) :
    w'.minimum = w.minimum := by
  rw [resize_eq h]

theorem Roomy.write (h : Write pull w w') (hw : w.Roomy)
    (hpull : ∀ v target v' heap heap', pull = some (v, target, heap) →
      v.resize target.size heap = (.ok v', heap') → target.size.below v.minimum = false) :
    w'.Roomy := by
  cases h with
  | resize hsize hresize =>
    unfold Roomy
    rw [size_resize hresize, minimum_resize hresize]
    exact hsize
  | pull hp hresize =>
    -- the one write that may ask for a size below the minimum
    have hbelow := hpull _ _ _ _ _ hp hresize
    rw [← size_resize hresize, ← minimum_resize hresize] at hbelow
    exact hbelow
  | setMinimum hmin =>
    unfold setMinimum at hmin
    split at hmin
    · cases hmin
    · cases hmin
      exact Size.min_below _ _
  | _ => exact hw

theorem Roomy.written (h : Written pull w w') (hw : w.Roomy)
    (hpull : ∀ v target v' heap heap', pull = some (v, target, heap) →
      v.resize target.size heap = (.ok v', heap') → target.size.below v.minimum = false) :
    w'.Roomy := by
  induction h with
  | refl => exact hw
  | tail _ hstep ih => exact ih.write hstep hpull

theorem roomy_create {id : WindowId} {title : String} {size : Size} {flags : Flags}
    {config : Config} {background : Color}
    (h : create id title size flags config background heap = (.ok w, heap')) : w.Roomy := by
  rw [(create_eq h).2]
  exact Size.min_below _ _

end Window

/-! ### Samples and runs -/

namespace Scene
variable {s : Scene} {config : Config} {p : Point}

/-- A drag that gets its size leaves the window at the place that it asks for. -/
theorem find?_resizeTo {d : EdgeDrag} {w w' : Window} {heap : Heap}
    (he : engages config d.engaged d.origin p = true) (hw : s.stack.find? d.window = some w)
    (hresize : w.resize (w.resizeTarget d p).size s.heap = (.ok w', heap)) :
    (s.resizeTo config d p).state.tracker.gesture.isIdle = false ∧
      ∃ v, (s.resizeTo config d p).state.stack.find? d.window = some v ∧
        v.rect = w.resizeTarget d p ∧ v.minimum = w.minimum := by
  have hid : (w'.moveTo (w.resizeTarget d p).x (w.resizeTarget d p).y).id = d.window := by
    show w'.id = d.window
    rw [Window.id_resize hresize, Stack.id_of_find? hw]
  have hput : (s.stack.put (w'.moveTo (w.resizeTarget d p).x (w.resizeTarget d p).y)).find?
      d.window = some (w'.moveTo (w.resizeTarget d p).x (w.resizeTarget d p).y) := by
    rw [← hid] at hw ⊢
    exact Stack.find?_put_self hw
  have hrect : (w'.moveTo (w.resizeTarget d p).x (w.resizeTarget d p).y).rect =
      w.resizeTarget d p := by
    rw [Window.resize_eq hresize]
    rfl
  have hmin := Window.minimum_resize hresize
  unfold resizeTo
  rw [if_pos he]
  dsimp only [setGesture]
  rw [hw]
  dsimp only
  rw [hresize]
  dsimp only
  split
  · exact ⟨rfl, _, hput, hrect, hmin⟩
  · exact ⟨rfl, _, Stack.find?_notify_self hput _, hrect, hmin⟩

end Scene

namespace Desktop

/-- Every open window is at least as large as its minimum. -/
def Roomy (d : Desktop) : Prop := ∀ w ∈ d.stack.windows, w.Roomy

instance (d : Desktop) : Decidable d.Roomy :=
  inferInstanceAs (Decidable (∀ w ∈ d.stack.windows, w.size.below w.minimum = false))

/-- The sample pulls the edges of a window whose minimum is more than its place at the press has room
for, and the window gets the size that the pull asks for. -/
def Starves (d : Desktop) (q : Sample) : Prop :=
  ∃ g w w' heap, d.tracker.gesture = .resizing g ∧ q.buttons.contains .left = true ∧
    Scene.engages d.config g.engaged g.origin q.position = true ∧
    d.stack.find? g.window = some w ∧
    w.resize (w.resizeTarget g q.position).size d.heap = (.ok w', heap) ∧ ¬ g.HasRoom w.minimum

variable {d : Desktop} {q : Sample}

/-- A sample that starves no window keeps all windows at least as large as their minimum. -/
theorem Roomy.takeSample (h : d.Roomy) (hq : ¬ d.Starves q) : (d.takeSample q).state.Roomy := by
  intro w' hw'
  obtain ⟨w, hw, hww'⟩ := d.written_takeSample q w' hw'
  refine (h w hw).written hww' fun v target v' heap heap' hp hresize => ?_
  unfold Scene.pull? at hp
  split at hp
  · next g hg =>
    split at hp
    · next hheld =>
      rw [Bool.and_eq_true] at hheld
      obtain ⟨u, hu, hut⟩ := Option.map_eq_some_iff.1 hp
      cases hut
      rw [Window.below_resizeTarget]
      by_contra hroom
      exact hq ⟨g, v, v', heap', hg, hheld.1, hheld.2, hu, hresize, hroom⟩
    · cases hp
  · cases hp

/-- A starved window is smaller than its minimum. -/
theorem Starves.not_roomy (h : d.Starves q) : ¬ (d.takeSample q).state.Roomy := by
  obtain ⟨g, w, w', heap, hg, hheld, he, hw, hresize, hroom⟩ := h
  obtain ⟨hbusy, v, hv, hrect, hmin⟩ := Scene.find?_resizeTo
    (s := d.toScene.note q.position q.buttons) he hw hresize
  rw [← Scene.act_resizing hg hheld] at hbusy hv
  have hstep : (d.takeSample q).state.stack.find? g.window = some v := by
    unfold Desktop.takeSample
    rw [Scene.step_of_busy hbusy]
    exact hv
  intro hall
  have hv := hall v (Stack.mem_of_find? hstep)
  unfold Window.Roomy Window.size at hv
  rw [hrect, hmin, Window.below_resizeTarget] at hv
  exact hroom hv

theorem Roomy.apply (h : d.Roomy) {op : Operation} (hop : op.isPointer = false) :
    (d.apply op).state.Roomy := by
  intro w' hw'
  rcases d.written_apply op hop hw' with
    ⟨w, hw, hww'⟩ | ⟨id, title, size, flags, heap, heap', hc⟩
  · exact (h w hw).written hww' fun _ _ _ _ _ hp => by cases hp
  · exact Window.roomy_create hc

/-- In a run from a desktop without windows, every window is at least as large as its minimum after
every operation and after every sample exactly if no sample of the run starves a window. -/
theorem roomy_iff_never_starved (config : Config) (theme : Theme) (display : Display) (heap : Heap)
    (ops : List Operation) :
    let d := (start config theme display heap).state
    ((∀ n, (d.run (ops.take n)).state.Roomy) ∧
        ∀ m ∈ d.samplings ops, (m.1.takeSample m.2).state.Roomy) ↔
      ∀ m ∈ d.samplings ops, ¬ m.1.Starves m.2 := by
  intro d
  have hd : d.Roomy := fun w hw => absurd hw List.not_mem_nil
  have hrun : ∀ ops' : List Operation, (∀ m ∈ d.samplings ops', ¬ m.1.Starves m.2) →
      (d.run ops').state.Roomy ∧ ∀ m ∈ d.samplings ops', m.1.Roomy := fun ops' hno =>
    keeps_run (P := Roomy) (fun _ _ h => h) (fun _ _ hop h => h.apply hop) hd
      fun m hm h => h.takeSample (hno m hm)
  constructor
  · rintro ⟨-, hroomy⟩ m hm hstarves
    exact hstarves.not_roomy (hroomy m hm)
  · intro hno
    refine ⟨fun n => ?_, fun m hm => ((hrun ops hno).2 m hm).takeSample (hno m hm)⟩
    -- the samples of the first `n` operations are samples of the run
    refine (hrun (ops.take n) fun m hm => hno m ?_).1
    rw [← List.take_append_drop n ops, samplings_append]
    exact List.mem_append_left _ hm

/-- While the left edge of a window is held, the window and its minimum are made wider than the
screen reaches to the right edge that it had at the press. The next sample starves it. -/
theorem widened_while_held_not_roomy :
    ¬ ((start {} {} .software (.upTo 4194304)).state.run
      [.create "w" ⟨10, 10⟩ .resizable, .pointTo ⟨100, 105⟩ .left, .setSize ⟨1⟩ ⟨120, 10⟩,
        .setMinimum ⟨1⟩ ⟨120, 5⟩, .pointTo ⟨104, 105⟩ .left]).state.Roomy := by
  decide +kernel

end Desktop
end PointerDesktop
