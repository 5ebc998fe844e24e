import PointerDesktop.Proofs.PaintOrder
import PointerDesktop.Proofs.WindowSteps

/-!
# Where pixels come from

Size and surface of a window are stored apart and replaced apart, but they agree in every state
(`Window.Backed`), and a step that is no frame paints nothing: it keeps a window's surface, or gives a
window of a new size a fresh one in its background colour (`Stack.Refits`). A frame, on the other
hand, may paint in any way. What a display and the sinks for drawing do comes down to strokes,
whatever they are made from, and `Turn.frame` takes any. Main statement: `Desktop.surfaces_sound`.
-/

namespace PointerDesktop

namespace Surface
variable {s : Surface} {x y : UInt32}

theorem place_lt (hx : x < s.size.width) (hy : y < s.size.height) :
    y.toNat * s.size.width.toNat + x.toNat < s.pixels.size := by
  rw [UInt32.lt_iff_toNat_lt] at hx hy
  rw [s.size_pixels]
  calc y.toNat * s.size.width.toNat + x.toNat
      < y.toNat * s.size.width.toNat + s.size.width.toNat := Nat.add_lt_add_left hx _
    _ = (y.toNat + 1) * s.size.width.toNat := (Nat.succ_mul ..).symm
    _ ≤ s.size.height.toNat * s.size.width.toNat := Nat.mul_le_mul_right _ hy
    _ = s.size.width.toNat * s.size.height.toNat := Nat.mul_comm ..

theorem isSome_pixel? (s : Surface) (x y : UInt32) :
    (s.pixel? x y).isSome = true ↔ x < s.size.width ∧ y < s.size.height := by
  unfold pixel?
  split
  · next h => simpa [h] using place_lt h.1 h.2
  · next h => simp [h]

theorem pixel?_filled {size : Size} (color : Color) (hx : x < size.width) (hy : y < size.height) :
    (filled size color).pixel? x y = some color := by
  have hplace := place_lt (s := filled size color) hx hy
  unfold pixel?
  rw [if_pos ⟨hx, hy⟩, Array.getElem?_eq_getElem hplace]
  exact congrArg some (Array.getElem_replicate ..)

theorem paint_append (s : Surface) (strokes more : List Stroke) :
    s.paint (strokes ++ more) = (s.paint strokes).paint more :=
  List.foldl_append

end Surface

namespace Window

/-- The window has a size, its surface has the same, and there is a pixel in each place of it. -/
structure Backed (w : Window) : Prop where
  width : 1 ≤ w.rect.width.toNat
  height : 1 ≤ w.rect.height.toNat
  size : w.surface.size = ⟨w.rect.width, w.rect.height⟩
  count : w.surface.pixels.size = w.rect.width.toNat * w.rect.height.toNat
  pixel : ∀ x y, (w.surface.pixel? x y).isSome = true ↔ x < w.rect.width ∧ y < w.rect.height

/-- Every pixel of the window is in its background colour. -/
def Blank (w : Window) : Prop :=
  ∀ x y, x < w.rect.width → y < w.rect.height → w.surface.pixel? x y = some w.background

/-- `w'` has the pixels of `w`, or another size and none but new ones. -/
structure Refits (w w' : Window) : Prop where
  kept : w'.size = w.size → w'.surface = w.surface
  fresh : w'.size ≠ w.size → w'.background = w.background ∧ w'.Blank

variable {d : Desktop} {op : Operation} {p : Point} {g : Gesture} {w w' : Window} {size : Size}
  {heap heap' : Heap}

theorem Ok.backed (hw : w.Ok) : w.Backed := by
  have hsize : w.surface.size = ⟨w.rect.width, w.rect.height⟩ := hw.surface
  have hcount := w.surface.size_pixels
  have hpixel := w.surface.isSome_pixel?
  rw [hsize] at hcount
  simp only [hsize] at hpixel
  obtain ⟨hwidth, hheight⟩ : w.size.width ≠ 0 ∧ w.size.height ≠ 0 := by
    simpa [Size.isEmpty] using hw.nonempty
  refine ⟨Nat.pos_of_ne_zero fun h => hwidth ?_, Nat.pos_of_ne_zero fun h => hheight ?_, hsize,
    hcount, hpixel⟩
  · exact UInt32.toNat_inj.1 h
  · exact UInt32.toNat_inj.1 h

theorem blank_create {id : WindowId} {title : String} {flags : Flags} {config : Config}
    {background : Color}
    (h : create id title size flags config background heap = (.ok w, heap')) : w.Blank := by
  rw [(create_eq h).2]
  exact fun x y => Surface.pixel?_filled background

namespace Refits

theorem of_surface (hsize : w'.size = w.size) (h : w'.surface = w.surface) : w.Refits w' :=
  ⟨fun _ => h, fun hne => absurd hsize hne⟩

theorem refl (w : Window) : w.Refits w := of_surface rfl rfl

theorem resize (h : w.resize size heap = (.ok w', heap')) : w.Refits w' := by
  obtain ⟨-, ⟨-, rfl⟩ | ⟨hne, rfl⟩⟩ := resize_ok h
  · exact refl _
  · exact ⟨fun heq => absurd heq hne, fun _ => ⟨rfl, fun x y => Surface.pixel?_filled _⟩⟩

theorem moveTo (h : w.Refits w') (x y : UInt32) : w.Refits (w'.moveTo x y) := ⟨h.kept, h.fresh⟩

end Refits

theorem Edited.refits (h : w.Edited d op w') (hop : op ≠ .paint) : w.Refits w' := by
  cases h with
  | resize _ hw' => exact .resize hw'
  | paint hpaint _ => exact absurd hpaint hop
  | _ => exact .of_surface rfl rfl

theorem Moved.refits (h : w.Moved p g w') : w.Refits w' := by
  cases h with
  | same _ => exact .refl w
  | drag _ => exact .of_surface rfl rfl
  | pull _ hw' => exact (Refits.resize hw').moveTo _ _

end Window

namespace Stack

/-- Every window of `s'` has the pixels that it had in `s`, or, if it is a new one or has a new size,
shows its background only. -/
def Refits (s s' : Stack) : Prop :=
  ∀ id w', s'.find? id = some w' →
    (∃ w, s.find? id = some w ∧ w.Refits w') ∨ s.find? id = none ∧ w'.Blank

/-- Each window is painted with the strokes that are for it. -/
def repaint (s : Stack) (strokes : Window → List Stroke) : Stack :=
  { s with windows := s.windows.map fun w => { w with surface := w.surface.paint (strokes w) } }

variable {s s' : Stack}

theorem Refits.of_became (h : Became Window.Refits s s') : s.Refits s' :=
  fun id w' hw' => .inl (h id w' hw')

/-- A frame paints strokes on the windows and does nothing else to them. -/
theorem exists_repaint (hs : ∀ w ∈ s.windows, w.Ok) (display : Display) (theme : Theme)
    (config : Config) (cursor : Point) :
    ∃ strokes, (s.paint display theme config cursor).state = s.repaint strokes := by
  let strokes (w : Window) : List Stroke :=
    if w.isVisible then
      (w.decorationCalls theme config (s.lit w)).flatMap display.strokes ++ w.content
    else []
  refine ⟨strokes, ?_⟩
  rw [s.paint_surfaces hs]
  unfold repaint
  congr 1
  refine List.map_congr_left fun w _ => ?_
  dsimp only [strokes]
  split
  · rw [Surface.paint_append]
    rfl
  · rfl

end Stack

/-! ### Runs with frames -/

namespace Scene.Sound
variable {s : Scene} {d : Desktop}

theorem refits_step (h : s.Sound) (config : Config) (q : Sample) :
    s.stack.Refits (s.step config q.position q.buttons).state.stack := by
  refine .of_became fun id w' hw' => ?_
  obtain ⟨w, hw, hmoved⟩ := h.became_step config q.position q.buttons id w' hw'
  exact ⟨w, hw, hmoved.refits⟩

theorem refits_steps (h : s.Sound) (config : Config) (qs : List Sample) (n : Nat) :
    (s.steps config (qs.take n)).state.stack.Refits
      (s.steps config (qs.take (n + 1))).state.stack := by
  rw [List.take_add_one]
  cases hq : qs[n]? with
  | none =>
    rw [Option.toList_none, List.append_nil]
    exact .of_became (.of_find? Window.Refits.refl fun _ => rfl)
  | some q =>
    rw [Option.toList_some, steps_append]
    exact (h.steps config (qs.take n)).refits_step config q

theorem repaint (h : d.toScene.Sound) (strokes : Window → List Stroke) :
    Scene.Sound { d.toScene with stack := d.stack.repaint strokes } := by
  have hids : (d.stack.repaint strokes).ids = d.stack.ids := Stack.ids_map _ fun _ _ => rfl
  refine ⟨⟨h.ok.stack.of_ids hids rfl rfl, ?_⟩, fun w' hw' => ?_⟩
  · refine h.ok.gesture.mono (fun _ _ _ => rfl) fun id w _ hw => ?_
    have hfind : (d.stack.repaint strokes).find? id = (d.stack.find? id).map _ :=
      Stack.find?_map _ fun _ => rfl
    rw [hfind, hw]
    exact ⟨_, rfl, fun _ hf => hf⟩
  · obtain ⟨w, hw, rfl⟩ := List.mem_map.1 hw'
    have hpaint : Window.Write none w { w with surface := w.surface.paint (strokes w) } := .paint w _
    exact (h.windows w hw).write hpaint

end Scene.Sound

/-- What happens to a desktop: it is asked for something, or a frame is painted. -/
inductive Turn where
  | call (op : Operation)
  | frame (strokes : Window → List Stroke)

namespace Desktop
variable {d : Desktop} {op : Operation}

def turn (d : Desktop) : Turn → Desktop
  | .call op => (d.apply op).state
  | .frame strokes => { d with stack := d.stack.repaint strokes }

def turns (d : Desktop) (ts : List Turn) : Desktop := ts.foldl turn d

theorem sound_turns (h : d.toScene.Sound) (ts : List Turn) : (d.turns ts).toScene.Sound := by
  induction ts generalizing d with
  | nil => exact h
  | cons t ts ih =>
    refine ih ?_
    cases t with
    | call op => exact h.apply op
    | frame strokes => exact h.repaint strokes

theorem refits_apply (h : d.toScene.Sound) (hop : op.isPointer = false) (hpaint : op ≠ .paint) :
    d.stack.Refits (d.apply op).state.stack := by
  intro id w' hw'
  rcases (d.edits_apply hop).window h hw' with
    ⟨w, hw, hedited⟩ | ⟨hnone, -, title, size, flags, _, _, hw⟩
  · exact .inl ⟨w, hw, hedited.refits hpaint⟩
  · exact .inr ⟨hnone, Window.blank_create hw⟩

/-- Whatever operations are asked for and whatever frames paint, every window has at least one pixel,
and as many as its size asks for. A new window shows its background, and so does a window that has
got a new size, by a caller or by a sample; no other call and no other sample touches a pixel. That
leaves the call for a frame, which paints strokes on the windows and changes nothing else. -/
theorem surfaces_sound (config : Config) (theme : Theme) (display : Display) (heap : Heap)
    (past : List Turn) :
    let d := (start config theme display heap).state.turns past
    (∀ w ∈ d.stack.windows, w.Backed) ∧
    (∀ op, op.isPointer = false → op ≠ .paint → d.stack.Refits (d.apply op).state.stack) ∧
    (∀ op, op.isPointer = true →
      let qs := (d.opSamplings op).map (·.2)
      let course (n : Nat) : Stack := (d.toScene.steps d.config (qs.take n)).state.stack
      (d.apply op).state.stack = course qs.length ∧
        ∀ n, (∀ w ∈ (course n).windows, w.Backed) ∧ (course n).Refits (course (n + 1))) ∧
    ∃ strokes, (d.apply .paint).state = { d with stack := d.stack.repaint strokes } := by
  intro d
  have hstart : (start config theme display heap).state.toScene.Sound :=
    (Reachable.start config theme display heap).sound
  have hd : d.toScene.Sound := sound_turns hstart past
  refine ⟨fun w hw => (hd.windows w hw).backed, fun op hop hpaint => refits_apply hd hop hpaint,
    fun op hop => ?_, ?_⟩
  · intro qs course
    have hscene := (d.takes_apply hop).scene
    refine ⟨?_, fun n => ⟨fun w hw => ((hd.steps _ _).windows w hw).backed, hd.refits_steps _ qs n⟩⟩
    show (d.apply op).state.stack = (d.toScene.steps d.config (qs.take qs.length)).state.stack
    rw [List.take_length]
    exact congrArg Scene.stack hscene
  · obtain ⟨strokes, hstrokes⟩ := Stack.exists_repaint hd.windows d.display d.theme d.config d.cursor
    exact ⟨strokes, congrArg (fun stack => { d with stack := stack }) hstrokes⟩

end Desktop
end PointerDesktop
