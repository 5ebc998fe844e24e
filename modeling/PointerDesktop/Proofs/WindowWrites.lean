import Mathlib.Logic.Relation
import PointerDesktop.Proofs.Edits
import PointerDesktop.Proofs.SceneSteps

/-!
# What operations write to a window

`Window.Write pull` lists the single changes that operations make to an open window; `pull` is the
window that an edge drag is resizing, if one is, with the place it is pulled to and the heap that is
asked. Every window that is open after an operation has come from one that was open before by such
writes, or the operation has created it (`Desktop.written_apply`). What every write keeps therefore
holds of every open window.
-/

namespace PointerDesktop

/-- The window that a sample resizes by its edges, the place that the drag asks for, and the heap that
is asked for the pixels. -/
def Scene.pull? (s : Scene) (config : Config) (p : Point) (buttons : Buttons) :
    Option (Window × Rect × Heap) :=
  match s.tracker.gesture with
  | .resizing d =>
    if buttons.contains .left && Scene.engages config d.engaged d.origin p then
      (s.stack.find? d.window).map fun w => (w, w.resizeTarget d p, s.heap)
    else none
  | _ => none

/-- One change of a window by an operation. -/
inductive Window.Write (pull : Option (Window × Rect × Heap)) : Window → Window → Prop where
  /-- A display or a draw sink paints. -/
  | paint (w : Window) (strokes : List Stroke) :
      Write pull w { w with surface := w.surface.paint strokes }
  | moveTo (w : Window) (x y : UInt32) : Write pull w (w.moveTo x y)
  /-- A caller sets the size. -/
  | resize {w w' : Window} {size : Size} {heap heap' : Heap} (hsize : size.below w.minimum = false)
      (hw : w.resize size heap = (.ok w', heap')) : Write pull w w'
  /-- An edge drag sets size and place. -/
  | pull {w w' : Window} {target : Rect} {heap heap' : Heap}
      (hpull : pull = some (w, target, heap)) (hw : w.resize target.size heap = (.ok w', heap')) :
      Write pull w (w'.moveTo target.x target.y)
  | setMinimum {w w' : Window} {size : Size} (hw : w.setMinimum size = .ok w') : Write pull w w'
  | retitle (w : Window) (title : String) : Write pull w { w with title := title }
  | recolour (w : Window) (color : Color) : Write pull w { w with background := color }
  | setVisible (w : Window) (visible : Bool) : Write pull w (w.setVisible visible)
  | bind (w : Window) (sink : EventSink) : Write pull w { w with sinks := w.sinks.set sink }
  | unbind (w : Window) (kind : EventKind) : Write pull w { w with sinks := w.sinks.clear kind }

/-- Writes, one after the other. -/
abbrev Window.Written (pull : Option (Window × Rect × Heap)) : Window → Window → Prop :=
  Relation.ReflTransGen (Window.Write pull)

/-- Every window of `s'` has come from a window of `s` by writes. -/
def Stack.Written (pull : Option (Window × Rect × Heap)) (s s' : Stack) : Prop :=
  ∀ w' ∈ s'.windows, ∃ w ∈ s.windows, Window.Written pull w w'

section
variable {pull : Option (Window × Rect × Heap)} {s s' s'' : Stack} {v w w' : Window} {id : WindowId}

theorem Window.written_notify (w : Window) (event : WindowEvent) :
    Window.Written pull w (w.notify event).state := by
  unfold Window.notify Sinks.dispatch
  split
  · exact .refl
  split
  · exact .refl
  · exact .single (.paint w _)

theorem Window.written_paint (w : Window) (display : Display) (theme : Theme) (config : Config)
    (focused : Bool) : Window.Written pull w (w.paint display theme config focused).state := by
  unfold Window.paint
  split
  · exact (Relation.ReflTransGen.single (.paint w _)).trans (Window.written_notify _ _)
  · exact .refl

namespace Stack.Written

theorem refl (s : Stack) : Written pull s s :=
  fun w hw => ⟨w, hw, .refl⟩

theorem trans (h : Written pull s s') (h' : Written pull s' s'') : Written pull s s'' := by
  intro w'' hw''
  obtain ⟨w', hw', hwr'⟩ := h' w'' hw''
  obtain ⟨w, hw, hwr⟩ := h w' hw'
  exact ⟨w, hw, hwr.trans hwr'⟩

theorem of_subset (h : ∀ w ∈ s'.windows, w ∈ s.windows) : Written pull s s' :=
  fun w hw => ⟨w, h w hw, .refl⟩

theorem put (hv : v ∈ s.windows) (h : Window.Written pull v w) : Written pull s (s.put w) := by
  intro u hu
  rcases mem_put hu with rfl | hu
  · exact ⟨v, hv, h⟩
  · exact ⟨u, hu, .refl⟩

theorem notify (s : Stack) (id : WindowId) (event : WindowEvent) :
    Written pull s (s.notify id event).state := by
  cases h : s.find? id with
  | none =>
    unfold Stack.notify
    rw [h]
    exact refl s
  | some w =>
    rw [notify_eq h]
    exact put (mem_of_find? h) (w.written_notify event)

theorem remove (s : Stack) (id : WindowId) : Written pull s (s.remove id) :=
  of_subset fun _ hw => List.mem_of_mem_eraseP hw

theorem raise (s : Stack) (id : WindowId) : Written pull s (s.raise id) := by
  cases h : s.find? id with
  | none =>
    rw [raise_of_none h]
    exact refl s
  | some w =>
    rw [raise_eq h]
    refine of_subset fun v hv => ?_
    rcases List.mem_append.1 hv with hv | hv
    · exact List.mem_of_mem_eraseP hv
    · rw [List.mem_singleton.1 hv]
      exact mem_of_find? h

theorem paint (s : Stack) (display : Display) (theme : Theme) (config : Config) (cursor : Point) :
    Written pull s (s.paint display theme config cursor).state := by
  intro w' hw'
  rw [paint_state] at hw'
  obtain ⟨w, hw, rfl⟩ := List.mem_map.1 hw'
  exact ⟨w, hw, w.written_paint display theme config _⟩

end Stack.Written

end

/-! ### Samples -/

namespace Scene
variable {s : Scene} {pull : Option (Window × Rect × Heap)} {config : Config} {p : Point}
  {buttons : Buttons}

theorem written_raiseAt (s : Scene) (p : Point) :
    Stack.Written pull s.stack (s.raiseAt p).stack := by
  unfold raiseAt
  split
  · exact .refl _
  split
  · exact .refl _
  · exact .raise _ _

theorem Acts.written {t : Traced Scene} (h : Acts config p s t) :
    Stack.Written (s.pull? config p s.tracker.buttons) s.stack t.state.stack := by
  have hpulled : ∀ {d w w' heap}, s.tracker.gesture = .resizing d →
      s.tracker.buttons.contains .left = true → engages config d.engaged d.origin p = true →
      s.stack.find? d.window = some w →
      w.resize (w.resizeTarget d p).size s.heap = (.ok w', heap) →
      Stack.Written (s.pull? config p s.tracker.buttons) s.stack
        (s.pulled d w' (w.resizeTarget d p) heap).stack := by
    intro d w w' heap hg hheld he hw hw'
    have hpull : s.pull? config p s.tracker.buttons = some (w, w.resizeTarget d p, s.heap) := by
      unfold pull?
      rw [hg]
      dsimp only
      rw [hheld, he, hw]
      rfl
    exact .put (Stack.mem_of_find? hw) (.single (.pull hpull hw'))
  cases h with
  | rest => exact .refl _
  | grab _ _ _ => exact .refl _
  | raise _ => exact written_raiseAt s p
  | click _ _ _ _ _ => exact .notify _ _ _
  | hover _ _ _ _ => exact .notify _ _ _
  | drag _ hw => exact .put (Stack.mem_of_find? hw) (.single (.moveTo _ _ _))
  | refuse _ _ _ => exact .refl _
  | pull hg hheld he hw hw' _ => exact hpulled hg hheld he hw hw'
  | pullTell hg hheld he hw hw' => exact (hpulled hg hheld he hw hw').trans (.notify _ _ _)
  | drop => exact .refl _
  | release _ _ _ => exact .notify _ _ _

theorem written_step (s : Scene) (config : Config) (p : Point) (buttons : Buttons) :
    Stack.Written (s.pull? config p buttons) s.stack (s.step config p buttons).state.stack := by
  have hact : Stack.Written (s.pull? config p buttons) s.stack
      (s.act config p buttons).state.stack := (acts_act (s := s)).written
  unfold step
  dsimp only
  split
  · exact hact.trans (written_raiseAt _ p)
  · exact hact

end Scene

/-! ### Operations -/

namespace Desktop
variable {d : Desktop}

theorem written_takeSample (d : Desktop) (s : Sample) :
    Stack.Written (d.toScene.pull? d.config s.position s.buttons) d.stack
      (d.takeSample s).state.stack :=
  d.toScene.written_step d.config s.position s.buttons

theorem write_of_change? {op : Operation} {id : WindowId}
    {change : Window → Except WindowError Window} {w w' : Window}
    (hop : op.change? = some (id, change)) (hw : change w = .ok w') : Window.Write none w w' := by
  cases op with
  | setPosition id x y =>
    cases hop
    cases hw
    exact .moveTo w x y
  | setMinimum id size =>
    cases hop
    exact .setMinimum hw
  | setTitle id title =>
    cases hop
    cases hw
    exact .retitle w title
  | setBackground id color =>
    cases hop
    cases hw
    exact .recolour w color
  | reveal id =>
    cases hop
    cases hw
    exact .setVisible w true
  | setSink id sink =>
    cases hop
    cases hw
    exact .bind w sink
  | clearSink id kind =>
    cases hop
    cases hw
    exact .unbind w kind
  | _ => cases hop

theorem Edits.written {op : Operation} {reply : Reply} {s' : Stack} {es : List Effect}
    (h : d.Edits op reply s' es) : Stack.Written none d.stack s' ∨
      ∃ w title size flags heap heap',
        Window.create ⟨d.stack.nextId⟩ title size flags d.config d.theme.windowBackground heap =
          (.ok w, heap') ∧
        s'.windows = d.stack.windows ++ [w] := by
  cases h with
  | refuse e => exact .inl (.refl _)
  | keep _ => exact .inl (.refl _)
  | @create title size flags w _ _ hw _ => exact .inr ⟨w, title, size, flags, _, _, hw, rfl⟩
  | close _ => exact .inl ((Stack.Written.notify _ _ _).trans (.remove _ _))
  | change hop hw hw' =>
    exact .inl (.put (Stack.mem_of_find? hw) (.single (write_of_change? hop hw')))
  | resize hw hmin hw' _ => exact .inl (.put (Stack.mem_of_find? hw) (.single (.resize hmin hw')))
  | resizeTell hw hmin hw' _ =>
    have hput : Stack.Written none d.stack (d.stack.put _) :=
      .put (Stack.mem_of_find? hw) (.single (.resize hmin hw'))
    exact .inl (hput.trans (.notify _ _ _))
  | @hide id w hw _ => exact .inl (.put (Stack.mem_of_find? hw) (.single (.setVisible w false)))
  | @hideFocused id w hw _ =>
    have hput : Stack.Written none d.stack (d.stack.put (w.setVisible false)) :=
      .put (Stack.mem_of_find? hw) (.single (.setVisible w false))
    exact .inl hput
  | focus _ => exact .inl (.raise _ _)
  | pressKey _ => exact .inl (.notify _ _ _)
  | paint => exact .inl (.paint _ _ _ _ _)

/-- What the operations other than those of the pointer leave open has been written to, or created
by the operation. -/
theorem written_apply (d : Desktop) (op : Operation) (hop : op.isPointer = false) {w' : Window}
    (h : w' ∈ (d.apply op).state.stack.windows) :
    (∃ w ∈ d.stack.windows, Window.Written none w w') ∨
      ∃ id title size flags heap heap',
        Window.create id title size flags d.config d.theme.windowBackground heap =
          (.ok w', heap') := by
  rcases (d.edits_apply hop).written with
    hwritten | ⟨w, title, size, flags, heap, heap', hw, hwindows⟩
  · exact .inl (hwritten w' h)
  · rw [hwindows] at h
    rcases List.mem_append.1 h with h | h
    · exact .inl ⟨w', h, .refl⟩
    · rw [List.mem_singleton.1 h]
      exact .inr ⟨_, title, size, flags, heap, heap', hw⟩

end Desktop

end PointerDesktop
