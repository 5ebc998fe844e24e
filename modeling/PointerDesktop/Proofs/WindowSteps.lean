import PointerDesktop.Proofs.GivenIds
import PointerDesktop.Proofs.PressRelease

/-!
# What a step does to one window

`Window.Edited` lists what an operation other than pointer input can make of an open window, and
`Window.Moved` what a sample can make of it, each with its cause. Any window that is open after a step
has become what it is in one of these ways (`Desktop.Edits.window`, `Scene.Sound.became_step`),
or the operation has opened it.
-/

namespace PointerDesktop

/-- What an operation that is no pointer input makes of the window `w`. -/
inductive Window.Edited (d : Desktop) (op : Operation) (w : Window) : Window → Prop where
  | same : Edited d op w w
  | moveTo {x y : UInt32} (hop : op = .setPosition w.id x y) : Edited d op w (w.moveTo x y)
  | setMinimum {size : Size} (hop : op = .setMinimum w.id size) :
      Edited d op w { w with minimum := size.min w.size }
  | retitle {title : String} (hop : op = .setTitle w.id title) :
      Edited d op w { w with title := title }
  | recolour {color : Color} (hop : op = .setBackground w.id color) :
      Edited d op w { w with background := color }
  | reveal (hop : op = .reveal w.id) : Edited d op w (w.setVisible true)
  | hide (hop : op = .hide w.id) : Edited d op w (w.setVisible false)
  | bind {sink : EventSink} (hop : op = .setSink w.id sink) :
      Edited d op w { w with sinks := w.sinks.set sink }
  | unbind {kind : EventKind} (hop : op = .clearSink w.id kind) :
      Edited d op w { w with sinks := w.sinks.clear kind }
  | resize {size : Size} {w' : Window} {heap : Heap} (hop : op = .setSize w.id size)
      (hw' : w.resize size d.heap = (.ok w', heap)) : Edited d op w w'
  | paint (hop : op = .paint) (focused : Bool) :
      Edited d op w (w.paint d.display d.theme d.config focused).state

/-- What a sample at `p` that finds a gesture makes of the window `w`. -/
inductive Window.Moved (p : Point) (w : Window) : Gesture → Window → Prop where
  | same (g : Gesture) : Moved p w g w
  | drag {g : Drag} (hg : g.window = w.id) : Moved p w (.dragging g) (w.dragged g p)
  | pull {g : EdgeDrag} {w' : Window} {heap heap' : Heap} (hg : g.window = w.id)
      (hw' : w.resize (w.resizeTarget g p).size heap = (.ok w', heap')) :
      Moved p w (.resizing g) (w'.moveTo (w.resizeTarget g p).x (w.resizeTarget g p).y)

namespace Stack

/-- Every window of `s'` is what a window of `s` with its id has become. -/
def Became (R : Window → Window → Prop) (s s' : Stack) : Prop :=
  ∀ id w', s'.find? id = some w' → ∃ w, s.find? id = some w ∧ R w w'

variable {R : Window → Window → Prop} {s s' : Stack} {v w : Window} {id : WindowId}

theorem Became.of_find? (hR : ∀ w, R w w) (h : ∀ id, s'.find? id = s.find? id) : Became R s s' :=
  fun id w hw => ⟨w, h id ▸ hw, hR w⟩

theorem Became.put (hR : ∀ w, R w w) (hv : s.find? w.id = some v) (h : R v w) :
    Became R s (s.put w) := by
  intro id w' hw'
  by_cases hid : id = w.id
  · subst hid
    rw [find?_put_self hv] at hw'
    cases hw'
    exact ⟨v, hv, h⟩
  · rw [find?_put_ne hid] at hw'
    exact ⟨w', hw', hR w'⟩

/-- An event that is no request to draw leaves sound windows as they are. -/
theorem state_notify (hs : s.ids.Nodup) (hok : ∀ w ∈ s.windows, w.Ok) {event : WindowEvent}
    (hdraw : event.kind ≠ .draw) (id : WindowId) : (s.notify id event).state = s := by
  cases hw : s.find? id with
  | none =>
    unfold notify
    rw [hw]
  | some w =>
    rw [notify_eq hw, ((hok w (mem_of_find? hw)).notify hdraw).1]
    refine put_self hs ?_
    rw [id_of_find? hw]
    exact hw

theorem Ok.find?_remove (h : s.Ok) (id : WindowId) : (s.remove id).find? id = none := by
  cases hw : (s.remove id).find? id with
  | none => rfl
  | some w =>
    have hmem : id ∈ (s.remove id).ids := mem_ids.2 ⟨w, hw⟩
    rw [ids_remove] at hmem
    exact absurd hmem h.nodup.not_mem_erase

end Stack

/-- Stacking order, gesture and windows are sound. -/
structure Scene.Sound (s : Scene) : Prop where
  ok : s.Ok
  windows : ∀ w ∈ s.stack.windows, w.Ok

/-! ### Operations -/

theorem Window.edited_of_change? {d : Desktop} {op : Operation} {w w' : Window}
    {change : Window → Except WindowError Window} (hop : op.change? = some (w.id, change))
    (hw' : change w = .ok w') : w.Edited d op w' := by
  cases op with
  | setPosition id x y =>
    cases hop
    cases hw'
    exact .moveTo rfl
  | setMinimum id size =>
    cases hop
    unfold Window.setMinimum at hw'
    split at hw' <;> cases hw'
    exact .setMinimum rfl
  | setTitle id title =>
    cases hop
    cases hw'
    exact .retitle rfl
  | setBackground id color =>
    cases hop
    cases hw'
    exact .recolour rfl
  | reveal id =>
    cases hop
    cases hw'
    exact .reveal rfl
  | setSink id sink =>
    cases hop
    cases hw'
    exact .bind rfl
  | clearSink id kind =>
    cases hop
    cases hw'
    exact .unbind rfl
  | _ => cases hop

namespace Desktop
variable {d : Desktop} {op : Operation} {reply : Reply} {s' : Stack} {es : List Effect}

/-- A window that is open after an operation has been edited by it, or the operation has opened it. -/
theorem Edits.window (h : d.Edits op reply s' es) (hsound : d.toScene.Sound) {id : WindowId}
    {w' : Window} (hw' : s'.find? id = some w') :
    (∃ w, d.stack.find? id = some w ∧ w.Edited d op w') ∨
      d.stack.find? id = none ∧ reply = .created id ∧ ∃ title size flags heap heap',
        Window.create id title size flags d.config d.theme.windowBackground heap =
          (.ok w', heap') := by
  have hd := hsound.ok.stack
  have hok := hsound.windows
  have hsame : ∀ {s'}, (∀ id, s'.find? id = d.stack.find? id) →
      Stack.Became (·.Edited d op) d.stack s' := .of_find? fun _ => .same
  have hput : ∀ {id v w}, d.stack.find? id = some v → w.id = v.id → v.Edited d op w →
      Stack.Became (·.Edited d op) d.stack (d.stack.put w) := by
    intro id v w hv hid hedit
    refine .put (fun _ => .same) ?_ hedit
    rw [hid, Stack.id_of_find? hv]
    exact hv
  cases h with
  | refuse e => exact .inl (hsame (fun _ => rfl) id w' hw')
  | keep _ => exact .inl (hsame (fun _ => rfl) id w' hw')
  | @create title size flags v heap heap' hv _ =>
    have hfind : (d.stack.windows ++ [v]).find? (·.id == id) = some w' := hw'
    rw [List.find?_append, Option.or_eq_some_iff] at hfind
    rcases hfind with hfind | ⟨hnone, hfind⟩
    · exact .inl ⟨w', hfind, .same⟩
    · obtain ⟨hid, rfl⟩ : v.id = id ∧ v = w' := by simpa [List.find?_singleton] using hfind
      rw [Window.id_create hv] at hid
      subst hid
      exact .inr ⟨hnone, rfl, title, size, flags, heap, heap', hv⟩
  | @close id' v hv =>
    rw [Stack.state_notify hd.nodup hok (by simp [WindowEvent.kind])] at hw'
    by_cases hid : id = id'
    · rw [hid, hd.find?_remove] at hw'
      cases hw'
    · rw [Stack.find?_remove_ne hid] at hw'
      exact .inl ⟨w', hw', .same⟩
  | change hop hv hv' =>
    have hid := Stack.id_of_find? hv
    rw [← hid] at hop
    exact .inl (hput hv (Operation.size_of_change? hop hv').1 (Window.edited_of_change? hop hv') id
      w' hw')
  | resize hv _ hv' _ =>
    refine .inl (hput hv (Window.id_resize hv') (.resize ?_ hv') id w' hw')
    rw [Stack.id_of_find? hv]
  | @resizeTell id' size v v' heap hv _ hv' _ =>
    have hok' : ∀ w ∈ (d.stack.put v').windows, w.Ok := by
      intro w hw
      rcases Stack.mem_put hw with rfl | hw
      · exact (hok v (Stack.mem_of_find? hv)).resize hv'
      · exact hok w hw
    rw [Stack.state_notify (hd.put v').nodup hok' (by simp [WindowEvent.kind])] at hw'
    refine .inl (hput hv (Window.id_resize hv') (.resize ?_ hv') id w' hw')
    rw [Stack.id_of_find? hv]
  | @hide id' v hv _ =>
    refine .inl (hput (w := v.setVisible false) hv rfl (.hide ?_) id w' hw')
    rw [Stack.id_of_find? hv]
  | @hideFocused id' v hv _ =>
    refine .inl (hput (w := v.setVisible false) hv rfl (.hide ?_) id w' hw')
    rw [Stack.id_of_find? hv]
  | focus hv => exact .inl (hsame (fun _ => Stack.find?_raise hd.nodup hv) id w' hw')
  | pressKey _ =>
    rw [Stack.state_notify hd.nodup hok (by simp [WindowEvent.kind])] at hw'
    exact .inl ⟨w', hw', .same⟩
  | paint =>
    rw [Stack.paint_state, Stack.find?_map _ fun w => w.id_paint _ _ _ _] at hw'
    obtain ⟨w, hw, rfl⟩ := Option.map_eq_some_iff.1 hw'
    exact .inl ⟨w, hw, .paint rfl _⟩

end Desktop

/-! ### Samples -/

namespace Scene
variable {s : Scene} {t : Traced Scene} {config : Config} {p : Point} {buttons : Buttons}

theorem Acts.became (h : Acts config p s t) (hs : s.stack.Ok) (hok : ∀ w ∈ s.stack.windows, w.Ok) :
    Stack.Became (fun w w' => w.Moved p s.tracker.gesture w') s.stack t.state.stack := by
  have hsame : ∀ {s'}, (∀ id, s'.find? id = s.stack.find? id) →
      Stack.Became (fun w w' => w.Moved p s.tracker.gesture w') s.stack s' :=
    .of_find? fun _ => .same _
  have htold : ∀ {id event}, event.kind ≠ .draw →
      Stack.Became (fun w w' => w.Moved p s.tracker.gesture w') s.stack
        (s.stack.notify id event).state := by
    intro id event hdraw
    rw [Stack.state_notify hs.nodup hok hdraw]
    exact hsame fun _ => rfl
  have hpulled : ∀ {g w w' heap}, s.tracker.gesture = .resizing g →
      s.stack.find? g.window = some w →
      w.resize (w.resizeTarget g p).size s.heap = (.ok w', heap) →
      Stack.Became (fun w w' => w.Moved p s.tracker.gesture w') s.stack
        (s.pulled g w' (w.resizeTarget g p) heap).stack := by
    intro g w w' heap hg hw hw'
    rw [hg]
    have hid := Stack.id_of_find? hw
    refine .put (fun _ => .same _) (v := w) ?_ (.pull hid.symm hw')
    show s.stack.find? w'.id = some w
    rw [Window.id_resize hw', hid]
    exact hw
  cases h with
  | raise _ => exact hsame (find?_raiseAt hs.nodup p)
  | click _ _ _ _ _ => exact htold (by simp [WindowEvent.kind])
  | hover _ _ _ _ => exact htold (by simp [WindowEvent.kind])
  | @drag g w hg hw =>
    rw [hg]
    have hid := Stack.id_of_find? hw
    refine .put (fun _ => .same _) (v := w) ?_ (.drag hid.symm)
    show s.stack.find? w.id = some w
    rw [hid]
    exact hw
  | pull hg _ _ hw hw' _ => exact hpulled hg hw hw'
  | @pullTell g w w' heap hg _ _ hw hw' =>
    have hok' : ∀ v ∈ (s.pulled g w' (w.resizeTarget g p) heap).stack.windows, v.Ok := by
      intro v hv
      rcases Stack.mem_put hv with rfl | hv
      · have hresized := (hok w (Stack.mem_of_find? hw)).resize hw'
        exact ⟨hresized.nonempty, hresized.surface, hresized.sinks⟩
      · exact hok v hv
    have hpull : (s.pulled g w' (w.resizeTarget g p) heap).stack.Ok := hs.put _
    show Stack.Became _ _ (Stack.notify _ _ (.resize _)).state
    rw [Stack.state_notify hpull.nodup hok' (by simp [WindowEvent.kind])]
    exact hpulled hg hw hw'
  | release _ _ he => exact htold (Window.kind_releaseEvent? he)
  | _ => exact hsame fun _ => rfl

namespace Sound

/-- A window that is open after a sample has been moved by it, or left as it was. -/
theorem became_step (h : s.Sound) (config : Config) (p : Point) (buttons : Buttons) :
    Stack.Became (fun w w' => w.Moved p s.tracker.gesture w') s.stack
      (s.step config p buttons).state.stack := by
  have hact : Stack.Became (fun w w' => w.Moved p s.tracker.gesture w') s.stack
      (s.act config p buttons).state.stack :=
    (acts_act (s := s)).became h.ok.stack h.windows
  unfold step
  dsimp only
  split
  · intro id w' hw'
    rw [find?_raiseAt (h.ok.act config p buttons).stack.nodup] at hw'
    exact hact id w' hw'
  · exact hact

theorem step (h : s.Sound) (config : Config) (q : Sample) :
    (s.step config q.position q.buttons).state.Sound :=
  ⟨h.ok.step .., windows_ok_step h.windows config q.position q.buttons⟩

theorem steps (h : s.Sound) (config : Config) (qs : List Sample) :
    (s.steps config qs).state.Sound := by
  induction qs generalizing s with
  | nil => exact h
  | cons q qs ih => exact ih (h.step config q)

theorem apply {d : Desktop} (h : d.toScene.Sound) (op : Operation) :
    (d.apply op).state.toScene.Sound := by
  cases hop : op.isPointer with
  | true =>
    rw [(d.takes_apply hop).scene]
    exact h.steps _ _
  | false =>
    refine ⟨h.ok.apply op hop, fun w' hw' => ?_⟩
    rcases d.written_apply op hop hw' with
      ⟨w, hw, hww'⟩ | ⟨id, title, size, flags, heap, heap', hc⟩
    · exact (h.windows w hw).written hww'
    · exact .create hc

end Sound
end Scene

theorem Desktop.Reachable.sound {d : Desktop} (hd : d.Reachable) : d.toScene.Sound :=
  ⟨hd.ok, hd.window_ok⟩

end PointerDesktop
