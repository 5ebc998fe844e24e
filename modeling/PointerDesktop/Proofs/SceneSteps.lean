import PointerDesktop.Scene

/-!
# A sample by the gesture that it finds

`Scene.Acts` has one case for each thing that a sample can do before the focus follows
(`Scene.acts_act`); what samples keep is shown by going through these cases. The equations `act_…`
say what a sample does when the gesture and the left button are known.
-/

namespace PointerDesktop

theorem Buttons.contains_left (b : Buttons) : b.contains .left = b.bits.toBitVec.getLsbD 0 := by
  unfold contains left
  rw [Bool.eq_iff_iff, beq_iff_eq, ← UInt8.toBitVec_inj, UInt8.toBitVec_and]
  show b.bits.toBitVec &&& 1#8 = 1#8 ↔ _
  rw [BitVec.and_one_eq_setWidth_ofBool_getLsbD]
  cases b.bits.toBitVec.getLsbD 0 <;> decide

/-- The left button goes down if it is held and was not. -/
theorem Buttons.contains_left_pressedSince (now previous : Buttons) :
    (now.pressedSince previous).contains .left =
      (now.contains .left && !previous.contains .left) := by
  rw [contains_left, contains_left, contains_left]
  unfold pressedSince inter compl all
  simp

theorem Gesture.isIdle_iff {g : Gesture} : g.isIdle = true ↔ g = .idle := by
  cases g <;> simp [isIdle]

namespace Scene

/-- The pointer's memory takes note of a sample. -/
def note (s : Scene) (p : Point) (buttons : Buttons) : Scene :=
  { s with tracker := { s.tracker with buttons := buttons, position := some p } }

/-- Takes samples from the first to the last. -/
def steps (s : Scene) (config : Config) : List Sample → Traced Scene
  | [] => { state := s }
  | q :: qs =>
    let first := s.step config q.position q.buttons
    let rest := first.state.steps config qs
    { state := rest.state, effects := first.effects ++ rest.effects }

theorem steps_append (s : Scene) (config : Config) (qs rs : List Sample) :
    s.steps config (qs ++ rs) =
      { state := ((s.steps config qs).state.steps config rs).state
        effects := (s.steps config qs).effects ++
          ((s.steps config qs).state.steps config rs).effects } := by
  induction qs generalizing s with
  | nil => rfl
  | cons q qs ih =>
    simp only [List.cons_append, steps]
    rw [ih, List.append_assoc]

/-- A gesture has engaged, or engages at one of the samples. -/
def engagedAfter (config : Config) (engaged : Bool) (origin : Point) (qs : List Sample) : Bool :=
  engaged || qs.any fun q => config.clickThreshold.toNat ≤ q.position.distance origin

theorem engagedAfter_nil (config : Config) (engaged : Bool) (origin : Point) :
    engagedAfter config engaged origin [] = engaged :=
  Bool.or_false _

theorem engagedAfter_cons (config : Config) (engaged : Bool) (origin : Point) (q : Sample)
    (qs : List Sample) :
    engagedAfter config engaged origin (q :: qs) =
      engagedAfter config (engages config engaged origin q.position) origin qs := by
  unfold engagedAfter engages
  rw [List.any_cons, Bool.or_assoc]

@[simp] theorem tracker_raiseAt (s : Scene) (p : Point) : (s.raiseAt p).tracker = s.tracker := by
  unfold raiseAt
  split
  · rfl
  split <;> rfl

/-- The scene with the window of an edge drag at the place that the drag asks for, and with the heap as
the drag leaves it. -/
def pulled (s : Scene) (d : EdgeDrag) (w : Window) (target : Rect) (heap : Heap) : Scene :=
  { s.setGesture (.resizing { d with engaged := true }) with
    stack := s.stack.put (w.moveTo target.x target.y)
    heap := heap }

/-- What a sample at `p` can do to a scene that has taken note of it, before the focus follows. -/
inductive Acts (config : Config) (p : Point) (s : Scene) : Traced Scene → Prop where
  /-- There is nothing to do, or the gesture has not engaged. -/
  | rest : Acts config p s { state := s }
  | grab {w : Window} {g : Gesture} (hidle : s.tracker.gesture = .idle)
      (hw : s.stack.focusedWindow? = some w) (hg : w.grab? config p = some g) :
      Acts config p s { state := s.setGesture g }
  | raise (hidle : s.tracker.gesture = .idle) : Acts config p s { state := s.raiseAt p }
  /-- The press belongs to the content of the focused window. -/
  | click {w : Window} (buttons : Buttons) (hidle : s.tracker.gesture = .idle)
      (hw : s.stack.focusedWindow? = some w) (hhit : s.stack.topmostAt? p = some w.id)
      (hgrab : w.grab? config p = none) :
      Acts config p s (s.notify w.id (.mouseButton (w.toLocal p) buttons))
  | hover {w : Window} (buttons : Buttons) (hidle : s.tracker.gesture = .idle)
      (hup : s.tracker.buttons.contains .left = false) (hw : s.stack.focusedWindow? = some w) :
      Acts config p s (s.notify w.id (.mouseMove (w.toLocal p) buttons))
  | drag {d : Drag} {w : Window} (hg : s.tracker.gesture = .dragging d)
      (hw : s.stack.find? d.window = some w) :
      Acts config p s
        { state := { s.setGesture (.dragging { d with engaged := true }) with
            stack := s.stack.put (w.dragged d p) } }
  /-- The size that an edge drag asks for cannot be had. -/
  | refuse {d : EdgeDrag} (notice : Notice) (heap : Heap) (hg : s.tracker.gesture = .resizing d) :
      Acts config p s
        { state := { s.setGesture (.resizing { d with engaged := true }) with heap := heap }
          effects := [.log notice] }
  | pull {d : EdgeDrag} {w w' : Window} {heap : Heap} (hg : s.tracker.gesture = .resizing d)
      (hheld : s.tracker.buttons.contains .left = true)
      (he : engages config d.engaged d.origin p = true) (hw : s.stack.find? d.window = some w)
      (hw' : w.resize (w.resizeTarget d p).size s.heap = (.ok w', heap))
      (hsame : (w.resizeTarget d p).size = w.size) :
      Acts config p s { state := s.pulled d w' (w.resizeTarget d p) heap }
  | pullTell {d : EdgeDrag} {w w' : Window} {heap : Heap} (hg : s.tracker.gesture = .resizing d)
      (hheld : s.tracker.buttons.contains .left = true)
      (he : engages config d.engaged d.origin p = true) (hw : s.stack.find? d.window = some w)
      (hw' : w.resize (w.resizeTarget d p).size s.heap = (.ok w', heap)) :
      Acts config p s
        ((s.pulled d w' (w.resizeTarget d p) heap).notify d.window
          (.resize (w.resizeTarget d p).size))
  /-- The gesture ends, and there is nobody to tell. -/
  | drop : Acts config p s { state := s.setGesture .idle }
  | release {w : Window} {event : WindowEvent} (hup : s.tracker.buttons.contains .left = false)
      (hw : s.tracker.gesture.window?.bind s.stack.find? = some w)
      (he : w.releaseEvent? p s.tracker.gesture = some event) :
      Acts config p s ((s.setGesture .idle).notify w.id event)

variable {s : Scene} {config : Config} {p : Point} {buttons : Buttons}

theorem acts_press (hg : s.tracker.gesture = .idle) :
    Acts config p s (s.press config p buttons) := by
  unfold press
  split
  · next g hgrab =>
    obtain ⟨w, hw, hgrab⟩ := Option.bind_eq_some_iff.1 hgrab
    exact .grab hg hw hgrab
  next hgrab =>
  split
  · exact .raise hg
  · next w hw =>
    rw [hw, Option.bind_some] at hgrab
    split
    · next hhit => exact .click buttons hg hw hhit hgrab
    · exact .raise hg

theorem acts_hover (hg : s.tracker.gesture = .idle)
    (hup : s.tracker.buttons.contains .left = false) : Acts config p s (s.hover p buttons) := by
  unfold hover
  split
  · exact .rest
  · next w hw => exact .hover buttons hg hup hw

theorem acts_dragTo {d : Drag} (hg : s.tracker.gesture = .dragging d) :
    Acts config p s (s.dragTo config d p) := by
  unfold dragTo
  split
  · dsimp only
    split
    · exact .drop
    · next w hw => exact .drag hg hw
  · exact .rest

theorem acts_resizeTo {d : EdgeDrag} (hg : s.tracker.gesture = .resizing d)
    (hheld : s.tracker.buttons.contains .left = true) :
    Acts config p s (s.resizeTo config d p) := by
  unfold resizeTo
  split
  · next he =>
    dsimp only
    split
    · exact .drop
    · next w hw =>
      split
      · exact .refuse _ _ hg
      · next w' heap hw' =>
        split
        · next hsame => exact .pull hg hheld he hw hw' hsame
        · exact .pullTell hg hheld he hw hw'
  · exact .rest

theorem acts_release (hup : s.tracker.buttons.contains .left = false) :
    Acts config p s (s.release p) := by
  unfold release
  dsimp only
  split
  · exact .drop
  · next w hw =>
    split
    · exact .drop
    · next event he => exact .release hup hw he

theorem acts_act : Acts config p (s.note p buttons) (s.act config p buttons) := by
  unfold act
  dsimp only
  split
  · next hg =>
    have hg : (s.note p buttons).tracker.gesture = .idle := hg
    split
    · exact acts_press hg
    split
    · next h =>
      rw [Bool.and_eq_true, Bool.not_eq_true'] at h
      exact acts_hover hg h.1
    · exact .rest
  · next d hg =>
    have hg : (s.note p buttons).tracker.gesture = .dragging d := hg
    split
    · exact acts_dragTo hg
    · next hheld => exact acts_release (Bool.not_eq_true _ ▸ hheld)
  · next d hg =>
    have hg : (s.note p buttons).tracker.gesture = .resizing d := hg
    split
    · next hheld => exact acts_resizeTo hg hheld
    · next hheld => exact acts_release (Bool.not_eq_true _ ▸ hheld)

theorem act_press (hg : s.tracker.gesture = .idle) (hleft : buttons.contains .left = true)
    (hprev : s.tracker.buttons.contains .left = false) :
    s.act config p buttons = (s.note p buttons).press config p buttons := by
  unfold act note
  dsimp only
  rw [hg, Buttons.contains_left_pressedSince, hleft, hprev]
  rfl

theorem act_dragging {d : Drag} (hg : s.tracker.gesture = .dragging d)
    (hheld : buttons.contains .left = true) :
    s.act config p buttons = (s.note p buttons).dragTo config d p := by
  unfold act note
  dsimp only
  rw [hg, hheld]
  rfl

theorem act_resizing {d : EdgeDrag} (hg : s.tracker.gesture = .resizing d)
    (hheld : buttons.contains .left = true) :
    s.act config p buttons = (s.note p buttons).resizeTo config d p := by
  unfold act note
  dsimp only
  rw [hg, hheld]
  rfl

theorem act_release (hg : s.tracker.gesture.isIdle = false)
    (hheld : buttons.contains .left = false) :
    s.act config p buttons = (s.note p buttons).release p := by
  unfold act note
  dsimp only
  cases h : s.tracker.gesture with
  | idle =>
    rw [h] at hg
    cases hg
  | dragging d =>
    rw [hheld]
    rfl
  | resizing d =>
    rw [hheld]
    rfl

/-! ### Whole samples -/

@[simp] theorem tracker_notify (s : Scene) (id : WindowId) (event : WindowEvent) :
    (s.notify id event).state.tracker = s.tracker := rfl

/-- The focus follows after the gesture has been seen to. -/
theorem tracker_step (s : Scene) (config : Config) (p : Point) (buttons : Buttons) :
    (s.step config p buttons).state.tracker = (s.act config p buttons).state.tracker := by
  unfold step
  dsimp only
  split
  · exact tracker_raiseAt _ _
  · rfl

theorem Acts.keeps_buttons {t : Traced Scene} (h : Acts config p s t) :
    t.state.tracker.buttons = s.tracker.buttons := by
  cases h with
  | raise _ => rw [tracker_raiseAt]
  | _ => rfl

/-- The left button counts as held from one sample to the next. -/
theorem buttons_step (s : Scene) (config : Config) (p : Point) (buttons : Buttons) :
    (s.step config p buttons).state.tracker.buttons = buttons := by
  rw [tracker_step]
  exact (acts_act (s := s)).keeps_buttons

/-- With a gesture under way the focus does not follow. -/
theorem step_of_busy (h : (s.act config p buttons).state.tracker.gesture.isIdle = false) :
    s.step config p buttons = s.act config p buttons := by
  unfold step
  dsimp only
  rw [h]
  rfl

theorem step_of_idle (h : (s.act config p buttons).state.tracker.gesture = .idle) :
    s.step config p buttons =
      { state := (s.act config p buttons).state.raiseAt p
        effects := (s.act config p buttons).effects } := by
  unfold step
  dsimp only
  rw [h]
  rfl

/-- Without a press a sample that finds no gesture is a motion or nothing. -/
theorem act_unpressed_cases (hidle : s.tracker.gesture = .idle)
    (h : buttons.contains .left = false ∨ s.tracker.buttons.contains .left = true) :
    s.act config p buttons = { state := s.note p buttons } ∨
      buttons.contains .left = false ∧
        s.act config p buttons = (s.note p buttons).hover p buttons := by
  have hpressed : (buttons.pressedSince s.tracker.buttons).contains .left = false := by
    rw [Buttons.contains_left_pressedSince]
    rcases h with h | h <;> simp [h]
  unfold act note
  dsimp only
  rw [hidle, hpressed]
  dsimp only
  rw [if_neg Bool.false_ne_true]
  split
  · next hup => exact .inr ⟨by simpa using (Bool.and_eq_true_iff.1 hup).1, rfl⟩
  · exact .inl rfl

/-- Without a press there is no gesture after a sample that finds none. -/
theorem act_unpressed (hidle : s.tracker.gesture = .idle)
    (h : buttons.contains .left = false ∨ s.tracker.buttons.contains .left = true) :
    (s.act config p buttons).state.tracker.gesture = .idle := by
  have hcases : s.act config p buttons = { state := s.note p buttons } ∨
      buttons.contains .left = false ∧
        s.act config p buttons = (s.note p buttons).hover p buttons := act_unpressed_cases hidle h
  rcases hcases with hact | ⟨-, hact⟩ <;> rw [hact]
  · exact hidle
  · unfold hover
    split <;> exact hidle

/-- With the left button up a sample leaves no gesture. -/
theorem gesture_step_of_up (hup : buttons.contains .left = false) :
    (s.step config p buttons).state.tracker.gesture = .idle := by
  rw [tracker_step]
  cases hg : s.tracker.gesture.isIdle with
  | true =>
    exact act_unpressed (Gesture.isIdle_iff.1 hg) (.inl hup)
  | false =>
    rw [act_release hg hup]
    unfold release
    dsimp only
    split
    · rfl
    split <;> rfl

/-- A gesture starts with a press of the left button that grabs the focused window. -/
theorem step_of_start (hidle : s.tracker.gesture = .idle)
    (hbusy : (s.step config p buttons).state.tracker.gesture.isIdle = false) :
    buttons.contains .left = true ∧ s.tracker.buttons.contains .left = false ∧
      ∃ w g, s.stack.focusedWindow? = some w ∧ w.grab? config p = some g ∧
        s.step config p buttons = { state := (s.note p buttons).setGesture g } := by
  rw [tracker_step] at hbusy
  have hpress : buttons.contains .left = true ∧ s.tracker.buttons.contains .left = false := by
    cases hnow : buttons.contains .left with
    | false =>
      rw [act_unpressed hidle (.inl hnow)] at hbusy
      cases hbusy
    | true =>
      cases hprev : s.tracker.buttons.contains .left with
      | false => exact ⟨rfl, rfl⟩
      | true =>
        rw [act_unpressed hidle (.inr hprev)] at hbusy
        cases hbusy
  refine ⟨hpress.1, hpress.2, ?_⟩
  rw [step_of_busy hbusy]
  rw [act_press hidle hpress.1 hpress.2] at hbusy ⊢
  have hidle : (s.note p buttons).tracker.gesture = .idle := hidle
  unfold press at hbusy ⊢
  cases hgrab : (s.note p buttons).stack.focusedWindow?.bind (·.grab? config p) with
  | some g =>
    obtain ⟨w, hw, hg⟩ := Option.bind_eq_some_iff.1 hgrab
    exact ⟨w, g, hw, hg, rfl⟩
  | none =>
    -- a press beside title bar and edges leaves the pointer's memory alone
    rw [hgrab] at hbusy
    dsimp only at hbusy
    split at hbusy
    · rw [tracker_raiseAt, hidle] at hbusy
      cases hbusy
    · split at hbusy
      · rw [tracker_notify, hidle] at hbusy
        cases hbusy
      · rw [tracker_raiseAt, hidle] at hbusy
        cases hbusy

end Scene
end PointerDesktop
