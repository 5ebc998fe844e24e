import PointerDesktop.Proofs.GestureInv

/-!
# The life of a gesture

A gesture starts with a press of the left button and ends with its release. In between it is the same
gesture (`Gesture.Continues`), unless a caller takes the gesture's window away or gives the focus to
another one (`Operation.Abandons`); then there is no gesture until the button goes down again. The
invariant behind it is that a gesture under way means that the left button was held at the last
sample (`Desktop.Reachable.held_of_busy`): what abandons a gesture does not forget the button. Main
statement: `Desktop.gesture_edge_triggered`.
-/

namespace PointerDesktop

/-- `g'` is the gesture `g`, perhaps engaged since. -/
inductive Gesture.Continues : (g g' : Gesture) → Prop where
  | dragging {d : Drag} {engaged : Bool} (h : d.engaged = true → engaged = true) :
      Continues (.dragging d) (.dragging { d with engaged := engaged })
  | resizing {d : EdgeDrag} {engaged : Bool} (h : d.engaged = true → engaged = true) :
      Continues (.resizing d) (.resizing { d with engaged := engaged })

/-- The operation takes its target from the gesture `g`. -/
def Operation.Abandons (g : Gesture) : Operation → Prop
  | .create .. => True
  | .close id | .hide id => g.window? = some id
  | .focus id => g.window? ≠ some id
  | _ => False

namespace Gesture.Continues
variable {g g' g'' : Gesture}

theorem refl (h : g.isIdle = false) : g.Continues g := by
  cases g with
  | idle => cases h
  | dragging d => exact .dragging id
  | resizing d => exact .resizing id

theorem trans (h : g.Continues g') (h' : g'.Continues g'') : g.Continues g'' := by
  cases h with
  | dragging h =>
    cases h' with
    | dragging h' => exact .dragging fun he => h' (h he)
  | resizing h =>
    cases h' with
    | resizing h' => exact .resizing fun he => h' (h he)

theorem isIdle (h : g.Continues g') : g'.isIdle = false := by
  cases h <;> rfl

end Gesture.Continues

/-! ### Samples -/

namespace Scene
variable {s : Scene} {config : Config} {p : Point} {buttons : Buttons}

/-- With the left button down a sample goes on with the gesture: the gesture's window is open. -/
theorem Ok.continues (h : s.Ok) (hbusy : s.tracker.gesture.isIdle = false)
    (hheld : buttons.contains .left = true) :
    s.tracker.gesture.Continues (s.step config p buttons).state.tracker.gesture := by
  have hanchored := h.gesture
  rw [tracker_step]
  cases hg : s.tracker.gesture with
  | idle =>
    rw [hg] at hbusy
    cases hbusy
  | dragging d =>
    rw [hg] at hanchored
    obtain ⟨-, w, hw, -⟩ := hanchored
    have hw : (s.note p buttons).stack.find? d.window = some w := hw
    rw [act_dragging hg hheld]
    unfold dragTo
    split
    · dsimp only [setGesture]
      rw [hw]
      exact .dragging fun _ => rfl
    · rw [show (s.note p buttons).tracker.gesture = .dragging d from hg]
      exact .dragging id
  | resizing d =>
    rw [hg] at hanchored
    obtain ⟨⟨-, w, hw, -⟩, -⟩ := hanchored
    have hw : (s.note p buttons).stack.find? d.window = some w := hw
    rw [act_resizing hg hheld]
    unfold resizeTo
    split
    · dsimp only [setGesture]
      rw [hw]
      dsimp only
      split
      · exact .resizing fun _ => rfl
      · split <;> exact .resizing fun _ => rfl
    · rw [show (s.note p buttons).tracker.gesture = .resizing d from hg]
      exact .resizing id

theorem Ok.idle_step_iff (h : s.Ok) (hbusy : s.tracker.gesture.isIdle = false) :
    (s.step config p buttons).state.tracker.gesture = .idle ↔ buttons.contains .left = false := by
  refine ⟨fun hidle => ?_, gesture_step_of_up⟩
  cases hheld : buttons.contains .left with
  | false => rfl
  | true =>
    have hgoes : (s.step config p buttons).state.tracker.gesture.isIdle = false :=
      (h.continues hbusy hheld).isIdle
    rw [hidle] at hgoes
    cases hgoes

end Scene

/-! ### Operations -/

namespace Desktop
variable {d d' : Desktop} {q : Sample}

theorem tracker_update (d : Desktop) (id : WindowId)
    (change : Window → Except WindowError Window) :
    (d.update id change).state.tracker = d.tracker := by
  unfold update
  split
  · rfl
  split <;> rfl

theorem tracker_setSize (d : Desktop) (id : WindowId) (size : Size) :
    (d.setSize id size).state.tracker = d.tracker := by
  unfold setSize
  split
  · rfl
  split
  · rfl
  split
  · rfl
  dsimp only
  split <;> rfl

theorem tracker_setTitle (d : Desktop) (id : WindowId) (title : String) :
    (d.setTitle id title).state.tracker = d.tracker := by
  unfold setTitle
  split
  · rfl
  split <;> rfl

theorem tracker_forget (t : Tracker) (id : WindowId) :
    (t.forget id).state = t ∨ t.gesture.window? = some id ∧ (t.forget id).state = t.cancel := by
  unfold Tracker.forget
  split
  · next h => exact .inr ⟨h, rfl⟩
  · exact .inl rfl

/-- An operation that is no pointer input leaves the pointer's memory as it is, or abandons the
gesture in it. -/
theorem tracker_apply (d : Desktop) {op : Operation} (hop : op.isPointer = false) :
    (d.apply op).state.tracker = d.tracker ∨
      op.Abandons d.tracker.gesture ∧ (d.apply op).state.tracker = d.tracker.cancel := by
  cases op with
  | create title size flags =>
    show (d.create title size flags).state.tracker = _ ∨ _
    simp only [apply, create]
    split
    · exact .inr ⟨trivial, rfl⟩
    · exact .inl rfl
  | close id =>
    show (d.close id).state.tracker = _ ∨ _ ∧ (d.close id).state.tracker = _
    unfold close
    split
    · exact .inl rfl
    · exact tracker_forget d.tracker id
  | hide id =>
    show (d.hide id).state.tracker = _ ∨ _ ∧ (d.hide id).state.tracker = _
    unfold hide
    split
    · exact .inl rfl
    · exact tracker_forget d.tracker id
  | focus id =>
    show (d.focus id).state.tracker = _ ∨ _ ∧ (d.focus id).state.tracker = _
    unfold focus
    split
    · exact .inl rfl
    dsimp only
    split
    · exact .inl rfl
    · next h => exact .inr ⟨h, rfl⟩
  | setSize id size => exact .inl (d.tracker_setSize id size)
  | setTitle id title => exact .inl (d.tracker_setTitle id title)
  | feed byte => cases hop
  | drain source => cases hop
  | pointTo p buttons => cases hop
  | setObserver observer => exact .inl rfl
  | paint => exact .inl rfl
  | pressKey key =>
    simp only [apply, silent, pressKey]
    split <;> exact .inl rfl
  | setScreen screen =>
    simp only [apply, silent, setScreen]
    split <;> exact .inl rfl
  | _ => exact .inl (d.tracker_update _ _)

/-- There is no gesture, and the left button is held: none starts before it has been released. -/
def Blocked (d : Desktop) : Prop :=
  d.tracker.gesture = .idle ∧ d.tracker.buttons.contains .left = true

namespace Blocked

theorem apply (h : d.Blocked) {op : Operation} (hop : op.isPointer = false) :
    (d.apply op).state.Blocked := by
  unfold Blocked
  rcases d.tracker_apply hop with ht | ⟨-, ht⟩
  · rw [ht]
    exact h
  · rw [ht]
    exact ⟨rfl, h.2⟩

theorem takeSample (h : d.Blocked) (hheld : q.buttons.contains .left = true) :
    (d.takeSample q).state.Blocked := by
  refine ⟨?_, ?_⟩
  · show (d.toScene.step d.config q.position q.buttons).state.tracker.gesture = .idle
    rw [Scene.tracker_step]
    exact Scene.act_unpressed h.1 (.inr h.2)
  · show (d.toScene.step d.config q.position q.buttons).state.tracker.buttons.contains .left = true
    rw [Scene.buttons_step]
    exact hheld

end Blocked

/-- The gesture `g` is still under way, or has been abandoned since the last release. -/
def Goes (g : Gesture) (d : Desktop) : Prop :=
  d.toScene.Ok ∧ (d.Blocked ∨ g.Continues d.tracker.gesture ∧ d.tracker.buttons.contains .left = true)

namespace Goes
variable {g : Gesture}

theorem apply (h : d.Goes g) {op : Operation} (hop : op.isPointer = false) :
    (d.apply op).state.Goes g := by
  refine ⟨h.1.apply op hop, ?_⟩
  rcases h.2 with hb | ⟨hg, hl⟩
  · exact .inl (hb.apply hop)
  · rcases d.tracker_apply hop with ht | ⟨-, ht⟩
    · rw [ht]
      exact .inr ⟨hg, hl⟩
    · refine .inl ⟨?_, ?_⟩ <;> rw [ht]
      · rfl
      · exact hl

theorem takeSample (h : d.Goes g) (hheld : q.buttons.contains .left = true) :
    (d.takeSample q).state.Goes g := by
  refine ⟨h.1.takeSample q, ?_⟩
  rcases h.2 with hb | ⟨hg, -⟩
  · exact .inl (hb.takeSample hheld)
  · refine .inr ⟨hg.trans (h.1.continues hg.isIdle hheld), ?_⟩
    show (d.toScene.step d.config q.position q.buttons).state.tracker.buttons.contains .left = true
    rw [Scene.buttons_step]
    exact hheld

end Goes

theorem Goes.continues {g : Gesture} (h : d.Goes g) (hbusy : d.tracker.gesture.isIdle = false) :
    g.Continues d.tracker.gesture := by
  rcases h.2 with ⟨hidle, -⟩ | ⟨hg, -⟩
  · rw [hidle] at hbusy
    cases hbusy
  · exact hg

theorem held_of_takeSample (h : (d.takeSample q).state.tracker.gesture.isIdle = false) :
    q.buttons.contains .left = true := by
  cases hheld : q.buttons.contains .left with
  | true => rfl
  | false =>
    rw [show (d.takeSample q).state.tracker.gesture = .idle from
      Scene.gesture_step_of_up hheld] at h
    cases h

/-- While a gesture is under way the left button is held. -/
theorem Reachable.held_of_busy (hd : d.Reachable) (hbusy : d.tracker.gesture.isIdle = false) :
    d.tracker.buttons.contains .left = true := by
  refine hd.ind (P := fun d => d.tracker.gesture.isIdle = false →
    d.tracker.buttons.contains .left = true) ?_ (fun _ _ h => h) ?_ ?_ hbusy
  · intro config theme display heap h
    cases h
  · intro d op hop h
    rcases d.tracker_apply hop with ht | ⟨-, ht⟩
    · rw [ht]
      exact h
    · rw [ht]
      intro hbusy
      cases hbusy
  · intro d q _ hbusy
    show (d.toScene.step d.config q.position q.buttons).state.tracker.buttons.contains .left = true
    rw [Scene.buttons_step]
    exact held_of_takeSample hbusy

namespace Leads
variable {ms : List (Desktop × Sample)} {g : Gesture}

theorem ok (h : d.Leads ms d') (hd : d.toScene.Ok) : d'.toScene.Ok :=
  (h.keeps (P := fun d => d.toScene.Ok) (fun _ _ h => h) (fun _ op hop h => h.apply op hop) hd
    fun m _ h => h.takeSample m.2).1

theorem blocked (h : d.Leads ms d') (hd : d.Blocked)
    (hheld : ∀ m ∈ ms, m.2.buttons.contains .left = true) : d'.Blocked :=
  (h.keeps (fun _ _ h => h) (fun _ _ hop h => h.apply hop) hd
    fun m hm h => h.takeSample (hheld m hm)).1

theorem goes (h : d.Leads ms d') (hd : d.Goes g)
    (hheld : ∀ m ∈ ms, m.2.buttons.contains .left = true) : d'.Goes g ∧ ∀ m ∈ ms, m.1.Goes g :=
  h.keeps (fun _ _ h => h) (fun _ _ hop h => h.apply hop) hd
    fun m hm h => h.takeSample (hheld m hm)

/-- The pointer's memory holds the buttons of the last sample. -/
theorem buttons (h : d.Leads ms d') :
    d'.tracker.buttons = (ms.getLast?.map (·.2.buttons)).getD d.tracker.buttons := by
  induction h with
  | refl => rfl
  | mouse _ _ ih => exact ih
  | @call _ d' _ op hop ih =>
    rcases d'.tracker_apply hop with ht | ⟨-, ht⟩ <;> rw [ht]
    · exact ih
    · exact ih
  | sample _ q _ =>
    rw [List.getLast?_concat]
    exact Scene.buttons_step ..

end Leads

/-- Gestures in a run from a desktop without windows, whatever callers do. A gesture starts with a
sample that has the left button down after one that had not. A sample that finds a gesture goes on
with it if the left button is down and ends it if the button is up; no other operation starts or
changes a gesture, and four of them can abandon it. As long as a gesture lasts, all samples have the
left button down, and the gesture stays the same but for becoming engaged. After it has been abandoned
there is no gesture until a sample has had the button up. -/
theorem gesture_edge_triggered (config : Config) (theme : Theme) (display : Display) (heap : Heap)
    (past : List Operation) :
    let fresh := (start config theme display heap).state
    let d := (fresh.run past).state
    (∀ before m after, fresh.samplings past = before ++ m :: after →
      let found := m.1.tracker.gesture
      let left := (m.1.takeSample m.2).state.tracker.gesture
      (found = .idle → left.isIdle = false →
        m.2.buttons.contains .left = true ∧
          ∀ m' ∈ before.getLast?, m'.2.buttons.contains .left = false) ∧
      (found.isIdle = false →
        (left = .idle ↔ m.2.buttons.contains .left = false) ∧
          (m.2.buttons.contains .left = true → found.Continues left))) ∧
    (∀ op : Operation, op.isPointer = false →
      let left := (d.apply op).state.tracker.gesture
      left = d.tracker.gesture ∨ op.Abandons d.tracker.gesture ∧ left = .idle) ∧
    (d.tracker.gesture.isIdle = false →
      (∃ m ∈ (fresh.samplings past).getLast?, m.2.buttons.contains .left = true) ∧
      (∀ future,
        (∀ m ∈ d.samplings future,
          (m.1.takeSample m.2).state.tracker.gesture.isIdle = false) →
        (∀ m ∈ d.samplings future, m.2.buttons.contains .left = true ∧
          d.tracker.gesture.Continues (m.1.takeSample m.2).state.tracker.gesture) ∧
        ((d.run future).state.tracker.gesture = .idle ∨
          d.tracker.gesture.Continues (d.run future).state.tracker.gesture)) ∧
      ∀ op : Operation, op.isPointer = false → (d.apply op).state.tracker.gesture = .idle →
        ∀ future before m after, (d.apply op).state.samplings future = before ++ m :: after →
          (∀ m' ∈ before ++ [m], m'.2.buttons.contains .left = true) →
          (m.1.takeSample m.2).state.tracker.gesture = .idle) := by
  intro fresh d
  have hd : d.Reachable := (Reachable.start config theme display heap).run past
  have hleads : fresh.Leads (fresh.samplings past) d := fresh.leads_run past
  refine ⟨fun before m after hms => ?_, fun op hop => ?_, fun hbusy => ⟨?_, fun future hlasts => ?_,
    fun op hop habandoned future before m after hms hheld => ?_⟩⟩
  · -- one sample
    intro found left
    rw [hms] at hleads
    have hbefore := hleads.before
    have hok := hbefore.ok ⟨Stack.Ok.empty, trivial⟩
    refine ⟨fun hidle hstart => ?_, fun hfound => ⟨hok.idle_step_iff hfound, hok.continues hfound⟩⟩
    obtain ⟨hheld, hprev, -⟩ := Scene.step_of_start hidle hstart
    refine ⟨hheld, fun m' hm' => ?_⟩
    rw [hbefore.buttons, Option.mem_def.1 hm'] at hprev
    exact hprev
  · -- one operation that is no pointer input
    rcases d.tracker_apply hop with ht | ⟨habandons, ht⟩
    · exact .inl (congrArg Tracker.gesture ht)
    · exact .inr ⟨habandons, congrArg Tracker.gesture ht⟩
  · have hheld := hd.held_of_busy hbusy
    rw [hleads.buttons] at hheld
    cases hlast : (fresh.samplings past).getLast? with
    | none =>
      rw [hlast] at hheld
      have hnone : Buttons.none.contains .left = true := hheld
      exact absurd hnone (by decide)
    | some m =>
      rw [hlast] at hheld
      exact ⟨m, rfl, hheld⟩
  · -- a gesture that lasts
    have hheld : ∀ m ∈ d.samplings future, m.2.buttons.contains .left = true :=
      fun m hm => held_of_takeSample (hlasts m hm)
    have hgoes : d.Goes d.tracker.gesture := ⟨hd.ok, .inr ⟨.refl hbusy, hd.held_of_busy hbusy⟩⟩
    obtain ⟨hlast, hms⟩ := (d.leads_run future).goes hgoes hheld
    refine ⟨fun m hm => ⟨hheld m hm, ?_⟩, ?_⟩
    · exact ((hms m hm).takeSample (hheld m hm)).continues (hlasts m hm)
    · rcases hlast.2 with ⟨hidle, -⟩ | ⟨hg, -⟩
      · exact .inl hidle
      · exact .inr hg
  · -- a gesture that has been abandoned
    have hblocked : (d.apply op).state.Blocked := by
      refine ⟨habandoned, ?_⟩
      rcases d.tracker_apply hop with ht | ⟨-, ht⟩ <;> rw [ht]
      · exact hd.held_of_busy hbusy
      · exact hd.held_of_busy hbusy
    have hfuture := (d.apply op).state.leads_run future
    rw [hms] at hfuture
    have hm : m.1.Blocked :=
      hfuture.before.blocked hblocked fun m' hm' => hheld m' (List.mem_append_left _ hm')
    exact (hm.takeSample (hheld m (List.mem_append_right _ (List.mem_singleton.2 rfl)))).1

end Desktop
end PointerDesktop
