import Mathlib.Data.List.Chain
import PointerDesktop.Proofs.ClickOrDrag
import PointerDesktop.Proofs.Deliveries
import PointerDesktop.Proofs.FocusFollow
import PointerDesktop.Proofs.GestureLife

/-!
# Where the events of the pointer go

A sample hands out one event at most, and that to the window that had the focus before it
(`Scene.Ok.routes_step`); `Scene.Emits` lists what it can be. A press spends the click
at once or leaves a gesture that may still become one (`Gesture.mayClick`), and no other sample and no
operation brings a new click up (`Scene.Ok.clicks_step`, `Desktop.Leads.spent`). So there is one click
at most from a press to the next. Main statement: `Desktop.events_routed`.
-/

namespace PointerDesktop

/-- The gesture has not engaged: released now, it is a click. -/
def Gesture.mayClick : Gesture → Bool
  | .idle => false
  | .dragging d => !d.engaged
  | .resizing d => !d.engaged

namespace Gesture
variable {g g' : Gesture}

theorem Continues.mayClick (h : g.Continues g') (hclick : g'.mayClick = true) :
    g.mayClick = true := by
  cases h <;> simp_all [Gesture.mayClick]

theorem mayClick_of_isIdle (h : g.isIdle = true) : g.mayClick = false := by
  rw [isIdle_iff.1 h]
  rfl

end Gesture

/-- A sample at `p` has the event for the window `w`, which has the focus in the scene `s`. -/
inductive Scene.Emits (config : Config) (p : Point) (buttons : Buttons) (s : Scene) (w : Window) :
    WindowEvent → Prop where
  /-- The left button goes down on the window's content. -/
  | press (hidle : s.tracker.gesture = .idle) (hleft : buttons.contains .left = true)
      (hprev : s.tracker.buttons.contains .left = false)
      (hhit : s.stack.topmostAt? p = some w.id) (hgrab : w.grab? config p = none) :
      Emits config p buttons s w (.mouseButton (w.toLocal p) buttons)
  | hover (hidle : s.tracker.gesture = .idle) (hup : buttons.contains .left = false) :
      Emits config p buttons s w (.mouseMove (w.toLocal p) buttons)
  /-- The window is resized by its edges. -/
  | resize {d : EdgeDrag} (hg : s.tracker.gesture = .resizing d) (hw : d.window = w.id)
      (hheld : buttons.contains .left = true) :
      Emits config p buttons s w (.resize (w.resizeTarget d p).size)
  /-- A gesture that has not engaged ends. -/
  | click (hw : s.tracker.gesture.window? = some w.id) (hup : buttons.contains .left = false)
      (hclick : s.tracker.gesture.mayClick = true) :
      Emits config p buttons s w (.mouseButton (w.toLocal p) .left)
  /-- A drag of edges ends. -/
  | resized {d : EdgeDrag} (hg : s.tracker.gesture = .resizing d) (hw : d.window = w.id)
      (hup : buttons.contains .left = false) (he : d.engaged = true) :
      Emits config p buttons s w (.resize w.size)

/-- No client is handed anything, or one is: the window with the focus, by its sink for the event. -/
def Scene.Routes (config : Config) (p : Point) (buttons : Buttons) (s : Scene)
    (es : List Effect) : Prop :=
  deliveries es = [] ∨ ∃ w sink event size, s.stack.focusedWindow? = some w ∧
    w.sinks.get? event.kind = some sink ∧ s.Emits config p buttons w event ∧
    deliveries es = [.deliver sink w.id event size]

namespace Scene
variable {s : Scene} {config : Config} {p : Point} {buttons : Buttons} {es : List Effect}

/-- An event goes to a window that is the focused one but for its place and its pixels. -/
theorem Routes.notify {w v : Window} {event : WindowEvent} {t : Stack}
    (hw : s.stack.focusedWindow? = some w) (hv : t.find? w.id = some v) (hsinks : v.sinks = w.sinks)
    (he : s.Emits config p buttons w event) :
    s.Routes config p buttons (t.notify w.id event).effects := by
  rw [Stack.notify_eq hv]
  rcases v.notify_cases event with h | ⟨sink, hsink, h⟩ <;> rw [h]
  · exact .inl rfl
  · rw [Stack.id_of_find? hv]
    exact .inr ⟨w, sink, event, v.surface.size, hw, by rw [← hsinks, hsink], he, rfl⟩

theorem emits_release {w : Window} {event : WindowEvent}
    (hw : s.tracker.gesture.window? = some w.id) (hup : buttons.contains .left = false)
    (he : w.releaseEvent? p s.tracker.gesture = some event) :
    s.Emits config p buttons w event := by
  cases hg : s.tracker.gesture with
  | idle => simp [hg, Gesture.window?] at hw
  | dragging d =>
    rw [hg] at he
    simp only [Window.releaseEvent?] at he
    split at he
    · cases he
    · next hclick =>
      cases he
      exact .click hw hup (by simpa [hg, Gesture.mayClick] using hclick)
  | resizing d =>
    rw [hg] at he
    simp only [Window.releaseEvent?] at he
    split at he
    · next hengaged =>
      cases he
      exact .resized hg (Option.some.inj (by rw [hg] at hw; exact hw)) hup hengaged
    · next hclick =>
      cases he
      exact .click hw hup (by simpa [hg, Gesture.mayClick] using hclick)

theorem effects_step (s : Scene) (config : Config) (p : Point) (buttons : Buttons) :
    (s.step config p buttons).effects = (s.act config p buttons).effects := by
  unfold step
  dsimp only
  split <;> rfl

theorem Ok.focusedWindow?_of_gesture {w : Window} (h : s.Ok)
    (hw : s.tracker.gesture.window?.bind s.stack.find? = some w) :
    s.tracker.gesture.window? = some w.id ∧ s.stack.focusedWindow? = some w := by
  obtain ⟨id, hid, hfind⟩ := Option.bind_eq_some_iff.1 hw
  have hwid := Stack.id_of_find? hfind
  rw [← hwid] at hid hfind
  exact ⟨hid, Stack.focusedWindow?_eq_some.2 ⟨h.gesture.focused hid, hfind⟩⟩

/-- A sample that finds no gesture. -/
theorem routes_idle (hidle : s.tracker.gesture = .idle) :
    s.Routes config p buttons (s.act config p buttons).effects := by
  by_cases hpress : buttons.contains .left = true ∧ s.tracker.buttons.contains .left = false
  · obtain ⟨hleft, hprev⟩ := hpress
    rw [act_press hidle hleft hprev]
    unfold press
    split
    · exact .inl rfl
    next hgrab =>
    split
    · exact .inl rfl
    next w hw =>
    split
    · next hhit =>
      have hgrab : w.grab? config p = none := by simpa [hw] using hgrab
      exact .notify hw (Stack.focusedWindow?_eq_some.1 hw).2 rfl
        (.press hidle hleft hprev hhit hgrab)
    · exact .inl rfl
  · have hup : buttons.contains .left = false ∨ s.tracker.buttons.contains .left = true := by
      simpa [or_iff_not_imp_left] using hpress
    have hcases : s.act config p buttons = { state := s.note p buttons } ∨
        buttons.contains .left = false ∧
          s.act config p buttons = (s.note p buttons).hover p buttons :=
      act_unpressed_cases hidle hup
    rcases hcases with hact | ⟨hup, hact⟩ <;> rw [hact]
    · exact .inl rfl
    · unfold hover
      split
      · exact .inl rfl
      · next w hw =>
        exact .notify hw (Stack.focusedWindow?_eq_some.1 hw).2 rfl (.hover hidle hup)

/-- A sample that finds a gesture. -/
theorem Ok.routes_busy (h : s.Ok) (hbusy : s.tracker.gesture.isIdle = false) :
    s.Routes config p buttons (s.act config p buttons).effects := by
  have hacts : Acts config p (s.note p buttons) (s.act config p buttons) := acts_act
  have hnot : s.tracker.gesture ≠ .idle := fun hidle => by simp [hidle, Gesture.isIdle] at hbusy
  generalize s.act config p buttons = t at hacts ⊢
  cases hacts with
  | click _ hidle _ _ _ => exact absurd hidle hnot
  | hover _ hidle _ _ => exact absurd hidle hnot
  | @pullTell d w w' _ hg hheld _ hw hw' =>
    have hg : s.tracker.gesture = .resizing d := hg
    obtain ⟨hd, hfocus⟩ := h.focusedWindow?_of_gesture (w := w) (by rw [hg]; exact hw)
    rw [hg] at hd
    have hdw : d.window = w.id := Option.some.inj hd
    have hid := Window.id_resize hw'
    rw [hdw] at hw ⊢
    refine .notify hfocus (v := w'.moveTo (w.resizeTarget d p).x (w.resizeTarget d p).y) ?_ ?_
      (.resize hg hdw hheld)
    · rw [← hid] at hw ⊢
      exact Stack.find?_put_self (w := w'.moveTo ..) hw
    · show w'.sinks = w.sinks
      rw [Window.resize_eq hw']
  | @release w event hup hw he =>
    obtain ⟨hid, hfocus⟩ := h.focusedWindow?_of_gesture hw
    exact .notify hfocus (Stack.focusedWindow?_eq_some.1 hfocus).2 rfl (emits_release hid hup he)
  | _ => exact .inl rfl

theorem Ok.routes_step (h : s.Ok) (config : Config) (p : Point) (buttons : Buttons) :
    s.Routes config p buttons (s.step config p buttons).effects := by
  rw [effects_step]
  cases hg : s.tracker.gesture.isIdle with
  | true => exact routes_idle (Gesture.isIdle_iff.1 hg)
  | false => exact h.routes_busy hg

/-! ### Clicks -/

/-- A sample with these buttons brings the left button down. -/
def pressed (s : Scene) (buttons : Buttons) : Bool :=
  buttons.contains .left && !s.tracker.buttons.contains .left

/-- A gesture that may be a click has just started, or was one that may be a click before. -/
theorem Ok.mayClick_step (h : s.Ok) (config : Config) (p : Point) (buttons : Buttons)
    (hclick : (s.step config p buttons).state.tracker.gesture.mayClick = true) :
    s.pressed buttons = true ∨ s.tracker.gesture.mayClick = true := by
  have hafter : (s.step config p buttons).state.tracker.gesture.isIdle = false := by
    by_contra hidle
    rw [Gesture.mayClick_of_isIdle (by simpa using hidle)] at hclick
    cases hclick
  cases hidle : s.tracker.gesture.isIdle with
  | true =>
    obtain ⟨hleft, hprev, -⟩ := step_of_start (Gesture.isIdle_iff.1 hidle) hafter
    exact .inl (by simp [pressed, hleft, hprev])
  | false =>
    have hheld : buttons.contains .left = true := by
      by_contra hup
      rw [gesture_step_of_up (by simpa using hup)] at hafter
      cases hafter
    exact .inr ((h.continues hidle hheld).mayClick hclick)

/-- A press brings one click up; every other sample spends what is left of it. -/
theorem Ok.clicks_step (h : s.Ok) (config : Config) (p : Point) (buttons : Buttons) :
    (clicks (s.step config p buttons).effects).length +
        (s.step config p buttons).state.tracker.gesture.mayClick.toNat ≤
      if s.pressed buttons then 1 else s.tracker.gesture.mayClick.toNat := by
  have hmay := h.mayClick_step config p buttons
  have hup : buttons.contains .left = false →
      (s.step config p buttons).state.tracker.gesture.mayClick = false := by
    intro hup
    rw [gesture_step_of_up hup]
    rfl
  have hquiet : (s.step config p buttons).state.tracker.gesture.mayClick.toNat ≤
      if s.pressed buttons then 1 else s.tracker.gesture.mayClick.toNat := by
    cases hclick : (s.step config p buttons).state.tracker.gesture.mayClick with
    | false => exact Nat.zero_le _
    | true => rcases hmay hclick with h | h <;> simp [h]
  rw [← clicks_deliveries]
  rcases h.routes_step config p buttons with hnone | ⟨w, sink, event, size, hw, -, hemits, hes⟩
  · rw [hnone]
    simpa [clicks] using hquiet
  rw [hes]
  cases hemits with
  | press hidle hleft hprev hhit hgrab =>
    have hafter : (s.step config p buttons).state.tracker.gesture.isIdle = true := by
      by_contra hbusy
      obtain ⟨-, -, w', g, hw', hg, -⟩ := step_of_start hidle (by simpa using hbusy)
      cases hw.symm.trans hw'
      rw [hgrab] at hg
      cases hg
    simp [pressed, hleft, hprev, Gesture.mayClick_of_isIdle hafter, clicks, Effect.isClick,
      WindowEvent.kind]
  | hover hidle hnot =>
    rw [hup hnot]
    simp [clicks, Effect.isClick, WindowEvent.kind]
  | resize hg _ hheld => simpa [clicks, Effect.isClick, WindowEvent.kind] using hquiet
  | click hid hnot hclick =>
    rw [hup hnot]
    simp [clicks, Effect.isClick, WindowEvent.kind, hclick, pressed, hnot]
  | resized hg _ hnot _ =>
    rw [hup hnot]
    simp [clicks, Effect.isClick, WindowEvent.kind]

/-- A press that gives the focus to another window hands out nothing and starts no gesture. -/
theorem Ok.quiet_of_refocus (h : s.Ok) (hpress : s.pressed buttons = true)
    (hfocus : (s.step config p buttons).state.stack.focused ≠ s.stack.focused) :
    deliveries (s.step config p buttons).effects = [] ∧
      (s.step config p buttons).state.tracker.gesture.isIdle = true := by
  have hleft : buttons.contains .left = true := (Bool.and_eq_true_iff.1 hpress).1
  have hfollows := h.step_follows config p buttons
  dsimp only at hfollows
  cases hidle : (s.step config p buttons).state.tracker.gesture.isIdle with
  | false =>
    rw [hidle] at hfollows
    exact absurd hfollows.1 hfocus
  | true =>
    refine ⟨?_, rfl⟩
    rw [hidle, if_pos rfl] at hfollows
    rcases h.routes_step config p buttons with hnone | ⟨w, sink, event, size, hw, -, hemits, -⟩
    · exact hnone
    exfalso
    cases hemits with
    | press _ _ _ hhit _ =>
      unfold Stack.Follows at hfollows
      rw [hhit] at hfollows
      exact hfocus (hfollows.1.trans (Stack.focusedWindow?_eq_some.1 hw).1.symm)
    | hover _ hup => simp [hleft] at hup
    | resize hg _ _ =>
      have hgoes : (s.step config p buttons).state.tracker.gesture.isIdle = false :=
        (h.continues (by rw [hg]; rfl) hleft).isIdle
      rw [hidle] at hgoes
      cases hgoes
    | click _ hup _ => simp [hleft] at hup
    | resized _ _ hup _ => simp [hleft] at hup

end Scene

theorem clicks_of_only {kind : Option EventKind} {es : List Effect} (h : Only kind es)
    (hkind : kind ≠ some .mouseButton) : clicks es = [] := by
  refine List.filter_eq_nil_iff.2 fun e he hclick => ?_
  have hbutton : e.kind? = some .mouseButton := by
    cases e <;> simp_all [Effect.isClick, Effect.kind?]
  rcases h e he with h | h
  · rw [hbutton] at h
    cases h
  · exact hkind (h.symm.trans hbutton)

namespace Desktop
variable {d d' : Desktop} {ms : List (Desktop × Sample)}

/-- All clicks of a run come from its samples. -/
theorem clicks_run (d : Desktop) (ops : List Operation) :
    clicks (d.run ops).effects = clicks (delivered (d.samplings ops)) := by
  induction ops generalizing d with
  | nil => rfl
  | cons op ops ih =>
    have hop : clicks (d.apply op).effects = clicks (delivered (d.opSamplings op)) := by
      cases h : op.isPointer with
      | true => rw [← clicks_deliveries, d.deliveries_apply h]
      | false =>
        rw [d.opSamplings_of_not_pointer h]
        rw [← clicks_deliveries]
        exact clicks_of_only (d.only_apply h) (by cases op <;> simp [Operation.kind?])
    simp only [run, samplings, delivered_append, clicks_append, hop, ih]

theorem clicks_takeSample (h : d.toScene.Ok) (q : Sample) :
    (clicks (deliveries (d.takeSample q).effects)).length +
        (d.takeSample q).state.tracker.gesture.mayClick.toNat ≤
      if d.toScene.pressed q.buttons then 1 else d.tracker.gesture.mayClick.toNat := by
  rw [deliveries_takeSample, clicks_deliveries]
  exact h.clicks_step d.config q.position q.buttons

/-- Without a press there is no click but the one that the gesture under way may become. -/
theorem Leads.spent (h : d.Leads ms d') (hd : d.toScene.Ok)
    (hms : ∀ m ∈ ms, m.1.toScene.pressed m.2.buttons = false) :
    (clicks (delivered ms)).length + d'.tracker.gesture.mayClick.toNat ≤
      d.tracker.gesture.mayClick.toNat := by
  induction h with
  | refl => simp [delivered, clicks]
  | mouse _ _ ih => exact ih hms
  | @call ms d' _ op hop ih =>
    have hkept : (d'.apply op).state.tracker.gesture.mayClick.toNat ≤
        d'.tracker.gesture.mayClick.toNat := by
      rcases d'.tracker_apply hop with ht | ⟨-, ht⟩ <;> rw [ht]
      exact Nat.zero_le _
    exact Nat.le_trans (Nat.add_le_add_left hkept _) (ih hms)
  | @sample ms d' hlead q ih =>
    obtain ⟨hms, hq⟩ := List.forall_mem_append.1 hms
    have hspent := ih hms
    have hstep := clicks_takeSample (hlead.ok hd) q
    rw [if_neg (by simp [hq (d', q) (by simp)])] at hstep
    have hone : delivered [(d', q)] = deliveries (d'.takeSample q).effects := by simp [delivered]
    rw [delivered_append, hone, clicks_append, List.length_append]
    omega

theorem routes_takeSample (h : d.toScene.Ok) (q : Sample) :
    d.toScene.Routes d.config q.position q.buttons (d.takeSample q).effects := by
  have hstep := h.routes_step d.config q.position q.buttons
  unfold Scene.Routes at hstep ⊢
  rwa [deliveries_takeSample]

/-- If no sample has the left button down after one that had it up, there is no press among them. -/
theorem Leads.unpressed {m : Desktop × Sample} (h : (m.1.takeSample m.2).state.Leads ms d')
    (hms : (m :: ms).IsChain fun m m' =>
      m'.2.buttons.contains .left = true → m.2.buttons.contains .left = true) :
    ∀ m' ∈ ms, m'.1.toScene.pressed m'.2.buttons = false := by
  intro m' hm'
  obtain ⟨before, after, rfl⟩ := List.append_of_mem hm'
  rw [← List.cons_append, List.isChain_append] at hms
  have hprev : ∃ n ∈ (m :: before).getLast?, m'.1.tracker.buttons = n.2.buttons := by
    rw [h.before.buttons]
    rcases List.eq_nil_or_concat before with rfl | ⟨before, n, rfl⟩
    · exact ⟨m, rfl, Scene.buttons_step ..⟩
    · rw [List.concat_eq_append, ← List.cons_append]
      exact ⟨n, List.getLast?_concat, by rw [List.getLast?_concat]; rfl⟩
  obtain ⟨n, hn, hbuttons⟩ := hprev
  have hheld := hms.2.2 n hn m' rfl
  unfold Scene.pressed
  rw [hbuttons]
  cases hleft : m'.2.buttons.contains .left with
  | false => rfl
  | true => simp [hheld hleft]

/-- Events of the pointer in a run from a desktop without windows, whatever callers do. A sample hands
out one event at most, to the window that has had the focus before it. Button events come from samples
alone, and from a sample on there is one at most until the next press of the left button: at once if
the sample is a press on the content of the window with the focus, or when a gesture ends that has not
engaged. If a press gives the focus to another window, there is none. -/
theorem events_routed (config : Config) (theme : Theme) (display : Display) (heap : Heap)
    (ops : List Operation) :
    let fresh := (start config theme display heap).state
    let d := (fresh.run ops).state
    (∀ q, d.toScene.Routes d.config q.position q.buttons (d.takeSample q).effects) ∧
    clicks (fresh.run ops).effects = clicks (delivered (fresh.samplings ops)) ∧
    ∀ before m stretch after, fresh.samplings ops = before ++ m :: (stretch ++ after) →
      m.1.toScene.Routes m.1.config m.2.position m.2.buttons (m.1.takeSample m.2).effects ∧
      ((m :: stretch).IsChain (fun m m' =>
          m'.2.buttons.contains .left = true → m.2.buttons.contains .left = true) →
        (clicks (delivered (m :: stretch))).length ≤ 1 ∧
        (m.2.buttons.contains .left = true →
          (∀ m' ∈ before.getLast?, m'.2.buttons.contains .left = false) →
          (m.1.takeSample m.2).state.stack.focused ≠ m.1.stack.focused →
          deliveries (m.1.takeSample m.2).effects = [] ∧ clicks (delivered stretch) = [])) := by
  intro fresh d
  have hd : d.Reachable := (Reachable.start config theme display heap).run ops
  refine ⟨routes_takeSample hd.ok, fresh.clicks_run ops, fun before m stretch after hms => ?_⟩
  have hleads := fresh.leads_run ops
  rw [hms] at hleads
  have hok := hleads.before.ok ⟨Stack.Ok.empty, trivial⟩
  refine ⟨routes_takeSample hok m.2, fun hchain => ?_⟩
  obtain ⟨d', hstretch⟩ := hleads.after.front
  have hunpressed := hstretch.unpressed hchain
  have hspent := hstretch.spent (hok.takeSample m.2) hunpressed
  refine ⟨?_, fun hleft hprev hfocus => ?_⟩
  · have hstep := clicks_takeSample hok m.2
    have hone : (if m.1.toScene.pressed m.2.buttons then 1
        else m.1.tracker.gesture.mayClick.toNat) ≤ 1 := by
      split
      · exact Nat.le_refl 1
      · exact Bool.toNat_le _
    show (clicks (deliveries (m.1.takeSample m.2).effects ++ delivered stretch)).length ≤ 1
    rw [clicks_append, List.length_append]
    omega
  · have hpress : m.1.toScene.pressed m.2.buttons = true := by
      have hup : m.1.tracker.buttons.contains .left = false := by
        rw [hleads.before.buttons]
        cases hlast : before.getLast? with
        | none => exact (by decide : Buttons.none.contains .left = false)
        | some m' => exact hprev m' hlast
      simp [Scene.pressed, hleft, hup]
    obtain ⟨hquiet, hidle⟩ := hok.quiet_of_refocus hpress hfocus
    refine ⟨by rw [deliveries_takeSample, hquiet], ?_⟩
    have hnone : (m.1.takeSample m.2).state.tracker.gesture.mayClick = false :=
      Gesture.mayClick_of_isIdle hidle
    rw [hnone] at hspent
    exact List.eq_nil_of_length_eq_zero (Nat.le_zero.1 (Nat.le_trans (Nat.le_add_right ..) hspent))

end Desktop
end PointerDesktop
