import PointerDesktop.Proofs.EventRouting
import PointerDesktop.Proofs.Locality
import PointerDesktop.Proofs.TitlebarHits

/-!
# What is grabbed is what is seen

A press looks at the window with the focus before it looks at the stack, so that a drag could start on a
window that another one covers. It cannot: the window with the focus is the top one, so it is the one
that a point inside it hits (`Stack.Ok.topmostAt?_focused`), and of points outside it a press takes no
others than those next to its edges (`Window.grab?_cases`). Main statement: `Desktop.grabs_what_is_seen`.
-/

namespace PointerDesktop

/-- The window `id` is visible at `p`, and no window above it is. -/
def Stack.Seen (s : Stack) (p : Point) (id : WindowId) : Prop :=
  ∃ below w above, s.windows = below ++ w :: above ∧ w.id = id ∧
    w.isVisible = true ∧ w.contains p = true ∧
    ∀ v ∈ above, v.isVisible = true → v.contains p = false

namespace Stack
variable {s : Stack} {w : Window} {p : Point} {id : WindowId}

theorem topmostAt?_eq_some_iff : s.topmostAt? p = some id ↔ s.Seen p id := by
  have hdark : ∀ v : Window, (!(v.isVisible && v.contains p)) = true ↔
      (v.isVisible = true → v.contains p = false) := by
    intro v
    cases v.isVisible <;> simp
  unfold topmostAt? Seen
  rw [Option.map_eq_some_iff]
  constructor
  · rintro ⟨w, hw, rfl⟩
    obtain ⟨hhit, above, below, hsplit, habove⟩ := List.find?_eq_some_iff_append.1 hw
    rw [Bool.and_eq_true] at hhit
    have hwindows : s.windows = below.reverse ++ w :: above.reverse := by
      simpa using congrArg List.reverse hsplit
    exact ⟨_, w, _, hwindows, rfl, hhit.1, hhit.2,
      fun v hv => (hdark v).1 (habove v (List.mem_reverse.1 hv))⟩
  · rintro ⟨below, w, above, hwindows, rfl, hv, hc, habove⟩
    have hsplit : s.windows.reverse = above.reverse ++ w :: below.reverse := by simp [hwindows]
    exact ⟨w, List.find?_eq_some_iff_append.2 ⟨by simp [hv, hc], _, _, hsplit,
      fun v hv => (hdark v).2 (habove v (List.mem_reverse.1 hv))⟩, rfl⟩

/-- A point inside the window with the focus hits it, for no window is above it. -/
theorem Ok.topmostAt?_focused (h : s.Ok) (hw : s.focusedWindow? = some w) (hv : w.isVisible = true)
    (hc : w.contains p = true) : s.topmostAt? p = some w.id := by
  obtain ⟨below, hbelow, -⟩ := h.windows_eq hw
  exact topmostAt?_eq_some_iff.2 ⟨below, w, [], hbelow, rfl, hv, hc, by simp⟩

end Stack

namespace Window
variable {w : Window} {p : Point} {config : Config} {g : Gesture}

/-- A window is grabbed from inside, or next to its edges and by them. -/
theorem grab?_cases (h : w.grab? config p = some g) :
    g.window? = some w.id ∧ w.isVisible = true ∧ (w.contains p = true ∨
      (∃ e, g = .resizing e) ∧ w.rect.Near config.resizeBorder.toNat p) := by
  unfold grab? at h
  split at h
  · cases h
  next hvis =>
  rw [Bool.not_eq_true, Bool.not_eq_false'] at hvis
  split at h
  · next hbar =>
    cases h
    exact ⟨rfl, hvis, .inl (contains_of_inTitlebar hbar)⟩
  · dsimp only at h
    split at h
    · cases h
    next hedges =>
    cases h
    rw [Bool.not_eq_true] at hedges
    unfold edgesNear at hedges
    split at hedges
    · exact ⟨rfl, hvis, .inr ⟨⟨_, rfl⟩, Rect.near_of_edgesNear hedges⟩⟩
    · cases hedges

end Window

namespace Scene.Ok
variable {s : Scene} {config : Config} {p : Point} {buttons : Buttons}

/-- A gesture that a sample starts is on a window that the point hits, or is by an edge next to it. -/
theorem started (h : s.Ok) (hidle : s.tracker.gesture = .idle)
    (hbusy : (s.step config p buttons).state.tracker.gesture.isIdle = false) :
    ∃ w, (s.step config p buttons).state.tracker.gesture.window? = some w.id ∧
      s.stack.find? w.id = some w ∧
      (w.contains p = true → s.stack.topmostAt? p = some w.id) ∧
      (w.contains p = false →
        (∃ e, (s.step config p buttons).state.tracker.gesture = .resizing e) ∧
        w.rect.Near config.resizeBorder.toNat p) := by
  obtain ⟨-, -, w, g, hw, hgrab, hstep⟩ := step_of_start hidle hbusy
  have hgesture : (s.step config p buttons).state.tracker.gesture = g := by
    rw [hstep]
    rfl
  obtain ⟨hid, hvis, hwhere⟩ := Window.grab?_cases hgrab
  rw [hgesture]
  refine ⟨w, hid, (Stack.focusedWindow?_eq_some.1 hw).2,
    fun hc => h.stack.topmostAt?_focused hw hvis hc, fun hc => ?_⟩
  rcases hwhere with hinside | hnear
  · simp [hc] at hinside
  · exact hnear

end Scene.Ok

/-- What is grabbed is what is seen. If no gesture is under way and a sample starts a drag of a window, or
a drag of edges from inside it, or hands it a button event, then that window is what the point hits: no
visible window above it is there. A gesture that starts outside its window is a drag of edges, next to
the window. -/
theorem Desktop.grabs_what_is_seen {d : Desktop} (hd : d.Reachable) (op : Operation) :
    ∀ m ∈ d.opSamplings op, m.1.tracker.gesture = .idle →
      let p := m.2.position
      let before := m.1.stack
      let sampled := m.1.takeSample m.2
      let gesture := sampled.state.tracker.gesture
      (∀ g, gesture = .dragging g → before.topmostAt? p = some g.window ∧ before.Seen p g.window) ∧
      (∀ g w, gesture = .resizing g → before.find? g.window = some w → w.contains p = true →
        before.topmostAt? p = some g.window ∧ before.Seen p g.window) ∧
      (∀ sink id q buttons size,
        .deliver sink id (.mouseButton q buttons) size ∈ sampled.effects →
        before.topmostAt? p = some id ∧ before.Seen p id) ∧
      ∀ id, gesture.window? = some id → ∃ w, before.find? id = some w ∧ (w.contains p = false →
        (∃ g, gesture = .resizing g) ∧ w.rect.Near m.1.config.resizeBorder.toNat p) := by
  intro m hm hidle p before sampled gesture
  have hok := (d.sound_opSamplings hd.sound op m hm).ok
  have hseen : ∀ {id}, before.topmostAt? p = some id →
      before.topmostAt? p = some id ∧ before.Seen p id :=
    fun hhit => ⟨hhit, Stack.topmostAt?_eq_some_iff.1 hhit⟩
  have hstarted : ∀ id, gesture.window? = some id → ∃ w, before.find? id = some w ∧
      (w.contains p = true → before.topmostAt? p = some id) ∧ (w.contains p = false →
        (∃ g, gesture = .resizing g) ∧ w.rect.Near m.1.config.resizeBorder.toNat p) := by
    intro id hid
    have hbusy : gesture.isIdle = false := by
      cases hg : gesture with
      | idle => simp [hg, Gesture.window?] at hid
      | _ => rfl
    obtain ⟨w, hw, hfind, hinside, houtside⟩ := hok.started hidle hbusy
    cases hid.symm.trans hw
    exact ⟨w, hfind, hinside, houtside⟩
  refine ⟨fun g hg => ?_, fun g w hg hw hc => ?_, fun sink id q buttons size hmem => ?_,
    fun id hid => ?_⟩
  · obtain ⟨w, -, hinside, houtside⟩ := hstarted g.window (by rw [hg]; rfl)
    cases hc : w.contains p with
    | true => exact hseen (hinside hc)
    | false =>
      obtain ⟨⟨e, he⟩, -⟩ := houtside hc
      rw [hg] at he
      cases he
  · obtain ⟨w', hw', hinside, -⟩ := hstarted g.window (by rw [hg]; rfl)
    cases hw.symm.trans hw'
    exact hseen (hinside hc)
  · have hdelivered : .deliver sink id (.mouseButton q buttons) size ∈ deliveries sampled.effects :=
      List.mem_filter.2 ⟨hmem, rfl⟩
    rcases routes_takeSample hok m.2 with hnone | ⟨w, sink', event, size', -, -, hemits, hes⟩
    · simp [sampled, hnone] at hdelivered
    · rw [hes, List.mem_singleton] at hdelivered
      cases hdelivered
      cases hemits with
      | press _ _ _ hhit _ => exact hseen hhit
      | click hw _ _ => simp [hidle, Gesture.window?] at hw
  · obtain ⟨w, hw, -, houtside⟩ := hstarted id hid
    exact ⟨w, hw, houtside⟩

/-- Presses on a small window over a large one: on its title bar, inside and outside its right edge, and
on its content. Outside its edge it is grabbed although the point hits the large one. -/
theorem Desktop.grabs_what_is_seen_overlap :
    let d := ((start {} {} .software (.upTo 4194304)).state.run
      [.create "large" ⟨60, 60⟩ .titled, .create "small" ⟨40, 40⟩ (.union .titled .resizable),
        .setSink ⟨2⟩ (.mouseButton "b")]).state
    let press (p : Point) : Desktop × Sample :=
      ({ d with mouse := d.mouse.warp p }, ⟨(d.mouse.warp p).position, .left, d.mouse.position⟩)
    let sampled (p : Point) := (press p).1.takeSample (press p).2
    d.Reachable ∧ d.tracker.gesture = .idle ∧
      (∀ p, press p ∈ d.opSamplings (.pointTo p .left)) ∧
      ((sampled ⟨110, 105⟩).state.tracker.gesture =
          .dragging ⟨⟨2⟩, ⟨10, 5⟩, ⟨110, 105⟩, false⟩ ∧
        d.stack.Seen ⟨110, 105⟩ ⟨2⟩) ∧
      ((sampled ⟨138, 130⟩).state.tracker.gesture =
          .resizing ⟨⟨2⟩, .right, ⟨138, 130⟩, ⟨100, 100, 40, 40⟩, false⟩ ∧
        d.stack.Seen ⟨138, 130⟩ ⟨2⟩) ∧
      (.deliver (.mouseButton "b") ⟨2⟩ (.mouseButton ⟨10, 30⟩ .left) ⟨40, 40⟩ ∈
          (sampled ⟨110, 130⟩).effects ∧
        d.stack.Seen ⟨110, 130⟩ ⟨2⟩) ∧
      (sampled ⟨143, 130⟩).state.tracker.gesture =
          .resizing ⟨⟨2⟩, .right, ⟨143, 130⟩, ⟨100, 100, 40, 40⟩, false⟩ ∧
        d.stack.topmostAt? ⟨143, 130⟩ = some ⟨1⟩ ∧
        ∃ w, d.stack.find? ⟨2⟩ = some w ∧ w.contains ⟨143, 130⟩ = false ∧
          w.rect.Near 5 ⟨143, 130⟩ := by
  intro d press sampled
  have hd : d.Reachable := (Reachable.start {} {} .software (.upTo 4194304)).run _
  have hidle : d.tracker.gesture = .idle := by decide +kernel
  have hpress : ∀ p, press p ∈ d.opSamplings (.pointTo p .left) := fun p => List.mem_singleton_self _
  have hseen := fun p => grabs_what_is_seen hd (.pointTo p .left) (press p) (hpress p) hidle
  have hbar : (sampled ⟨110, 105⟩).state.tracker.gesture =
      .dragging ⟨⟨2⟩, ⟨10, 5⟩, ⟨110, 105⟩, false⟩ := by decide +kernel
  have hinside : (sampled ⟨138, 130⟩).state.tracker.gesture =
      .resizing ⟨⟨2⟩, .right, ⟨138, 130⟩, ⟨100, 100, 40, 40⟩, false⟩ := by decide +kernel
  have hcontent : .deliver (.mouseButton "b") ⟨2⟩ (.mouseButton ⟨10, 30⟩ .left) ⟨40, 40⟩ ∈
      (sampled ⟨110, 130⟩).effects := by decide +kernel
  have houtside : (sampled ⟨143, 130⟩).state.tracker.gesture =
      .resizing ⟨⟨2⟩, .right, ⟨143, 130⟩, ⟨100, 100, 40, 40⟩, false⟩ := by decide +kernel
  have hplace : (press ⟨110, 105⟩).2.position = ⟨110, 105⟩ ∧
      (press ⟨138, 130⟩).2.position = ⟨138, 130⟩ ∧ (press ⟨110, 130⟩).2.position = ⟨110, 130⟩ ∧
      (press ⟨143, 130⟩).2.position = ⟨143, 130⟩ := by decide +kernel
  have hrect : (d.stack.find? ⟨2⟩).map (·.rect) = some ⟨100, 100, 40, 40⟩ := by decide +kernel
  obtain ⟨w, hw, hrect⟩ := Option.map_eq_some_iff.1 hrect
  have hcontains : w.contains ⟨138, 130⟩ = true ∧ w.contains ⟨143, 130⟩ = false := by
    unfold Window.contains
    rw [hrect]
    decide
  obtain ⟨hdrag, -, -, -⟩ := hseen ⟨110, 105⟩
  obtain ⟨-, hresize, -, -⟩ := hseen ⟨138, 130⟩
  obtain ⟨-, -, hclick, -⟩ := hseen ⟨110, 130⟩
  obtain ⟨-, -, -, hnear⟩ := hseen ⟨143, 130⟩
  rw [hplace.1] at hdrag
  rw [hplace.2.1] at hresize
  rw [hplace.2.2.1] at hclick
  rw [hplace.2.2.2] at hnear
  obtain ⟨w', hw', hnear⟩ := hnear ⟨2⟩ (congrArg Gesture.window? houtside)
  cases hw.symm.trans hw'
  exact ⟨hd, hidle, hpress, ⟨hbar, (hdrag _ hbar).2⟩,
    ⟨hinside, (hresize _ w hinside hw hcontains.1).2⟩, ⟨hcontent, (hclick _ _ _ _ _ hcontent).2⟩,
    houtside, by decide +kernel, w, hw, hcontains.2, (hnear hcontains.2).2⟩

end PointerDesktop
