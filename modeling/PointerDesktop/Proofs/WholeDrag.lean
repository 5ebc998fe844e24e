import PointerDesktop.Proofs.PressRelease

/-!
# A drag of a window from press to release

`Scene.Dragging s₀ w g p s`: the scene `s` is one in the course of the drag `g` of the window `w`,
which began on the stack `s₀` and has come to `p`. The stack is `s₀` with `w` at one place, which
depends on `p` and on whether the drag has engaged, and not on the way to `p`; so a saturation at the
corner of the screen does not add up. Main statement: `Desktop.whole_drag`.
-/

namespace PointerDesktop

/-! ### Places -/

theorem Point.toInt_relativeTo {p : Point} {r : Rect} (hx : 0 ≤ p.x.toInt) (hy : 0 ≤ p.y.toInt)
    (hleft : r.left < 2147483648) (htop : r.top < 2147483648) :
    (p.relativeTo r).x.toInt = p.x.toInt - r.left ∧
      (p.relativeTo r).y.toInt = p.y.toInt - r.top := by
  have hltx := p.x.toInt_lt
  have hlty := p.y.toInt_lt
  have hl : 0 ≤ r.left := Int.natCast_nonneg _
  have ht : 0 ≤ r.top := Int.natCast_nonneg _
  unfold relativeTo
  exact ⟨Int32.toInt_ofInt_of_le (by omega) (by omega),
    Int32.toInt_ofInt_of_le (by omega) (by omega)⟩

namespace Window
variable {w : Window} {g : Drag} {p : Point}

/-- The corner of a dragged window: the press is as far from it as it was, unless the screen ends. -/
theorem corner_dragged (w : Window) (g : Drag) (p : Point) :
    (w.dragged g p).rect.left = max 0 (p.x.toInt - g.grab.x.toInt) ∧
      (w.dragged g p).rect.top = max 0 (p.y.toInt - g.grab.y.toInt) := by
  have hword : ∀ a b : Int32, ((nearestWord (a.toInt - b.toInt)).toNat : Int) =
      max 0 (a.toInt - b.toInt) := by
    intro a b
    have ha := a.toInt_lt
    have hb := b.le_toInt
    rw [toNat_nearestWord]
    unfold maxWord
    omega
  exact ⟨hword p.x g.grab.x, hword p.y g.grab.y⟩

theorem corner_le_of_inTitlebar {height : UInt32} (h : w.inTitlebar p height = true) :
    w.rect.left ≤ p.x.toInt ∧ w.rect.top ≤ p.y.toInt := by
  unfold inTitlebar Rect.contains at h
  simp only [Bool.and_eq_true, decide_eq_true_eq] at h
  exact ⟨h.2.1.1.1, h.2.1.2⟩

/-- The window in the course of a drag that has come to `p`. -/
def placed (w : Window) (g : Drag) (p : Point) : Window :=
  if g.engaged then w.dragged g p else w

theorem placed_eq (w : Window) (g : Drag) (p : Point) :
    w.placed g p = w.moveTo (w.placed g p).rect.x (w.placed g p).rect.y := by
  unfold placed
  split <;> rfl

theorem placed_of_click (h : g.engaged = false) : w.placed g p = w := by
  unfold placed
  rw [h, if_neg Bool.false_ne_true]

theorem Ok.placed (hw : w.Ok) (g : Drag) (p : Point) : (w.placed g p).Ok := by
  rw [placed_eq]
  exact ⟨hw.nonempty, hw.surface, hw.sinks⟩

theorem id_placed (w : Window) (g : Drag) (p : Point) : (w.placed g p).id = w.id := by
  rw [placed_eq]
  rfl

theorem dragged_placed (w : Window) (g : Drag) (p q : Point) :
    (w.placed g p).dragged g q = w.dragged g q := by
  rw [placed_eq]
  unfold dragged moveTo
  rfl

/-- A window that was pressed at `p` has gone as far as the pointer, but not off the screen. -/
theorem corner_placed (hp : w.rect.left ≤ p.x.toInt ∧ w.rect.top ≤ p.y.toInt) (engaged : Bool)
    (q : Point) :
    (w.placed (w.grabbed p engaged) q).rect.left =
        (if engaged then max 0 (w.rect.left + q.x.toInt - p.x.toInt) else w.rect.left) ∧
      (w.placed (w.grabbed p engaged) q).rect.top =
        (if engaged then max 0 (w.rect.top + q.y.toInt - p.y.toInt) else w.rect.top) := by
  cases engaged with
  | false => exact ⟨rfl, rfl⟩
  | true =>
    have hltx := p.x.toInt_lt
    have hlty := p.y.toInt_lt
    have hl : 0 ≤ w.rect.left := Int.natCast_nonneg _
    have ht : 0 ≤ w.rect.top := Int.natCast_nonneg _
    obtain ⟨hgx, hgy⟩ := Point.toInt_relativeTo (p := p) (r := w.rect) (by omega) (by omega)
      (by omega) (by omega)
    obtain ⟨hx, hy⟩ := w.corner_dragged (w.grabbed p true) q
    refine ⟨hx.trans ?_, hy.trans ?_⟩
    · show max 0 (q.x.toInt - (p.relativeTo w.rect).x.toInt) = _
      rw [hgx, if_pos rfl]
      omega
    · show max 0 (q.y.toInt - (p.relativeTo w.rect).y.toInt) = _
      rw [hgy, if_pos rfl]
      omega

end Window

/-! ### Samples -/

namespace Scene

/-- `s` is in the course of the drag `g` of `w`, with the pointer at `p`. -/
structure Dragging (s₀ : Stack) (w : Window) (g : Drag) (p : Point) (s : Scene) : Prop where
  gesture : s.tracker.gesture = .dragging g
  stack : s.stack = s₀.put (w.placed g p)

variable {s : Scene} {config : Config} {p : Point} {buttons : Buttons} {w : Window}

theorem dragging_press (hs : s.stack.Ok) (hidle : s.tracker.gesture = .idle)
    (hprev : s.tracker.buttons.contains .left = false) (hfocus : s.stack.focusedWindow? = some w)
    (hvis : w.isVisible = true) (hbar : w.inTitlebar p config.titlebarHeight = true)
    (hleft : buttons.contains .left = true) :
    Dragging s.stack w (w.grabbed p false) p (s.step config p buttons).state ∧
      (s.step config p buttons).effects = [] := by
  have hgrab : w.grab? config p = some (.dragging (w.grabbed p false)) := by
    unfold Window.grab?
    rw [hvis, hbar]
    rfl
  have hpress : s.act config p buttons =
      { state := (s.note p buttons).setGesture (.dragging (w.grabbed p false)) } := by
    rw [act_press hidle hleft hprev]
    unfold press
    rw [show (s.note p buttons).stack.focusedWindow? = some w from hfocus, Option.bind_some, hgrab]
  rw [step_of_busy (by rw [hpress]; rfl), hpress]
  refine ⟨⟨rfl, ?_⟩, rfl⟩
  exact (Stack.put_self hs.nodup (Stack.focusedWindow?_eq_some.1 hfocus).2).symm

namespace Dragging
variable {s₀ : Stack} {g : Drag} {q₀ : Sample} {qs : List Sample}

theorem find? (h : Dragging s₀ w g p s) (hw : s₀.find? w.id = some w) :
    s.stack.find? w.id = some (w.placed g p) := by
  rw [h.stack, ← w.id_placed g p]
  rw [← w.id_placed g p] at hw
  exact Stack.find?_put_self hw

/-- A sample with the left button down. -/
theorem held (h : Dragging s₀ w g p s) (config : Config) (hw : s₀.find? w.id = some w)
    (hg : g.window = w.id) (q : Point) (hheld : buttons.contains .left = true) :
    Dragging s₀ w { g with engaged := engages config g.engaged g.origin q } q
        (s.step config q buttons).state ∧
      (s.step config q buttons).effects = [] := by
  have hact : s.act config q buttons = (s.note q buttons).dragTo config g q :=
    act_dragging h.gesture hheld
  unfold dragTo at hact
  cases he : engages config g.engaged g.origin q with
  | false =>
    -- a drag that does not engage now was not engaged before
    rw [he, if_neg Bool.false_ne_true] at hact
    have hclick : g.engaged = false := by
      unfold engages at he
      exact (Bool.or_eq_false_iff.1 he).1
    have hsame : { g with engaged := false } = g := by rw [← hclick]
    rw [step_of_busy (by rw [hact, note, h.gesture]; rfl), hact, hsame]
    refine ⟨⟨h.gesture, ?_⟩, rfl⟩
    show s.stack = _
    rw [h.stack, Window.placed_of_click hclick, Window.placed_of_click hclick]
  | true =>
    have hfind : (s.note q buttons).stack.find? g.window = some (w.placed g p) := by
      rw [hg]
      exact h.find? hw
    have hput : s.stack.put (w.dragged g q) = s₀.put (w.dragged g q) := by
      rw [h.stack]
      exact Stack.put_put (w.id_placed g p)
    rw [he, if_pos rfl] at hact
    dsimp only [setGesture] at hact
    rw [hfind] at hact
    dsimp only at hact
    rw [w.dragged_placed] at hact
    rw [step_of_busy (by rw [hact]; rfl), hact]
    exact ⟨⟨rfl, hput⟩, rfl⟩

/-- Samples with the left button down. -/
theorem steps (h : Dragging s₀ w g q₀.position s) (config : Config)
    (hw : s₀.find? w.id = some w) (hg : g.window = w.id)
    (hheld : ∀ q ∈ qs, q.buttons.contains .left = true) :
    Dragging s₀ w
        { g with engaged := engagedAfter config g.engaged g.origin qs }
        (qs.getLastD q₀).position (s.steps config qs).state ∧
      (s.steps config qs).effects = [] := by
  induction qs generalizing s g q₀ with
  | nil =>
    rw [engagedAfter_nil]
    exact ⟨h, rfl⟩
  | cons q qs ih =>
    obtain ⟨hfirst, heffects⟩ := h.held config hw hg q.position
      (hheld q List.mem_cons_self)
    obtain ⟨hlast, hrest⟩ := ih hfirst hg fun q' hq' => hheld q' (List.mem_cons_of_mem _ hq')
    rw [List.getLastD_cons, engagedAfter_cons]
    refine ⟨hlast, ?_⟩
    show _ ++ _ = _
    rw [heffects, hrest]
    rfl

/-- A sample with the left button up. -/
theorem release (h : Dragging s₀ w g p s) (config : Config) (hs : s.stack.Ok)
    (hw : s₀.find? w.id = some w) (hok : w.Ok) (hg : g.window = w.id) (r : Point)
    (hup : buttons.contains .left = false) :
    (s.step config r buttons).state.tracker.gesture = .idle ∧
      (∀ id, (s.step config r buttons).state.stack.find? id = s.stack.find? id) ∧
      (s.step config r buttons).effects =
        if g.engaged then [] else (w.sinks.get? .mouseButton).toList.map fun sink =>
          .deliver sink w.id (.mouseButton (w.toLocal r) .left) w.size := by
  have hfind : s.tracker.gesture.window?.bind s.stack.find? = some (w.placed g p) := by
    rw [h.gesture]
    show s.stack.find? g.window = _
    rw [hg]
    exact h.find? hw
  obtain ⟨hidle, hkept, heffects⟩ := step_release hs hfind (hok.placed g p) hup config r
  refine ⟨hidle, hkept, ?_⟩
  rw [heffects, h.gesture]
  cases hclick : g.engaged with
  | true => simp [Window.releaseEvent?, hclick]
  | false =>
    rw [Window.placed_of_click hclick]
    simp [Window.releaseEvent?, hclick, Window.handed, WindowEvent.kind]

end Dragging

/-- A press on the title bar of the focused window and samples with the left button down. -/
theorem dragging_steps (hs : s.stack.Ok) (hidle : s.tracker.gesture = .idle)
    (hprev : s.tracker.buttons.contains .left = false) (hfocus : s.stack.focusedWindow? = some w)
    (hvis : w.isVisible = true) {press : Sample} {held : List Sample}
    (hbar : w.inTitlebar press.position config.titlebarHeight = true)
    (hheld : ∀ q ∈ press :: held, q.buttons.contains .left = true) :
    Dragging s.stack w
        (w.grabbed press.position (engagedAfter config false press.position held))
        (held.getLastD press).position (s.steps config (press :: held)).state ∧
      (s.steps config (press :: held)).effects = [] := by
  obtain ⟨hpress, heffects⟩ := dragging_press hs hidle hprev hfocus hvis hbar
    (hheld press List.mem_cons_self)
  obtain ⟨hlast, hrest⟩ := hpress.steps config
    (Stack.focusedWindow?_eq_some.1 hfocus).2 rfl fun q hq => hheld q (List.mem_cons_of_mem _ hq)
  refine ⟨hlast, ?_⟩
  show _ ++ _ = _
  rw [heffects, hrest]
  rfl

end Scene

/-- A drag of the focused window `w` by its title bar: a press, held samples, and a release, from
whichever ports they come. The held samples move nothing but `w`, and that only if one of them has
been `clickThreshold` away from the press; then the corner of `w` has moved as far as the pointer from
the press to the last sample, but not off the screen. They deliver nothing. The release moves nothing,
ends the gesture, and delivers a click where it is seen from the corner of `w` if the drag never
engaged, and nothing otherwise. -/
theorem Desktop.whole_drag {d : Desktop} (hd : d.Reachable) (hidle : d.tracker.gesture = .idle)
    (hprev : d.tracker.buttons.contains .left = false) {w : Window}
    (hfocus : d.stack.focusedWindow? = some w) (hvis : w.isVisible = true)
    {press release : Sample} {held : List Sample}
    (hbar : w.inTitlebar press.position d.config.titlebarHeight = true)
    (hheld : ∀ q ∈ press :: held, q.buttons.contains .left = true)
    (hup : release.buttons.contains .left = false)
    {ops more : List Operation} (hops : ∀ op ∈ ops ++ more, op.isPointer = true)
    (hsamples : d.samples ops = press :: held)
    (hmore : (d.run ops).state.samples more = [release]) :
    let last := held.getLastD press
    let engaged := held.any fun q =>
      d.config.clickThreshold.toNat ≤ q.position.distance press.position
    let dragged := d.run ops
    let released := dragged.state.run more
    (∃ v, dragged.state.stack.find? w.id = some v ∧
        v = { w with rect := { w.rect with x := v.rect.x, y := v.rect.y } } ∧
        v.rect.left = (if engaged then
          max 0 (w.rect.left + last.position.x.toInt - press.position.x.toInt) else w.rect.left) ∧
        v.rect.top = (if engaged then
          max 0 (w.rect.top + last.position.y.toInt - press.position.y.toInt) else w.rect.top)) ∧
      (∀ id, id ≠ w.id → dragged.state.stack.find? id = d.stack.find? id) ∧
      dragged.state.stack.focused = d.stack.focused ∧ dragged.state.stack.ids = d.stack.ids ∧
      deliveries dragged.effects = [] ∧
      (∀ id, released.state.stack.find? id = dragged.state.stack.find? id) ∧
      released.state.tracker.gesture = .idle ∧
      ∃ c : Point, c.x.toInt = release.position.x.toInt - w.rect.left ∧
        c.y.toInt = release.position.y.toInt - w.rect.top ∧
        deliveries released.effects =
          if engaged then [] else (w.sinks.get? .mouseButton).toList.map fun sink =>
            .deliver sink w.id (.mouseButton c .left) w.size := by
  intro last engaged dragged released
  obtain ⟨-, hw⟩ := Stack.focusedWindow?_eq_some.1 hfocus
  have hok := hd.ok.stack
  have hwok : w.Ok := hd.window_ok w (Stack.mem_of_find? hw)
  have htakes : d.Takes (d.samples ops) dragged :=
    d.takes_run fun op h => hops op (List.mem_append_left _ h)
  have htakesMore : dragged.state.Takes (dragged.state.samples more) released :=
    dragged.state.takes_run fun op h => hops op (List.mem_append_right _ h)
  rw [hsamples] at htakes
  rw [hmore] at htakesMore
  obtain ⟨hdrag, heffects⟩ :=
    Scene.dragging_steps hok hidle hprev hfocus hvis hbar hheld
  rw [← htakes.scene] at hdrag
  have hfind := hdrag.find? hw
  obtain ⟨hgesture, hkept, hclick⟩ := hdrag.release dragged.state.config
    (hd.run ops).ok.stack hw hwok rfl release.position hup
  have hcorner := Window.corner_le_of_inTitlebar hbar
  obtain ⟨hx, hy⟩ := Window.corner_placed hcorner engaged last.position
  have hreleased : released.state.toScene =
      (dragged.state.toScene.step dragged.state.config release.position release.buttons).state :=
    htakesMore.scene
  have hmem : release ∈ dragged.state.samples more := by
    rw [hmore]
    exact List.mem_singleton.2 rfl
  have hr := nonneg_samples hmem
  -- the press is not left of or above the corner, so the corner's coordinates are signed words
  have hltx := press.position.x.toInt_lt
  have hlty := press.position.y.toInt_lt
  obtain ⟨hcx, hcy⟩ := Point.toInt_relativeTo (r := w.rect) hr.1 hr.2 (by omega) (by omega)
  refine ⟨⟨_, hfind, w.placed_eq _ _, hx, hy⟩, fun id hid => ?_, ?_, ?_, ?_, fun id => ?_, ?_, _,
    hcx, hcy, ?_⟩
  · rw [hdrag.stack]
    refine Stack.find?_put_ne ?_
    rw [w.id_placed]
    exact hid
  · rw [hdrag.stack]
    rfl
  · rw [hdrag.stack]
    exact Stack.ids_put _ _
  · exact htakes.delivers.trans (congrArg deliveries heffects)
  · rw [hreleased]
    exact hkept id
  · rw [hreleased]
    exact hgesture
  · rw [htakesMore.delivers]
    show deliveries (_ ++ []) = _
    rw [List.append_nil, hclick]
    show deliveries (if engaged then [] else _) = _
    cases engaged with
    | true => rfl
    | false => cases w.sinks.get? .mouseButton <;> rfl

/-- A window with a sink for buttons is dragged beyond the left edge of the screen and stays there. -/
theorem Desktop.whole_drag_to_edge :
    let d := ((start {} {} .software (.upTo 4194304)).state.run
      [.create "w" ⟨6, 2⟩ .titled, .setSink ⟨1⟩ (.mouseButton "click")]).state
    let ops := [.pointTo ⟨105, 101⟩ .left, .pointTo ⟨107, 101⟩ .left, .pointTo ⟨2, 200⟩ ⟨3⟩]
    let more := [.pointTo ⟨50, 50⟩ .none]
    let dragged := d.run ops
    let released := dragged.state.run more
    d.tracker.gesture = .idle ∧ d.stack.focused = some ⟨1⟩ ∧
      (∃ v, dragged.state.stack.find? ⟨1⟩ = some v ∧ v.rect.left = 0 ∧ v.rect.top = 199) ∧
      released.state.tracker.gesture = .idle ∧ deliveries released.effects = [] := by
  intro d ops more dragged released
  let w : Window :=
    { id := ⟨1⟩, title := "w", rect := ⟨100, 100, 6, 2⟩, flags := ⟨12⟩, minimum := ⟨6, 2⟩
      background := d.theme.windowBackground, surface := .filled ⟨6, 2⟩ d.theme.windowBackground
      sinks := .set {} (.mouseButton "click") }
  have hd : d.Reachable := (Reachable.start {} {} .software (.upTo 4194304)).run _
  have hidle : d.tracker.gesture = .idle := by decide +kernel
  have hfocus : d.stack.focusedWindow? = some w := by decide +kernel
  have hsamples : d.samples ops = ⟨⟨105, 101⟩, .left, ⟨400, 300⟩⟩ ::
      [⟨⟨107, 101⟩, .left, ⟨105, 101⟩⟩, ⟨⟨2, 200⟩, ⟨3⟩, ⟨107, 101⟩⟩] := by decide +kernel
  have hmore : dragged.state.samples more = [⟨⟨50, 50⟩, .none, ⟨2, 200⟩⟩] := by decide +kernel
  obtain ⟨⟨v, hv, -, hx, hy⟩, -, -, -, -, -, hreleased, c, -, -, hclick⟩ :=
    whole_drag hd hidle (by decide +kernel) hfocus (by decide +kernel) (by decide +kernel)
      (by decide +kernel) (by decide +kernel) (by decide) hsamples hmore
  exact ⟨hidle, by decide +kernel,
    ⟨v, hv, hx.trans (by decide +kernel), hy.trans (by decide +kernel)⟩, hreleased,
    hclick.trans (if_pos (by decide +kernel))⟩

end PointerDesktop
