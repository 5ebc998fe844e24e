import PointerDesktop.Proofs.WholeDrag
import PointerDesktop.Proofs.WholeResize

/-!
# Clicks and drags

`clicks es`: the button events that clients are handed among the effects `es`. A gesture of either
kind hands out one at its release if no held sample has engaged it, and none otherwise
(`Scene.underway_steps`). The release itself does not engage a gesture, however far it is from the
press. Main statement: `Desktop.click_unless_held_far`.
-/

namespace PointerDesktop

/-- A client is handed a button event. -/
def Effect.isClick : Effect → Bool
  | .deliver _ _ event _ => event.kind = .mouseButton
  | _ => false

def clicks (effects : List Effect) : List Effect := effects.filter (·.isClick)

@[simp] theorem clicks_append (es fs : List Effect) : clicks (es ++ fs) = clicks es ++ clicks fs :=
  List.filter_append ..

theorem clicks_deliveries (es : List Effect) : clicks (deliveries es) = clicks es := by
  unfold clicks deliveries
  rw [List.filter_filter]
  congr 1
  funext e
  cases e <;> simp [Effect.isClick, Effect.isDelivery]

namespace Window

theorem clicks_handed (w : Window) (event : WindowEvent) :
    clicks (w.handed event) = if event.kind = .mouseButton then w.handed event else [] := by
  unfold handed clicks
  cases w.sinks.get? event.kind with
  | none => simp
  | some sink => split <;> simp_all [Effect.isClick]

theorem clicks_announced (w v : Window) : clicks (w.announced v) = [] := by
  unfold announced
  split
  · rfl
  · rw [clicks_handed]
    rfl

end Window

namespace Scene

/-- A gesture on `w` that began on the stack `s₀` has `engaged` in the scene `s`, or else it has left
no trace, and its release will be a click. -/
structure Underway (s₀ : Stack) (w : Window) (engaged : Bool) (s : Scene) : Prop where
  stack : engaged = false → s.stack = s₀
  kept : ∀ (config : Config) (r : Point) (buttons : Buttons), buttons.contains .left = false →
    ∀ id, (s.step config r buttons).state.stack.find? id = s.stack.find? id
  release : ∀ (config : Config) (r : Point) (buttons : Buttons), buttons.contains .left = false →
    clicks (s.step config r buttons).effects =
      if engaged then [] else w.handed (.mouseButton (w.toLocal r) .left)

variable {s : Scene} {config : Config} {p : Point} {s₀ : Stack} {w : Window}

theorem Dragging.underway {g : Drag} (h : Dragging s₀ w g p s) (hs : s₀.Ok)
    (hw : s₀.find? w.id = some w) (hok : w.Ok) (hg : g.window = w.id) :
    Underway s₀ w g.engaged s := by
  have hput : s.stack.Ok := by
    rw [h.stack]
    exact hs.put _
  refine ⟨fun hclick => ?_, fun config r buttons hup => ?_, fun config r buttons hup => ?_⟩
  · rw [h.stack, Window.placed_of_click hclick, Stack.put_self hs.nodup hw]
  · exact (h.release config hput hw hok hg r hup).2.1
  · rw [(h.release config hput hw hok hg r hup).2.2]
    cases g.engaged with
    | true => rfl
    | false => exact w.clicks_handed (.mouseButton (w.toLocal r) .left)

theorem Resizing.underway {g : EdgeDrag} {u : Window × Heap} (h : Resizing s₀ w g u s)
    (hs : s₀.Ok) (hw : s₀.find? w.id = some w) (hg : g.window = w.id)
    (hu : g.engaged = false → u.1 = w) :
    Underway s₀ w g.engaged s := by
  have hput : s.stack.Ok := by
    rw [h.stack]
    exact hs.put _
  refine ⟨fun hclick => ?_, fun config r buttons hup => ?_, fun config r buttons hup => ?_⟩
  · rw [h.stack, hu hclick, Stack.put_self hs.nodup hw]
  · exact (h.release config hput hw hg r hup).2.1
  · rw [(h.release config hput hw hg r hup).2.2, Window.clicks_handed]
    cases hengaged : g.engaged with
    | true => rfl
    | false =>
      rw [hu hengaged]
      rfl

/-- A press that starts a gesture of either kind and samples with the left button down. -/
theorem underway_steps (hs : s.stack.Ok) (hok : ∀ w ∈ s.stack.windows, w.Ok)
    (hidle : s.tracker.gesture = .idle) {press : Sample} {held : List Sample}
    (hstart : (s.step config press.position press.buttons).state.tracker.gesture.isIdle = false)
    (hheld : ∀ q ∈ held, q.buttons.contains .left = true) :
    ∃ w, s.stack.focusedWindow? = some w ∧ clicks (s.steps config (press :: held)).effects = [] ∧
      Underway s.stack w (engagedAfter config false press.position held)
        (s.steps config (press :: held)).state := by
  cases hgesture : (s.step config press.position press.buttons).state.tracker.gesture with
  | idle =>
    rw [hgesture] at hstart
    cases hstart
  | dragging g =>
    obtain ⟨hleft, hprev, w, g', hfocus, hgrab, hstep⟩ := step_of_start hidle hstart
    rw [hstep] at hgesture
    have hg' : g' = .dragging g := hgesture
    rw [hg'] at hgrab
    obtain ⟨hvis, hbar, -⟩ := Window.of_grab?_dragging hgrab
    obtain ⟨-, hw⟩ := Stack.focusedWindow?_eq_some.1 hfocus
    obtain ⟨hdrag, heffects⟩ := dragging_steps hs hidle hprev hfocus hvis hbar
      (List.forall_mem_cons.2 ⟨hleft, hheld⟩)
    refine ⟨w, hfocus, ?_, hdrag.underway hs hw (hok w (Stack.mem_of_find? hw)) rfl⟩
    rw [heffects]
    rfl
  | resizing g =>
    obtain ⟨w, hfocus, hg, hsteps⟩ := resizing_steps hs hok hidle hgesture
    obtain ⟨-, hw⟩ := Stack.focusedWindow?_eq_some.1 hfocus
    obtain ⟨hdrag, hdelivers⟩ := hsteps held hheld
    have hunderway := hdrag.underway hs hw (by rw [hg])
      fun hclick => congrArg Prod.fst (Window.pulledBy_of_click hclick)
    refine ⟨w, hfocus, ?_, ?_⟩
    · -- what is delivered on the way are sizes
      rw [← clicks_deliveries, hdelivers]
      unfold clicks
      rw [List.filter_flatMap]
      exact List.flatMap_eq_nil_iff.2 fun j _ => Window.clicks_announced _ _
    · have hengaged : engagedAfter config g.engaged g.origin held =
          engagedAfter config false press.position held := by rw [hg]
      rw [← hengaged]
      exact hunderway

end Scene

/-- A gesture, from whichever ports its samples come, hands out one click, where it is released, if no
held sample has been `clickThreshold` away from the press, and then it leaves all windows as they
were; if one has, it hands out none. So a limit for all samples of the gesture would give the same
answer exactly if the release is near the press or not the first sample that is far from it. -/
theorem Desktop.click_unless_held_far {d : Desktop} (hd : d.Reachable)
    (hidle : d.tracker.gesture = .idle) {press release : Sample} {held : List Sample}
    (hstart : (d.takeSample press).state.tracker.gesture.isIdle = false)
    (hheld : ∀ q ∈ held, q.buttons.contains .left = true)
    (hup : release.buttons.contains .left = false) {ops more : List Operation}
    (hops : ∀ op ∈ ops ++ more, op.isPointer = true) (hsamples : d.samples ops = press :: held)
    (hmore : (d.run ops).state.samples more = [release]) :
    let far (q : Sample) : Bool :=
      d.config.clickThreshold.toNat ≤ q.position.distance press.position
    let moved := d.run ops
    let released := moved.state.run more
    ∃ w, d.stack.focusedWindow? = some w ∧ clicks moved.effects = [] ∧
      clicks released.effects =
        (if held.any far then [] else w.handed (.mouseButton (w.toLocal release.position) .left)) ∧
      (held.any far = false → ∀ id, released.state.stack.find? id = d.stack.find? id) ∧
      ((w.sinks.get? .mouseButton).isSome = true →
        ((clicks (moved.effects ++ released.effects)).length =
            (if (held ++ [release]).any far then 0 else 1) ↔
          (far release = true → held.any far = true))) := by
  intro far moved released
  have htakes : d.Takes (press :: held) moved := by
    rw [← hsamples]
    exact d.takes_run fun op h => hops op (List.mem_append_left _ h)
  have htakesMore : moved.state.Takes [release] released := by
    rw [← hmore]
    exact moved.state.takes_run fun op h => hops op (List.mem_append_right _ h)
  obtain ⟨w, hfocus, hquiet, hunderway⟩ :=
    Scene.underway_steps hd.ok.stack hd.window_ok hidle hstart hheld
  rw [← htakes.scene] at hunderway
  have hmoved : clicks moved.effects = [] := by
    rw [← clicks_deliveries, htakes.delivers, clicks_deliveries]
    exact hquiet
  have hreleased : clicks released.effects =
      if held.any far then []
      else w.handed (.mouseButton (w.toLocal release.position) .left) := by
    rw [← clicks_deliveries, htakesMore.delivers, clicks_deliveries]
    show clicks (_ ++ []) = _
    rw [List.append_nil]
    exact hunderway.release _ _ _ hup
  refine ⟨w, hfocus, hmoved, hreleased, fun hnear id => ?_, fun hsink => ?_⟩
  · rw [htakesMore.scene]
    refine (hunderway.kept _ _ _ hup id).trans ?_
    rw [hunderway.stack hnear]
  · have hone : (w.handed (.mouseButton (w.toLocal release.position) .left)).length = 1 := by
      obtain ⟨sink, hsink⟩ := Option.isSome_iff_exists.1 hsink
      have hget : w.sinks.get? .mouseButton = some sink := hsink
      unfold Window.handed WindowEvent.kind
      rw [hget]
      rfl
    rw [clicks_append, hmoved, List.nil_append, hreleased, List.any_append, List.any_cons,
      List.any_nil, Bool.or_false]
    cases held.any far with
    | true => simp
    | false => cases far release <;> simp [hone]

/-- Pressed on the title bar, held a little to the side and released there. -/
theorem Desktop.click_after_small_motion :
    let d := ((start {} {} .software (.upTo 4194304)).state.run
      [.create "w" ⟨6, 2⟩ .titled, .setSink ⟨1⟩ (.mouseButton "click")]).state
    let ops := [.pointTo ⟨102, 101⟩ .left, .pointTo ⟨104, 101⟩ .left]
    let more := [.pointTo ⟨104, 100⟩ .none]
    let moved := d.run ops
    let released := moved.state.run more
    d.tracker.gesture = .idle ∧ clicks moved.effects = [] ∧
      clicks released.effects =
        [.deliver (.mouseButton "click") ⟨1⟩ (.mouseButton ⟨4, 0⟩ .left) ⟨6, 2⟩] ∧
      ∀ id, released.state.stack.find? id = d.stack.find? id := by
  intro d ops more moved released
  let w : Window :=
    { id := ⟨1⟩, title := "w", rect := ⟨100, 100, 6, 2⟩, flags := ⟨12⟩, minimum := ⟨6, 2⟩
      background := d.theme.windowBackground, surface := .filled ⟨6, 2⟩ d.theme.windowBackground
      sinks := .set {} (.mouseButton "click") }
  let press : Sample := ⟨⟨102, 101⟩, .left, ⟨400, 300⟩⟩
  have hd : d.Reachable := (Reachable.start {} {} .software (.upTo 4194304)).run _
  have hidle : d.tracker.gesture = .idle := by decide +kernel
  have hfocus : d.stack.focusedWindow? = some w := by decide +kernel
  have hsamples : d.samples ops = press :: [⟨⟨104, 101⟩, .left, ⟨102, 101⟩⟩] := by decide +kernel
  have hmore : moved.state.samples more = [⟨⟨104, 100⟩, .none, ⟨104, 101⟩⟩] := by decide +kernel
  have hstart : (d.takeSample press).state.tracker.gesture.isIdle = false := by decide +kernel
  obtain ⟨w', hw', hmoved, hclick, hsame, -⟩ :=
    click_unless_held_far hd hidle hstart (by decide +kernel) (by decide +kernel) (by decide)
      hsamples hmore
  obtain rfl : w = w' := Option.some.inj (hfocus.symm.trans hw')
  refine ⟨hidle, hmoved, hclick.trans ?_, hsame (by decide +kernel)⟩
  rw [if_neg] <;> decide +kernel

/-- A release that carries the pointer away from the press is a click beside the window. -/
theorem Desktop.click_at_far_release :
    let d := ((start {} {} .software (.upTo 4194304)).state.run
      [.create "w" ⟨6, 2⟩ .titled, .setSink ⟨1⟩ (.mouseButton "click")]).state
    let press : Sample := ⟨⟨102, 101⟩, .left, ⟨400, 300⟩⟩
    let release : Sample := ⟨⟨202, 101⟩, .none, ⟨102, 101⟩⟩
    let gesture := [.pointTo ⟨102, 101⟩ .left, .pointTo ⟨202, 101⟩ .none]
    d.Reachable ∧ d.tracker.gesture = .idle ∧
      (d.takeSample press).state.tracker.gesture.isIdle = false ∧
      d.samples gesture = [press, release] ∧
      d.config.clickThreshold.toNat ≤ release.position.distance press.position ∧
      clicks (d.run gesture).effects =
        [.deliver (.mouseButton "click") ⟨1⟩ (.mouseButton ⟨102, 1⟩ .left) ⟨6, 2⟩] := by
  intro d press release gesture
  exact ⟨(Reachable.start {} {} .software (.upTo 4194304)).run _, by decide +kernel⟩

end PointerDesktop
