import PointerDesktop.Proofs.GestureInv

/-!
# Focus follows the pointer

A sample leaves a gesture under way, and then order and focus are what they were, or it leaves none,
and then the window under the pointer comes to the top and gets the focus. A press may have raised
that window already; raising it again changes nothing. `Scene.Settles` lists the cases. Main
statement: `Desktop.focus_follows_pointer`.
-/

namespace PointerDesktop
namespace Stack

/-- `Scene.raiseAt` for the stack alone. -/
def raiseAt (s : Stack) (p : Point) : Stack :=
  match s.topmostAt? p with
  | none => s
  | some id => if s.focused = some id then s else s.raise id

/-- `s'` has the order and the focus of `s`, and `p` hits the same window. -/
structure SameAt (p : Point) (s s' : Stack) : Prop where
  ids : s'.ids = s.ids
  focused : s'.focused = s.focused
  hit : s'.topmostAt? p = s.topmostAt? p

theorem SameAt.refl (p : Point) (s : Stack) : SameAt p s s := ⟨rfl, rfl, rfl⟩

/-- The window under `p`, if there is one, is on top in `s'` and has the focus; apart from that the
order and the focus are those of `s`. -/
def Follows (p : Point) (s s' : Stack) : Prop :=
  match s.topmostAt? p with
  | none => s'.focused = s.focused ∧ s'.ids = s.ids
  | some id =>
    s'.focused = some id ∧ s'.ids = s.ids.erase id ++ [id] ∧ s'.topmostAt? p = some id

variable {s s' : Stack} {p : Point} {id : WindowId}

theorem erase_concat_last {l : List WindowId} (hl : l.Nodup) (h : l.getLast? = some id) :
    l.erase id ++ [id] = l := by
  obtain ⟨l, rfl⟩ := List.getLast?_eq_some_iff.1 h
  rw [List.erase_append_right _ fun hm => (List.disjoint_of_nodup_append hl) hm (by simp)]
  simp

namespace Ok

theorem follows_raiseAt (h : s.Ok) (p : Point) : s.Follows p (s.raiseAt p) := by
  unfold Follows raiseAt
  cases hhit : s.topmostAt? p with
  | none => exact ⟨rfl, rfl⟩
  | some id =>
    dsimp only
    split
    · next hf =>
      have htop := h.top id hf
      rw [topmost?_eq] at htop
      exact ⟨hf, (erase_concat_last h.nodup htop).symm, hhit⟩
    · obtain ⟨w, hw, rfl, -⟩ := topmostAt?_eq_some hhit
      have hfind := find?_of_mem h.nodup hw
      exact ⟨focused_raise hfind, ids_raise hfind, topmostAt?_raise h.nodup hhit⟩

theorem sameAt_notify (h : s.Ok) (id : WindowId) (event : WindowEvent) (p : Point) :
    SameAt p s (s.notify id event).state :=
  ⟨ids_notify .., focused_notify .., topmostAt?_notify h.nodup id event⟩

end Ok

/-- After the window under the pointer has come to the top, raising it again changes nothing. -/
theorem raiseAt_raiseAt (h : s.Ok) (p : Point) : (s.raiseAt p).raiseAt p = s.raiseAt p := by
  have hfollows := h.follows_raiseAt p
  unfold Follows at hfollows
  cases hhit : s.topmostAt? p with
  | none =>
    have hself : s.raiseAt p = s := by
      unfold raiseAt
      rw [hhit]
    rw [hself, hself]
  | some id =>
    rw [hhit] at hfollows
    obtain ⟨hf, -, htop⟩ := hfollows
    generalize s.raiseAt p = t at *
    unfold raiseAt
    rw [htop]
    exact if_pos hf

theorem SameAt.follows (h : SameAt p s s') (hs' : s'.Ok) : s.Follows p (s'.raiseAt p) := by
  have hfollows := hs'.follows_raiseAt p
  unfold Follows at *
  rwa [h.hit, h.ids, h.focused] at hfollows

end Stack

theorem Window.isIdle_grab? {w : Window} {config : Config} {p : Point} {g : Gesture}
    (h : w.grab? config p = some g) : g.isIdle = false := by
  unfold grab? at h
  split at h
  · cases h
  split at h
  · cases h
    rfl
  · dsimp only at h
    split at h
    · cases h
    · cases h
      rfl

theorem Scene.stack_raiseAt (s : Scene) (p : Point) :
    (s.raiseAt p).stack = s.stack.raiseAt p := by
  unfold raiseAt Stack.raiseAt
  cases s.stack.topmostAt? p with
  | none => rfl
  | some id =>
    dsimp only
    split <;> rfl

/-- A gesture is under way in `t`, and order and focus are those of `s`; or none is, and `p` hits what
it hit; or none is, and what `p` hits has been raised. -/
inductive Scene.Settles (p : Point) (s : Stack) (t : Scene) : Prop where
  | busy (hbusy : t.tracker.gesture.isIdle = false) (hids : t.stack.ids = s.ids)
      (hf : t.stack.focused = s.focused)
  | same (hidle : t.tracker.gesture = .idle) (h : s.SameAt p t.stack)
  | raised (hidle : t.tracker.gesture = .idle) (h : t.stack = s.raiseAt p)

namespace Scene
variable {s : Scene} {t : Traced Scene} {config : Config} {p : Point} {buttons : Buttons}

theorem Acts.settles (h : Acts config p s t) (hs : s.stack.Ok) : Settles p s.stack t.state := by
  cases h with
  | rest =>
    cases hg : s.tracker.gesture with
    | idle => exact .same hg (.refl p _)
    | dragging d => exact .busy (by rw [hg]; rfl) rfl rfl
    | resizing d => exact .busy (by rw [hg]; rfl) rfl rfl
  | grab _ _ hg => exact .busy (Window.isIdle_grab? hg) rfl rfl
  | raise hidle => exact .raised (by rw [tracker_raiseAt, hidle]) (s.stack_raiseAt p)
  | click _ hidle _ _ _ => exact .same hidle (hs.sameAt_notify _ _ p)
  | hover _ hidle _ _ => exact .same hidle (hs.sameAt_notify _ _ p)
  | drag _ _ => exact .busy rfl (Stack.ids_put _ _) rfl
  | refuse _ _ => exact .busy rfl rfl rfl
  | pull _ _ _ _ _ _ => exact .busy rfl (Stack.ids_put _ _) rfl
  | pullTell _ _ _ _ _ =>
    exact .busy rfl ((Stack.ids_notify ..).trans (Stack.ids_put _ _)) (Stack.focused_notify ..)
  | drop => exact .same rfl (.refl p _)
  | release _ _ _ => exact .same rfl (hs.sameAt_notify _ _ p)

/-- With a gesture under way after a sample, order and focus are frozen; else they follow the
pointer. -/
theorem Ok.step_follows (h : s.Ok) (config : Config) (p : Point) (buttons : Buttons) :
    let after := (s.step config p buttons).state
    if after.tracker.gesture.isIdle then s.stack.Follows p after.stack
    else after.stack.focused = s.stack.focused ∧ after.stack.ids = s.stack.ids := by
  intro after
  have hok := (h.act config p buttons).stack
  have hsettles : Settles p s.stack (s.act config p buttons).state :=
    (acts_act (s := s)).settles h.stack
  cases hsettles with
  | busy hbusy hids hf =>
    have hafter : after = (s.act config p buttons).state := by
      show (s.step config p buttons).state = _
      rw [step_of_busy hbusy]
    rw [hafter, hbusy]
    exact ⟨hf, hids⟩
  | same hidle hsame =>
    have hafter : after = (s.act config p buttons).state.raiseAt p := by
      show (s.step config p buttons).state = _
      rw [step_of_idle hidle]
    rw [hafter, tracker_raiseAt, stack_raiseAt, hidle]
    exact hsame.follows hok
  | raised hidle hraised =>
    -- the press has raised the window under the pointer already
    have hafter : after = (s.act config p buttons).state.raiseAt p := by
      show (s.step config p buttons).state = _
      rw [step_of_idle hidle]
    rw [hafter, tracker_raiseAt, stack_raiseAt, hidle, hraised, Stack.raiseAt_raiseAt h.stack]
    exact h.stack.follows_raiseAt p

end Scene

/-- A sample, from whichever port, that finds or starts a gesture and does not end it leaves order
and focus as they are. After any other sample the window under the pointer, if there is one, is the
topmost one and has the focus; the pointer still hits it, and the order of the other windows is what
it was. -/
theorem Desktop.focus_follows_pointer {d : Desktop} (hd : d.Reachable) {ops : List Operation}
    (hops : ∀ op ∈ ops, op.isPointer = true) {q : Sample} (hq : d.samples ops = [q]) :
    let after := (d.run ops).state
    if after.tracker.gesture.isIdle then
      match d.stack.topmostAt? q.position with
      | none => after.stack.focused = d.stack.focused ∧ after.stack.ids = d.stack.ids
      | some id =>
        after.stack.focused = some id ∧ after.stack.ids = d.stack.ids.erase id ++ [id] ∧
          after.stack.topmostAt? q.position = some id
    else after.stack.focused = d.stack.focused ∧ after.stack.ids = d.stack.ids := by
  intro after
  have hscene : after.toScene = (d.toScene.step d.config q.position q.buttons).state := by
    have htakes := (d.takes_run hops).scene
    rw [hq] at htakes
    exact htakes
  have hfollows := hd.ok.step_follows d.config q.position q.buttons
  rw [← hscene] at hfollows
  exact hfollows

/-- The pointer comes to the lower of two windows, which is then the upper one. -/
theorem Desktop.focus_follows_pointer_to_lower :
    let d := ((start {} {} .software (.upTo 4194304)).state.run
      [.create "lower" ⟨4, 4⟩ .titled, .create "upper" ⟨4, 4⟩ .titled,
        .setPosition ⟨2⟩ 0 0]).state
    let ops := [.pointTo ⟨101, 102⟩ .right]
    let after := (d.run ops).state
    (∀ op ∈ ops, op.isPointer = true) ∧
      d.samples ops = [⟨⟨101, 102⟩, .right, ⟨400, 300⟩⟩] ∧
      d.stack.focused = some ⟨2⟩ ∧ d.stack.ids = [⟨1⟩, ⟨2⟩] ∧
      after.stack.focused = some ⟨1⟩ ∧ after.stack.ids = [⟨2⟩, ⟨1⟩] := by
  intro d ops after
  have hpointer : ∀ op ∈ ops, op.isPointer = true := by decide
  have hsamples : d.samples ops = [⟨⟨101, 102⟩, .right, ⟨400, 300⟩⟩] := by decide +kernel
  have hids : d.stack.ids = [⟨1⟩, ⟨2⟩] := by decide +kernel
  have hhit : d.stack.topmostAt? ⟨101, 102⟩ = some ⟨1⟩ := by decide +kernel
  have hidle : after.tracker.gesture.isIdle = true := by decide +kernel
  have hd : d.Reachable := (Reachable.start {} {} .software (.upTo 4194304)).run _
  have hafter := focus_follows_pointer hd hpointer hsamples
  rw [if_pos hidle, hhit, hids] at hafter
  exact ⟨hpointer, hsamples, by decide +kernel, hids, hafter.1, hafter.2.1⟩

end PointerDesktop
