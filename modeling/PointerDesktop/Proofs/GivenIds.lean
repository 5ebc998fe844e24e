import PointerDesktop.Proofs.Edits
import PointerDesktop.Proofs.SceneSteps

/-!
# Ids are given out once

The next id of a stack never goes back, whatever is asked of the desktop (`Desktop.nextId_le_apply`),
and a window that is opened gets it. So an id that has been given out is not given out again.
-/

namespace PointerDesktop

namespace Scene
variable {s : Scene} {config : Config} {p : Point}

@[simp] theorem nextId_raiseAt (s : Scene) (p : Point) :
    (s.raiseAt p).stack.nextId = s.stack.nextId := by
  unfold raiseAt
  split
  · rfl
  split
  · rfl
  · exact Stack.nextId_raise _ _

theorem Acts.nextId {t : Traced Scene} (h : Acts config p s t) :
    t.state.stack.nextId = s.stack.nextId := by
  cases h with
  | raise _ => exact s.nextId_raiseAt p
  | click _ _ _ _ _ => exact Stack.nextId_notify ..
  | hover _ _ _ _ => exact Stack.nextId_notify ..
  | pullTell _ _ _ _ _ => exact Stack.nextId_notify ..
  | release _ _ _ => exact Stack.nextId_notify ..
  | _ => rfl

theorem nextId_step (s : Scene) (config : Config) (p : Point) (buttons : Buttons) :
    (s.step config p buttons).state.stack.nextId = s.stack.nextId := by
  have hact : (s.act config p buttons).state.stack.nextId = s.stack.nextId :=
    (acts_act (s := s)).nextId
  unfold step
  dsimp only
  split <;> simp [hact]

theorem nextId_steps (s : Scene) (config : Config) (qs : List Sample) :
    (s.steps config qs).state.stack.nextId = s.stack.nextId := by
  induction qs generalizing s with
  | nil => rfl
  | cons q qs ih => exact (ih _).trans (s.nextId_step ..)

end Scene

namespace Desktop
variable {d : Desktop} {op : Operation}

theorem Edits.nextId_le {reply : Reply} {s' : Stack} {es : List Effect}
    (h : d.Edits op reply s' es) : d.stack.nextId.toNat ≤ s'.nextId.toNat := by
  cases h with
  | create _ hnext =>
    show _ ≤ (d.stack.nextId + 1).toNat
    omega
  | close _ =>
    show _ ≤ (d.stack.notify _ _).state.nextId.toNat
    rw [Stack.nextId_notify]
  | resizeTell _ _ _ _ =>
    rw [Stack.nextId_notify]
    exact Nat.le_refl _
  | focus _ => rw [Stack.nextId_raise]
  | pressKey _ => rw [Stack.nextId_notify]
  | _ => exact Nat.le_refl _

/-- The next id never goes back. -/
theorem nextId_le_apply (d : Desktop) (op : Operation) :
    d.stack.nextId.toNat ≤ (d.apply op).state.stack.nextId.toNat := by
  cases hop : op.isPointer with
  | false => exact (d.edits_apply hop).nextId_le
  | true =>
    rw [(d.takes_apply hop).scene, Scene.nextId_steps]

theorem nextId_le_run (d : Desktop) (ops : List Operation) :
    d.stack.nextId.toNat ≤ (d.run ops).state.stack.nextId.toNat := by
  induction ops generalizing d with
  | nil => exact Nat.le_refl _
  | cons op ops ih => exact Nat.le_trans (d.nextId_le_apply op) (ih _)

theorem Edits.created {id : WindowId} {s' : Stack} {es : List Effect}
    (h : d.Edits op (.created id) s' es) :
    id = ⟨d.stack.nextId⟩ ∧ id.number.toNat < s'.nextId.toNat ∧ id ∈ s'.ids := by
  cases h with
  | create hw hnext =>
    refine ⟨rfl, ?_, by simp [Stack.ids, Window.id_create hw]⟩
    show d.stack.nextId.toNat < (d.stack.nextId + 1).toNat
    omega

/-- A window that is opened gets the next id. -/
theorem created_apply (d : Desktop) {id : WindowId} (h : (d.apply op).result = .created id) :
    id = ⟨d.stack.nextId⟩ ∧ id.number.toNat < (d.apply op).state.stack.nextId.toNat ∧
      id ∈ (d.apply op).state.stack.ids := by
  cases hop : op.isPointer with
  | true =>
    -- pointer input opens nothing
    cases op <;> first | cases h | cases hop
  | false =>
    have hedits := d.edits_apply hop
    rw [h] at hedits
    exact hedits.created

end Desktop
end PointerDesktop
