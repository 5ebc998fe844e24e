import PointerDesktop.Proofs.WindowWrites

/-!
# What holds of every desktop that operations lead to

`Desktop.Reachable` is every desktop that operations lead to from one without windows. A property
holds of all of them if it holds at the start and is kept by each sample and by each operation that
is no pointer input (`Desktop.Reachable.ind`). So what every write keeps holds of every open window
(`Desktop.Reachable.windows`).
-/

namespace PointerDesktop
namespace Desktop

inductive Reachable : Desktop → Prop where
  | start (config : Config) (theme : Theme) (display : Display) (heap : Heap) :
      Reachable (start config theme display heap).state
  | apply {d : Desktop} (op : Operation) : Reachable d → Reachable (d.apply op).state

variable {d : Desktop} {P : Desktop → Prop}

namespace Reachable

theorem run (hd : d.Reachable) (ops : List Operation) : (d.run ops).state.Reachable := by
  induction ops generalizing d with
  | nil => exact hd
  | cons op ops ih => exact ih (hd.apply op)

/-- What holds at the start, and is kept by every sample, by every operation that is no pointer input
and by changes of the pointing device, holds of all of them. -/
theorem ind
    (hstart : ∀ config theme display heap, P (Desktop.start config theme display heap).state)
    (hmouse : ∀ d mouse, P d → P { d with mouse := mouse })
    (hop : ∀ d op, op.isPointer = false → P d → P (d.apply op).state)
    (hsample : ∀ d q, P d → P (d.takeSample q).state) (hd : d.Reachable) : P d := by
  induction hd with
  | start config theme display heap => exact hstart config theme display heap
  | apply op _ ih => exact ((leads_apply _ op).keeps hmouse hop ih fun m _ => hsample m.1 m.2).1

end Reachable

/-- What holds of new windows and is kept by every write holds of every open window. -/
theorem Reachable.windows {Q : Window → Prop}
    (hwrite : ∀ pull w w', Window.Write pull w w' → Q w → Q w')
    (hcreate : ∀ id title size flags config background heap w heap',
      Window.create id title size flags config background heap = (.ok w, heap') → Q w)
    (hd : d.Reachable) : ∀ w ∈ d.stack.windows, Q w := by
  have hwritten : ∀ pull w w', Window.Written pull w w' → Q w → Q w' := by
    intro pull w w' hw hq
    induction hw with
    | refl => exact hq
    | tail _ hstep ih => exact hwrite pull _ _ hstep ih
  have hstack : ∀ {pull s s'}, Stack.Written pull s s' → (∀ w ∈ s.windows, Q w) →
      ∀ w ∈ s'.windows, Q w := by
    intro pull s s' hs hq w' hw'
    obtain ⟨w, hw, hww'⟩ := hs w' hw'
    exact hwritten pull w w' hww' (hq w hw)
  refine hd.ind (P := fun d => ∀ w ∈ d.stack.windows, Q w) (fun _ _ _ _ w hw => ?_)
    (fun _ _ hq => hq) (fun d op hop hq w' hw' => ?_) fun d q hq => ?_
  · cases hw
  · rcases d.written_apply op hop hw' with
      ⟨w, hw, hww'⟩ | ⟨id, title, size, flags, heap, heap', hc⟩
    · exact hwritten none w w' hww' (hq w hw)
    · exact hcreate _ _ _ _ _ _ _ _ _ hc
  · exact hstack (d.written_takeSample q) hq

end Desktop
end PointerDesktop
