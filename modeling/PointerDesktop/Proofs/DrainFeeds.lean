import PointerDesktop.Desktop.Operation

/-!
# A drain feeds bytes

`Desktop.drain_eq`: a drain of the pointer port does what feeding the source's bytes one by one
does, up to the first time that the source is dry or to the end of the budget; at the end of the
budget it also drops the packet under way.
-/

namespace PointerDesktop
namespace Desktop

/-- The bytes that a source answers to being asked at most `budget` times from place `asked` on, up
to the first time that it is dry. -/
def answers (source : Nat → Option UInt8) : (budget asked : Nat) → List UInt8
  | 0, _ => []
  | budget + 1, asked =>
    match source asked with
    | none => []
    | some byte => byte :: answers source budget (asked + 1)

/-- Feeds bytes from the first to the last. -/
def feedAll (d : Desktop) (bytes : List UInt8) : Traced Desktop :=
  d.run (bytes.map .feed)

/-- Drops the packet under way. -/
def resync (d : Desktop) : Desktop := { d with mouse := d.mouse.resync }

variable {d : Desktop} {source : Nat → Option UInt8}

theorem feedAll_cons (d : Desktop) (byte : UInt8) (bytes : List UInt8) :
    d.feedAll (byte :: bytes) =
      { state := ((d.feed byte).state.feedAll bytes).state
        effects := (d.feed byte).effects ++ ((d.feed byte).state.feedAll bytes).effects } := rfl

theorem feedAll_append (d : Desktop) (bytes more : List UInt8) :
    d.feedAll (bytes ++ more) =
      { state := ((d.feedAll bytes).state.feedAll more).state
        effects := (d.feedAll bytes).effects ++ ((d.feedAll bytes).state.feedAll more).effects } := by
  induction bytes generalizing d with
  | nil => rfl
  | cons byte bytes ih => simp only [List.cons_append, feedAll_cons, ih, List.append_assoc]

/-- A drain that has taken `taken` bytes, asked `asked` times and seen `effects` goes on by feeding
what its source still answers. -/
theorem drainFrom_eq (source : Nat → Option UInt8) (budget taken : Nat) (d : Desktop) (asked : Nat)
    (effects : List Effect) :
    drainFrom (fun state : Nat × List Effect => (source state.1, (state.1 + 1, state.2)))
      (fun effects state => (state.1, state.2 ++ effects)) budget taken d (asked, effects) =
    let bytes := answers source budget asked
    let fed := d.feedAll bytes
    if bytes.length = budget then
      (taken + budget, fed.state.resync, asked + budget,
        effects ++ fed.effects ++ [.log (.pointerPortBusy (taken + budget))])
    else
      (taken + bytes.length, fed.state, asked + bytes.length + 1, effects ++ fed.effects) := by
  induction budget generalizing taken d asked effects with
  | zero => simp [drainFrom, answers, feedAll, run, resync]
  | succ budget ih =>
    unfold drainFrom answers
    dsimp only
    cases h : source asked with
    | none => simp [feedAll, run]
    | some byte =>
      dsimp only
      rw [ih, feedAll_cons]
      dsimp only
      rw [List.length_cons]
      by_cases hlen : (answers source budget (asked + 1)).length = budget
      · rw [if_pos hlen, if_pos (by rw [hlen])]
        simp only [Prod.mk.injEq, List.append_assoc, true_and]
        refine ⟨by omega, by omega, ?_⟩
        rw [show taken + 1 + budget = taken + (budget + 1) by omega]
      · rw [if_neg hlen, if_neg (by omega)]
        simp only [Prod.mk.injEq, List.append_assoc, true_and, and_true]
        exact ⟨by omega, by omega⟩

theorem drain_eq (d : Desktop) (source : Nat → Option UInt8) :
    d.drain source =
      let bytes := answers source drainBudget 0
      let fed := d.feedAll bytes
      if bytes.length = drainBudget then
        { state := fed.state.resync
          effects := fed.effects ++ [.log (.pointerPortBusy drainBudget)]
          result := ⟨drainBudget, drainBudget⟩ }
      else
        { state := fed.state
          effects := fed.effects
          result := ⟨bytes.length, bytes.length + 1⟩ } := by
  unfold drain
  dsimp only
  rw [drainFrom_eq]
  dsimp only
  split <;> simp

end Desktop
end PointerDesktop
