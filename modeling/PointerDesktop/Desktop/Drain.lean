import PointerDesktop.Desktop.Basic

/-! # Draining the pointer port

A drain takes bytes from a source until the source runs dry or the budget is spent. A source that
is still producing then is taken to be stuck, and the packet under way is dropped. -/

namespace PointerDesktop

namespace Desktop

/-- Most bytes taken in one drain. -/
def drainBudget : Nat := 32 * Packet.length

/-- Feeds bytes from `next` while the budget lasts. The source has a state of its own; `absorb`
hands it the effects of each byte. Returns the number of bytes taken. -/
def drainFrom {σ : Type} (next : σ → Option UInt8 × σ) (absorb : List Effect → σ → σ) :
    (budget : Nat) → (taken : Nat) → Desktop → σ → Nat × Desktop × σ
  | 0, taken, d, source =>
    (taken, { d with mouse := d.mouse.resync }, absorb [.log (.pointerPortBusy taken)] source)
  | budget + 1, taken, d, source =>
    match next source with
    | (none, source) => (taken, d, source)
    | (some byte, source) =>
      let fed := d.feed byte
      drainFrom next absorb budget (taken + 1) fed.state (absorb fed.effects source)

/-- What a drain reports: how many bytes it took, and how often it asked for one. -/
structure Drained where
  taken : Nat
  asked : Nat
deriving DecidableEq, Repr, Inhabited

/-- Drains a source that is given by its answers to being asked, one after the other. -/
def drain (d : Desktop) (source : Nat → Option UInt8) : Outcome Desktop Drained :=
  let next := fun (state : Nat × List Effect) => (source state.1, (state.1 + 1, state.2))
  let absorb := fun effects (state : Nat × List Effect) => (state.1, state.2 ++ effects)
  let (taken, d, asked, effects) := drainFrom next absorb drainBudget 0 d (0, [])
  { state := d, effects := effects, result := ⟨taken, asked⟩ }

end Desktop

end PointerDesktop
