import Mathlib.Data.List.Range
import PointerDesktop.Proofs.StackInv

/-!
# Runs of requests to a stack

`Stack.requests s rs`: the stack that the requests `rs` lead to from `s`, and the ids of the windows
that they have opened, in order. A run numbers its windows one after the other from the stack's next
id on (`Stack.given_requests`), so no id is given out again, whatever is removed in between, and a
request that fails to open a window uses no id up. Main statement: `Stack.requests_sound`.
-/

namespace PointerDesktop
namespace Stack

/-- What a caller can ask of a stack. Each request for a window finds a heap of its own. -/
inductive Request where
  | create (title : String) (size : Size) (flags : Flags) (config : Config) (background : Color)
      (heap : Heap)
  | remove (window : WindowId)
  | promote (window : WindowId)
  | unfocus

/-- The stack after a request, and the window that the request has opened, if it has. -/
def request (s : Stack) : Request → Stack × Option WindowId
  | .create title size flags config background heap =>
    let created := s.create title size flags config background heap
    (created.state.1, created.result.toOption)
  | .remove id => (s.remove id, none)
  | .promote id =>
    match s.promote id with
    | .error _ => (s, none)
    | .ok s' => (s', none)
  | .unfocus => (s.unfocus, none)

def requests (s : Stack) : List Request → Stack × List WindowId
  | [] => (s, [])
  | r :: rs =>
    let (s', opened) := s.request r
    let (last, given) := s'.requests rs
    (last, opened.toList ++ given)

variable {s : Stack}

theorem requests_cons (s : Stack) (r : Request) (rs : List Request) :
    s.requests (r :: rs) =
      (((s.request r).1.requests rs).1,
        (s.request r).2.toList ++ ((s.request r).1.requests rs).2) := rfl

theorem request_promote (s : Stack) (id : WindowId) :
    s.request (.promote id) = (s.raise id, none) := by
  unfold request raise
  dsimp only
  cases s.promote id <;> rfl

theorem Ok.request (h : s.Ok) (r : Request) : (s.request r).1.Ok := by
  cases r with
  | create title size flags config background heap =>
    exact h.create title size flags config background heap
  | remove id => exact h.remove id
  | promote id =>
    rw [request_promote]
    exact h.raise id
  | unfocus => exact h.unfocus

theorem Ok.requests (h : s.Ok) (rs : List Request) : (s.requests rs).1.Ok := by
  induction rs generalizing s with
  | nil => exact h
  | cons r rs ih =>
    rw [requests_cons]
    exact ih (h.request r)

/-- The ids `given` are the next ones of `s`, and they and the ids of `s` are all that `s'` has. -/
structure Gives (s s' : Stack) (given : List WindowId) : Prop where
  numbers : given.map (·.number.toNat) = List.range' s.nextId.toNat given.length
  next : s'.nextId.toNat = s.nextId.toNat + given.length
  ids : ∀ id ∈ s'.ids, id ∈ s.ids ∨ id ∈ given

namespace Gives
variable {s' s'' : Stack} {given more : List WindowId}

theorem none (hn : s'.nextId = s.nextId) (hi : ∀ id ∈ s'.ids, id ∈ s.ids) : Gives s s' [] :=
  ⟨rfl, by simp [hn], fun id h => .inl (hi id h)⟩

theorem append (h : Gives s s' given) (h' : Gives s' s'' more) : Gives s s'' (given ++ more) := by
  refine ⟨?_, ?_, fun id hid => ?_⟩
  · rw [List.map_append, h.numbers, h'.numbers, h.next, List.range'_append_1, List.length_append]
  · rw [h'.next, h.next, List.length_append]
    omega
  · rcases h'.ids id hid with hid | hid
    · rcases h.ids id hid with hid | hid
      · exact .inl hid
      · exact .inr (List.mem_append_left _ hid)
    · exact .inr (List.mem_append_right _ hid)

theorem create (s : Stack) (title : String) (size : Size) (flags : Flags) (config : Config)
    (background : Color) (heap : Heap) :
    let created := s.create title size flags config background heap
    Gives s created.state.1 created.result.toOption.toList := by
  intro created
  rcases s.create_cases title size flags config background heap with
    ⟨e, hresult, hstate⟩ | ⟨w, -, hid, hnext, hresult, hstate⟩
  · show Gives s (s.create ..).state.1 (s.create ..).result.toOption.toList
    rw [hresult, hstate]
    exact none rfl fun _ h => h
  · show Gives s (s.create ..).state.1 (s.create ..).result.toOption.toList
    rw [hresult, hstate]
    refine ⟨rfl, hnext, fun id h => ?_⟩
    simpa [Stack.ids, hid, Except.toOption] using h

theorem raise (s : Stack) (id : WindowId) : Gives s (s.raise id) [] := by
  cases hw : s.find? id with
  | none =>
    rw [raise_of_none hw]
    exact none rfl fun _ h => h
  | some w =>
    refine none (by rw [raise_eq hw]) fun id' h => ?_
    rw [ids_raise hw, List.mem_append, List.mem_singleton] at h
    rcases h with h | rfl
    · exact List.mem_of_mem_erase h
    · exact mem_ids.2 ⟨w, hw⟩

theorem request (s : Stack) (r : Request) : Gives s (s.request r).1 (s.request r).2.toList := by
  cases r with
  | create title size flags config background heap =>
    exact create s title size flags config background heap
  | remove id =>
    refine none rfl fun id' h => ?_
    rw [show (s.request (.remove id)).1.ids = s.ids.erase id from ids_remove s id] at h
    exact List.mem_of_mem_erase h
  | promote id =>
    rw [request_promote]
    exact raise s id
  | unfocus => exact none rfl fun _ h => h

end Gives

theorem given_requests (s : Stack) (rs : List Request) :
    Gives s (s.requests rs).1 (s.requests rs).2 := by
  induction rs generalizing s with
  | nil => exact .none rfl fun _ h => h
  | cons r rs ih =>
    rw [requests_cons]
    exact (Gives.request s r).append (ih _)

/-- Whatever is asked of an empty stack, no id occurs twice in it, and the window with the focus is
open and on top. Windows are numbered 1, 2, 3 and so on in the order in which they were opened: the
ids that were ever given out grow, every open window has one of them, and the next one follows them. -/
theorem requests_sound (rs : List Request) :
    let s := (requests {} rs).1
    let given := (requests {} rs).2
    s.ids.Nodup ∧
      (∀ id ∈ s.ids, 1 ≤ id.number.toNat ∧ id.number.toNat < s.nextId.toNat ∧ id ∈ given) ∧
      given.Pairwise (·.number < ·.number) ∧
      given.map (·.number.toNat) = List.range' 1 given.length ∧
      s.nextId.toNat = 1 + given.length ∧
      ∀ id, s.focused = some id → id ∈ s.ids ∧ s.topmost? = some id := by
  intro s given
  have hok : s.Ok := Ok.empty.requests rs
  obtain ⟨hnumbers, hnext, hids⟩ : Gives {} s given := given_requests {} rs
  refine ⟨hok.nodup, fun id hid => ?_, ?_, hnumbers, hnext, fun id hf => ?_⟩
  · obtain ⟨hlow, hhigh⟩ := hok.given id hid
    exact ⟨hlow, hhigh, (hids id hid).resolve_left List.not_mem_nil⟩
  · have hrange : (given.map (·.number.toNat)).Pairwise (· < ·) := by
      rw [hnumbers]
      exact List.pairwise_lt_range'
    simpa only [List.pairwise_map, UInt32.lt_iff_toNat_lt] using hrange
  · have htop := hok.top id hf
    refine ⟨List.mem_of_getLast? ?_, htop⟩
    rw [← topmost?_eq]
    exact htop

end Stack
end PointerDesktop
