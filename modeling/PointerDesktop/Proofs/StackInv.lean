import PointerDesktop.Proofs.StackOrder

/-!
# The order of the stack is sound

`Stack.Ok`: no id occurs twice, every id has been given out, and the window with the focus is the
top one. Hit-testing and gestures look at the focused window only; that it cannot be covered rests
on the last part.
-/

namespace PointerDesktop
namespace Stack

structure Ok (s : Stack) : Prop where
  nodup : s.ids.Nodup
  next : 1 ≤ s.nextId.toNat
  given : ∀ id ∈ s.ids, 1 ≤ id.number.toNat ∧ id.number.toNat < s.nextId.toNat
  top : ∀ id, s.focused = some id → s.topmost? = some id

namespace Ok
variable {s s' : Stack} {w : Window} {id : WindowId} {p : Point}

theorem empty : Ok {} :=
  ⟨List.nodup_nil, Nat.le_refl 1, fun _ h => absurd h List.not_mem_nil, fun _ h => by cases h⟩

/-- What leaves ids, focus and the next id alone keeps the order sound. -/
theorem of_ids (h : s.Ok) (hi : s'.ids = s.ids) (hf : s'.focused = s.focused)
    (hn : s'.nextId = s.nextId) : s'.Ok := by
  refine ⟨?_, ?_, ?_, ?_⟩ <;> simp only [topmost?_eq, hi, hf, hn]
  · exact h.nodup
  · exact h.next
  · exact h.given
  · simpa only [topmost?_eq] using h.top

theorem put (h : s.Ok) (w : Window) : (s.put w).Ok :=
  h.of_ids (ids_put s w) rfl rfl

theorem notify (h : s.Ok) (id : WindowId) (event : WindowEvent) : (s.notify id event).state.Ok :=
  h.of_ids (ids_notify ..) (focused_notify ..) (nextId_notify ..)

theorem unfocus (h : s.Ok) : s.unfocus.Ok :=
  ⟨h.nodup, h.next, h.given, fun _ h' => by cases h'⟩

/-- The last of a list stays last when something else is taken out. -/
theorem getLast?_erase {l : List WindowId} {a b : WindowId} (hl : l.getLast? = some b)
    (hab : b ≠ a) : (l.erase a).getLast? = some b := by
  obtain ⟨l, rfl⟩ := List.getLast?_eq_some_iff.1 hl
  by_cases ha : a ∈ l
  · rw [List.erase_append_left _ ha, List.getLast?_concat]
  · have hb : [b].erase a = [b] := by simp [hab]
    rw [List.erase_append_right _ ha, hb, List.getLast?_concat]

theorem remove (h : s.Ok) (id : WindowId) : (s.remove id).Ok := by
  refine ⟨?_, h.next, ?_, ?_⟩
  · rw [ids_remove]
    exact h.nodup.erase id
  · intro id' hid'
    rw [ids_remove] at hid'
    exact h.given id' (List.mem_of_mem_erase hid')
  · intro id' hf
    have hf' : (if s.focused = some id then none else s.focused) = some id' := hf
    split at hf'
    · cases hf'
    · next hne =>
      have htop := h.top id' hf'
      rw [topmost?_eq] at htop ⊢
      rw [ids_remove]
      exact getLast?_erase htop fun he => hne (he ▸ hf')

theorem raise (h : s.Ok) (id : WindowId) : (s.raise id).Ok := by
  cases hw : s.find? id with
  | none =>
    rw [raise_of_none hw]
    exact h
  | some w =>
    have hids := ids_raise hw
    have hmem : id ∈ s.ids := mem_ids.2 ⟨w, hw⟩
    refine ⟨?_, ?_, ?_, ?_⟩
    · rw [hids]
      exact (List.perm_append_comm.trans (List.perm_cons_erase hmem).symm).nodup_iff.2 h.nodup
    · rw [raise_eq hw]
      exact h.next
    · intro id' hid'
      rw [hids, List.mem_append, List.mem_singleton] at hid'
      rw [show (s.raise id).nextId = s.nextId by rw [raise_eq hw]]
      rcases hid' with hid' | rfl
      · exact h.given id' (List.mem_of_mem_erase hid')
      · exact h.given id' hmem
    · intro id' hf
      rw [focused_raise hw] at hf
      rw [topmost?_eq, hids, List.getLast?_concat]
      exact hf

theorem create (h : s.Ok) (title : String) (size : Size) (flags : Flags) (config : Config)
    (background : Color) (heap : Heap) :
    (s.create title size flags config background heap).state.1.Ok := by
  rcases s.create_cases title size flags config background heap with
    ⟨e, -, hstate⟩ | ⟨w, -, hid, hnext, -, hstate⟩
  · rw [hstate]
    exact h
  have hids : Stack.ids ⟨s.windows ++ [w], some ⟨s.nextId⟩, s.nextId + 1⟩ =
      s.ids ++ [⟨s.nextId⟩] := by
    simp [ids, hid]
  rw [hstate]
  refine ⟨?_, ?_, ?_, ?_⟩
  · rw [hids, List.nodup_append_comm, List.singleton_append, List.nodup_cons]
    exact ⟨fun hm => Nat.lt_irrefl _ (h.given _ hm).2, h.nodup⟩
  · show 1 ≤ (s.nextId + 1).toNat
    omega
  · intro id hm
    show 1 ≤ id.number.toNat ∧ id.number.toNat < (s.nextId + 1).toNat
    rw [hids, List.mem_append, List.mem_singleton] at hm
    rcases hm with hm | rfl
    · have := h.given id hm
      omega
    · have := h.next
      show 1 ≤ s.nextId.toNat ∧ s.nextId.toNat < (s.nextId + 1).toNat
      omega
  · intro id hf
    rw [topmost?_eq, hids, List.getLast?_concat]
    exact hf

theorem paint (h : s.Ok) (display : Display) (theme : Theme) (config : Config) (cursor : Point) :
    (s.paint display theme config cursor).state.Ok :=
  h.of_ids (ids_paint ..) rfl rfl

end Ok
end Stack
end PointerDesktop
