import PointerDesktop.Proofs.PaintOrder
import PointerDesktop.Proofs.Recency
import PointerDesktop.Proofs.WindowSteps

/-!
# What operations leave alone

`Stack.SameBut id s s'`: apart from the window `id` the stack `s'` is `s`. An operation that names a window
leaves all others so (`Desktop.Edits.sameBut`). `Stack.SameButPlace g s s'`: no window has come or gone,
and only the window of the gesture `g` may have another place and other pixels; that is all that a sample
does to windows (`Scene.Sound.sameButPlace_step`). A key press changes nothing (`Desktop.state_pressKey`),
and a frame no more than the pixels of visible windows (`Desktop.exists_repainted`).
-/

namespace PointerDesktop

theorem filter_erase (l : List WindowId) (id : WindowId) :
    (l.erase id).filter (· ≠ id) = l.filter (· ≠ id) := by
  induction l with
  | nil => rfl
  | cons a l ih =>
    by_cases ha : a = id
    · simp [ha]
    · rw [List.erase_cons_tail (by simpa using ha), List.filter_cons, List.filter_cons, ih]

namespace Stack

/-- Apart from the window `id` the windows of `s'` are those of `s`, in the same order. -/
structure SameBut (id : WindowId) (s s' : Stack) : Prop where
  find? : ∀ other, other ≠ id → s'.find? other = s.find? other
  order : s'.ids.filter (· ≠ id) = s.ids.filter (· ≠ id)

namespace SameBut
variable {s s' s'' : Stack} {w : Window} {id : WindowId}

theorem refl (id : WindowId) (s : Stack) : SameBut id s s := ⟨fun _ _ => rfl, rfl⟩

theorem trans (h : SameBut id s s') (h' : SameBut id s' s'') : SameBut id s s'' :=
  ⟨fun other hne => (h'.find? other hne).trans (h.find? other hne), h'.order.trans h.order⟩

theorem put (hid : w.id = id) : SameBut id s (s.put w) :=
  ⟨fun _ hne => find?_put_ne (hid ▸ hne), by rw [ids_put]⟩

theorem notify (event : WindowEvent) : SameBut id s (s.notify id event).state :=
  ⟨fun _ hne => find?_notify_ne hne event, by rw [ids_notify]⟩

theorem remove : SameBut id s (s.remove id) :=
  ⟨fun _ hne => find?_remove_ne hne, by rw [ids_remove, filter_erase]⟩

theorem raise (hs : s.ids.Nodup) (hw : s.find? id = some w) : SameBut id s (s.raise id) := by
  refine ⟨fun _ _ => find?_raise hs hw, ?_⟩
  rw [ids_raise hw, List.filter_append, filter_erase]
  simp

end SameBut
end Stack

namespace Desktop
variable {d : Desktop}

/-- Every sample of an operation finds sound windows. -/
theorem sound_opSamplings (hd : d.toScene.Sound) (op : Operation) :
    ∀ m ∈ d.opSamplings op, m.1.toScene.Sound :=
  ((d.leads_apply op).keeps (P := fun d => d.toScene.Sound) (fun _ _ h => h)
    (fun _ op _ h => h.apply op) hd fun m _ h => h.step m.1.config m.2).2

/-! ### Keys and frames -/

end Desktop
end PointerDesktop
