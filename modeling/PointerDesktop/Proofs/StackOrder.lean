import Mathlib.Data.List.Find
import Mathlib.Data.List.Nodup
import PointerDesktop.Frame

/-!
# The order of the stack

What each operation of the stack does to the ids from the bottom to the top, to the window that is
found under an id, and to the window that a point of the screen hits. `put` and `notify` leave the
order alone; `remove` and `raise` take one id out of it, and `raise` puts it back at the top.
-/

namespace PointerDesktop

theorem Surface.allocate_eq_ok {size : Size} {color : Color} {s : Surface} {heap heap' : Heap}
    (h : allocate size color heap = (.ok s, heap')) : s = filled size color := by
  unfold allocate at h
  split at h
  · cases h
    rfl
  · cases h

namespace Window

@[simp] theorem id_paint (w : Window) (display : Display) (theme : Theme) (config : Config)
    (focused : Bool) : (w.paint display theme config focused).state.id = w.id := by
  unfold paint
  split <;> rfl

@[simp] theorem rect_paint (w : Window) (display : Display) (theme : Theme) (config : Config)
    (focused : Bool) : (w.paint display theme config focused).state.rect = w.rect := by
  unfold paint
  split <;> rfl

@[simp] theorem flags_paint (w : Window) (display : Display) (theme : Theme) (config : Config)
    (focused : Bool) : (w.paint display theme config focused).state.flags = w.flags := by
  unfold paint
  split <;> rfl

section
variable {w w' : Window} {heap heap' : Heap}

/-- What a new window is. -/
theorem create_eq {id : WindowId} {title : String} {size : Size} {flags : Flags} {config : Config}
    {background : Color}
    (h : create id title size flags config background heap = (.ok w, heap')) :
    size.isEmpty = false ∧ w =
      { id := id
        title := title
        rect := ⟨config.originX, config.originY, size.width, size.height⟩
        flags := flags.union .visible
        minimum := config.minimum.min size
        background := background
        surface := .filled size background
        sinks := {} } := by
  unfold create copyTitle at h
  split at h
  · cases h
  next hsize =>
  split at h
  · cases h
  next hs =>
  split at h
  · cases h
  next copied =>
  split at copied
  · cases copied
    cases h
    rw [Surface.allocate_eq_ok hs]
    exact ⟨Bool.eq_false_iff.2 hsize, rfl⟩
  · cases copied

theorem id_create {id : WindowId} {title : String} {size : Size} {flags : Flags} {config : Config}
    {background : Color}
    (h : create id title size flags config background heap = (.ok w, heap')) : w.id = id := by
  rw [(create_eq h).2]

/-- A resize keeps the window, or gives it a new size and a fresh surface. -/
theorem resize_ok {size : Size} (h : w.resize size heap = (.ok w', heap')) :
    size.isEmpty = false ∧ (size = w.size ∧ w' = w ∨ size ≠ w.size ∧ w' = { w with
      rect := { w.rect with width := size.width, height := size.height }
      surface := .filled size w.background }) := by
  unfold resize at h
  split at h
  · cases h
  next hempty =>
  refine ⟨Bool.eq_false_iff.2 hempty, ?_⟩
  split at h
  · next hsize =>
    cases h
    exact .inl ⟨hsize, rfl⟩
  next hsize =>
  split at h
  · cases h
  · next hs =>
    cases h
    rw [Surface.allocate_eq_ok hs]
    exact .inr ⟨hsize, rfl⟩

/-- A resize replaces size and surface. -/
theorem resize_eq {size : Size} (h : w.resize size heap = (.ok w', heap')) :
    w' = { w with
      rect := { w.rect with width := size.width, height := size.height }
      surface := w'.surface } := by
  obtain ⟨-, ⟨rfl, rfl⟩ | ⟨-, rfl⟩⟩ := resize_ok h
  · rfl
  · rfl

theorem id_resize {size : Size} (h : w.resize size heap = (.ok w', heap')) : w'.id = w.id := by
  rw [resize_eq h]

theorem flags_resize {size : Size} (h : w.resize size heap = (.ok w', heap')) :
    w'.flags = w.flags := by
  rw [resize_eq h]

/-- Only the title can change, and it has been copied then. -/
theorem setTitle_eq {title : String} (h : w.setTitle title heap = (.ok w', heap')) :
    w' = { w with title := title } := by
  unfold setTitle copyTitle at h
  split at h
  · cases h
  · next copied =>
    split at copied
    · cases copied
      cases h
      rfl
    · cases copied

end

end Window

namespace Stack
variable {s : Stack} {v w : Window} {id id' : WindowId} {p : Point}

theorem id_of_find? (h : s.find? id = some w) : w.id = id := by
  simpa using List.find?_some h

theorem mem_of_find? (h : s.find? id = some w) : w ∈ s.windows :=
  List.mem_of_find?_eq_some h

theorem mem_ids : id ∈ s.ids ↔ ∃ w, s.find? id = some w := by
  unfold ids find?
  rw [← Option.isSome_iff_exists, List.find?_isSome]
  simp

theorem id_mem_ids (hw : w ∈ s.windows) : w.id ∈ s.ids :=
  List.mem_map_of_mem hw

/-- With no id twice, a window of the stack is the one found under its id. -/
theorem find?_of_mem (hs : s.ids.Nodup) (hw : w ∈ s.windows) : s.find? w.id = some w := by
  obtain ⟨v, hv⟩ := mem_ids.1 (id_mem_ids hw)
  have hvw : v = w := List.inj_on_of_nodup_map hs (mem_of_find? hv) hw (id_of_find? hv)
  rw [hv, hvw]

theorem topmost?_eq : s.topmost? = s.ids.getLast? := by
  simp [topmost?, ids]

theorem focusedWindow?_eq_some :
    s.focusedWindow? = some w ↔ s.focused = some w.id ∧ s.find? w.id = some w := by
  unfold focusedWindow?
  rw [Option.bind_eq_some_iff]
  constructor
  · rintro ⟨id, hid, hw⟩
    rw [id_of_find? hw]
    exact ⟨hid, hw⟩
  · rintro ⟨hid, hw⟩
    exact ⟨w.id, hid, hw⟩

/-! ### Replacing windows -/

/-- A change of the windows that keeps their ids keeps the order. -/
theorem ids_map (f : Window → Window) (hf : ∀ v ∈ s.windows, (f v).id = v.id) :
    Stack.ids { s with windows := s.windows.map f } = s.ids := by
  unfold ids
  rw [List.map_map]
  exact List.map_congr_left hf

theorem find?_map (f : Window → Window) (hf : ∀ v, (f v).id = v.id) :
    Stack.find? { s with windows := s.windows.map f } id = (s.find? id).map f := by
  unfold find?
  rw [List.find?_map]
  congr 2
  funext v
  simp [hf]

/-- A change of the windows that keeps ids, places and flags keeps what every point hits. -/
theorem topmostAt?_map (f : Window → Window)
    (hf : ∀ v ∈ s.windows, (f v).id = v.id ∧ (f v).rect = v.rect ∧ (f v).flags = v.flags) :
    Stack.topmostAt? { s with windows := s.windows.map f } p = s.topmostAt? p := by
  unfold topmostAt?
  have hhit : ∀ v ∈ s.windows.reverse,
      ((f v).isVisible && (f v).contains p) = (v.isVisible && v.contains p) := by
    intro v hv
    obtain ⟨-, hr, hl⟩ := hf v (List.mem_reverse.1 hv)
    simp only [Window.isVisible, Window.contains, hr, hl]
  rw [← List.map_reverse, List.find?_map, Option.map_map]
  have hfind : s.windows.reverse.find? ((fun w => w.isVisible && w.contains p) ∘ f) =
      s.windows.reverse.find? fun w => w.isVisible && w.contains p :=
    List.find?_congr hhit
  rw [hfind]
  cases h : s.windows.reverse.find? fun w => w.isVisible && w.contains p with
  | none => rfl
  | some w =>
    have hw := List.mem_reverse.1 (List.mem_of_find?_eq_some h)
    exact congrArg some (hf w hw).1

@[simp] theorem ids_put (s : Stack) (w : Window) : (s.put w).ids = s.ids := by
  apply ids_map
  intro v _
  split
  · next h => exact h.symm
  · rfl

theorem find?_put (s : Stack) (w : Window) (id : WindowId) :
    (s.put w).find? id = (s.find? id).map fun v => if v.id = w.id then w else v := by
  apply find?_map
  intro v
  split
  · next h => exact h.symm
  · rfl

theorem find?_put_self (h : s.find? w.id = some v) : (s.put w).find? w.id = some w := by
  rw [find?_put, h, Option.map_some, if_pos (id_of_find? h)]

theorem find?_put_ne (h : id ≠ w.id) : (s.put w).find? id = s.find? id := by
  rw [find?_put]
  cases hv : s.find? id with
  | none => rfl
  | some v => rw [Option.map_some, if_neg (by rw [id_of_find? hv]; exact h)]

theorem mem_put (h : v ∈ (s.put w).windows) : v = w ∨ v ∈ s.windows := by
  obtain ⟨u, hu, rfl⟩ := List.mem_map.1 h
  split
  · exact .inl rfl
  · exact .inr hu

/-- Replacing a window by one with the same place and flags keeps what every point hits. -/
theorem topmostAt?_put (hs : s.ids.Nodup) (hv : s.find? w.id = some v) (hr : w.rect = v.rect)
    (hf : w.flags = v.flags) : (s.put w).topmostAt? p = s.topmostAt? p := by
  apply topmostAt?_map
  intro u hu
  split
  · next h =>
    have huv : u = v := by
      have := find?_of_mem hs hu
      rw [h, hv] at this
      exact (Option.some.inj this).symm
    subst huv
    exact ⟨h.symm, hr, hf⟩
  · exact ⟨rfl, rfl, rfl⟩

theorem put_put (h : v.id = w.id) : (s.put v).put w = s.put w := by
  unfold put
  simp only [List.map_map, mk.injEq, and_true]
  apply List.map_congr_left
  intro u _
  simp only [Function.comp]
  by_cases hu : u.id = v.id
  · rw [if_pos hu, if_pos h, if_pos (hu.trans h)]
  · rw [if_neg hu]

theorem put_self (hs : s.ids.Nodup) (hw : s.find? w.id = some w) : s.put w = s := by
  have hmap : s.windows.map (fun v => if v.id = w.id then w else v) = s.windows.map id := by
    apply List.map_congr_left
    intro v hv
    split
    · next h =>
      have hvw := find?_of_mem hs hv
      rw [h, hw] at hvw
      exact Option.some.inj hvw
    · rfl
  unfold put
  rw [hmap, List.map_id]

theorem notify_eq (h : s.find? id = some w) (event : WindowEvent) :
    s.notify id event =
      { state := s.put (w.notify event).state, effects := (w.notify event).effects } := by
  unfold notify
  rw [h]

theorem find?_notify_self (h : s.find? id = some w) (event : WindowEvent) :
    (s.notify id event).state.find? id = some (w.notify event).state := by
  have hid : w.id = id := id_of_find? h
  have hput : (s.put (w.notify event).state).find? w.id = some (w.notify event).state :=
    find?_put_self (by rw [← hid] at h; exact h)
  rw [notify_eq h, ← hid]
  exact hput

theorem find?_notify_ne (h : id' ≠ id) (event : WindowEvent) :
    (s.notify id event).state.find? id' = s.find? id' := by
  cases hw : s.find? id with
  | none => simp [notify, hw]
  | some w =>
    have hid : w.id = id := id_of_find? hw
    have hne : id' ≠ (w.notify event).state.id := fun h' => h (h'.trans hid)
    rw [notify_eq hw]
    exact find?_put_ne hne

@[simp] theorem focused_notify (s : Stack) (id : WindowId) (event : WindowEvent) :
    (s.notify id event).state.focused = s.focused := by
  unfold notify
  split <;> rfl

@[simp] theorem nextId_notify (s : Stack) (id : WindowId) (event : WindowEvent) :
    (s.notify id event).state.nextId = s.nextId := by
  unfold notify
  split <;> rfl

@[simp] theorem ids_notify (s : Stack) (id : WindowId) (event : WindowEvent) :
    (s.notify id event).state.ids = s.ids := by
  unfold notify
  split
  · rfl
  · exact ids_put _ _

theorem topmostAt?_notify (hs : s.ids.Nodup) (id : WindowId) (event : WindowEvent) :
    (s.notify id event).state.topmostAt? p = s.topmostAt? p := by
  cases h : s.find? id with
  | none => simp [notify, h]
  | some w =>
    rw [notify_eq h]
    have hw : s.find? (w.notify event).state.id = some w := by
      show s.find? w.id = some w
      rw [id_of_find? h, h]
    exact topmostAt?_put hs hw rfl rfl

theorem paint_state (s : Stack) (display : Display) (theme : Theme) (config : Config)
    (cursor : Point) :
    (s.paint display theme config cursor).state =
      { s with windows := s.windows.map fun w =>
          (w.paint display theme config (s.focused = some w.id)).state } := by
  unfold paint
  simp only [List.map_map]
  rfl

@[simp] theorem ids_paint (s : Stack) (display : Display) (theme : Theme) (config : Config)
    (cursor : Point) : (s.paint display theme config cursor).state.ids = s.ids := by
  rw [paint_state]
  exact ids_map _ fun w _ => w.id_paint display theme config _

/-! ### Taking windows out and raising them -/

theorem map_id_eraseP (l : List Window) (id : WindowId) :
    (l.eraseP (·.id == id)).map (·.id) = (l.map (·.id)).erase id := by
  rw [List.erase_eq_eraseP', List.eraseP_map]
  rfl

@[simp] theorem ids_remove (s : Stack) (id : WindowId) : (s.remove id).ids = s.ids.erase id :=
  map_id_eraseP _ _

theorem find?_eraseP_ne (l : List Window) (h : id' ≠ id) :
    (l.eraseP (·.id == id)).find? (·.id == id') = l.find? (·.id == id') := by
  induction l with
  | nil => rfl
  | cons v l ih =>
    by_cases hv : v.id = id
    · have hv' : v.id ≠ id' := fun h' => h (h'.symm.trans hv)
      simp [hv, h.symm]
    · rw [List.eraseP_cons_of_neg (by simpa using hv), List.find?_cons, List.find?_cons, ih]

theorem find?_remove_ne (h : id' ≠ id) : (s.remove id).find? id' = s.find? id' :=
  find?_eraseP_ne _ h

theorem promote_eq (h : s.find? id = some w) :
    s.promote id = .ok
      { s with windows := s.windows.eraseP (·.id == id) ++ [w], focused := some id } := by
  unfold promote
  rw [h]

theorem raise_eq (h : s.find? id = some w) :
    s.raise id =
      { s with windows := s.windows.eraseP (·.id == id) ++ [w], focused := some id } := by
  unfold raise
  rw [promote_eq h]

theorem raise_of_none (h : s.find? id = none) : s.raise id = s := by
  unfold raise promote
  rw [h]

@[simp] theorem nextId_raise (s : Stack) (id : WindowId) : (s.raise id).nextId = s.nextId := by
  cases h : s.find? id with
  | none => rw [raise_of_none h]
  | some w => rw [raise_eq h]

theorem focused_raise (h : s.find? id = some w) : (s.raise id).focused = some id := by
  rw [raise_eq h]

theorem ids_raise (h : s.find? id = some w) : (s.raise id).ids = s.ids.erase id ++ [id] := by
  rw [raise_eq h]
  unfold ids
  rw [List.map_append, map_id_eraseP, List.map_singleton, id_of_find? h]

/-- Raising a window reorders the stack and changes no window. -/
theorem find?_raise (hs : s.ids.Nodup) (h : s.find? id = some w) :
    (s.raise id).find? id' = s.find? id' := by
  rw [raise_eq h]
  show (s.windows.eraseP (·.id == id) ++ [w]).find? (·.id == id') = s.find? id'
  rw [List.find?_append]
  by_cases hid : id' = id
  · subst hid
    have hnone : (s.windows.eraseP (·.id == id')).find? (·.id == id') = none := by
      rw [List.find?_eq_none]
      intro v hv hv'
      have : id' ∈ (s.windows.eraseP (·.id == id')).map (·.id) :=
        List.mem_map.2 ⟨v, hv, by simpa using hv'⟩
      rw [map_id_eraseP] at this
      exact hs.not_mem_erase this
    rw [hnone, h]
    simp [id_of_find? h]
  · have hw : (w.id == id') = false := by
      rw [id_of_find? h]
      simpa using Ne.symm hid
    rw [find?_eraseP_ne _ hid, List.find?_singleton, hw]
    simp [find?]

/-! ### Opening windows -/

/-- A request to open a window fails and leaves the stack as it is, or puts a window under the next
id on top. -/
theorem create_cases (s : Stack) (title : String) (size : Size) (flags : Flags) (config : Config)
    (background : Color) (heap : Heap) :
    let created := s.create title size flags config background heap
    (∃ e, created.result = .error e ∧ created.state.1 = s) ∨
      ∃ w, Window.create ⟨s.nextId⟩ title size flags config background
          (heap.ask (.place s.windows.length)).2 = (.ok w, created.state.2) ∧
        w.id = ⟨s.nextId⟩ ∧ (s.nextId + 1).toNat = s.nextId.toNat + 1 ∧
        created.result = .ok ⟨s.nextId⟩ ∧
        created.state.1 = ⟨s.windows ++ [w], some ⟨s.nextId⟩, s.nextId + 1⟩ := by
  intro created
  cases hplace : heap.ask (.place s.windows.length) with
  | mk granted placed =>
  cases granted with
  | false =>
    refine .inl ⟨.outOfMemory, ?_⟩
    simp [created, create, hplace]
  | true =>
    by_cases hmax : s.nextId.toNat = maxWord
    · refine .inl ⟨.outOfMemory, ?_⟩
      simp [created, create, hplace, hmax]
    have hnext : (s.nextId + 1).toNat = s.nextId.toNat + 1 := by
      have hlt := s.nextId.toNat_lt
      unfold maxWord at hmax
      rw [UInt32.toNat_add, UInt32.toNat_one]
      omega
    cases hw : Window.create ⟨s.nextId⟩ title size flags config background placed with
    | mk answer after =>
    cases answer with
    | error e =>
      refine .inl ⟨e, ?_⟩
      simp [created, create, hplace, hmax, hw]
    | ok w =>
      refine .inr ⟨w, ?_, Window.id_create hw, hnext, ?_⟩
      · simp [created, create, hplace, hmax, hw]
      · simp [created, create, hplace, hmax, hw]

/-! ### Hits -/

/-- What a point hits is a visible window over it. -/
theorem topmostAt?_eq_some (h : s.topmostAt? p = some id) :
    ∃ w ∈ s.windows, w.id = id ∧ w.isVisible = true ∧ w.contains p = true := by
  obtain ⟨w, hw, rfl⟩ := Option.map_eq_some_iff.1 h
  have hit : (w.isVisible && w.contains p) = true :=
    List.find?_some (p := fun w : Window => w.isVisible && w.contains p) hw
  rw [Bool.and_eq_true] at hit
  exact ⟨w, List.mem_reverse.1 (List.mem_of_find?_eq_some hw), rfl, hit⟩

/-- Raising the window that a point hits does not change what the point hits. -/
theorem topmostAt?_raise (hs : s.ids.Nodup) (h : s.topmostAt? p = some id) :
    (s.raise id).topmostAt? p = some id := by
  obtain ⟨w, hw, rfl, hv, hc⟩ := topmostAt?_eq_some h
  rw [raise_eq (find?_of_mem hs hw)]
  simp [topmostAt?, hv, hc]

end Stack
end PointerDesktop
