import PointerDesktop.Proofs.Deliveries
import PointerDesktop.Proofs.FocusFollow
import PointerDesktop.Proofs.GestureLife
import PointerDesktop.Proofs.GivenIds

/-!
# Stacking order is recency

A window is activated when it is opened, when a caller gives it the focus and when a sample promotes
it (`Desktop.activations`). An activation takes the window to the top, a close takes it out, and
nothing else touches the order (`Desktop.order_apply`). `Recency history closed ids`: the windows `ids`
are those of the activations `history` that are not `closed`, in the order of their latest activation;
activations and closes keep it (`Recency.activate`, `Recency.close`). Main statement:
`Desktop.stacking_is_recency`.
-/

namespace PointerDesktop

/-- The place of the latest activation of a window among all activations, counted from 1. -/
def lastTime (history : List WindowId) (id : WindowId) : Nat :=
  history.length - history.reverse.idxOf id

example : lastTime [⟨1⟩, ⟨2⟩, ⟨1⟩] ⟨1⟩ = 3 := by decide

/-- A window comes to the top. -/
def toTop (ids : List WindowId) (id : WindowId) : List WindowId := ids.erase id ++ [id]

theorem mem_toTop {ids acts : List WindowId} {id : WindowId} :
    id ∈ acts.foldl toTop ids ↔ id ∈ ids ∨ id ∈ acts := by
  induction acts generalizing ids with
  | nil => simp
  | cons a acts ih =>
    have hfirst : id ∈ toTop ids a ↔ id ∈ ids ∨ id = a := by
      by_cases h : id = a <;> simp [toTop, h]
    rw [List.foldl_cons, ih, hfirst, List.mem_cons, or_assoc]

/-- The top window stays where it is. -/
theorem toTop_last {ids acts : List WindowId} (hids : ids.Nodup)
    (h : ∀ id ∈ acts, ids.getLast? = some id) : acts.foldl toTop ids = ids := by
  induction acts with
  | nil => rfl
  | cons id acts ih =>
    obtain ⟨hid, hacts⟩ := List.forall_mem_cons.1 h
    rw [List.foldl_cons, toTop, Stack.erase_concat_last hids hid]
    exact ih hacts

theorem lastTime_le (history : List WindowId) (id : WindowId) :
    lastTime history id ≤ history.length :=
  Nat.sub_le ..

theorem lastTime_concat_self (history : List WindowId) (id : WindowId) :
    lastTime (history ++ [id]) id = history.length + 1 := by
  simp [lastTime]

theorem lastTime_concat_ne {id a : WindowId} (history : List WindowId) (h : a ≠ id) :
    lastTime (history ++ [id]) a = lastTime history a := by
  simp [lastTime, List.idxOf_cons_ne _ h.symm]

/-- The windows `ids` are the activated ones that have not been closed, by their latest activation. -/
structure Recency (history closed ids : List WindowId) : Prop where
  live : ∀ id, id ∈ ids ↔ id ∈ history ∧ id ∉ closed
  order : ids.Pairwise fun a b => lastTime history a < lastTime history b

namespace Recency
variable {history closed ids acts : List WindowId} {id : WindowId}

theorem nodup (h : Recency history closed ids) : ids.Nodup :=
  h.order.imp fun hlt heq => by simp [heq] at hlt

theorem activate (h : Recency history closed ids) (hid : id ∉ closed) :
    Recency (history ++ [id]) closed (toTop ids id) := by
  have hne : ∀ a ∈ ids.erase id, a ≠ id := fun a ha => ((h.nodup.mem_erase_iff).1 ha).1
  constructor
  · intro a
    simp only [toTop, List.mem_append, List.mem_singleton, h.nodup.mem_erase_iff, h.live a]
    by_cases ha : a = id <;> simp [ha, hid]
  · refine List.pairwise_append.2 ⟨?_, List.pairwise_singleton _ _, fun a ha b hb => ?_⟩
    · refine (h.order.sublist List.erase_sublist).imp_of_mem fun ha hb hlt => ?_
      rwa [lastTime_concat_ne _ (hne _ ha), lastTime_concat_ne _ (hne _ hb)]
    · rw [List.mem_singleton.1 hb, lastTime_concat_self, lastTime_concat_ne _ (hne a ha)]
      exact Nat.lt_succ_of_le (lastTime_le history a)

theorem activations (h : Recency history closed ids) (hacts : ∀ id ∈ acts, id ∉ closed) :
    Recency (history ++ acts) closed (acts.foldl toTop ids) := by
  induction acts generalizing history ids with
  | nil => simpa using h
  | cons id acts ih =>
    obtain ⟨hid, hacts⟩ := List.forall_mem_cons.1 hacts
    simpa using ih (h.activate hid) hacts

theorem close (h : Recency history closed ids) (id : WindowId) :
    Recency history (closed ++ [id]) (ids.erase id) := by
  constructor
  · intro a
    simp [h.nodup.mem_erase_iff, h.live a]
    tauto
  · exact h.order.sublist List.erase_sublist

end Recency

/-! ### Samples -/

namespace Scene
variable {s : Scene}

/-- The window that a sample promotes: that gives it the focus, and nothing else in a sample gives the
focus to a window. -/
def promoted? (s : Scene) (config : Config) (q : Sample) : Option WindowId :=
  let after := (s.step config q.position q.buttons).state
  if after.stack.focused = s.stack.focused then none else after.stack.focused

/-- The windows that samples promote, one after the other. -/
def promotions (s : Scene) (config : Config) : List Sample → List WindowId
  | [] => []
  | q :: qs =>
    (s.promoted? config q).toList ++
      (s.step config q.position q.buttons).state.promotions config qs

theorem Ok.ids_step (h : s.Ok) (config : Config) (q : Sample) :
    (s.step config q.position q.buttons).state.stack.ids =
        (s.promoted? config q).toList.foldl toTop s.stack.ids ∧
      ∀ id ∈ (s.promoted? config q).toList, id ∈ s.stack.ids := by
  have hfollows := h.step_follows config q.position q.buttons
  dsimp only at hfollows
  unfold promoted?
  dsimp only
  cases hidle : (s.step config q.position q.buttons).state.tracker.gesture.isIdle with
  | false =>
    rw [hidle] at hfollows
    simp [hfollows.1, hfollows.2]
  | true =>
    rw [hidle, if_pos rfl] at hfollows
    unfold Stack.Follows at hfollows
    cases hhit : s.stack.topmostAt? q.position with
    | none =>
      rw [hhit] at hfollows
      simp [hfollows.1, hfollows.2]
    | some id =>
      rw [hhit] at hfollows
      obtain ⟨hfocus, hids, -⟩ := hfollows
      have hmem : id ∈ s.stack.ids := by
        obtain ⟨w, hw, rfl, -⟩ := Stack.topmostAt?_eq_some hhit
        exact Stack.id_mem_ids hw
      by_cases hsame : s.stack.focused = some id
      · have htop := h.stack.top id hsame
        rw [Stack.topmost?_eq] at htop
        rw [hids, Stack.erase_concat_last h.stack.nodup htop]
        simp [hfocus, hsame]
      · rw [hids, hfocus, if_neg (Ne.symm hsame)]
        simp [toTop, hmem]

theorem Ok.ids_steps (h : s.Ok) (config : Config) (qs : List Sample) :
    (s.steps config qs).state.stack.ids = (s.promotions config qs).foldl toTop s.stack.ids ∧
      ∀ id ∈ s.promotions config qs, id ∈ s.stack.ids := by
  induction qs generalizing s with
  | nil => simp [steps, promotions]
  | cons q qs ih =>
    obtain ⟨hids, hmem⟩ := h.ids_step config q
    obtain ⟨hrest, hrestMem⟩ := ih (h.step config q.position q.buttons)
    rw [hids] at hrest hrestMem
    unfold promotions
    refine ⟨by rw [List.foldl_append]; exact hrest, fun id hid => ?_⟩
    rcases List.mem_append.1 hid with hid | hid
    · exact hmem id hid
    · rcases mem_toTop.1 (hrestMem id hid) with h | h
      · exact h
      · exact hmem id h

end Scene

/-! ### Operations -/

/-- The window that an operation activates with this answer, if it is no pointer input. -/
def Operation.activated : Operation → Reply → List WindowId
  | .create .., .created id | .focus id, .done => [id]
  | _, _ => []

/-- The window that an operation closes with this answer. -/
def Operation.closed : Operation → Reply → List WindowId
  | .close id, .done => [id]
  | _, _ => []

namespace Desktop
variable {d : Desktop} {op : Operation}

/-- The windows that an operation activates, one after the other. -/
def activations (d : Desktop) (op : Operation) : List WindowId :=
  op.activated (d.apply op).result ++
    d.toScene.promotions d.config ((d.opSamplings op).map (·.2))

/-- The window that an operation closes. -/
def closes (d : Desktop) (op : Operation) : List WindowId := op.closed (d.apply op).result

/-- The activations of a run. -/
def history (d : Desktop) : List Operation → List WindowId
  | [] => []
  | op :: ops => d.activations op ++ (d.apply op).state.history ops

/-- The windows that a run closes. -/
def closings (d : Desktop) : List Operation → List WindowId
  | [] => []
  | op :: ops => d.closes op ++ (d.apply op).state.closings ops

/-- An operation that is no pointer input leaves the order as it is, takes one window to the top, which
may be a new one, or takes one out. -/
theorem Edits.order {reply : Reply} {s' : Stack} {es : List Effect} (h : d.Edits op reply s' es)
    (hd : d.stack.Ok) :
    (op.activated reply = [] ∧ op.closed reply = [] ∧ s'.ids = d.stack.ids) ∨
      (∃ id, (id ∈ d.stack.ids ∨ id = ⟨d.stack.nextId⟩) ∧ op.activated reply = [id] ∧
        op.closed reply = [] ∧ s'.ids = toTop d.stack.ids id) ∨
      ∃ id ∈ d.stack.ids, op.activated reply = [] ∧ op.closed reply = [id] ∧
        s'.ids = d.stack.ids.erase id := by
  cases h with
  | refuse e => exact .inl ⟨by cases op <;> rfl, by cases op <;> rfl, rfl⟩
  | keep hop => cases op <;> first | exact .inl ⟨rfl, rfl, rfl⟩ | cases hop
  | change hop _ _ =>
    cases op <;> first | exact .inl ⟨rfl, rfl, Stack.ids_put _ _⟩ | cases hop
  | @create _ _ _ w _ _ hw _ =>
    refine .inr (.inl ⟨⟨d.stack.nextId⟩, .inr rfl, rfl, rfl, ?_⟩)
    have hfresh : (⟨d.stack.nextId⟩ : WindowId) ∉ d.stack.ids :=
      fun hm => Nat.lt_irrefl _ (hd.given _ hm).2
    rw [toTop, List.erase_of_not_mem hfresh]
    simp [Stack.ids, Window.id_create hw]
  | @close id w hw =>
    refine .inr (.inr ⟨id, Stack.mem_ids.2 ⟨w, hw⟩, rfl, rfl, ?_⟩)
    rw [Stack.ids_remove, Stack.ids_notify]
  | @focus id w hw =>
    exact .inr (.inl ⟨id, .inl (Stack.mem_ids.2 ⟨w, hw⟩), rfl, rfl, Stack.ids_raise hw⟩)
  | resize _ _ _ _ => exact .inl ⟨rfl, rfl, Stack.ids_put _ _⟩
  | resizeTell _ _ _ _ =>
    exact .inl ⟨rfl, rfl, (Stack.ids_notify ..).trans (Stack.ids_put _ _)⟩
  | hide _ _ => exact .inl ⟨rfl, rfl, Stack.ids_put _ _⟩
  | hideFocused _ _ => exact .inl ⟨rfl, rfl, Stack.ids_put _ _⟩
  | pressKey _ => exact .inl ⟨rfl, rfl, Stack.ids_notify ..⟩
  | paint => exact .inl ⟨rfl, rfl, Stack.ids_paint ..⟩

/-- An operation takes windows to the top, or it takes one out. -/
theorem order_apply (h : d.toScene.Ok) (op : Operation) :
    ((∀ id ∈ d.activations op, id ∈ d.stack.ids ∨ id = ⟨d.stack.nextId⟩) ∧ d.closes op = [] ∧
        (d.apply op).state.stack.ids = (d.activations op).foldl toTop d.stack.ids) ∨
      ∃ id ∈ d.stack.ids, d.activations op = [] ∧ d.closes op = [id] ∧
        (d.apply op).state.stack.ids = d.stack.ids.erase id := by
  unfold activations closes
  cases hop : op.isPointer with
  | true =>
    have hreply : op.activated (d.apply op).result = [] ∧ op.closed (d.apply op).result = [] := by
      cases op <;> first | exact ⟨rfl, rfl⟩ | cases hop
    obtain ⟨hids, hmem⟩ := h.ids_steps d.config ((d.opSamplings op).map (·.2))
    rw [hreply.1, hreply.2, (d.takes_apply hop).scene]
    exact .inl ⟨fun id hid => .inl (hmem id hid), rfl, hids⟩
  | false =>
    rw [d.opSamplings_of_not_pointer hop]
    simp only [List.map_nil, Scene.promotions, List.append_nil]
    rcases (d.edits_apply hop).order h.stack with
      ⟨hacts, hcloses, hids⟩ | ⟨id, hid, hacts, hcloses, hids⟩ | hclosed
    · exact .inl (by simp [hacts, hcloses, hids])
    · exact .inl (by simp [hacts, hcloses, hids, hid])
    · exact .inr hclosed

/-- The windows of the desktop are those activated and not closed so far, by their latest activation,
and no id of a closed window will be given out again. -/
structure Ranked (history closed : List WindowId) (d : Desktop) : Prop where
  ok : d.toScene.Ok
  recency : Recency history closed d.stack.ids
  gone : ∀ id ∈ closed, id.number.toNat < d.stack.nextId.toNat

namespace Ranked
variable {history closed : List WindowId}

theorem apply (h : Ranked history closed d) (op : Operation) :
    Ranked (history ++ d.activations op) (closed ++ d.closes op) (d.apply op).state := by
  have hnext := d.nextId_le_apply op
  have hok := (d.leads_apply op).ok h.ok
  have hgone : ∀ id ∈ closed, id.number.toNat < (d.apply op).state.stack.nextId.toNat :=
    fun id hid => Nat.lt_of_lt_of_le (h.gone id hid) hnext
  rcases order_apply h.ok op with ⟨hacts, hcloses, hids⟩ | ⟨id, hid, hacts, hcloses, hids⟩
  · rw [hcloses, List.append_nil]
    refine ⟨hok, ?_, hgone⟩
    rw [hids]
    refine h.recency.activations fun id hid => ?_
    rcases hacts id hid with hid | rfl
    · exact ((h.recency.live id).1 hid).2
    · exact fun hgone => Nat.lt_irrefl _ (h.gone _ hgone)
  · rw [hcloses, hacts, List.append_nil]
    refine ⟨hok, ?_, fun id' hid' => ?_⟩
    · rw [hids]
      exact h.recency.close id
    · rcases List.mem_append.1 hid' with hid' | hid'
      · exact hgone id' hid'
      · rw [List.mem_singleton.1 hid']
        exact Nat.lt_of_lt_of_le (h.ok.stack.given id hid).2 hnext

theorem run (h : Ranked history closed d) (ops : List Operation) :
    Ranked (history ++ d.history ops) (closed ++ d.closings ops) (d.run ops).state := by
  induction ops generalizing d history closed with
  | nil => simpa [Desktop.history, closings, Desktop.run] using h
  | cons op ops ih => simpa [Desktop.history, closings, Desktop.run] using ih (h.apply op)

end Ranked

/-- After a run from a desktop without windows the stack holds, from the bottom to the top, the windows
that have been activated and not closed, in the order of their latest activation. An operation that
activates no other window than the top one reorders nothing. -/
theorem stacking_is_recency (config : Config) (theme : Theme) (display : Display) (heap : Heap)
    (ops : List Operation) :
    let fresh := (start config theme display heap).state
    let d := (fresh.run ops).state
    let history := fresh.history ops
    (∀ id, id ∈ d.stack.ids ↔ id ∈ history ∧ id ∉ fresh.closings ops) ∧
    d.stack.ids.Pairwise (fun a b => lastTime history a < lastTime history b) ∧
    ∀ op, (∀ id ∈ d.activations op, d.stack.topmost? = some id) →
      (d.apply op).state.stack.ids = d.stack.ids.filter (· ∉ d.closes op) := by
  intro fresh d history
  have hfresh : Ranked [] [] fresh :=
    ⟨⟨Stack.Ok.empty, trivial⟩, ⟨fun id => by simp [fresh, start, Stack.ids], .nil⟩, by simp⟩
  have hd : Ranked history (fresh.closings ops) d := by simpa using hfresh.run ops
  refine ⟨hd.recency.live, hd.recency.order, fun op htop => ?_⟩
  rcases order_apply hd.ok op with ⟨-, hcloses, hids⟩ | ⟨id, -, -, hcloses, hids⟩
  · rw [hids, toTop_last hd.recency.nodup fun id hid => ?_]
    · simp [hcloses]
    · rw [← Stack.topmost?_eq]
      exact htop id hid
  · rw [hids, hd.recency.nodup.erase_eq_filter]
    simp [hcloses, bne, beq_eq_decide]

end Desktop
end PointerDesktop
