import PointerDesktop.Proofs.Edits

/-!
# What clients are handed

An event for a window goes to its sink for the kind of the event, once or not at all
(`Window.notify_cases`). An operation that is no pointer input hands out events of one kind,
`Operation.kind?` (`Desktop.only_apply`); pointer input hands out what its samples do
(`Desktop.deliveries_apply`).
-/

namespace PointerDesktop

/-- The kind of the event that a client is handed. -/
def Effect.kind? : Effect → Option EventKind
  | .deliver _ _ event _ => some event.kind
  | _ => none

/-- The kind of event that the operation can hand out, for all but pointer input. -/
def Operation.kind? : Operation → Option EventKind
  | .close _ => some .close
  | .setSize .. => some .resize
  | .pressKey _ => some .keyPress
  | .paint => some .draw
  | _ => none

/-- No other events than those of one kind are among the effects. -/
def Only (kind : Option EventKind) (es : List Effect) : Prop :=
  ∀ e ∈ es, e.kind? = none ∨ e.kind? = kind

section
variable {kind : Option EventKind} {es fs : List Effect} {e : Effect} {s : Stack} {w : Window}
  {id : WindowId} {event : WindowEvent}

theorem only_nil : Only kind [] := by simp [Only]

theorem only_append : Only kind (es ++ fs) ↔ Only kind es ∧ Only kind fs := by
  simp only [Only, List.forall_mem_append]

theorem only_singleton (h : e.kind? = none) : Only kind [e] := by simp [Only, h]

theorem Only.deliveries (h : Only kind es) : Only kind (deliveries es) :=
  fun e he => h e (List.mem_of_mem_filter he)

theorem Window.notify_cases (w : Window) (event : WindowEvent) :
    (w.notify event).effects = [] ∨ ∃ sink, w.sinks.get? event.kind = some sink ∧
      (w.notify event).effects = [.deliver sink w.id event w.surface.size] := by
  unfold notify Sinks.dispatch
  cases hsink : w.sinks.get? event.kind with
  | none => exact .inl rfl
  | some sink =>
    dsimp only
    split
    · exact .inl rfl
    · exact .inr ⟨sink, rfl, rfl⟩

theorem Window.only_notify (w : Window) (event : WindowEvent) :
    Only (some event.kind) (w.notify event).effects := by
  rcases w.notify_cases event with h | ⟨sink, -, h⟩ <;> simp [Only, h, Effect.kind?]

theorem Stack.only_notify (s : Stack) (id : WindowId) (event : WindowEvent) :
    Only (some event.kind) (s.notify id event).effects := by
  unfold notify
  split
  · exact only_nil
  · exact Window.only_notify _ _

theorem Window.only_paint (w : Window) (display : Display) (theme : Theme) (config : Config)
    (focused : Bool) : Only (some .draw) (w.paint display theme config focused).effects := by
  unfold paint
  split
  · refine only_append.2 ⟨only_append.2 ⟨?_, Window.only_notify _ .draw⟩, only_singleton rfl⟩
    unfold Only decorate
    simp [Effect.kind?]
  · exact only_nil

theorem Stack.only_paint (s : Stack) (display : Display) (theme : Theme) (config : Config)
    (cursor : Point) : Only (some .draw) (s.paint display theme config cursor).effects := by
  refine only_append.2 ⟨only_append.2 ⟨by simp [Only, Effect.kind?], fun e he => ?_⟩,
    only_singleton rfl⟩
  obtain ⟨painted, hpainted, he⟩ := List.mem_flatMap.1 he
  obtain ⟨w, -, rfl⟩ := List.mem_map.1 hpainted
  exact w.only_paint display theme config _ e he

end

namespace Desktop
variable {d : Desktop} {op : Operation}

theorem Edits.only {reply : Reply} {s' : Stack} {es : List Effect} (h : d.Edits op reply s' es) :
    Only op.kind? es := by
  cases h with
  | close _ => exact (Stack.only_notify _ _ .close).deliveries
  | @resizeTell id size _ _ _ _ _ _ => exact (Stack.only_notify _ _ (.resize size)).deliveries
  | @pressKey key _ _ => exact (Stack.only_notify _ _ (.keyPress key)).deliveries
  | paint => exact (Stack.only_paint _ _ _ _ _).deliveries
  | _ => exact only_nil

/-- An operation that is no pointer input hands out events of its own kind only. -/
theorem only_apply (d : Desktop) (hop : op.isPointer = false) :
    Only op.kind? (deliveries (d.apply op).effects) :=
  (d.edits_apply hop).only

/-- What the samples hand out. -/
def delivered (ms : List (Desktop × Sample)) : List Effect :=
  ms.flatMap fun m => deliveries (m.1.takeSample m.2).effects

@[simp] theorem delivered_append (ms ns : List (Desktop × Sample)) :
    delivered (ms ++ ns) = delivered ms ++ delivered ns :=
  List.flatMap_append

theorem deliveries_feed (d : Desktop) (byte : UInt8) :
    deliveries (d.feed byte).effects = delivered (d.byteSamplings byte) := by
  have hmouse := deliveries_mouse d.mouse byte
  unfold byteSamplings delivered
  cases h : (d.mouse.feed byte).result with
  | none =>
    rw [feed_of_none h]
    exact hmouse
  | some q =>
    rw [feed_of_some h]
    simp [hmouse]

theorem deliveries_feedAll (d : Desktop) (bytes : List UInt8) :
    deliveries (d.feedAll bytes).effects = delivered (d.bytesSamplings bytes) := by
  induction bytes generalizing d with
  | nil => rfl
  | cons byte bytes ih =>
    rw [feedAll_cons, bytesSamplings, delivered_append, deliveries_append, deliveries_feed, ih]

/-- Pointer input hands out what its samples do. -/
theorem deliveries_apply (d : Desktop) (hop : op.isPointer = true) :
    deliveries (d.apply op).effects = delivered (d.opSamplings op) := by
  cases op with
  | feed byte => exact d.deliveries_feed byte
  | drain source =>
    have hfed := d.deliveries_feedAll (answers source drainBudget 0)
    show deliveries (d.drain source).effects = _
    rw [drain_eq]
    dsimp only
    split
    · rw [deliveries_append, hfed]
      exact List.append_nil _
    · exact hfed
  | pointTo p buttons => exact (List.append_nil _).symm
  | _ => cases hop

theorem opSamplings_of_not_pointer (d : Desktop) (hop : op.isPointer = false) :
    d.opSamplings op = [] := by
  cases op <;> first | rfl | cases hop

end Desktop
end PointerDesktop
