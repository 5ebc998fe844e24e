import PointerDesktop.Proofs.EventRouting
import PointerDesktop.Proofs.Recency
import PointerDesktop.Proofs.WindowSteps

/-!
# The life of a window

`Desktop.life d id ops`: what becomes of the window `id` in a run of `ops` from `d`: it is opened, it is
told events, it is closed. Events go to windows only that are open before the step
(`Desktop.deliver_apply`), and an id is given out once, so nothing comes before the opening or after
the closing. The close itself is told if its sink is in place: no step takes a sink out of a window but
the call to do so (`Desktop.sinks_cases`). Main statement:
`Desktop.window_life`.
-/

namespace PointerDesktop

/-- The event that the window `id` is told. -/
def Effect.eventTo? (id : WindowId) : Effect → Option WindowEvent
  | .deliver _ id' event _ => if id' = id then some event else none
  | _ => none

def eventsTo (id : WindowId) (es : List Effect) : List WindowEvent := es.filterMap (·.eventTo? id)

section
variable {id id' : WindowId} {es fs : List Effect} {event event' : WindowEvent} {sink : EventSink}
  {size : Size}

@[simp] theorem eventsTo_append (es fs : List Effect) :
    eventsTo id (es ++ fs) = eventsTo id es ++ eventsTo id fs :=
  List.filterMap_append

theorem mem_eventsTo :
    event ∈ eventsTo id es ↔ ∃ sink size, Effect.deliver sink id event size ∈ es := by
  unfold eventsTo
  rw [List.mem_filterMap]
  constructor
  · rintro ⟨e, he, hevent⟩
    cases e with
    | deliver sink id' event' size =>
      obtain ⟨rfl, rfl⟩ : id' = id ∧ event' = event := by simpa [Effect.eventTo?] using hevent
      exact ⟨sink, size, he⟩
    | _ => cases hevent
  · rintro ⟨sink, size, he⟩
    exact ⟨_, he, by simp [Effect.eventTo?]⟩

theorem deliver_mem_deliveries :
    Effect.deliver sink id event size ∈ deliveries es ↔ Effect.deliver sink id event size ∈ es := by
  unfold deliveries
  rw [List.mem_filter]
  exact and_iff_left rfl

theorem Window.deliver_notify {w : Window}
    (h : Effect.deliver sink id event size ∈ (w.notify event').effects) :
    id = w.id ∧ event = event' := by
  rcases w.notify_cases event' with hes | ⟨sink', -, hes⟩ <;> rw [hes] at h
  · cases h
  · cases List.mem_singleton.1 h
    exact ⟨rfl, rfl⟩

theorem Stack.deliver_notify {s : Stack}
    (h : Effect.deliver sink id event size ∈ (s.notify id' event').effects) :
    id = id' ∧ id ∈ s.ids ∧ event = event' := by
  cases hw : s.find? id' with
  | none =>
    unfold notify at h
    rw [hw] at h
    cases h
  | some w =>
    rw [notify_eq hw] at h
    obtain ⟨hid, hevent⟩ := Window.deliver_notify h
    rw [id_of_find? hw] at hid
    exact ⟨hid, hid ▸ mem_ids.2 ⟨w, hw⟩, hevent⟩

theorem Window.deliver_paint {w : Window} {display : Display} {theme : Theme} {config : Config}
    {focused : Bool}
    (h : Effect.deliver sink id event size ∈ (w.paint display theme config focused).effects) :
    id = w.id ∧ event = .draw := by
  unfold paint at h
  split at h
  · have hdrawn : Effect.deliver sink id event size ∈
        ((w.decorate display theme config focused).state.notify .draw).effects := by
      simpa [decorate] using h
    obtain ⟨hid, hevent⟩ := deliver_notify hdrawn
    exact ⟨hid, hevent⟩
  · cases h

theorem Stack.deliver_paint {s : Stack} {display : Display} {theme : Theme} {config : Config}
    {cursor : Point}
    (h : Effect.deliver sink id event size ∈ (s.paint display theme config cursor).effects) :
    id ∈ s.ids ∧ event = .draw := by
  have hpainted : ∃ w ∈ s.windows, Effect.deliver sink id event size ∈
      (w.paint display theme config (s.focused = some w.id)).effects := by
    simpa [paint] using h
  obtain ⟨w, hw, h⟩ := hpainted
  obtain ⟨rfl, hevent⟩ := Window.deliver_paint h
  exact ⟨id_mem_ids hw, hevent⟩

end

/-! ### Who is told -/

theorem Stack.Became.mem_ids {R : Window → Window → Prop} {s s' : Stack} (h : Became R s s')
    {id : WindowId} (hid : id ∈ s'.ids) : id ∈ s.ids := by
  obtain ⟨w', hw'⟩ := Stack.mem_ids.1 hid
  obtain ⟨w, hw, -⟩ := h id w' hw'
  exact Stack.mem_ids.2 ⟨w, hw⟩

namespace Scene
variable {s : Scene} {id : WindowId} {event : WindowEvent} {sink : EventSink} {size : Size}

/-- A sample tells open windows only, and never of a close. -/
theorem Sound.deliver_step (h : s.Sound) {config : Config} {q : Sample}
    (he : Effect.deliver sink id event size ∈ (s.step config q.position q.buttons).effects) :
    id ∈ s.stack.ids ∧ event ≠ .close := by
  rw [← deliver_mem_deliveries] at he
  rcases h.ok.routes_step config q.position q.buttons with hes | ⟨w, _, _, _, hw, -, hemits, hes⟩
  · rw [hes] at he
    cases he
  · rw [hes] at he
    cases List.mem_singleton.1 he
    refine ⟨Stack.mem_ids.2 ⟨w, (Stack.focusedWindow?_eq_some.1 hw).2⟩, ?_⟩
    cases hemits <;> simp

theorem Sound.deliver_steps (h : s.Sound) {config : Config} {qs : List Sample}
    (he : Effect.deliver sink id event size ∈ (s.steps config qs).effects) :
    id ∈ s.stack.ids ∧ event ≠ .close := by
  induction qs generalizing s with
  | nil => cases he
  | cons q qs ih =>
    rcases List.mem_append.1 he with he | he
    · exact h.deliver_step he
    · obtain ⟨hid, hevent⟩ := ih (h.step config q) he
      exact ⟨(h.became_step config q.position q.buttons).mem_ids hid, hevent⟩

end Scene

/-! ### Which sinks are in place -/

namespace Window
variable {d : Desktop} {op : Operation} {p : Point} {g : Gesture} {w w' : Window}

theorem sinks_create {id : WindowId} {title : String} {size : Size} {flags : Flags}
    {config : Config} {background : Color} {heap heap' : Heap}
    (h : create id title size flags config background heap = (.ok w, heap')) : w.sinks = {} := by
  rw [(create_eq h).2]

theorem Edited.sinks_eq (h : w.Edited d op w') :
    w'.sinks = w.sinks ∨ (∃ sink, op = .setSink w.id sink ∧ w'.sinks = w.sinks.set sink) ∨
      ∃ kind, op = .clearSink w.id kind ∧ w'.sinks = w.sinks.clear kind := by
  cases h with
  | bind hop => exact .inr (.inl ⟨_, hop, rfl⟩)
  | unbind hop => exact .inr (.inr ⟨_, hop, rfl⟩)
  | resize _ hw' => exact .inl (by rw [resize_eq hw'])
  | paint _ _ =>
    refine .inl ?_
    unfold Window.paint
    split <;> rfl
  | _ => exact .inl rfl

theorem Moved.sinks_eq (h : w.Moved p g w') : w'.sinks = w.sinks := by
  cases h with
  | pull _ hw' =>
    rw [resize_eq hw']
    rfl
  | _ => rfl

end Window

theorem Scene.Sound.sinks_steps {s : Scene} (h : s.Sound) (config : Config) (qs : List Sample) :
    Stack.Became (fun w w' => w'.sinks = w.sinks) s.stack (s.steps config qs).state.stack := by
  induction qs generalizing s with
  | nil => exact .of_find? (fun _ => rfl) fun _ => rfl
  | cons q qs ih =>
    intro id w' hw'
    obtain ⟨v, hv, hsinks⟩ := ih (h.step config q) id w' hw'
    obtain ⟨w, hw, hmoved⟩ := h.became_step config q.position q.buttons id v hv
    exact ⟨w, hw, hsinks.trans hmoved.sinks_eq⟩

namespace Desktop
variable {d : Desktop} {op : Operation} {reply : Reply} {s' : Stack} {es : List Effect}
  {id : WindowId} {event : WindowEvent} {sink : EventSink} {size : Size}

theorem find?_update {change : Window → Except WindowError Window} {w w' : Window}
    (hw : d.stack.find? id = some w) (hchange : change w = .ok w') (hid : w'.id = w.id) :
    (d.update id change).state.stack.find? id = some w' := by
  have hwid : w'.id = id := hid.trans (Stack.id_of_find? hw)
  subst hwid
  unfold update
  rw [hw]
  dsimp only
  rw [hchange]
  exact Stack.find?_put_self hw

/-- Nothing but a call to do so binds or unbinds a sink of an open window, and a new one has none. -/
theorem sinks_cases (hd : d.toScene.Sound) {w' : Window}
    (hw' : (d.apply op).state.stack.find? id = some w') :
    (∃ w, d.stack.find? id = some w ∧ (w'.sinks = w.sinks ∨
      (∃ sink, op = .setSink id sink ∧ w'.sinks = w.sinks.set sink) ∨
        ∃ kind, op = .clearSink id kind ∧ w'.sinks = w.sinks.clear kind)) ∨
      d.stack.find? id = none ∧ w'.sinks = {} := by
  cases hop : op.isPointer with
  | true =>
    rw [(d.takes_apply hop).scene] at hw'
    obtain ⟨w, hw, hsinks⟩ := hd.sinks_steps d.config _ id w' hw'
    exact .inl ⟨w, hw, .inl hsinks⟩
  | false =>
    rcases (d.edits_apply hop).window hd hw' with ⟨w, hw, hedited⟩ | ⟨hnone, -, _, _, _, _, _, hcreate⟩
    · have hsinks := hedited.sinks_eq
      rw [Stack.id_of_find? hw] at hsinks
      exact .inl ⟨w, hw, hsinks⟩
    · exact .inr ⟨hnone, Window.sinks_create hcreate⟩

theorem Edits.deliver (h : d.Edits op reply s' es) (he : Effect.deliver sink id event size ∈ es) :
    id ∈ d.stack.ids ∧ (event = .close → op = .close id) := by
  cases h with
  | close _ =>
    obtain ⟨rfl, hid, -⟩ := Stack.deliver_notify (deliver_mem_deliveries.1 he)
    exact ⟨hid, fun _ => rfl⟩
  | resizeTell _ _ _ _ =>
    obtain ⟨-, hid, rfl⟩ := Stack.deliver_notify (deliver_mem_deliveries.1 he)
    rw [Stack.ids_put] at hid
    exact ⟨hid, fun h => by cases h⟩
  | pressKey _ =>
    obtain ⟨-, hid, rfl⟩ := Stack.deliver_notify (deliver_mem_deliveries.1 he)
    exact ⟨hid, fun h => by cases h⟩
  | paint =>
    obtain ⟨hid, rfl⟩ := Stack.deliver_paint (deliver_mem_deliveries.1 he)
    exact ⟨hid, fun h => by cases h⟩
  | _ => cases he

/-- Only windows that are open before an operation are told anything by it, and of a close only the
window that is closed. -/
theorem deliver_apply (hd : d.toScene.Sound)
    (he : Effect.deliver sink id event size ∈ (d.apply op).effects) :
    id ∈ d.stack.ids ∧ (event = .close → op = .close id) := by
  rw [← deliver_mem_deliveries] at he
  cases hop : op.isPointer with
  | true =>
    rw [(d.takes_apply hop).delivers, deliver_mem_deliveries] at he
    obtain ⟨hid, hevent⟩ := hd.deliver_steps he
    exact ⟨hid, fun h => absurd h hevent⟩
  | false => exact (d.edits_apply hop).deliver he

/-! ### Which windows are open -/

theorem fresh_apply (hd : d.toScene.Sound) (h : (d.apply op).result = .created id) :
    id ∉ d.stack.ids := by
  rw [(d.created_apply h).1]
  exact fun hopen => Nat.lt_irrefl _ (hd.ok.stack.given _ hopen).2

theorem not_created_of_given (hgiven : id.number.toNat < d.stack.nextId.toNat) :
    (d.apply op).result ≠ .created id := by
  intro hcreated
  rw [(d.created_apply hcreated).1] at hgiven
  exact Nat.lt_irrefl _ hgiven

theorem mem_ids_apply (hd : d.toScene.Sound) (hid : id ∈ (d.apply op).state.stack.ids) :
    id ∈ d.stack.ids ∨ (d.apply op).result = .created id := by
  cases hop : op.isPointer with
  | true =>
    rw [(d.takes_apply hop).scene] at hid
    exact .inl ((hd.sinks_steps d.config _).mem_ids hid)
  | false =>
    obtain ⟨w', hw'⟩ := Stack.mem_ids.1 hid
    rcases (d.edits_apply hop).window hd hw' with ⟨w, hw, -⟩ | ⟨-, hcreated, -⟩
    · exact .inl (Stack.mem_ids.2 ⟨w, hw⟩)
    · exact .inr hcreated

/-- A window that is closed stays closed. -/
theorem gone_apply (hd : d.toScene.Sound) (hid : id ∉ d.stack.ids)
    (hgiven : id.number.toNat < d.stack.nextId.toNat) : id ∉ (d.apply op).state.stack.ids :=
  fun h => (mem_ids_apply hd h).elim hid (not_created_of_given hgiven)

theorem mem_closes (hid : id ∈ d.closes op) : op = .close id ∧ (d.apply op).result = .done := by
  unfold closes at hid
  cases op with
  | close id' =>
    generalize hreply : (d.apply (.close id')).result = reply at hid
    cases reply with
    | done =>
      rw [List.mem_singleton.1 hid]
      exact ⟨rfl, rfl⟩
    | _ => cases hid
  | _ => cases hid

theorem stays_open (hd : d.toScene.Sound) (hid : id ∈ d.stack.ids) (hop : id ∉ d.closes op) :
    id ∈ (d.apply op).state.stack.ids := by
  rcases order_apply hd.ok op with ⟨-, -, hids⟩ | ⟨id', -, -, hcloses, hids⟩
  · rw [hids]
    exact mem_toTop.2 (.inl hid)
  · rw [hids]
    rw [hcloses, List.mem_singleton] at hop
    exact (List.mem_erase_of_ne hop).2 hid

/-- The close of an open window takes it out, and tells it so if it has a sink for that. -/
theorem close_open {w : Window} (hd : d.toScene.Sound) (hw : d.stack.find? id = some w) :
    d.closes (.close id) = [id] ∧ id ∉ (d.apply (.close id)).state.stack.ids ∧
      ((w.sinks.get? .close).isSome = true →
        eventsTo id (d.apply (.close id)).effects = [.close]) := by
  have hdraw : WindowEvent.close.kind ≠ .draw := by simp [WindowEvent.kind]
  have hwok := hd.windows w (Stack.mem_of_find? hw)
  have htold := Stack.state_notify hd.ok.stack.nodup hd.windows hdraw id
  have hclose : d.apply (.close id) =
      { state := { d with stack := d.stack.remove id, tracker := (d.tracker.forget id).state }
        effects := w.handed .close ++ (d.tracker.forget id).effects ++ [.log (.closed id)]
        result := .done } := by
    show answered (d.close id) = _
    unfold answered close
    rw [hw]
    dsimp only
    rw [htold, Stack.notify_eq hw, (hwok.notify hdraw).2]
    rfl
  unfold closes
  rw [hclose]
  refine ⟨rfl, fun hid => ?_, fun hbound => ?_⟩
  · obtain ⟨v, hv⟩ := Stack.mem_ids.1 hid
    exact absurd hv (by rw [hd.ok.stack.find?_remove]; simp)
  · obtain ⟨sink, hsink⟩ := Option.isSome_iff_exists.1 hbound
    have hget : w.sinks.get? WindowEvent.close.kind = some sink := hsink
    have hforget : eventsTo id (d.tracker.forget id).effects = [] := by
      refine List.eq_nil_iff_forall_not_mem.2 fun event he => ?_
      obtain ⟨_, _, he⟩ := mem_eventsTo.1 he
      obtain ⟨notice, hlog⟩ := log_forget d.tracker id _ he
      cases hlog
    dsimp only
    rw [eventsTo_append, eventsTo_append, hforget]
    simp [Window.handed, hget, eventsTo, Effect.eventTo?, Stack.id_of_find? hw]

theorem closes_open (hd : d.toScene.Sound) (hid : id ∈ d.closes op) : id ∈ d.stack.ids := by
  rcases order_apply hd.ok op with ⟨-, hcloses, -⟩ | ⟨id', hopen, -, hcloses, -⟩
  · rw [hcloses] at hid
    cases hid
  · rw [hcloses, List.mem_singleton] at hid
    rw [hid]
    exact hopen

/-! ### The sink for the close -/

/-- The window, if it is open, has a sink for its close. -/
def Heeds (d : Desktop) (id : WindowId) : Prop :=
  ∀ w, d.stack.find? id = some w → (w.sinks.get? .close).isSome = true

theorem Heeds.apply (h : d.Heeds id) (hd : d.toScene.Sound) (hid : id ∈ d.stack.ids)
    (hop : ∀ kind, op ≠ .clearSink id kind) : (d.apply op).state.Heeds id := by
  intro w' hw'
  rcases sinks_cases hd hw' with ⟨w, hw, hsinks | ⟨sink, -, hsinks⟩ | ⟨kind, hclear, -⟩⟩ | ⟨hnone, -⟩
  · rw [hsinks]
    exact h w hw
  · rw [hsinks, Sinks.set, Sinks.get?_put]
    split
    · rfl
    · exact h w hw
  · exact absurd hclear (hop kind)
  · obtain ⟨w, hw⟩ := Stack.mem_ids.1 hid
    cases hnone.symm.trans hw

theorem heeds_setSink {sink : EventSink} (hid : id ∈ d.stack.ids) (hkind : sink.kind = .close) :
    (d.apply (.setSink id sink)).state.Heeds id := by
  obtain ⟨w, hw⟩ := Stack.mem_ids.1 hid
  intro w' hw'
  cases hw'.symm.trans (find?_update hw rfl rfl)
  dsimp only
  rw [Sinks.set, Sinks.get?_put, if_pos hkind.symm]
  rfl

/-- The window has a sink for its close, or the next operations bind one. -/
def Ready (d : Desktop) (id : WindowId) (ops : List Operation) : Prop :=
  d.Heeds id ∨
    ∃ sinks : List EventSink, sinks.map (.setSink id) <+: ops ∧ ∃ sink ∈ sinks, sink.kind = .close

theorem Ready.heeds {ops : List Operation} (h : d.Ready id (.close id :: ops)) : d.Heeds id := by
  rcases h with h | ⟨sinks, hbinds, sink, hsink, -⟩
  · exact h
  · cases sinks with
    | nil => cases hsink
    | cons _ _ => simp at hbinds

theorem Ready.apply {ops : List Operation} (h : d.Ready id (op :: ops)) (hd : d.toScene.Sound)
    (hid : id ∈ d.stack.ids) (hop : ∀ kind, op ≠ .clearSink id kind) :
    (d.apply op).state.Ready id ops := by
  rcases h with h | ⟨sinks, hbinds, sink, hsink, hkind⟩
  · exact .inl (h.apply hd hid hop)
  · cases sinks with
    | nil => cases hsink
    | cons first sinks =>
      rw [List.map_cons, List.cons_prefix_cons] at hbinds
      obtain ⟨rfl, hbinds⟩ := hbinds
      rcases List.mem_cons.1 hsink with rfl | hsink
      · exact .inl (heeds_setSink hid hkind)
      · exact .inr ⟨sinks, hbinds, sink, hsink, hkind⟩

end Desktop

/-! ### Lives -/

inductive Moment where
  | opened
  | told (event : WindowEvent)
  | closed
deriving DecidableEq, Repr

def Moment.event? : Moment → Option WindowEvent
  | .told event => some event
  | .opened | .closed => none

namespace Desktop
variable {d : Desktop} {op : Operation} {ops : List Operation} {id : WindowId}

/-- What happens to the window `id` in an operation. -/
def moments (d : Desktop) (id : WindowId) (op : Operation) : List Moment :=
  (if (d.apply op).result = .created id then [.opened] else []) ++
    (eventsTo id (d.apply op).effects).map .told ++ (if id ∈ d.closes op then [.closed] else [])

def life (d : Desktop) (id : WindowId) : List Operation → List Moment
  | [] => []
  | op :: ops => d.moments id op ++ (d.apply op).state.life id ops

/-- The run binds a sink of every kind to the window `id` as soon as it is open, and never takes one
out of it. -/
structure Attends (d : Desktop) (id : WindowId) (ops : List Operation) : Prop where
  bound : ∀ before op after, ops = before ++ op :: after →
    ((d.run before).state.apply op).result = .created id →
    ∃ sinks : List EventSink, sinks.map (.setSink id) <+: after ∧ ∀ kind, ∃ sink ∈ sinks, sink.kind = kind
  kept : ∀ kind, .clearSink id kind ∉ ops

theorem Attends.tail (h : d.Attends id (op :: ops)) : (d.apply op).state.Attends id ops := by
  refine ⟨fun before op' after hops => ?_, fun kind hmem => h.kept kind (List.mem_cons_of_mem op hmem)⟩
  exact h.bound (op :: before) op' after (by rw [hops, List.cons_append])

theorem Attends.ready (h : d.Attends id (op :: ops)) (hcreated : (d.apply op).result = .created id) :
    (d.apply op).state.Ready id ops := by
  obtain ⟨sinks, hbinds, hkinds⟩ := h.bound [] op ops rfl hcreated
  exact .inr ⟨sinks, hbinds, hkinds .close⟩

theorem Attends.of_created (hcreated : (d.apply op).result = .created id)
    {sinks : List EventSink} (hbinds : sinks.map (.setSink id) <+: ops)
    (hkinds : ∀ kind, ∃ sink ∈ sinks, sink.kind = kind) (hkept : ∀ kind, .clearSink id kind ∉ op :: ops) :
    d.Attends id (op :: ops) := by
  refine ⟨fun before op' after hops hagain => ?_, hkept⟩
  cases before with
  | nil =>
    obtain ⟨-, rfl⟩ := List.cons.inj hops
    exact ⟨sinks, hbinds, hkinds⟩
  | cons first before =>
    -- an id is given out once, so no later operation opens the window again
    obtain ⟨rfl, -⟩ := List.cons.inj hops
    have hgiven := (d.created_apply hcreated).2.1
    have hnext := (d.apply op).state.nextId_le_run before
    have hid : id = ⟨((d.apply op).state.run before).state.stack.nextId⟩ :=
      (created_apply _ hagain).1
    rw [hid] at hgiven
    exact absurd hgiven (Nat.not_lt.2 hnext)

/-- While a window is not open, nothing happens to it but that it is opened. -/
theorem moments_of_not_open (hd : d.toScene.Sound) (hid : id ∉ d.stack.ids) :
    d.moments id op = if (d.apply op).result = .created id then [.opened] else [] := by
  have hevents : eventsTo id (d.apply op).effects = [] := by
    refine List.eq_nil_iff_forall_not_mem.2 fun event he => ?_
    obtain ⟨_, _, he⟩ := mem_eventsTo.1 he
    exact hid (deliver_apply hd he).1
  unfold moments
  rw [hevents, if_neg fun hcloses => hid (closes_open hd hcloses)]
  simp

theorem moments_of_open (hd : d.toScene.Sound) (hid : id ∈ d.stack.ids) (hop : op ≠ .close id) :
    d.moments id op = (eventsTo id (d.apply op).effects).map .told ∧
      .close ∉ eventsTo id (d.apply op).effects := by
  constructor
  · unfold moments
    rw [if_neg fun hcreated => fresh_apply hd hcreated hid,
      if_neg fun hcloses => hop (mem_closes hcloses).1]
    simp
  · intro he
    obtain ⟨_, _, he⟩ := mem_eventsTo.1 he
    exact hop ((deliver_apply hd he).2 rfl)

theorem moments_close (hd : d.toScene.Sound) (hid : id ∈ d.stack.ids) (hheeds : d.Heeds id) :
    d.moments id (.close id) = [.told .close, .closed] := by
  obtain ⟨w, hw⟩ := Stack.mem_ids.1 hid
  obtain ⟨hcloses, -, htold⟩ := close_open hd hw
  unfold moments
  rw [if_neg fun hcreated => fresh_apply hd hcreated hid, htold (hheeds w hw),
    hcloses, if_pos (List.mem_singleton.2 rfl)]
  rfl

theorem life_of_gone (hd : d.toScene.Sound) (hid : id ∉ d.stack.ids)
    (hgiven : id.number.toNat < d.stack.nextId.toNat) : d.life id ops = [] := by
  induction ops generalizing d with
  | nil => rfl
  | cons op ops ih =>
    -- the next id is past this one already, and only grows
    have hnext := d.nextId_le_apply op
    unfold life
    rw [moments_of_not_open hd hid, if_neg (not_created_of_given hgiven),
      ih (hd.apply op) (gone_apply hd hid hgiven) (by omega)]
    rfl

/-- An open window is told events until it is told that it is closed. -/
theorem life_of_open (hd : d.toScene.Sound) (hid : id ∈ d.stack.ids) (hready : d.Ready id ops)
    (hkept : ∀ kind, .clearSink id kind ∉ ops) :
    ∃ events : List WindowEvent, .close ∉ events ∧ (d.life id ops = events.map .told ∨
      d.life id ops = events.map .told ++ [.told .close, .closed]) := by
  induction ops generalizing d with
  | nil => exact ⟨[], List.not_mem_nil, .inl rfl⟩
  | cons op ops ih =>
    by_cases hop : op = .close id
    · subst hop
      obtain ⟨w, hw⟩ := Stack.mem_ids.1 hid
      obtain ⟨-, hgone, -⟩ := close_open hd hw
      have hnext := d.nextId_le_apply (.close id)
      have hgiven := (hd.ok.stack.given id hid).2
      refine ⟨[], List.not_mem_nil, .inr ?_⟩
      unfold life
      rw [moments_close hd hid hready.heeds, life_of_gone (hd.apply _) hgone (by omega)]
      rfl
    · have hunbind : ∀ kind, op ≠ .clearSink id kind := fun kind heq =>
        hkept kind (heq ▸ List.mem_cons_self)
      have hopen := stays_open hd hid fun hcloses => hop (mem_closes hcloses).1
      obtain ⟨hmoments, hevents⟩ := moments_of_open hd hid hop
      obtain ⟨events, hno, hlife⟩ := ih (hd.apply op) hopen (hready.apply hd hid hunbind)
        fun kind h => hkept kind (List.mem_cons_of_mem op h)
      refine ⟨eventsTo id (d.apply op).effects ++ events, by simp [hevents, hno], ?_⟩
      unfold life
      rw [hmoments, List.map_append]
      rcases hlife with hlife | hlife <;> rw [hlife]
      · exact .inl rfl
      · exact .inr (List.append_assoc ..).symm

theorem life_of_not_open (hd : d.toScene.Sound) (hid : id ∉ d.stack.ids)
    (hattends : d.Attends id ops) :
    d.life id ops = [] ∨ ∃ events : List WindowEvent, .close ∉ events ∧
      (d.life id ops = .opened :: events.map .told ∨
        d.life id ops = .opened :: events.map .told ++ [.told .close, .closed]) := by
  induction ops generalizing d with
  | nil => exact .inl rfl
  | cons op ops ih =>
    unfold life
    rw [moments_of_not_open hd hid]
    by_cases hcreated : (d.apply op).result = .created id
    · obtain ⟨events, hno, hlife⟩ := life_of_open (hd.apply op) (d.created_apply hcreated).2.2
        (hattends.ready hcreated) hattends.tail.kept
      rw [if_pos hcreated]
      refine .inr ⟨events, hno, ?_⟩
      rcases hlife with hlife | hlife <;> rw [hlife]
      · exact .inl rfl
      · exact .inr rfl
    · rw [if_neg hcreated]
      exact ih (hd.apply op) (fun h => (mem_ids_apply hd h).elim hid hcreated) hattends.tail

theorem events_life (d : Desktop) (id : WindowId) (ops : List Operation) :
    (d.life id ops).filterMap Moment.event? = eventsTo id (d.run ops).effects := by
  induction ops generalizing d with
  | nil => rfl
  | cons op ops ih =>
    have hmoments : (d.moments id op).filterMap Moment.event? =
        eventsTo id (d.apply op).effects := by
      have htold : Moment.event? ∘ Moment.told = some := rfl
      have hopened : [Moment.opened].filterMap Moment.event? = [] := rfl
      have hclosed : [Moment.closed].filterMap Moment.event? = [] := rfl
      unfold moments
      rw [List.filterMap_append, List.filterMap_append, List.filterMap_map, htold,
        List.filterMap_some]
      split <;> split <;> simp [hopened, hclosed]
    unfold life run
    rw [List.filterMap_append, hmoments, ih, eventsTo_append]

/-- What happens to a window of which all sinks are bound as soon as it is open, and never unbound, in a
run from a desktop without windows: nothing at all, if it is not opened; or it is opened and told
events, none of them a close, for as long as it is open; and then it may be told that it is closed, and
is, and that is the end of it. -/
theorem window_life (config : Config) (theme : Theme) (display : Display) (heap : Heap) {id : WindowId}
    {ops : List Operation} (hattends : (start config theme display heap).state.Attends id ops) :
    let fresh := (start config theme display heap).state
    let life := fresh.life id ops
    eventsTo id (fresh.run ops).effects = life.filterMap Moment.event? ∧
      (life = [] ∨ ∃ events : List WindowEvent, .close ∉ events ∧ (life = .opened :: events.map .told ∨
        life = .opened :: events.map .told ++ [.told .close, .closed])) := by
  intro fresh life
  have hfresh : fresh.toScene.Sound := (Reachable.start config theme display heap).sound
  exact ⟨(fresh.events_life id ops).symm,
    life_of_not_open hfresh (fun h => by cases h) hattends⟩

/-- A window is closed while it is dragged. Then another window is opened, has keys pressed and is
painted. -/
theorem window_life_closed_in_drag :
    let fresh := (start {} {} .software (.upTo 4194304)).state
    let sinks := [.close "c", .resize "r", .mouseMove "m", .mouseButton "b", .keyPress "k", .draw "d" []]
    let ops := .create "w" ⟨20, 20⟩ .titled :: (sinks.map (.setSink ⟨1⟩) ++
      [.pointTo ⟨105, 105⟩ .none, .paint, .pointTo ⟨105, 105⟩ .left, .close ⟨1⟩,
        .create "v" ⟨20, 20⟩ .titled, .pointTo ⟨106, 105⟩ .none, .pressKey 65, .paint])
    fresh.Attends ⟨1⟩ ops ∧
      eventsTo ⟨1⟩ (fresh.run ops).effects = [.mouseMove ⟨5, 5⟩ .none, .draw, .close] ∧
      ∃ events : List WindowEvent, .close ∉ events ∧
        fresh.life ⟨1⟩ ops = .opened :: events.map .told ++ [.told .close, .closed] := by
  intro fresh sinks ops
  have hattends : fresh.Attends ⟨1⟩ ops := by
    refine .of_created (by decide +kernel) (List.prefix_append _ _) (fun kind => ?_) fun kind => ?_
    · cases kind <;> simp [sinks, EventSink.kind]
    · simp [sinks]
  have hlife : fresh.life ⟨1⟩ ops =
      [.opened, .told (.mouseMove ⟨5, 5⟩ .none), .told .draw, .told .close, .closed] := by
    decide +kernel
  obtain ⟨hevents, hends⟩ := window_life {} {} .software _ hattends
  refine ⟨hattends, hevents.trans (by rw [hlife]; rfl), ?_⟩
  rcases hends with hnone | ⟨events, hno, hopen | hclosed⟩
  · cases hlife.symm.trans hnone
  · have hmem : Moment.closed ∈ Moment.opened :: events.map .told := by
      rw [← hopen, hlife]
      simp
    simp at hmem
  · exact ⟨events, hno, hclosed⟩

end Desktop
end PointerDesktop
