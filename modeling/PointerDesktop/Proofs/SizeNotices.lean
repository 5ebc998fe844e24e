import PointerDesktop.Proofs.Deliveries
import PointerDesktop.Proofs.GestureLife
import PointerDesktop.Proofs.GivenIds
import PointerDesktop.Proofs.MinimumSize
import PointerDesktop.Proofs.PressRelease

/-!
# No size goes untold

`lastSizeTo id es`: the last size that the window `id` is told among the effects `es`. A sample or an
operation that gives a window another size tells its sink so (`Stack.Reports`): from a stack to the next
one, a window with a sink for sizes has the size that it was told last, or the one that it had. Main
statement: `Desktop.size_notices`.
-/

namespace PointerDesktop

/-- The size that the window `id` is told. -/
def Effect.sizeTo? (id : WindowId) : Effect → Option Size
  | .deliver _ id' (.resize size) _ => if id' = id then some size else none
  | _ => none

def lastSizeTo (id : WindowId) (es : List Effect) : Option Size :=
  (es.filterMap (·.sizeTo? id)).getLast?

section
variable {id : WindowId} {es : List Effect}

theorem getD_lastSizeTo_append (es fs : List Effect) (size : Size) :
    (lastSizeTo id (es ++ fs)).getD size = (lastSizeTo id fs).getD ((lastSizeTo id es).getD size) := by
  unfold lastSizeTo
  rw [List.filterMap_append, List.getLast?_append]
  cases (fs.filterMap (·.sizeTo? id)).getLast? <;> rfl

theorem lastSizeTo_deliveries (es : List Effect) :
    lastSizeTo id (deliveries es) = lastSizeTo id es := by
  unfold lastSizeTo deliveries
  rw [List.filterMap_filter]
  congr 2
  funext e
  cases e <;> simp [Effect.isDelivery, Effect.sizeTo?]

theorem lastSizeTo_eq_none (h : ∀ e ∈ es, e.sizeTo? id = none) : lastSizeTo id es = none := by
  unfold lastSizeTo
  rw [List.filterMap_eq_nil_iff.2 h]
  rfl

theorem Effect.kind?_of_sizeTo? {e : Effect} {size : Size} (h : e.sizeTo? id = some size) :
    e.kind? = some .resize := by
  cases e with
  | deliver sink id' event surface => cases event <;> simp_all [sizeTo?, kind?, WindowEvent.kind]
  | _ => cases h

theorem lastSizeTo_of_only {kind : Option EventKind} (h : Only kind es)
    (hkind : kind ≠ some .resize) : lastSizeTo id es = none := by
  refine lastSizeTo_eq_none fun e he => ?_
  cases hsize : e.sizeTo? id with
  | none => rfl
  | some size =>
    have hresize := Effect.kind?_of_sizeTo? hsize
    rcases h e he with h | h
    · simp [hresize] at h
    · exact absurd (h.symm.trans hresize) hkind

theorem Window.lastSizeTo_notify {w : Window} (hid : id ≠ w.id) (event : WindowEvent) :
    lastSizeTo id (w.notify event).effects = none := by
  refine lastSizeTo_eq_none fun e he => ?_
  rcases w.notify_cases event with h | ⟨sink, -, h⟩ <;> rw [h] at he
  · cases he
  · rw [List.mem_singleton.1 he]
    cases event <;> simp [Effect.sizeTo?, Ne.symm hid]

end

/-- What is open under `id` in `s'` was open in `s`, and if it has a sink for sizes, its size is the one
that it has been told last with `es`, or the one that it had. -/
def Stack.Reports (id : WindowId) (s s' : Stack) (es : List Effect) : Prop :=
  ∀ w', s'.find? id = some w' → ∃ w, s.find? id = some w ∧ w'.sinks = w.sinks ∧
    ((w'.sinks.get? .resize).isSome = true → w'.size = (lastSizeTo id es).getD w.size)

namespace Stack.Reports
variable {s s' s'' : Stack} {id id' : WindowId} {es fs : List Effect} {v w : Window}
  {event : WindowEvent}

theorem of_find? (h : s'.find? id = s.find? id) (hes : lastSizeTo id es = none) :
    Reports id s s' es :=
  fun w hw => ⟨w, h ▸ hw, rfl, fun _ => by simp [hes]⟩

theorem trans (h : Reports id s s' es) (h' : Reports id s' s'' fs) :
    Reports id s s'' (es ++ fs) := by
  intro w'' hw''
  obtain ⟨w', hw', hsinks', hsize'⟩ := h' w'' hw''
  obtain ⟨w, hw, hsinks, hsize⟩ := h w' hw'
  refine ⟨w, hw, hsinks'.trans hsinks, fun hbound => ?_⟩
  rw [hsize' hbound, hsize (hsinks' ▸ hbound), getD_lastSizeTo_append]

/-- A window is replaced by one of the same size. -/
theorem put (hv : s.find? w.id = some v) (hsinks : w.sinks = v.sinks) (hsize : w.size = v.size) :
    Reports id s (s.put w) [] := by
  by_cases hid : id = w.id
  · subst hid
    intro w' hw'
    rw [find?_put_self hv] at hw'
    cases hw'
    exact ⟨v, hv, hsinks, fun _ => hsize⟩
  · exact of_find? (find?_put_ne hid) rfl

/-- A window is told something, but no other size than its own. -/
theorem notify (hevent : ∀ w size, s.find? id' = some w → event = .resize size → size = w.size) :
    Reports id s (s.notify id' event).state (s.notify id' event).effects := by
  cases hw : s.find? id' with
  | none =>
    unfold Stack.notify
    rw [hw]
    exact of_find? rfl rfl
  | some w =>
    have hid' := id_of_find? hw
    by_cases hid : id = id'
    · subst hid
      intro w' hw'
      rw [find?_notify_self hw] at hw'
      cases hw'
      refine ⟨w, hw, rfl, fun _ => ?_⟩
      show w.size = _
      rw [notify_eq hw]
      rcases w.notify_cases event with h | ⟨sink, -, h⟩ <;> rw [h]
      · rfl
      · cases event with
        | resize size => simp [lastSizeTo, Effect.sizeTo?, hid', hevent w size hw rfl]
        | _ => rfl
    · refine of_find? (find?_notify_ne hid event) ?_
      rw [notify_eq hw]
      exact Window.lastSizeTo_notify (hid' ▸ hid) event

/-- A window is replaced by one of another size, and told so. -/
theorem tell (hv : s.find? w.id = some v) (hw : w.Ok) (hsinks : w.sinks = v.sinks) :
    Reports id s ((s.put w).notify w.id (.resize w.size)).state
      ((s.put w).notify w.id (.resize w.size)).effects := by
  have hdraw : (WindowEvent.resize w.size).kind ≠ .draw := by simp [WindowEvent.kind]
  rw [hw.notify_put hv hdraw]
  by_cases hid : id = w.id
  · subst hid
    intro w' hw'
    rw [find?_put_self hv] at hw'
    cases hw'
    refine ⟨v, hv, hsinks, fun hbound => ?_⟩
    obtain ⟨sink, hsink⟩ := Option.isSome_iff_exists.1 hbound
    simp [Window.handed, WindowEvent.kind, hsink, lastSizeTo, Effect.sizeTo?]
  · refine of_find? (find?_put_ne hid) (lastSizeTo_eq_none fun e he => ?_)
    obtain ⟨sink, -, rfl⟩ := List.mem_map.1 he
    simp [Effect.sizeTo?, Ne.symm hid]

end Stack.Reports

/-! ### Samples -/

theorem Window.size_of_releaseEvent? {w : Window} {p : Point} {g : Gesture} {size : Size}
    (h : w.releaseEvent? p g = some (.resize size)) : size = w.size := by
  cases g <;> grind [releaseEvent?]

namespace Scene
variable {s : Scene} {t : Traced Scene} {config : Config} {p : Point} {id : WindowId}

theorem reports_raiseAt (hs : s.stack.Ok) (p : Point) :
    Stack.Reports id s.stack (s.raiseAt p).stack [] :=
  .of_find? (find?_raiseAt hs.nodup p id) rfl

theorem Acts.reports (h : Acts config p s t) (hs : s.stack.Ok) (hok : ∀ w ∈ s.stack.windows, w.Ok) :
    Stack.Reports id s.stack t.state.stack t.effects := by
  cases h with
  | raise _ => exact reports_raiseAt hs p
  | click _ _ _ _ _ => exact .notify fun _ _ _ h => by cases h
  | hover _ _ _ _ => exact .notify fun _ _ _ h => by cases h
  | @drag d w _ hw =>
    rw [← Stack.id_of_find? hw] at hw
    exact .put (w := w.dragged d p) hw rfl rfl
  | @pull d w w' _ _ _ _ hw hw' hsame =>
    rw [← Stack.id_of_find? hw, ← Window.id_resize hw'] at hw
    refine .put (w := w'.moveTo _ _) hw ?_ ((Window.size_resize hw').trans hsame)
    show w'.sinks = w.sinks
    rw [Window.resize_eq hw']
  | @pullTell d w w' _ _ _ _ hw hw' =>
    have hid : d.window = w'.id := by rw [Window.id_resize hw', Stack.id_of_find? hw]
    have hw'ok := (hok w (Stack.mem_of_find? hw)).resize hw'
    rw [hid] at hw ⊢
    have hsize : (w.resizeTarget d p).size =
        (w'.moveTo (w.resizeTarget d p).x (w.resizeTarget d p).y).size :=
      (Window.size_resize hw').symm
    rw [hsize]
    refine .tell (w := w'.moveTo _ _) hw ⟨hw'ok.nonempty, hw'ok.surface, hw'ok.sinks⟩ ?_
    show w'.sinks = w.sinks
    rw [Window.resize_eq hw']
  | release _ hw he =>
    obtain ⟨id', -, hfind⟩ := Option.bind_eq_some_iff.1 hw
    refine .notify fun v size hv h => ?_
    rw [Stack.id_of_find? hfind] at hv
    cases hfind.symm.trans hv
    exact Window.size_of_releaseEvent? (h ▸ he)
  | _ => exact .of_find? rfl rfl

theorem Ok.reports_step (h : s.Ok) (hok : ∀ w ∈ s.stack.windows, w.Ok) (config : Config) (p : Point)
    (buttons : Buttons) :
    Stack.Reports id s.stack (s.step config p buttons).state.stack
      (s.step config p buttons).effects := by
  have hact : Stack.Reports id s.stack (s.act config p buttons).state.stack
      (s.act config p buttons).effects := (acts_act (s := s)).reports h.stack hok
  unfold Scene.step
  dsimp only
  split
  · have hraise := hact.trans (reports_raiseAt (h.act config p buttons).stack p)
    rwa [List.append_nil] at hraise
  · exact hact

theorem Ok.reports_steps (h : s.Ok) (hok : ∀ w ∈ s.stack.windows, w.Ok) (config : Config)
    (qs : List Sample) :
    Stack.Reports id s.stack (s.steps config qs).state.stack (s.steps config qs).effects := by
  induction qs generalizing s with
  | nil => exact .of_find? rfl rfl
  | cons q qs ih =>
    exact (h.reports_step hok config q.position q.buttons).trans
      (ih (h.step config q.position q.buttons) (windows_ok_step hok config q.position q.buttons))

end Scene

/-! ### Operations -/

/-- What is open under `id` in `s'` and has a sink for sizes was open in `s`, and its size is the one
that it has been told last with `es`, or the one that it had. -/
def Stack.Told (id : WindowId) (s s' : Stack) (es : List Effect) : Prop :=
  ∀ w', s'.find? id = some w' → (w'.sinks.get? .resize).isSome = true →
    ∃ w, s.find? id = some w ∧ w'.size = (lastSizeTo id es).getD w.size

theorem Stack.Reports.told {s s' : Stack} {id : WindowId} {es : List Effect}
    (h : Reports id s s' es) : Told id s s' es := by
  intro w' hw' hbound
  obtain ⟨w, hw, -, hsize⟩ := h w' hw'
  exact ⟨w, hw, hsize hbound⟩

theorem Stack.told_deliveries {s s' : Stack} {id : WindowId} {es : List Effect} :
    Told id s s' (deliveries es) ↔ Told id s s' es := by
  unfold Told
  rw [lastSizeTo_deliveries]

namespace Desktop
variable {d : Desktop} {op : Operation} {id : WindowId}

theorem Edits.told {reply : Reply} {s' : Stack} {es : List Effect} (h : d.Edits op reply s' es)
    (hd : d.stack.Ok) (hok : ∀ w ∈ d.stack.windows, w.Ok)
    (hid : id.number.toNat < d.stack.nextId.toNat) : Stack.Told id d.stack s' es := by
  have hself : ∀ {id' w}, d.stack.find? id' = some w → d.stack.find? w.id = some w := by
    intro id' w hw
    rw [Stack.id_of_find? hw, hw]
  cases h with
  | refuse e => exact (Stack.Reports.of_find? rfl rfl).told
  | keep _ => exact (Stack.Reports.of_find? rfl rfl).told
  | @create _ _ _ w _ _ hw _ =>
    have hne : ¬ (w.id == id) = true := by
      rw [Window.id_create hw, beq_iff_eq]
      exact fun h => by simp [← h] at hid
    refine (Stack.Reports.of_find? ?_ rfl).told
    show (d.stack.windows ++ [w]).find? _ = d.stack.windows.find? _
    simp [List.find?_append, hne]
  | @close id' w hw =>
    have hnone : lastSizeTo id (d.stack.notify id' .close).effects = none :=
      lastSizeTo_of_only (Stack.only_notify _ _ .close) (by simp [WindowEvent.kind])
    refine Stack.told_deliveries.2 fun w' hw' _ => ?_
    by_cases heq : id = id'
    · -- the closed window is gone
      have hgone : id ∉ ((d.stack.notify id' .close).state.remove id').ids := by
        rw [Stack.ids_remove, Stack.ids_notify, heq]
        exact hd.nodup.not_mem_erase
      exact absurd (Stack.mem_ids.2 ⟨w', hw'⟩) hgone
    · rw [Stack.find?_remove_ne heq, Stack.find?_notify_ne heq] at hw'
      exact ⟨w', hw', by simp [hnone]⟩
  | @change _ id' _ w w' hop hw hw' =>
    obtain ⟨hsame, hsize⟩ := Operation.size_of_change? hop hw'
    have hw := hself hw
    rw [← hsame] at hw
    intro v hv _
    by_cases heq : id = w'.id
    · subst heq
      rw [Stack.find?_put_self hw] at hv
      cases hv
      exact ⟨w, hw, hsize⟩
    · rw [Stack.find?_put_ne heq] at hv
      exact ⟨v, hv, rfl⟩
  | @resize id' size w w' _ hw _ hw' hsize =>
    have hw := hself hw
    rw [← Window.id_resize hw'] at hw
    have hsinks : w'.sinks = w.sinks := by rw [Window.resize_eq hw']
    exact (Stack.Reports.put hw hsinks ((Window.size_resize hw').trans hsize)).told
  | @resizeTell id' size w w' _ hw _ hw' _ =>
    have hid' : id' = w'.id := by rw [Window.id_resize hw', Stack.id_of_find? hw]
    have hw'ok := (hok w (Stack.mem_of_find? hw)).resize hw'
    have hsinks : w'.sinks = w.sinks := by rw [Window.resize_eq hw']
    subst hid'
    rw [← Window.size_resize hw']
    exact Stack.told_deliveries.2 (Stack.Reports.tell hw hw'ok hsinks).told
  | @hide id' w hw _ =>
    have hw := hself hw
    exact (Stack.Reports.put (w := w.setVisible false) hw rfl rfl).told
  | @hideFocused id' w hw _ =>
    have hw := hself hw
    exact (Stack.Reports.put (w := w.setVisible false) hw rfl rfl).told
  | focus hw => exact (Stack.Reports.of_find? (Stack.find?_raise hd.nodup hw) rfl).told
  | @pressKey key id' _ =>
    have hkey : Stack.Reports id d.stack (d.stack.notify id' (.keyPress key)).state
        (d.stack.notify id' (.keyPress key)).effects := .notify fun _ _ _ h => by cases h
    exact Stack.told_deliveries.2 hkey.told
  | paint =>
    have hnone : lastSizeTo id (d.stack.paint d.display d.theme d.config d.cursor).effects = none :=
      lastSizeTo_of_only (d.stack.only_paint d.display d.theme d.config d.cursor) (by simp)
    refine Stack.told_deliveries.2 fun w' hw' _ => ?_
    rw [Stack.paint_state, Stack.find?_map _ fun w => w.id_paint _ _ _ _] at hw'
    obtain ⟨w, hw, rfl⟩ := Option.map_eq_some_iff.1 hw'
    refine ⟨w, hw, ?_⟩
    rw [hnone]
    simp [Window.size]

theorem Reachable.told_apply (hd : d.Reachable) (hid : id.number.toNat < d.stack.nextId.toNat)
    (op : Operation) : Stack.Told id d.stack (d.apply op).state.stack (d.apply op).effects := by
  cases hop : op.isPointer with
  | false => exact Stack.told_deliveries.1 ((d.edits_apply hop).told hd.ok.stack hd.window_ok hid)
  | true =>
    have htakes := d.takes_apply hop
    rw [← Stack.told_deliveries, htakes.scene, htakes.delivers, Stack.told_deliveries]
    exact (hd.ok.reports_steps hd.window_ok _ _).told

/-- If a window has a sink for sizes after every operation of a run, its size is the one that it has
been told last, or the one that it had at first. -/
theorem Reachable.told_run (hd : d.Reachable) (hid : id.number.toNat < d.stack.nextId.toNat)
    {ops : List Operation}
    (hbound : ∀ n < ops.length, ∀ w, (d.run (ops.take (n + 1))).state.stack.find? id = some w →
      (w.sinks.get? .resize).isSome = true) {w' : Window}
    (hw' : (d.run ops).state.stack.find? id = some w') :
    ∃ w, d.stack.find? id = some w ∧ w'.size = (lastSizeTo id (d.run ops).effects).getD w.size := by
  induction ops generalizing d with
  | nil => exact ⟨w', hw', rfl⟩
  | cons op ops ih =>
    have hnext : id.number.toNat < (d.apply op).state.stack.nextId.toNat :=
      Nat.lt_of_lt_of_le hid (d.nextId_le_apply op)
    obtain ⟨v, hv, hsize'⟩ := ih (hd.apply op) hnext
      (fun n hn => hbound (n + 1) (Nat.succ_lt_succ hn)) hw'
    obtain ⟨w, hw, hsize⟩ := hd.told_apply hid op v hv (hbound 0 (Nat.zero_lt_succ _) v hv)
    refine ⟨w, hw, ?_⟩
    rw [hsize', hsize, ← getD_lastSizeTo_append]
    rfl

theorem Edits.setSize_tells {size : Size} {w : Window} {sink : EventSink} {reply : Reply}
    {s' : Stack} {es : List Effect} (h : d.Edits (.setSize id size) reply s' es)
    (hw : d.stack.find? id = some w) (hok : w.Ok) (hsink : w.sinks.get? .resize = some sink) :
    es = if reply = .done ∧ size ≠ w.size then [.deliver sink id (.resize size) size] else [] := by
  cases h with
  | refuse e => exact (if_neg fun h => by cases h.1).symm
  | keep hop => cases hop
  | change hop _ _ => cases hop
  | resize hv _ _ hsize =>
    cases hw.symm.trans hv
    simp [hsize]
  | @resizeTell _ _ _ w' _ hv _ hw' hsize =>
    cases hw.symm.trans hv
    have hw'ok := hok.resize hw'
    have hid : id = w'.id := by rw [Window.id_resize hw', Stack.id_of_find? hw]
    have hw'sink : w'.sinks.get? .resize = some sink := by rw [Window.resize_eq hw', hsink]
    have hdraw : (WindowEvent.resize size).kind ≠ .draw := by simp [WindowEvent.kind]
    subst hid
    rw [hw'ok.notify_put hw hdraw, Window.deliveries_handed]
    simp [Window.handed, WindowEvent.kind, hw'sink, hsize, Window.size_resize hw']

theorem Window.size_create {title : String} {size : Size} {flags : Flags} {config : Config}
    {background : Color} {heap heap' : Heap} {w : Window}
    (h : Window.create id title size flags config background heap = (.ok w, heap')) :
    w.size = size := by
  rw [(Window.create_eq h).2]
  rfl

theorem Edits.size_created {title : String} {size : Size} {flags : Flags} {s' : Stack}
    {es : List Effect} {w : Window} (h : d.Edits (.create title size flags) (.created id) s' es)
    (hd : d.stack.Ok) (hw : s'.find? id = some w) : w.size = size := by
  cases h with
  | create hcreate _ =>
    rcases List.mem_append.1 (Stack.mem_of_find? hw) with hmem | hmem
    · have hgiven := (hd.given _ (Stack.id_mem_ids hmem)).2
      rw [Stack.id_of_find? hw] at hgiven
      exact absurd hgiven (Nat.lt_irrefl _)
    · rw [List.mem_singleton.1 hmem]
      exact Window.size_create hcreate

/-- A window that has a sink for sizes from its first operation on knows its size: at the end of any run
its size is the one that it has been told last, or the one that it was created with. A caller who sets
its size has it told if the call succeeds and the size is another one, and not otherwise. -/
theorem size_notices (hd : d.Reachable) {title : String} {size : Size} {flags : Flags}
    (hcreated : (d.apply (.create title size flags)).result = .created id) {ops : List Operation}
    (hbound : ∀ n < ops.length, ∀ w,
      ((d.apply (.create title size flags)).state.run (ops.take (n + 1))).state.stack.find? id =
        some w → (w.sinks.get? .resize).isSome = true) :
    let ran := (d.apply (.create title size flags)).state.run ops
    ∀ w, ran.state.stack.find? id = some w →
      w.size = (lastSizeTo id ran.effects).getD size ∧
      ∀ sink, w.sinks.get? .resize = some sink → ∀ size',
        let set := ran.state.apply (.setSize id size')
        deliveries set.effects =
          if set.result = .done ∧ size' ≠ w.size then [.deliver sink id (.resize size') size']
          else [] := by
  intro ran w hw
  have hopened : (d.apply (.create title size flags)).state.Reachable := hd.apply _
  have hran : ran.state.Reachable := hopened.run ops
  refine ⟨?_, fun sink hsink size' => ?_⟩
  · have hop : (Operation.create title size flags).isPointer = false := rfl
    have hedits := d.edits_apply hop
    rw [hcreated] at hedits
    obtain ⟨v, hv, hsize⟩ := hopened.told_run hedits.created.2.1 hbound hw
    rw [hsize, hedits.size_created hd.ok.stack hv]
  · exact (ran.state.edits_apply rfl).setSize_tells hw
      (hran.window_ok w (Stack.mem_of_find? hw)) hsink

/-- A window is resized by a caller and then by its right edge; between the two the caller asks for a
size below its minimum. -/
theorem size_notices_to_edge :
    let d := (start {} {} .software (.upTo 4194304)).state
    let opened := (d.apply (.create "w" ⟨200, 200⟩ .resizable)).state
    let ops := [.setSink ⟨1⟩ (.resize "r"), .setSize ⟨1⟩ ⟨300, 250⟩, .setSize ⟨1⟩ ⟨9, 9⟩,
      .pointTo ⟨400, 200⟩ .left, .pointTo ⟨420, 200⟩ .left, .pointTo ⟨420, 200⟩ .none]
    let ran := opened.run ops
    ∃ w, ran.state.stack.find? ⟨1⟩ = some w ∧ w.size = ⟨320, 250⟩ ∧
      lastSizeTo ⟨1⟩ ran.effects = some ⟨320, 250⟩ ∧
      deliveries (ran.state.apply (.setSize ⟨1⟩ ⟨320, 200⟩)).effects =
        [.deliver (.resize "r") ⟨1⟩ (.resize ⟨320, 200⟩) ⟨320, 200⟩] := by
  intro d opened ops ran
  have hbound : ∀ n < ops.length, ((opened.run (ops.take (n + 1))).state.stack.find? ⟨1⟩).all
      (fun w => (w.sinks.get? .resize).isSome) = true := by decide +kernel
  have hcreated : (d.apply (.create "w" ⟨200, 200⟩ .resizable)).result = .created ⟨1⟩ := by
    decide +kernel
  have hlast : lastSizeTo ⟨1⟩ ran.effects = some ⟨320, 250⟩ := by decide +kernel
  have hdone : (ran.state.apply (.setSize ⟨1⟩ ⟨320, 200⟩)).result = .done := by decide +kernel
  have hsink : (ran.state.stack.find? ⟨1⟩).bind (·.sinks.get? .resize) = some (.resize "r") := by
    decide +kernel
  obtain ⟨w, hw, hsink⟩ := Option.bind_eq_some_iff.1 hsink
  have hall : ∀ n < ops.length, ∀ w, (opened.run (ops.take (n + 1))).state.stack.find? ⟨1⟩ =
      some w → (w.sinks.get? .resize).isSome = true := by
    intro n hn w hw
    have hn := hbound n hn
    rwa [hw] at hn
  have hstart : d.Reachable := .start {} {} .software (.upTo 4194304)
  have hran : ran = (d.apply (.create "w" ⟨200, 200⟩ .resizable)).state.run ops := rfl
  rw [hran] at hw hlast hdone ⊢
  obtain ⟨hsize, htells⟩ := size_notices hstart hcreated hall w hw
  have hsize : w.size = ⟨320, 250⟩ := by rw [hsize, hlast, Option.getD_some]
  refine ⟨w, hw, hsize, hlast, ?_⟩
  rw [htells _ hsink ⟨320, 200⟩, if_pos ⟨hdone, by rw [hsize]; decide⟩]

end Desktop
end PointerDesktop
