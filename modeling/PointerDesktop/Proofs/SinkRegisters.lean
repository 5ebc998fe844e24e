import PointerDesktop.Proofs.WindowLife

/-!
# Sinks are registers

`Sinks.requests s rs`: the sinks that the requests `rs` make of `s`. What is in the place for a kind of
event is decided by the last request that concerns the kind (`Sinks.get?_requests`), so each place is a
register of its own, and what it holds is handed the next event of the kind. In a run of a desktop the
sinks of a window are made by the calls that bind and unbind them, and by nothing else
(`Desktop.sinksOf_run`). Main statements: `Sinks.places_are_registers`, `Desktop.bound_iff_last_set`.
-/

namespace PointerDesktop

/-- Every place is the one for some kind. -/
theorem EventKind.exists_index {i : Nat} (hi : i < count) : ∃ kind : EventKind, kind.index.val = i := by
  have hall : ∀ place : Fin count, ∃ kind ∈ all, kind.index = place := by decide
  obtain ⟨kind, -, hkind⟩ := hall ⟨i, hi⟩
  exact ⟨kind, congrArg Fin.val hkind⟩

namespace Sinks

theorem getElem?_places {s : Sinks} {i : Nat} {bound : Option EventSink}
    (h : s.places[i]? = some bound) :
    ∃ kind : EventKind, kind.index.val = i ∧ s.get? kind = bound := by
  obtain ⟨hi, hbound⟩ := Vector.getElem?_eq_some_iff.1 h
  obtain ⟨kind, rfl⟩ := EventKind.exists_index hi
  exact ⟨kind, rfl, hbound⟩

/-! ### Requests -/

/-- What sinks can be asked. -/
inductive Request where
  | set (sink : EventSink)
  | clear (kind : EventKind)
  | dispatch (window : WindowId) (event : WindowEvent) (surface : Surface)

namespace Request

/-- The request writes in the place for `kind`. -/
def concerns (kind : EventKind) : Request → Bool
  | .set sink => kind = sink.kind
  | .clear kind' => kind = kind'
  | .dispatch .. => false

/-- What the request leaves in the place that it writes in. -/
def sink? : Request → Option EventSink
  | .set sink => some sink
  | .clear _ | .dispatch .. => none

end Request

/-- The sinks after a request. To hand over an event is to look in a place, not to write there. -/
def request (s : Sinks) : Request → Sinks
  | .set sink => s.set sink
  | .clear kind => s.clear kind
  | .dispatch .. => s

def requests (s : Sinks) (rs : List Request) : Sinks := rs.foldl request s

/-- The last of the requests that concerns events of the kind. -/
def lastFor? (kind : EventKind) (rs : List Request) : Option Request :=
  (rs.filter (·.concerns kind)).getLast?

variable {rs : List Request} {kind : EventKind} {sink : EventSink}

theorem get?_request (s : Sinks) (r : Request) (kind : EventKind) :
    (s.request r).get? kind = if r.concerns kind then r.sink? else s.get? kind := by
  cases r with
  | set sink => simp [request, set, get?_put, Request.concerns, Request.sink?]
  | clear kind' => simp [request, clear, get?_put, Request.concerns, Request.sink?]
  | dispatch _ _ _ => rfl

theorem lastFor?_concat (kind : EventKind) (rs : List Request) (r : Request) :
    lastFor? kind (rs ++ [r]) = if r.concerns kind then some r else lastFor? kind rs := by
  unfold lastFor?
  rw [List.filter_append]
  cases hr : r.concerns kind <;> simp [hr]

/-- The last request that concerns a kind decides what is in the place for it. -/
theorem get?_requests (rs : List Request) (kind : EventKind) :
    (requests {} rs).get? kind = (lastFor? kind rs).bind Request.sink? := by
  -- from the end: the last request decides, or leaves the place to those before it
  induction rs using List.reverseRecOn with
  | nil => cases kind <;> rfl
  | append_singleton rs r ih =>
    have hconcat : requests {} (rs ++ [r]) = (requests {} rs).request r := List.foldl_concat ..
    rw [hconcat, get?_request, lastFor?_concat, ih]
    split <;> rfl

theorem get?_requests_eq_some :
    (requests {} rs).get? kind = some sink ↔ lastFor? kind rs = some (.set sink) := by
  rw [get?_requests, Option.bind_eq_some_iff]
  constructor
  · rintro ⟨r, hr, hsink⟩
    cases r <;> cases hsink
    exact hr
  · exact fun h => ⟨_, h, rfl⟩

theorem isBound_requests :
    (requests {} rs).isBound kind = true ↔ ∃ sink, lastFor? kind rs = some (.set sink) := by
  unfold isBound
  rw [Option.isSome_iff_exists]
  simp only [get?_requests_eq_some]

theorem placed_requests (rs : List Request) : (requests {} rs).Placed := by
  intro kind sink hsink
  have hmem := List.mem_of_getLast? (get?_requests_eq_some.1 hsink)
  have hkind : kind = sink.kind := by simpa [Request.concerns] using (List.mem_filter.1 hmem).2
  exact hkind.symm

/-- Whatever fresh sinks are asked, in each numbered place is a sink of the kind with that number or
none, so that an event finds in its place a sink that takes it or none. A kind is bound if and only if
the last request that concerns it has set a sink. An event of the kind is then handed to that sink as it
is, once, and else to nobody, and the answer says which. No place changes by that, and the surface
changes only if the sink is one for drawing. -/
theorem places_are_registers (rs : List Request) :
    let s := requests {} rs
    (∀ (place : Nat) (sink : EventSink), s.places[place]? = some (some sink) →
        sink.kind.index = place) ∧
      (∀ (event : WindowEvent) (sink : EventSink), s.get? event.kind = some sink →
        sink.accept? event ≠ none) ∧
      (∀ kind, s.isBound kind = true ↔ ∃ sink, lastFor? kind rs = some (.set sink)) ∧
      ∀ (id : WindowId) (event : WindowEvent) (surface : Surface),
        let told := s.dispatch id event surface
        told.result = s.isBound event.kind ∧
          (∀ sink, lastFor? event.kind rs = some (.set sink) →
            told.effects = [.deliver sink id event surface.size] ∧
              told.state = surface.paint sink.strokes) ∧
          (s.isBound event.kind = false → told.effects = [] ∧ told.state = surface) ∧
          (told.state ≠ surface → event = .draw ∧
            ∃ name strokes, lastFor? .draw rs = some (.set (.draw name strokes))) ∧
          ∀ w : Window, w.sinks = s → (w.notify event).state.sinks = s := by
  intro s
  have hplaced : s.Placed := placed_requests rs
  refine ⟨fun place sink hsink => ?_, fun event sink hsink => ?_, fun kind => isBound_requests,
    fun id event surface => ?_⟩
  · obtain ⟨kind, rfl, hkind⟩ := getElem?_places hsink
    rw [hplaced kind sink hkind]
  · rw [EventSink.accept?_eq, if_pos (hplaced _ _ hsink)]
    simp
  intro told
  cases hsink : s.get? event.kind with
  | none =>
    have htold : told = { state := surface, result := false } := dispatch_of_empty hsink id surface
    have hbound : s.isBound event.kind = false := by simp [isBound, hsink]
    rw [htold, hbound]
    refine ⟨rfl, fun sink hlast => ?_, fun _ => ⟨rfl, rfl⟩, fun h => absurd rfl h,
      fun w hw => hw⟩
    cases hsink.symm.trans (get?_requests_eq_some.2 hlast)
  | some sink =>
    have hkind := hplaced _ _ hsink
    have htold : told =
        { state := surface.paint sink.strokes
          effects := [.deliver sink id event surface.size]
          result := true } := dispatch_of_bound hsink hkind id surface
    have hbound : s.isBound event.kind = true := by simp [isBound, hsink]
    rw [htold, hbound]
    refine ⟨rfl, fun sink' hlast => ?_, fun h => Bool.noConfusion h, fun h => ?_, fun w hw => hw⟩
    · cases hsink.symm.trans (get?_requests_eq_some.2 hlast)
      exact ⟨rfl, rfl⟩
    · -- a sink that is not for drawing has no strokes
      cases sink with
      | draw name strokes =>
        have hevent : event = .draw := by cases event <;> first | rfl | cases hkind
        subst hevent
        exact ⟨rfl, name, strokes, get?_requests_eq_some.1 hsink⟩
      | _ => exact absurd rfl h

/-- Key presses go to the later of two sinks, though events have come in between, and nothing is painted
once the sink for drawing has been taken out. -/
theorem places_are_registers_replaced :
    let surface := Surface.filled ⟨2, 2⟩ ⟨0⟩
    let rs := [.set (.keyPress "first"), .set (.draw "d" [.fill ⟨255⟩]),
      .dispatch ⟨1⟩ .draw surface, .dispatch ⟨1⟩ (.keyPress 10) surface,
      .set (.keyPress "second"), .clear .draw]
    let s := requests {} rs
    lastFor? .keyPress rs = some (.set (.keyPress "second")) ∧
      (s.dispatch ⟨7⟩ (.keyPress 10) surface).effects =
        [.deliver (.keyPress "second") ⟨7⟩ (.keyPress 10) ⟨2, 2⟩] ∧
      s.isBound .draw = false ∧ (s.dispatch ⟨7⟩ .draw surface).state = surface := by
  intro surface rs s
  have hunbound : s.isBound .draw = false := rfl
  obtain ⟨-, -, -, htold⟩ := places_are_registers rs
  obtain ⟨-, hkey, -⟩ := htold ⟨7⟩ (.keyPress 10) surface
  obtain ⟨-, -, hdraw, -⟩ := htold ⟨7⟩ .draw surface
  exact ⟨rfl, (hkey _ rfl).1, hunbound, (hdraw hunbound).2⟩

end Sinks

/-! ### The sinks of a window -/

/-- What an operation asks the sinks of the window `id`, if the window is open. -/
def Operation.sinkRequests (id : WindowId) : Operation → List Sinks.Request
  | .setSink id' sink => if id' = id then [.set sink] else []
  | .clearSink id' kind => if id' = id then [.clear kind] else []
  | _ => []

theorem Operation.sinkRequests_cases (op : Operation) (id : WindowId) :
    (∃ sink, op = .setSink id sink) ∨ (∃ kind, op = .clearSink id kind) ∨
      op.sinkRequests id = [] := by
  cases op with
  | setSink id' sink =>
    by_cases hid : id' = id
    · exact .inl ⟨sink, by rw [hid]⟩
    · exact .inr (.inr (if_neg hid))
  | clearSink id' kind =>
    by_cases hid : id' = id
    · exact .inr (.inl ⟨kind, by rw [hid]⟩)
    · exact .inr (.inr (if_neg hid))
  | _ => exact .inr (.inr rfl)

namespace Desktop
variable {d : Desktop} {op : Operation} {ops : List Operation} {id : WindowId} {w w' : Window}

/-- What a run asks the sinks of the window `id` while the window is open. -/
def sinkHistory (d : Desktop) (id : WindowId) : List Operation → List Sinks.Request
  | [] => []
  | op :: ops =>
    (if id ∈ d.stack.ids then op.sinkRequests id else []) ++ (d.apply op).state.sinkHistory id ops

/-- The sinks of the window `id`, fresh ones while it is not open. -/
def sinksOf (d : Desktop) (id : WindowId) : Sinks := ((d.stack.find? id).map (·.sinks)).getD {}

theorem sinks_apply_of_silent (hd : d.toScene.Sound) (hw : d.stack.find? id = some w)
    (hw' : (d.apply op).state.stack.find? id = some w') (hop : op.sinkRequests id = []) :
    w'.sinks = w.sinks := by
  rcases sinks_cases hd hw' with ⟨v, hv, hsinks | ⟨sink, rfl, -⟩ | ⟨kind, rfl, -⟩⟩ | ⟨hnone, -⟩
  · cases hw.symm.trans hv
    exact hsinks
  · simp [Operation.sinkRequests] at hop
  · simp [Operation.sinkRequests] at hop
  · cases hw.symm.trans hnone

theorem sinks_apply (hd : d.toScene.Sound) (hw : d.stack.find? id = some w)
    (hw' : (d.apply op).state.stack.find? id = some w') :
    w'.sinks = w.sinks.requests (op.sinkRequests id) := by
  rcases op.sinkRequests_cases id with ⟨sink, rfl⟩ | ⟨kind, rfl⟩ | hop
  · cases hw'.symm.trans (find?_update hw rfl rfl)
    simp [Operation.sinkRequests, Sinks.requests, Sinks.request]
  · cases hw'.symm.trans (find?_update hw rfl rfl)
    simp [Operation.sinkRequests, Sinks.requests, Sinks.request]
  · rw [hop]
    exact sinks_apply_of_silent hd hw hw' hop

theorem sinksOf_apply (hd : d.toScene.Sound)
    (hstays : id ∈ d.stack.ids → id ∈ (d.apply op).state.stack.ids) :
    (d.apply op).state.sinksOf id =
      (d.sinksOf id).requests (if id ∈ d.stack.ids then op.sinkRequests id else []) := by
  unfold sinksOf
  by_cases hid : id ∈ d.stack.ids
  · obtain ⟨w, hw⟩ := Stack.mem_ids.1 hid
    obtain ⟨w', hw'⟩ := Stack.mem_ids.1 (hstays hid)
    rw [if_pos hid, hw, hw']
    exact sinks_apply hd hw hw'
  · have hnone : d.stack.find? id = none :=
      Option.eq_none_iff_forall_ne_some.2 fun w hw => hid (Stack.mem_ids.2 ⟨w, hw⟩)
    rw [if_neg hid, hnone]
    cases hw' : (d.apply op).state.stack.find? id with
    | none => rfl
    | some w' =>
      rcases sinks_cases hd hw' with ⟨w, hw, -⟩ | ⟨-, hfresh⟩
      · cases hnone.symm.trans hw
      · exact hfresh

theorem gone_run (hd : d.toScene.Sound) (hid : id ∉ d.stack.ids)
    (hgiven : id.number.toNat < d.stack.nextId.toNat) (ops : List Operation) :
    id ∉ (d.run ops).state.stack.ids := by
  induction ops generalizing d with
  | nil => exact hid
  | cons op ops ih =>
    have hnext := d.nextId_le_apply op
    exact ih (hd.apply op) (gone_apply hd hid hgiven) (by omega)

/-- The sinks of a window that is open at the end of a run are what the run has asked of them. -/
theorem sinksOf_run (hd : d.toScene.Sound) (hid : id ∈ (d.run ops).state.stack.ids) :
    (d.run ops).state.sinksOf id = (d.sinksOf id).requests (d.sinkHistory id ops) := by
  induction ops generalizing d with
  | nil => rfl
  | cons op ops ih =>
    -- a window that the first operation closed would not be open at the end
    have hstays : id ∈ d.stack.ids → id ∈ (d.apply op).state.stack.ids := by
      intro hopen
      by_contra hgone
      have hgiven := (hd.ok.stack.given id hopen).2
      have hnext := d.nextId_le_apply op
      exact gone_run (hd.apply op) hgone (by omega) ops hid
    show ((d.apply op).state.run ops).state.sinksOf id = _
    rw [ih (hd.apply op) hid, sinksOf_apply hd hstays]
    exact (List.foldl_append ..).symm

/-- In any run of a desktop, the sink that an open window has for a kind of event is the one that was
bound to it last, if it has not been taken out since. No event that the window is handed, and nothing
else that is done to it, changes what is bound. -/
theorem bound_iff_last_set (config : Config) (theme : Theme) (display : Display) (heap : Heap)
    (ops : List Operation) :
    let fresh := (start config theme display heap).state
    ∀ w ∈ (fresh.run ops).state.stack.windows, ∀ kind sink, w.sinks.get? kind = some sink ↔
      Sinks.lastFor? kind (fresh.sinkHistory w.id ops) = some (.set sink) := by
  intro fresh w hw kind sink
  have hfresh : fresh.Reachable := Reachable.start config theme display heap
  have hfind := Stack.find?_of_mem (hfresh.run ops).sound.ok.stack.nodup hw
  have hsinks : (fresh.run ops).state.sinksOf w.id = w.sinks := by
    unfold sinksOf
    rw [hfind]
    rfl
  have hrun := sinksOf_run hfresh.sound (Stack.mem_ids.2 ⟨w, hfind⟩)
  rw [hsinks] at hrun
  rw [hrun]
  exact Sinks.get?_requests_eq_some

end Desktop
end PointerDesktop
