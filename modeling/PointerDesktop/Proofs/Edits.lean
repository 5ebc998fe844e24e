import PointerDesktop.Proofs.Samples
import PointerDesktop.Proofs.StackOrder

/-!
# What operations do to the stack

`Desktop.Edits` has one case for each thing that an operation other than pointer input can come to: its
answer, the stack after it, and what clients are handed (`Desktop.edits_apply`). What such operations
keep is shown by going through these cases.
-/

namespace PointerDesktop

/-- The window that an operation asks for by its id. -/
def Operation.window? : Operation → Option WindowId
  | .close id | .setPosition id .. | .setSize id _ | .setMinimum id _ | .setTitle id _
  | .setBackground id _ | .reveal id | .hide id | .focus id | .setSink id _ | .clearSink id _ =>
    some id
  | .create .. | .setObserver _ | .feed _ | .drain _ | .pointTo .. | .pressKey _ | .paint
  | .setScreen _ => none

/-- The window that an operation changes without telling anybody, and the change. -/
def Operation.change? : Operation → Option (WindowId × (Window → Except WindowError Window))
  | .setPosition id x y => some (id, fun w => .ok (w.moveTo x y))
  | .setMinimum id size => some (id, fun w => w.setMinimum size)
  | .setTitle id title => some (id, fun w => .ok { w with title := title })
  | .setBackground id color => some (id, fun w => .ok { w with background := color })
  | .reveal id => some (id, fun w => .ok (w.setVisible true))
  | .setSink id sink => some (id, fun w => .ok { w with sinks := w.sinks.set sink })
  | .clearSink id kind => some (id, fun w => .ok { w with sinks := w.sinks.clear kind })
  | _ => none

theorem Operation.size_of_change? {op : Operation} {id : WindowId}
    {change : Window → Except WindowError Window} {w w' : Window}
    (hop : op.change? = some (id, change)) (hw : change w = .ok w') :
    w'.id = w.id ∧ w'.size = w.size := by
  cases op with
  | setMinimum id size =>
    cases hop
    unfold Window.setMinimum at hw
    split at hw <;> cases hw
    exact ⟨rfl, rfl⟩
  | _ => cases hop <;> cases hw <;> exact ⟨rfl, rfl⟩

namespace Desktop

/-- What an operation that is no pointer input can answer, make of the stack and hand to clients. -/
inductive Edits (d : Desktop) : Operation → Reply → Stack → List Effect → Prop where
  | refuse {op : Operation} (e : WindowError) : Edits d op (.failed e) d.stack []
  | keep {op : Operation} (hop : op.window? = none) : Edits d op .done d.stack []
  | create {title : String} {size : Size} {flags : Flags} {w : Window} {heap heap' : Heap}
      (hw : Window.create ⟨d.stack.nextId⟩ title size flags d.config d.theme.windowBackground
        heap = (.ok w, heap')) (hnext : (d.stack.nextId + 1).toNat = d.stack.nextId.toNat + 1) :
      Edits d (.create title size flags) (.created ⟨d.stack.nextId⟩)
        ⟨d.stack.windows ++ [w], some ⟨d.stack.nextId⟩, d.stack.nextId + 1⟩ []
  | close {id : WindowId} {w : Window} (hw : d.stack.find? id = some w) :
      Edits d (.close id) .done ((d.stack.notify id .close).state.remove id)
        (deliveries (d.stack.notify id .close).effects)
  | change {op : Operation} {id : WindowId} {change : Window → Except WindowError Window}
      {w w' : Window} (hop : op.change? = some (id, change)) (hw : d.stack.find? id = some w)
      (hw' : change w = .ok w') : Edits d op .done (d.stack.put w') []
  /-- The window has the size already. -/
  | resize {id : WindowId} {size : Size} {w w' : Window} {heap : Heap}
      (hw : d.stack.find? id = some w) (hmin : size.below w.minimum = false)
      (hw' : w.resize size d.heap = (.ok w', heap))
      (hsize : size = w.size) : Edits d (.setSize id size) .done (d.stack.put w') []
  | resizeTell {id : WindowId} {size : Size} {w w' : Window} {heap : Heap}
      (hw : d.stack.find? id = some w) (hmin : size.below w.minimum = false)
      (hw' : w.resize size d.heap = (.ok w', heap))
      (hsize : size ≠ w.size) :
      Edits d (.setSize id size) .done ((d.stack.put w').notify id (.resize size)).state
        (deliveries ((d.stack.put w').notify id (.resize size)).effects)
  | hide {id : WindowId} {w : Window} (hw : d.stack.find? id = some w)
      (hfocus : d.stack.focused ≠ some id) :
      Edits d (.hide id) .done (d.stack.put (w.setVisible false)) []
  | hideFocused {id : WindowId} {w : Window} (hw : d.stack.find? id = some w)
      (hfocus : d.stack.focused = some id) :
      Edits d (.hide id) .done (d.stack.put (w.setVisible false)).unfocus []
  | focus {id : WindowId} {w : Window} (hw : d.stack.find? id = some w) :
      Edits d (.focus id) .done (d.stack.raise id) []
  | pressKey {key : UInt8} {id : WindowId} (hfocus : d.stack.focused = some id) :
      Edits d (.pressKey key) .done (d.stack.notify id (.keyPress key)).state
        (deliveries (d.stack.notify id (.keyPress key)).effects)
  | paint :
      Edits d .paint .done (d.stack.paint d.display d.theme d.config d.cursor).state
        (deliveries (d.stack.paint d.display d.theme d.config d.cursor).effects)

variable {d : Desktop}

theorem edits_update {op : Operation} {id : WindowId}
    {change : Window → Except WindowError Window} (hop : op.change? = some (id, change)) :
    d.Edits op (answered (d.update id change)).result (d.update id change).state.stack
      (deliveries (d.update id change).effects) := by
  unfold answered update
  cases hw : d.stack.find? id with
  | none => exact .refuse _
  | some w =>
    dsimp only
    cases hw' : change w with
    | error e => exact .refuse e
    | ok w' => exact .change hop hw hw'

theorem edits_setSize (d : Desktop) (id : WindowId) (size : Size) :
    d.Edits (.setSize id size) (answered (d.setSize id size)).result
      (d.setSize id size).state.stack (deliveries (d.setSize id size).effects) := by
  unfold answered setSize
  cases hw : d.stack.find? id with
  | none => exact .refuse _
  | some w =>
    dsimp only
    by_cases hmin : (size.isEmpty || size.below w.minimum) = true
    · rw [if_pos hmin]
      exact .refuse _
    rw [if_neg hmin]
    rw [Bool.not_eq_true, Bool.or_eq_false_iff] at hmin
    cases hw' : w.resize size d.heap with
    | mk answer heap =>
    cases answer with
    | error e => exact .refuse e
    | ok w' =>
      dsimp only
      by_cases hsize : size = w.size
      · rw [if_pos hsize]
        exact .resize hw hmin.2 hw' hsize
      · rw [if_neg hsize]
        exact .resizeTell hw hmin.2 hw' hsize

theorem edits_setTitle (d : Desktop) (id : WindowId) (title : String) :
    d.Edits (.setTitle id title) (answered (d.setTitle id title)).result
      (d.setTitle id title).state.stack (deliveries (d.setTitle id title).effects) := by
  unfold answered setTitle
  cases hw : d.stack.find? id with
  | none => exact .refuse _
  | some w =>
    dsimp only
    cases hw' : w.setTitle title d.heap with
    | mk answer heap =>
    cases answer with
    | error e => exact .refuse e
    | ok w' =>
      rw [Window.setTitle_eq hw']
      exact .change rfl hw rfl

theorem log_create (d : Desktop) (title : String) (size : Size) (flags : Flags) :
    ∀ e ∈ (d.create title size flags).effects, ∃ notice, e = .log notice := by
  have hstack : ∀ e ∈ (d.stack.create title size flags d.config d.theme.windowBackground
      d.heap).effects, ∃ notice, e = .log notice := by
    unfold Stack.create
    split
    · simp
    split
    · simp
    dsimp only
    split <;> simp
  unfold Desktop.create
  dsimp only
  split
  · exact hstack
  · exact List.forall_mem_append.2 ⟨hstack, by simp⟩

theorem log_forget (t : Tracker) (id : WindowId) :
    ∀ e ∈ (t.forget id).effects, ∃ notice, e = .log notice := by
  unfold Tracker.forget
  split <;> simp

theorem deliveries_forget (t : Tracker) (id : WindowId) : deliveries (t.forget id).effects = [] :=
  deliveries_of_log (log_forget t id)

theorem edits_create (d : Desktop) (title : String) (size : Size) (flags : Flags) :
    let created := d.apply (.create title size flags)
    d.Edits (.create title size flags) created.result created.state.stack
      (deliveries created.effects) := by
  intro created
  rw [show deliveries created.effects = [] from deliveries_of_log (d.log_create title size flags)]
  rcases d.stack.create_cases title size flags d.config d.theme.windowBackground d.heap with
    ⟨e, hresult, hstate⟩ | ⟨w, hw, -, hnext, hresult, hstate⟩
  · have hcreated : created.result = .failed e ∧ created.state.stack = d.stack := by
      simp [created, apply, Desktop.create, hresult, hstate]
    rw [hcreated.1, hcreated.2]
    exact .refuse e
  · have hcreated : created.result = .created ⟨d.stack.nextId⟩ ∧ created.state.stack =
        ⟨d.stack.windows ++ [w], some ⟨d.stack.nextId⟩, d.stack.nextId + 1⟩ := by
      simp [created, apply, Desktop.create, hresult, hstate]
    rw [hcreated.1, hcreated.2]
    exact .create hw hnext

/-- Everything that an operation other than pointer input does to the stack. -/
theorem edits_apply (d : Desktop) {op : Operation} (hop : op.isPointer = false) :
    d.Edits op (d.apply op).result (d.apply op).state.stack (deliveries (d.apply op).effects) := by
  cases op with
  | create title size flags => exact d.edits_create title size flags
  | close id =>
    simp only [apply, answered, Desktop.close]
    cases hw : d.stack.find? id with
    | none => exact .refuse _
    | some w =>
      have hes : deliveries ((d.stack.notify id .close).effects ++
          (d.tracker.forget id).effects ++ [.log (.closed id)]) =
          deliveries (d.stack.notify id .close).effects := by
        rw [deliveries_append, deliveries_append, deliveries_forget, List.append_nil]
        exact List.append_nil _
      dsimp only
      rw [hes]
      exact .close hw
  | setSize id size => exact d.edits_setSize id size
  | setTitle id title => exact d.edits_setTitle id title
  | hide id =>
    simp only [apply, answered, Desktop.hide]
    cases hw : d.stack.find? id with
    | none => exact .refuse _
    | some w =>
      dsimp only
      rw [deliveries_forget]
      by_cases hfocus : d.stack.focused = some id
      · rw [if_pos (show (d.stack.put _).focused = some id from hfocus)]
        exact .hideFocused hw hfocus
      · rw [if_neg (show (d.stack.put _).focused ≠ some id from hfocus)]
        exact .hide hw hfocus
  | focus id =>
    simp only [apply, answered, Desktop.focus]
    cases hw : d.stack.find? id with
    | none =>
      have hpromote : d.stack.promote id = .error .unknownWindow := by simp [Stack.promote, hw]
      rw [hpromote]
      exact .refuse _
    | some w =>
      have hraise : d.stack.promote id = .ok (d.stack.raise id) := by
        rw [Stack.promote_eq hw, Stack.raise_eq hw]
      rw [hraise]
      exact .focus hw
  | pressKey key =>
    simp only [apply, silent, Desktop.pressKey]
    cases hfocus : d.stack.focused with
    | none => exact .keep rfl
    | some id => exact .pressKey hfocus
  | setScreen screen =>
    have hscreen : (d.setScreen screen).state.stack = d.stack ∧
        deliveries (d.setScreen screen).effects = [] := by
      unfold Desktop.setScreen Mouse.setScreen Cursor.setScreen
      split <;> exact ⟨rfl, rfl⟩
    show d.Edits _ .done (d.setScreen screen).state.stack (deliveries (d.setScreen screen).effects)
    rw [hscreen.1, hscreen.2]
    exact .keep rfl
  | setObserver observer => exact .keep rfl
  | paint => exact .paint
  | feed byte => cases hop
  | drain source => cases hop
  | pointTo p buttons => cases hop
  | _ => exact edits_update rfl

end Desktop
end PointerDesktop
