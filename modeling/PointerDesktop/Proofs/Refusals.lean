import PointerDesktop.Proofs.Edits

/-!
# Refused operations

`Desktop.refusal? d op` is the error with which the desktop `d` refuses the operation `op`, read off
the state before it and off what the heap would answer. No other operation fails. One that is refused
may have asked for memory in vain, or for memory that it has given back; beside that it leaves the
desktop as it was, and shows up in the log only (`Desktop.answers_apply`). Main statement:
`Desktop.failure_changes_nothing`.
-/

namespace PointerDesktop

/-- Why an open window does not take an operation, if it does not. -/
def Window.refusal? (w : Window) (heap : Heap) : Operation → Option WindowError
  | .setSize _ size =>
    if size.isEmpty || size.below w.minimum then some .invalidGeometry
    else if size = w.size || (heap.reserve (Surface.byteCount size)).1 then none
    else some .outOfMemory
  | .setMinimum _ size => if size.isEmpty then some .invalidGeometry else none
  | .setTitle _ title =>
    if (heap.reserve title.utf8ByteSize).1 then none else some .outOfMemory
  | _ => none

/-- Why no window is opened, if none is. It takes a place in the stack, pixels and a title, asked for in
this order. -/
def Stack.refusal? (s : Stack) (title : String) (size : Size) (heap : Heap) : Option WindowError :=
  let (placed, heap) := heap.ask (.place s.windows.length)
  let (coloured, heap) := heap.reserve (Surface.byteCount size)
  let (titled, _) := heap.reserve title.utf8ByteSize
  if !placed || s.nextId.toNat = maxWord then some .outOfMemory
  else if size.isEmpty then some .invalidGeometry
  else if coloured && titled then none
  else some .outOfMemory

def Effect.isLog : Effect → Bool
  | .log _ => true
  | _ => false

/-- A request to open a window that is refused logs why at most; no other one fails. -/
theorem Stack.create_refusal (s : Stack) (title : String) (size : Size) (flags : Flags)
    (config : Config) (background : Color) (heap : Heap) :
    let created := s.create title size flags config background heap
    match s.refusal? title size heap with
    | some e => created.result = .error e ∧ created.state.1 = s ∧
        ∀ effect ∈ created.effects, effect.isLog = true
    | none => ∃ id, created.result = .ok id := by
  intro created
  cases hplace : heap.ask (.place s.windows.length) with
  | mk placed heap₁ =>
  cases hpixels : heap₁.reserve (Surface.byteCount size) with
  | mk coloured heap₂ =>
  cases htitle : heap₂.reserve title.utf8ByteSize with
  | mk titled heap₃ =>
  cases placed with
  | false => simp [refusal?, created, create, hplace]
  | true =>
    by_cases hmax : s.nextId.toNat = maxWord
    · simp [refusal?, created, create, hplace, hmax, Effect.isLog]
    cases hsize : size.isEmpty with
    | true => simp [refusal?, created, create, hplace, hmax, Window.create, hsize]
    | false =>
      cases coloured with
      | false =>
        simp [refusal?, created, create, hplace, hmax, Window.create, hsize, Surface.allocate, hpixels]
      | true =>
        cases titled <;>
          simp [refusal?, created, create, hplace, hmax, Window.create, hsize, Surface.allocate,
            hpixels, Window.copyTitle, htitle]

namespace Desktop

def refusal? (d : Desktop) (op : Operation) : Option WindowError :=
  match op.window? with
  | some id =>
    match d.stack.find? id with
    | none => some .unknownWindow
    | some w => w.refusal? d.heap op
  | none =>
    match op with
    | .create title size _ => d.stack.refusal? title size d.heap
    | _ => none

/-- With an error, `o` is how `d` answers what it refuses for that reason. -/
def Answers (d : Desktop) (o : Outcome Desktop Reply) : Option WindowError → Prop
  | some e => o.result = .failed e ∧ o.state = { d with heap := o.state.heap } ∧
      ∀ effect ∈ o.effects, effect.isLog = true
  | none => ∀ e, o.result ≠ .failed e

variable {d : Desktop} {id : WindowId} {op : Operation}

theorem answers_unknown (d : Desktop) (id : WindowId) :
    d.Answers (answered (d.unknown id)) (some .unknownWindow) :=
  ⟨rfl, rfl, by simp [answered, unknown, Effect.isLog]⟩

theorem answers_update {change : Window → Except WindowError Window}
    {refuse : Window → Option WindowError}
    (hc : ∀ w, match refuse w with
      | some e => change w = .error e
      | none => ∃ w', change w = .ok w') :
    d.Answers (answered (d.update id change))
      (match d.stack.find? id with
      | none => some .unknownWindow
      | some w => refuse w) := by
  unfold update
  cases d.stack.find? id with
  | none => exact answers_unknown d id
  | some w =>
    have hw := hc w
    dsimp only
    cases hr : refuse w with
    | some e =>
      rw [hr] at hw
      dsimp only at hw
      rw [hw]
      exact ⟨rfl, rfl, by simp [answered]⟩
    | none =>
      rw [hr] at hw
      obtain ⟨w', hw'⟩ := hw
      rw [hw']
      exact fun e h => by cases h

theorem answers_setSize (d : Desktop) (id : WindowId) (size : Size) :
    d.Answers (answered (d.setSize id size)) (d.refusal? (.setSize id size)) := by
  unfold setSize refusal? Operation.window?
  dsimp only
  cases d.stack.find? id with
  | none => exact answers_unknown d id
  | some w =>
    dsimp only [Window.refusal?]
    split
    · exact ⟨rfl, rfl, by simp [answered, Effect.isLog]⟩
    next hsize =>
    have hne : ¬ size.isEmpty = true := fun h => hsize (by simp [h])
    unfold Window.resize Surface.allocate
    rw [if_neg hne]
    by_cases hsame : size = w.size
    · simp only [hsame, if_true, decide_true, Bool.true_or]
      exact fun e h => by cases h
    · cases hpixels : d.heap.reserve (Surface.byteCount size) with
      | mk granted heap =>
      cases granted with
      | true =>
        simp only [hsame, if_false, if_true, Bool.or_true]
        exact fun e h => by cases h
      | false =>
        simp only [hsame, if_false, decide_false, Bool.or_false]
        exact ⟨rfl, rfl, by simp [answered, Effect.isLog]⟩

theorem answers_setTitle (d : Desktop) (id : WindowId) (title : String) :
    d.Answers (answered (d.setTitle id title)) (d.refusal? (.setTitle id title)) := by
  unfold setTitle refusal? Operation.window?
  dsimp only
  cases d.stack.find? id with
  | none => exact answers_unknown d id
  | some w =>
    dsimp only [Window.refusal?]
    unfold Window.setTitle Window.copyTitle
    cases htitle : d.heap.reserve title.utf8ByteSize with
    | mk granted heap =>
    cases granted with
    | true => exact fun e h => by cases h
    | false => exact ⟨rfl, rfl, by simp [answered]⟩

theorem answers_create (d : Desktop) (title : String) (size : Size) (flags : Flags) :
    d.Answers (d.apply (.create title size flags)) (d.stack.refusal? title size d.heap) := by
  have hc := d.stack.create_refusal title size flags d.config d.theme.windowBackground d.heap
  dsimp only at hc
  simp only [apply, create]
  cases hr : d.stack.refusal? title size d.heap with
  | some e =>
    rw [hr] at hc
    obtain ⟨hresult, hstate, hlog⟩ := hc
    rw [hresult]
    refine ⟨rfl, ?_, fun effect h => ?_⟩
    · dsimp only
      rw [hstate]
    · rcases List.mem_append.1 h with h | h
      · exact hlog effect h
      · rw [List.mem_singleton.1 h]
        rfl
  | none =>
    rw [hr] at hc
    obtain ⟨id, hresult⟩ := hc
    rw [hresult]
    exact fun e h => by cases h

/-- What an operation that is refused does, and that no other operation fails. -/
theorem answers_apply (d : Desktop) (op : Operation) : d.Answers (d.apply op) (d.refusal? op) := by
  cases op with
  | create title size flags => exact d.answers_create title size flags
  | setSize id size => exact d.answers_setSize id size
  | setTitle id title => exact d.answers_setTitle id title
  | setMinimum id size =>
    refine answers_update fun w => ?_
    unfold Window.setMinimum Window.refusal?
    dsimp only
    cases size.isEmpty with
    | true => rfl
    | false => exact ⟨_, rfl⟩
  | close id =>
    show d.Answers (answered (d.close id)) _
    unfold close refusal? Operation.window?
    dsimp only
    cases d.stack.find? id with
    | none => exact answers_unknown d id
    | some w => exact fun e h => by cases h
  | hide id =>
    show d.Answers (answered (d.hide id)) _
    unfold hide refusal? Operation.window?
    dsimp only
    cases d.stack.find? id with
    | none => exact answers_unknown d id
    | some w => exact fun e h => by cases h
  | focus id =>
    show d.Answers (answered (d.focus id)) _
    unfold focus refusal? Operation.window? Stack.promote
    dsimp only
    cases d.stack.find? id with
    | none => exact ⟨rfl, rfl, by simp [answered, Effect.isLog]⟩
    | some w => exact fun e h => by cases h
  | setPosition id x y => exact answers_update fun w => ⟨_, rfl⟩
  | setBackground id color => exact answers_update fun w => ⟨_, rfl⟩
  | reveal id => exact answers_update fun w => ⟨_, rfl⟩
  | setSink id sink => exact answers_update fun w => ⟨_, rfl⟩
  | clearSink id kind => exact answers_update fun w => ⟨_, rfl⟩
  | _ => exact fun e h => by cases h

/-- An operation fails exactly when the desktop has a reason to refuse it: the window that it asks for
is not open, a size is empty or below the window's minimum, there is no id left, or there is no memory
for a place in the stack, for pixels or for a title. Then everything about the desktop stays as it was,
with a gesture under way or without one, but for what the heap has been asked; no client and no observer
is told anything, and nothing is drawn. -/
theorem failure_changes_nothing (d : Desktop) (op : Operation) :
    (∀ e, (d.apply op).result = .failed e ↔ d.refusal? op = some e) ∧
      ∀ e, (d.apply op).result = .failed e →
        (d.apply op).state = { d with heap := (d.apply op).state.heap } ∧
        ∀ effect ∈ (d.apply op).effects, ∃ notice, effect = .log notice := by
  have hanswer := d.answers_apply op
  cases hr : d.refusal? op with
  | none =>
    rw [hr] at hanswer
    exact ⟨fun e => ⟨fun h => absurd h (hanswer e), fun h => by cases h⟩,
      fun e h => absurd h (hanswer e)⟩
  | some r =>
    rw [hr] at hanswer
    obtain ⟨hresult, hstate, hlog⟩ := hanswer
    refine ⟨fun e => ?_, fun e _ => ⟨hstate, fun effect h => ?_⟩⟩
    · rw [hresult, Reply.failed.injEq, Option.some.injEq]
    · cases effect with
      | log notice => exact ⟨notice, rfl⟩
      | _ => cases hlog _ h

end Desktop
end PointerDesktop
