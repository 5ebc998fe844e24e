import PointerDesktop.Proofs.CheckedParts

/-!
# No run stops

A run of operations in which everything that is not defined on all arguments is checked when it is used
(`Desktop.run?`). It goes along with the cells that the bytes of a packet are kept in. What works on
windows is defined whatever the state is. The pointing device is so only if the cursor is on the screen
(`Desktop.OnScreen`) and there is a cell for the next byte, which all operations keep
(`Desktop.perform?_eq`). So a checked run comes to what the run comes to. Main statement:
`Desktop.no_run_stops`.
-/

namespace PointerDesktop

/-! ### Frames -/

namespace Window

def decorate? (w : Window) (display : Display) (theme : Theme) (config : Config) (focused : Bool) :
    Option (Traced Window) :=
  let calls := w.decorationCalls theme config focused
  do
    let surface ← w.surface.paint? (calls.flatMap display.strokes)
    some { state := { w with surface := surface }, effects := calls.map .display }

/-- Lets the window's sink draw. No other event paints. -/
def draw? (w : Window) : Option (Traced Window) :=
  match w.sinks.get? .draw with
  | none => some { state := w }
  | some sink =>
    match sink.accept? .draw with
    | none => some { state := w }
    | some strokes => do
      let surface ← w.surface.paint? strokes
      some
        { state := { w with surface := surface }
          effects := [.deliver sink w.id .draw w.surface.size] }

def paint? (w : Window) (display : Display) (theme : Theme) (config : Config) (focused : Bool) :
    Option (Traced Window) :=
  if w.isVisible then do
    let decorated ← w.decorate? display theme config focused
    let drawn ← decorated.state.draw?
    some
      { state := drawn.state
        effects :=
          decorated.effects ++ drawn.effects ++
            [.display (.present drawn.state.id drawn.state.surface)] }
  else some { state := w }

theorem decorate?_eq (w : Window) (display : Display) (theme : Theme) (config : Config)
    (focused : Bool) :
    w.decorate? display theme config focused = some (w.decorate display theme config focused) := by
  unfold decorate?
  simp only [Surface.paint?_eq]
  rfl

theorem draw?_eq (w : Window) : w.draw? = some (w.notify .draw).toTraced := by
  unfold draw? notify Sinks.dispatch
  rw [show WindowEvent.draw.kind = .draw from rfl]
  cases w.sinks.get? .draw with
  | none => rfl
  | some sink =>
    dsimp only
    cases sink.accept? .draw with
    | none => rfl
    | some strokes =>
      simp only [Surface.paint?_eq]
      rfl

theorem paint?_eq (w : Window) (display : Display) (theme : Theme) (config : Config)
    (focused : Bool) :
    w.paint? display theme config focused = some (w.paint display theme config focused) := by
  unfold paint? paint
  simp only [decorate?_eq, draw?_eq]
  split <;> rfl

end Window

def Stack.paint? (s : Stack) (display : Display) (theme : Theme) (config : Config)
    (cursor : Point) : Option (Traced Stack) := do
  let painted ← s.windows.mapM fun w => w.paint? display theme config (s.focused = some w.id)
  some
    { state := { s with windows := painted.map (·.state) }
      effects :=
        [.display (.eraseCursor cursor), .display (.clearScreen theme.background)] ++
          painted.flatMap (·.effects) ++ [.display (.drawCursor cursor)] }

theorem Stack.paint?_eq (s : Stack) (display : Display) (theme : Theme) (config : Config)
    (cursor : Point) :
    s.paint? display theme config cursor = some (s.paint display theme config cursor) := by
  have hpainted := List.mapM_pure (m := Option) (l := s.windows)
    (f := fun w => w.paint display theme config (s.focused = some w.id))
  unfold paint?
  simp only [Window.paint?_eq]
  exact congrArg (Option.bind · _) hpainted

/-! ### Samples -/

namespace Scene

def raiseAt? (s : Scene) (p : Point) : Option Scene :=
  match s.stack.topmostAt? p with
  | none => some s
  | some id =>
    if s.stack.focused = some id then some s
    else do some { s with stack := ← s.stack.raise? id }

def press? (s : Scene) (config : Config) (p : Point) (buttons : Buttons) : Option (Traced Scene) :=
  match s.stack.focusedWindow?.bind (·.grab? config p) with
  | some gesture => some { state := s.setGesture gesture }
  | none =>
    match s.stack.focusedWindow? with
    | none => do some { state := ← s.raiseAt? p }
    | some w =>
      if s.stack.topmostAt? p = some w.id then
        some (s.notify w.id (.mouseButton (w.toLocal p) buttons))
      else do some { state := ← s.raiseAt? p }

def dragTo? (s : Scene) (config : Config) (d : Drag) (p : Point) : Option (Traced Scene) :=
  if engages config d.engaged d.origin p then
    let s := s.setGesture (.dragging { d with engaged := true })
    match s.stack.find? d.window with
    | none => some { state := s.setGesture .idle }
    | some w => do some { state := { s with stack := s.stack.put (← w.dragged? d p) } }
  else some { state := s }

def resizeTo? (s : Scene) (config : Config) (d : EdgeDrag) (p : Point) : Option (Traced Scene) :=
  if engages config d.engaged d.origin p then
    let s := s.setGesture (.resizing { d with engaged := true })
    match s.stack.find? d.window with
    | none => some { state := s.setGesture .idle }
    | some w => do
      let target ← w.resizeTarget? d p
      match w.resize target.size s.heap with
      | (.error e, heap) =>
        some
          { state := { s with heap := heap }
            effects := [.log (.resizeFailed d.window target.size e)] }
      | (.ok resized, heap) =>
        let placed : Scene :=
          { s with stack := s.stack.put (resized.moveTo target.x target.y), heap := heap }
        if target.size = w.size then some { state := placed }
        else some (placed.notify d.window (.resize target.size))
  else some { state := s }

def act? (s : Scene) (config : Config) (p : Point) (buttons : Buttons) : Option (Traced Scene) :=
  let pressed := (buttons.pressedSince s.tracker.buttons).contains .left
  let held := buttons.contains .left
  let moved := s.tracker.position != some p
  let s : Scene :=
    { s with tracker := { s.tracker with buttons := buttons, position := some p } }
  match s.tracker.gesture with
  | .idle =>
    if pressed then s.press? config p buttons
    else if !held && moved then some (s.hover p buttons)
    else some { state := s }
  | .dragging d => if held then s.dragTo? config d p else some (s.release p)
  | .resizing d => if held then s.resizeTo? config d p else some (s.release p)

def step? (s : Scene) (config : Config) (p : Point) (buttons : Buttons) : Option (Traced Scene) := do
  let acted ← s.act? config p buttons
  if acted.state.tracker.gesture.isIdle then
    some { acted with state := ← acted.state.raiseAt? p }
  else some acted

theorem raiseAt?_eq (s : Scene) (p : Point) : s.raiseAt? p = some (s.raiseAt p) := by
  unfold raiseAt? raiseAt
  cases s.stack.topmostAt? p with
  | none => rfl
  | some id =>
    simp only [Stack.raise?_eq]
    split <;> rfl

theorem press?_eq (s : Scene) (config : Config) (p : Point) (buttons : Buttons) :
    s.press? config p buttons = some (s.press config p buttons) := by
  unfold press? press
  cases s.stack.focusedWindow?.bind (·.grab? config p) with
  | some gesture => rfl
  | none =>
    simp only [raiseAt?_eq]
    cases s.stack.focusedWindow? with
    | none => rfl
    | some w =>
      dsimp only
      split <;> rfl

theorem dragTo?_eq (s : Scene) (config : Config) (d : Drag) (p : Point) :
    s.dragTo? config d p = some (s.dragTo config d p) := by
  unfold dragTo? dragTo
  simp only [Window.dragged?_eq]
  split
  · cases (s.setGesture (.dragging { d with engaged := true })).stack.find? d.window <;> rfl
  · rfl

theorem resizeTo?_eq (s : Scene) (config : Config) (d : EdgeDrag) (p : Point) :
    s.resizeTo? config d p = some (s.resizeTo config d p) := by
  unfold resizeTo? resizeTo
  split
  · dsimp only
    cases (s.setGesture (.resizing { d with engaged := true })).stack.find? d.window with
    | none => rfl
    | some w =>
      simp only [Window.resizeTarget?_eq, Option.bind_eq_bind, Option.bind_some]
      cases w.resize (w.resizeTarget d p).size
        (s.setGesture (.resizing { d with engaged := true })).heap with
      | mk answer heap =>
      cases answer with
      | error e => rfl
      | ok resized =>
        dsimp only
        split <;> rfl
  · rfl

theorem act?_eq (s : Scene) (config : Config) (p : Point) (buttons : Buttons) :
    s.act? config p buttons = some (s.act config p buttons) := by
  unfold act? act
  simp only [press?_eq, dragTo?_eq, resizeTo?_eq]
  cases s.tracker.gesture with
  | idle =>
    dsimp only
    split
    · rfl
    · split <;> rfl
  | dragging d =>
    dsimp only
    split <;> rfl
  | resizing d =>
    dsimp only
    split <;> rfl

theorem step?_eq (s : Scene) (config : Config) (p : Point) (buttons : Buttons) :
    s.step? config p buttons = some (s.step config p buttons) := by
  unfold step? step
  simp only [act?_eq, raiseAt?_eq, Option.bind_eq_bind, Option.bind_some]
  split <;> rfl

end Scene

/-! ### Bytes -/

namespace Mouse

def feed? (m : Mouse) (c : Cells) (byte : UInt8) :
    Option (Outcome Mouse (Option Sample) × Cells) := do
  let (read, c) ← c.push? byte
  let m := { m with decoder := c.decoder }
  match read with
  | .error _ => some ({ state := m, effects := [.log (.malformedByte byte)], result := none }, c)
  | .ok none => some ({ state := m, result := none }, c)
  | .ok (some packet) => do
    let cursor ← m.cursor.moveBy? packet.dx (-packet.dy)
    some
      ({ state := { m with cursor := cursor }
         result := some ⟨cursor.position, packet.buttons, cursor.previous⟩ }, c)

theorem feed?_eq {m : Mouse} {c : Cells} {screen : Size} (hc : c.Holds m.decoder)
    (hm : m.cursor.Ok screen) (byte : UInt8) :
    ∃ c', m.feed? c byte = some (m.feed byte, c') ∧ c'.Holds (m.feed byte).state.decoder := by
  obtain ⟨c', hpush, hc'⟩ := hc.push? byte
  refine ⟨c', ?_, ?_⟩
  · unfold feed? feed
    simp only [hpush, Option.bind_eq_bind, Option.bind_some, hc'.decoder]
    cases (m.decoder.push byte).1 with
    | error e => rfl
    | ok packet? =>
      cases packet? with
      | none => rfl
      | some packet =>
        simp only [hm.moveBy?_eq, Option.bind_some]
        rfl
  · unfold feed
    dsimp only
    split <;> exact hc'

end Mouse

namespace Desktop
variable {d : Desktop} {c : Cells}

def takeSample? (d : Desktop) (sample : Sample) : Option (Traced Desktop) := do
  let stepped ← d.toScene.step? d.config sample.position sample.buttons
  some
    { state := { d with toScene := stepped.state }
      effects := cursorEffects sample ++ d.observerEffects sample ++ stepped.effects }

theorem takeSample?_eq (d : Desktop) (sample : Sample) :
    d.takeSample? sample = some (d.takeSample sample) := by
  unfold takeSample?
  rw [Scene.step?_eq]
  rfl

def feed? (d : Desktop) (c : Cells) (byte : UInt8) : Option (Traced Desktop × Cells) := do
  let (fed, c) ← d.mouse.feed? c byte
  let d := { d with mouse := fed.state }
  match fed.result with
  | none => some ({ state := d, effects := fed.effects }, c)
  | some sample => do
    let taken ← d.takeSample? sample
    some ({ state := taken.state, effects := fed.effects ++ taken.effects }, c)

theorem feed?_eq (hc : c.Holds d.mouse.decoder) (hd : d.OnScreen) (byte : UInt8) :
    ∃ c', d.feed? c byte = some (d.feed byte, c') ∧
      c'.Holds (d.feed byte).state.mouse.decoder := by
  obtain ⟨c', hfed, hc'⟩ := Mouse.feed?_eq hc hd byte
  refine ⟨c', ?_, ?_⟩
  · unfold feed? feed
    simp only [hfed, takeSample?_eq, Option.bind_eq_bind, Option.bind_some]
    cases (d.mouse.feed byte).result <;> rfl
  · unfold feed
    dsimp only
    split <;> exact hc'

def drainFrom? {σ : Type} (next : σ → Option UInt8 × σ) (absorb : List Effect → σ → σ) :
    (budget : Nat) → (taken : Nat) → Desktop → Cells → σ → Option ((Nat × Desktop × σ) × Cells)
  | 0, taken, d, c, source =>
    some ((taken, { d with mouse := d.mouse.resync },
      absorb [.log (.pointerPortBusy taken)] source), c.reset)
  | budget + 1, taken, d, c, source =>
    match next source with
    | (none, source) => some ((taken, d, source), c)
    | (some byte, source) => do
      let (fed, c) ← d.feed? c byte
      drainFrom? next absorb budget (taken + 1) fed.state c (absorb fed.effects source)

theorem drainFrom?_eq {σ : Type} (next : σ → Option UInt8 × σ) (absorb : List Effect → σ → σ)
    (budget taken : Nat) (source : σ) (hc : c.Holds d.mouse.decoder) (hd : d.OnScreen) :
    ∃ c', drainFrom? next absorb budget taken d c source =
        some (drainFrom next absorb budget taken d source, c') ∧
      c'.Holds (drainFrom next absorb budget taken d source).2.1.mouse.decoder := by
  induction budget generalizing taken d c source with
  | zero => exact ⟨c.reset, rfl, hc.reset⟩
  | succ budget ih =>
    unfold drainFrom? drainFrom
    obtain ⟨answer, source'⟩ := next source
    cases answer with
    | none => exact ⟨c, rfl, hc⟩
    | some byte =>
      obtain ⟨c', hfed, hc'⟩ := feed?_eq hc hd byte
      have hscreen : (d.feed byte).state.OnScreen := OnScreen.apply hd (.feed byte)
      simp only [hfed, Option.bind_eq_bind, Option.bind_some]
      exact ih (taken + 1) (absorb (d.feed byte).effects source') hc' hscreen

def drain? (d : Desktop) (c : Cells) (source : Nat → Option UInt8) :
    Option (Outcome Desktop Drained × Cells) := do
  let next := fun (state : Nat × List Effect) => (source state.1, (state.1 + 1, state.2))
  let absorb := fun effects (state : Nat × List Effect) => (state.1, state.2 ++ effects)
  let ((taken, d, asked, effects), c) ← drainFrom? next absorb drainBudget 0 d c (0, [])
  some ({ state := d, effects := effects, result := ⟨taken, asked⟩ }, c)

theorem drain?_eq (hc : c.Holds d.mouse.decoder) (hd : d.OnScreen)
    (source : Nat → Option UInt8) :
    ∃ c', d.drain? c source = some (d.drain source, c') ∧
      c'.Holds (d.drain source).state.mouse.decoder := by
  obtain ⟨c', hdrained, hc'⟩ := drainFrom?_eq
    (fun state : Nat × List Effect => (source state.1, (state.1 + 1, state.2)))
    (fun effects state => (state.1, state.2 ++ effects)) drainBudget 0 (0, []) hc hd
  refine ⟨c', ?_, hc'⟩
  unfold drain?
  simp only [hdrained]
  rfl

/-! ### Operations -/

def close? (d : Desktop) (id : WindowId) : Option (Outcome Desktop (Except WindowError Unit)) :=
  match d.stack.find? id with
  | none => some (d.unknown id)
  | some _ => do
    let told := d.stack.notify id .close
    let forgot := d.tracker.forget id
    some
      { state := { d with stack := ← told.state.remove? id, tracker := forgot.state }
        effects := told.effects ++ forgot.effects ++ [.log (.closed id)]
        result := .ok () }

def focus? (d : Desktop) (id : WindowId) : Option (Outcome Desktop (Except WindowError Unit)) := do
  match ← d.stack.promote? id with
  | .error e =>
    some { state := d, effects := [.log (.unfocusableWindow id)], result := .error e }
  | .ok stack =>
    let tracker := if d.tracker.gesture.window? = some id then d.tracker else d.tracker.cancel
    some { state := { d with stack := stack, tracker := tracker }, result := .ok () }

def pointTo? (d : Desktop) (p : Point) (buttons : Buttons) : Option (Traced Desktop) := do
  let previous := d.mouse.position
  let cursor ← d.mouse.cursor.moveTo? p.x.toInt p.y.toInt
  let d := { d with mouse := { d.mouse with cursor := cursor } }
  d.takeSample? ⟨d.mouse.position, buttons, previous⟩

def paint? (d : Desktop) : Option (Traced Desktop) := do
  let painted ← d.stack.paint? d.display d.theme d.config d.cursor
  some { state := { d with stack := painted.state }, effects := painted.effects }

def setScreen? (d : Desktop) (screen : Size) : Option (Traced Desktop) :=
  if screen.isEmpty then some { state := d, effects := [.log (.emptyScreen screen)] }
  else do
    let moved ← d.mouse.cursor.setScreen? screen
    some
      { state :=
          { d with
            config := { d.config with screen := screen }
            mouse := { d.mouse with cursor := moved.state } }
        effects := moved.effects }

/-- An operation with everything checked that need not be defined. -/
def perform? (d : Desktop) (c : Cells) : Operation → Option (Outcome Desktop Reply × Cells)
  | .close id => do some (answered (← d.close? id), c)
  | .focus id => do some (answered (← d.focus? id), c)
  | .feed byte => do
    let (fed, c) ← d.feed? c byte
    some (silent fed, c)
  | .drain source => do
    let (drained, c) ← d.drain? c source
    some ({ drained with result := .drained drained.result }, c)
  | .pointTo p buttons => do some (silent (← d.pointTo? p buttons), c)
  | .paint => do some (silent (← d.paint?), c)
  | .setScreen screen => do some (silent (← d.setScreen? screen), c)
  -- nothing to check
  | op => some (d.apply op, c)

def run? (d : Desktop) (c : Cells) : List Operation → Option (Traced Desktop × Cells)
  | [] => some ({ state := d }, c)
  | op :: ops => do
    let (first, c) ← d.perform? c op
    let (rest, c) ← first.state.run? c ops
    some ({ state := rest.state, effects := first.effects ++ rest.effects }, c)

theorem close?_eq (d : Desktop) (id : WindowId) : d.close? id = some (d.close id) := by
  unfold close? close
  cases hw : d.stack.find? id with
  | none => rfl
  | some w =>
    have htold : (d.stack.notify id .close).state.find? id = some (w.notify .close).state :=
      Stack.find?_notify_self hw .close
    simp only [Stack.remove?_eq htold]
    rfl

theorem focus?_eq (d : Desktop) (id : WindowId) : d.focus? id = some (d.focus id) := by
  unfold focus? focus
  rw [Stack.promote?_eq]
  cases d.stack.promote id <;> rfl

theorem pointTo?_eq (hd : d.OnScreen) (p : Point) (buttons : Buttons) :
    d.pointTo? p buttons = some (d.pointTo p buttons) := by
  unfold pointTo?
  simp only [Cursor.Ok.moveTo?_eq hd, takeSample?_eq, Option.bind_eq_bind, Option.bind_some]
  rfl

theorem paint?_eq (d : Desktop) : d.paint? = some d.paint := by
  unfold paint?
  rw [Stack.paint?_eq]
  rfl

theorem setScreen?_eq (d : Desktop) (screen : Size) :
    d.setScreen? screen = some (d.setScreen screen) := by
  unfold setScreen? setScreen
  rw [Cursor.setScreen?_eq]
  split <;> rfl

theorem perform?_eq (hc : c.Holds d.mouse.decoder) (hd : d.OnScreen) (op : Operation) :
    ∃ c', d.perform? c op = some (d.apply op, c') ∧
      c'.Holds (d.apply op).state.mouse.decoder := by
  have hkept : op.isPointer = false → (∀ screen, op ≠ .setScreen screen) →
      c.Holds (d.apply op).state.mouse.decoder := by
    intro hpointer hscreen
    rw [(d.kept_apply hpointer hscreen).1]
    exact hc
  cases op with
  | feed byte =>
    obtain ⟨c', hfed, hc'⟩ := feed?_eq hc hd byte
    refine ⟨c', ?_, hc'⟩
    simp only [perform?, hfed]
    rfl
  | drain source =>
    obtain ⟨c', hdrained, hc'⟩ := drain?_eq hc hd source
    refine ⟨c', ?_, hc'⟩
    simp only [perform?, hdrained]
    rfl
  | pointTo p buttons =>
    refine ⟨c, ?_, hc⟩
    simp only [perform?, pointTo?_eq hd]
    rfl
  | setScreen screen =>
    refine ⟨c, ?_, ?_⟩
    · simp only [perform?, setScreen?_eq]
      rfl
    · show c.Holds (d.setScreen screen).state.mouse.decoder
      unfold setScreen
      split <;> exact hc
  | close id =>
    refine ⟨c, ?_, hkept rfl (by simp)⟩
    simp only [perform?, close?_eq]
    rfl
  | focus id =>
    refine ⟨c, ?_, hkept rfl (by simp)⟩
    simp only [perform?, focus?_eq]
    rfl
  | paint =>
    refine ⟨c, ?_, hkept rfl (by simp)⟩
    simp only [perform?, paint?_eq]
    rfl
  | _ => exact ⟨c, rfl, hkept rfl (by simp)⟩

theorem run?_eq (hc : c.Holds d.mouse.decoder) (hd : d.OnScreen) (ops : List Operation) :
    ∃ c', d.run? c ops = some (d.run ops, c') ∧ c'.Holds (d.run ops).state.mouse.decoder := by
  induction ops generalizing d c with
  | nil => exact ⟨c, rfl, hc⟩
  | cons op ops ih =>
    obtain ⟨c', hfirst, hc'⟩ := perform?_eq hc hd op
    obtain ⟨c'', hrest, hc''⟩ := ih hc' (hd.apply op)
    refine ⟨c'', ?_, hc''⟩
    unfold run?
    simp only [hfirst, hrest, Option.bind_eq_bind, Option.bind_some]
    rfl

/-- No run of operations stops, whatever the settings and the display are. All that is not defined on
all arguments is defined whenever it is used, and the run comes to the same with and without the checks:
a byte has a cell of the packet to go to, a range has its bounds the right way round, a row of pixels
lies on the surface, what is turned when a window is raised is not empty, and a window is taken out where
there is one. -/
theorem no_run_stops (config : Config) (theme : Theme) (display : Display) (heap : Heap)
    (ops : List Operation) :
    let fresh := (start config theme display heap).state
    ∃ c : Cells, fresh.run? {} ops = some (fresh.run ops, c) ∧
      c.index < Packet.length ∧ c.decoder = (fresh.run ops).state.mouse.decoder := by
  intro fresh
  have hcells : Cells.Holds {} fresh.mouse.decoder := ⟨Nat.succ_pos _, rfl⟩
  obtain ⟨c, hrun, hc⟩ := run?_eq hcells (Cursor.ok_ofScreen config.screen) ops
  exact ⟨c, hrun, hc.index, hc.decoder⟩

end Desktop
end PointerDesktop
