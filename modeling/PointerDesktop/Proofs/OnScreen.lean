import PointerDesktop.Proofs.Deliveries
import PointerDesktop.Proofs.PaintOrder
import PointerDesktop.Proofs.PointerPath

/-!
# The pointer stays on the screen

`Cursor.Shows c p`: the point `p` is a pixel of the screen that the cursor `c` moves on. `Cursor.Ok`
adds that this screen is the one of the settings and that both positions of the cursor are pixels of
it. Settings and cursor change together or not at all, so every operation keeps it, and whatever
display, observer and windows are told on the way is a pixel as well (`Desktop.Stays`). Main
statement: `Desktop.pointer_on_screen`.
-/

namespace PointerDesktop

/-- The place of the screen that the display or the observer is told. -/
def Effect.point? : Effect → Option Point
  | .display (.drawCursor p) | .display (.eraseCursor p) | .observe _ p _ => some p
  | _ => none

def points (es : List Effect) : List Point := es.filterMap (·.point?)

@[simp] theorem points_append (es fs : List Effect) : points (es ++ fs) = points es ++ points fs :=
  List.filterMap_append

namespace Cursor

/-- The point is a pixel of the screen. -/
def Shows (c : Cursor) (p : Point) : Prop :=
  (0 ≤ p.x.toInt ∧ p.x.toInt ≤ c.width.toInt - 1) ∧ 0 ≤ p.y.toInt ∧ p.y.toInt ≤ c.height.toInt - 1

/-- The cursor is on a screen of the given size. -/
structure Ok (c : Cursor) (screen : Size) : Prop where
  width : c.width = extent screen.width
  height : c.height = extent screen.height
  position : c.Shows c.position
  previous : c.Shows c.previous

theorem extent_pos (side : UInt32) : 1 ≤ (extent side).toInt := by
  rw [toInt_extent]
  exact Int.le_max_left ..

namespace Ok
variable {c c' : Cursor} {screen : Size} {p : Point}

theorem shows_iff (h : c.Ok screen) (h' : c'.Ok screen) : c.Shows p ↔ c'.Shows p := by
  unfold Shows
  rw [h.width, h.height, h'.width, h'.height]

end Ok

theorem shows_clamp {c : Cursor} {screen : Size} (hw : c.width = extent screen.width)
    (hh : c.height = extent screen.height) (x y : Int) : c.Shows (c.clamp x y) := by
  have hwidth := extent_pos screen.width
  have hheight := extent_pos screen.height
  unfold Shows clamp
  rw [toInt_clampTo, toInt_clampTo, hw, hh]
  omega

/-- The middle of a side is a coordinate. -/
theorem toInt_middle (side : UInt32) :
    (Int32.ofInt ((extent side).toInt / 2)).toInt = (extent side).toInt / 2 := by
  have hpos := extent_pos side
  have hlt := (extent side).toInt_lt
  exact Int32.toInt_ofInt_of_le (by omega) (by omega)

theorem ok_ofScreen (screen : Size) : (ofScreen screen).Ok screen := by
  have hshows : (ofScreen screen).Shows (ofScreen screen).position := by
    have hwidth := extent_pos screen.width
    have hheight := extent_pos screen.height
    unfold Shows ofScreen
    dsimp only
    rw [toInt_middle, toInt_middle]
    omega
  exact ⟨rfl, rfl, hshows, hshows⟩

namespace Ok
variable {c : Cursor} {screen : Size}

theorem moveTo (h : c.Ok screen) (x y : Int) : (c.moveTo x y).Ok screen :=
  ⟨h.width, h.height, shows_clamp h.width h.height x y, h.position⟩

theorem setScreen (h : c.Ok screen) (screen' : Size) :
    (c.setScreen screen').state.Ok (if screen'.isEmpty then screen else screen') := by
  unfold Cursor.setScreen
  split
  · exact h
  · exact ⟨rfl, rfl, shows_clamp rfl rfl _ _, shows_clamp rfl rfl _ _⟩

end Ok
end Cursor

namespace Mouse

/-- A byte leaves the cursor where it is, or completes a packet and moves it to where the sample says. -/
theorem feed_cases (m : Mouse) (byte : UInt8) :
    (m.feed byte).result = none ∧ (m.feed byte).state.cursor = m.cursor ∨
      ∃ packet : Packet, (m.feed byte).result =
          some ⟨(m.feed byte).state.cursor.position, packet.buttons,
            (m.feed byte).state.cursor.previous⟩ ∧
        (m.feed byte).state.cursor = m.cursor.moveBy packet.dx (-packet.dy) := by
  unfold feed
  dsimp only
  split
  · exact .inl ⟨rfl, rfl⟩
  · exact .inl ⟨rfl, rfl⟩
  · next packet _ => exact .inr ⟨packet, rfl, rfl⟩

end Mouse

/-! ### Effects without a place -/

section
variable {s : Scene} {config : Config} {p : Point}

theorem points_of_log {es : List Effect} (h : ∀ e ∈ es, ∃ notice, e = .log notice) :
    points es = [] := by
  refine List.filterMap_eq_nil_iff.2 fun e he => ?_
  obtain ⟨notice, rfl⟩ := h e he
  rfl

theorem Window.points_notify (w : Window) (event : WindowEvent) :
    points (w.notify event).effects = [] := by
  rcases w.notify_cases event with h | ⟨sink, -, h⟩ <;> rw [h] <;> rfl

theorem Stack.points_notify (s : Stack) (id : WindowId) (event : WindowEvent) :
    points (s.notify id event).effects = [] := by
  unfold notify
  split
  · rfl
  · exact Window.points_notify _ _

theorem Scene.Acts.points {t : Traced Scene} (h : Acts config p s t) : points t.effects = [] := by
  cases h with
  | click _ _ _ _ _ => exact Stack.points_notify ..
  | hover _ _ _ _ => exact Stack.points_notify ..
  | pullTell _ _ _ _ _ => exact Stack.points_notify ..
  | release _ _ _ => exact Stack.points_notify ..
  | _ => rfl

theorem Scene.points_step (s : Scene) (config : Config) (p : Point) (buttons : Buttons) :
    PointerDesktop.points (s.step config p buttons).effects = [] := by
  have hact : PointerDesktop.points (s.act config p buttons).effects = [] :=
    (acts_act (s := s)).points
  unfold step
  dsimp only
  split <;> exact hact

theorem Window.points_paint (w : Window) (display : Display) (theme : Theme) (config : Config)
    (focused : Bool) : points (w.paint display theme config focused).effects = [] := by
  have hdecorations : points (w.decorate display theme config focused).effects = [] := by
    refine List.filterMap_eq_nil_iff.2 fun e he => ?_
    obtain ⟨call, hcall, rfl⟩ := List.mem_map.1 he
    have hsurface := w.reachesScreen_decorationCalls theme config focused call hcall
    cases call <;> first | rfl | cases hsurface
  unfold paint
  split
  · rw [points_append, points_append, hdecorations, Window.points_notify]
    rfl
  · rfl

theorem Stack.points_windows (s : Stack) (display : Display) (theme : Theme) (config : Config) :
    points ((s.windows.map fun w => w.paint display theme config (s.focused = some w.id)).flatMap
      (·.effects)) = [] := by
  refine List.filterMap_eq_nil_iff.2 fun e he => ?_
  obtain ⟨painted, hpainted, he⟩ := List.mem_flatMap.1 he
  obtain ⟨w, -, rfl⟩ := List.mem_map.1 hpainted
  exact List.filterMap_eq_nil_iff.1 (w.points_paint display theme config _) e he

end

namespace Desktop
variable {d : Desktop} {op : Operation}

/-! ### Operations that are no pointer input -/

theorem points_update (d : Desktop) (id : WindowId) (change : Window → Except WindowError Window) :
    points (d.update id change).effects = [] := by
  unfold update
  split
  · rfl
  split <;> rfl

theorem points_setSize (d : Desktop) (id : WindowId) (size : Size) :
    points (d.setSize id size).effects = [] := by
  unfold setSize
  split
  · rfl
  split
  · rfl
  split
  · rfl
  dsimp only
  split
  · rfl
  · exact Stack.points_notify ..

theorem points_paint (d : Desktop) : points d.paint.effects = [d.cursor, d.cursor] := by
  unfold paint Stack.paint
  dsimp only
  rw [points_append, points_append, Stack.points_windows]
  rfl

/-- Apart from frames only pointer input names places. -/
theorem points_apply_of_ne_paint (d : Desktop) (hop : op.isPointer = false) (hpaint : op ≠ .paint) :
    points (d.apply op).effects = [] := by
  cases op with
  | create title size flags => exact points_of_log (d.log_create title size flags)
  | close id =>
    show points (d.close id).effects = []
    unfold close
    split
    · rfl
    · rw [points_append, points_append, Stack.points_notify, points_of_log (log_forget _ _)]
      rfl
  | setSize id size => exact d.points_setSize id size
  | setTitle id title =>
    show points (d.setTitle id title).effects = []
    unfold setTitle
    split
    · rfl
    split <;> rfl
  | hide id =>
    show points (d.hide id).effects = []
    unfold hide
    split
    · rfl
    · exact points_of_log (log_forget _ _)
  | focus id =>
    show points (d.focus id).effects = []
    unfold focus
    split <;> rfl
  | pressKey key =>
    show points (d.pressKey key).effects = []
    unfold pressKey
    split
    · rfl
    · exact Stack.points_notify ..
  | paint => exact absurd rfl hpaint
  | setScreen screen =>
    show points (d.setScreen screen).effects = []
    unfold setScreen Mouse.setScreen Cursor.setScreen
    split <;> rfl
  | setObserver observer => rfl
  | feed byte => cases hop
  | drain source => cases hop
  | pointTo p buttons => cases hop
  | _ => exact d.points_update _ _

/-- An operation that is no pointer input names no place but that of the cursor. -/
theorem points_apply (d : Desktop) (hop : op.isPointer = false) :
    ∀ p ∈ points (d.apply op).effects, p = d.cursor := by
  by_cases hpaint : op = .paint
  · subst hpaint
    show ∀ p ∈ points d.paint.effects, p = d.cursor
    rw [points_paint]
    simp
  · rw [d.points_apply_of_ne_paint hop hpaint]
    simp

theorem kept_apply (d : Desktop) (hop : op.isPointer = false)
    (hscreen : ∀ screen, op ≠ .setScreen screen) :
    (d.apply op).state.mouse = d.mouse ∧ (d.apply op).state.config = d.config := by
  have hupdate : ∀ id change, (d.update id change).state.mouse = d.mouse ∧
      (d.update id change).state.config = d.config := by
    intro id change
    unfold update
    split
    · exact ⟨rfl, rfl⟩
    split <;> exact ⟨rfl, rfl⟩
  cases op with
  | create title size flags =>
    simp only [apply, create]
    split <;> exact ⟨rfl, rfl⟩
  | close id =>
    simp only [apply, answered, close]
    split <;> exact ⟨rfl, rfl⟩
  | setSize id size =>
    simp only [apply, answered, setSize]
    split
    · exact ⟨rfl, rfl⟩
    split
    · exact ⟨rfl, rfl⟩
    split
    · exact ⟨rfl, rfl⟩
    split <;> exact ⟨rfl, rfl⟩
  | setTitle id title =>
    simp only [apply, answered, setTitle]
    split
    · exact ⟨rfl, rfl⟩
    split <;> exact ⟨rfl, rfl⟩
  | hide id =>
    simp only [apply, answered, hide]
    split <;> exact ⟨rfl, rfl⟩
  | focus id =>
    simp only [apply, answered, focus]
    split <;> exact ⟨rfl, rfl⟩
  | pressKey key =>
    simp only [apply, silent, pressKey]
    split <;> exact ⟨rfl, rfl⟩
  | setScreen screen => exact absurd rfl (hscreen screen)
  | setObserver observer => exact ⟨rfl, rfl⟩
  | paint => exact ⟨rfl, rfl⟩
  | feed byte => cases hop
  | drain source => cases hop
  | pointTo p buttons => cases hop
  | _ => exact hupdate _ _

/-- The cursor is on the screen of the settings. -/
def OnScreen (d : Desktop) : Prop := d.mouse.cursor.Ok d.config.screen

theorem OnScreen.call (h : d.OnScreen) (hop : op.isPointer = false) :
    (d.apply op).state.OnScreen := by
  unfold OnScreen
  by_cases hscreen : ∃ screen, op = .setScreen screen
  · -- settings and cursor check the size each for itself, and refuse the same ones
    obtain ⟨screen, rfl⟩ := hscreen
    have hcursor := Cursor.Ok.setScreen h screen
    simp only [apply, silent, Desktop.setScreen]
    split
    · exact h
    · next hsize =>
      rw [if_neg hsize] at hcursor
      exact hcursor
  · have hkept := d.kept_apply hop fun screen heq => hscreen ⟨screen, heq⟩
    rw [hkept.1, hkept.2]
    exact h

/-! ### Pointer input -/

/-- What becomes of `d` by the samples `ms` is on the same screen, and so is the cursor whenever a sample
is taken; all places that are named are pixels of that screen. -/
structure Stays (d : Desktop) (ms : List (Desktop × Sample)) (t : Traced Desktop) : Prop where
  screen : t.state.config.screen = d.config.screen
  cursor : t.state.mouse.cursor.Ok d.config.screen
  points : ∀ p ∈ points t.effects, d.mouse.cursor.Shows p
  samples : ∀ m ∈ ms, m.1.mouse.cursor.Ok d.config.screen ∧
    m.1.mouse.cursor.Shows m.2.position ∧ m.1.mouse.cursor.Shows m.2.previous

namespace Stays
variable {ms ns : List (Desktop × Sample)} {t u : Traced Desktop} {q : Sample}

theorem append (hd : d.OnScreen) (ht : d.Stays ms t) (hu : t.state.Stays ns u) :
    d.Stays (ms ++ ns) { state := u.state, effects := t.effects ++ u.effects } := by
  have hshows : ∀ p, t.state.mouse.cursor.Shows p ↔ d.mouse.cursor.Shows p :=
    fun p => ht.cursor.shows_iff hd
  obtain ⟨hscreen, hcursor, hpoints, hsamples⟩ := hu
  rw [ht.screen] at hscreen hcursor hsamples
  refine ⟨hscreen, hcursor, fun p hp => ?_, List.forall_mem_append.2 ⟨ht.samples, hsamples⟩⟩
  rw [points_append, List.mem_append] at hp
  rcases hp with hp | hp
  · exact ht.points p hp
  · exact (hshows p).1 (hpoints p hp)

theorem takeSample (h : d.OnScreen) (hposition : q.position = d.mouse.cursor.position)
    (hprevious : q.previous = d.mouse.cursor.previous) : d.Stays [(d, q)] (d.takeSample q) := by
  have hposition : d.mouse.cursor.Shows q.position := hposition ▸ h.position
  have hprevious : d.mouse.cursor.Shows q.previous := hprevious ▸ h.previous
  refine ⟨rfl, h, fun p hp => ?_, by simpa using ⟨h, hposition, hprevious⟩⟩
  have hobserver : ∀ p ∈ PointerDesktop.points (d.observerEffects q), p = q.position := by
    unfold observerEffects
    split <;> simp [PointerDesktop.points, Effect.point?]
  have hcursor : ∀ p ∈ PointerDesktop.points (cursorEffects q), p = q.previous ∨ p = q.position := by
    unfold cursorEffects
    split <;> simp [PointerDesktop.points, Effect.point?]
  unfold Desktop.takeSample at hp
  dsimp only at hp
  rw [points_append, points_append, Scene.points_step, List.append_nil, List.mem_append] at hp
  rcases hp with hp | hp
  · rcases hcursor p hp with rfl | rfl
    · exact hprevious
    · exact hposition
  · rw [hobserver p hp]
    exact hposition

end Stays

theorem stays_feed (h : d.OnScreen) (byte : UInt8) :
    d.Stays (d.byteSamplings byte) (d.feed byte) := by
  have hlog := points_of_log (d.mouse.log_feed byte)
  unfold byteSamplings
  rcases d.mouse.feed_cases byte with ⟨hresult, hcursor⟩ | ⟨packet, hresult, hcursor⟩
  · rw [feed_of_none hresult]
    refine ⟨rfl, ?_, ?_, by simp [hresult]⟩
    · show Cursor.Ok (d.mouse.feed byte).state.cursor _
      rw [hcursor]
      exact h
    · rw [hlog]
      simp
  · have hmoved : OnScreen { d with mouse := (d.mouse.feed byte).state } := by
      show Cursor.Ok (d.mouse.feed byte).state.cursor _
      rw [hcursor]
      exact Cursor.Ok.moveTo h _ _
    rw [feed_of_some hresult, hresult]
    have htaken := Stays.takeSample hmoved (q := ⟨_, packet.buttons, _⟩) rfl rfl
    refine ⟨htaken.screen, htaken.cursor, fun p hp => ?_, htaken.samples⟩
    dsimp only at hp
    rw [points_append, hlog, List.nil_append] at hp
    exact (hmoved.shows_iff h).1 (htaken.points p hp)

theorem stays_feedAll (h : d.OnScreen) (bytes : List UInt8) :
    d.Stays (d.bytesSamplings bytes) (d.feedAll bytes) := by
  induction bytes generalizing d with
  | nil => exact ⟨rfl, h, by simp [points, feedAll, run], by simp [bytesSamplings]⟩
  | cons byte bytes ih =>
    have hfed := stays_feed h byte
    have hmoved : (d.feed byte).state.OnScreen := by
      unfold OnScreen
      rw [hfed.screen]
      exact hfed.cursor
    rw [feedAll_cons, bytesSamplings]
    exact hfed.append h (ih hmoved)

theorem stays_apply (h : d.OnScreen) (hop : op.isPointer = true) :
    d.Stays (d.opSamplings op) (d.apply op).toTraced := by
  cases op with
  | feed byte => exact stays_feed h byte
  | drain source =>
    have hfed := stays_feedAll h (answers source drainBudget 0)
    show d.Stays _ (d.drain source).toTraced
    rw [drain_eq]
    dsimp only
    split
    · refine ⟨hfed.screen, hfed.cursor, ?_, hfed.samples⟩
      dsimp only
      rw [points_append]
      simpa [points, Effect.point?] using hfed.points
    · exact hfed
  | pointTo p buttons =>
    have hmoved : OnScreen { d with mouse := d.mouse.warp p } := Cursor.Ok.moveTo h _ _
    have htaken := Stays.takeSample hmoved (q := ⟨_, buttons, _⟩) rfl rfl
    exact ⟨htaken.screen, htaken.cursor, fun q hq => (hmoved.shows_iff h).1 (htaken.points q hq),
      htaken.samples⟩
  | _ => cases hop

theorem OnScreen.apply (h : d.OnScreen) (op : Operation) : (d.apply op).state.OnScreen := by
  cases hop : op.isPointer with
  | false => exact h.call hop
  | true =>
    have hstays := stays_apply h hop
    unfold OnScreen
    rw [hstays.screen]
    exact hstays.cursor

theorem OnScreen.run (h : d.OnScreen) (ops : List Operation) : (d.run ops).state.OnScreen := by
  induction ops generalizing d with
  | nil => exact h
  | cons op ops ih => exact ih (h.apply op)

/-- Whatever the size of the screen and whatever callers do, the pointer stays on the screen. The cursor
moves between bounds that are those of the settings, each as near to them as a coordinate of a pixel
can be; both its positions are pixels, and so is every place that an operation tells the display, the
observer or the windows. A displacement moves it on each axis to the coordinate on the screen that is
nearest to the exact sum, and the sum may be taken in signed words that stop at their ends. -/
theorem pointer_on_screen (config : Config) (theme : Theme) (display : Display) (heap : Heap)
    (ops : List Operation) :
    let d := ((start config theme display heap).state.run ops).state
    let c := d.mouse.cursor
    (c.width.toInt = max 1 (min (d.config.screen.width.toNat : Int) 2147483647) ∧
      c.height.toInt = max 1 (min (d.config.screen.height.toNat : Int) 2147483647)) ∧
    (c.Shows c.position ∧ c.Shows c.previous) ∧
    (∀ op, (∀ p ∈ points (d.apply op).effects, c.Shows p) ∧
      ∀ m ∈ d.opSamplings op,
        (m.1.mouse.cursor.width = c.width ∧ m.1.mouse.cursor.height = c.height) ∧
        c.Shows m.2.position ∧ c.Shows m.2.previous) ∧
    ∀ dx dy : Int32,
      let moved := c.moveBy dx.toInt dy.toInt
      moved.position.x.toInt = max 0 (min (c.position.x.toInt + dx.toInt) (c.width.toInt - 1)) ∧
      moved.position.y.toInt = max 0 (min (c.position.y.toInt + dy.toInt) (c.height.toInt - 1)) ∧
      moved.previous = c.position ∧
      moved = c.moveTo (c.position.x.toInt + dx.toInt) (c.position.y.toInt + dy.toInt) ∧
      moved = c.moveTo (nearestCoordinate (c.position.x.toInt + dx.toInt)).toInt
        (nearestCoordinate (c.position.y.toInt + dy.toInt)).toInt := by
  intro d c
  have hstart : (start config theme display heap).state.OnScreen := Cursor.ok_ofScreen config.screen
  have h : d.OnScreen := hstart.run ops
  refine ⟨?_, ⟨h.position, h.previous⟩, fun op => ?_, fun dx dy => ?_⟩
  · rw [h.width, h.height, Cursor.toInt_extent, Cursor.toInt_extent]
    exact ⟨rfl, rfl⟩
  · cases hop : op.isPointer with
    | false =>
      rw [d.opSamplings_of_not_pointer hop]
      refine ⟨fun p hp => ?_, by simp⟩
      rw [d.points_apply hop p hp]
      exact h.position
    | true =>
      have hstays := stays_apply h hop
      refine ⟨hstays.points, fun m hm => ?_⟩
      obtain ⟨hcursor, hposition, hprevious⟩ := hstays.samples m hm
      exact ⟨⟨hcursor.width.trans h.width.symm, hcursor.height.trans h.height.symm⟩,
        (hcursor.shows_iff h).1 hposition, (hcursor.shows_iff h).1 hprevious⟩
  · have hexact := c.moveBy_eq dx.toInt dy.toInt
    refine ⟨?_, ?_, rfl, hexact, rfl⟩
    · rw [hexact]
      exact Cursor.toInt_clampTo ..
    · rw [hexact]
      exact Cursor.toInt_clampTo ..

end Desktop
end PointerDesktop
