import PointerDesktop.Proofs.OnScreen

/-!
# The drawn cursor leaves no trail

`Redraws p calls q`: the cursor is drawn at `p`, and the calls take it, over any number of places, to
`q`; each takes it off the screen where it is before it is drawn somewhere else. The place that a call
takes the cursor off comes from the sample, from before a jump or from the frame; all are the place where
the cursor was drawn last, because every operation redraws it from where it was to where it is
(`Desktop.redraws_apply`), unless a new screen size has pulled it away. Main statement:
`Desktop.no_ghost_cursor`.
-/

namespace PointerDesktop

/-- The call draws the cursor or takes it off the screen. -/
def Effect.cursorCall? : Effect → Option DisplayCall
  | .display (.drawCursor p) => some (.drawCursor p)
  | .display (.eraseCursor p) => some (.eraseCursor p)
  | _ => none

def cursorCalls (es : List Effect) : List DisplayCall := es.filterMap (·.cursorCall?)

@[simp] theorem cursorCalls_append (es fs : List Effect) :
    cursorCalls (es ++ fs) = cursorCalls es ++ cursorCalls fs :=
  List.filterMap_append

/-- What names no place draws no cursor. -/
theorem cursorCalls_of_points {es : List Effect} (h : points es = []) : cursorCalls es = [] := by
  refine List.filterMap_eq_nil_iff.2 fun e he => ?_
  have hpoint := List.filterMap_eq_nil_iff.1 h e he
  unfold Effect.point? at hpoint
  unfold Effect.cursorCall?
  split at hpoint <;> simp_all

/-- The calls take the cursor from `p`, where it is drawn, to `q`. -/
inductive Redraws : Point → List DisplayCall → Point → Prop where
  | rest (p : Point) : Redraws p [] p
  | move {p q r : Point} {calls : List DisplayCall} (h : Redraws q calls r) :
      Redraws p (.eraseCursor p :: .drawCursor q :: calls) r

namespace Redraws
variable {p q r : Point} {calls more : List DisplayCall}

theorem once (p q : Point) : Redraws p [.eraseCursor p, .drawCursor q] q := .move (.rest q)

theorem append (h : Redraws p calls q) (h' : Redraws q more r) : Redraws p (calls ++ more) r := by
  induction h with
  | rest => exact h'
  | move _ ih => exact .move (ih h')

/-- The cursor is where it was drawn last. -/
theorem getLast? (h : Redraws p calls q) (hcalls : calls ≠ []) :
    calls.getLast? = some (.drawCursor q) := by
  induction h with
  | rest => exact absurd rfl hcalls
  | @move _ q _ calls h ih =>
    cases h with
    | rest => rfl
    | move h => exact ih (by simp)

end Redraws

namespace Desktop
variable {d : Desktop} {op : Operation}

theorem redraws_takeSample (d : Desktop) (q : Sample) :
    Redraws q.previous (cursorCalls (d.takeSample q).effects) q.position := by
  have hobserver : cursorCalls (d.observerEffects q) = [] := by
    unfold observerEffects
    split <;> rfl
  have hscene : cursorCalls (d.toScene.step d.config q.position q.buttons).effects = [] :=
    cursorCalls_of_points (Scene.points_step ..)
  unfold takeSample cursorEffects
  simp only [cursorCalls_append, hobserver, hscene, List.append_nil]
  split
  · exact .once _ _
  · next hmoved =>
    -- a sample that has not moved draws nothing, and the cursor is where it was
    have hsame : q.position = q.previous := by simpa [Sample.moved] using hmoved
    rw [hsame]
    exact .rest _

theorem redraws_feed (d : Desktop) (byte : UInt8) :
    Redraws d.cursor (cursorCalls (d.feed byte).effects) (d.feed byte).state.cursor := by
  have hlog := cursorCalls_of_points (points_of_log (d.mouse.log_feed byte))
  rcases d.mouse.feed_cases byte with ⟨hresult, hcursor⟩ | ⟨packet, hresult, hcursor⟩
  · rw [feed_of_none hresult, hlog]
    have hstays : cursor { d with mouse := (d.mouse.feed byte).state } = d.cursor :=
      congrArg Cursor.position hcursor
    rw [hstays]
    exact .rest _
  · have hprevious : (d.mouse.feed byte).state.cursor.previous = d.cursor := by
      rw [hcursor]
      rfl
    have htaken := redraws_takeSample { d with mouse := (d.mouse.feed byte).state }
      ⟨(d.mouse.feed byte).state.cursor.position, packet.buttons,
        (d.mouse.feed byte).state.cursor.previous⟩
    rw [hprevious] at htaken
    rw [feed_of_some hresult, cursorCalls_append, hlog, hprevious]
    exact htaken

theorem redraws_feedAll (d : Desktop) (bytes : List UInt8) :
    Redraws d.cursor (cursorCalls (d.feedAll bytes).effects) (d.feedAll bytes).state.cursor := by
  induction bytes generalizing d with
  | nil => exact .rest _
  | cons byte bytes ih =>
    rw [feedAll_cons, cursorCalls_append]
    exact (d.redraws_feed byte).append (ih _)

/-- A frame takes the cursor off the screen and draws it at the same place. -/
theorem redraws_paint (d : Desktop) :
    Redraws d.cursor (cursorCalls d.paint.effects) d.cursor := by
  have hwindows := cursorCalls_of_points (d.stack.points_windows d.display d.theme d.config)
  unfold paint Stack.paint
  dsimp only
  rw [cursorCalls_append, cursorCalls_append, hwindows]
  exact .once _ _

/-- The operation sets a screen size that pulls the cursor to another place. -/
def pullsCursor (d : Desktop) : Operation → Bool
  | .setScreen screen => (d.setScreen screen).state.cursor != d.cursor
  | _ => false

theorem cursor_apply (d : Desktop) (hop : op.isPointer = false) (hpull : d.pullsCursor op = false) :
    (d.apply op).state.cursor = d.cursor := by
  by_cases hscreen : ∃ screen, op = .setScreen screen
  · obtain ⟨screen, rfl⟩ := hscreen
    have hsame : (d.setScreen screen).state.cursor = d.cursor := by simpa [pullsCursor] using hpull
    exact hsame
  · have hkept := d.kept_apply hop fun screen heq => hscreen ⟨screen, heq⟩
    exact congrArg Mouse.position hkept.1

/-- Every operation redraws the cursor from where it was to where it is. -/
theorem redraws_apply (d : Desktop) (hpull : d.pullsCursor op = false) :
    Redraws d.cursor (cursorCalls (d.apply op).effects) (d.apply op).state.cursor := by
  cases hop : op.isPointer with
  | false =>
    rw [d.cursor_apply hop hpull]
    by_cases hpaint : op = .paint
    · subst hpaint
      exact d.redraws_paint
    · rw [cursorCalls_of_points (d.points_apply_of_ne_paint hop hpaint)]
      exact .rest _
  | true =>
    cases op with
    | feed byte => exact d.redraws_feed byte
    | drain source =>
      have hfed := d.redraws_feedAll (answers source drainBudget 0)
      show Redraws d.cursor (cursorCalls (d.drain source).effects) (d.drain source).state.cursor
      rw [drain_eq]
      dsimp only
      split
      · rw [cursorCalls_append]
        exact hfed.append (.rest _)
      · exact hfed
    | pointTo p buttons =>
      exact redraws_takeSample { d with mouse := d.mouse.warp p }
        ⟨(d.mouse.warp p).position, buttons, d.mouse.position⟩
    | _ => cases hop

/-- No new screen size in the run pulls the cursor to another place. -/
def unpulled (d : Desktop) : List Operation → Bool
  | [] => true
  | op :: ops => !d.pullsCursor op && (d.apply op).state.unpulled ops

theorem unpulled_append {ops more : List Operation} :
    d.unpulled (ops ++ more) = (d.unpulled ops && (d.run ops).state.unpulled more) := by
  induction ops generalizing d with
  | nil => simp [unpulled, run]
  | cons op ops ih => simp [unpulled, run, ih, Bool.and_assoc]

theorem redraws_run {ops : List Operation} (hops : d.unpulled ops = true) :
    Redraws d.cursor (cursorCalls (d.run ops).effects) (d.run ops).state.cursor := by
  induction ops generalizing d with
  | nil => exact .rest _
  | cons op ops ih =>
    obtain ⟨hop, hops⟩ := Bool.and_eq_true_iff.1 hops
    unfold run
    rw [cursorCalls_append]
    exact (d.redraws_apply (by simpa using hop)).append (ih hops)

/-- In a run in which no new screen size pulls the cursor away, the display is asked in turn to take the
cursor off the screen and to draw it. The first place that it is taken off is the middle of the screen,
and every other one is where it has been drawn last. After an operation that has made such a call, the
last one has drawn the cursor where it now is. -/
theorem no_ghost_cursor (config : Config) (theme : Theme) (display : Display) (heap : Heap)
    {ops : List Operation}
    (hops : (start config theme display heap).state.unpulled ops = true) :
    let fresh := (start config theme display heap).state
    (fresh.cursor.x.toInt = (Cursor.extent config.screen.width).toInt / 2 ∧
      fresh.cursor.y.toInt = (Cursor.extent config.screen.height).toInt / 2) ∧
    (∀ before after, ops = before ++ after → Redraws fresh.cursor
      (cursorCalls (fresh.run before).effects) (fresh.run before).state.cursor) ∧
    ∀ before op after, ops = before ++ op :: after →
      let d := (fresh.run before).state
      cursorCalls (d.apply op).effects ≠ [] →
        (cursorCalls (d.apply op).effects).getLast? = some (.drawCursor (d.apply op).state.cursor) := by
  intro fresh
  refine ⟨⟨Cursor.toInt_middle _, Cursor.toInt_middle _⟩, ?_, ?_⟩
  · rintro before after rfl
    rw [unpulled_append, Bool.and_eq_true] at hops
    exact redraws_run hops.1
  · rintro before op after rfl d hcalls
    rw [unpulled_append, Bool.and_eq_true] at hops
    obtain ⟨hop, -⟩ := Bool.and_eq_true_iff.1 hops.2
    exact (d.redraws_apply (by simpa using hop)).getLast? hcalls

/-- A byte that starts no packet, a packet, a frame, a smaller screen, a jump, a press at the same place,
and a drain. -/
theorem no_ghost_cursor_mixed :
    let ops := [.feed 0x00, .feed 0x08, .feed 10, .feed 0, .paint, .setScreen ⟨640, 480⟩,
      .pointTo ⟨30, 40⟩ .none, .pointTo ⟨30, 40⟩ .left]
    let drain := .drain fun asked => [0x08, 0, 5][asked]?
    let fresh := (start {} {} .software (.upTo 4194304)).state
    let d := (fresh.run ops).state
    fresh.unpulled (ops ++ [drain]) = true ∧
      Redraws ⟨400, 300⟩ (cursorCalls (fresh.run ops).effects) ⟨30, 40⟩ ∧
      cursorCalls (fresh.run ops).effects =
        [.eraseCursor ⟨400, 300⟩, .drawCursor ⟨410, 300⟩, .eraseCursor ⟨410, 300⟩,
          .drawCursor ⟨410, 300⟩, .eraseCursor ⟨410, 300⟩, .drawCursor ⟨30, 40⟩] ∧
      cursorCalls (d.apply drain).effects ≠ [] ∧
      (cursorCalls (d.apply drain).effects).getLast? = some (.drawCursor ⟨30, 35⟩) := by
  intro ops drain fresh d
  have hops : fresh.unpulled (ops ++ [drain]) = true := by decide +kernel
  have hcalls : cursorCalls (d.apply drain).effects ≠ [] := by decide +kernel
  have hcursor : d.cursor = ⟨30, 40⟩ := by decide +kernel
  have hdrained : (d.apply drain).state.cursor = ⟨30, 35⟩ := by decide +kernel
  obtain ⟨-, hredraws, hlast⟩ := no_ghost_cursor {} {} .software _ hops
  have hredraws : Redraws fresh.cursor (cursorCalls (fresh.run ops).effects) d.cursor :=
    hredraws ops [drain] rfl
  have hlast : (cursorCalls (d.apply drain).effects).getLast? =
      some (.drawCursor (d.apply drain).state.cursor) := hlast ops drain [] rfl hcalls
  rw [hcursor] at hredraws
  rw [hdrained] at hlast
  exact ⟨hops, hredraws, by decide +kernel, hcalls, hlast⟩

end Desktop
end PointerDesktop
