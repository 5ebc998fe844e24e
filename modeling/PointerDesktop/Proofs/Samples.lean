import PointerDesktop.Proofs.DrainFeeds
import PointerDesktop.Proofs.SceneSteps

/-!
# The samples of a run

`Desktop.samplings d ops`: the samples that a run of `ops` from `d` takes, from whichever port they
come, each with the desktop that takes it. A run of pointer input does to the windows and to the
gesture what its samples do one after the other, and it delivers what they deliver
(`Desktop.takes_run`). Any run is made of its samples, of operations that are no pointer input and of
changes of the pointing device (`Desktop.leads_run`), and what these keep the run keeps
(`Desktop.keeps_run`).
-/

namespace PointerDesktop

/-- The operation hands in input of the pointing device. -/
def Operation.isPointer : Operation → Bool
  | .feed _ | .drain _ | .pointTo .. => true
  | _ => false

/-- A client is handed an event. -/
def Effect.isDelivery : Effect → Bool
  | .deliver .. => true
  | _ => false

def deliveries (effects : List Effect) : List Effect := effects.filter (·.isDelivery)

@[simp] theorem deliveries_append (es fs : List Effect) :
    deliveries (es ++ fs) = deliveries es ++ deliveries fs :=
  List.filter_append ..

/-- The log is no client. -/
theorem deliveries_of_log {es : List Effect} (h : ∀ e ∈ es, ∃ notice, e = .log notice) :
    deliveries es = [] := by
  refine List.filter_eq_nil_iff.2 fun e he => ?_
  obtain ⟨notice, rfl⟩ := h e he
  exact Bool.false_ne_true

theorem Mouse.log_feed (m : Mouse) (byte : UInt8) :
    ∀ e ∈ (m.feed byte).effects, ∃ notice, e = .log notice := by
  unfold feed
  dsimp only
  split <;> simp

namespace Desktop

/-- The sample that a byte of the device completes, if it completes one. -/
def byteSamplings (d : Desktop) (byte : UInt8) : List (Desktop × Sample) :=
  match (d.mouse.feed byte).result with
  | none => []
  | some q => [({ d with mouse := (d.mouse.feed byte).state }, q)]

def bytesSamplings (d : Desktop) : List UInt8 → List (Desktop × Sample)
  | [] => []
  | byte :: bytes => d.byteSamplings byte ++ (d.feed byte).state.bytesSamplings bytes

def opSamplings (d : Desktop) : Operation → List (Desktop × Sample)
  | .feed byte => d.byteSamplings byte
  | .drain source => d.bytesSamplings (answers source drainBudget 0)
  | .pointTo p buttons =>
    let warped := d.mouse.warp p
    [({ d with mouse := warped }, ⟨warped.position, buttons, d.mouse.position⟩)]
  | _ => []

/-- The samples of a run, each with the desktop that takes it. -/
def samplings (d : Desktop) : List Operation → List (Desktop × Sample)
  | [] => []
  | op :: ops => d.opSamplings op ++ (d.apply op).state.samplings ops

/-- The samples of a run. -/
def samples (d : Desktop) (ops : List Operation) : List Sample := (d.samplings ops).map (·.2)

variable {d d' : Desktop} {byte : UInt8} {q : Sample} {qs rs : List Sample}

theorem feed_of_none (h : (d.mouse.feed byte).result = none) :
    d.feed byte =
      { state := { d with mouse := (d.mouse.feed byte).state }
        effects := (d.mouse.feed byte).effects } := by
  unfold feed
  dsimp only
  rw [h]

theorem feed_of_some (h : (d.mouse.feed byte).result = some q) :
    d.feed byte =
      let taken := takeSample { d with mouse := (d.mouse.feed byte).state } q
      { state := taken.state, effects := (d.mouse.feed byte).effects ++ taken.effects } := by
  unfold feed
  dsimp only
  rw [h]

theorem samplings_append (d : Desktop) (ops more : List Operation) :
    d.samplings (ops ++ more) = d.samplings ops ++ (d.run ops).state.samplings more := by
  induction ops generalizing d with
  | nil => rfl
  | cons op ops ih =>
    simp only [List.cons_append, samplings, run]
    rw [ih, List.append_assoc]

/-- `t` is what becomes of `d` by the samples `qs`, apart from the pointing device and from what no
client sees. -/
structure Takes (d : Desktop) (qs : List Sample) (t : Traced Desktop) : Prop where
  scene : t.state.toScene = (d.toScene.steps d.config qs).state
  config : t.state.config = d.config
  delivers : deliveries t.effects = deliveries (d.toScene.steps d.config qs).effects

namespace Takes
variable {t u : Traced Desktop} {es : List Effect}

theorem none (hs : t.state.toScene = d.toScene) (hc : t.state.config = d.config)
    (he : deliveries t.effects = []) : d.Takes [] t :=
  ⟨hs, hc, he⟩

theorem append (ht : d.Takes qs t) (hu : t.state.Takes rs u) :
    d.Takes (qs ++ rs) { state := u.state, effects := t.effects ++ u.effects } := by
  have hsteps := Scene.steps_append d.toScene d.config qs rs
  have hmid : t.state.toScene.steps t.state.config rs =
      (d.toScene.steps d.config qs).state.steps d.config rs := by
    rw [ht.scene, ht.config]
  refine ⟨?_, hu.config.trans ht.config, ?_⟩
  · rw [hsteps, ← hmid]
    exact hu.scene
  · rw [hsteps, ← hmid, deliveries_append, deliveries_append, ← ht.delivers, ← hu.delivers]

/-- What leaves windows, gesture and settings alone and delivers nothing may come after. -/
theorem then_silent (ht : d.Takes qs t) (hs : d'.toScene = t.state.toScene)
    (hc : d'.config = t.state.config) (he : deliveries es = []) :
    d.Takes qs { state := d', effects := t.effects ++ es } := by
  refine ⟨hs.trans ht.scene, hc.trans ht.config, ?_⟩
  rw [deliveries_append, he, List.append_nil]
  exact ht.delivers

end Takes

/-- The cursor and the observer are no clients. -/
theorem deliveries_takeSample (d : Desktop) (q : Sample) :
    deliveries (d.takeSample q).effects =
      deliveries (d.toScene.step d.config q.position q.buttons).effects := by
  have hcursor : deliveries (cursorEffects q) = [] := by
    unfold cursorEffects
    split <;> rfl
  have hobserver : deliveries (d.observerEffects q) = [] := by
    unfold observerEffects
    split <;> rfl
  simp only [takeSample, deliveries_append, hcursor, hobserver, List.nil_append]

theorem takes_takeSample (d : Desktop) (q : Sample) : d.Takes [q] (d.takeSample q) := by
  refine ⟨rfl, rfl, ?_⟩
  rw [deliveries_takeSample]
  simp only [Scene.steps, List.append_nil]

theorem deliveries_mouse (m : Mouse) (byte : UInt8) : deliveries (m.feed byte).effects = [] :=
  deliveries_of_log (m.log_feed byte)

theorem takes_feed (d : Desktop) (byte : UInt8) :
    d.Takes ((d.byteSamplings byte).map (·.2)) (d.feed byte) := by
  have hmouse := deliveries_mouse d.mouse byte
  unfold byteSamplings
  cases h : (d.mouse.feed byte).result with
  | none =>
    rw [feed_of_none h]
    exact .none rfl rfl hmouse
  | some q =>
    rw [feed_of_some h]
    have hq := takes_takeSample { d with mouse := (d.mouse.feed byte).state } q
    refine ⟨hq.scene, hq.config, ?_⟩
    rw [deliveries_append, hmouse]
    exact hq.delivers

theorem takes_feedAll (d : Desktop) (bytes : List UInt8) :
    d.Takes ((d.bytesSamplings bytes).map (·.2)) (d.feedAll bytes) := by
  induction bytes generalizing d with
  | nil => exact .none rfl rfl rfl
  | cons byte bytes ih =>
    rw [feedAll_cons, bytesSamplings, List.map_append]
    exact (d.takes_feed byte).append (ih _)

theorem takes_apply (d : Desktop) {op : Operation} (hop : op.isPointer = true) :
    d.Takes ((d.opSamplings op).map (·.2)) (d.apply op).toTraced := by
  cases op with
  | feed byte => exact d.takes_feed byte
  | drain source =>
    have hfed := d.takes_feedAll (answers source drainBudget 0)
    show d.Takes _ (d.drain source).toTraced
    rw [drain_eq]
    dsimp only
    split
    · exact hfed.then_silent rfl rfl rfl
    · exact hfed
  | pointTo p buttons =>
    obtain ⟨hs, hc, he⟩ := takes_takeSample { d with mouse := d.mouse.warp p }
      ⟨(d.mouse.warp p).position, buttons, d.mouse.position⟩
    exact ⟨hs, hc, he⟩
  | _ => cases hop

/-- A run of pointer input does what its samples do. -/
theorem takes_run (d : Desktop) {ops : List Operation} (hops : ∀ op ∈ ops, op.isPointer = true) :
    d.Takes (d.samples ops) (d.run ops) := by
  induction ops generalizing d with
  | nil => exact .none rfl rfl rfl
  | cons op ops ih =>
    unfold samples samplings
    rw [List.map_append]
    exact (d.takes_apply (hops op List.mem_cons_self)).append
      (ih _ fun op' h => hops op' (List.mem_cons_of_mem _ h))

/-! ### What runs keep -/

/-- `d` comes to `d'` by changes of the pointing device, operations that are no pointer input, and
the samples `ms`, each with the desktop that takes it. -/
inductive Leads (d : Desktop) : List (Desktop × Sample) → Desktop → Prop where
  | refl : Leads d [] d
  | mouse {ms : List (Desktop × Sample)} {d' : Desktop} (h : Leads d ms d') (mouse : Mouse) :
      Leads d ms { d' with mouse := mouse }
  | call {ms : List (Desktop × Sample)} {d' : Desktop} (h : Leads d ms d') {op : Operation}
      (hop : op.isPointer = false) : Leads d ms (d'.apply op).state
  | sample {ms : List (Desktop × Sample)} {d' : Desktop} (h : Leads d ms d') (q : Sample) :
      Leads d (ms ++ [(d', q)]) (d'.takeSample q).state

namespace Leads
variable {ms ns : List (Desktop × Sample)} {m : Desktop × Sample} {d'' : Desktop}
  {P : Desktop → Prop}

theorem trans (h : d.Leads ms d') (h' : d'.Leads ns d'') : d.Leads (ms ++ ns) d'' := by
  induction h' with
  | refl =>
    rw [List.append_nil]
    exact h
  | mouse _ m ih => exact ih.mouse m
  | call _ hop ih => exact ih.call hop
  | sample _ q ih =>
    rw [← List.append_assoc]
    exact ih.sample q

/-- The samples before one of them lead to the desktop that takes it. -/
theorem before (h : d.Leads (ms ++ m :: ns) d') : d.Leads ms m.1 := by
  generalize hl : ms ++ m :: ns = l at h
  induction h generalizing ns with
  | refl => simp at hl
  | mouse _ _ ih => exact ih hl
  | call _ _ ih => exact ih hl
  | sample h q ih =>
    rcases List.eq_nil_or_concat ns with rfl | ⟨ns, n, rfl⟩
    · obtain ⟨rfl, hm⟩ := List.append_inj' hl rfl
      cases hm
      exact h
    · rw [List.concat_eq_append, ← List.cons_append, ← List.append_assoc] at hl
      exact ih (List.append_inj' hl rfl).1

/-- The samples after one of them lead on from the desktop that it leaves. -/
theorem after (h : d.Leads (ms ++ m :: ns) d') : (m.1.takeSample m.2).state.Leads ns d' := by
  generalize hl : ms ++ m :: ns = l at h
  induction h generalizing ns with
  | refl => simp at hl
  | mouse _ mouse ih => exact (ih hl).mouse mouse
  | call _ hop ih => exact (ih hl).call hop
  | sample _ q ih =>
    rcases List.eq_nil_or_concat ns with rfl | ⟨ns, n, rfl⟩
    · obtain ⟨-, hm⟩ := List.append_inj' hl rfl
      cases hm
      exact .refl
    · rw [List.concat_eq_append] at hl ⊢
      rw [← List.cons_append, ← List.append_assoc] at hl
      obtain ⟨hfront, hn⟩ := List.append_inj' hl rfl
      cases hn
      exact (ih hfront).sample q

theorem front (h : d.Leads (ms ++ ns) d') : ∃ d'', d.Leads ms d'' := by
  cases ns with
  | nil => exact ⟨d', by rwa [List.append_nil] at h⟩
  | cons n ns => exact ⟨n.1, h.before⟩

/-- What is kept on the way holds at the end of it, and every sample finds it. -/
theorem keeps (h : d.Leads ms d') (hmouse : ∀ d mouse, P d → P { d with mouse := mouse })
    (hop : ∀ d op, op.isPointer = false → P d → P (d.apply op).state) (hd : P d)
    (hq : ∀ m ∈ ms, P m.1 → P (m.1.takeSample m.2).state) : P d' ∧ ∀ m ∈ ms, P m.1 := by
  induction h with
  | refl => exact ⟨hd, fun _ hm => absurd hm List.not_mem_nil⟩
  | mouse _ mouse ih =>
    obtain ⟨hlast, hms⟩ := ih hq
    exact ⟨hmouse _ mouse hlast, hms⟩
  | call _ h ih =>
    obtain ⟨hlast, hms⟩ := ih hq
    exact ⟨hop _ _ h hlast, hms⟩
  | sample _ q ih =>
    obtain ⟨hlast, hms⟩ := ih fun m hm => hq m (List.mem_append_left _ hm)
    refine ⟨hq _ (List.mem_append_right _ (List.mem_singleton.2 rfl)) hlast, fun m hm => ?_⟩
    rcases List.mem_append.1 hm with hm | hm
    · exact hms m hm
    · rw [List.mem_singleton.1 hm]
      exact hlast

end Leads

theorem leads_feed (d : Desktop) (byte : UInt8) :
    d.Leads (d.byteSamplings byte) (d.feed byte).state := by
  have hmouse : d.Leads [] { d with mouse := (d.mouse.feed byte).state } := Leads.refl.mouse _
  unfold byteSamplings
  cases h : (d.mouse.feed byte).result with
  | none =>
    rw [feed_of_none h]
    exact hmouse
  | some q =>
    rw [feed_of_some h]
    exact hmouse.sample q

theorem leads_feedAll (d : Desktop) (bytes : List UInt8) :
    d.Leads (d.bytesSamplings bytes) (d.feedAll bytes).state := by
  induction bytes generalizing d with
  | nil => exact .refl
  | cons byte bytes ih => exact (d.leads_feed byte).trans (ih _)

theorem leads_apply (d : Desktop) (op : Operation) :
    d.Leads (d.opSamplings op) (d.apply op).state := by
  cases op with
  | feed byte => exact d.leads_feed byte
  | drain source =>
    have hfed := d.leads_feedAll (answers source drainBudget 0)
    show d.Leads _ (d.drain source).state
    rw [drain_eq]
    dsimp only
    split
    · exact hfed.mouse _
    · exact hfed
  | pointTo p buttons => exact (Leads.refl.mouse (d.mouse.warp p)).sample _
  | _ => exact Leads.refl.call rfl

theorem leads_run (d : Desktop) (ops : List Operation) :
    d.Leads (d.samplings ops) (d.run ops).state := by
  induction ops generalizing d with
  | nil => exact .refl
  | cons op ops ih => exact (d.leads_apply op).trans (ih _)

/-- What changes of the pointing device, the operations that are no pointer input and the samples
of a run keep, the run keeps; and every sample of the run finds it. -/
theorem keeps_run {P : Desktop → Prop} (hmouse : ∀ d mouse, P d → P { d with mouse := mouse })
    (hop : ∀ d op, op.isPointer = false → P d → P (d.apply op).state) (h : P d)
    {ops : List Operation}
    (hq : ∀ m ∈ d.samplings ops, P m.1 → P (m.1.takeSample m.2).state) :
    P (d.run ops).state ∧ ∀ m ∈ d.samplings ops, P m.1 :=
  (d.leads_run ops).keeps hmouse hop h hq

section
variable {P : Desktop → Prop} (hmouse : ∀ d mouse, P d → P { d with mouse := mouse })
  (hsample : ∀ d q, P d → P (d.takeSample q).state)
include hmouse hsample

theorem keeps_feed (h : P d) (byte : UInt8) :
    P (d.feed byte).state ∧ ∀ m ∈ d.byteSamplings byte, P m.1 := by
  have hfed : P { d with mouse := (d.mouse.feed byte).state } := hmouse _ _ h
  unfold byteSamplings
  cases hq : (d.mouse.feed byte).result with
  | none =>
    rw [feed_of_none hq]
    exact ⟨hfed, by simp⟩
  | some q =>
    rw [feed_of_some hq]
    exact ⟨hsample _ q hfed, by simpa using hfed⟩

theorem keeps_feedAll (h : P d) (bytes : List UInt8) :
    P (d.feedAll bytes).state ∧ ∀ m ∈ d.bytesSamplings bytes, P m.1 := by
  induction bytes generalizing d with
  | nil => exact ⟨h, by simp [bytesSamplings]⟩
  | cons byte bytes ih =>
    obtain ⟨hfed, hfirst⟩ := keeps_feed hmouse hsample h byte
    obtain ⟨hlast, hrest⟩ := ih hfed
    rw [feedAll_cons]
    exact ⟨hlast, List.forall_mem_append.2 ⟨hfirst, hrest⟩⟩

/-- What changes of the pointing device and samples keep, pointer input keeps; and each of its samples
finds it. -/
theorem keeps_pointer (h : P d) {op : Operation} (hop : op.isPointer = true) :
    P (d.apply op).state ∧ ∀ m ∈ d.opSamplings op, P m.1 := by
  cases op with
  | feed byte => exact keeps_feed hmouse hsample h byte
  | drain source =>
    obtain ⟨hlast, hms⟩ := keeps_feedAll hmouse hsample h (answers source drainBudget 0)
    refine ⟨?_, hms⟩
    show P (d.drain source).state
    rw [drain_eq]
    dsimp only
    split
    · exact hmouse _ _ hlast
    · exact hlast
  | pointTo p buttons =>
    have hwarped : P { d with mouse := d.mouse.warp p } := hmouse _ _ h
    exact ⟨hsample _ _ hwarped, by simpa [opSamplings] using hwarped⟩
  | _ => cases hop

end

/-! ### Where samples lie -/

end Desktop

theorem Cursor.clamp_nonneg (c : Cursor) (x y : Int) :
    0 ≤ (c.clamp x y).x.toInt ∧ 0 ≤ (c.clamp x y).y.toInt := by
  have hclamp : ∀ (v : Int) (extent : Int32), 0 ≤ (clampTo v extent).toInt := by
    intro v extent
    rw [toInt_clampTo]
    exact Int.le_max_left ..
  exact ⟨hclamp x c.width, hclamp y c.height⟩

namespace Desktop

theorem nonneg_byteSamplings {d : Desktop} {byte : UInt8} {m : Desktop × Sample}
    (h : m ∈ d.byteSamplings byte) :
    0 ≤ m.2.position.x.toInt ∧ 0 ≤ m.2.position.y.toInt := by
  unfold byteSamplings at h
  split at h
  · cases h
  · next q hq =>
    cases List.mem_singleton.1 h
    unfold Mouse.feed at hq
    dsimp only at hq
    split at hq
    · cases hq
    · cases hq
    · cases hq
      exact Cursor.clamp_nonneg ..

theorem nonneg_bytesSamplings {d : Desktop} {bytes : List UInt8} {m : Desktop × Sample}
    (h : m ∈ d.bytesSamplings bytes) :
    0 ≤ m.2.position.x.toInt ∧ 0 ≤ m.2.position.y.toInt := by
  induction bytes generalizing d with
  | nil => cases h
  | cons byte bytes ih =>
    rcases List.mem_append.1 h with h | h
    · exact nonneg_byteSamplings h
    · exact ih h

theorem nonneg_opSamplings {d : Desktop} {op : Operation} {m : Desktop × Sample}
    (h : m ∈ d.opSamplings op) :
    0 ≤ m.2.position.x.toInt ∧ 0 ≤ m.2.position.y.toInt := by
  cases op with
  | feed byte => exact nonneg_byteSamplings h
  | drain source => exact nonneg_bytesSamplings h
  | pointTo p buttons =>
    cases List.mem_singleton.1 h
    exact Cursor.clamp_nonneg ..
  | _ => cases h

/-- Every sample lies to the right of the left and below the upper edge of the screen. -/
theorem nonneg_samples {d : Desktop} {ops : List Operation} {q : Sample} (h : q ∈ d.samples ops) :
    0 ≤ q.position.x.toInt ∧ 0 ≤ q.position.y.toInt := by
  obtain ⟨m, hm, rfl⟩ := List.mem_map.1 h
  clear h
  induction ops generalizing d with
  | nil => cases hm
  | cons op ops ih =>
    rcases List.mem_append.1 hm with hm | hm
    · exact nonneg_opSamplings hm
    · exact ih hm

end Desktop
end PointerDesktop
