import PointerDesktop.Proofs.PressRelease

/-!
# A drag of edges from press to release

`Scene.Resizing s₀ w g u s`: the scene `s` is one in the course of the edge drag `g` of the window
`w`, which began on the stack `s₀`; `u` is what it has made of `w` and of the heap. What a sample makes
of them is `Window.pulledTo`: the place that the drag asks for is computed from the place at the press,
so it does not depend on the way, and a size that the heap refuses is as if it had not been asked for.
Main statement: `Desktop.whole_resize`.
-/

namespace PointerDesktop

/-! ### Windows -/

namespace Window
variable {w v : Window} {target : Rect} {heap : Heap}

/-- The window and the heap after a drag of edges has asked for the place `target`. -/
def pulledTo (w : Window) (target : Rect) (heap : Heap) : Window × Heap :=
  let asked := heap.reserve (Surface.byteCount target.size)
  if target.size = w.size then ({ w with rect := target }, heap)
  else if asked.1 then
    ({ w with rect := target, surface := .filled target.size w.background }, asked.2)
  else (w, asked.2)

/-- The window can take on a size: it has it, or there is memory for the pixels. -/
def Affords (w : Window) (size : Size) (heap : Heap) : Prop :=
  size = w.size ∨ (heap.reserve (Surface.byteCount size)).1 = true

/-- What the window's sink for sizes is handed when `w` becomes `v`. -/
def announced (w v : Window) : List Effect :=
  if v.size = w.size then [] else v.handed (.resize v.size)

/-- `v` is `w`, but for place, size and pixels. -/
def Reshaped (w v : Window) : Prop := v = { w with rect := v.rect, surface := v.surface }

theorem Reshaped.pulledTo (h : w.Reshaped v) (target : Rect) (heap : Heap) :
    w.Reshaped (v.pulledTo target heap).1 := by
  unfold Reshaped at *
  unfold Window.pulledTo
  dsimp only
  split
  · rw [h]
  split
  · rw [h]
  · exact h

/-- The place that a drag asks for does not depend on what it has made of the window. -/
theorem Reshaped.resizeTarget_eq (h : w.Reshaped v) (g : EdgeDrag) (q : Point) :
    v.resizeTarget g q = w.resizeTarget g q := by
  rw [h]
  rfl

theorem rect_pulledTo (h : w.Affords target.size heap) :
    (w.pulledTo target heap).1.rect = target := by
  unfold pulledTo
  split
  · rfl
  · next hsize => rw [if_pos (h.resolve_left hsize)]

theorem id_pulledTo (w : Window) (target : Rect) (heap : Heap) :
    (w.pulledTo target heap).1.id = w.id := by
  unfold pulledTo
  dsimp only
  split
  · rfl
  split <;> rfl

theorem announced_self (w : Window) : w.announced w = [] := if_pos rfl

theorem Ok.pulledTo (hw : w.Ok) (h : target.size.isEmpty = false) (heap : Heap) :
    (w.pulledTo target heap).1.Ok := by
  unfold Window.pulledTo
  dsimp only
  split
  · next hsize => exact ⟨h, hw.surface.trans hsize.symm, hw.sinks⟩
  split
  · exact ⟨h, rfl, hw.sinks⟩
  · exact hw

/-- A drag of edges gets the size that it asks for, and the window goes to the place, or the window
stays as it is. -/
theorem resize_cases (w : Window) (heap : Heap) (h : target.size.isEmpty = false) :
    let pulled := w.pulledTo target heap
    (∃ w', w.resize target.size heap = (.ok w', pulled.2) ∧
      w'.moveTo target.x target.y = pulled.1 ∧ pulled.1.size = target.size) ∨
    ∃ e, w.resize target.size heap = (.error e, pulled.2) ∧ pulled.1 = w := by
  have hne : ¬ target.size.isEmpty = true := by simp [h]
  unfold resize pulledTo Surface.allocate
  rw [if_neg hne]
  by_cases hsize : target.size = w.size
  · rw [if_pos hsize, if_pos hsize]
    refine .inl ⟨w, rfl, ?_⟩
    obtain ⟨hwidth, hheight⟩ := Size.mk.inj hsize
    have hrect : (⟨target.x, target.y, w.rect.width, w.rect.height⟩ : Rect) = target := by
      rw [← hwidth, ← hheight]
    exact ⟨congrArg (fun rect => { w with rect := rect }) hrect, rfl⟩
  · rw [if_neg hsize, if_neg hsize]
    cases heap.reserve (Surface.byteCount target.size) with
    | mk granted after =>
    cases granted with
    | true => exact .inl ⟨_, rfl, rfl, rfl⟩
    | false => exact .inr ⟨.outOfMemory, rfl, rfl⟩

/-- What an edge drag makes of the window and the heap by samples with the left button down. -/
def pulledBy (config : Config) (g : EdgeDrag) (u : Window × Heap) : List Sample → Window × Heap
  | [] => u
  | q :: qs =>
    let engaged := Scene.engages config g.engaged g.origin q.position
    pulledBy config { g with engaged := engaged }
      (if engaged then u.1.pulledTo (u.1.resizeTarget g q.position) u.2 else u) qs

variable {config : Config} {g : EdgeDrag} {q : Sample} {qs : List Sample} {u : Window × Heap}

theorem Reshaped.pulledBy (h : w.Reshaped u.1) : w.Reshaped (pulledBy config g u qs).1 := by
  induction qs generalizing u g with
  | nil => exact h
  | cons q qs ih =>
    refine ih ?_
    split
    · exact h.pulledTo _ _
    · exact h

/-- The last sample, too, asks for a place that is computed from the press alone. -/
theorem pulledBy_concat (u : Window × Heap) (config : Config) (g : EdgeDrag) (qs : List Sample)
    (q : Sample) :
    pulledBy config g u (qs ++ [q]) =
      let v := pulledBy config g u qs
      if Scene.engagedAfter config g.engaged g.origin (qs ++ [q]) then
        v.1.pulledTo (u.1.resizeTarget g q.position) v.2
      else v := by
  induction qs generalizing u g with
  | nil =>
    rw [List.nil_append, Scene.engagedAfter_cons, Scene.engagedAfter_nil]
    rfl
  | cons r qs ih =>
    rw [List.cons_append, Scene.engagedAfter_cons]
    refine (ih _ _).trans ?_
    have hfirst : u.1.Reshaped (pulledBy config g u [r]).1 := .pulledBy rfl
    dsimp only [pulledBy] at hfirst ⊢
    rw [hfirst.resizeTarget_eq]
    rfl

/-- A drag that has not engaged leaves the window as it is. -/
theorem pulledBy_of_click (h : Scene.engagedAfter config g.engaged g.origin qs = false) :
    pulledBy config g u qs = u := by
  induction qs generalizing g with
  | nil => rfl
  | cons q qs ih =>
    rw [Scene.engagedAfter_cons] at h
    have hq : Scene.engages config g.engaged g.origin q.position = false :=
      (Bool.or_eq_false_iff.1 h).1
    unfold pulledBy
    rw [hq] at h ⊢
    exact ih h

/-- The place at the press, if it is large enough, comes back with the pointer if there is memory for
it. -/
theorem rect_pulledBy_home (hne : u.1.rect.size.isEmpty = false)
    (haffords : (pulledBy config g u qs).1.Affords u.1.rect.size (pulledBy config g u qs).2)
    (hwidth : u.1.minimum.width ≤ u.1.rect.width) (hheight : u.1.minimum.height ≤ u.1.rect.height)
    (hrect : g.originRect = u.1.rect) (hq : q.position = g.origin) :
    (pulledBy config g u (qs ++ [q])).1.rect = u.1.rect := by
  have hhome : u.1.resizeTarget g q.position = u.1.rect := by
    unfold resizeTarget
    rw [hq, hrect, Int.sub_self, Int.sub_self]
    exact Rect.resized_zero hne _ hwidth hheight
  cases h : Scene.engagedAfter config g.engaged g.origin (qs ++ [q]) with
  | false => rw [pulledBy_of_click h]
  | true =>
    rw [pulledBy_concat, if_pos h, hhome]
    exact rect_pulledTo haffords

end Window

/-! ### Samples -/

namespace Scene

/-- `s` is in the course of the edge drag `g` of `w`. The window has become `u.1`, the heap `u.2`. -/
structure Resizing (s₀ : Stack) (w : Window) (g : EdgeDrag) (u : Window × Heap) (s : Scene) :
    Prop where
  gesture : s.tracker.gesture = .resizing g
  stack : s.stack = s₀.put u.1
  heap : s.heap = u.2
  reshaped : w.Reshaped u.1
  ok : u.1.Ok

variable {s : Scene} {config : Config} {p : Point} {buttons : Buttons}

/-- A press that grabs edges of the focused window. -/
theorem resizing_press (hs : s.stack.Ok) (hok : ∀ w ∈ s.stack.windows, w.Ok)
    (hidle : s.tracker.gesture = .idle) {g : EdgeDrag}
    (hstart : (s.step config p buttons).state.tracker.gesture = .resizing g) :
    ∃ w, s.stack.focusedWindow? = some w ∧
      g = { window := w.id, edges := g.edges, origin := p, originRect := w.rect, engaged := false } ∧
      Resizing s.stack w g (w, s.heap) (s.step config p buttons).state ∧
      (s.step config p buttons).effects = [] := by
  obtain ⟨-, -, w, g', hw, hgrab, hstep⟩ := step_of_start hidle (by rw [hstart]; rfl)
  obtain ⟨-, hfind⟩ := Stack.focusedWindow?_eq_some.1 hw
  rw [hstep] at hstart ⊢
  have hg : g' = .resizing g := hstart
  subst hg
  refine ⟨w, hw, Window.of_grab?_resizing hgrab, ⟨rfl, ?_, rfl, rfl, ?_⟩, rfl⟩
  · exact (Stack.put_self hs.nodup hfind).symm
  · exact hok w (Stack.mem_of_find? hfind)

/-- An engaged edge drag of `v` comes to `p`. -/
theorem resizeTo_of_engages {d : EdgeDrag} {v : Window}
    (he : engages config d.engaged d.origin p = true) (hfind : s.stack.find? d.window = some v)
    (hs : s.stack.ids.Nodup) (hok : v.Ok) (hr : d.originRect.size.isEmpty = false) :
    let u := v.pulledTo (v.resizeTarget d p) s.heap
    ∃ es, s.resizeTo config d p =
        { state := { s.setGesture (.resizing { d with engaged := true }) with
            stack := s.stack.put u.1, heap := u.2 }
          effects := es } ∧
      deliveries es = v.announced u.1 := by
  intro u
  have hid : v.id = d.window := Stack.id_of_find? hfind
  have htarget : (v.resizeTarget d p).size.isEmpty = false := Rect.resized_nonempty hr _ _ _ _
  have hok' : u.1.Ok := hok.pulledTo htarget _
  rw [← hid] at hfind
  unfold resizeTo
  rw [if_pos he]
  dsimp only [setGesture]
  rw [← hid, hfind]
  dsimp only
  rcases v.resize_cases s.heap htarget with ⟨w', hresize, hmove, hsize⟩ | ⟨e, hresize, hsame⟩
  · rw [hresize]
    dsimp only
    rw [hmove]
    unfold Window.announced
    rw [hsize]
    by_cases hsame : (v.resizeTarget d p).size = v.size
    · rw [if_pos hsame, if_pos hsame]
      exact ⟨[], rfl, rfl⟩
    · rw [if_neg hsame, if_neg hsame]
      have hkind : (WindowEvent.resize (v.resizeTarget d p).size).kind ≠ .draw := fun h => by cases h
      refine ⟨u.1.handed (.resize (v.resizeTarget d p).size), ?_, u.1.deliveries_handed _⟩
      unfold notify
      dsimp only
      rw [← v.id_pulledTo (v.resizeTarget d p) s.heap] at hfind ⊢
      rw [hok'.notify_put hfind hkind]
  · have hv : u.1 = v := hsame
    rw [hresize, hv, v.announced_self, Stack.put_self hs hfind]
    exact ⟨_, rfl, rfl⟩

namespace Resizing
variable {s₀ : Stack} {w : Window} {g : EdgeDrag} {u : Window × Heap}

theorem id_eq (h : Resizing s₀ w g u s) : u.1.id = w.id := by
  rw [h.reshaped]

theorem find? (h : Resizing s₀ w g u s) (hw : s₀.find? w.id = some w) :
    s.stack.find? w.id = some u.1 := by
  rw [← h.id_eq] at hw ⊢
  rw [h.stack]
  exact Stack.find?_put_self hw

/-- A sample with the left button down. -/
theorem held (h : Resizing s₀ w g u s) (hs : s₀.ids.Nodup) (hw : s₀.find? w.id = some w)
    (hg : g.window = w.id) (hr : g.originRect.size.isEmpty = false) (config : Config) (q : Point)
    (hheld : buttons.contains .left = true) :
    let engaged := engages config g.engaged g.origin q
    let u' := if engaged then u.1.pulledTo (u.1.resizeTarget g q) u.2 else u
    Resizing s₀ w { g with engaged := engaged } u' (s.step config q buttons).state ∧
      deliveries (s.step config q buttons).effects = u.1.announced u'.1 := by
  intro engaged u'
  have hact : s.act config q buttons = (s.note q buttons).resizeTo config g q :=
    act_resizing h.gesture hheld
  cases he : engaged with
  | false =>
    -- a drag that does not engage now was not engaged before
    have hclick : g.engaged = false := (Bool.or_eq_false_iff.1 he).1
    have hu' : u' = u := if_neg (by rw [he]; exact Bool.false_ne_true)
    have hsame : { g with engaged := false } = g := by rw [← hclick]
    unfold resizeTo at hact
    rw [if_neg (by rw [show engages config g.engaged g.origin q = false from he]; simp)] at hact
    rw [step_of_busy (by rw [hact, note, h.gesture]; rfl), hact, hsame, hu']
    refine ⟨⟨h.gesture, h.stack, h.heap, h.reshaped, h.ok⟩, ?_⟩
    rw [Window.announced_self]
    rfl
  | true =>
    have hu' : u' = u.1.pulledTo (u.1.resizeTarget g q) u.2 := if_pos he
    have hfind : (s.note q buttons).stack.find? g.window = some u.1 := by
      rw [hg]
      exact h.find? hw
    have hnodup : (s.note q buttons).stack.ids.Nodup := by
      show s.stack.ids.Nodup
      rw [h.stack, Stack.ids_put]
      exact hs
    obtain ⟨es, hresize, hes⟩ := resizeTo_of_engages he hfind hnodup h.ok hr
    rw [show (s.note q buttons).heap = u.2 from h.heap, ← hu'] at hresize hes
    rw [hresize] at hact
    rw [step_of_busy (by rw [hact]; rfl), hact]
    refine ⟨⟨rfl, ?_, rfl, ?_, ?_⟩, hes⟩
    · show s.stack.put u'.1 = s₀.put u'.1
      rw [h.stack]
      refine Stack.put_put ?_
      rw [hu', u.1.id_pulledTo]
    · rw [hu']
      exact h.reshaped.pulledTo _ _
    · rw [hu']
      exact h.ok.pulledTo (Rect.resized_nonempty hr _ _ _ _) _

/-- Samples with the left button down. -/
theorem steps (h : Resizing s₀ w g u s) (hs : s₀.ids.Nodup) (hw : s₀.find? w.id = some w)
    (hg : g.window = w.id) (hr : g.originRect.size.isEmpty = false) (config : Config)
    {qs : List Sample} (hheld : ∀ q ∈ qs, q.buttons.contains .left = true) :
    Resizing s₀ w
        { g with engaged := engagedAfter config g.engaged g.origin qs }
        (Window.pulledBy config g u qs) (s.steps config qs).state ∧
      deliveries (s.steps config qs).effects =
        (List.range qs.length).flatMap fun j =>
          (Window.pulledBy config g u (qs.take j)).1.announced
            (Window.pulledBy config g u (qs.take (j + 1))).1 := by
  induction qs generalizing s g u with
  | nil =>
    rw [engagedAfter_nil]
    exact ⟨h, rfl⟩
  | cons q qs ih =>
    obtain ⟨hfirst, heffects⟩ := h.held hs hw hg hr config q.position (hheld q List.mem_cons_self)
    obtain ⟨hlast, hrest⟩ := ih hfirst hg hr fun q' hq' => hheld q' (List.mem_cons_of_mem _ hq')
    rw [engagedAfter_cons]
    refine ⟨hlast, ?_⟩
    show deliveries (_ ++ _) = _
    rw [deliveries_append, heffects, hrest, List.length_cons, List.range_succ_eq_map,
      List.flatMap_cons, List.flatMap_map]
    rfl

/-- A sample with the left button up. -/
theorem release (h : Resizing s₀ w g u s) (config : Config) (hs : s.stack.Ok)
    (hw : s₀.find? w.id = some w) (hg : g.window = w.id) (r : Point)
    (hup : buttons.contains .left = false) :
    (s.step config r buttons).state.tracker.gesture = .idle ∧
      (∀ id, (s.step config r buttons).state.stack.find? id = s.stack.find? id) ∧
      (s.step config r buttons).effects =
        u.1.handed
          (if g.engaged then .resize u.1.size else .mouseButton (u.1.toLocal r) .left) := by
  have hfind : s.tracker.gesture.window?.bind s.stack.find? = some u.1 := by
    rw [h.gesture]
    show s.stack.find? g.window = _
    rw [hg]
    exact h.find? hw
  obtain ⟨hidle, hkept, heffects⟩ := step_release hs hfind h.ok hup config r
  refine ⟨hidle, hkept, heffects.trans ?_⟩
  rw [h.gesture]
  exact List.flatMap_singleton ..

end Resizing

/-- A press that grabs edges of the focused window and samples with the left button down. -/
theorem resizing_steps (hs : s.stack.Ok) (hok : ∀ w ∈ s.stack.windows, w.Ok)
    (hidle : s.tracker.gesture = .idle) {press : Sample} {g : EdgeDrag}
    (hstart : (s.step config press.position press.buttons).state.tracker.gesture = .resizing g) :
    ∃ w, s.stack.focusedWindow? = some w ∧
      g = { window := w.id, edges := g.edges, origin := press.position, originRect := w.rect
            engaged := false } ∧
      ∀ held : List Sample, (∀ q ∈ held, q.buttons.contains .left = true) →
        Resizing s.stack w { g with engaged := engagedAfter config g.engaged g.origin held }
            (Window.pulledBy config g (w, s.heap) held) (s.steps config (press :: held)).state ∧
          deliveries (s.steps config (press :: held)).effects =
            (List.range held.length).flatMap fun j =>
              (Window.pulledBy config g (w, s.heap) (held.take j)).1.announced
                (Window.pulledBy config g (w, s.heap) (held.take (j + 1))).1 := by
  obtain ⟨w, hfocus, hg, hpress, heffects⟩ := resizing_press hs hok hidle hstart
  obtain ⟨-, hw⟩ := Stack.focusedWindow?_eq_some.1 hfocus
  refine ⟨w, hfocus, hg, fun held hheld => ?_⟩
  have hne : g.originRect.size.isEmpty = false := by
    rw [hg]
    exact (hok w (Stack.mem_of_find? hw)).nonempty
  obtain ⟨hlast, hrest⟩ := hpress.steps hs.nodup hw (by rw [hg]) hne config hheld
  refine ⟨hlast, ?_⟩
  show deliveries ((s.step config press.position press.buttons).effects ++ _) = _
  rw [heffects]
  exact hrest

end Scene

/-- A drag of the edges of the focused window `w`: a press that starts it, held samples, and a
release, from whichever ports they come. `course held` is what the drag has made of `w` and of the heap
by the samples `held`: nothing before one of them has been `clickThreshold` away from the press, and then
each sample asks for a place that is computed from the press alone, and gets it unless the size is a new
one and the heap refuses the pixels. So a size that is granted makes up for all refusals before it, and
the way back to the press is the way back to the place there, if there is memory for that. The held
samples leave all other windows, the focus and the order alone; they deliver the new size each time that
the size changes, and the release delivers the final size, or a click if the drag never engaged. -/
theorem Desktop.whole_resize {d : Desktop} (hd : d.Reachable) (hidle : d.tracker.gesture = .idle)
    {press : Sample} {g : EdgeDrag}
    (hstart : (d.takeSample press).state.tracker.gesture = .resizing g) :
    ∃ w, d.stack.focusedWindow? = some w ∧
      g = { window := w.id, edges := g.edges, origin := press.position, originRect := w.rect
            engaged := false } ∧
      let engaged (held : List Sample) : Bool := held.any fun q =>
        d.config.clickThreshold.toNat ≤ q.position.distance press.position
      let target (q : Sample) : Rect := w.rect.resized g.edges
        (q.position.x.toInt - press.position.x.toInt) (q.position.y.toInt - press.position.y.toInt)
        w.minimum
      ∃ course : List Sample → Window × Heap,
        (∀ held, engaged held = false → course held = (w, d.heap)) ∧
        (∀ held q, engaged (held ++ [q]) = true →
          let v := (course held).1
          let asked := (course held).2.reserve (Surface.byteCount (target q).size)
          course (held ++ [q]) =
            if (target q).size = v.size then ({ v with rect := target q }, (course held).2)
            else if asked.1 then
              ({ v with rect := target q, surface := .filled (target q).size w.background }, asked.2)
            else (v, asked.2)) ∧
        (∀ held q, engaged (held ++ [q]) = true →
          (course held).1.Affords (target q).size (course held).2 →
          (course (held ++ [q])).1.rect = target q) ∧
        (∀ held q, q.position = press.position → w.minimum.width ≤ w.size.width →
          w.minimum.height ≤ w.size.height → (course held).1.Affords w.size (course held).2 →
          (course (held ++ [q])).1.rect = w.rect) ∧
        ∀ (held : List Sample) (ops : List Operation),
          (∀ q ∈ held, q.buttons.contains .left = true) → (∀ op ∈ ops, op.isPointer = true) →
          d.samples ops = press :: held →
          let v := (course held).1
          let pulled := d.run ops
          pulled.state.tracker.gesture = .resizing { g with engaged := engaged held } ∧
          pulled.state.stack.find? w.id = some v ∧ pulled.state.heap = (course held).2 ∧
          (∀ id, id ≠ w.id → pulled.state.stack.find? id = d.stack.find? id) ∧
          pulled.state.stack.focused = d.stack.focused ∧ pulled.state.stack.ids = d.stack.ids ∧
          deliveries pulled.effects = (List.range held.length).flatMap (fun j =>
            (course (held.take j)).1.announced (course (held.take (j + 1))).1) ∧
          ∀ (release : Sample) (more : List Operation), release.buttons.contains .left = false →
            (∀ op ∈ more, op.isPointer = true) → pulled.state.samples more = [release] →
            let released := pulled.state.run more
            released.state.tracker.gesture = .idle ∧
            (∀ id, released.state.stack.find? id = pulled.state.stack.find? id) ∧
            deliveries released.effects =
              v.handed (if engaged held then .resize v.size
                else .mouseButton (v.toLocal release.position) .left) := by
  have hstart : (d.toScene.step d.config press.position press.buttons).state.tracker.gesture =
      .resizing g := hstart
  obtain ⟨w, hfocus, hg, hsteps⟩ := Scene.resizing_steps hd.ok.stack hd.window_ok hidle hstart
  obtain ⟨-, hw⟩ := Stack.focusedWindow?_eq_some.1 hfocus
  have hmem : w ∈ d.stack.windows := Stack.mem_of_find? hw
  refine ⟨w, hfocus, hg, ?_⟩
  -- what the drag has taken note of at the press stands in the place of its fields from here on
  obtain ⟨edges, rfl⟩ : ∃ edges, g =
      { window := w.id, edges := edges, origin := press.position, originRect := w.rect
        engaged := false } := ⟨g.edges, hg⟩
  intro engaged target
  let g : EdgeDrag :=
    { window := w.id, edges := edges, origin := press.position, originRect := w.rect
      engaged := false }
  let course : List Sample → Window × Heap := Window.pulledBy d.config g (w, d.heap)
  have hgo : ∀ held q, engaged (held ++ [q]) = true → course (held ++ [q]) =
      (course held).1.pulledTo (target q) (course held).2 := fun held q h =>
    (Window.pulledBy_concat (w, d.heap) d.config g held q).trans (if_pos h)
  refine ⟨course, fun held h => ?_, fun held q h => ?_, fun held q h haffords => ?_,
    fun held q hback hwidth hheight haffords => ?_, fun held ops hheld hops hsamples => ?_⟩
  · exact Window.pulledBy_of_click (g := g) h
  · intro v asked
    have hsame : w.Reshaped v := Window.Reshaped.pulledBy rfl
    have hbackground : v.background = w.background := by rw [hsame]
    rw [hgo held q h, ← hbackground]
    rfl
  · rw [hgo held q h]
    exact Window.rect_pulledTo haffords
  · exact Window.rect_pulledBy_home (u := (w, d.heap)) (hd.window_ok w hmem).nonempty haffords
      hwidth hheight rfl hback
  · intro v pulled
    have htakes : d.Takes (press :: held) pulled := by
      rw [← hsamples]
      exact d.takes_run hops
    obtain ⟨hpulled, hdelivers⟩ := hsteps held hheld
    rw [← htakes.scene] at hpulled
    refine ⟨hpulled.gesture, hpulled.find? hw, hpulled.heap, fun id hid => ?_, ?_, ?_,
      htakes.delivers.trans hdelivers, fun release more hup hmore hmoreSamples => ?_⟩
    · rw [hpulled.stack]
      refine Stack.find?_put_ne ?_
      rw [hpulled.id_eq]
      exact hid
    · rw [hpulled.stack]
      rfl
    · rw [hpulled.stack]
      exact Stack.ids_put _ _
    · intro released
      have htakesMore : pulled.state.Takes [release] released := by
        rw [← hmoreSamples]
        exact pulled.state.takes_run hmore
      obtain ⟨hgesture, hkept, hlast⟩ := hpulled.release pulled.state.config (hd.run ops).ok.stack hw
        rfl release.position hup
      have hreleased : released.state.toScene =
          (pulled.state.toScene.step pulled.state.config release.position release.buttons).state :=
        htakesMore.scene
      rw [hreleased]
      refine ⟨hgesture, hkept, ?_⟩
      rw [htakesMore.delivers]
      show deliveries (_ ++ []) = _
      rw [List.append_nil, hlast, Window.deliveries_handed]
      rfl

/-- A window with a sink for sizes is drawn out, then further than the heap grants, which is as if it
had not been asked for, and back to the press. -/
theorem Desktop.whole_resize_beyond_memory :
    let d := ((start { screen := ⟨2000000, 600⟩, resizeBorder := 0 } {} .software
        (.upTo 4194304)).state.run
      [.create "w" ⟨2, 2⟩ .resizable, .setSink ⟨1⟩ (.resize "size")]).state
    let ops := [.pointTo ⟨102, 101⟩ .left, .pointTo ⟨104, 101⟩ .left, .pointTo ⟨106, 101⟩ .left,
      .pointTo ⟨1900000, 101⟩ .left]
    let back := .pointTo ⟨102, 101⟩ .left
    let more := [.pointTo ⟨50, 50⟩ .none]
    let pulled := d.run ops
    let released := pulled.state.run more
    d.tracker.gesture = .idle ∧
      (∃ v, pulled.state.stack.find? ⟨1⟩ = some v ∧ v.rect = ⟨100, 100, 6, 2⟩) ∧
      deliveries pulled.effects =
        [.deliver (.resize "size") ⟨1⟩ (.resize ⟨6, 2⟩) ⟨6, 2⟩] ∧
      released.state.tracker.gesture = .idle ∧
      deliveries released.effects =
        [.deliver (.resize "size") ⟨1⟩ (.resize ⟨6, 2⟩) ⟨6, 2⟩] ∧
      ∃ v, (d.run (ops ++ [back])).state.stack.find? ⟨1⟩ = some v ∧ v.rect = ⟨100, 100, 2, 2⟩ := by
  intro d ops back more pulled released
  let w : Window :=
    { id := ⟨1⟩, title := "w", rect := ⟨100, 100, 2, 2⟩, flags := ⟨6⟩, minimum := ⟨2, 2⟩
      background := d.theme.windowBackground, surface := .filled ⟨2, 2⟩ d.theme.windowBackground
      sinks := .set {} (.resize "size") }
  let press : Sample := ⟨⟨102, 101⟩, .left, ⟨1000000, 300⟩⟩
  let near : Sample := ⟨⟨104, 101⟩, .left, ⟨102, 101⟩⟩
  let out : Sample := ⟨⟨106, 101⟩, .left, ⟨104, 101⟩⟩
  let beyond : Sample := ⟨⟨1900000, 101⟩, .left, ⟨106, 101⟩⟩
  let home : Sample := ⟨⟨102, 101⟩, .left, ⟨1900000, 101⟩⟩
  let last : Sample := ⟨⟨50, 50⟩, .none, ⟨1900000, 101⟩⟩
  let g : EdgeDrag :=
    { window := ⟨1⟩, edges := .right, origin := ⟨102, 101⟩, originRect := w.rect, engaged := false }
  have hd : d.Reachable := (Reachable.start _ {} .software _).run _
  have hidle : d.tracker.gesture = .idle := by decide +kernel
  have hfocus : d.stack.focusedWindow? = some w := by decide +kernel
  have hstart : (d.takeSample press).state.tracker.gesture = .resizing g := by decide +kernel
  have hsamples : d.samples ops = press :: [near, out, beyond] := by decide +kernel
  have hback : d.samples (ops ++ [back]) = press :: [near, out, beyond, home] := by decide +kernel
  have hmore : pulled.state.samples more = [last] := by decide +kernel
  obtain ⟨w', hw', -, course, hstay, hgo, -, hhome, hrun⟩ := whole_resize hd hidle hstart
  obtain rfl : w = w' := Option.some.inj (hfocus.symm.trans hw')
  have hnear : course [near] = (w, d.heap) := hstay _ (by decide +kernel)
  have hout : course [near, out] =
      ({ w with rect := ⟨100, 100, 6, 2⟩, surface := .filled ⟨6, 2⟩ w.background },
        (d.heap.reserve 48).2) := by
    refine (hgo [near] out (by decide +kernel)).trans ?_
    rw [hnear, if_neg (by decide +kernel), if_pos (by decide +kernel)]
    refine Prod.ext (by decide +kernel) (congrArg (fun n => (d.heap.reserve n).2) ?_)
    decide +kernel
  have hbeyond : course [near, out, beyond] =
      ((course [near, out]).1, ((d.heap.reserve 48).2.reserve 15199200).2) := by
    refine (hgo [near, out] beyond (by decide +kernel)).trans ?_
    rw [hout, if_neg (by decide +kernel), if_neg (by decide +kernel)]
    refine Prod.ext rfl (congrArg (fun n => ((d.heap.reserve 48).2.reserve n).2) ?_)
    decide +kernel
  obtain ⟨-, hfind, -, -, -, -, hpulled, hrelease⟩ :=
    hrun [near, out, beyond] ops (by decide +kernel) (by decide) hsamples
  obtain ⟨hreleased, -, hlast⟩ :=
    hrelease last more (by decide +kernel) (by decide) hmore
  obtain ⟨-, hfindBack, -⟩ :=
    hrun [near, out, beyond, home] (ops ++ [back]) (by decide +kernel) (by decide) hback
  refine ⟨hidle, ⟨_, hfind, by rw [hbeyond, hout]⟩, hpulled.trans ?_, hreleased, hlast.trans ?_,
    _, hfindBack, ?_⟩
  · show (course []).1.announced (course [near]).1 ++
      ((course [near]).1.announced (course [near, out]).1 ++
      ((course [near, out]).1.announced (course [near, out, beyond]).1 ++ [])) = _
    rw [hbeyond, hnear, hstay [] rfl, hout]
    decide +kernel
  · rw [hbeyond, hout]
    decide +kernel
  · refine hhome [near, out, beyond] home rfl (by decide +kernel) (by decide +kernel) (.inr ?_)
    rw [hbeyond, hout]
    decide +kernel

end PointerDesktop
