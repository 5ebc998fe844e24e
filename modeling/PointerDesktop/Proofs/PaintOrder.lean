import PointerDesktop.Proofs.GestureInv
import PointerDesktop.Proofs.WindowInv

/-!
# Frames and hits agree

A frame shows the visible windows from the bottom of the stack to its top (`Stack.paint_effects`); a
hit looks for a window from the top to the bottom. Both come to the same window over a point
(`Stack.last_visible`). Main statement: `Desktop.paint_order`.
-/

namespace PointerDesktop

/-- The windows that are presented, from the first to the last. -/
def presented (effects : List Effect) : List WindowId :=
  effects.filterMap fun
    | .display (.present id _) => some id
    | _ => none

@[simp] theorem presented_append (es fs : List Effect) :
    presented (es ++ fs) = presented es ++ presented fs :=
  List.filterMap_append

namespace Window
variable {w : Window}

/-- What the window's draw sink paints. -/
def content (w : Window) : List Stroke :=
  ((w.sinks.get? .draw).bind (·.accept? .draw)).getD []

/-- The window with its surface painted, decorations first. -/
def painted (w : Window) (display : Display) (theme : Theme) (config : Config) (focused : Bool) :
    Window :=
  let decorations := (w.decorationCalls theme config focused).flatMap display.strokes
  { w with surface := (w.surface.paint decorations).paint w.content }

/-- What is seen of a visible window in a frame. -/
def showing (w : Window) (display : Display) (theme : Theme) (config : Config) (focused : Bool) :
    List Effect :=
  (w.decorationCalls theme config focused).map .display ++ w.handed .draw ++
    [.display (.present w.id (w.painted display theme config focused).surface)]

/-- On drawing a window lets its sink paint the content. -/
theorem Ok.notify_draw (hw : w.Ok) :
    (w.notify .draw).state = { w with surface := w.surface.paint w.content } ∧
      (w.notify .draw).effects = w.handed .draw := by
  unfold Window.notify handed content
  cases hsink : w.sinks.get? WindowEvent.draw.kind with
  | none =>
    have hnone : w.sinks.get? .draw = none := hsink
    rw [Sinks.dispatch_of_empty hsink, hnone]
    exact ⟨rfl, rfl⟩
  | some sink =>
    have hsome : w.sinks.get? .draw = some sink := hsink
    have hkind := hw.sinks _ _ hsink
    rw [Sinks.dispatch_of_bound hsink hkind, hsome, Option.bind_some, EventSink.accept?_eq,
      if_pos hkind, hw.surface]
    exact ⟨rfl, rfl⟩

theorem Ok.paint_visible (hw : w.Ok) (hv : w.isVisible = true) (display : Display) (theme : Theme)
    (config : Config) (focused : Bool) :
    w.paint display theme config focused =
      { state := w.painted display theme config focused
        effects := w.showing display theme config focused } := by
  have hdecorated : (w.decorate display theme config focused).state.Ok :=
    ⟨hw.nonempty, (Surface.size_paint _ _).trans hw.surface, hw.sinks⟩
  obtain ⟨hstate, heffects⟩ := hdecorated.notify_draw
  unfold paint
  rw [if_pos hv]
  dsimp only
  rw [hstate, heffects]
  rfl

theorem paint_hidden (hv : w.isVisible = false) (display : Display) (theme : Theme)
    (config : Config) (focused : Bool) :
    w.paint display theme config focused = { state := w } := by
  unfold paint
  rw [hv]
  rfl

/-- Decorations are painted on the surface of the window; nothing of them reaches the screen before
it is presented. -/
theorem reachesScreen_decorationCalls (w : Window) (theme : Theme) (config : Config) (focused : Bool) :
    ∀ call ∈ w.decorationCalls theme config focused, call.reachesScreen = false := by
  have htitlebar : ∀ call ∈ w.titlebarCalls theme config focused, call.reachesScreen = false := by
    unfold titlebarCalls
    split <;> simp [DisplayCall.reachesScreen]
  have hborder : ∀ call ∈ w.borderCalls theme, call.reachesScreen = false := by
    unfold borderCalls
    split <;> simp [DisplayCall.reachesScreen]
  intro call hcall
  simp only [decorationCalls, List.mem_cons, List.mem_append] at hcall
  rcases hcall with rfl | rfl | hcall | hcall
  · rfl
  · rfl
  · exact htitlebar call hcall
  · exact hborder call hcall

theorem presented_showing (w : Window) (display : Display) (theme : Theme) (config : Config)
    (focused : Bool) : presented (w.showing display theme config focused) = [w.id] := by
  have hdecorations : presented ((w.decorationCalls theme config focused).map .display) = [] := by
    unfold presented
    rw [List.filterMap_eq_nil_iff]
    intro e he
    obtain ⟨call, hcall, rfl⟩ := List.mem_map.1 he
    have hsurface := w.reachesScreen_decorationCalls theme config focused call hcall
    cases call with
    | present => cases hsurface
    | _ => rfl
  have hdraw : presented (w.handed .draw) = [] := by
    unfold presented handed
    cases w.sinks.get? WindowEvent.draw.kind <;> rfl
  unfold showing
  rw [presented_append, presented_append, hdecorations, hdraw]
  rfl

end Window

namespace Stack
variable {s : Stack} {w : Window}

/-- The windows that a frame shows. -/
def visible (s : Stack) : List Window := s.windows.filter (·.isVisible)

/-- The window is painted as the one with the focus. -/
def lit (s : Stack) (w : Window) : Bool := decide (s.focused = some w.id)

theorem paint_effects (hs : ∀ w ∈ s.windows, w.Ok) (display : Display) (theme : Theme)
    (config : Config) (cursor : Point) :
    (s.paint display theme config cursor).effects =
      [.display (.eraseCursor cursor), .display (.clearScreen theme.background)] ++
        (s.visible.flatMap fun w => w.showing display theme config (s.lit w)) ++
        [.display (.drawCursor cursor)] := by
  have hshow (ws : List Window) (hws : ∀ w ∈ ws, w.Ok) :
      (ws.flatMap fun w => (w.paint display theme config (s.lit w)).effects) =
        (ws.filter (·.isVisible)).flatMap fun w => w.showing display theme config (s.lit w) := by
    induction ws with
    | nil => rfl
    | cons w ws ih =>
      have hrest := ih fun v hv => hws v (List.mem_cons_of_mem _ hv)
      rw [List.flatMap_cons, hrest]
      cases hv : w.isVisible with
      | true =>
        rw [List.filter_cons_of_pos hv, List.flatMap_cons,
          (hws w List.mem_cons_self).paint_visible hv]
      | false =>
        rw [List.filter_cons_of_neg (by rw [hv]; exact Bool.false_ne_true),
          Window.paint_hidden hv]
        rfl
  unfold paint
  dsimp only
  rw [List.flatMap_map]
  exact congrArg (fun es => _ ++ es ++ _) (hshow s.windows hs)

theorem paint_surfaces (hs : ∀ w ∈ s.windows, w.Ok) (display : Display) (theme : Theme)
    (config : Config) (cursor : Point) :
    (s.paint display theme config cursor).state =
      { s with windows := s.windows.map fun w =>
          if w.isVisible then w.painted display theme config (s.lit w) else w } := by
  rw [paint_state]
  congr 1
  refine List.map_congr_left fun w hw => ?_
  cases hv : w.isVisible with
  | true =>
    rw [(hs w hw).paint_visible hv]
    rfl
  | false =>
    rw [Window.paint_hidden hv]
    rfl

theorem presented_paint (hs : ∀ w ∈ s.windows, w.Ok) (display : Display) (theme : Theme)
    (config : Config) (cursor : Point) :
    presented (s.paint display theme config cursor).effects = s.visible.map (·.id) := by
  rw [paint_effects hs, presented_append, presented_append]
  unfold presented
  rw [List.filterMap_flatMap]
  show [] ++ (s.visible.flatMap fun w =>
    presented (w.showing display theme config (s.lit w))) ++ [] = _
  simp only [Window.presented_showing, List.nil_append, List.append_nil]
  exact List.map_eq_flatMap.symm

/-- The last window presented that contains a point is the one that the point hits. -/
theorem last_visible (hs : s.ids.Nodup) (p : Point) :
    ((s.visible.map (·.id)).filter fun id => (s.find? id).any (·.contains p)).getLast? =
      s.topmostAt? p := by
  have hcovers : ∀ w ∈ s.visible, (s.find? w.id).any (·.contains p) = w.contains p := by
    intro w hw
    rw [find?_of_mem hs (List.mem_filter.1 hw).1]
    rfl
  rw [List.filter_map, List.getLast?_map]
  refine congrArg (Option.map _) ((congrArg _ (List.filter_congr hcovers)).trans ?_)
  unfold visible
  rw [List.filter_filter, List.getLast?_filter]
  simp only [Bool.and_comm]

theorem Ok.focusedWindow?_isSome (h : s.Ok) {id : WindowId} (hf : s.focused = some id) :
    ∃ w, s.focusedWindow? = some w := by
  have htop := h.top id hf
  rw [topmost?_eq] at htop
  obtain ⟨w, hw⟩ := mem_ids.1 (List.mem_of_getLast? htop)
  exact ⟨w, Option.bind_eq_some_iff.2 ⟨id, hf, hw⟩⟩

/-- The window with the focus is the top one. -/
theorem Ok.windows_eq (h : s.Ok) (hw : s.focusedWindow? = some w) :
    ∃ below, s.windows = below ++ [w] ∧ ∀ v ∈ below, v.id ≠ w.id := by
  obtain ⟨hid, hfind⟩ := focusedWindow?_eq_some.1 hw
  obtain ⟨top, htop, htopid⟩ := Option.map_eq_some_iff.1 (h.top w.id hid)
  obtain ⟨below, hbelow⟩ := List.getLast?_eq_some_iff.1 htop
  -- the top window has the id of the focus, and only one window has that
  obtain rfl : top = w := by
    have hself := find?_of_mem h.nodup (List.mem_of_getLast? htop)
    rw [htopid, hfind] at hself
    exact (Option.some.inj hself).symm
  refine ⟨below, hbelow, fun v hv hsame => ?_⟩
  have hnodup := h.nodup
  unfold ids at hnodup
  rw [hbelow, List.map_append, List.nodup_append] at hnodup
  exact hnodup.2.2 v.id (List.mem_map_of_mem hv) top.id
    (List.mem_map_of_mem List.mem_cons_self) hsame

theorem Ok.visible_filter_lit (h : s.Ok) :
    s.visible.filter s.lit = (s.focusedWindow?.filter (·.isVisible)).toList := by
  cases hf : s.focused with
  | none =>
    have hdark : ∀ w ∈ s.visible, ¬ s.lit w = true := by simp [lit, hf]
    rw [List.filter_eq_nil_iff.2 hdark]
    unfold focusedWindow?
    rw [hf]
    rfl
  | some id =>
    obtain ⟨w, hw⟩ := h.focusedWindow?_isSome hf
    obtain ⟨below, hbelow, hne⟩ := h.windows_eq hw
    have hdark : ∀ v ∈ below.filter (·.isVisible), ¬ s.lit v = true := by
      intro v hv hlit
      have hid := (focusedWindow?_eq_some.1 hw).1.symm.trans (of_decide_eq_true hlit)
      exact hne v (List.mem_filter.1 hv).1 (Option.some.inj hid).symm
    have hlit : s.lit w = true := decide_eq_true (focusedWindow?_eq_some.1 hw).1
    unfold visible
    rw [hw, hbelow, List.filter_append, List.filter_append, List.filter_eq_nil_iff.2 hdark]
    cases hv : w.isVisible <;> simp [Option.filter, hv, hlit]

theorem Ok.last_lit (h : s.Ok) (hw : s.focusedWindow? = some w) (hv : w.isVisible = true) :
    (s.visible.map (·.id)).getLast? = some w.id := by
  obtain ⟨below, hbelow, -⟩ := h.windows_eq hw
  unfold visible
  rw [hbelow, List.filter_append, List.filter_cons_of_pos hv, List.filter_nil, List.map_append]
  exact List.getLast?_concat

end Stack

/-- The surface of a window that has pixels is as large as its place, and a row and a column can be taken
off that. -/
theorem Window.Ok.edges {w : Window} (hw : w.Ok) :
    w.surface.size = ⟨w.rect.width, w.rect.height⟩ ∧
      satSub w.rect.width 1 = w.rect.width - 1 ∧ satSub w.rect.height 1 = w.rect.height - 1 := by
  have hpositive : w.rect.width ≠ 0 ∧ w.rect.height ≠ 0 := by
    simpa [size, Rect.size, Size.isEmpty] using hw.nonempty
  have hsub (n : UInt32) (hn : n ≠ 0) : satSub n 1 = n - 1 := by
    have hone : UInt32.toNat 1 ≤ n.toNat := Nat.pos_of_ne_zero fun h => hn (UInt32.toNat_inj.1 h)
    rw [← UInt32.toNat_inj, toNat_satSub, UInt32.toNat_sub_of_le _ _ (UInt32.le_iff_toNat_le.2 hone)]
  exact ⟨hw.surface, hsub _ hpositive.1, hsub _ hpositive.2⟩

/-- A frame takes the cursor off the screen, clears it, and shows each visible window once, from the
bottom of the stack to its top. On the surface of a window go its decorations (after it has been cleared,
its background, under a title bar in the colour that says whether the window has the focus, the title, and
a border of four edges), then what the sink for drawing paints, if there is one, and then it is presented.
The cursor comes last. Surfaces of hidden windows stay as they are. Over any point the last window
presented is the one that the point hits. One window at most is decorated as focused, the one with the
focus if that is visible, and it is the last to be presented. -/
theorem Desktop.paint_order {d : Desktop} (hd : d.Reachable) :
    let frame := d.apply .paint
    let bar := fun w : Window =>
      if d.stack.focused = some w.id then d.theme.titlebarFocused else d.theme.titlebar
    let decorations := fun w : Window =>
      [DisplayCall.clear ⟨w.rect.width, w.rect.height⟩,
        .rect ⟨0, 0, w.rect.width, w.rect.height⟩ w.background] ++
      (if w.isTitled then
        [.rect ⟨0, 0, w.rect.width, min d.config.titlebarHeight w.rect.height⟩ (bar w),
          .text w.title titleInset d.config.titleBaseline d.theme.textPrimary]
      else []) ++
      if w.isBordered then
        [.rect ⟨0, 0, w.rect.width, 1⟩ d.theme.border,
          .rect ⟨0, w.rect.height - 1, w.rect.width, 1⟩ d.theme.border,
          .rect ⟨0, 0, 1, w.rect.height⟩ d.theme.border,
          .rect ⟨w.rect.width - 1, 0, 1, w.rect.height⟩ d.theme.border]
      else []
    let strokes := fun call : DisplayCall =>
      match call with
      | .clear size => d.display.clear size
      | .rect rect color => d.display.rect rect color
      | .text text x y color => d.display.text text x y color
      | _ => []
    let content := fun w : Window =>
      match w.sinks.get? .draw with
      | some (.draw _ strokes) => strokes
      | _ => []
    let after := fun w : Window =>
      { w with surface := (w.surface.paint ((decorations w).flatMap strokes)).paint (content w) }
    frame.effects =
        [.display (.eraseCursor d.cursor), .display (.clearScreen d.theme.background)] ++
          (d.stack.visible.flatMap fun w =>
            (decorations w).map .display ++ w.handed .draw ++
              [.display (.present w.id (after w).surface)]) ++
          [.display (.drawCursor d.cursor)] ∧
      frame.state = { d with
        stack := { d.stack with
          windows := d.stack.windows.map fun w => if w.isVisible then after w else w } } ∧
      presented frame.effects = d.stack.visible.map (·.id) ∧
      (presented frame.effects).Nodup ∧
      (∀ p, ((presented frame.effects).filter fun id =>
        (d.stack.find? id).any (·.contains p)).getLast? = d.stack.topmostAt? p) ∧
      (d.stack.visible.filter fun w => d.stack.focused = some w.id) =
        (d.stack.focusedWindow?.filter (·.isVisible)).toList ∧
      ∀ w, d.stack.focusedWindow? = some w → w.isVisible = true →
        (presented frame.effects).getLast? = some w.id := by
  intro frame bar decorations strokes content after
  have hok := hd.ok.stack
  have hdecorations : ∀ w ∈ d.stack.windows,
      w.decorationCalls d.theme d.config (d.stack.lit w) = decorations w := by
    intro w hw
    obtain ⟨hsurface, hright, hbottom⟩ := (hd.window_ok w hw).edges
    have hbar : d.theme.titlebarFor (d.stack.lit w) = bar w := by
      simp only [Theme.titlebarFor, Stack.lit, decide_eq_true_eq, bar]
    unfold Window.decorationCalls Window.titlebarCalls Window.borderCalls
    dsimp only [Window.size, Rect.size]
    rw [hsurface, hright, hbottom, hbar]
    rfl
  have hstrokes : d.display.strokes = strokes := by
    funext call
    cases call <;> rfl
  have hcontent : ∀ w : Window, w.content = content w := by
    intro w
    simp only [Window.content, content]
    cases w.sinks.get? .draw with
    | none => rfl
    | some sink => cases sink <;> rfl
  have hafter : ∀ w ∈ d.stack.windows,
      w.painted d.display d.theme d.config (d.stack.lit w) = after w := by
    intro w hw
    unfold Window.painted
    rw [hdecorations w hw, hstrokes, hcontent w]
  have hpresented : presented frame.effects = d.stack.visible.map (·.id) :=
    d.stack.presented_paint hd.window_ok ..
  have heffects : frame.effects = _ := d.stack.paint_effects hd.window_ok ..
  have hstate : frame.state = _ :=
    congrArg (fun stack => { d with stack := stack }) (d.stack.paint_surfaces hd.window_ok ..)
  refine ⟨?_, ?_, hpresented, ?_⟩
  · rw [heffects]
    congr 2
    refine List.flatMap_congr fun w hw => ?_
    have hmem := (List.mem_filter.1 hw).1
    unfold Window.showing
    rw [hdecorations w hmem, hafter w hmem]
  · rw [hstate]
    congr 3
    refine List.map_congr_left fun w hw => ?_
    rw [hafter w hw]
  · rw [hpresented]
    exact ⟨hok.nodup.sublist (List.filter_sublist.map _), Stack.last_visible hok.nodup,
      hok.visible_filter_lit, fun w hw hv => hok.last_lit hw hv⟩

/-- Two windows that overlap, the upper one with the focus, and a hidden one between them. -/
theorem Desktop.paint_order_overlap :
    let d := ((start {} {} .software (.upTo 4194304)).state.run
      [.create "a" ⟨8, 6⟩ .titled, .create "h" ⟨8, 6⟩ .titled, .hide ⟨2⟩,
        .create "b" ⟨8, 6⟩ (.union .titled .bordered), .setPosition ⟨3⟩ 104 102,
        .setSink ⟨1⟩ (.draw "a" [.fill .black]), .setSink ⟨2⟩ (.draw "h" [])]).state
    let frame := d.apply .paint
    d.Reachable ∧ presented frame.effects = [⟨1⟩, ⟨3⟩] ∧
      deliveries frame.effects = [.deliver (.draw "a" [.fill .black]) ⟨1⟩ .draw ⟨8, 6⟩] ∧
      frame.effects.take 6 =
        [.display (.eraseCursor ⟨400, 300⟩), .display (.clearScreen (Theme.background {})),
          .display (.clear ⟨8, 6⟩), .display (.rect ⟨0, 0, 8, 6⟩ (Theme.windowBackground {})),
          .display (.rect ⟨0, 0, 8, 6⟩ (Theme.titlebar {})),
          .display (.text "a" 8 8 (Theme.textPrimary {}))] ∧
      .display (.rect ⟨0, 0, 8, 6⟩ (Theme.titlebarFocused {})) ∈ frame.effects ∧
      .display (.rect ⟨0, 5, 8, 1⟩ (Theme.border {})) ∈ frame.effects ∧
      d.stack.topmostAt? ⟨105, 103⟩ = some ⟨3⟩ ∧ d.stack.topmostAt? ⟨100, 100⟩ = some ⟨1⟩ ∧
      ((presented frame.effects).filter fun id =>
        (d.stack.find? id).any (·.contains ⟨105, 103⟩)).getLast? = some ⟨3⟩ ∧
      (d.stack.visible.filter fun w => d.stack.focused = some w.id).map (·.id) = [⟨3⟩] ∧
      frame.state.stack.find? ⟨2⟩ = d.stack.find? ⟨2⟩ := by
  intro d frame
  have hd : d.Reachable := (Reachable.start {} {} .software (.upTo 4194304)).run _
  obtain ⟨heffects, hstate, hpresented, -, hhit, hlit, -⟩ := paint_order hd
  refine ⟨hd, ?_, ?_, ?_, ?_, ?_, by decide +kernel, by decide +kernel, ?_, ?_, ?_⟩
  · rw [hpresented]
    decide +kernel
  · rw [heffects]
    decide +kernel
  · rw [heffects]
    decide +kernel
  · rw [heffects]
    decide +kernel
  · rw [heffects]
    decide +kernel
  · rw [hhit]
    decide +kernel
  · rw [hlit]
    decide +kernel
  · rw [hstate]
    decide +kernel

end PointerDesktop
