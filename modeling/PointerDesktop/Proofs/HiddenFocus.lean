import PointerDesktop.Proofs.WindowLife

/-!
# Input for hidden windows

Keys and the pointer's events go to the window with the focus. To hide a window takes the focus from it,
and the pointer finds visible windows only (`Scene.Sound.dimmed_step`); but a caller may give the focus
to a window that is hidden. `Desktop.ForcedOn` says that one has, and this is the only way for a hidden
window to be told anything (`Desktop.forcedOn_of_hidden`). Main statement:
`Desktop.hidden_input_forced`.
-/

namespace PointerDesktop

/-! ### Who is visible -/

theorem Flags.contains_union_self (f g : Flags) : (f.union g).contains g = true := by
  unfold contains union
  rw [beq_iff_eq]
  refine UInt32.toBitVec_inj.1 ?_
  rw [UInt32.toBitVec_and, UInt32.toBitVec_or]
  ext i hi
  simp only [BitVec.getElem_and, BitVec.getElem_or]
  grind

theorem Flags.contains_diff_visible (f : Flags) : (f.diff visible).contains visible = false := by
  have hnone : ~~~visible.bits &&& visible.bits = 0 := by decide
  have hbits : f.bits &&& ~~~visible.bits &&& visible.bits = 0 := by
    rw [UInt32.and_assoc, hnone, UInt32.and_zero]
  unfold contains diff
  rw [hbits]
  decide

theorem Window.isVisible_setVisible (w : Window) (visible : Bool) :
    (w.setVisible visible).isVisible = visible := by
  cases visible with
  | true => exact w.flags.contains_union_self .visible
  | false => exact w.flags.contains_diff_visible

theorem Window.isVisible_create {id : WindowId} {title : String} {size : Size} {flags : Flags}
    {config : Config} {background : Color} {w : Window} {heap heap' : Heap}
    (h : create id title size flags config background heap = (.ok w, heap')) :
    w.isVisible = true := by
  rw [(create_eq h).2]
  exact flags.contains_union_self .visible

namespace Window
variable {d : Desktop} {op : Operation} {p : Point} {g : Gesture} {w w' : Window}

/-- Only the calls that are for it change whether a window is visible. -/
theorem Edited.isVisible_cases (h : w.Edited d op w') :
    w'.isVisible = w.isVisible ∨ (op = .reveal w.id ∧ w'.isVisible = true) ∨
      (op = .hide w.id ∧ w'.isVisible = false) := by
  cases h with
  | reveal hop => exact .inr (.inl ⟨hop, w.isVisible_setVisible true⟩)
  | hide hop => exact .inr (.inr ⟨hop, w.isVisible_setVisible false⟩)
  | resize _ hw' => exact .inl (congrArg (·.contains .visible) (flags_resize hw'))
  | paint _ _ => exact .inl (congrArg (·.contains .visible) (flags_paint ..))
  | _ => exact .inl rfl

theorem Moved.isVisible_eq (h : w.Moved p g w') : w'.isVisible = w.isVisible := by
  cases h with
  | pull _ hw' => exact congrArg (·.contains .visible) (flags_resize hw')
  | _ => rfl

end Window

/-- The windows of `s'` are windows of `s` and as visible as there, and none that is hidden has got the
focus. -/
structure Stack.Dimmed (s s' : Stack) : Prop where
  became : Became (fun w w' => w'.isVisible = w.isVisible) s s'
  focused : ∀ w', s'.focusedWindow? = some w' → w'.isVisible = false → s.focused = some w'.id

namespace Stack.Dimmed
variable {s s' s'' : Stack} {w' : Window}

theorem refl (s : Stack) : Dimmed s s :=
  ⟨.of_find? (fun _ => rfl) fun _ => rfl, fun _ hw' _ => (focusedWindow?_eq_some.1 hw').1⟩

/-- A hidden window with the focus was one before. -/
theorem hidden (h : Dimmed s s') (hw' : s'.focusedWindow? = some w')
    (hhidden : w'.isVisible = false) :
    ∃ w, s.focusedWindow? = some w ∧ w.id = w'.id ∧ w.isVisible = false := by
  have hfocus := h.focused w' hw' hhidden
  obtain ⟨w, hw, hvisible⟩ := h.became w'.id w' (focusedWindow?_eq_some.1 hw').2
  have hid := id_of_find? hw
  rw [← hid] at hfocus hw
  exact ⟨w, focusedWindow?_eq_some.2 ⟨hfocus, hw⟩, hid, by rwa [hvisible] at hhidden⟩

theorem trans (h : Dimmed s s') (h' : Dimmed s' s'') : Dimmed s s'' := by
  refine ⟨fun id w'' hw'' => ?_, fun w'' hw'' hhidden => ?_⟩
  · obtain ⟨w', hw', hvisible'⟩ := h'.became id w'' hw''
    obtain ⟨w, hw, hvisible⟩ := h.became id w' hw'
    exact ⟨w, hw, hvisible'.trans hvisible⟩
  · obtain ⟨w', hw', hid, hhidden'⟩ := h'.hidden hw'' hhidden
    rw [← hid]
    exact h.focused w' hw' hhidden'

end Stack.Dimmed

/-- The pointer raises visible windows only. -/
theorem Scene.Sound.dimmed_step {s : Scene} (h : s.Sound) (config : Config) (p : Point)
    (buttons : Buttons) : Stack.Dimmed s.stack (s.step config p buttons).state.stack := by
  refine ⟨fun id w' hw' => ?_, fun w' hw' hhidden => ?_⟩
  · obtain ⟨w, hw, hmoved⟩ := h.became_step config p buttons id w' hw'
    exact ⟨w, hw, hmoved.isVisible_eq⟩
  · obtain ⟨hfocus, hfind⟩ := Stack.focusedWindow?_eq_some.1 hw'
    have hfollows := h.ok.step_follows config p buttons
    dsimp only at hfollows
    split at hfollows
    · unfold Stack.Follows at hfollows
      split at hfollows
      · rw [← hfollows.1, hfocus]
      · next id hhit =>
        -- the window under the pointer has the focus, and that one is visible
        obtain ⟨hraised, -, htop⟩ := hfollows
        obtain ⟨v, hv, hvid, hvisible, -⟩ := Stack.topmostAt?_eq_some htop
        have hid : v.id = w'.id := by
          rw [hvid]
          exact Option.some.inj (hraised.symm.trans hfocus)
        have hv := Stack.find?_of_mem (h.ok.step config p buttons).stack.nodup hv
        rw [hid, hfind] at hv
        cases hv
        rw [hhidden] at hvisible
        cases hvisible
    · rw [← hfollows.1, hfocus]

namespace Desktop
variable {d d' : Desktop} {op : Operation} {ops : List Operation} {id : WindowId} {w w' : Window}

theorem dimmed_pointer (hd : d.toScene.Sound) (hop : op.isPointer = true) :
    Stack.Dimmed d.stack (d.apply op).state.stack ∧
      ∀ m ∈ d.opSamplings op, m.1.toScene.Sound ∧ Stack.Dimmed d.stack m.1.stack := by
  have hkept := keeps_pointer (P := fun d' => d'.toScene.Sound ∧ Stack.Dimmed d.stack d'.stack)
    (fun _ _ h => h) (fun d' q h => ⟨h.1.step d'.config q, h.2.trans (h.1.dimmed_step ..)⟩)
    ⟨hd, .refl _⟩ hop
  exact ⟨hkept.1.2, hkept.2⟩

/-- The window is open and hidden. -/
def Hidden (d : Desktop) (id : WindowId) : Prop :=
  ∃ w, d.stack.find? id = some w ∧ w.isVisible = false

/-- To hide a window takes the focus from it. -/
theorem focused_hide (hw : d.stack.find? id = some w) (hfocus : d.stack.focused = some id) :
    (d.apply (.hide id)).state.stack.focused = none := by
  show (answered (d.hide id)).state.stack.focused = none
  unfold answered hide
  rw [hw]
  dsimp only
  rw [if_pos (show (d.stack.put _).focused = some id from hfocus)]
  rfl

theorem visible_reveal (hw' : (d.apply (.reveal id)).state.stack.find? id = some w') :
    w'.isVisible = true := by
  change (answered (d.reveal id)).state.stack.find? id = some w' at hw'
  unfold answered reveal update at hw'
  cases hw : d.stack.find? id with
  | none =>
    rw [hw] at hw'
    cases hw.symm.trans hw'
  | some w =>
    have hid := Stack.id_of_find? hw
    subst hid
    rw [hw] at hw'
    cases (Stack.find?_put_self (w := w.setVisible true) hw).symm.trans hw'
    exact w.isVisible_setVisible true

/-- A window that had no focus before gets it by being opened or by a call for it. -/
theorem Edits.focused {reply : Reply} {s' : Stack} {es : List Effect} (h : d.Edits op reply s' es)
    (hfocus : s'.focused = some id) :
    d.stack.focused = some id ∨ reply = .created id ∨ op = .focus id := by
  cases h with
  | create _ _ =>
    cases hfocus
    exact .inr (.inl rfl)
  | @close id' _ _ =>
    have hremove : (if (d.stack.notify id' .close).state.focused = some id' then none
        else (d.stack.notify id' .close).state.focused) = some id := hfocus
    split at hremove
    · cases hremove
    · exact .inl (by rwa [Stack.focused_notify] at hremove)
  | resizeTell _ _ _ _ => exact .inl (by rwa [Stack.focused_notify] at hfocus)
  | hideFocused _ _ => cases hfocus
  | focus hw =>
    rw [Stack.focused_raise hw] at hfocus
    cases hfocus
    exact .inr (.inr rfl)
  | pressKey _ => exact .inl (by rwa [Stack.focused_notify] at hfocus)
  | _ => exact .inl hfocus

/-- A hidden window with the focus was hidden before, and has been given the focus just now or had it
already. -/
theorem hidden_apply (hd : d.toScene.Sound)
    (hw' : (d.apply op).state.stack.focusedWindow? = some w') (hhidden : w'.isVisible = false) :
    d.Hidden w'.id ∧
      (op = .focus w'.id ∨ d.stack.focused = some w'.id ∧ op ≠ .reveal w'.id) := by
  cases hop : op.isPointer with
  | true =>
    obtain ⟨w, hw, hid, hw_hidden⟩ := (dimmed_pointer hd hop).1.hidden hw' hhidden
    obtain ⟨hfocus, hfind⟩ := Stack.focusedWindow?_eq_some.1 hw
    rw [hid] at hfocus hfind
    refine ⟨⟨w, hfind, hw_hidden⟩, .inr ⟨hfocus, fun hreveal => ?_⟩⟩
    rw [hreveal] at hop
    cases hop
  | false =>
    obtain ⟨hfocus', hfind'⟩ := Stack.focusedWindow?_eq_some.1 hw'
    have hedits := d.edits_apply hop
    rcases hedits.window hd hfind' with ⟨w, hw, hedited⟩ | ⟨-, -, _, _, _, _, _, hcreate⟩
    · have hid := Stack.id_of_find? hw
      have hfocus : op = .focus w'.id ∨ d.stack.focused = some w'.id := by
        rcases hedits.focused hfocus' with hfocus | hcreated | hfocus
        · exact .inr hfocus
        · exact absurd (Stack.mem_ids.2 ⟨w, hw⟩) (fresh_apply hd hcreated)
        · exact .inl hfocus
      have hw_hidden : w.isVisible = false := by
        rcases hedited.isVisible_cases with hsame | ⟨-, hvisible⟩ | ⟨hhide, -⟩
        · exact hsame.symm.trans hhidden
        · cases hvisible.symm.trans hhidden
        · -- a window that is hidden has lost the focus
          rw [hid] at hhide
          subst hhide
          rcases hfocus with hfocus | hfocus
          · cases hfocus
          · cases (focused_hide hw hfocus).symm.trans hfocus'
      refine ⟨⟨w, hw, hw_hidden⟩, hfocus.imp_right fun hfocus => ⟨hfocus, ?_⟩⟩
      rintro rfl
      cases (visible_reveal hfind').symm.trans hhidden
    · cases (Window.isVisible_create hcreate).symm.trans hhidden

/-- Hidden windows stay hidden until a call reveals them. -/
theorem Hidden.apply (h : d.Hidden id) (hd : d.toScene.Sound)
    (hw' : (d.apply op).state.stack.find? id = some w') (hop : op ≠ .reveal id) :
    w'.isVisible = false := by
  obtain ⟨w, hw, hhidden⟩ := h
  cases hpointer : op.isPointer with
  | true =>
    obtain ⟨v, hv, hvisible⟩ := (dimmed_pointer hd hpointer).1.became id w' hw'
    cases hw.symm.trans hv
    exact hvisible.trans hhidden
  | false =>
    rcases (d.edits_apply hpointer).window hd hw' with ⟨v, hv, hedited⟩ | ⟨hnone, -⟩
    · cases hw.symm.trans hv
      rcases hedited.isVisible_cases with hsame | ⟨hreveal, -⟩ | ⟨-, hdark⟩
      · exact hsame.trans hhidden
      · rw [Stack.id_of_find? hw] at hreveal
        exact absurd hreveal hop
      · exact hdark
    · cases hw.symm.trans hnone

/-! ### Runs -/

theorem state_run_append (d : Desktop) (ops more : List Operation) :
    (d.run (ops ++ more)).state = ((d.run ops).state.run more).state := by
  induction ops generalizing d with
  | nil => rfl
  | cons op ops ih => exact ih _

theorem Hidden.run (h : d.Hidden id) (hd : d.Reachable) (hops : .reveal id ∉ ops)
    (hw : (d.run ops).state.stack.find? id = some w) : w.isVisible = false := by
  induction ops using List.reverseRecOn generalizing w with
  | nil =>
    obtain ⟨v, hv, hhidden⟩ := h
    cases hv.symm.trans hw
    exact hhidden
  | append_singleton ops op ih =>
    obtain ⟨hops, hop⟩ : .reveal id ∉ ops ∧ op ≠ .reveal id := by simpa [eq_comm] using hops
    have hsound := (hd.run ops).sound
    rw [state_run_append] at hw
    rcases mem_ids_apply hsound (Stack.mem_ids.2 ⟨w, hw⟩) with hopen | hcreated
    · obtain ⟨v, hv⟩ := Stack.mem_ids.1 hopen
      exact Hidden.apply ⟨v, hv, ih hops hv⟩ hsound hw hop
    · -- the id has been given out before
      obtain ⟨v, hv, -⟩ := h
      have hgiven := (hd.ok.stack.given id (Stack.mem_ids.2 ⟨v, hv⟩)).2
      have hnext := d.nextId_le_run ops
      rw [(created_apply _ hcreated).1] at hgiven
      exact absurd hgiven (Nat.not_lt.2 hnext)

/-- The focus has been given to the window by a call while it was hidden, and no call has revealed it
since. -/
def ForcedOn (d : Desktop) (ops : List Operation) (id : WindowId) : Prop :=
  ∃ front back, ops = front ++ .focus id :: back ∧ (d.run front).state.Hidden id ∧
    .reveal id ∉ back

theorem ForcedOn.hidden (h : d.ForcedOn ops id) (hd : d.Reachable)
    (hw : (d.run ops).state.stack.find? id = some w) : w.isVisible = false := by
  obtain ⟨front, back, rfl, hhidden, hback⟩ := h
  rw [state_run_append] at hw
  exact hhidden.run (hd.run front) (by simpa using hback) hw

/-- A hidden window with the focus has been given it by a call. -/
theorem forcedOn_of_hidden (hd : d.Reachable)
    (hfresh : ∀ w, d.stack.focusedWindow? = some w → w.isVisible = true)
    (hw : (d.run ops).state.stack.focusedWindow? = some w) (hhidden : w.isVisible = false) :
    d.ForcedOn ops w.id := by
  induction ops using List.reverseRecOn generalizing w with
  | nil => cases (hfresh w hw).symm.trans hhidden
  | append_singleton ops op ih =>
    rw [state_run_append] at hw
    obtain ⟨hbefore, rfl | ⟨hfocus, hop⟩⟩ := hidden_apply (hd.run ops).sound hw hhidden
    · exact ⟨ops, [], rfl, hbefore, List.not_mem_nil⟩
    · -- it had the focus before, so the call is an earlier one
      obtain ⟨v, hv, hv_hidden⟩ := hbefore
      have hid := Stack.id_of_find? hv
      rw [← hid] at hfocus hv hop
      obtain ⟨front, back, rfl, hfront, hback⟩ :=
        ih (Stack.focusedWindow?_eq_some.2 ⟨hfocus, hv⟩) hv_hidden
      rw [hid] at hfront hback hop
      refine ⟨front, back ++ [op], ?_, hfront, ?_⟩
      · rw [hid, List.append_assoc, List.cons_append]
      · simpa [eq_comm] using ⟨hback, hop⟩

end Desktop

/-! ### Input -/

/-- A key, or an event of the pointer. -/
def WindowEvent.isInput : WindowEvent → Bool
  | .mouseMove .. | .mouseButton .. | .keyPress _ => true
  | .close | .resize _ | .draw => false

/-- The window of a gesture is visible. -/
theorem Gesture.Anchored.visible {s : Stack} {g : Gesture} {id : WindowId} {w : Window}
    (h : g.Anchored s) (hg : g.window? = some id) (hw : s.find? id = some w) :
    w.isVisible = true := by
  have hholds : ∃ property, s.Holds id property := by
    cases g with
    | idle => cases hg
    | dragging d =>
      cases hg
      exact ⟨_, h⟩
    | resizing d =>
      cases hg
      exact ⟨_, h.1⟩
  obtain ⟨_, -, v, hv, hvisible, -⟩ := hholds
  cases hw.symm.trans hv
  exact hvisible

/-- Only a visible window is told of a button. -/
theorem Scene.Emits.visible {s : Scene} {config : Config} {p : Point} {buttons : Buttons}
    {w : Window} {event : WindowEvent} (h : s.Emits config p buttons w event) (hs : s.Ok)
    (hw : s.stack.focusedWindow? = some w) (hkind : event.kind = .mouseButton) :
    w.isVisible = true := by
  have hfind := (Stack.focusedWindow?_eq_some.1 hw).2
  cases h with
  | press _ _ _ hhit _ =>
    obtain ⟨v, hv, hid, hvisible, -⟩ := Stack.topmostAt?_eq_some hhit
    have hv := Stack.find?_of_mem hs.stack.nodup hv
    rw [hid, hfind] at hv
    cases hv
    exact hvisible
  | click hg _ _ => exact hs.gesture.visible hg hfind
  | hover _ _ => cases hkind
  | resize _ _ _ => cases hkind
  | resized _ _ _ _ => cases hkind

namespace Desktop
variable {d d' : Desktop} {op : Operation} {es : List Effect} {sink : EventSink} {id : WindowId}
  {event : WindowEvent} {size : Size}

/-- What clients are handed by an operation, by each sample of pointer input on its own, with the desktop
that hands it out. -/
def handings (d : Desktop) (op : Operation) : List (Desktop × List Effect) :=
  if op.isPointer then
    (d.opSamplings op).map fun m => (m.1, deliveries (m.1.takeSample m.2).effects)
  else [(d, deliveries (d.apply op).effects)]

theorem flatMap_handings (d : Desktop) (op : Operation) :
    (d.handings op).flatMap (·.2) = deliveries (d.apply op).effects := by
  unfold handings
  split
  · next hop => rw [d.deliveries_apply hop, delivered, List.flatMap_map]
  · simp

theorem dimmed_handings (hd : d.toScene.Sound) (h : (d', es) ∈ d.handings op) :
    Stack.Dimmed d.stack d'.stack := by
  unfold handings at h
  split at h
  · next hop =>
    obtain ⟨m, hm, hm'⟩ := List.mem_map.1 h
    cases hm'
    exact ((dimmed_pointer hd hop).2 m hm).2
  · cases List.mem_singleton.1 h
    exact .refl _

/-- Input goes to the window with the focus, and buttons only to a visible one. -/
theorem input_focused (hd : d.toScene.Sound) (h : (d', es) ∈ d.handings op)
    (he : Effect.deliver sink id event size ∈ es) (hinput : event.isInput = true) :
    ∃ w, d'.stack.focusedWindow? = some w ∧ w.id = id ∧
      (event.kind = .mouseButton → w.isVisible = true) := by
  unfold handings at h
  split at h
  · next hop =>
    obtain ⟨m, hm, hm'⟩ := List.mem_map.1 h
    cases hm'
    have hok := ((dimmed_pointer hd hop).2 m hm).1.ok
    rcases routes_takeSample hok m.2 with hes | ⟨w, _, _, _, hw, -, hemits, hes⟩ <;> rw [hes] at he
    · cases he
    · cases List.mem_singleton.1 he
      exact ⟨w, hw, rfl, hemits.visible hok hw⟩
  · next hop =>
    cases List.mem_singleton.1 h
    have hedits := d.edits_apply (Bool.not_eq_true _ ▸ hop)
    generalize deliveries (d.apply op).effects = es at he hedits
    generalize (d.apply op).state.stack = s', (d.apply op).result = reply at hedits
    cases hedits with
    | pressKey hfocus =>
      obtain ⟨rfl, hid, rfl⟩ := Stack.deliver_notify (deliver_mem_deliveries.1 he)
      obtain ⟨w, hw⟩ := Stack.mem_ids.1 hid
      have hwid := Stack.id_of_find? hw
      refine ⟨w, Stack.focusedWindow?_eq_some.2 ?_, hwid, fun hkind => by cases hkind⟩
      rw [hwid]
      exact ⟨hfocus, hw⟩
    | close _ =>
      obtain ⟨-, -, rfl⟩ := Stack.deliver_notify (deliver_mem_deliveries.1 he)
      cases hinput
    | resizeTell _ _ _ _ =>
      obtain ⟨-, -, rfl⟩ := Stack.deliver_notify (deliver_mem_deliveries.1 he)
      cases hinput
    | paint =>
      obtain ⟨-, rfl⟩ := Stack.deliver_paint (deliver_mem_deliveries.1 he)
      cases hinput
    | _ => cases he

/-- Input in a run from a desktop without windows, whatever callers do. Each key and each event of the
pointer goes to an open window that has the focus when it is handed out. That window is hidden if and
only if it was given the focus by a call while it was hidden and no call has revealed it since; and
buttons go to visible windows in any case. -/
theorem hidden_input_forced (config : Config) (theme : Theme) (display : Display) (heap : Heap)
    (ops : List Operation) (op : Operation) :
    let fresh := (start config theme display heap).state
    let d := (fresh.run ops).state
    (d.handings op).flatMap (·.2) = deliveries (d.apply op).effects ∧
    ∀ d' es sink id event size, (d', es) ∈ d.handings op →
      Effect.deliver sink id event size ∈ es → event.isInput = true →
      ∃ w, d'.stack.find? id = some w ∧ d'.stack.focused = some id ∧
        (w.isVisible = false ↔ fresh.ForcedOn ops id) ∧
        (event.kind = .mouseButton → w.isVisible = true) := by
  intro fresh d
  have hfresh : fresh.Reachable := .start config theme display heap
  have hd := (hfresh.run ops).sound
  refine ⟨d.flatMap_handings op, fun d' es sink id event size h he hinput => ?_⟩
  obtain ⟨w, hw, rfl, hbutton⟩ := input_focused hd h he hinput
  obtain ⟨hfocus, hfind⟩ := Stack.focusedWindow?_eq_some.1 hw
  have hdimmed := dimmed_handings hd h
  refine ⟨w, hfind, hfocus, ⟨fun hhidden => ?_, fun hforced => ?_⟩, hbutton⟩
  · obtain ⟨v, hv, hid, hv_hidden⟩ := hdimmed.hidden hw hhidden
    rw [← hid]
    exact forcedOn_of_hidden hfresh (fun _ hnone => by cases hnone) hv hv_hidden
  · obtain ⟨v, hv, hvisible⟩ := hdimmed.became w.id w hfind
    exact hvisible.trans (hforced.hidden hfresh hv)

/-- A window that is hidden and then given the focus is told of keys and of the pointer. -/
theorem hidden_window_told :
    let fresh := (start {} {} .software (.upTo 4194304)).state
    let d := (fresh.run [.create "w" ⟨10, 10⟩ ⟨0⟩, .setSink ⟨1⟩ (.keyPress "key"),
      .setSink ⟨1⟩ (.mouseMove "move"), .hide ⟨1⟩, .focus ⟨1⟩]).state
    (d.stack.find? ⟨1⟩).map (·.isVisible) = some false ∧
      deliveries (d.apply (.pressKey 65)).effects =
        [.deliver (.keyPress "key") ⟨1⟩ (.keyPress 65) ⟨10, 10⟩] ∧
      deliveries (d.apply (.pointTo ⟨0, 0⟩ .none)).effects =
        [.deliver (.mouseMove "move") ⟨1⟩ (.mouseMove ⟨-100, -100⟩ .none) ⟨10, 10⟩] := by
  decide +kernel

end Desktop
end PointerDesktop
