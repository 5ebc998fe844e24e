import PointerDesktop.Ports.Bringup

/-!
# The handshake with the controller

The driver talks to the controller in exchanges: it wants to make some accesses one after the other,
waits before each for the status to allow it, and gives up at the first wait that runs out
(`Exchange`). The devices answer as they like, so nothing is known of a value that is read; what a
program does to the controller is read off the trace, by rules for sequencing and polling (`Yields`).
Main statement: `Board.startMouse_handshake`.
-/

namespace PointerDesktop

namespace BusEvent

/-- An access to one of the two ports of the controller. -/
def onController : BusEvent → Bool
  | read port _ | write port _ => port == Board.dataPort || port == Board.statusPort
  | _ => false

/-- A read of the status. -/
def isPoll : BusEvent → Bool
  | read port _ => port == Board.statusPort
  | _ => false

/-- The status says that the time for the access has come: a byte waits to be read, or the controller
takes one. -/
def allowedBy (e : BusEvent) (status : UInt8) : Bool :=
  match e with
  | read _ _ => status &&& Board.outputFull != 0
  | _ => status &&& Board.inputFull == 0

end BusEvent

namespace Board

/-- The accesses to the controller among entries of a trace, from the earliest on. The trace has its
latest entry first. -/
def accesses (entries : List BusEvent) : List BusEvent :=
  (entries.filter BusEvent.onController).reverse

@[simp] theorem accesses_append (late early : List BusEvent) :
    accesses (late ++ early) = accesses early ++ accesses late := by
  simp [accesses]

/-- The accesses that do more than ask for the status. -/
def transfers (es : List BusEvent) : List BusEvent := es.filter fun e => !e.isPoll

@[simp] theorem transfers_append (es fs : List BusEvent) :
    transfers (es ++ fs) = transfers es ++ transfers fs :=
  List.filter_append es fs

/-! ### Waits and exchanges -/

/-- A wait until the status satisfies `accept`, which `met` says it did, of `polls` polls at most. -/
inductive Waits (accept : UInt8 → Bool) : (polls : Nat) → (met : Bool) → List BusEvent → Prop where
  | out : Waits accept 0 false []
  | met {polls : Nat} {status : UInt8} (h : accept status = true) :
      Waits accept (polls + 1) true [.read statusPort status]
  | again {polls : Nat} {met : Bool} {status : UInt8} {es : List BusEvent}
      (h : accept status = false) (rest : Waits accept polls met es) :
      Waits accept (polls + 1) met (.read statusPort status :: es)

namespace Waits
variable {accept : UInt8 → Bool} {polls : Nat} {met : Bool} {es : List BusEvent}

theorem isPoll (h : Waits accept polls met es) : ∀ e ∈ es, e.isPoll = true := by
  induction h with
  | out => simp
  | met => simp [BusEvent.isPoll]
  | again _ _ ih => simpa [BusEvent.isPoll] using ih

theorem transfers (h : Waits accept polls met es) : transfers es = [] :=
  List.filter_eq_nil_iff.2 fun e he => by simp [h.isPoll e he]

/-- The last poll of a wait that was met. -/
theorem last (h : Waits accept polls met es) (hmet : met = true) :
    ∃ front status, es = front ++ [.read statusPort status] ∧ accept status = true := by
  induction h with
  | out => cases hmet
  | @met _ status h => exact ⟨[], status, rfl, h⟩
  | @again _ _ first _ _ _ ih =>
    obtain ⟨front, status, rfl, h⟩ := ih hmet
    exact ⟨.read statusPort first :: front, status, rfl, h⟩

end Waits

/-- An exchange that is to make the accesses `wanted`, each after a wait for the status to allow it. A
wait that runs out ends it; otherwise it is `complete`. -/
inductive Exchange : (wanted : List BusEvent) → (complete : Bool) → List BusEvent → Prop where
  | done : Exchange [] true []
  | stuck {e : BusEvent} {wanted polls : List BusEvent}
      (h : Waits e.allowedBy waitBudget false polls) : Exchange (e :: wanted) false polls
  | access {e : BusEvent} {wanted polls es : List BusEvent} {complete : Bool}
      (h : Waits e.allowedBy waitBudget true polls) (rest : Exchange wanted complete es) :
      Exchange (e :: wanted) complete (polls ++ e :: es)

/-- One wait with what came of it: it ran out, or the access that it was for was made. -/
inductive Round : List BusEvent → Prop where
  | stuck {accept : UInt8 → Bool} {polls : List BusEvent} (h : Waits accept waitBudget false polls) :
      Round polls
  | access {e : BusEvent} {polls : List BusEvent} (h : Waits e.allowedBy waitBudget true polls)
      (he : e.isPoll = false) : Round (polls ++ [e])

/-- The accesses are those of at most `n` waits. -/
def InRounds (n : Nat) (es : List BusEvent) : Prop :=
  ∃ rounds : List (List BusEvent), es = rounds.flatten ∧ rounds.length ≤ n ∧
    ∀ round ∈ rounds, Round round

/-- Each of the accesses `es` has among those before it, which begin with `early`, what `P` asks for. -/
def Preceded (P : List BusEvent → BusEvent → Prop) : (early es : List BusEvent) → Prop
  | _, [] => True
  | early, e :: es => P early e ∧ Preceded P (early ++ [e]) es

/-- Whatever is not a poll comes directly after a poll whose status allows it. -/
def Guarded (early : List BusEvent) (e : BusEvent) : Prop :=
  e.isPoll = false →
    ∃ before status, early = before ++ [.read statusPort status] ∧ e.allowedBy status = true

section
variable {n m : Nat} {es fs : List BusEvent}

theorem InRounds.append (h : InRounds n es) (h' : InRounds m fs) : InRounds (n + m) (es ++ fs) := by
  obtain ⟨rounds, rfl, hn, hrounds⟩ := h
  obtain ⟨rounds', rfl, hm, hrounds'⟩ := h'
  refine ⟨rounds ++ rounds', by simp, by simp; omega, fun round hround => ?_⟩
  rcases List.mem_append.1 hround with hround | hround
  · exact hrounds round hround
  · exact hrounds' round hround

theorem InRounds.mono (h : InRounds n es) (hnm : n ≤ m) : InRounds m es := by
  obtain ⟨rounds, hes, hn, hrounds⟩ := h
  exact ⟨rounds, hes, by omega, hrounds⟩

theorem Round.inRounds (h : Round es) : InRounds 1 es := ⟨[es], by simp, by simp, by simpa⟩

end

namespace Preceded
variable {P : List BusEvent → BusEvent → Prop} {early es fs : List BusEvent} {e : BusEvent}

theorem append : Preceded P early (es ++ fs) ↔
    Preceded P early es ∧ Preceded P (early ++ es) fs := by
  induction es generalizing early with
  | nil => simp [Preceded]
  | cons e es ih => simp [Preceded, ih, and_assoc]

theorem split (h : Preceded P early (es ++ e :: fs)) : P (early ++ es) e := (append.1 h).2.1

theorem front (h : Preceded P early fs) (hes : es <+: fs) : Preceded P early es := by
  obtain ⟨rest, rfl⟩ := hes
  exact (append.1 h).1

end Preceded

theorem guarded_poll (early : List BusEvent) (status : UInt8) :
    Guarded early (.read statusPort status) := by
  intro h
  simp [BusEvent.isPoll] at h

theorem Waits.guarded {accept : UInt8 → Bool} {polls : Nat} {met : Bool} {es : List BusEvent}
    (h : Waits accept polls met es) (early : List BusEvent) : Preceded Guarded early es := by
  induction h generalizing early with
  | out => trivial
  | met => exact ⟨guarded_poll _ _, trivial⟩
  | again _ _ ih => exact ⟨guarded_poll _ _, ih _⟩

namespace Exchange
variable {wanted more es fs : List BusEvent} {complete complete' : Bool}

theorem append (h : Exchange wanted complete es) (hcomplete : complete = true)
    (h' : Exchange more complete' fs) : Exchange (wanted ++ more) complete' (es ++ fs) := by
  induction h with
  | done => exact h'
  | stuck => cases hcomplete
  | access h _ ih => simpa using .access h (ih hcomplete)

/-- What comes after a wait that ran out is not tried. -/
theorem stop (h : Exchange wanted complete es) (hcomplete : complete = false) :
    Exchange (wanted ++ more) false es := by
  induction h with
  | done => cases hcomplete
  | stuck h => exact .stuck h
  | access h _ ih => exact .access h (ih hcomplete)

theorem inRounds (h : Exchange wanted complete es) (hw : ∀ e ∈ wanted, e.isPoll = false) :
    InRounds wanted.length es := by
  induction h with
  | done => exact ⟨[], rfl, by simp, by simp⟩
  | stuck h => exact (Round.stuck h).inRounds.mono (by simp)
  | @access e wanted polls es complete h _ ih =>
    have hround := (Round.access h (hw e (by simp))).inRounds
    have hrest := ih fun e he => hw e (by simp [he])
    rw [List.append_cons]
    exact (hround.append hrest).mono (by simp; omega)

theorem guarded (h : Exchange wanted complete es) (early : List BusEvent) :
    Preceded Guarded early es := by
  induction h generalizing early with
  | done => trivial
  | stuck h => exact h.guarded early
  | access h _ ih =>
    refine Preceded.append.2 ⟨h.guarded early, fun _ => ?_, ih _⟩
    obtain ⟨front, status, rfl, hstatus⟩ := h.last rfl
    exact ⟨early ++ front, status, by simp, hstatus⟩

/-- An exchange makes the first of the accesses that it is to make, and all of them if it is complete. -/
theorem transfers (h : Exchange wanted complete es) (hw : ∀ e ∈ wanted, e.isPoll = false) :
    transfers es <+: wanted ∧ (complete = true ↔ transfers es = wanted) := by
  induction h with
  | done => simp [Board.transfers]
  | stuck h => simp [h.transfers]
  | @access e wanted polls es complete h _ ih =>
    obtain ⟨hmade, hcomplete⟩ := ih fun e he => hw e (by simp [he])
    have hes : Board.transfers (polls ++ e :: es) = e :: Board.transfers es := by
      rw [transfers_append, h.transfers, List.nil_append]
      exact List.filter_cons_of_pos (by simp [hw e (by simp)])
    rw [hes, List.cons_prefix_cons, List.cons_inj_right]
    exact ⟨⟨rfl, hmade⟩, hcomplete⟩

end Exchange

/-! ### What a program does to the controller -/

section
variable {δ α β : Type} {m : BoardM δ α} {k : α → BoardM δ β}
  {R R' : α → List BusEvent → Prop} {S : β → List BusEvent → Prop}

/-- From any state of the devices, `m` only adds to the trace, and the answer fits what it adds in
accesses to the controller. -/
def Yields (m : BoardM δ α) (R : α → List BusEvent → Prop) : Prop :=
  ∀ b, ∃ added, (m b).2.trace = added ++ b.trace ∧ R (m b).1 (accesses added)

/-- `m` leaves the controller alone. -/
def Silent (m : BoardM δ α) : Prop := Yields m fun _ es => es = []

namespace Yields

theorem mono (h : Yields m R) (hRR' : ∀ a es, R a es → R' a es) : Yields m R' := by
  intro b
  obtain ⟨added, htrace, hR⟩ := h b
  exact ⟨added, htrace, hRR' _ _ hR⟩

theorem pure {a : α} (h : R a []) : Yields (pure a : BoardM δ α) R := fun _ => ⟨[], rfl, h⟩

/-- Nothing comes after `es`. -/
theorem stop {a : α} {es : List BusEvent} (h : R a es) :
    Yields (Pure.pure a : BoardM δ α) fun a fs => R a (es ++ fs) :=
  .pure (by rwa [List.append_nil])

theorem bind (hm : Yields m R) (hk : ∀ a es, R a es → Yields (k a) fun c fs => S c (es ++ fs)) :
    Yields (m >>= k) S := by
  intro b
  obtain ⟨early, hearly, hR⟩ := hm b
  obtain ⟨late, hlate, hS⟩ := hk _ _ hR (m b).2
  refine ⟨late ++ early, ?_, by rwa [accesses_append]⟩
  show (k (m b).1 (m b).2).2.trace = _
  rw [hlate, hearly, List.append_assoc]

theorem after (hm : Silent m) (hk : ∀ a, Yields (k a) S) : Yields (m >>= k) S :=
  hm.bind fun a es hes => by subst hes; exact hk a

theorem branch {ready : BoardM δ Bool} {T : Bool → List BusEvent → Prop} {m' : BoardM δ α}
    (h : Yields ready T) (hyes : ∀ es, T true es → Yields m fun a fs => R a (es ++ fs))
    (hno : ∀ es, T false es → Yields m' fun a fs => R a (es ++ fs)) :
    Yields (ready >>= fun ok => if ok then m else m') R := by
  refine h.bind fun ok es hes => ?_
  cases ok with
  | true => exact hyes es hes
  | false => exact hno es hes

theorem ite {c : Prop} [Decidable c] {m' : BoardM δ α} (h : c → Yields m R)
    (h' : ¬ c → Yields m' R) : Yields (if c then m else m') R := by
  split
  · next hc => exact h hc
  · next hc => exact h' hc

end Yields

theorem yields_readPort {port : UInt16} (hport : port = dataPort ∨ port = statusPort) :
    Yields (readPort port : BoardM δ UInt8) fun value es => es = [.read port value] := fun b =>
  ⟨[.read port (readPort port b).1], rfl, by simp [accesses, BusEvent.onController, hport]⟩

theorem yields_writePort {port : UInt16} (byte : UInt8)
    (hport : port = dataPort ∨ port = statusPort) :
    Yields (writePort port byte : BoardM δ Unit) fun _ es => es = [.write port byte] := fun _ =>
  ⟨[.write port byte], rfl, by simp [accesses, BusEvent.onController, hport]⟩

theorem poll_succ {σ : Type} (ready : StateM σ Bool) (polls : Nat) :
    poll ready (polls + 1) = (do if ← ready then return true else poll ready polls) := by
  funext s
  show poll ready (polls + 1) s =
    (if (ready s).1 = true then Pure.pure true else poll ready polls : StateM σ Bool) (ready s).2
  rw [poll]
  rcases ready s with ⟨_ | _, s'⟩ <;> rfl

/-! The log leaves the controller alone. -/

namespace Silent

theorem bind (hm : Silent m) (hk : ∀ a, Silent (k a)) : Silent (m >>= k) := Yields.after hm hk

theorem get : Silent (get : BoardM δ (Board δ)) := fun _ => ⟨[], rfl, rfl⟩

theorem note {e : BusEvent} (he : e.onController = false) : Silent (note e : BoardM δ Unit) :=
  fun _ => ⟨[e], rfl, by simp [accesses, he]⟩

/-- The driver of the serial line keeps to the ports of the line. -/
theorem drive (action : δ → List LineAccess × δ) : Silent (drive action : BoardM δ Unit) := by
  have hports : ∀ offset : Fin 8, serialPort + .ofNat offset ≠ dataPort ∧
      serialPort + .ofNat offset ≠ statusPort := by
    decide
  have hline : ∀ access, (lineEvent access).onController = false := by
    intro access
    cases access <;> simp [lineEvent, BusEvent.onController, hports]
  refine fun b => ⟨((action b.ports).1.map lineEvent).reverse, rfl, ?_⟩
  have hfilter : ((action b.ports).1.map lineEvent).reverse.filter BusEvent.onController = [] := by
    simp [List.filter_eq_nil_iff, hline]
  unfold accesses
  rw [hfilter]
  rfl

theorem forM {l : List β} {f : β → BoardM δ PUnit} (h : ∀ x, Silent (f x)) : Silent (l.forM f) := by
  induction l with
  | nil => exact Yields.pure rfl
  | cons x l ih => exact (h x).bind fun _ => ih

theorem sendByte (byte : UInt8) : Silent (sendByte byte : BoardM δ Unit) :=
  get.bind fun _ => drive _

theorem log (notice : Notice) : Silent (log notice : BoardM δ Unit) := by
  refine get.bind fun b => ?_
  split
  · exact Yields.pure rfl
  · exact note rfl
  · exact (note rfl).bind fun _ => (forM sendByte).bind fun _ => note rfl

end Silent

/-! ### The driver's exchanges -/

theorem yields_poll {accept : UInt8 → Bool} {ready : BoardM δ Bool}
    (h : Yields ready fun met es => ∃ status, es = [.read statusPort status] ∧ met = accept status)
    (polls : Nat) : Yields (poll ready polls) (Waits accept polls) := by
  induction polls with
  | zero => exact fun _ => ⟨[], rfl, .out⟩
  | succ polls ih =>
    rw [poll_succ]
    refine h.branch ?_ ?_
    · rintro _ ⟨status, rfl, hmet⟩
      exact .stop (.met hmet.symm)
    · rintro _ ⟨status, rfl, hmet⟩
      exact ih.mono fun _ _ => .again hmet.symm

theorem yields_waitReady (port : UInt16) (byte : UInt8) :
    Yields (waitReady : BoardM δ Bool) (Waits (BusEvent.write port byte).allowedBy waitBudget) := by
  have hbusy : Yields (isBusy : BoardM δ Bool) fun busy es =>
      ∃ status, es = [.read statusPort status] ∧ busy = (status &&& inputFull != 0) := by
    refine (yields_readPort (.inr rfl)).bind fun status es hes => ?_
    subst hes
    exact .pure ⟨status, rfl, rfl⟩
  refine yields_poll (hbusy.bind fun busy es hes => ?_) waitBudget
  obtain ⟨status, rfl, rfl⟩ := hes
  exact .pure ⟨status, rfl, by simp [BusEvent.allowedBy, bne]⟩

theorem yields_writeWhenReady {port : UInt16} (byte : UInt8)
    (hport : port = dataPort ∨ port = statusPort) :
    Yields (writeWhenReady port byte : BoardM δ Bool) (Exchange [.write port byte]) := by
  refine (yields_waitReady port byte).branch (fun polls hpolls => ?_) fun polls hpolls => ?_
  · refine (yields_writePort byte hport).bind fun _ es hes => .pure ?_
    subst hes
    exact .access hpolls .done
  · exact .stop (.stuck hpolls)

theorem yields_writeCommandWith (command operand : UInt8) :
    Yields (writeCommandWith command operand : BoardM δ Bool)
      (Exchange [.write statusPort command, .write dataPort operand]) := by
  refine (yields_writeWhenReady command (.inr rfl)).branch (fun es hes => ?_) fun es hes => ?_
  · exact (yields_writeWhenReady operand (.inl rfl)).mono fun _ _ => hes.append rfl
  · exact .stop (hes.stop rfl)

/-- An exchange that ends with a read of data, and the byte that was read, if it is complete. -/
def Asks (before : List BusEvent) : (answer : Option UInt8) → List BusEvent → Prop
  | some value, es => Exchange (before ++ [.read dataPort value]) true es
  | none, es => ∀ value, Exchange (before ++ [.read dataPort value]) false es

theorem Asks.exchange {before es : List BusEvent} {answer : Option UInt8}
    (h : Asks before answer es) :
    ∃ value, Exchange (before ++ [.read dataPort value]) answer.isSome es ∧
      ∀ v, answer = some v ↔ answer.isSome = true ∧ value = v := by
  cases answer with
  | none => exact ⟨0, h 0, by simp⟩
  | some value => exact ⟨value, h, by simp⟩

theorem Exchange.asks {before es fs : List BusEvent} {answer : Option UInt8}
    (h : Exchange before true es) (h' : Asks [] answer fs) : Asks before answer (es ++ fs) := by
  cases answer with
  | none => exact fun value => h.append rfl (h' value)
  | some value => exact h.append rfl h'

theorem yields_readData : Yields (readData : BoardM δ (Option UInt8)) (Asks []) := by
  have hwait : Yields (waitData : BoardM δ Bool)
      (Waits (BusEvent.read dataPort 0).allowedBy waitBudget) := by
    refine yields_poll ((yields_readPort (.inr rfl)).bind fun status es hes => ?_) waitBudget
    subst hes
    exact .pure ⟨status, rfl, rfl⟩
  refine hwait.branch (fun polls hpolls => ?_) fun polls hpolls => ?_
  · refine (yields_readPort (.inl rfl)).bind fun value es hes => .pure ?_
    subst hes
    exact .access hpolls .done
  · exact .stop (R := Asks []) fun _ => .stuck hpolls

/-- What configuring the controller is to do, where `config` is the byte that it reads. -/
def configuring (config : UInt8) : List BusEvent :=
  [.write statusPort readConfigCommand, .read dataPort config,
    .write statusPort writeConfigCommand, .write dataPort (config ||| mouseInterrupt)]

/-- What a command to the mouse is to do, where `answer` is the byte that comes back. -/
def commanding (command answer : UInt8) : List BusEvent :=
  [.write statusPort toMouseCommand, .write dataPort command, .read dataPort answer]

/-- A command to the mouse and whether it was acknowledged. -/
def Commands (command : UInt8) (taken : Bool) (es : List BusEvent) : Prop :=
  ∃ answer complete, Exchange (commanding command answer) complete es ∧
    (taken = true ↔ complete = true ∧ answer = acknowledged)

theorem Asks.commands {command : UInt8} {answer : Option UInt8} {taken : Bool}
    {es : List BusEvent}
    (h : Asks [.write statusPort toMouseCommand, .write dataPort command] answer es)
    (htaken : taken = true ↔ answer = some acknowledged) : Commands command taken es := by
  obtain ⟨value, hes, hvalue⟩ := h.exchange
  exact ⟨value, answer.isSome, hes, htaken.trans (hvalue acknowledged)⟩

theorem yields_commandMouse (command : UInt8) (name : String) :
    Yields (commandMouse command name : BoardM δ Bool) (Commands command) := by
  have hverdict (answer : Option UInt8) :
      Yields (if answer = some acknowledged then pure true
        else log (.unacknowledged name) >>= fun _ => pure false : BoardM δ Bool)
        fun taken es => es = [] ∧ (taken = true ↔ answer = some acknowledged) :=
    .ite (fun hanswer => .pure ⟨rfl, by simpa using hanswer⟩) fun hanswer =>
      .after (.log _) fun _ => .pure ⟨rfl, by simpa using hanswer⟩
  refine (yields_writeCommandWith toMouseCommand command).branch (fun es hes => ?_) fun es hes => ?_
  · refine yields_readData.bind fun answer fs hfs => (hverdict answer).mono ?_
    rintro taken _ ⟨rfl, htaken⟩
    rw [List.append_nil]
    exact (hes.asks hfs).commands htaken
  · have hstuck : Asks [.write statusPort toMouseCommand, .write dataPort command] none es :=
      fun _ => hes.stop rfl
    refine (hverdict none).mono ?_
    rintro taken _ ⟨rfl, htaken⟩
    rw [List.append_nil]
    exact hstuck.commands htaken

theorem yields_enableMouseInterrupt :
    Yields (enableMouseInterrupt : BoardM δ Unit) fun _ es =>
      ∃ config complete, Exchange (configuring config) complete es := by
  have hread : Yields (readConfig : BoardM δ (Option UInt8))
      (Asks [.write statusPort readConfigCommand]) := by
    refine (yields_writeWhenReady readConfigCommand (.inr rfl)).branch (fun es hes => ?_)
      fun es hes => ?_
    · exact yields_readData.mono fun _ _ => hes.asks
    · exact .stop (R := Asks _) fun _ => hes.stop rfl
  refine hread.bind fun answer es hes => ?_
  cases answer with
  | none =>
    refine (Silent.log _).mono ?_
    rintro _ _ rfl
    have hstuck : Exchange (configuring 0) false es := (hes 0).stop rfl
    exact ⟨0, false, by simpa using hstuck⟩
  | some config =>
    refine (yields_writeCommandWith writeConfigCommand _).bind fun written fs hfs => ?_
    have hdone : Exchange (configuring config) written (es ++ fs) := hes.append rfl hfs
    refine .ite (fun _ => (Silent.log _).mono ?_) fun _ => .pure ?_
    · rintro _ _ rfl
      exact ⟨config, written, by simpa using hdone⟩
    · exact ⟨config, written, by simpa using hdone⟩

/-! ### Bringing up the mouse -/

/-- The accesses of starting the mouse, and whether it streams then. -/
inductive Starts : (streaming : Bool) → List BusEvent → Prop where
  | refused {es : List BusEvent}
      (h : Exchange [.write statusPort enableMouseCommand] false es) : Starts false es
  | tried {config : UInt8} {complete defaultsSet reportingOn : Bool}
      {enable setup defaults reporting : List BusEvent}
      (henable : Exchange [.write statusPort enableMouseCommand] true enable)
      (hsetup : Exchange (configuring config) complete setup)
      (hdefaults : Commands setDefaults defaultsSet defaults)
      (hreporting : Commands enableReporting reportingOn reporting) :
      Starts (defaultsSet && reportingOn) (enable ++ (setup ++ (defaults ++ reporting)))

theorem yields_startMouse : Yields (startMouse : BoardM δ Bool) Starts := by
  refine .after (.log _) fun _ => ?_
  refine (yields_writeWhenReady enableMouseCommand (.inr rfl)).branch (fun enable henable => ?_)
    fun enable henable => ?_
  · refine yields_enableMouseInterrupt.bind fun _ setup hsetup => ?_
    obtain ⟨config, complete, hsetup⟩ := hsetup
    refine (yields_commandMouse _ _).bind fun defaultsSet defaults hdefaults => ?_
    refine (yields_commandMouse _ _).bind fun reportingOn reporting hreporting => ?_
    have hstarts := Starts.tried henable hsetup hdefaults hreporting
    refine .ite (fun hboth => .after (.log _) fun _ => .pure ?_) fun hboth => .pure ?_
    · simpa [hboth] using hstarts
    · simpa [hboth] using hstarts
  · exact .after (.log _) fun _ => .stop (.refused henable)

end

theorem configuring_isPoll (config : UInt8) : ∀ e ∈ configuring config, e.isPoll = false := by
  simp [configuring, BusEvent.isPoll, dataPort, statusPort]

theorem commanding_isPoll (command answer : UInt8) :
    ∀ e ∈ commanding command answer, e.isPoll = false := by
  simp [commanding, BusEvent.isPoll, dataPort, statusPort]

theorem Commands.taken_iff {command : UInt8} {taken : Bool} {es : List BusEvent}
    (h : Commands command taken es) :
    taken = true ↔ transfers es = commanding command acknowledged := by
  obtain ⟨answer, complete, hes, htaken⟩ := h
  obtain ⟨hmade, hcomplete⟩ := hes.transfers (commanding_isPoll command answer)
  rw [htaken]
  constructor
  · rintro ⟨hdone, rfl⟩
    exact hcomplete.1 hdone
  · intro htransfers
    -- the answer that was read is the one byte in which the two could differ
    have hsame : commanding command acknowledged = commanding command answer :=
      (htransfers ▸ hmade).eq_of_length rfl
    have hanswer : acknowledged = answer := by simpa [commanding] using hsame
    subst hanswer
    exact ⟨hcomplete.2 htransfers, rfl⟩

/-- A byte that is written to the data port is the configuration that was read just before, with the
mouse's interrupt allowed, or for the mouse. -/
def Operand (early : List BusEvent) (e : BusEvent) : Prop :=
  ∀ byte, e = .write dataPort byte →
    (∃ before read, early = before ++ [.write statusPort readConfigCommand, .read dataPort read,
      .write statusPort writeConfigCommand] ∧ byte = read ||| mouseInterrupt) ∨
    ∃ before, early = before ++ [.write statusPort toMouseCommand]

section
variable {es : List BusEvent} {complete : Bool}

theorem operand_command (early : List BusEvent) (command : UInt8) :
    Operand early (.write statusPort command) := by
  intro byte h
  simp [statusPort, dataPort] at h

theorem operand_configuring {config : UInt8} (h : Exchange (configuring config) complete es)
    (early : List BusEvent) : Preceded Operand early (transfers es) := by
  refine Preceded.front ?_ (h.transfers (configuring_isPoll config)).1
  refine ⟨operand_command _ _, nofun, operand_command _ _, fun byte hbyte => ?_, trivial⟩
  exact .inl ⟨early, config, by simp, by simpa using hbyte.symm⟩

theorem operand_commanding {command answer : UInt8}
    (h : Exchange (commanding command answer) complete es) (early : List BusEvent) :
    Preceded Operand early (transfers es) := by
  refine Preceded.front ?_ (h.transfers (commanding_isPoll command answer)).1
  exact ⟨operand_command _ _, fun _ _ => .inr ⟨early, rfl⟩, nofun, trivial⟩

theorem operand_enable (h : Exchange [.write statusPort enableMouseCommand] complete es)
    (early : List BusEvent) : Preceded Operand early (transfers es) := by
  refine Preceded.front ?_ (h.transfers (by simp [BusEvent.isPoll])).1
  exact ⟨operand_command _ _, trivial⟩

end

namespace Starts
variable {streaming : Bool} {es : List BusEvent}

theorem guarded (h : Starts streaming es) : Preceded Guarded [] es := by
  cases h with
  | refused h => exact h.guarded _
  | tried henable hsetup hdefaults hreporting =>
    obtain ⟨_, _, hdefaults, -⟩ := hdefaults
    obtain ⟨_, _, hreporting, -⟩ := hreporting
    simp only [Preceded.append]
    exact ⟨henable.guarded _, hsetup.guarded _, hdefaults.guarded _, hreporting.guarded _⟩

theorem operand (h : Starts streaming es) : Preceded Operand [] (transfers es) := by
  cases h with
  | refused h => exact operand_enable h _
  | tried henable hsetup hdefaults hreporting =>
    obtain ⟨_, _, hdefaults, -⟩ := hdefaults
    obtain ⟨_, _, hreporting, -⟩ := hreporting
    simp only [transfers_append, Preceded.append]
    exact ⟨operand_enable henable _, operand_configuring hsetup _, operand_commanding hdefaults _,
      operand_commanding hreporting _⟩

theorem inRounds (h : Starts streaming es) : InRounds 11 es := by
  cases h with
  | refused h => exact (h.inRounds (by simp [BusEvent.isPoll])).mono (by simp)
  | tried henable hsetup hdefaults hreporting =>
    obtain ⟨_, _, hdefaults, -⟩ := hdefaults
    obtain ⟨_, _, hreporting, -⟩ := hreporting
    have hcommands := (hdefaults.inRounds (commanding_isPoll _ _)).append
      (hreporting.inRounds (commanding_isPoll _ _))
    exact (henable.inRounds (by simp [BusEvent.isPoll])).append
      ((hsetup.inRounds (configuring_isPoll _)).append hcommands)

end Starts

/-- What bringing up the mouse makes of the controller, whatever the devices answer. -/
structure Handshake (streaming : Bool) (es : List BusEvent) : Prop where
  /-- A write comes directly after a poll that says that the controller takes a byte. -/
  write_free : ∀ front port byte back, es = front ++ .write port byte :: back →
    ∃ before status, front = before ++ [.read statusPort status] ∧ status &&& inputFull = 0
  /-- A read of data comes directly after a poll that says that a byte waits. -/
  read_full : ∀ front byte back, es = front ++ .read dataPort byte :: back →
    ∃ before status, front = before ++ [.read statusPort status] ∧ status &&& outputFull ≠ 0
  inRounds : InRounds 11 es
  /-- A configuration that is written has been read just before; one bit is set in it. -/
  config : ∀ front config back,
    transfers es = front ++ .write statusPort writeConfigCommand :: .write dataPort config :: back →
      ∃ before read, front = before ++ [.write statusPort readConfigCommand, .read dataPort read] ∧
        config = read ||| mouseInterrupt
  /-- Without the mouse's port nothing is written; with it both commands are tried, and the mouse
  streams if they were written and acknowledged. -/
  outcome :
    (Exchange [.write statusPort enableMouseCommand] false es ∧
      (∀ port byte, .write port byte ∉ es) ∧ streaming = false) ∨
    ∃ enable setup defaults reporting, es = enable ++ (setup ++ (defaults ++ reporting)) ∧
      Exchange [.write statusPort enableMouseCommand] true enable ∧
      (∃ config complete, Exchange (configuring config) complete setup) ∧
      (∃ answer complete, Exchange (commanding setDefaults answer) complete defaults) ∧
      (∃ answer complete, Exchange (commanding enableReporting answer) complete reporting) ∧
      (streaming = true ↔ transfers defaults = commanding setDefaults acknowledged ∧
        transfers reporting = commanding enableReporting acknowledged)

theorem Starts.handshake {streaming : Bool} {es : List BusEvent} (h : Starts streaming es) :
    Handshake streaming es where
  write_free := by
    rintro front port byte back rfl
    obtain ⟨before, status, rfl, hallowed⟩ := h.guarded.split rfl
    exact ⟨before, status, rfl, by simpa [BusEvent.allowedBy] using hallowed⟩
  read_full := by
    rintro front byte back rfl
    have hdata : (BusEvent.read dataPort byte).isPoll = false := by
      simp [BusEvent.isPoll, dataPort, statusPort]
    obtain ⟨before, status, rfl, hallowed⟩ := h.guarded.split hdata
    exact ⟨before, status, rfl, by simpa [BusEvent.allowedBy] using hallowed⟩
  inRounds := h.inRounds
  config := by
    intro front config back hsplit
    have hoperand := h.operand
    rw [hsplit, List.append_cons] at hoperand
    -- the byte for the mouse has another command before it
    rcases hoperand.split config rfl with ⟨before, read, hfront, rfl⟩ | ⟨before, hfront⟩
    · have hlast : front ++ [.write statusPort writeConfigCommand] =
          (before ++ [.write statusPort readConfigCommand, .read dataPort read]) ++
            [.write statusPort writeConfigCommand] := by simpa using hfront
      exact ⟨before, read, List.append_cancel_right hlast, rfl⟩
    · simp [writeConfigCommand, toMouseCommand] at hfront
  outcome := by
    cases h with
    | refused h =>
      refine .inl ⟨h, fun port byte hwrite => ?_, rfl⟩
      cases h with
      | stuck h => cases h.isPoll _ hwrite
      | access _ rest => cases rest
    | @tried _ _ _ _ enable setup defaults reporting henable hsetup hdefaults hreporting =>
      refine .inr ⟨enable, setup, defaults, reporting, rfl, henable, ⟨_, _, hsetup⟩, ?_⟩
      have hboth := and_congr hdefaults.taken_iff hreporting.taken_iff
      rw [← Bool.and_eq_true] at hboth
      obtain ⟨answer, complete, hdefaults, -⟩ := hdefaults
      obtain ⟨answer', complete', hreporting, -⟩ := hreporting
      exact ⟨⟨answer, complete, hdefaults⟩, ⟨answer', complete', hreporting⟩, hboth⟩

/-- Whatever the devices behind the ports do, what bringing up the mouse adds to the trace keeps to the
handshake with the controller. -/
theorem startMouse_handshake {δ : Type} (b : Board δ) :
    ∃ added, (startMouse b).2.trace = added ++ b.trace ∧
      Handshake (startMouse b).1 (accesses added) := by
  obtain ⟨added, htrace, hstarts⟩ := yields_startMouse b
  exact ⟨added, htrace, hstarts.handshake⟩

/-- A controller that is always ready and has nothing but acknowledgements. -/
example :
    let devices : PortDevices Unit :=
      { read := fun port _ => (if port = statusPort then outputFull else acknowledged, ())
        write := fun _ _ _ => () }
    let line : LineDriver Unit := { init := fun _ => ([], ()), send := fun _ _ => ([], ()) }
    let run := startMouse { devices, ports := (), line }
    run.1 = true ∧ transfers (accesses run.2.trace) =
      .write statusPort enableMouseCommand :: configuring acknowledged ++
        commanding setDefaults acknowledged ++ commanding enableReporting acknowledged := by
  decide +kernel

end Board

end PointerDesktop
