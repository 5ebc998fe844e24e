import PointerDesktop.Effect

/-! # The board

`Board` is the machine's I/O ports as a program sees them: every read and write goes to the
devices behind the ports and is noted on a trace, between the effects of the program itself. The
serial line has a driver of its own, of which nothing is known but that it keeps to the ports of the
line. -/

namespace PointerDesktop

/-- What the devices behind the ports do. `δ` is their state. -/
structure PortDevices (δ : Type) where
  read : (port : UInt16) → δ → UInt8 × δ
  write : (port : UInt16) → (value : UInt8) → δ → δ

/-- One entry of the trace. -/
inductive BusEvent where
  | read (port : UInt16) (value : UInt8)
  | write (port : UInt16) (value : UInt8)
  /-- Interrupts are switched on or off. -/
  | interrupts (enabled : Bool)
  | effect (effect : Effect)
deriving DecidableEq, Repr

/-- An access to one of the eight ports of the serial line. -/
inductive LineAccess where
  | read (offset : Fin 8) (value : UInt8)
  | write (offset : Fin 8) (value : UInt8)
deriving DecidableEq, Repr

/-- What drives the serial line. Each action answers with the accesses that it has made to the line,
from the first to the last, and with what has become of the devices. -/
structure LineDriver (δ : Type) where
  /-- Programs the line. -/
  init : δ → List LineAccess × δ
  send : (byte : UInt8) → δ → List LineAccess × δ

structure Board (δ : Type) where
  devices : PortDevices δ
  ports : δ
  line : LineDriver δ
  logger : Logger := {}
  /-- What has happened, the latest first. -/
  trace : List BusEvent := []

/-- A program that runs on a board. -/
abbrev BoardM (δ : Type) := StateM (Board δ)

namespace Board

variable {δ : Type}

/-- Adds an entry to the trace. -/
def note (event : BusEvent) : BoardM δ Unit := fun b =>
  ((), { b with trace := event :: b.trace })

def readPort (port : UInt16) : BoardM δ UInt8 := fun b =>
  let (value, ports) := b.devices.read port b.ports
  (value, { b with ports := ports, trace := .read port value :: b.trace })

def writePort (port : UInt16) (value : UInt8) : BoardM δ Unit := fun b =>
  ((), { b with
    ports := b.devices.write port value b.ports
    trace := .write port value :: b.trace })

/-- The first port of the serial line; the others follow it. -/
def serialPort : UInt16 := 0x3F8

/-- An access of the line driver as an entry of the trace. -/
def lineEvent : LineAccess → BusEvent
  | .read offset value => .read (serialPort + .ofNat offset) value
  | .write offset value => .write (serialPort + .ofNat offset) value

/-- Lets the driver of the serial line act. -/
def drive (action : δ → List LineAccess × δ) : BoardM δ Unit := fun b =>
  let (accesses, ports) := action b.ports
  ((), { b with ports := ports, trace := (accesses.map lineEvent).reverse ++ b.trace })

/-- Asks up to `polls` times whether the wait is over, and says whether it ever was. -/
def poll {σ : Type} (ready : StateM σ Bool) : (polls : Nat) → StateM σ Bool
  | 0, s => (false, s)
  | polls + 1, s =>
    match ready s with
    | (true, s) => (true, s)
    | (false, s) => poll ready polls s

/-- Polls before a wait gives up. -/
def waitBudget : Nat := 100000

def waitFor {σ : Type} (ready : StateM σ Bool) : StateM σ Bool := poll ready waitBudget

/-- Runs `action` with interrupts switched off. -/
def withoutInterrupts (action : BoardM δ Unit) : BoardM δ Unit := do
  note (.interrupts false)
  action
  note (.interrupts true)

end Board

namespace BusEvent

/-- The same access to the same port with the same value. -/
def sameAccess : BusEvent → BusEvent → Bool
  | read p v, read p' v' => p == p' && v == v'
  | write p v, write p' v' => p == p' && v == v'
  | _, _ => false

/-- Adds an entry in front of a counted trace. -/
def countCons (event : BusEvent) : List (BusEvent × Nat) → List (BusEvent × Nat)
  | (first, n) :: rest =>
    if event.sameAccess first then (first, n + 1) :: rest else (event, 1) :: (first, n) :: rest
  | [] => [(event, 1)]

/-- The entries of a trace from the earliest on, with equal accesses in a row counted as one. The
trace has its latest entry first. -/
def counted (trace : List BusEvent) : List (BusEvent × Nat) :=
  trace.foldl (fun counts event => countCons event counts) []

end BusEvent

end PointerDesktop
