import PointerDesktop.Ports.Serial

/-! # Scripted devices

A script answers the reads of a port from a list of runs. Writes do not change what is read. The driver
of the serial line polls the status of the line before each byte and does not give up before the
scripts do. -/

namespace PointerDesktop

/-- The values that a port yields: each of `runs` so many times, then `last` for ever. -/
structure PortScript where
  port : UInt16
  runs : List (Nat × UInt8)
  last : UInt8
deriving DecidableEq, Repr, Inhabited

namespace PortScript

/-- The next value of some runs, and what is left of them. -/
def nextRun : List (Nat × UInt8) → Option (UInt8 × List (Nat × UInt8))
  | [] => none
  | (0, _) :: rest => nextRun rest
  | (n + 1, value) :: rest => some (value, (n, value) :: rest)

def next (s : PortScript) : UInt8 × PortScript :=
  match nextRun s.runs with
  | none => (s.last, { s with runs := [] })
  | some (value, runs) => (value, { s with runs := runs })

/-- Reads that are answered before the last run. -/
def length (s : PortScript) : Nat := s.runs.foldl (fun reads run => reads + run.1) 0

/-- The port of the line's status, as an offset. -/
def lineStatus : Fin 8 := 5

def lineStatusPort : UInt16 := Board.serialPort + .ofNat lineStatus

/-- The status bit that says that the line takes a byte. -/
def lineFree : UInt8 := 0x20

/-- What a port without a script yields: the serial line is always free, all else is zero. -/
def unscripted (port : UInt16) : UInt8 := if port = lineStatusPort then lineFree else 0

def read (port : UInt16) : List PortScript → UInt8 × List PortScript
  | [] => (unscripted port, [])
  | s :: rest =>
    if s.port = port then
      let (value, s) := s.next
      (value, s :: rest)
    else
      let (value, rest) := read port rest
      (value, s :: rest)

def devices : PortDevices (List PortScript) where
  read := read
  write _ _ scripts := scripts

/-- Scripts under which the serial line always comes free again. -/
def lineComesFree (scripts : List PortScript) : Bool :=
  scripts.all fun s => s.port != lineStatusPort || s.last &&& lineFree != 0

/-- Polls the line, at most so many times, until it is free. -/
def awaitLine : (polls : Nat) → List PortScript → List LineAccess × List PortScript
  | 0, scripts => ([], scripts)
  | polls + 1, scripts =>
    let (status, scripts) := read lineStatusPort scripts
    if status &&& lineFree != 0 then ([.read lineStatus status], scripts)
    else
      let (accesses, scripts) := awaitLine polls scripts
      (.read lineStatus status :: accesses, scripts)

/-- Sends bytes as they are. -/
def sendBytes (polls : Nat) : List UInt8 → List PortScript → List LineAccess × List PortScript
  | [], scripts => ([], scripts)
  | byte :: bytes, scripts =>
    let (waited, scripts) := awaitLine polls scripts
    let (rest, scripts) := sendBytes polls bytes scripts
    (waited ++ .write 0 byte :: rest, scripts)

/-- A driver that sets the line to 38400 baud, eight bits and queues, and that wipes the character
before the cursor when it is to send one of the two erasing characters. -/
def lineDriver (polls : Nat) : LineDriver (List PortScript) where
  init scripts :=
    ([.write 1 0x00, .write 3 0x80, .write 0 0x03, .write 1 0x00, .write 3 0x03, .write 2 0xC7,
      .write 4 0x0B, .write 1 0x01], scripts)
  send byte :=
    sendBytes polls (if byte = 0x08 ∨ byte = 0x7F then [0x08, 0x20, 0x08] else [byte])

/-- A board with scripted devices, whose line is waited for as long as the scripts can keep it
busy. -/
def board (scripts : List PortScript) : Board (List PortScript) where
  devices := devices
  ports := scripts
  line := lineDriver (scripts.foldl (fun reads script => reads + script.length) 1)

end PortScript

end PointerDesktop
