import PointerDesktop.Ports.Board

/-! # The serial console

Text goes to the serial line byte by byte, with a carriage return before each line feed. -/

namespace PointerDesktop

namespace Board

variable {δ : Type}

def sendByte (byte : UInt8) : BoardM δ Unit := do drive ((← get).line.send byte)

/-- What is sent for one byte of text. -/
def wireBytes (byte : UInt8) : List UInt8 := if byte = 0x0A then [0x0D, byte] else [byte]

/-- Sends a text in UTF-8. -/
def sendText (text : String) : BoardM δ Unit :=
  (text.toUTF8.toList.flatMap wireBytes).forM sendByte

/-- Writes a text to the console. -/
def printText (text : String) : BoardM δ Unit := withoutInterrupts (sendText text)

/-- Sends a notice the way the logger says. -/
def log (notice : Notice) : BoardM δ Unit := do
  match (← get).logger.route notice with
  | none => pure ()
  | some (.reader _) => note (.effect (.log notice))
  | some .console => printText notice.line

/-- Lets the effects of an operation happen, from the first to the last. -/
def perform (effects : List Effect) : BoardM δ Unit :=
  effects.forM fun
    | .log notice => log notice
    | effect => note (.effect effect)

/-- Programs the serial line and sends the log there. -/
def startConsole : BoardM δ Unit := do
  drive (← get).line.init
  modify fun b => { b with logger := { b.logger with backend := some .console } }

end Board

end PointerDesktop
