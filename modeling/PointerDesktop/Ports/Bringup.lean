import PointerDesktop.Desktop.Drain
import PointerDesktop.Ports.Controller

/-! # Bringing up the pointing device -/

namespace PointerDesktop

namespace Board

variable {δ : Type}

/-- Sends a command to the mouse and says whether it was acknowledged. -/
def commandMouse (command : UInt8) (name : String) : BoardM δ Bool := do
  let answer ← if ← writeMouse command then readData else pure none
  if answer = some acknowledged then return true
  else
    log (.unacknowledged name)
    return false

/-- Lets the mouse interrupt and leaves the rest of the controller's configuration alone. -/
def enableMouseInterrupt : BoardM δ Unit := do
  match ← readConfig with
  | none => log .controllerConfigUnread
  | some config =>
    if !(← writeConfig (config ||| mouseInterrupt)) then log .controllerConfigUnwritten

/-- Starts the mouse. A missing or silent device is reported, and the answer is then `false`. -/
def startMouse : BoardM δ Bool := do
  log .mouseStarting
  if ← writeCommand enableMouseCommand then
    enableMouseInterrupt
    let defaults ← commandMouse setDefaults "set defaults"
    let reporting ← commandMouse enableReporting "enable reporting"
    if defaults && reporting then
      log .mouseStreaming
      return true
    else return false
  else
    log .auxiliaryPortBusy
    return false

/-- Starts the console, then the mouse. -/
def start : BoardM δ Bool := do
  startConsole
  log .consoleReady
  let streaming ← startMouse
  if !streaming then log .pointerUnresponsive
  return streaming

/-- Feeds a desktop the bytes that the mouse has ready, as far as the drain budget goes. -/
def drainMouse (d : Desktop) : BoardM δ (Nat × Desktop) := fun b =>
  let absorb := fun effects b => (perform effects b).2
  let (taken, d, b) := d.drainFrom readMouseByte absorb Desktop.drainBudget 0 b
  ((taken, d), b)

end Board

end PointerDesktop
