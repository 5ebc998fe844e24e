import PointerDesktop.Ports.Serial

/-! # The keyboard and mouse controller

The controller has a data port and a status port; a write to the latter is a command. Every wait
on the status is bounded, so a controller that does not answer costs time and nothing else. -/

namespace PointerDesktop

namespace Board

variable {δ : Type}

def dataPort : UInt16 := 0x60

/-- Status when read, command when written. -/
def statusPort : UInt16 := 0x64

/-- A byte waits in the data port. -/
def outputFull : UInt8 := 0x01

/-- The controller is still busy with the last write. -/
def inputFull : UInt8 := 0x02

/-- The byte in the data port is from the mouse. -/
def fromMouse : UInt8 := 0x20

def readConfigCommand : UInt8 := 0x20
def writeConfigCommand : UInt8 := 0x60
def enableMouseCommand : UInt8 := 0xA8

/-- The next byte is for the mouse. -/
def toMouseCommand : UInt8 := 0xD4

/-- The configuration bit that lets the mouse interrupt. -/
def mouseInterrupt : UInt8 := 0x02

def setDefaults : UInt8 := 0xF6
def enableReporting : UInt8 := 0xF4

/-- The mouse's answer to a command that it took. -/
def acknowledged : UInt8 := 0xFA

def readStatus : BoardM δ UInt8 := readPort statusPort

def hasData : BoardM δ Bool := do return (← readStatus) &&& outputFull != 0

def isMouseData : BoardM δ Bool := do return (← readStatus) &&& fromMouse != 0

def isBusy : BoardM δ Bool := do return (← readStatus) &&& inputFull != 0

/-- Waits until the controller takes a byte. -/
def waitReady : BoardM δ Bool := waitFor do return !(← isBusy)

/-- Waits until the controller has a byte. -/
def waitData : BoardM δ Bool := waitFor hasData

/-- Writes a byte to a port of the controller, unless it stays busy. -/
def writeWhenReady (port : UInt16) (byte : UInt8) : BoardM δ Bool := do
  if ← waitReady then
    writePort port byte
    return true
  else return false

def writeCommand (command : UInt8) : BoardM δ Bool := writeWhenReady statusPort command

def writeData (byte : UInt8) : BoardM δ Bool := writeWhenReady dataPort byte

def readDataNow : BoardM δ UInt8 := readPort dataPort

/-- The next byte of the controller, if one arrives in time. -/
def readData : BoardM δ (Option UInt8) := do
  if ← waitData then return some (← readDataNow) else return none

/-- Writes a command and, if that was taken, its operand. -/
def writeCommandWith (command operand : UInt8) : BoardM δ Bool := do
  if ← writeCommand command then writeData operand else return false

/-- Sends a byte to the mouse. -/
def writeMouse (byte : UInt8) : BoardM δ Bool := writeCommandWith toMouseCommand byte

def readConfig : BoardM δ (Option UInt8) := do
  if ← writeCommand readConfigCommand then readData else return none

def writeConfig (config : UInt8) : BoardM δ Bool := writeCommandWith writeConfigCommand config

/-- The byte that the mouse has put into the data port, if there is one. -/
def readMouseByte : BoardM δ (Option UInt8) := do
  if ← hasData then
    if ← isMouseData then return some (← readDataNow) else return none
  else return none

end Board

end PointerDesktop
