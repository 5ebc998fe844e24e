import PointerDesktop.Config
import PointerDesktop.Error
import PointerDesktop.Window.Identity

/-! # The log

Every operation reports what it did by `Notice`s; a `Logger` decides which of them reach a reader
and by which way. -/

namespace PointerDesktop

/-- How serious a notice is, the most serious first. -/
inductive Level where
  | error | warn | info | debug | trace
deriving DecidableEq, Repr, Inhabited

namespace Level

def rank : Level → Nat
  | .error => 0
  | .warn => 1
  | .info => 2
  | .debug => 3
  | .trace => 4

def label : Level → String
  | .error => "ERROR"
  | .warn => "WARN"
  | .info => "INFO"
  | .debug => "DEBUG"
  | .trace => "TRACE"

end Level

/-- Something worth a line in the log. -/
inductive Notice where
  | desktopStarted (config : Config)
  | emptyScreen (size : Size)
  | emptyBounds (size : Size)
  | malformedByte (byte : UInt8)
  | pointerPortBusy (bytes : Nat)
  | created (window : WindowId) (title : String) (size : Size)
  | creationStarved (title : String) (size : Size)
  | creationRejected (title : String) (error : WindowError)
  | idsExhausted
  | closed (window : WindowId)
  | unknownWindow (window : WindowId)
  | unfocusableWindow (window : WindowId)
  | sizeRejected (window : WindowId) (size : Size)
  | resizeFailed (window : WindowId) (size : Size) (error : WindowError)
  | gestureDropped (window : WindowId)
  | consoleReady
  | mouseStarting
  | auxiliaryPortBusy
  | controllerConfigUnread
  | controllerConfigUnwritten
  | unacknowledged (command : String)
  | mouseStreaming
  | pointerUnresponsive
  /-- A line of the caller's own. -/
  | remark (level : Level) (text : String)
deriving DecidableEq, Repr

namespace Notice

def level : Notice → Level
  | desktopStarted _ | consoleReady | mouseStarting | mouseStreaming => .info
  | pointerPortBusy _ | creationStarved .. | resizeFailed .. | auxiliaryPortBusy
  | controllerConfigUnread | controllerConfigUnwritten | unacknowledged _
  | pointerUnresponsive => .warn
  | malformedByte _ => .trace
  | remark level _ => level
  | emptyScreen _ | emptyBounds _ | created .. | creationRejected .. | idsExhausted | closed _
  | unknownWindow _ | unfocusableWindow _ | sizeRejected .. | gestureDropped _ => .debug

/-- A byte as two hexadecimal digits. -/
def hexByte (byte : UInt8) : String :=
  String.ofList [Nat.digitChar (byte.toNat / 16), Nat.digitChar (byte.toNat % 16)]

def sizeText (s : Size) : String := toString s.width ++ "x" ++ toString s.height

def text : Notice → String
  | desktopStarted c =>
    "wm: desktop " ++ sizeText c.screen ++ " (titlebar " ++ toString c.titlebarHeight ++
      ", border " ++ toString c.resizeBorder ++ ", click threshold " ++
      toString c.clickThreshold ++ ")"
  | emptyScreen size => "wm: ignoring empty screen size " ++ sizeText size
  | emptyBounds size => "cursor: ignoring empty bounds " ++ sizeText size
  | malformedByte byte =>
    "ps2 mouse: " ++ WindowError.malformedPacket.message ++ " (byte 0x" ++ hexByte byte ++
      "), resyncing"
  | pointerPortBusy bytes =>
    "wm: pointer port still busy after " ++ toString bytes ++ " bytes, resyncing"
  | created window title size =>
    "wm: created window " ++ window.label ++ " '" ++ title ++ "' " ++ sizeText size
  | creationStarved title size =>
    "wm: out of memory creating '" ++ title ++ "' " ++ sizeText size
  | creationRejected title error => "wm: create '" ++ title ++ "' rejected: " ++ error.message
  | idsExhausted => "wm: window ids exhausted"
  | closed window => "wm: closed window " ++ window.label
  | unknownWindow window => "wm: unknown window " ++ window.label
  | unfocusableWindow window => "wm: cannot focus unknown window " ++ window.label
  | sizeRejected window size =>
    "wm: rejecting size " ++ sizeText size ++ " for window " ++ window.label
  | resizeFailed window size error =>
    "wm: resize of window " ++ window.label ++ " to " ++ sizeText size ++ " failed: " ++
      error.message
  | gestureDropped window => "wm: dropping interaction on window " ++ window.label
  | consoleReady => "wm: serial console ready"
  | mouseStarting => "PS/2 mouse: initialising device"
  | auxiliaryPortBusy => "PS/2 mouse: controller busy, aux port not enabled"
  | controllerConfigUnread => "PS/2 mouse: controller config read timed out"
  | controllerConfigUnwritten => "PS/2 mouse: failed to write controller config"
  | unacknowledged command => "PS/2 mouse: no ACK for " ++ command
  | mouseStreaming => "PS/2 mouse: streaming enabled"
  | pointerUnresponsive => "wm: continuing without a responsive pointer device"
  | remark _ text => text

/-- The notice as a line of a console. -/
def line (n : Notice) : String := "[" ++ n.level.label ++ "] " ++ n.text ++ "\n"

end Notice

/-- Where log lines go. -/
inductive LogBackend where
  /-- Kept in the memory of a reader with the given name. -/
  | reader (name : String)
  /-- Written to the serial console. -/
  | console
deriving DecidableEq, Repr, Inhabited

/-- Lines that are less serious than `level` are dropped, and all of them while there is no
backend. -/
structure Logger where
  level : Level := .info
  backend : Option LogBackend := none
deriving DecidableEq, Repr, Inhabited

namespace Logger

def enables (l : Logger) (level : Level) : Bool := level.rank ≤ l.level.rank

/-- Where a notice goes, unless it is dropped. -/
def route (l : Logger) (n : Notice) : Option LogBackend :=
  if l.enables n.level then l.backend else none

end Logger

end PointerDesktop
