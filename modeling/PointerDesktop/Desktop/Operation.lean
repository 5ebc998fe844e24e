import PointerDesktop.Desktop.Drain

/-! # Operations as data

`Operation` names everything that a caller can ask of a desktop, so that a run is a list of
operations. -/

namespace PointerDesktop

inductive Operation where
  | create (title : String) (size : Size) (flags : Flags)
  | close (window : WindowId)
  | setPosition (window : WindowId) (x y : UInt32)
  | setSize (window : WindowId) (size : Size)
  | setMinimum (window : WindowId) (size : Size)
  | setTitle (window : WindowId) (title : String)
  | setBackground (window : WindowId) (color : Color)
  | reveal (window : WindowId)
  | hide (window : WindowId)
  | focus (window : WindowId)
  | setSink (window : WindowId) (sink : EventSink)
  | clearSink (window : WindowId) (kind : EventKind)
  | setObserver (observer : Option String)
  | feed (byte : UInt8)
  | drain (source : Nat → Option UInt8)
  | pointTo (position : Point) (buttons : Buttons)
  | pressKey (key : UInt8)
  | paint
  | setScreen (screen : Size)

/-- The answer to an operation. -/
inductive Reply where
  | done
  | created (window : WindowId)
  | drained (counts : Desktop.Drained)
  | failed (error : WindowError)
deriving DecidableEq, Repr

def Reply.ofExcept : Except WindowError Unit → Reply
  | .ok () => .done
  | .error e => .failed e

namespace Desktop

/-- An operation that answers nothing. -/
def silent (t : Traced Desktop) : Outcome Desktop Reply := { t with result := .done }

/-- An operation that may fail. -/
def answered (o : Outcome Desktop (Except WindowError Unit)) : Outcome Desktop Reply :=
  { o with result := .ofExcept o.result }

def apply (d : Desktop) : Operation → Outcome Desktop Reply
  | .create title size flags =>
    let o := d.create title size flags
    { o with
      result :=
        match o.result with
        | .ok id => .created id
        | .error e => .failed e }
  | .close id => answered (d.close id)
  | .setPosition id x y => answered (d.setPosition id x y)
  | .setSize id size => answered (d.setSize id size)
  | .setMinimum id size => answered (d.setMinimum id size)
  | .setTitle id title => answered (d.setTitle id title)
  | .setBackground id color => answered (d.setBackground id color)
  | .reveal id => answered (d.reveal id)
  | .hide id => answered (d.hide id)
  | .focus id => answered (d.focus id)
  | .setSink id sink => answered (d.setSink id sink)
  | .clearSink id kind => answered (d.clearSink id kind)
  | .setObserver observer => silent { state := d.setObserver observer }
  | .feed byte => silent (d.feed byte)
  | .drain source =>
    let o := d.drain source
    { o with result := .drained o.result }
  | .pointTo p buttons => silent (d.pointTo p buttons)
  | .pressKey key => silent (d.pressKey key)
  | .paint => silent d.paint
  | .setScreen screen => silent (d.setScreen screen)

/-- Applies operations from the first to the last. -/
def run (d : Desktop) : List Operation → Traced Desktop
  | [] => { state := d }
  | op :: ops =>
    let first := d.apply op
    let rest := first.state.run ops
    { state := rest.state, effects := first.effects ++ rest.effects }

end Desktop

end PointerDesktop
