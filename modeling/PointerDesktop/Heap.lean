/-! # Memory

Windows, their pixels and their titles take memory, and a `Heap` says whether it is to be had. What it
answers is not for the desktop to know: each answer may depend on all that has been asked before, and what
else the memory goes to, and what comes back of it, shows in the answers alone. -/

namespace PointerDesktop

/-- What memory is asked for. -/
inductive MemoryRequest where
  /-- One more place beside those of so many windows. -/
  | place (windows : Nat)
  | bytes (count : Nat)
deriving DecidableEq, Repr, Inhabited

structure Heap where
  /-- Whether a request is granted after those in `asked`. -/
  grants : (asked : List MemoryRequest) → (request : MemoryRequest) → Bool
  /-- What has been asked for, the latest first. -/
  asked : List MemoryRequest := []

namespace Heap

/-- Most bytes that one object can have. -/
def longestObject : Nat := 9223372036854775807

def ask (h : Heap) (request : MemoryRequest) : Bool × Heap :=
  (h.grants h.asked request, { h with asked := request :: h.asked })

/-- Asks for room for so many bytes. For none there is always room, and for more than an object can
have there is never any, so nobody is asked then. -/
def reserve (h : Heap) (count : Nat) : Bool × Heap :=
  if count = 0 then (true, h)
  else if longestObject < count then (false, h)
  else h.ask (.bytes count)

/-- A heap that grants each request for up to `limit` bytes. -/
def upTo (limit : Nat) : Heap where
  grants _ request :=
    match request with
    | .place _ => true
    | .bytes count => count ≤ limit

end Heap

end PointerDesktop
