/-!
# The listener

The listener counts the messages that it sees while it is started.
-/

namespace DeviceStandby

/-- A listener. -/
structure Listener where
  started : Bool := false
  /-- How many messages it has seen. -/
  seen : Nat := 0
deriving DecidableEq, Repr, Inhabited

namespace Listener

/-- Begins to count. -/
def start (listener : Listener) : Listener := { listener with started := true }

/-- Ceases to count. -/
def stop (listener : Listener) : Listener := { listener with started := false }

/-- Forgets the count. -/
def uninit (listener : Listener) : Listener := { listener with seen := 0 }

/-- Sees a message. -/
def hear (listener : Listener) : Listener :=
  if listener.started then { listener with seen := listener.seen + 1 } else listener

end Listener

end DeviceStandby
