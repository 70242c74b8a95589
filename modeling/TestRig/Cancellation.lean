/-!
A request to cancel, from the one who may make it to those who watch for it. A watcher whose
requester is gone waits for ever, unless the request was made before.
-/

namespace TestRig

structure Cancellation where
  requested : Bool
  /-- Whether somebody is left who can still make or withdraw the request. -/
  attended : Bool := true
deriving DecidableEq, Repr

namespace Cancellation

/-- Make or withdraw the request; refused when nobody is left to do it. -/
def send (c : Cancellation) (value : Bool) : Option Cancellation :=
  if c.attended then some { c with requested := value } else none

def abandon (c : Cancellation) : Cancellation := { c with attended := false }

def releases (c : Cancellation) : Bool := c.requested

end Cancellation

end TestRig
