import TestRig.Host

/-!
Leasing a port. A candidate is taken only if a listener can be opened on it, no container publishes
it, and its lock is won; the containers are asked once more under the lock, because a sandbox opens
its port some time after it was leased. A candidate turned down under the lock gives the lock back.
-/

namespace TestRig.Port

open Host (Routine)

structure Lease where
  port : Number
  since : Nat
deriving DecidableEq, Repr

inductive LeaseError
  | exhausted (attempts : Nat)
  | lock (key : String) (cause : SystemError)
deriving DecidableEq, Repr

def LeaseError.message : LeaseError → String
  | exhausted attempts =>
    "failed to find available port after " ++ toString attempts ++ " attempts"
  | lock key cause => "port lock error for " ++ key ++ ": " ++ cause.message

def lockKey (port : Number) : String := "port_lock_" ++ Text.Decimal.text port.toNat

abbrev Registry := Number → Routine (Except Engine.Error Bool)

namespace Registry

def empty : Registry := fun _ => pure (.ok false)

def engine : Registry := fun port => do
  match ← Host.engine (.publishing port) with
  | .ok names => pure (.ok !names.isEmpty)
  | .error e => pure (.error e)

/-- A look-up that fails counts as not published. -/
def publishes (r : Registry) (port : Number) : Routine Bool := do
  match ← r port with
  | .ok answer => pure answer
  | .error _ => pure false

end Registry

structure Allocator where
  range : Range
  registry : Registry
  pid : UInt32
  attempts : Nat := 200

namespace Allocator

def fewestAttempts : Nat := 100

def withAttempts (a : Allocator) (n : Nat) : Allocator :=
  { a with attempts := max n fewestAttempts }

/-- Whether this candidate could be taken; if so its lock is held. -/
def take (a : Allocator) (port : Number) : Routine (Except LeaseError Bool) := do
  if !(← Host.bindable port) then return .ok false
  if ← a.registry.publishes port then return .ok false
  match ← Host.lock (lockKey port) with
  | .error cause => return .error (.lock (lockKey port) cause)
  | .ok false => return .ok false
  | .ok true =>
    if ← a.registry.publishes port then
      Host.unlock (lockKey port)
      return .ok false
    return .ok true

def offset (a : Allocator) : Routine UInt16 := do
  return .ofNat (← Host.draw a.range.jitter.toNat)

def search (a : Allocator) : (left : Nat) → (port : Number) → Routine (Except LeaseError Lease)
  | 0, _ => pure (.error (.exhausted a.attempts))
  | left + 1, port => do
    match ← a.take port with
    | .error e => return .error e
    | .ok true => return .ok ⟨port, ← Host.clock⟩
    | .ok false => a.search left (a.range.next port (← a.offset))

def acquire (a : Allocator) : Routine (Except LeaseError Lease) := do
  let millis ← Host.clock
  let offset ← a.offset
  a.search a.attempts (a.range.seed a.pid millis offset)

end Allocator

def Lease.release (l : Lease) : Routine Unit := Host.unlock (lockKey l.port)

end TestRig.Port
