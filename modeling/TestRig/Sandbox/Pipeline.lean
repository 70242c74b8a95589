import TestRig.Port.Lease
import TestRig.Sandbox.Cleanup

/-!
One case from port to exit code: lease a port, start a sandbox on it, run the test against it, clean
up. A port handed down from outside is not leased, and a sandbox found running on it is adopted and
left alone afterwards. An interrupt ends the middle part only; the clean-up always follows.
-/

namespace TestRig.Sandbox

open Host (Routine interruptedExit failureExit)

structure Pipeline where
  settings : Settings
  cleaner : Cleaner
  allocator : Port.Allocator
  channel : Option Port.Number
  owner : UInt32

namespace Pipeline

def exitCode : Except String (Option Int) → Int
  | .ok (some code) => code
  | .ok none => failureExit
  | .error _ => failureExit

def provide (p : Pipeline) (port : Port.Number) (name : String) (owned : Bool) : Routine Bool := do
  if owned then
    match ← start p.settings port name with
    | .ok _ => return true
    | .error _ => return false
  let _ ← adopt p.settings port name
  return true

def execute (p : Pipeline) (i : Invocation) (port : Port.Number) (name : String) (owned : Bool) :
    Routine Int := do
  if ← p.provide port name owned then
    return exitCode (← Host.test i (i.environment port))
  return failureExit

/-- The sandbox to use on the port, and whether it is ours. -/
def choose (p : Pipeline) (port : Port.Number) : Routine (String × Bool) := do
  match p.channel with
  | none => return (← freshName port p.owner, true)
  | some _ =>
    match ← Host.ofEngine (findByPort port) with
    | some name => return (name, false)
    | none => return (← freshName port p.owner, true)

def runOn (p : Pipeline) (i : Invocation) (port : Port.Number) : Routine Int := do
  let (name, owned) ← p.choose port
  let code := (← Host.interruptible (p.execute i port name owned)).getD interruptedExit
  if owned then
    let _ ← Host.ofEngine (p.cleaner.cleanup (.one name))
  return code

def run (p : Pipeline) (i : Invocation) : Routine Int := do
  match p.channel with
  | some port => p.runOn i port
  | none =>
    match ← p.allocator.acquire with
    | .error _ => return failureExit
    | .ok lease =>
      let code ← p.runOn i lease.port
      lease.release
      return code

end Pipeline

end TestRig.Sandbox
