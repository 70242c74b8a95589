import TestRig.Host
import TestRig.Sandbox.Name

/-!
One sandbox from launch to removal. A launch is tried once. A sandbox that never answers shows its
logs and is stopped again. A stop asks whether the container is there, tries the graceful way,
kills what does not stop, and removes it in any case.
-/

namespace TestRig.Sandbox

open Host (Routine Health Channel)

structure Settings where
  image : String := "multiversx/chainsimulator"
  containerPort : Port.Number := 8085
  memoryLimit : String := "2g"
  probeInterval : Duration := .ofSecs 1
  readyAttempts : Nat := 30
  reuseAttempts : Nat := 5
  stopGrace : Duration := .ofSecs 10
deriving DecidableEq, Repr

def Settings.spec (s : Settings) (port : Port.Number) (name : String) : Engine.Spec where
  name := name
  image := s.image
  hostPort := port
  containerPort := s.containerPort
  memoryLimit := s.memoryLimit

inductive Readiness
  | ready
  | failed
deriving DecidableEq, Repr

structure Instance where
  name : String
  port : Port.Number
  readiness : Readiness
  /-- Somebody else started it, so it is not ours to remove. -/
  reused : Bool
deriving DecidableEq, Repr

inductive StartError
  | launch (name : String) (cause : Engine.Error)
  | notReady (name : String) (probes : Nat)
deriving DecidableEq, Repr

def StartError.message : StartError → String
  | launch name cause => "failed to start sandbox " ++ name ++ ": " ++ cause.message
  | notReady name probes =>
    "sandbox " ++ name ++ " not ready after " ++ toString probes ++ " probes"

inductive StopOutcome
  /-- The engine does not know the container, or could not be asked. -/
  | absent
  | stopped
  | killed
deriving DecidableEq, Repr

structure StopReport where
  outcome : StopOutcome
  errors : List Engine.Error
deriving DecidableEq, Repr

def exactly (name : String) : String := "^" ++ name ++ "$"

def failures {α : Type} : Except Engine.Error α → List Engine.Error
  | .ok _ => []
  | .error e => [e]

def stopKnown (grace : Duration) (name : String) : Engine.Routine StopReport := do
  match ← Engine.call (.stop name grace) with
  | .ok () =>
    let removal ← Engine.call (.remove name)
    return ⟨.stopped, failures removal⟩
  | .error e =>
    let death ← Engine.call (.kill name)
    let removal ← Engine.call (.remove name)
    return ⟨.killed, e :: failures death ++ failures removal⟩

/-- Stop and remove a sandbox; a second stop finds nothing to do. -/
def stop (grace : Duration) (name : String) : Engine.Routine StopReport := do
  match ← Engine.call (.matching (exactly name) true) with
  | .error e => return ⟨.absent, [e]⟩
  | .ok names => if names.contains name then stopKnown grace name else return ⟨.absent, []⟩

def findByPort (port : Port.Number) : Engine.Routine (Option String) := do
  match ← Engine.call (.publishing port) with
  | .ok names => return names.head?
  | .error _ => return none

def showLog (text : String) : Routine Unit :=
  if text.isEmpty then pure () else Host.say .err (text ++ "\n")

def showLogs (name : String) : Routine Unit := do
  match ← Host.engine (.logs name) with
  | .ok (logs : Engine.Logs) => showLog logs.out; showLog logs.err
  | .error _ => pure ()

/-- Probe until the sandbox answers, pausing between two probes. -/
def probeUntil (interval : Duration) (port : Port.Number) : (left : Nat) → Routine Bool
  | 0 => pure false
  | left + 1 => do
    if (← Host.probe port) = .healthy then return true
    if left = 0 then return false
    Host.pause interval
    probeUntil interval port left

def waitReady (s : Settings) (port : Port.Number) (name : String) (attempts : Nat) :
    Routine Bool := do
  if ← probeUntil s.probeInterval port attempts then return true
  showLogs name
  return false

def start (s : Settings) (port : Port.Number) (name : String) :
    Routine (Except StartError Instance) := do
  match ← Host.engine (.run (s.spec port name)) with
  | .error cause => return .error (.launch name cause)
  | .ok () =>
    if ← waitReady s port name s.readyAttempts then
      return .ok ⟨name, port, .ready, false⟩
    let _ ← Host.ofEngine (stop s.stopGrace name)
    return .error (.notReady name s.readyAttempts)

/-- Take over a running sandbox, ready or not. -/
def adopt (s : Settings) (port : Port.Number) (name : String) : Routine Instance := do
  let ready ← waitReady s port name s.reuseAttempts
  return ⟨name, port, if ready then .ready else .failed, true⟩

def freshName (port : Port.Number) (owner : UInt32) : Routine String := do
  let millis ← Host.clock
  let random ← Host.draw 9000
  let name : Name := ⟨port, owner, .ofNat (millis / 1000), .ofNat (1000 + random)⟩
  return name.text

end TestRig.Sandbox
