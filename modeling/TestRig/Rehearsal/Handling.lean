import TestRig.Rehearsal.Stage
import TestRig.Sandbox.Cleanup
import TestRig.Port.Lease

/-!
Sandboxes handled step by step: each step gives its answer and an account of what it did to the
engine, the clock and the terminal.
-/

namespace TestRig.Rehearsal

open Host (Health)

structure Handling where
  settings : Sandbox.Settings
  cleaner : Sandbox.Cleaner
  stage : Stage

namespace Handling

inductive Step
  | start (port : Port.Number) (name : String)
  | adopt (port : Port.Number) (name : String)
  | waitReady (port : Port.Number) (name : String) (attempts : Nat)
  | find (port : Port.Number)
  | stop (name : String)
  | cleanup (scope : Sandbox.Scope)
  | insert (container : Engine.Container)
  | fault (label : String) (fault : Option Engine.Fault)
  | call (c : Engine.Call)
  | isPublished (port : Port.Number)
  | count (label : String)
  | served
  | probe (port : Port.Number)
deriving DecidableEq, Repr

inductive Reply
  | started (result : Except Sandbox.StartError Sandbox.Instance)
  | flag (value : Bool)
  | found (name : Option String)
  | stopped (report : Sandbox.StopReport)
  | cleaned (report : Sandbox.CleanupReport)
  | done
  | answered (c : Engine.Call) (result : Except Engine.Error c.Answer)
  | published (result : Except Engine.Error Bool)
  | count (n : Nat)
  | titles (all : List String)
  | health (h : Health)

/-- What one step answered and did. -/
structure Account where
  reply : Reply
  calls : List Engine.Call
  containers : List String
  networkPrunes : Nat
  volumePrunes : Nat
  probes : Nat
  slept : Duration
  err : String

def ask {α : Type} (s : Handling) (p : Host.Routine α) (wrap : α → Reply) : Reply × Stage :=
  let (a, stage) := s.stage.run p
  (wrap a, stage)

def withEngine (s : Stage) (f : Engine.Memory → Engine.Memory) : Stage :=
  { s with engine := f s.engine }

def setFault (s : Stage) (label : String) (fault : Option Engine.Fault) : Stage :=
  { s with faults := (fault.map (label, ·)).toList ++ s.faults.filter (·.1 ≠ label) }

def reply (s : Handling) : Step → Reply × Stage
  | .start port name => s.ask (Sandbox.start s.settings port name) .started
  | .adopt port name => s.ask (Sandbox.adopt s.settings port name) fun i => .started (.ok i)
  | .waitReady port name attempts =>
    s.ask (Sandbox.waitReady s.settings port name attempts) .flag
  | .find port => s.ask (Host.ofEngine (Sandbox.findByPort port)) .found
  | .stop name => s.ask (Host.ofEngine (Sandbox.stop s.settings.stopGrace name)) .stopped
  | .cleanup scope => s.ask (Host.ofEngine (s.cleaner.cleanup scope)) .cleaned
  | .insert c => (.done, withEngine s.stage fun m => { m with store := m.store.insert c })
  | .fault label fault => (.done, setFault s.stage label fault)
  | .call c => s.ask (Host.engine c) (.answered c)
  | .isPublished port => s.ask (Port.Registry.engine port) .published
  | .count label => (.count (s.stage.engine.count label), s.stage)
  | .served => (.titles s.stage.engine.served.reverse, s.stage)
  | .probe port => s.ask (Host.probe port) .health

def perform (s : Handling) (step : Step) : Account × Handling :=
  let fresh := { s.stage with calls := [], slept := .zero, err := "" }
  let (reply, stage) := { s with stage := fresh }.reply step
  ({ reply
     calls := stage.calls.reverse
     containers := stage.engine.store.names
     networkPrunes := stage.engine.networkPrunes
     volumePrunes := stage.engine.volumePrunes
     probes := stage.prober.asked.length - s.stage.prober.asked.length
     slept := stage.slept
     err := stage.err },
   { s with stage })

def performAll (s : Handling) : List Step → List Account
  | [] => []
  | step :: rest =>
    let (account, s) := s.perform step
    account :: s.performAll rest

end Handling

end TestRig.Rehearsal
