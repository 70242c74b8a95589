import TestRig.Engine.Store

/-!
An engine kept in memory. It refuses a name or a running port that is taken, answers every listing
from its store, and takes a stop, a kill or a removal of a name it does not know as done.
-/

namespace TestRig.Engine

structure Memory where
  store : Store := .empty
  networkPrunes : Nat := 0
  volumePrunes : Nat := 0
  refuseRuns : Bool := false
  hangStops : Bool := false
  logs : Logs := ⟨"", ""⟩
  /-- Titles of the calls served, newest first. -/
  served : List String := []

namespace Memory

def refusal (c : Call) (diagnostics : String) : Error := .failed c.title (some 125) diagnostics

def launch (m : Memory) (spec : Spec) : Except Error Unit × Memory :=
  if m.refuseRuns then
    (.error (refusal (.run spec) "mock runtime configured to fail"), m)
  else if m.store.contains spec.name then
    (.error (refusal (.run spec) ("container name " ++ spec.name ++ " is already in use")), m)
  else if m.store.publishes spec.hostPort then
    (.error (refusal (.run spec)
      ("port " ++ toString spec.hostPort.toNat ++ " is already allocated")), m)
  else (.ok (), { m with store := m.store.insert ⟨spec.name, spec.hostPort, true⟩ })

def perform (m : Memory) : (c : Call) → Except Error c.Answer × Memory
  | .run spec => m.launch spec
  | .publishing port => (.ok (m.store.namesPublishing port), m)
  | .matching pattern stopped => (.ok (m.store.namesMatching pattern stopped), m)
  | .logs _ => (.ok m.logs, m)
  | .stop name grace =>
    if m.hangStops then (.error (.timeout (Call.stop name grace).title grace), m)
    else (.ok (), { m with store := m.store.halt name })
  | .kill name => (.ok (), { m with store := m.store.halt name })
  | .remove name => (.ok (), { m with store := m.store.erase name })
  | .pruneNetworks => (.ok (), { m with networkPrunes := m.networkPrunes + 1 })
  | .pruneVolumes => (.ok (), { m with volumePrunes := m.volumePrunes + 1 })

/-- Serve a call, or let it fail without effect. -/
def serve (fault : Option Error) (c : Call) (m : Memory) : Except Error c.Answer × Memory :=
  match fault with
  | some e => (.error e, m)
  | none => { m with served := c.title :: m.served }.perform c

def machine : Machine interface Memory := ⟨serve none⟩

def count (m : Memory) (label : String) : Nat :=
  m.served.countP fun title => title.toList.takeWhile (· ≠ ' ') == label.toList

end Memory

inductive Fault
  | failed (status : Option Int) (diagnostics : String)
  | timeout (limit : Duration)
  | spawn (cause : SystemError)
deriving DecidableEq, Repr

def Fault.of (f : Fault) (c : Call) : Error :=
  match f with
  | failed status diagnostics => .failed c.title status diagnostics
  | timeout limit => .timeout c.title limit
  | spawn cause => .spawn c.title cause

end TestRig.Engine
