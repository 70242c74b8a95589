import TestRig.Sandbox.Lifecycle

/-!
Reclaiming sandboxes. On a shared runner only the sandboxes of one owner are removed and nothing is
pruned; on a developer's machine every sandbox goes, and unused networks and volumes with it. Each
step runs whatever became of the one before, and each failure ends up in the report.
-/

namespace TestRig.Sandbox

open Engine (Routine)

inductive Environment
  | sharedRunner
  | developer
deriving DecidableEq, Repr

/-- A shared runner says so with a flag, in any letter case. -/
def Environment.detect (flag : Option String) : Environment :=
  match flag with
  | some text =>
    if text.toList.map Char.toLower = ['t', 'r', 'u', 'e'] then .sharedRunner else .developer
  | none => .developer

inductive Scope
  | one (name : String)
  | run
deriving DecidableEq, Repr

structure CleanupReport where
  removed : List String := []
  errors : List String := []
  pruned : Bool := false
deriving DecidableEq, Repr

def CleanupReport.isClean (r : CleanupReport) : Bool := r.errors.isEmpty

structure Cleaner where
  environment : Environment
  owner : UInt32
  grace : Duration
deriving DecidableEq, Repr

namespace Cleaner

/-- The listed sandboxes that this cleaner may remove. -/
def mayRemove (c : Cleaner) (names : List String) : List String :=
  match c.environment with
  | .developer => names
  | .sharedRunner => names.filter (Name.ownedBy c.owner)

/-- What a scope comes to, and the failures met in finding out. -/
def targets (c : Cleaner) : Scope → Routine (List String × List String)
  | .one name => pure ([name], [])
  | .run => do
    match ← Engine.call (.matching ("^" ++ nameStart) true) with
    | .ok names => return (c.mayRemove names, [])
    | .error e => return ([], [e.message])

def noteStop (r : CleanupReport) (name : String) (s : StopReport) : CleanupReport :=
  { r with
    removed := if s.outcome = .absent then r.removed else r.removed ++ [name]
    errors := r.errors ++ s.errors.map Engine.Error.message }

def removeAll (c : Cleaner) : (names : List String) → CleanupReport → Routine CleanupReport
  | [], r => pure r
  | name :: rest, r => do
    c.removeAll rest (noteStop r name (← stop c.grace name))

def prune (r : CleanupReport) : Routine CleanupReport := do
  let networks ← Engine.call .pruneNetworks
  let volumes ← Engine.call .pruneVolumes
  let errors := failures networks ++ failures volumes
  return { r with
    errors := r.errors ++ errors.map Engine.Error.message
    pruned := errors.isEmpty }

def cleanup (c : Cleaner) (scope : Scope) : Routine CleanupReport := do
  let (names, errors) ← c.targets scope
  let report ← c.removeAll names ⟨[], errors, false⟩
  match c.environment with
  | .developer => prune report
  | .sharedRunner => return report

end Cleaner

end TestRig.Sandbox
