import TestRig.Sandbox.Cleanup
import TestRig.Suite.Discovery
import TestRig.Suite.Pool

/-!
A suite run: find the cases, run the pre-flight case alone and the others only if it passed, sum up,
clean up. Nothing is reclaimed before a worker was started; after that every way out goes through
one clean-up of the whole run.
-/

namespace TestRig

namespace Suite

open Host (Routine interruptedExit)

inductive SuiteError
  | discovery (e : DiscoveryError)
  | preflight (case exitCode : String)
deriving DecidableEq, Repr

def SuiteError.message : SuiteError → String
  | discovery e => e.message
  | preflight case exitCode =>
    "Pre-flight case " ++ case ++ " failed (exit code: " ++ exitCode ++ ")"

structure Settings where
  limit : Nat
  preflight : Option Case := none
  summaryFile : Option String := none
  pool : Pool.Settings := {}
  cleaner : Sandbox.Cleaner

namespace Settings

/-- Only a shared runner reads the summary file. -/
def summaryPath (s : Settings) : Option String :=
  match s.cleaner.environment with
  | .sharedRunner => s.summaryFile
  | .developer => none

end Settings

def reclaim (s : Settings) : Routine Unit := do
  let _ ← Host.ofEngine (s.cleaner.cleanup .run)
  return ()

/-- How the pre-flight case decides the run, if it does. -/
def preflightVerdict (c : Case) (r : Pool.Report) : Option (Except SuiteError Int) :=
  if r.interrupted then some (.ok interruptedExit)
  else match r.results with
    | [] => some (.error (.preflight c.name "none"))
    | result :: _ =>
      if result.passed then none else some (.error (.preflight c.name result.codeText))

def exitCode (r : Pool.Report) : Int :=
  if r.interrupted then interruptedExit else if r.summary.allPassed then 0 else 1

/-- Print the summary, and write it where the runner looks for it; a failed write changes nothing. -/
def publish (s : Settings) (target : String) (summary : Summary) : Routine Unit := do
  summary.announce s.pool.styled
  match s.summaryPath with
  | none => return ()
  | some path =>
    let _ ← writeSummary path target summary
    return ()

def fanOut (s : Settings) (target : String) (cases : List Case) : Routine Int := do
  let report ← Pool.runAll s.pool cases s.limit
  publish s target report.summary
  reclaim s
  return exitCode report

def runCases (s : Settings) (target : String) (cases : List Case) :
    Routine (Except SuiteError Int) := do
  match s.preflight with
  | none => return .ok (← fanOut s target cases)
  | some first =>
    let report ← Pool.runAll s.pool [first] 1
    match preflightVerdict first report with
    | some verdict =>
      reclaim s
      return verdict
    | none => return .ok (← fanOut s target (cases.filter (· ≠ first)))

def run (s : Settings) (i : Invocation) : Routine (Except SuiteError Int) := do
  match ← Host.interruptible (discover i i.filter) with
  | none => return .ok interruptedExit
  | some (.ok cases) => runCases s i.target cases
  | some (.error e) =>
    if ← Host.cancelRequested then return .ok interruptedExit
    return .error (.discovery e)

end Suite

end TestRig
