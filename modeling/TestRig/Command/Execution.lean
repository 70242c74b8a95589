import TestRig.Command.Arguments
import TestRig.Command.Failure
import TestRig.Sandbox.Pipeline
import TestRig.Suite.Launcher

/-!
The commands at work. A test that names one exact case runs it here; any other runs a suite of
workers. A worker runs one case. A clean-up reclaims one sandbox or all that may be reclaimed, and
says what it did.
-/

namespace TestRig.Command

open Host (Routine)

namespace TestOptions

def invocation (config : Config) (o : TestOptions) : Invocation where
  package := o.package.getD config.package
  target := o.target
  name := o.name
  allFeatures := !o.someFeatures
  extra := o.extra

/-- The case that has to pass first, from the arguments or else from the settings. -/
def firstCase (config : Config) (o : TestOptions) : Except Cause (Option Case) :=
  match o.preflight.or config.preflight with
  | none => .ok none
  | some text =>
    match Case.ofQualified? text with
    | some c => .ok (some c)
    | none => .error (.invalidPreflight text)

def suite (config : Config) (styled : Bool) (o : TestOptions) (preflight : Option Case) :
    Suite.Settings where
  limit := max (o.jobs.getD config.maxConcurrency) 1
  preflight := preflight
  summaryFile := config.stepSummary
  pool := { styled }
  cleaner := config.cleaner

end TestOptions

namespace WorkerOptions

def invocation (config : Config) (o : WorkerOptions) : Except Cause Invocation :=
  match o.case.or config.workerCase with
  | none => .error .missingCase
  | some name => .ok
    { package := o.package.getD config.package
      target := o.target
      name := some name
      allFeatures := !o.someFeatures
      extra := o.extra }

end WorkerOptions

def Config.pipeline (config : Config) (pid : UInt32) : Sandbox.Pipeline where
  settings := config.sandbox
  cleaner := config.cleaner
  allocator := { range := .standard, registry := .engine, pid }
  channel := config.channel
  owner := config.owner

structure Process where
  config : Config
  pid : UInt32
  styled : Bool
deriving Repr

namespace Process

def test (p : Process) (o : TestOptions) : Routine (Except Cause Int) := do
  let i := o.invocation p.config
  if !i.needsDiscovery then return .ok (← (p.config.pipeline p.pid).run i)
  match o.firstCase p.config with
  | .error cause => return .error cause
  | .ok preflight =>
    match ← Suite.run (o.suite p.config p.styled preflight) i with
    | .ok code => return .ok code
    | .error e => return .error (.suite e)

def worker (p : Process) (o : WorkerOptions) : Routine (Except Cause Int) := do
  match o.invocation p.config with
  | .error cause => return .error cause
  | .ok i => return .ok (← (p.config.pipeline p.pid).run i)

def sayEach (channel : Host.Channel) (label : String) : List String → Routine Unit
  | [] => pure ()
  | line :: rest => do
    Host.say channel (label ++ " " ++ line ++ "\n")
    sayEach channel label rest

def announce (p : Process) (r : Sandbox.CleanupReport) : Routine Unit := do
  if r.removed.isEmpty then
    Host.say .out (Text.Style.faint.apply p.styled "No sandboxes to remove." ++ "\n")
  sayEach .out (Text.Style.green.strong.apply p.styled "Removed:") r.removed
  sayEach .err (Text.Style.yellow.strong.apply p.styled "Warning:") r.errors

def cleanup (p : Process) (name : Option String) : Routine Int := do
  let scope := match name with
    | some name => Sandbox.Scope.one name
    | none => .run
  let report ← Host.ofEngine (p.config.cleaner.cleanup scope)
  p.announce report
  return if report.isClean then 0 else 1

def execute (p : Process) : Arguments → Routine (Except Cause Int)
  | .test o => p.test o
  | .worker o => p.worker o
  | .cleanup name => do return .ok (← p.cleanup name)

def perform (p : Process) (a : Arguments) : Routine Int := do
  match ← p.execute a with
  | .ok code => return code
  | .error cause =>
    Failure.report p.styled { cause }
    return Host.failureExit

end Process

def versionText : String := "simrig 0.1.0\n"

def refuse (e : UsageError) : Routine Int := do
  if e = .version then Host.say .out versionText
  return e.exitCode

/-- A variable that forces styles on, whatever the output goes to. -/
def forcesStyles (lookup : Lookup) : Bool :=
  match lookup "CLICOLOR_FORCE" with
  | some value => value != "0"
  | none => false

def run (around : Surroundings) (lookup : Lookup) (args : List String) : Routine Int := do
  let styled := forcesStyles lookup
  match Arguments.read args with
  | .error e => refuse e
  | .ok a =>
    match Config.ofLookup around lookup with
    | .error e =>
      Failure.report styled { cause := .config e }
      return Host.failureExit
    | .ok config => (Process.mk config around.pid styled).perform a

end TestRig.Command
