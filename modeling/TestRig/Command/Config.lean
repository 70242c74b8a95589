import TestRig.Command.Grammar
import TestRig.Sandbox.Cleanup
import TestRig.Text.Blank

/-!
Settings of a run, read once from the environment. A variable that holds only blanks counts as
absent, but for the two flags that are compared as they stand.
-/

namespace TestRig.Command

abbrev Lookup := String → Option String

/-- What a process is given besides its variables. -/
structure Surroundings where
  directory : String
  temporary : String
  pid : UInt32
deriving Repr

structure Config where
  maxConcurrency : Nat
  package : String
  workspaceRoot : String
  environment : Sandbox.Environment
  stepSummary : Option String
  /-- A port handed down to this process. -/
  channel : Option Port.Number
  owner : UInt32
  workerCase : Option String
  image : String
  memoryLimit : String
  lockDir : String
  preflight : Option String
  logJson : Bool
deriving DecidableEq, Repr

inductive ConfigError
  | concurrency (raw : String) (fault : Text.Decimal.Fault)
  | channel (raw : String) (fault : Text.Decimal.Fault)
deriving DecidableEq, Repr

namespace ConfigError

def fault : ConfigError → Text.Decimal.Fault
  | concurrency _ fault => fault
  | channel _ fault => fault

def summary : ConfigError → String
  | concurrency raw _ =>
    Variable.maxConcurrency ++ " must be a number, got " ++ Text.Quoted.value raw
  | channel raw _ =>
    Variable.port ++ " must be a port number, got " ++ Text.Quoted.value raw

def message (e : ConfigError) : String := e.summary ++ ": " ++ e.fault.message

end ConfigError

namespace Config

def largestPid : Nat := 4294967295

def standardConcurrency : Nat := 4

def standardPackage : String := "rust-interact"

def filled (lookup : Lookup) (key : String) : Option String :=
  (lookup key).filter fun raw => !Text.allBlank raw.toList

def number (bound : Nat) (raw : String) : Except Text.Decimal.Fault Nat :=
  Text.Decimal.read bound (Text.trim raw.toList)

def readConcurrency (lookup : Lookup) : Except ConfigError Nat :=
  match filled lookup Variable.maxConcurrency with
  | none => .ok standardConcurrency
  | some raw =>
    match number Key.largestCount raw with
    | .ok n => .ok (max n 1)
    | .error fault => .error (.concurrency raw fault)

def readChannel (lookup : Lookup) : Except ConfigError (Option Port.Number) :=
  match filled lookup Variable.port with
  | none => .ok none
  | some raw =>
    match number Port.highestAllowed raw with
    | .ok n => .ok (some (.ofNat n))
    | .error fault => .error (.channel raw fault)

/-- The owner named by the variable; a bad name falls back to the process itself. -/
def readOwner (lookup : Lookup) (pid : UInt32) : UInt32 :=
  match (filled lookup Variable.ownerPid).bind fun raw => (number largestPid raw).toOption with
  | some n => .ofNat n
  | none => pid

def isOn (flag : Option String) : Bool := flag == some "1" || flag == some "true"

def ofLookup (around : Surroundings) (lookup : Lookup) : Except ConfigError Config :=
  match readConcurrency lookup with
  | .error e => .error e
  | .ok maxConcurrency =>
    match readChannel lookup with
    | .error e => .error e
    | .ok channel => .ok
      { maxConcurrency, channel
        package := (filled lookup Variable.package).getD standardPackage
        workspaceRoot := (filled lookup Variable.workspaceRoot).getD around.directory
        environment := .detect (lookup Variable.githubActions)
        stepSummary := filled lookup Variable.stepSummary
        owner := readOwner lookup around.pid
        workerCase := filled lookup Variable.workerCase
        image := (filled lookup Variable.image).getD ({} : Sandbox.Settings).image
        memoryLimit := (filled lookup Variable.memoryLimit).getD ({} : Sandbox.Settings).memoryLimit
        lockDir := (filled lookup Variable.lockDir).getD around.temporary
        preflight := filled lookup Variable.preflight
        logJson := isOn (lookup Variable.logJson) }

def sandbox (c : Config) : Sandbox.Settings :=
  { image := c.image, memoryLimit := c.memoryLimit }

def cleaner (c : Config) : Sandbox.Cleaner := ⟨c.environment, c.owner, c.sandbox.stopGrace⟩

end Config

end TestRig.Command
