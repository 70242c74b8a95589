import TestRig.Case
import TestRig.Port.Range
import TestRig.Text.Decimal

/-!
One run of the wrapped test program: what it addresses, the argument lists that list and run it, and
the variables that tell a test where its sandbox is.
-/

namespace TestRig

structure Invocation where
  package : String
  target : String
  /-- A test, or one exact case; without it the whole target. -/
  name : Option String := none
  allFeatures : Bool := true
  extra : List String := []
deriving DecidableEq, Repr

namespace Invocation

def exactFlag : String := "--exact"

def showOutputFlag : String := "--show-output"

def needsDiscovery (i : Invocation) : Bool :=
  match i.name with
  | none => true
  | some name => !Case.isExact name

def filter (i : Invocation) : Option String :=
  i.name.filter fun name => !Case.isExact name

/-- The same invocation narrowed to one case. -/
def forCase (i : Invocation) (c : Case) : Invocation :=
  { i with target := c.target, name := some c.name }

def commonArgs (i : Invocation) : List String :=
  ["test", "--package", i.package, "--test", i.target] ++
    (if i.allFeatures then ["--all-features"] else [])

def listArgs (i : Invocation) : List String := i.commonArgs ++ ["--", "--list"]

/-- A flag, unless the extra arguments hold it already. -/
def once (i : Invocation) (flag : String) : List String :=
  if i.extra.contains flag then [] else [flag]

def selection (i : Invocation) : List String :=
  match i.name with
  | none => []
  | some name => name :: i.once exactFlag

def runArgs (i : Invocation) : List String :=
  i.commonArgs ++ ["--"] ++ i.selection ++ i.extra ++ i.once showOutputFlag

def identifier (i : Invocation) : String := i.target ++ ":" ++ i.name.getD "*"

end Invocation

abbrev Variables := List (String × String)

namespace Variable

def maxConcurrency : String := "MAX_TEST_CONCURRENCY"
def package : String := "SIMRIG_PACKAGE"
def workspaceRoot : String := "WORKSPACE_ROOT"
def githubActions : String := "GITHUB_ACTIONS"
def stepSummary : String := "GITHUB_STEP_SUMMARY"
def port : String := "CHAIN_SIMULATOR_PORT"
def ownerPid : String := "SIMRIG_OWNER_PID"
def workerCase : String := "SIMRIG_WORKER_CASE"
def image : String := "SIMRIG_IMAGE"
def memoryLimit : String := "SIMRIG_MEMORY_LIMIT"
def lockDir : String := "SIMRIG_LOCK_DIR"
def preflight : String := "SIMRIG_PREFLIGHT"
def logJson : String := "SIMRIG_LOG_JSON"
def testPort : String := "TEST_PORT"
def testIdentifier : String := "TEST_IDENTIFIER"

end Variable

def Invocation.environment (i : Invocation) (port : Port.Number) : Variables :=
  [(Variable.port, Text.Decimal.text port.toNat),
   (Variable.testPort, Text.Decimal.text port.toNat),
   (Variable.testIdentifier, i.identifier)]

end TestRig
