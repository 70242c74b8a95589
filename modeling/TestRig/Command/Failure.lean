import TestRig.Command.Config
import TestRig.Suite

/-!
What ends a command without an exit code of its own, and how it is reported: the outermost account
first, then each cause behind it, and a hint where one helps.
-/

namespace TestRig.Command

open Host (Routine)

inductive Cause
  | suite (e : Suite.SuiteError)
  | invalidPreflight (text : String)
  | missingCase
  | config (e : ConfigError)
  | other (text : String)
deriving DecidableEq, Repr

namespace Cause

def message : Cause → String
  | suite e => e.message
  | invalidPreflight text =>
    "Invalid pre-flight case " ++ Text.Quoted.value text ++ ": expected <target>::<case>"
  | missingCase => "Worker needs a test case: pass --case or set SIMRIG_WORKER_CASE"
  | config e => e.summary
  | other text => text

/-- What lies behind the cause. -/
def behind : Cause → List String
  | suite (.discovery (.spawn cause)) => [cause.message]
  | config e => [e.fault.message]
  | _ => []

def hint? : Cause → Option String
  | suite (.discovery (.noCases _ _)) =>
    some "Hint: Check the --test target and test name, and that the target builds."
  | suite (.discovery (.spawn _)) => some "Hint: Is `cargo` on PATH?"
  | suite (.preflight _ _) =>
    some "Hint: The remaining cases depend on the pre-flight case; fix it first."
  | _ => none

end Cause

structure Failure where
  cause : Cause
  contexts : List String := []
deriving DecidableEq, Repr

namespace Failure

def message (f : Failure) : String :=
  ": ".intercalate (f.contexts.reverse ++ f.cause.message :: f.cause.behind)

def report (styled : Bool) (f : Failure) : Routine Unit := do
  Host.say .err (Text.Style.red.strong.apply styled "Error:" ++ " " ++ f.message ++ "\n")
  match f.cause.hint? with
  | none => pure ()
  | some hint => Host.say .err ("\n" ++ Text.Style.yellow.apply styled hint ++ "\n")

end Failure

end TestRig.Command
