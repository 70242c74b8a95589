import TestRig.Duration
import TestRig.SystemError
import TestRig.Text.Quoted
import TestRig.Port.Range
import TestRig.Program

/-!
The container engine as an interface: what a caller may ask of it, what it answers, and the three
ways in which a call fails.
-/

namespace TestRig.Engine

structure Spec where
  name : String
  image : String
  hostPort : Port.Number
  containerPort : Port.Number
  memoryLimit : String
deriving DecidableEq, Repr

structure Logs where
  out : String
  err : String
deriving DecidableEq, Repr

inductive Call
  | run (spec : Spec)
  | publishing (port : Port.Number)
  | matching (pattern : String) (stopped : Bool)
  | logs (name : String)
  | stop (name : String) (grace : Duration)
  | kill (name : String)
  | remove (name : String)
  | pruneNetworks
  | pruneVolumes
deriving DecidableEq, Repr

namespace Call

def label : Call → String
  | run _ => "run"
  | publishing _ => "ps-publish"
  | matching _ _ => "ps-name"
  | logs _ => "logs"
  | stop _ _ => "stop"
  | kill _ => "kill"
  | remove _ => "rm"
  | pruneNetworks => "network-prune"
  | pruneVolumes => "volume-prune"

def subject : Call → String
  | run spec => spec.name
  | publishing port => Text.Decimal.text port.toNat
  | matching pattern _ => pattern
  | logs name => name
  | stop name _ => name
  | kill name => name
  | remove name => name
  | pruneNetworks => "-"
  | pruneVolumes => "-"

/-- Label and subject, by which a failure names the call. -/
def title (c : Call) : String := c.label ++ " " ++ c.subject

end Call

def Call.Answer : Call → Type
  | publishing _ => List String
  | matching _ _ => List String
  | logs _ => Logs
  | _ => Unit

inductive Error
  | spawn (command : String) (cause : SystemError)
  | failed (command : String) (status : Option Int) (diagnostics : String)
  | timeout (command : String) (limit : Duration)
deriving DecidableEq, Repr

namespace Error

def statusText : Option Int → String
  | none => "None"
  | some code => "Some(" ++ toString code ++ ")"

def message : Error → String
  | spawn command cause => "failed to run `" ++ command ++ "`: " ++ cause.message
  | failed command status diagnostics =>
    "`" ++ command ++ "` failed (exit status " ++ statusText status ++ "): " ++ diagnostics
  | timeout command limit => "`" ++ command ++ "` timed out after " ++ limit.text

end Error

abbrev interface : Interface where
  Ask := Call
  Answer call := Except Error call.Answer

abbrev Routine := Program interface

def call (c : Call) : Routine (Except Error c.Answer) := Program.query (I := interface) c

end TestRig.Engine
