import TestRig.Engine.CommandLine
import TestRig.Files
import TestRig.Rehearsal.Installed
import TestRig.TestProgram

/-!
Stand-ins for the external programs a run starts: each kind of invocation has a scripted reply, and
every invocation that was started is written down.
-/

namespace TestRig.Rehearsal

structure Reply where
  out : List UInt8 := []
  err : List UInt8 := []
  code : Int := 0
  bySignal : Bool := false
  /-- Print the name that a filter asks for. -/
  echoes : Bool := false
  hangs : Bool := false
deriving Repr

namespace Reply

def status (r : Reply) : Option Int := if r.bySignal then none else some (r.code % 256)

def filteredName? (arguments : List String) : Option (List Char) :=
  arguments.findSome? fun a =>
    (Text.after? "name=^".toList a.toList).map fun rest => (Text.before? ['$'] rest).getD rest

def outFor (r : Reply) (c : External.Command) : List UInt8 :=
  match r.echoes, filteredName? c.arguments with
  | true, some name => Text.Utf8.encode (String.ofList (name ++ ['\n'])) ++ r.out
  | _, _ => r.out

/-- How the invocation ends; not at all if the program hangs. -/
def ending (r : Reply) (c : External.Command) : Option External.Ending :=
  if r.hangs then none else some (.exited r.status (r.outFor c) r.err)

end Reply

structure Tools where
  present : Bool := true
  engine : List (String × Reply) := []
  tests : List (String × Reply) := []
  record : List (List String) := []

namespace Tools

def client : String := "docker"

def engineKind (arguments : List String) : String :=
  match arguments with
  | "ps" :: rest =>
    if rest.any fun a => (Text.after? "publish=".toList a.toList).isSome then "ps-publish"
    else "ps-name"
  | first :: _ => first
  | [] => ""

def testKind (arguments : List String) : String :=
  if arguments.contains "--list" then "list" else "run"

def shown (c : External.Command) (outside : String → Option String) : List String :=
  [Variable.port, Variable.testPort, Variable.testIdentifier].map fun key =>
    key ++ "=" ++ (c.setting? outside key).getD "unset"

def found (t : Tools) : Except SystemError Unit := if t.present then .ok () else .error .notFound

def start (t : Tools) (c : External.Command) (directory : Except SystemError Unit) (reply : Reply)
    (noted : List String) : Option External.Ending × Tools :=
  match c.admission directory t.found with
  | .ok () => (reply.ending c, { t with record := noted :: t.record })
  | .error cause => (some (.unstarted cause), t)

def startEngine (t : Tools) (call : Engine.Call) : Option External.Ending × Tools :=
  let command := Engine.CommandLine.command client call
  t.start command (.ok ()) ((t.engine.lookup (engineKind command.arguments)).getD {}) command.words

def startTests (t : Tools) (files : Files) (outside : String → Option String)
    (c : External.Command) : Option External.Ending × Tools :=
  let directory := match c.directory with
    | some path => (files.locateDirectory path).map fun _ => ()
    | none => .ok ()
  t.start c directory ((t.tests.lookup (testKind c.arguments)).getD {})
    (c.words ++ shown c outside)

def otherEnding (c : External.Command) : Option External.Ending :=
  let found := Installed.find Installed.machine c.program c.arguments Installed.environment
  match c.admission (.ok ()) (found.map fun _ => ()), found with
  | .ok (), .ok routine => Installed.perform routine
  | .ok (), .error cause => some (.unstarted cause)
  | .error cause, _ => some (.unstarted cause)

def kinds (t : Tools) : List String :=
  let all := t.record.map fun words => " ".intercalate (words.take 2)
  all.eraseDups.mergeSort fun a b => a ≤ b

end Tools

end TestRig.Rehearsal
