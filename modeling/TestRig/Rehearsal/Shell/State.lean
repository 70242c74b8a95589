import TestRig.Rehearsal.Kernel.Call
import TestRig.Rehearsal.Shell.Reader
import TestRig.Rehearsal.Shell.Sum

/-!
What a shell knows while it runs, and the actions it is made of. An action may be cut short: the
shell is left, something has failed for good, or a loop or a function goes on elsewhere.
-/

namespace TestRig.Rehearsal.Shell

open Kernel (Descriptor Ending Pid Signal)

structure Value where
  text : String
  exported : Bool := false
deriving DecidableEq, Repr

/-- Processes started together, the last of which gives the status. -/
structure Job where
  members : List (Pid × Option Ending)
deriving DecidableEq, Repr

namespace Job

def leader (j : Job) : Option Pid := j.members.getLast?.map Prod.fst

def isDone (j : Job) : Bool := j.members.all fun m => m.2.isSome

def record (j : Job) (pid : Pid) (how : Ending) : Job :=
  ⟨j.members.map fun m => if m.1 = pid then (pid, some how) else m⟩

def statusOf : Ending → Nat
  | .exited code => code
  | .killed signal => 128 + signal

def status (j : Job) : Nat := ((j.members.getLast?.bind Prod.snd).map statusOf).getD 0

end Job

structure State where
  values : List (String × Value) := []
  positional : List String := []
  title : String := "sh"
  functions : List (String × Command) := []
  /-- Actions for signals; zero stands for the end of the shell. -/
  traps : List (Signal × String) := []
  options : List Char := []
  status : Nat := 0
  outputStatus : Nat := 0
  /-- The status from before the action for a signal that is running. -/
  interruptedStatus : Option Nat := none
  pid : Pid := 0
  lastBackground : Option Pid := none
  jobs : List Job := []
  line : Nat := 1
  loops : Nat := 0
  running : Option String := none
  documents : List (Nat × Word) := []
  nextDocument : Nat := 0
  out : String := ""

/-- Why an action is cut short. -/
inductive Jump
  | leave
  | failure
  | stopLoops (count : Nat)
  | nextRound (count : Nat)
  | goBack
deriving DecidableEq, Repr

abbrev Act := ExceptT Jump (StateT State Kernel.Routine)

namespace State

def value? (s : State) (name : String) : Option String := (s.values.lookup name).map (·.text)

def hasOption (s : State) (c : Char) : Bool := s.options.contains c

def insertValue (name : String) (v : Value) : List (String × Value) → List (String × Value)
  | [] => [(name, v)]
  | (n, w) :: rest => if n = name then (name, v) :: rest else (n, w) :: insertValue name v rest

def putValue (s : State) (name : String) : Option Value → State
  | some v => { s with values := insertValue name v s.values }
  | none => { s with values := s.values.filter (·.1 ≠ name) }

def environment (s : State) : Variables :=
  s.values.filterMap fun (name, v) => if v.exported then some (name, v.text) else none

def separators (s : State) : List Char := ((s.value? "IFS").getD " \t\n").toList

def hasTraps (s : State) : Bool := s.traps.any fun (_, action) => !action.isEmpty

def job? (s : State) (leader : Pid) : Option Job := s.jobs.find? (·.leader == some leader)

end State

namespace Act

def ask (q : Kernel.Ask) : Act q.Answer :=
  ExceptT.lift (StateT.lift (Kernel.query q))

def finally' {α : Type} (a : Act α) (after : Act Unit) : Act α := do
  let result ← tryCatch (Except.ok <$> a) fun j => pure (Except.error j)
  after
  match result with
  | .ok x => return x
  | .error j => throw j

def enough : Nat := 1000000000

def write (d : Descriptor) (text : String) : Act (Except SystemError Unit) :=
  go (text.length + 1) text
where
  go : (fuel : Nat) → String → Act (Except SystemError Unit)
    | 0, _ => return .ok ()
    | fuel + 1, text => do
      if text.isEmpty then return .ok ()
      match ← ask (.write d text) with
      | .error (e : SystemError) => return .error e
      | .ok (n : Nat) =>
        if n = text.length then return .ok ()
        else go fuel (String.ofList (text.toList.drop n))

def readAll (d : Descriptor) : Act String := go enough []
where
  go : (fuel : Nat) → List String → Act String
    | 0, pieces => return String.join pieces.reverse
    | fuel + 1, pieces => do
      match ← ask (.read d 65536) with
      | .ok (piece : String) =>
        if piece.isEmpty then return String.join pieces.reverse
        go fuel (piece :: pieces)
      | .error (e : SystemError) =>
        if e = .interruptedCall then go fuel pieces else return String.join pieces.reverse

def close (d : Descriptor) : Act Unit := do
  let _ ← ask (.close d)

def warn (message : String) : Act Unit := do
  let s ← get
  let command := match s.running with
    | some name => name ++ ": "
    | none => ""
  let _ ← write 2 (s.title ++ ": " ++ toString s.line ++ ": " ++ command ++ message ++ "\n")

def setStatus (status : Nat) : Act Unit := modify fun s => { s with status }

def fail {α : Type} (message : String) : Act α := do
  warn message
  setStatus 2
  throw .failure

def illegalNumber {α : Type} (text : String) : Act α := fail ("Illegal number: " ++ text)

def number (text : String) : Act Nat := do
  match Sum.whole? true text with
  | some n => if 0 ≤ n ∧ n ≤ 2147483647 then return n.toNat else illegalNumber text
  | none => illegalNumber text

def emit (text : String) : Act Unit := modify fun s => { s with out := s.out ++ text }

def requireName (name : String) : Act Unit := do
  if !isName name.toList then fail (name ++ ": bad variable name")

def assign (name text : String) (exported : Bool := false) : Act Unit := do
  requireName name
  let old := (← get).values.lookup name
  modify fun s => s.putValue name (some ⟨text, exported || old.any (·.exported)⟩)

end Act

end TestRig.Rehearsal.Shell
