import TestRig.Engine.Call
import TestRig.Invocation

/-!
The machine that a run happens on, as an interface: the container engine, the network, the clock,
the locks, the wrapped test program, the workers, and the terminal. Whether an interrupt has arrived
is a question like any other.
-/

namespace TestRig.Host

def interruptedExit : Int := 130

def failureExit : Int := 1

inductive Channel
  | out
  | err
deriving DecidableEq, Repr

structure Chunk where
  channel : Channel
  bytes : List UInt8
deriving DecidableEq, Repr

inductive Health
  | healthy
  | unhealthy
deriving DecidableEq, Repr

structure Listing where
  out : String
  err : String
deriving DecidableEq, Repr

/-- How one worker ended; without a code if a signal killed it or it never started. -/
structure Result where
  case : Case
  output : String
  code : Option Int
deriving DecidableEq, Repr

inductive Writing
  | replace
  | append
deriving DecidableEq, Repr

inductive WriteError
  | opening (cause : SystemError)
  | writing (cause : SystemError)
deriving DecidableEq, Repr

def WriteError.cause : WriteError → SystemError
  | opening cause => cause
  | writing cause => cause

inductive Ask
  | engine (call : Engine.Call)
  | probe (port : Port.Number)
  | pause (length : Duration)
  | say (channel : Channel) (text : String)
  | clock
  | draw (bound : Nat)
  | bindable (port : Port.Number)
  | lock (key : String)
  | unlock (key : String)
  | list (invocation : Invocation)
  | test (invocation : Invocation) (values : Variables)
  | launch (position : Nat) (case : Case)
  /-- Wait for a worker, or, when watching, for the interrupt if it comes first. -/
  | completion (watching : Bool)
  /-- Has the interrupt cut the wait that just ended? -/
  | interrupted
  | cancelRequested
  | write (path : String) (mode : Writing) (text : String)
deriving DecidableEq, Repr

def Ask.Answer : Ask → Type
  | engine call => Except Engine.Error call.Answer
  | probe _ => Health
  | pause _ => Unit
  | say _ _ => Unit
  | clock => Nat
  | draw _ => Nat
  | bindable _ => Bool
  | lock _ => Except SystemError Bool
  | unlock _ => Unit
  | list _ => Except SystemError Listing
  | test _ _ => Except String (Option Int)
  | launch _ _ => Unit
  | completion true => Option (Nat × Result)
  | completion false => Nat × Result
  | interrupted => Bool
  | cancelRequested => Bool
  | write _ _ _ => Except WriteError Unit

abbrev interface : Interface where
  Ask := Ask
  Answer := Ask.Answer

abbrev Routine := Program interface

def ofEngine {α : Type} : Engine.Routine α → Routine α :=
  Program.lift fun call => Program.query (I := interface) (.engine call)

def engine (call : Engine.Call) : Routine (Except Engine.Error call.Answer) :=
  Program.query (I := interface) (.engine call)

def probe (port : Port.Number) : Routine Health := Program.query (I := interface) (.probe port)

def pause (length : Duration) : Routine Unit := Program.query (I := interface) (.pause length)

def say (channel : Channel) (text : String) : Routine Unit :=
  Program.query (I := interface) (.say channel text)

def clock : Routine Nat := Program.query (I := interface) .clock

def draw (bound : Nat) : Routine Nat := Program.query (I := interface) (.draw bound)

def bindable (port : Port.Number) : Routine Bool := Program.query (I := interface) (.bindable port)

def lock (key : String) : Routine (Except SystemError Bool) :=
  Program.query (I := interface) (.lock key)

def unlock (key : String) : Routine Unit := Program.query (I := interface) (.unlock key)

def list (invocation : Invocation) : Routine (Except SystemError Listing) :=
  Program.query (I := interface) (.list invocation)

def test (invocation : Invocation) (values : Variables) :
    Routine (Except String (Option Int)) :=
  Program.query (I := interface) (.test invocation values)

def launch (position : Nat) (case : Case) : Routine Unit :=
  Program.query (I := interface) (.launch position case)

def interrupted : Routine Bool := Program.query (I := interface) .interrupted

def cancelRequested : Routine Bool := Program.query (I := interface) .cancelRequested

def write (path : String) (mode : Writing) (text : String) : Routine (Except WriteError Unit) :=
  Program.query (I := interface) (.write path mode text)

/-- Run a program until the interrupt cuts it: before it starts, or after any of its questions. -/
def interruptible {α : Type} (p : Routine α) : Routine (Option α) := do
  if ← interrupted then pure none else go p
where
  go : Routine α → Routine (Option α)
    | .done a => .done (some a)
    | .ask q next => .ask q fun x => .ask .interrupted fun (cut : Bool) =>
      if cut then .done none else go (next x)

end TestRig.Host
