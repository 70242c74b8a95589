import TestRig.Files
import TestRig.Invocation
import TestRig.Program
import TestRig.Rehearsal.Kernel.Signal

/-!
What a process may ask of the system it runs on. Texts that are read and written have a character for
each byte. A process that asks to be doubled goes on twice from the same place, with different
answers; one that asks to become another program, or to end, gets an answer only if that fails.
-/

namespace TestRig.Rehearsal.Kernel

/-- Time in microseconds. -/
abbrev Moment := Nat

abbrev Pid := Nat

abbrev Descriptor := Nat

inductive Opening
  | read
  | replace
  | append
deriving DecidableEq, Repr

/-- What a process has arranged for a signal. -/
inductive Disposition
  | standard
  | ignored
  | caught
deriving DecidableEq, Repr

inductive Ending
  | exited (code : Nat)
  | killed (signal : Signal)
deriving DecidableEq, Repr

inductive Awaited
  | ended (child : Pid) (how : Ending)
  | childless
  | interrupted
deriving DecidableEq, Repr

inductive Ask
  | write (d : Descriptor) (text : String)
  /-- Read so many bytes at most, and nothing beyond the end of a line if only that is wanted. -/
  | read (d : Descriptor) (most : Nat) (line : Bool := false)
  | openFile (path : String) (how : Opening)
  | close (d : Descriptor)
  | copy (source target : Descriptor)
  /-- Copy a descriptor to the first free number from a bound. -/
  | copyAbove (source least : Descriptor)
  | pipe
  | double
  | become (path : String) (arguments : List String) (environment : Variables)
  | finish (code : Nat)
  /-- Wait for a child to end, or also for a signal that was arranged for. -/
  | await (untilSignal : Bool)
  | signal (process : Pid) (number : Signal)
  | arrange (number : Signal) (how : Disposition)
  /-- Signals arranged for that have arrived since the last time of asking. -/
  | arrived
  | pause (length : Moment)
  | identity
  | examine (path : String)
  | names (path : String)
  | makeDirectory (path : String)
  | remove (path : String)
deriving DecidableEq, Repr

def Ask.Answer : Ask → Type
  | write _ _ => Except SystemError Nat
  | read _ _ _ => Except SystemError String
  | openFile _ _ => Except SystemError Descriptor
  | close _ => Except SystemError Unit
  | copy _ _ => Except SystemError Unit
  | copyAbove _ _ => Except SystemError Descriptor
  | pipe => Descriptor × Descriptor
  | double => Option Pid
  | become _ _ _ => SystemError
  | finish _ => Empty
  | await _ => Awaited
  | signal _ _ => Except SystemError Unit
  | arrange _ _ => Unit
  | arrived => List Signal
  | pause _ => Unit
  | identity => Pid
  | examine _ => Except SystemError Node
  | names _ => Except SystemError (List String)
  | makeDirectory _ => Except SystemError Unit
  | remove _ => Except SystemError Unit

abbrev interface : Interface where
  Ask := Ask
  Answer := Ask.Answer

abbrev Routine := Program interface

def query (a : Ask) : Routine a.Answer := Program.query (I := interface) a

end TestRig.Rehearsal.Kernel
