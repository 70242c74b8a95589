import TestRig.Host
import TestRig.Text.Utf8

/-!
One worker process from start to result. It runs until it exits or the interrupt arrives; then it is
asked to terminate and killed if it outlives the grace. Its output is read a little longer, since a
process it left behind may hold the streams open.
-/

namespace TestRig.Suite

open Host (Channel Chunk Result)

namespace Worker

abbrev Status := Option Int

inductive Ask
  | spawn
  /-- Wait for the exit, or for the interrupt if it comes first. -/
  | exitOrInterrupt
  /-- Ask the process to terminate. -/
  | terminate
  | exitWithin (limit : Duration)
  | kill
  | exit
  /-- Wait for a stream to close, but no longer than the limit. -/
  | drain (channel : Channel) (limit : Duration)
  | output
deriving DecidableEq, Repr

def Ask.Answer : Ask → Type
  | spawn => Except SystemError Unit
  | exitOrInterrupt => Option Status
  | terminate => Unit
  | exitWithin _ => Option Status
  | kill => Unit
  | exit => Status
  | drain _ _ => Unit
  | output => List Chunk

abbrev interface : Interface where
  Ask := Ask
  Answer := Ask.Answer

abbrev Routine := Program interface

def query (a : Ask) : Routine a.Answer := Program.query (I := interface) a

structure Settings where
  grace : Duration := .ofSecs 5
  drain : Duration := .ofSecs 2
deriving Repr

def terminate (grace : Duration) : Routine Status := do
  query .terminate
  match ← query (.exitWithin grace) with
  | some (status : Status) => return status
  | none =>
    query .kill
    query .exit

def finish (grace : Duration) : Routine Status := do
  match ← query .exitOrInterrupt with
  | some (status : Status) => return status
  | none => terminate grace

/-- The text of what was read: the bytes are put together before they are taken for text. -/
def merged (chunks : List Chunk) : String := Text.Utf8.text (chunks.flatMap Chunk.bytes)

def unlaunched (c : Case) (cause : SystemError) : Result :=
  ⟨c, "failed to launch worker: " ++ cause.message, none⟩

def supervise (settings : Settings) (c : Case) : Routine Result := do
  match ← query .spawn with
  | .error (cause : SystemError) => return unlaunched c cause
  | .ok () =>
    let status ← finish settings.grace
    query (.drain .out settings.drain)
    query (.drain .err settings.drain)
    let chunks ← query .output
    return ⟨c, merged chunks, status⟩

end Worker

end TestRig.Suite
