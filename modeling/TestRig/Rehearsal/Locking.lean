import TestRig.Locks

/-!
Locks taken and given back step by step. What was taken is kept under a name; a new lock under a name
in use takes its place first, and only then is the old one given back.
-/

namespace TestRig.Rehearsal

structure Locking where
  dir : String
  pid : UInt32
  locks : Locks
  /-- Locks held, by the names they are kept under. -/
  kept : List (String × Place) := []
deriving Repr

namespace Locking

inductive Step
  | acquire (key : String) (name : String)
  | release (name : String)
  | path (key : String)
  | read (key : String)
  | names
deriving DecidableEq, Repr

inductive Reply
  | acquired (path : Option String)
  | failed (cause : SystemError)
  | held (was : Bool)
  | path (text : String)
  | text (content : Option String)
  | names (all : List String)
deriving DecidableEq, Repr

def drop (s : Locking) (name : String) : Locking :=
  match s.kept.lookup name with
  | none => s
  | some place =>
    { s with locks := s.locks.release place, kept := s.kept.filter (·.1 ≠ name) }

def keep (s : Locking) (name : String) (place : Place) : Locking :=
  let s := s.drop name
  { s with kept := (name, place) :: s.kept }

def lockPath (s : Locking) (key : String) : String := Locks.path s.dir key

def names (s : Locking) : List String :=
  match s.locks.files.locate s.dir with
  | .ok place => s.locks.files.namesIn place
  | .error _ => []

def perform (s : Locking) : Step → Reply × Locking
  | .acquire key name =>
    let (answer, locks) := s.locks.acquire s.dir key s.pid
    let s := { s with locks }
    match answer with
    | .ok (some place) => (.acquired (some (s.lockPath key)), s.keep name place)
    | .ok none => (.acquired none, s)
    | .error cause => (.failed cause, s)
  | .release name => (.held (s.kept.lookup name).isSome, s.drop name)
  | .path key => (.path (s.lockPath key), s)
  | .read key => (.text (s.locks.files.read? (s.lockPath key)), s)
  | .names => (.names s.names, s)

def performAll (s : Locking) : List Step → List Reply
  | [] => []
  | step :: rest =>
    let (reply, s) := s.perform step
    reply :: s.performAll rest

end Locking

end TestRig.Rehearsal
