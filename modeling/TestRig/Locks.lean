import TestRig.Files
import TestRig.Text.Decimal

/-!
Exclusive locks by name, one file for each in a directory made on first use. Whoever holds a lock has
written its pid into the file. The file stays when the lock is released: everybody who asks for one
name has to open one and the same file.
-/

namespace TestRig

structure Locks where
  files : Files := {}
  held : List Place := []
deriving DecidableEq, Repr

namespace Locks

def path (dir key : String) : String := Path.join dir (key ++ ".lock")

/-- What a holder leaves in the file of its lock. -/
def record (pid : UInt32) : String := Text.Decimal.text pid.toNat ++ "\n"

def take (s : Locks) (p : Place) (pid : UInt32) : Option Place × Locks :=
  if s.held.contains p then (none, s)
  else (some p, { files := s.files.put p (.file (record pid)), held := p :: s.held })

/-- The place that is now locked, none if somebody holds it, or why it cannot be opened. -/
def acquire (s : Locks) (dir key : String) (pid : UInt32) :
    Except SystemError (Option Place) × Locks :=
  match s.files.createAll dir with
  | .error e => (.error e, s)
  | .ok files =>
    match files.openToWrite (path dir key) with
    | .error e => (.error e, { s with files })
    | .ok (p, files) =>
      let (taken, s') := { s with files }.take p pid
      (.ok taken, s')

def release (s : Locks) (p : Place) : Locks := { s with held := s.held.filter (· ≠ p) }

def releaseKey (s : Locks) (dir key : String) : Locks :=
  match s.files.locate (path dir key) with
  | .ok p => s.release p
  | .error _ => s

end Locks

end TestRig
