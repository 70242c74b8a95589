import TestRig.External
import TestRig.Invocation

/-!
Workers are this program started again, one for each case. The command line says everything about the
case; the environment names the owner of the run and hands no port down, since every worker leases
its own.
-/

namespace TestRig.Suite

structure Launcher where
  program : String
  invocation : Invocation
  owner : UInt32
deriving DecidableEq, Repr

namespace Launcher

def workerWord : String := "worker"

/-- The arguments that describe one invocation to a worker. -/
def argumentsOf (i : Invocation) : List String :=
  [workerWord, "--package", i.package, "--test", i.target] ++
    (match i.name with
    | some name => ["--case", name]
    | none => []) ++
    (if i.allFeatures then [] else ["--no-all-features"]) ++
    (if i.extra.isEmpty then [] else "--" :: i.extra)

def arguments (l : Launcher) (c : Case) : List String := argumentsOf (l.invocation.forCase c)

def changes (l : Launcher) (c : Case) : List (String × Option String) :=
  [(Variable.port, none), (Variable.ownerPid, some (toString l.owner.toNat)),
   (Variable.workerCase, some c.name)]

def command (l : Launcher) (c : Case) : External.Command :=
  ⟨l.program, l.arguments c, none, l.changes c⟩

end Launcher

end TestRig.Suite
