import TestRig.Command.Execution
import TestRig.Engine.CommandLine
import TestRig.Locks
import TestRig.Suite.Supervision
import TestRig.TestProgram

/-!
The command line on a host that starts no other program: locks, files, the terminal and the pauses
are real, and whatever asks for the engine, the test program or a worker learns that there is none.
-/

namespace TestRig.Session

open Host (Result)

structure State where
  lockDir : String
  pid : UInt32
  locks : IO.Ref (List (String × IO.FS.Handle))
  finished : IO.Ref (List (Nat × Result))

def systemError : IO.Error → SystemError
  | .noFileOrDirectory _ number _ => .os number.toNat
  | .permissionDenied _ number _ => .os number.toNat
  | .alreadyExists _ number _ => .os number.toNat
  | .inappropriateType _ number _ => .os number.toNat
  | .invalidArgument _ number _ => .os number.toNat
  | _ => .os 5

def attempt {α : Type} (action : IO α) : IO (Except SystemError α) := do
  try return .ok (← action) catch e => return .error (systemError e)

/-- Lock the file of a key and leave our pid in it, unless somebody else has it locked. -/
def lock (s : State) (key : String) : IO Bool := do
  IO.FS.createDirAll s.lockDir
  let path := Locks.path s.lockDir key
  let _ ← IO.FS.Handle.mk path .append
  let handle ← IO.FS.Handle.mk path .readWrite
  if !(← handle.tryLock) then return false
  handle.truncate
  handle.putStr (Locks.record s.pid)
  handle.flush
  s.locks.modify ((key, handle) :: ·)
  return true

def unlock (s : State) (key : String) : IO Unit := do
  match (← s.locks.get).lookup key with
  | none => return ()
  | some handle =>
    s.locks.modify fun held => held.filter (·.1 ≠ key)
    handle.unlock

def write (path : String) (text : String) (mode : Host.Writing) :
    IO (Except Host.WriteError Unit) := do
  match ← attempt (IO.FS.Handle.mk path (match mode with | .replace => .write | .append => .append)) with
  | .error e => return .error (.opening e)
  | .ok handle =>
    return (← attempt (do handle.putStr text; handle.flush)).mapError .writing

def next? (s : State) : IO (Option (Nat × Result)) := do
  match ← s.finished.get with
  | [] => return none
  | first :: rest =>
    s.finished.set rest
    return some first

def ending : External.Ending := .unstarted .notFound

def answer (s : State) : (q : Host.Ask) → IO q.Answer
  | .engine call => return Engine.CommandLine.answer "docker" call (some ending)
  | .probe _ => return Host.Health.unhealthy
  | .pause length => IO.sleep (.ofNat length.millis)
  | .say .out text => IO.print text
  | .say .err text => IO.eprint text
  | .clock => IO.monoMsNow
  | .draw bound => IO.rand 0 (bound - 1)
  | .bindable _ => return true
  | .lock key => attempt (lock s key)
  | .unlock key => unlock s key
  | .list _ => return TestProgram.listing ending
  | .test _ _ => return TestProgram.status ending
  | .launch position case =>
    s.finished.modify (· ++ [(position, Suite.Worker.unlaunched case .notFound)])
  | .completion true => next? s
  | .completion false => return (← next? s).getD (0, ⟨⟨"", ""⟩, "", none⟩)
  | .interrupted => return false
  | .cancelRequested => return false
  | .write path mode text => write path text mode

def perform {α : Type} (s : State) : Host.Routine α → IO α
  | .done a => return a
  | .ask q next => do perform s (next (← answer s q))

def consulted : List String :=
  [Variable.maxConcurrency, Variable.package, Variable.workspaceRoot, Variable.githubActions,
   Variable.stepSummary, Variable.port, Variable.ownerPid, Variable.workerCase, Variable.image,
   Variable.memoryLimit, Variable.lockDir, Variable.preflight, Variable.logJson, "CLICOLOR_FORCE"]

def run (args : List String) : IO UInt32 := do
  let values ← consulted.filterMapM fun key => do return (← IO.getEnv key).map (key, ·)
  let pid ← IO.rand 2 4194304
  let around : Command.Surroundings :=
    { directory := toString (← IO.currentDir)
      temporary := (← IO.getEnv "TMPDIR").getD "/tmp"
      pid := .ofNat pid }
  let lookup : Command.Lookup := fun key => values.lookup key
  let config := Command.Config.ofLookup around lookup
  let s : State :=
    { lockDir := (config.toOption.map (·.lockDir)).getD around.temporary
      pid := around.pid
      locks := ← IO.mkRef []
      finished := ← IO.mkRef [] }
  let code ← perform s (Command.run around lookup args)
  return .ofNat (code % 256).toNat

end TestRig.Session

def main (args : List String) : IO UInt32 := TestRig.Session.run args
