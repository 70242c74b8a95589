import TestRig.External
import TestRig.Rehearsal.Kernel.Step
import TestRig.Rehearsal.Shell.Session
import TestRig.Rehearsal.Tool.Programs

/-!
The programs that come with the machine, the machine that has them, and how a program is looked for by
somebody outside.
-/

namespace TestRig.Rehearsal.Installed

def shells : List String := ["sh", "dash"]

def load : Kernel.Loader := fun name words environment =>
  if shells.contains name then some (Shell.Session.routine words environment)
  else (Tool.programs.lookup name).map fun work =>
    Tool.Work.routine (words.headD name) (work (words.drop 1))

def machine : Files := Disk.equipped (shells ++ Tool.programs.map Prod.fst)

def searchList : List String :=
  ["/usr/local/sbin", "/usr/local/bin", "/usr/sbin", "/usr/bin", "/sbin", "/bin"]

def environment : Variables := [("HOME", "/root"), ("PATH", ":".intercalate searchList)]

def paths (program : String) : List String :=
  if program.contains '/' then [program] else searchList.map (· ++ "/" ++ program)

/-- Of the causes for which places were passed over, the one that counts: a file that may not be
started is better than none. -/
def worse (earlier later : SystemError) : SystemError :=
  if later = .notFound || later = .notADirectory then earlier else later

def findAlong (f : Files) (words : List String) (environment : Variables) :
    List String → SystemError → Except SystemError (Kernel.Routine Nat)
  | [], cause => .error cause
  | path :: rest, cause =>
    match Kernel.program load f (Bytes.ofText path) words environment with
    | .ok routine => .ok routine
    | .error e =>
      if e = .permissionDenied || e = .notFound || e = .notADirectory then
        findAlong f words environment rest (worse cause e)
      else .error e

def find (f : Files) (program : String) (arguments : List String) (environment : Variables) :
    Except SystemError (Kernel.Routine Nat) :=
  if program.isEmpty then .error .notFound
  else
    let words := (program :: arguments).map Bytes.ofText
    let environment := environment.map fun (name, text) => (Bytes.ofText name, Bytes.ofText text)
    findAlong f words environment (paths program) .notFound

def enough : Nat := 50000

def runUntilEnd (pid : Kernel.Pid) : (fuel : Nat) → Kernel → Kernel
  | 0, k => k
  | fuel + 1, k =>
    if (k.ending? pid).isSome then k
    else match k.step load with
      | some k => runUntilEnd pid fuel k
      | none => k

def written (k : Kernel) (channel : Host.Channel) : List UInt8 :=
  (k.chunks 0).flatMap fun c => if c.channel = channel then c.bytes else []

def perform (routine : Kernel.Routine Nat) : Option External.Ending :=
  let (pid, k) := ({ files := machine } : Kernel).launch 0 routine 0
  let k := runUntilEnd pid enough k
  (k.ending? pid).map fun how =>
    let status : Option Int := match how with
      | .exited code => some code
      | .killed _ => none
    .exited status (written k .out) (written k .err)

end TestRig.Rehearsal.Installed
