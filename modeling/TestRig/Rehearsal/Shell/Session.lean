import TestRig.Rehearsal.Shell.Evaluation

/-!
A shell from its words to its end. Its commands come from one of the words or from what it reads.
-/

namespace TestRig.Rehearsal.Shell.Session

open Act Evaluation

/-- Carry out the commands among the words a shell was started with, or those it reads. Only commands
given as a word may put another program in place of the shell with their last one. -/
def perform : List String → Act Unit
  | [] => do
    let _ ← runText enough (← readAll 0) {}
  | "-c" :: [] => fail "-c requires an argument"
  | "-c" :: text :: rest => do
    modify fun s => { s with title := rest.headD s.title, positional := rest.drop 1 }
    let _ ← runText enough text ⟨true, false⟩
  | path :: _ => fail ("cannot open " ++ path ++ ": No such file")

def routine (words : List String) (environment : Variables) : Kernel.Routine Nat := do
  let own := environment.filter fun (name, _) => isName name.toList
  let values := own.map fun (name, text) => (name, (⟨text, true⟩ : Value))
  let whole : Act Empty := runOut enough do
    let pid : Kernel.Pid ← ask .identity
    modify fun s => { s with pid }
    perform (words.drop 1)
  let (_, s) ← whole.run.run { title := words.headD "sh", values }
  return s.status

end TestRig.Rehearsal.Shell.Session
