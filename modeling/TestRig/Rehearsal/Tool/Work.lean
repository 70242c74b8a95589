import TestRig.Rehearsal.Kernel.Call

/-!
The work of a small program: it reads its words, writes to its streams, and ends with a code. What it
prints is kept until enough has come together; complaints go out at once, behind its name.
-/

namespace TestRig.Rehearsal.Tool

open Kernel (Descriptor)

structure Desk where
  name : String
  code : Nat := 0
  held : List String := []
  size : Nat := 0

/-- Work may end early with a code. -/
abbrev Work := ExceptT Nat (StateT Desk Kernel.Routine)

namespace Work

def ask (q : Kernel.Ask) : Work q.Answer := ExceptT.lift (StateT.lift (Kernel.query q))

def enough : Nat := 1000000000

def block : Nat := 65536

def writeAll (d : Descriptor) : (fuel : Nat) → String → Work (Except SystemError Unit)
  | 0, _ => return .ok ()
  | fuel + 1, text => do
    if text.isEmpty then return .ok ()
    match ← ask (.write d text) with
    | .error (e : SystemError) => return .error e
    | .ok (n : Nat) =>
      if n = text.length then return .ok ()
      else writeAll d fuel (String.ofList (text.toList.drop n))

def complain (message : String) : Work Unit := do
  let _ ← writeAll 2 enough ((← get).name ++ ": " ++ message ++ "\n")

def mark (message : String) (code : Nat := 1) : Work Unit := do
  complain message
  modify fun s => { s with code := max s.code code }

def fail {α : Type} (message : String) (code : Nat := 1) : Work α := do
  complain message
  throw code

def misused {α : Type} (message : String) (code : Nat := 1) : Work α := do
  complain message
  let _ ← writeAll 2 enough ("Try '" ++ (← get).name ++ " --help' for more information.\n")
  throw code

def flush : Work Unit := do
  let text := String.join (← get).held.reverse
  modify fun s => { s with held := [], size := 0 }
  match ← writeAll 1 enough text with
  | .ok () => return ()
  | .error e => fail ("write error: " ++ e.reason)

def print (text : String) : Work Unit := do
  modify fun s => { s with held := text :: s.held, size := s.size + text.length }
  if 4096 ≤ (← get).size then flush

/-- Let `use` work on files one after the other; a dash, or no file at all, stands for the input. -/
def eachInput (paths : List String) (use : String → Descriptor → Work Unit) : Work Unit := do
  for path in if paths.isEmpty then ["-"] else paths do
    if path = "-" then use path 0
    else
      match ← ask (.openFile path .read) with
      | .error (e : SystemError) => mark (path ++ ": " ++ e.reason)
      | .ok (d : Descriptor) => do
        use path d
        let _ ← ask (.close d)

def eachPiece (use : String → Work Unit) (path : String) (d : Descriptor) : Work Unit := go enough
where
  go : (fuel : Nat) → Work Unit
    | 0 => return ()
    | fuel + 1 => do
      match ← ask (.read d block) with
      | .error (e : SystemError) => mark (path ++ ": " ++ e.reason)
      | .ok (piece : String) =>
        if piece.isEmpty then return ()
        use piece
        go fuel

def contents (paths : List String) : Work String := do
  eachInput paths (eachPiece fun piece => modify fun s => { s with held := piece :: s.held })
  modifyGet fun s => (String.join s.held.reverse, { s with held := [] })

def options (allowed : String) (words : List String) (misuse : Nat := 1) :
    Work (List Char × List String) := do
  let front := words.takeWhile (· ≠ "--")
  let (given, others) := front.partition fun w => w.startsWith "-" && 1 < w.length
  let letters := given.flatMap fun w => w.toList.drop 1
  match letters.find? (!allowed.contains ·) with
  | some c => misused ("invalid option -- '" ++ String.singleton c ++ "'") misuse
  | none => return (letters, others ++ words.drop (front.length + 1))

def routine (name : String) (work : Work Unit) : Kernel.Routine Nat := do
  let whole : Work Unit := do
    work
    flush
  let (result, desk) ← whole.run.run { name }
  match result with
  | .ok () => return desk.code
  | .error code => do
    let _ ← flush.run.run desk
    return code

end Work

end TestRig.Rehearsal.Tool
