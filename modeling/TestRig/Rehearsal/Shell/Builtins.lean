import TestRig.Rehearsal.Shell.Condition
import TestRig.Rehearsal.Shell.Expansion
import TestRig.Rehearsal.Shell.Format

/-!
Commands that a shell carries out by itself and that run no other command. Each takes its words and
gives a status.
-/

namespace TestRig.Rehearsal.Shell.Builtin

open Act Expansion
open Kernel (Signal)

def withOptions (allowed : String) (words : List String) : Act (List Char × List String) := do
  let options := words.takeWhile fun w => w.startsWith "-" && 1 < w.length && w ≠ "--"
  let letters := options.flatMap fun w => w.toList.drop 1
  match letters.find? (!allowed.contains ·) with
  | some c => fail ("Illegal option -" ++ String.singleton c)
  | none =>
    let rest := words.drop options.length
    return (letters, if rest.head? = some "--" then rest.drop 1 else rest)

def silent (status : Nat) (_ : List String) : Act Nat := return status

def echo (words : List String) : Act Nat := do
  let quiet := words.head? = some "-n"
  let words := if quiet then words.drop 1 else words
  let (text, ended) := words.foldl (fun (text, ended) word =>
    if ended then (text, ended)
    else
      let (t, e) := Format.unescaped word
      (text ++ [t], e)) (([] : List String), false)
  emit (" ".intercalate text ++ (if quiet || ended then "" else "\n"))
  return 0

def printf (words : List String) : Act Nat := do
  let (_, words) ← withOptions "" words
  match words with
  | [] => fail "usage: printf format [arg ...]"
  | format :: arguments =>
    match Format.apply format arguments with
    | .error message => fail message
    | .ok (text, warnings) => do
      for w in warnings do
        warn w
      emit text
      return if warnings.isEmpty then 0 else 1

def test (bracketed : Bool) (words : List String) : Act Nat := do
  if bracketed && words.getLast? ≠ some "]" then fail "missing ]"
  let words := if bracketed then words.dropLast else words
  match ← ExceptT.lift (StateT.lift (Condition.test words)) with
  | .ok holds => return if holds then 0 else 1
  | .error message => fail message

def readInput : (fuel : Nat) → String → Act (String × Bool)
  | 0, done => return (done, false)
  | fuel + 1, done => do
    match ← ask (.read 0 4096 true) with
    | .error (_ : SystemError) => return (done, false)
    | .ok (piece : String) =>
      if piece.isEmpty then return (done, false)
      if piece.endsWith "\n" then return (done ++ (piece.dropEnd 1).toString, true)
      readInput fuel (done ++ piece)

def inputFields (separators : List Char) : (count : Nat) → List Char → List String
  | 0, _ => []
  | 1, s =>
    let rest := s.dropWhile separators.contains
    [String.ofList (rest.reverse.dropWhile separators.contains).reverse]
  | n + 2, s =>
    let rest := s.dropWhile separators.contains
    let field := rest.takeWhile (!separators.contains ·)
    String.ofList field :: inputFields separators (n + 1) (rest.drop field.length)

def read (words : List String) : Act Nat := do
  let (_, names) ← withOptions "r" words
  if names.isEmpty then fail "arg count"
  let (line, ended) ← readInput enough ""
  let fields := inputFields (← get).separators names.length line.toList
  for (name, value) in names.zip fields do
    assign name value
  return if ended then 0 else 1

def signal? (text : String) : Option Signal :=
  match text.toNat? with
  | some n => if n < Signal.bound then some n else none
  | none =>
    let name := text.map Char.toUpper
    if name = "EXIT" then some 0 else Signal.ofName? name

def killUsage : String :=
  "Usage: kill [-s sigspec | -signum | -sigspec] [pid | job]... or\nkill -l [exitstatus]"

def kill (words : List String) : Act Nat := do
  let (name, targets) := match words with
    | "-s" :: name :: rest => (name, rest)
    | word :: rest =>
      if word.startsWith "-" then ((word.drop 1).toString, rest) else ("TERM", words)
    | [] => ("TERM", [])
  match signal? name with
  | none => fail ("invalid signal number or name: " ++ name)
  | some n =>
    if targets.isEmpty then fail killUsage
    let done ← targets.mapM fun word => do
      match ← ask (.signal (← number word) n) with
      | .ok () => return true
      | .error (e : SystemError) => do
        warn (SystemError.reason e ++ "\n")
        return false
    return if done.all id then 0 else 1

def shift (words : List String) : Act Nat := do
  let n ← (words.head?.map number).getD (return 1)
  if (← get).positional.length < n then fail "can't shift that many"
  modify fun s => { s with positional := s.positional.drop n }
  return 0

def exportNames (words : List String) : Act Nat := do
  for word in words do
    match Text.splitAt? ['='] word.toList with
    | some (name, text) => assign (String.ofList name) (String.ofList text) true
    | none => assign word (((← get).value? word).getD "") true
  return 0

def unset (words : List String) : Act Nat := do
  let (letters, names) ← withOptions "vf" words
  for name in names do
    if letters.contains 'f' then
      modify fun s => { s with functions := s.functions.filter (·.1 ≠ name) }
    else do
      requireName name
      modify fun s => s.putValue name none
  return 0

/-- Settings of a shell: leave it when a command fails, let no variable be unset, show commands. -/
def settings : String := "eux"

def changeSettings : List String → Act (Option (List String))
  | [] => return none
  | "--" :: rest => return some rest
  | word :: rest =>
    match word.toList with
    | sign :: c :: more =>
      if sign ≠ '-' && sign ≠ '+' then return some (word :: rest)
      else do
        for c in c :: more do
          if !settings.contains c then fail ("Illegal option " ++ String.ofList [sign, c])
          modify fun s =>
            let others := s.options.filter (· ≠ c)
            { s with options := if sign = '-' then c :: others else others }
        changeSettings rest
    | _ => return some (word :: rest)

def set' (words : List String) : Act Nat := do
  if let some positional ← changeSettings words then
    modify fun s => { s with positional }
  return 0

def table : List (String × (List String → Act Nat)) := [
  (":", silent 0), ("true", silent 0), ("false", silent 1), ("echo", echo), ("printf", printf),
  ("[", test true), ("test", test false), ("read", read), ("kill", kill), ("shift", shift),
  ("export", exportNames), ("unset", unset), ("set", set')]

def controlNames : List String :=
  ["break", "continue", "eval", "exec", "exit", "return", "trap", "wait"]

inductive Found
  | function (body : Command)
  | builtin
  | program
  | missing (cause : SystemError)

def pathsOf (s : State) (name : String) : List String :=
  if name.contains '/' then [name]
  else (Text.pieces ':' ((s.value? "PATH").getD "/usr/bin:/bin").toList).map fun dir =>
    (if dir.isEmpty then "." else String.ofList dir) ++ "/" ++ name

def search : List String → SystemError → Act Found
  | [], cause => return .missing cause
  | path :: rest, cause => do
    match ← ask (.examine path) with
    | .ok (.program _) => return .program
    | .ok (_ : Node) => search rest .permissionDenied
    | .error (_ : SystemError) => search rest cause

def find (name : String) : Act Found := do
  let s ← get
  if name.contains '/' then return .program
  if let some body := s.functions.lookup name then return .function body
  if (table.lookup name).isSome || controlNames.contains name then return .builtin
  search (pathsOf s name) .notFound

end TestRig.Rehearsal.Shell.Builtin
