import TestRig.Rehearsal.Shell.Condition
import TestRig.Rehearsal.Shell.Format
import TestRig.Rehearsal.Tool.Work

/-!
The programs that scripts of workers start: they say something, wait or signal, pass text on, or look
after files.
-/

namespace TestRig.Rehearsal.Tool

open Work
open Kernel (Descriptor Signal)

def quoted (text : String) : String := "'" ++ text ++ "'"

def always (code : Nat) (_ : List String) : Work Unit := if code = 0 then return () else throw code

def echo (words : List String) : Work Unit := do
  let options := words.takeWhile ["-n", "-e", "-E", "-ne", "-en"].contains
  let text := " ".intercalate (words.drop options.length)
  let (text, ended) := if options.any (·.contains 'e') then Shell.Format.unescaped text else (text, false)
  print (text ++ (if ended || options.any (·.contains 'n') then "" else "\n"))

def printf (words : List String) : Work Unit := do
  match words with
  | [] => misused "missing operand"
  | format :: arguments =>
    match Shell.Format.apply format arguments with
    | .error message => fail message
    | .ok (text, warnings) =>
      warnings.forM (mark ·)
      print text

def test (bracketed : Bool) (words : List String) : Work Unit := do
  if bracketed && words.getLast? ≠ some "]" then fail "missing ']'" 2
  let words := if bracketed then words.dropLast else words
  match ← ExceptT.lift (StateT.lift (Shell.Condition.test words)) with
  | .ok true => return ()
  | .ok false => throw 1
  | .error message => fail message 2

def span? (text : String) : Option Nat := do
  if text = "infinity" then return Nat.pow 10 18
  let whole := text.toList.takeWhile Char.isDigit
  let rest := text.toList.drop whole.length
  let (places, rest) := match rest with
    | '.' :: rest => (rest.takeWhile Char.isDigit, rest.dropWhile Char.isDigit)
    | rest => ([], rest)
  if whole.isEmpty && places.isEmpty then none
  let unit ← [("", 1), ("s", 1), ("m", 60), ("h", 3600), ("d", 86400)].lookup (String.ofList rest)
  let micros := Shell.Sum.number 10 (whole ++ (places ++ List.replicate 6 '0').take 6)
  return micros * unit

def sleep (words : List String) : Work Unit := do
  if words.isEmpty then misused "missing operand"
  let spans ← words.mapM fun word =>
    match span? word with
    | some n => return n
    | none => misused ("invalid time interval " ++ quoted word)
  ask (.pause (spans.foldl (· + ·) 0))

def kill (words : List String) : Work Unit := do
  let (name, targets) := match words with
    | "-s" :: name :: rest => (name, rest)
    | word :: rest => if word.startsWith "-" then ((word.drop 1).toString, rest) else ("TERM", words)
    | [] => ("TERM", [])
  match name.toNat?.or (Signal.ofName? name) with
  | none => fail ("unknown signal: " ++ name)
  | some n =>
    for word in targets do
      match word.toNat? with
      | none => mark ("failed to parse argument: " ++ quoted word)
      | some pid =>
        match ← ask (.signal pid n) with
        | .ok () => pure ()
        | .error (e : SystemError) => mark ("sending signal to " ++ word ++ " failed: " ++ e.reason)

def cat (words : List String) : Work Unit := do
  let (_, paths) ← options "u" words
  eachInput paths (eachPiece fun piece => do
    print piece
    flush)

def seq (words : List String) : Work Unit := do
  let numbers ← words.mapM fun word =>
    match Shell.Sum.whole? true word with
    | some n => return n
    | none => misused ("invalid floating point argument: " ++ quoted word)
  match numbers with
  | [last] => count 1 last 1 (last.toNat + 1)
  | [first, last] => count 1 last first ((last - first).toNat + 1)
  | [first, step, last] => count step last first ((last - first).natAbs + 1)
  | _ => misused "missing operand"
where
  count (step last : Int) : (next : Int) → (fuel : Nat) → Work Unit
    | _, 0 => return ()
    | next, fuel + 1 => do
      if (0 < step && last < next) || (step < 0 && next < last) then return ()
      print (toString next ++ "\n")
      count step last (next + step) fuel

def endedLines (text : String) : List String :=
  let all := Text.pieces '\n' text.toList
  let ended := all.dropLast.map fun line => String.ofList (line ++ ['\n'])
  match all.getLastD [] with
  | [] => ended
  | last => ended ++ [String.ofList last]

def amount (words : List String) : Work (Bool × Nat × List String) := do
  let (bytes, text, paths) := match words with
    | "-n" :: text :: rest => (false, text, rest)
    | "-c" :: text :: rest => (true, text, rest)
    | word :: rest =>
      if word.startsWith "-n" then (false, (word.drop 2).toString, rest)
      else if word.startsWith "-c" then (true, (word.drop 2).toString, rest)
      else if word.startsWith "-" then (false, (word.drop 1).toString, rest)
      else (false, "10", words)
    | [] => (false, "10", [])
  match text.toNat? with
  | some n => return (bytes, n, paths)
  | none =>
    fail ("invalid number of " ++ (if bytes then "bytes" else "lines") ++ ": " ++ quoted text)

/-- Pass on what is wanted, and read no more than that. -/
def headFrom (bytes : Bool) (path : String) (d : Descriptor) : (fuel left : Nat) → Work Unit
  | 0, _ => return ()
  | _, 0 => return ()
  | fuel + 1, left => do
    match ← ask (.read d (if bytes then min left block else 1024)) with
    | .error (e : SystemError) => mark ("error reading " ++ quoted path ++ ": " ++ e.reason)
    | .ok (piece : String) =>
      if piece.isEmpty then return ()
      let lines := endedLines piece
      print (if bytes then piece else String.join (lines.take left))
      headFrom bytes path d fuel
        (left - if bytes then piece.length else (lines.filter (·.endsWith "\n")).length)

def head (words : List String) : Work Unit := do
  let (bytes, n, paths) ← amount words
  eachInput paths fun path d => headFrom bytes path d enough n

def tail (words : List String) : Work Unit := do
  let (bytes, n, paths) ← amount words
  let text ← contents paths
  let lines := endedLines text
  print (if bytes then (text.drop (text.length - n)).toString
    else String.join (lines.drop (lines.length - n)))

def sort (words : List String) : Work Unit := do
  let (letters, paths) ← options "nru" words 2
  let lines := (endedLines (← contents paths)).map fun l =>
    if l.endsWith "\n" then (l.dropEnd 1).toString else l
  let value (l : String) : Int := (Shell.Sum.whole? true l).getD 0
  let upTo (a b : String) : Bool :=
    if letters.contains 'n' then value a < value b || (value a == value b && a ≤ b) else a ≤ b
  let sorted := lines.mergeSort fun a b => if letters.contains 'r' then upTo b a else upTo a b
  print (String.join ((if letters.contains 'u' then sorted.eraseDups else sorted).map (· ++ "\n")))

def charsOf : (fuel : Nat) → List Char → List Char
  | 0, _ => []
  | _, [] => []
  | fuel + 1, '\\' :: rest =>
    let (c, more) := Shell.Format.escape rest
    c :: charsOf fuel more
  | fuel + 1, a :: '-' :: b :: rest =>
    ((List.range (b.toNat + 1 - a.toNat)).map fun n => Char.ofNat (a.toNat + n)) ++ charsOf fuel rest
  | fuel + 1, c :: rest => c :: charsOf fuel rest

def tr (words : List String) : Work Unit := do
  let set (word : String) : List Char := charsOf (word.length + 1) word.toList
  let change ← match words with
    | ["-d", word] => pure fun (s : List Char) => s.filter (!(set word).contains ·)
    | [word, other] => do
      let (old, new) := (set word, set other)
      pure fun (s : List Char) => s.map fun c =>
        if old.contains c then new.getD (old.idxOf c) (new.getLastD c) else c
    | _ => misused "missing operand"
  eachInput [] (eachPiece fun piece => print (String.ofList (change piece.toList)))

def wc (words : List String) : Work Unit := do
  let (letters, paths) ← options "lwc" words
  let text ← contents paths
  let lines := (text.toList.filter (· = '\n')).length
  let words := ((text.split Char.isWhitespace).toList.filter (!·.isEmpty)).length
  let all := [('l', lines), ('w', words), ('c', text.length)]
  let chosen := all.filter fun (c, _) => letters.isEmpty || letters.contains c
  let width := if chosen.length = 1 then 1 else 7
  let cells := chosen.map fun (_, n) => "".pushn ' ' (width - (toString n).length) ++ toString n
  print (" ".intercalate (cells ++ paths) ++ "\n")

def yes (words : List String) : Work Unit := do
  let line := (if words.isEmpty then "y" else " ".intercalate words) ++ "\n"
  again (String.join (List.replicate (max 1 (8192 / line.length)) line)) enough
where
  again (text : String) : (fuel : Nat) → Work Unit
    | 0 => return ()
    | fuel + 1 => do
      match ← writeAll 1 enough text with
      | .ok () => again text fuel
      | .error e => fail ("standard output: " ++ e.reason)

def ls (words : List String) : Work Unit := do
  let (_, paths) ← options "1" words 2
  for path in if paths.isEmpty then ["."] else paths do
    match ← ask (.names path) with
    | .ok (names : List String) =>
      print (String.join ((names.filter (!·.startsWith ".")).map (· ++ "\n")))
    | .error (e : SystemError) =>
      if e = .notADirectory then print (path ++ "\n")
      else mark ("cannot access " ++ quoted path ++ ": " ++ e.reason) 2

def rm (words : List String) : Work Unit := do
  let (letters, paths) ← options "f" words
  if paths.isEmpty && letters.isEmpty then misused "missing operand"
  for path in paths do
    match ← ask (.remove path) with
    | .ok () => pure ()
    | .error (e : SystemError) =>
      if letters.isEmpty || e ≠ .notFound then mark ("cannot remove " ++ quoted path ++ ": " ++ e.reason)

def mkdir (words : List String) : Work Unit := do
  let (letters, paths) ← options "p" words
  if paths.isEmpty then misused "missing operand"
  for path in paths do
    match ← ask (.makeDirectory path) with
    | .ok () => pure ()
    | .error (e : SystemError) =>
      if letters.isEmpty || e ≠ .fileExists then
        mark ("cannot create directory " ++ quoted path ++ ": " ++ e.reason)

def touch (words : List String) : Work Unit := do
  let (_, paths) ← options "" words
  if paths.isEmpty then misused "missing file operand"
  for path in paths do
    match ← ask (.openFile path .append) with
    | .ok (d : Descriptor) =>
      let _ ← ask (.close d)
    | .error (e : SystemError) => mark ("cannot touch " ++ quoted path ++ ": " ++ e.reason)

def programs : List (String × (List String → Work Unit)) := [
  ("[", test true), ("cat", cat), ("echo", echo), ("false", always 1), ("head", head),
  ("kill", kill), ("ls", ls), ("mkdir", mkdir), ("printf", printf), ("rm", rm), ("seq", seq),
  ("sleep", sleep), ("sort", sort), ("tail", tail), ("test", test false), ("touch", touch),
  ("tr", tr), ("true", always 0), ("wc", wc), ("yes", yes)]

end TestRig.Rehearsal.Tool
