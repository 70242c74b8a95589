import TestRig.Rehearsal.Kernel.Call
import TestRig.Rehearsal.Shell.Sum

/-!
Conditions of a few words: comparisons of texts and numbers, and questions about files. A condition is
read by the number of its words, so that any text can stand in it.
-/

namespace TestRig.Rehearsal.Shell.Condition

abbrev Asking := ExceptT String Kernel.Routine

def number (text : String) : Asking Int :=
  match Sum.whole? true text with
  | some n => return n
  | none => throw ("Illegal number: " ++ text)

def fileIs (path : String) (p : Node → Bool) : Asking Bool := do
  match ← ExceptT.lift (Kernel.query (.examine path)) with
  | .ok (n : Node) => return p n
  | .error (_ : SystemError) => return false

def isFile : Node → Bool
  | .file _ _ => true
  | .program _ => true
  | _ => false

def isRunnable : Node → Bool
  | .program _ => true
  | .directory _ => true
  | _ => false

def comparisons : List (String × (Int → Int → Bool)) :=
  [("-eq", (· == ·)), ("-ne", (· != ·)), ("-ge", (decide <| · ≥ ·)), ("-gt", (decide <| · > ·)),
   ("-le", (decide <| · ≤ ·)), ("-lt", (decide <| · < ·))]

def unexpected {α : Type} (word : String) : Asking α := throw (word ++ ": unexpected operator")

def holds : List String → Asking Bool
  | [] => return false
  | [word] => return !word.isEmpty
  | [sign, word] =>
    match sign with
    | "!" => return word.isEmpty
    | "-z" => return word.isEmpty
    | "-n" => return !word.isEmpty
    | "-t" => do
      let _ ← number word
      return false
    | "-e" => fileIs word fun _ => true
    | "-r" => fileIs word fun _ => true
    | "-w" => fileIs word fun _ => true
    | "-x" => fileIs word isRunnable
    | "-f" => fileIs word isFile
    | "-d" => fileIs word Node.isDirectory
    | "-s" => fileIs word fun n => !n.text.isEmpty || n.isDirectory || (n matches .program _)
    | sign => unexpected sign
  | [first, sign, second] =>
    match sign, comparisons.lookup sign with
    | _, some compare => return compare (← number first) (← number second)
    | "=", none => return first == second
    | "!=", none => return first != second
    | _, none => if first = "!" then return !(← holds [sign, second]) else unexpected first
  | "!" :: rest => return !(← holds rest)
  | first :: _ => unexpected first

def test (words : List String) : Kernel.Routine (Except String Bool) := (holds words).run

end TestRig.Rehearsal.Shell.Condition
