import TestRig.Rehearsal.Shell.Pattern
import TestRig.Rehearsal.Shell.State

/-!
Filling in the words of a command: parameters, outputs of commands and sums take the place of their
signs, and what came in unquoted is split into fields.
-/

namespace TestRig.Rehearsal.Shell

/-- A word on its way to fields. -/
inductive Mark
  | letter (c : Char) (quoted splits : Bool)
  | quote
  | absent
  | cut
deriving DecidableEq, Repr

structure Mode where
  splits : Bool
  stands : Bool := false

namespace Expansion

open Act

def lettersOf (quoted splits : Bool) (s : String) : List Mark :=
  s.toList.map fun c => .letter c quoted splits

def dropLineEnds (s : String) : String :=
  String.ofList (s.toList.reverse.dropWhile (· = '\n')).reverse

def single? (s : State) (name : String) : Option String :=
  match name with
  | "#" => some (toString s.positional.length)
  | "?" => some (toString s.status)
  | "$" => some (toString s.pid)
  | "!" => s.lastBackground.map toString
  | "0" => some s.title
  | name =>
    match name.toNat? with
    | some n => s.positional[n - 1]?
    | none => s.value? name

def isMany (name : String) : Bool := name == "@" || name == "*"

def joined (s : State) (name : String) : String :=
  let separator := if name = "*" then (s.separators.take 1) else [' ']
  (String.ofList separator).intercalate s.positional

def many (s : State) (m : Mode) (name : String) (quoted : Bool) : List Mark :=
  if quoted ∧ name = "*" ∨ !m.splits then lettersOf quoted false (joined s name)
  else
    let each := s.positional.map fun p =>
      (if quoted then [Mark.quote] else []) ++ lettersOf quoted (!quoted) p
    match each with
    | [] => if quoted then [.absent] else []
    | each => [Mark.cut].intercalate each

def text (marks : List Mark) : String :=
  String.ofList (marks.filterMap fun
    | .letter c _ _ => some c
    | .cut => some ' '
    | _ => none)

def letters (marks : List Mark) : List Letter :=
  marks.filterMap fun
    | .letter c quoted _ => some ⟨c, quoted⟩
    | .cut => some ⟨' ', true⟩
    | _ => none

def complain {α : Type} (name : String) (emptyToo : Bool) (message : String) : Act α :=
  if message.isEmpty then
    fail (name ++ ": parameter not set" ++ (if emptyToo then " or null" else ""))
  else fail (name ++ ": " ++ message)

def sum (expression : String) : Act String := do
  let s ← get
  match Sum.evaluate (single? s) expression with
  | .ok (n, assigned) =>
    for (name, value) in assigned do
      assign name value
    return toString n
  | .error (.expression what) =>
    fail ("arithmetic expression: " ++ what ++ ": \"" ++ expression ++ "\"")
  | .error (.illegal value) => illegalNumber value

def still? (m : Mode) : Piece → Option Mark
  | .char c quoted => some (.letter c quoted (m.stands && !quoted))
  | .mark => some .quote
  | _ => none

def fill (output : Option Command → Act String) : (fuel : Nat) → Mode → Word → Act (List Mark)
  | 0, _, _ => return []
  | _, _, [] => return []
  | fuel + 1, m, piece :: rest => do
    let front := (piece :: rest).takeWhile fun p => (still? m p).isSome
    if !front.isEmpty then
      let marks := front.filterMap (still? m)
      return marks ++ (← fill output fuel m (rest.drop (front.length - 1)))
    let first ← match piece with
      | .output commands quoted => do
        let written ← output commands
        pure (lettersOf quoted (m.splits && !quoted) (dropLineEnds written))
      | .sum expression quoted => do
        let n ← sum (text (← fill output fuel ⟨false, false⟩ expression))
        pure (lettersOf quoted (m.splits && !quoted) n)
      | .parameter name usage word quoted =>
        let own := ⟨m.splits && !quoted, m.splits && !quoted⟩
        parameter m name usage quoted (fill output fuel own word) (fill output fuel ⟨false, false⟩ word)
      | _ => pure []
    return first ++ (← fill output fuel m rest)
where
  /-- The word of a parameter is filled in only if it is used: like what comes in, or as one text. -/
  parameter (m : Mode) (name : String) (usage : Usage) (quoted : Bool)
      (inner whole : Act (List Mark)) : Act (List Mark) := do
    let s ← get
    let value := if isMany name then
        (if s.positional.isEmpty then none else some (joined s name))
      else single? s name
    let come := lettersOf quoted (m.splits && !quoted)
    let shown := if isMany name then many s m name quoted else come (value.getD "")
    let lacks (emptyToo : Bool) : Bool := value.isNone || (emptyToo && value == some "")
    let requireValue : Act Unit := do
      if value.isNone && s.hasOption 'u' && !isMany name then complain name false ""
    match usage with
    | .bad => fail "Bad substitution"
    | .plain => do
      requireValue
      return shown
    | .length => do
      requireValue
      let n := if isMany name then s.positional.length else (value.getD "").length
      return come (toString n)
    | .otherwise emptyToo => if lacks emptyToo then inner else return shown
    | .instead emptyToo => if lacks emptyToo then return [] else inner
    | .assign emptyToo =>
      if !lacks emptyToo then return shown
      let value := text (← whole)
      assign name value
      return come value
    | .complain emptyToo =>
      if !lacks emptyToo then return shown
      complain name emptyToo (text (← whole))
    | .trim front longest => do
      requireValue
      let pattern := Pattern.ofLetters (letters (← whole))
      return come (String.ofList (Pattern.trim pattern front longest (value.getD "").toList))

structure Field where
  letters : List Char := []
  present : Bool := false
  quoted : Bool := false
  absent : Bool := false
  afterBlank : Bool := false
  done : List String := []

namespace Field

def close (f : Field) (afterBlank : Bool) : Field :=
  if f.present || (f.quoted && !f.absent) then
    { done := String.ofList f.letters.reverse :: f.done, afterBlank }
  else { done := f.done, afterBlank := f.afterBlank && afterBlank }

def add (separators : List Char) (f : Field) (m : Mark) : Field :=
  match m with
  | .quote => { f with quoted := true }
  | .absent => { f with absent := true }
  | .cut => f.close false
  | .letter c _ splits =>
    if splits && separators.contains c then
      if " \t\n".toList.contains c then f.close true
      else if f.present || f.quoted then f.close false
      else if f.afterBlank then { f with afterBlank := false }
      else { done := "" :: f.done }
    else { f with letters := c :: f.letters, present := true, afterBlank := false }

end Field

def split (separators : List Char) (marks : List Mark) : List String :=
  ((marks.foldl (Field.add separators) {}).close false).done.reverse

def depth (w : Word) : Nat := 100000 + w.length

def fields (output : Option Command → Act String) (w : Word) : Act (List String) := do
  return split (← get).separators (← fill output (depth w) ⟨true, false⟩ w)

def oneText (output : Option Command → Act String) (w : Word) : Act String :=
  return text (← fill output (depth w) ⟨false, false⟩ w)

def pattern (output : Option Command → Act String) (w : Word) : Act (List Pattern.Atom) :=
  return Pattern.ofLetters (letters (← fill output (depth w) ⟨false, false⟩ w))

end Expansion

end TestRig.Rehearsal.Shell
