/-!
Commands of a shell as data: words whose pieces are still to be filled in, redirections, and the
commands built from them.
-/

namespace TestRig.Rehearsal.Shell

inductive Usage
  | plain
  | length
  | otherwise (emptyToo : Bool)
  | instead (emptyToo : Bool)
  | assign (emptyToo : Bool)
  | complain (emptyToo : Bool)
  | trim (front longest : Bool)
  | bad
deriving DecidableEq, Repr

inductive Direction
  | input
  | output
  | append
  | copyIn
  | copyOut
deriving DecidableEq, Repr

mutual

inductive Piece
  /-- A character; if it is quoted, it stands for itself. -/
  | char (c : Char) (quoted : Bool)
  | mark
  | parameter (name : String) (usage : Usage) (word : List Piece) (quoted : Bool)
  | output (commands : Option Command) (quoted : Bool)
  | sum (expression : List Piece) (quoted : Bool)

inductive Redirection
  | file (stream : Nat) (direction : Direction) (word : List Piece)
  /-- A document that follows later; its text has a number. -/
  | document (stream number : Nat)

inductive Command
  | simple (line : Nat) (settings words : List (List Piece)) (redirections : List Redirection)
  | pipeline (commands : List Command) (background : Bool)
  | sequence (first second : Command)
  | both (first second : Command)
  | either (first second : Command)
  | negated (body : Command)
  | background (line : Nat) (body : Command) (redirections : List Redirection)
  | subshell (line : Nat) (body : Command) (redirections : List Redirection)
  | group (line : Nat) (body : Command) (redirections : List Redirection)
  | choice (condition yes : Command) (no : Option Command)
  | loop (verdict : Bool) (condition body : Command)
  | each (line : Nat) (name : String) (items : List (List Piece)) (body : Command)
  | select (line : Nat) (subject : List Piece)
      (branches : List (List (List Piece) × Option Command))
  | define (name : String) (body : Command)

end

abbrev Word := List Piece

def Word.plain? : Word → Option (List Char)
  | [] => some []
  | .char c false :: rest => (Word.plain? rest).map (c :: ·)
  | _ => none

def Word.text (w : Word) : String :=
  String.ofList (w.filterMap fun
    | .char c _ => some c
    | _ => none)

def Word.isQuoted (w : Word) : Bool :=
  w.any fun
    | .char _ quoted => quoted
    | .mark => true
    | _ => false

def isNameStart (c : Char) : Bool := c.isAlpha || c == '_'

def isNameChar (c : Char) : Bool := c.isAlphanum || c == '_'

def isName (s : List Char) : Bool :=
  match s with
  | [] => false
  | c :: rest => isNameStart c && rest.all isNameChar

def Word.assignment? (w : Word) : Option (String × Word) :=
  go [] w
where
  go (name : List Char) : Word → Option (String × Word)
    | .char '=' false :: rest =>
      if isName name.reverse then some (String.ofList name.reverse, rest) else none
    | .char c false :: rest => if isNameChar c then go (c :: name) rest else none
    | _ => none

end TestRig.Rehearsal.Shell
