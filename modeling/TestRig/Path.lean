import TestRig.Text.Lines

/-!
File paths as text. Two paths are the same when their components are: repeated and trailing slashes
and inner dots do not count, and a parent step is a component like any other.
-/

namespace TestRig.Path

inductive Component
  | root
  | here
  | parent
  | name (text : List Char)
deriving DecidableEq, Repr

def component? (piece : List Char) : Option Component :=
  if piece = [] ∨ piece = ['.'] then none
  else if piece = ['.', '.'] then some .parent
  else some (.name piece)

/-- A dot is a component only where it opens a relative path. -/
def components (path : List Char) : List Component :=
  let parts := Text.pieces '/' path
  match parts with
  | [] :: _ :: _ => .root :: parts.filterMap component?
  | ['.'] :: _ => .here :: parts.filterMap component?
  | _ => parts.filterMap component?

def same (a b : List Char) : Bool := components a == components b

def isAbsolute (path : List Char) : Bool := path.head? == some '/'

/-- An absolute `rest` replaces the directory; a slash is added only where none is. -/
def join (dir rest : String) : String :=
  if isAbsolute rest.toList then rest
  else if dir.isEmpty ∨ dir.toList.getLast? = some '/' then dir ++ rest
  else dir ++ "/" ++ rest

def fileName? (path : List Char) : Option (List Char) :=
  match (components path).getLast? with
  | some (.name text) => some text
  | _ => none

def suffix? (path : List Char) : Option (List Char) :=
  match fileName? path with
  | none => none
  | some file =>
    let ending := (file.reverse.takeWhile (· ≠ '.')).reverse
    if ending.length + 1 < file.length then some ending else none

end TestRig.Path
