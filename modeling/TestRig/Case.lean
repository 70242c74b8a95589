import TestRig.Text.Lines

/-!
Test cases: a target, and the name of a case inside it. The qualified form puts two colons between
the two and is read at the first such pair.
-/

namespace TestRig

structure Case where
  target : String
  name : String
deriving DecidableEq, Repr

namespace Case

def separator : List Char := [':', ':']

/-- Both parts must hold some text. -/
def splitQualified? (s : List Char) : Option (List Char × List Char) :=
  match Text.splitAt? separator s with
  | some (target, name) => if target.isEmpty || name.isEmpty then none else some (target, name)
  | none => none

def ofQualified? (s : String) : Option Case :=
  (splitQualified? s.toList).map fun (target, name) => ⟨String.ofList target, String.ofList name⟩

def qualified (c : Case) : String := c.target ++ "::" ++ c.name

/-- Whether a name goes down into a module, and so names one case exactly. -/
def isExact (name : String) : Bool := Text.holds separator name.toList

end Case

end TestRig
