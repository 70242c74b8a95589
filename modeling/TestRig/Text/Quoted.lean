import TestRig.Text.Hidden

/-!
Text between double quotes, with a backslash before what would end it or not show.
-/

namespace TestRig.Text.Quoted

def hex (n : Nat) : List Char := Nat.toDigits 16 n

def escape (c : Char) : List Char :=
  if c = '\u0000' then ['\\', '0']
  else if c = '\t' then ['\\', 't']
  else if c = '\r' then ['\\', 'r']
  else if c = '\n' then ['\\', 'n']
  else if c = '\\' ∨ c = '"' then ['\\', c]
  else if isHidden c then ['\\', 'u', '\x7b'] ++ hex c.toNat ++ ['\x7d']
  else [c]

def value (s : String) : String :=
  String.ofList ('"' :: s.toList.flatMap escape ++ ['"'])

def option : Option String → String
  | none => "None"
  | some s => "Some(" ++ value s ++ ")"

def list (items : List String) : String :=
  "[" ++ ", ".intercalate (items.map value) ++ "]"

end TestRig.Text.Quoted
