/-!
Terminal styling: a text between an opening sequence and a reset. A reset inside the text would end
the style early, so the opening sequence follows it again.
-/

namespace TestRig.Text

structure Style where
  bold : Bool := false
  dimmed : Bool := false
  color : Option Nat := none

namespace Style

def red : Style where color := some 31
def green : Style where color := some 32
def yellow : Style where color := some 33
def faint : Style where dimmed := true

def strong (s : Style) : Style := { s with bold := true }

/-- Emphasis comes before the color. -/
def codes (s : Style) : List Nat :=
  (if s.bold then [1] else []) ++ (if s.dimmed then [2] else []) ++ s.color.toList

def opening (s : Style) : List Char :=
  "\u001b[".toList ++ (";".intercalate (s.codes.map toString)).toList ++ ['m']

def reset : List Char := "\u001b[0m".toList

/-- Put `opening` after every reset in the text. -/
def reopen (opening : List Char) : (text : List Char) → List Char
  | '\u001b' :: '[' :: '0' :: 'm' :: rest => reset ++ opening ++ reopen opening rest
  | c :: rest => c :: reopen opening rest
  | [] => []

def apply (s : Style) (enabled : Bool) (text : String) : String :=
  if enabled && !s.codes.isEmpty then
    String.ofList (s.opening ++ reopen s.opening text.toList ++ reset)
  else text

end Style

end TestRig.Text
