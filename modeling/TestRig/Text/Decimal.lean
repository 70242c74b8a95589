/-!
Whole numbers in decimal text. `render` writes no leading zero; `read` takes an optional plus sign
and one or more ASCII digits, leading zeros included, up to a bound. Of two faults the one further
left is reported.
-/

namespace TestRig.Text.Decimal

def digit (n : Nat) : Char := Char.ofNat (48 + n % 10)

def render (n : Nat) : List Char :=
  if n < 10 then [digit n] else render (n / 10) ++ [digit n]
termination_by n

def text (n : Nat) : String := String.ofList (render n)

inductive Fault
  | empty
  | notADigit
  | tooLarge
deriving DecidableEq, Repr

def Fault.message : Fault → String
  | empty => "cannot parse integer from empty string"
  | notADigit => "invalid digit found in string"
  | tooLarge => "number too large to fit in target type"

def digit? (c : Char) : Option Nat :=
  if '0' ≤ c ∧ c ≤ '9' then some (c.toNat - 48) else none

def readFrom (bound : Nat) : (value : Nat) → List Char → Except Fault Nat
  | value, [] => .ok value
  | value, c :: rest =>
    match digit? c with
    | none => .error .notADigit
    | some d => if bound < value * 10 + d then .error .tooLarge
      else readFrom bound (value * 10 + d) rest

def read (bound : Nat) : List Char → Except Fault Nat
  | [] => .error .empty
  | ['+'] => .error .notADigit
  | '+' :: rest => readFrom bound 0 rest
  | text => readFrom bound 0 text

def read? (bound : Nat) (s : List Char) : Option Nat := (read bound s).toOption

end TestRig.Text.Decimal
