import TestRig.Rehearsal.Shell.Command

/-!
Sums: whole numbers of 64 bits, variables by name, and the operators on them, some of which assign.
-/

namespace TestRig.Rehearsal.Shell.Sum

def wrap (n : Int) : Int := Int.bmod n 18446744073709551616

def greatest : Int := 9223372036854775807

def clamp (n : Int) : Int := max (-greatest - 1) (min greatest n)

def digitValue (c : Char) : Nat :=
  if c.isDigit then c.toNat - '0'.toNat
  else if c.isLower then c.toNat - 'a'.toNat + 10
  else if c.isUpper then c.toNat - 'A'.toNat + 10
  else 99

def number (base : Nat) (s : List Char) : Nat :=
  s.foldl (fun n c => n * base + digitValue c) 0

def digits (base : Nat) (s : List Char) : Nat × List Char :=
  (number base (s.takeWhile (digitValue · < base)), s.dropWhile (digitValue · < base))

/-- A number at the front of a text, in hexadecimal, octal or decimal by how it begins. -/
def readNumber (s : List Char) : Nat × List Char :=
  match s with
  | '0' :: x :: rest =>
    if (x = 'x' ∨ x = 'X') ∧ (rest.head?.any fun c => decide (digitValue c < 16)) then digits 16 rest
    else digits 8 s
  | _ => digits 10 s

def isSpace (c : Char) : Bool := c == ' ' || ('\t' ≤ c && c ≤ '\r')

def sign : List Char → Bool × List Char
  | '-' :: rest => (true, rest)
  | '+' :: rest => (false, rest)
  | rest => (false, rest)

def whole? (decimal : Bool) (s : String) : Option Int :=
  let (negative, rest) := sign (s.toList.dropWhile isSpace)
  let (n, tail) := if decimal then digits 10 rest else readNumber rest
  let value : Int := if negative then -(n : Int) else n
  if tail.length ≠ rest.length ∧ tail.all isSpace ∧ value = clamp value then some value else none

inductive Token
  | number (n : Int)
  | name (text : String)
  | sign (text : String)
deriving DecidableEq, Repr

/-- Binary operators by how tightly they bind, the loosest first. -/
def levels : List (List String) :=
  [["||"], ["&&"], ["|"], ["^"], ["&"], ["==", "!="], ["<=", ">=", "<", ">"], ["<<", ">>"],
   ["+", "-"], ["*", "/", "%"]]

def assigning : List String := ["<<", ">>", "+", "-", "*", "/", "%", "&", "|", "^"]

def signs : List String :=
  (assigning.map (· ++ "=") ++ levels.flatten ++ ["~", "!", "(", ")", "="]).mergeSort
    fun a b => b.length ≤ a.length

def tokens : (fuel : Nat) → List Char → List Token
  | 0, _ => []
  | _, [] => []
  | fuel + 1, c :: rest =>
    if c = ' ' ∨ c = '\t' ∨ c = '\n' then tokens fuel rest
    else if c.isDigit then
      let (n, tail) := readNumber (c :: rest)
      .number (clamp n) :: tokens fuel tail
    else if isNameStart c then
      .name (String.ofList (c :: rest.takeWhile isNameChar)) :: tokens fuel (rest.dropWhile isNameChar)
    else match signs.find? fun s => s.toList.isPrefixOf (c :: rest) with
      | some s => .sign s :: tokens fuel ((c :: rest).drop s.length)
      | none => [.sign (String.singleton c)]

inductive Failure
  | expression (what : String)
  | illegal (value : String)
deriving DecidableEq, Repr

structure State where
  rest : List Token
  assigned : List (String × String) := []

abbrev Working := StateT State (Except Failure)

def fail {α : Type} (what : String) : Working α := throw (.expression what)

def takeSign (choices : List String) : Working (Option String) := do
  let s ← get
  match s.rest with
  | .sign text :: rest =>
    if choices.contains text then
      set { s with rest }
      return some text
    else return none
  | _ => return none

def truth (b : Bool) : Int := if b then 1 else 0

def bits (n : Int) : Nat := (n % 18446744073709551616).toNat

def apply (sign : String) (a b : Int) : Working Int :=
  match sign with
  | "||" => return truth (a != 0 || b != 0)
  | "&&" => return truth (a != 0 && b != 0)
  | "|" => return wrap (bits a ||| bits b : Nat)
  | "^" => return wrap (bits a ^^^ bits b : Nat)
  | "&" => return wrap (bits a &&& bits b : Nat)
  | "==" => return truth (a == b)
  | "!=" => return truth (a != b)
  | "<" => return truth (decide (a < b))
  | ">" => return truth (decide (b < a))
  | "<=" => return truth (decide (a ≤ b))
  | ">=" => return truth (decide (b ≤ a))
  | "<<" => return wrap (bits a <<< (bits b % 64) : Nat)
  | ">>" => return a >>> (bits b % 64)
  | "+" => return wrap (a + b)
  | "-" => return wrap (a - b)
  | "*" => return wrap (a * b)
  | "/" => if b = 0 then fail "division by zero" else return wrap (Int.tdiv a b)
  | _ => if b = 0 then fail "division by zero" else return wrap (Int.tmod a b)

def valueOf (outside : String → Option String) (name : String) : Working Int := do
  let text := (((← get).assigned.lookup name).orElse fun _ => outside name).getD ""
  if text.toList.all isSpace then return 0
  match whole? false text with
  | some n => return n
  | none => throw (.illegal text)

section

variable (outside : String → Option String)

mutual

def assignment : (fuel : Nat) → Working Int
  | 0 => fail "expecting primary"
  | fuel + 1 => do
    let s ← get
    match s.rest with
    | .name name :: .sign sign :: rest =>
      match assigning.find? (· ++ "=" == sign), sign == "=" with
      | none, false => binary fuel levels
      | operator, _ =>
        set { s with rest }
        let right ← assignment fuel
        let value ← match operator with
          | none => pure right
          | some o => do apply o (← valueOf outside name) right
        modify fun s => { s with assigned := (name, toString value) :: s.assigned }
        return value
    | _ => binary fuel levels

def binary : (fuel : Nat) → List (List String) → Working Int
  | 0, _ => fail "expecting primary"
  | fuel + 1, [] => primary fuel
  | fuel + 1, level :: tighter => do chain fuel level tighter (← binary fuel tighter)

def chain : (fuel : Nat) → List String → List (List String) → Int → Working Int
  | 0, _, _, a => return a
  | fuel + 1, level, tighter, a => do
    match ← takeSign level with
    | none => return a
    | some sign => do chain fuel level tighter (← apply sign a (← binary fuel tighter))

def primary : (fuel : Nat) → Working Int
  | 0 => fail "expecting primary"
  | fuel + 1 => do
    let s ← get
    match s.rest with
    | [] => fail "expecting primary"
    | token :: rest =>
      set { s with rest }
      match token with
      | .number n => return n
      | .name name => valueOf outside name
      | .sign "(" => do
        let n ← assignment fuel
        if (← takeSign [")"]).isNone then fail "expecting ')'"
        return n
      | .sign "+" => primary fuel
      | .sign "-" => return wrap (-(← primary fuel))
      | .sign "~" => return wrap (-(← primary fuel) - 1)
      | .sign "!" => return truth ((← primary fuel) == 0)
      | .sign _ => fail "expecting primary"

end

def evaluate (text : String) : Except Failure (Int × List (String × String)) :=
  let all := tokens (text.length + 1) text.toList
  let work : Working Int := do
    let n ← assignment outside (16 * all.length + 64)
    if (← get).rest.isEmpty then return n else fail "expecting EOF"
  (work.run { rest := all }).map fun (n, s) => (n, s.assigned.reverse)

end

end TestRig.Rehearsal.Shell.Sum
