import TestRig.Text.Decimal
import TestRig.Text.Lines

/-!
The grammar of one command's arguments: long and short keys, at most one plain argument, and whatever
follows two dashes. A key given without its value takes the next argument, unless that looks like a
key; what was taken is checked only when the next thing is recognised, so an argument that nothing
recognises is reported before it.
-/

namespace TestRig.Command

inductive UsageError
  | missingArgument
  | invalidValue
  | valueValidation
  | argumentConflict
  | unknownArgument
  | tooManyValues
  | invalidSubcommand
  | help
  | helpOnMissing
  | version
deriving DecidableEq, Repr

namespace UsageError

def kind : UsageError → String
  | missingArgument => "MissingRequiredArgument"
  | invalidValue => "InvalidValue"
  | valueValidation => "ValueValidation"
  | argumentConflict => "ArgumentConflict"
  | unknownArgument => "UnknownArgument"
  | tooManyValues => "TooManyValues"
  | invalidSubcommand => "InvalidSubcommand"
  | help => "DisplayHelp"
  | helpOnMissing => "DisplayHelpOnMissingArgumentOrSubcommand"
  | version => "DisplayVersion"

def exitCode : UsageError → Int
  | help => 0
  | version => 0
  | _ => 2

end UsageError

inductive Shape
  | escape
  | long (word : List Char) (value : Option (List Char))
  | short (letter : Char) (rest : List Char)
  | plain
deriving DecidableEq, Repr

/-- A single dash is plain; a long key may carry its value after an equals sign. -/
def Shape.of : List Char → Shape
  | ['-', '-'] => .escape
  | '-' :: '-' :: rest =>
    match Text.splitAt? ['='] rest with
    | some (word, value) => .long word (some value)
    | none => .long rest none
  | '-' :: letter :: rest => .short letter rest
  | _ => .plain

theorem Shape.of_eq_plain {s : List Char} (h : s.head? ≠ some '-') : Shape.of s = .plain := by
  unfold Shape.of
  split <;> simp_all

inductive Key
  | target
  | package
  | case
  | jobs
  | preflight
  | sandbox
  | someFeatures
  | help
deriving DecidableEq, Repr

namespace Key

def word : Key → String
  | target => "test"
  | package => "package"
  | case => "case"
  | jobs => "jobs"
  | preflight => "preflight"
  | sandbox => "instance"
  | someFeatures => "no-all-features"
  | help => "help"

def letter? : Key → Option Char
  | package => some 'p'
  | jobs => some 'j'
  | help => some 'h'
  | _ => none

def takesValue : Key → Bool
  | someFeatures => false
  | help => false
  | _ => true

def largestCount : Nat := 18446744073709551615

def count? (value : String) : Option Nat := Text.Decimal.read? largestCount value.toList

def accepts (k : Key) (value : String) : Bool :=
  match k with
  | jobs => (count? value).isSome
  | _ => true

end Key

/-- What one command understands. -/
structure Grammar where
  keys : List Key
  plain : Bool
  trailing : Bool

structure Reading where
  values : List (Key × String) := []
  plain : Option String := none
  trailing : List String := []
  /-- The last key that takes a value, and the value if one came. -/
  open? : Option (Key × Option String) := none
deriving DecidableEq, Repr

namespace Reading

def value? (r : Reading) (k : Key) : Option String := r.values.lookup k

def has (r : Reading) (k : Key) : Bool := (r.value? k).isSome

/-- Record a value; a second one for the same key is refused before the value is looked at. -/
def record (r : Reading) (k : Key) (value : String) : Except UsageError Reading :=
  if r.has k then .error .argumentConflict
  else if k.accepts value then .ok { r with values := r.values ++ [(k, value)] }
  else .error .valueValidation

def settle (r : Reading) : Except UsageError Reading :=
  match r.open? with
  | none => .ok r
  | some (_, none) => .error .invalidValue
  | some (k, some value) => { r with open? := none }.record k value

def key (r : Reading) (k : Key) (attached : Option String) : Except UsageError Reading := do
  match k.takesValue, attached with
  | false, some _ => .error .tooManyValues
  | true, some value => (← r.settle).record k value
  | true, none => return { ← r.settle with open? := some (k, none) }
  | false, none =>
    let r ← r.settle
    if k = .help then .error .help else r.record k ""

end Reading

namespace Grammar

def ofWord? (g : Grammar) (word : List Char) : Option Key :=
  g.keys.find? fun k => k.word.toList == word

def ofLetter? (g : Grammar) (letter : Char) : Option Key :=
  g.keys.find? fun k => k.letter? == some letter

/-- What is attached to a letter: the rest, less an equals sign at its start. -/
def attachment : List Char → Option String
  | [] => none
  | '=' :: value => some (String.ofList value)
  | value => some (String.ofList value)

def takePlain (g : Grammar) (r : Reading) (token : String) : Except UsageError Reading :=
  match r.open? with
  | some (k, none) => .ok { r with open? := some (k, some token) }
  | _ =>
    if g.plain ∧ r.plain = none then do return { ← r.settle with plain := some token }
    else .error .unknownArgument

def take (g : Grammar) (r : Reading) (token : String) : Except UsageError Reading :=
  match Shape.of token.toList with
  | .long word value =>
    match g.ofWord? word with
    | some k => r.key k (value.map String.ofList)
    | none => .error .unknownArgument
  | .short letter rest =>
    match g.ofLetter? letter with
    | some k => r.key k (if k.takesValue then attachment rest else none)
    | none => .error .unknownArgument
  | _ => g.takePlain r token

def takeTrailing (g : Grammar) (r : Reading) (rest : List String) : Except UsageError Reading :=
  if rest = [] ∨ g.trailing then do return { ← r.settle with trailing := rest }
  else .error .unknownArgument

def readFrom (g : Grammar) : (r : Reading) → List String → Except UsageError Reading
  | r, [] => r.settle
  | r, token :: rest =>
    if Shape.of token.toList = .escape then g.takeTrailing r rest
    else do g.readFrom (← g.take r token) rest

def read (g : Grammar) (args : List String) : Except UsageError Reading := g.readFrom {} args

end Grammar

end TestRig.Command
