import TestRig.SystemError

/-!
External programs: how one is to be started, and how one that was started ended.
-/

namespace TestRig.External

structure Command where
  program : String
  arguments : List String
  directory : Option String := none
  changes : List (String × Option String) := []
deriving DecidableEq, Repr

namespace Command

def words (c : Command) : List String := c.program :: c.arguments

/-- A text as a command keeps it: one with a NUL could never be handed over, and only its place is
kept. -/
def kept (text : String) : String :=
  if text.contains '\u0000' then "<string-with-nul>" else text

def keptWords (c : Command) : List String := c.words.map kept

def keptDirectory (c : Command) : Option String := c.directory.map kept

def texts (c : Command) : List String :=
  c.words ++ c.directory.toList ++
    c.changes.flatMap fun (key, value) => key :: value.toList

/-- The size, in bytes, from which a single argument is too long. -/
def longestArgument : Nat := 131072

def holdsNul (c : Command) : Bool := c.texts.any (·.contains '\u0000')

def isTooLong (c : Command) : Bool := c.words.any fun w => longestArgument ≤ w.utf8ByteSize

/-- Whether the command can be started: its texts have to be sound, its directory and its program
there. -/
def admission (c : Command) (directory program : Except SystemError Unit) :
    Except SystemError Unit := do
  if c.holdsNul then throw .nulInWord
  directory
  program
  if c.isTooLong then throw .tooManyArguments

def setting? (c : Command) (outside : String → Option String) (key : String) : Option String :=
  match c.changes.lookup key with
  | some value => value
  | none => outside key

end Command

/-- How a program ended; without a status if a signal ended it. -/
inductive Ending
  | exited (status : Option Int) (out err : List UInt8)
  | unstarted (cause : SystemError)
deriving DecidableEq, Repr

end TestRig.External
