import TestRig.Host
import TestRig.Text.Blank

/-!
Finding the cases of a target. The test program lists one case to a line, its name before a fixed
ending; every other line is noise. A listing without cases is a failure that quotes the errors the
program printed.
-/

namespace TestRig.Suite

open Host (Routine)

namespace Listing

def caseEnding : List Char := ": test".toList

def nameOn? (line : List Char) : Option (List Char) :=
  (Text.before? caseEnding (Text.trim line)).filter (!·.isEmpty)

/-- Whether a case belongs to a test: it has the test's name, or that name leads down to it. -/
def belongs (test name : List Char) : Bool :=
  name == test || (Text.after? (test ++ Case.separator) name).isSome

def isWanted (filter : Option (List Char)) (name : List Char) : Bool :=
  match filter with
  | none => true
  | some test => belongs test name

def names (text : List Char) (filter : Option (List Char)) : List (List Char) :=
  ((Text.lines text).filterMap nameOn?).filter (isWanted filter)

def parse (text : String) (filter : Option String) : List String :=
  (names text.toList (filter.map String.toList)).map String.ofList

/-- The lines that report an error, if there are any. -/
def errorLines (text : String) : Option String :=
  match (Text.lines text.toList).filter (Text.holds "error:".toList) with
  | [] => none
  | found => some (String.ofList (Text.joined '\n' found))

end Listing

inductive DiscoveryError
  | spawn (cause : SystemError)
  | noCases (target : String) (detail : Option String)
deriving DecidableEq, Repr

def DiscoveryError.message : DiscoveryError → String
  | spawn cause => "failed to run test listing: " ++ cause.message
  | noCases target none => "no test cases found in `" ++ target ++ "`"
  | noCases target (some detail) => "no test cases found in `" ++ target ++ "`:\n" ++ detail

def casesIn (target : String) (filter : Option String) (l : Host.Listing) :
    Except DiscoveryError (List Case) :=
  match (Listing.parse l.out filter).map (Case.mk target) with
  | [] => .error (.noCases target (Listing.errorLines l.err))
  | cases => .ok cases

def discover (i : Invocation) (filter : Option String) :
    Routine (Except DiscoveryError (List Case)) := do
  match ← Host.list i with
  | .error cause => return .error (.spawn cause)
  | .ok listing => return casesIn i.target filter listing

end TestRig.Suite
