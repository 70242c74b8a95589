import TestRig.External
import TestRig.Host
import TestRig.Path.SearchList
import TestRig.Text.Utf8

/-!
The wrapped test program, started in the root of the workspace. The directory this program itself
lies in leaves the search list first, so that a wrapper beside it is not found in its place; where
either is not known, the list is left as it is.
-/

namespace TestRig.TestProgram

def program : String := "cargo"

def searchVariable : String := "PATH"

/-- Where a test program is started from. -/
structure Site where
  root : String
  search : Option String
  /-- The directory this program lies in, if it can be told. -/
  own : Option String
deriving DecidableEq, Repr

def command (s : Site) (arguments : List String) : External.Command where
  program := program
  arguments := arguments
  directory := some s.root
  changes := match s.search, s.own with
    | some list, some own => [(searchVariable, some (Path.SearchList.strip list own))]
    | _, _ => []

def listCommand (s : Site) (i : Invocation) : External.Command := command s i.listArgs

def runCommand (s : Site) (i : Invocation) (values : Variables) : External.Command :=
  let c := command s i.runArgs
  { c with changes := c.changes ++ values.map fun (key, value) => (key, some value) }

/-- A listing counts whatever the exit status was. -/
def listing : External.Ending → Except SystemError Host.Listing
  | .unstarted cause => .error cause
  | .exited _ out err => .ok ⟨Text.Utf8.text out, Text.Utf8.text err⟩

def status : External.Ending → Except String (Option Int)
  | .unstarted cause => .error ("Failed to run cargo test: " ++ cause.message)
  | .exited status _ _ => .ok status

end TestRig.TestProgram
