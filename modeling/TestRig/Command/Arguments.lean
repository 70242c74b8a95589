import TestRig.Command.Grammar

/-!
The commands and their arguments. The first argument names the command; without one, help is what is
left to show. The test target is the only argument that has to be there.
-/

namespace TestRig.Command

structure TestOptions where
  target : String
  package : Option String := none
  someFeatures : Bool := false
  jobs : Option Nat := none
  preflight : Option String := none
  name : Option String := none
  extra : List String := []
deriving DecidableEq, Repr

structure WorkerOptions where
  target : String
  package : Option String := none
  case : Option String := none
  someFeatures : Bool := false
  extra : List String := []
deriving DecidableEq, Repr

inductive Arguments
  | test (options : TestOptions)
  | worker (options : WorkerOptions)
  | cleanup (name : Option String)
deriving DecidableEq, Repr

namespace Arguments

def testGrammar : Grammar where
  keys := [.target, .package, .someFeatures, .jobs, .preflight, .help]
  plain := true
  trailing := true

def workerGrammar : Grammar where
  keys := [.target, .package, .case, .someFeatures, .help]
  plain := false
  trailing := true

def cleanupGrammar : Grammar where
  keys := [.sandbox, .help]
  plain := false
  trailing := false

def targetOf (r : Reading) : Except UsageError String :=
  match r.value? .target with
  | some target => .ok target
  | none => .error .missingArgument

def readTest (args : List String) : Except UsageError Arguments := do
  let r ← testGrammar.read args
  return .test
    { target := ← targetOf r
      package := r.value? .package
      someFeatures := r.has .someFeatures
      jobs := (r.value? .jobs).bind Key.count?
      preflight := r.value? .preflight
      name := r.plain
      extra := r.trailing }

def readWorker (args : List String) : Except UsageError Arguments := do
  let r ← workerGrammar.read args
  return .worker
    { target := ← targetOf r
      package := r.value? .package
      case := r.value? .case
      someFeatures := r.has .someFeatures
      extra := r.trailing }

def readCleanup (args : List String) : Except UsageError Arguments := do
  let r ← cleanupGrammar.read args
  return .cleanup (r.value? .sandbox)

def commands : List (String × (List String → Except UsageError Arguments)) :=
  [("test", readTest), ("worker", readWorker), ("cleanup", readCleanup)]

def helpWord : String := "help"

def words : List String := commands.map Prod.fst ++ [helpWord]

def readHelp : List String → Except UsageError Arguments
  | [] => .error .help
  | [word] => if words.contains word then .error .help else .error .invalidSubcommand
  | _ => .error .invalidSubcommand

def leading (long : Bool) (word : List Char) : Except UsageError Arguments :=
  if word = (if long then "help".toList else ['h']) then .error .help
  else if word = (if long then "version".toList else ['V']) then .error .version
  else .error .unknownArgument

/-- Nothing may follow two dashes here, and a command least of all. -/
def afterDashes : List String → Except UsageError Arguments
  | [] => .error .helpOnMissing
  | word :: _ =>
    if words.contains word then .error .unknownArgument else .error .invalidSubcommand

def read : List String → Except UsageError Arguments
  | [] => .error .helpOnMissing
  | first :: rest =>
    match Shape.of first.toList with
    | .escape => afterDashes rest
    | .long word none => leading true word
    | .long word (some _) =>
      match leading true word with
      | .error .unknownArgument => .error .unknownArgument
      | _ => .error .tooManyValues
    | .short letter _ => leading false [letter]
    | .plain =>
      if first = helpWord then readHelp rest
      else match commands.lookup first with
        | some command => command rest
        | none => .error .invalidSubcommand

end Arguments

end TestRig.Command
