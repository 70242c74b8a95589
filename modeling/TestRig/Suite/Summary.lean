import TestRig.Host
import TestRig.Path
import TestRig.Text.Json
import TestRig.Text.Styled
import TestRig.Text.Timestamp

/-!
Results of workers and the totals over them: the section printed at the end of a run, and the file
written for the runner. Only exit code zero passes.
-/

namespace TestRig

namespace Host.Result

def passed (r : Result) : Bool := r.code == some 0

def label (r : Result) : String := if r.passed then "PASSED" else "FAILED"

def codeText (r : Result) : String :=
  match r.code with
  | some code => toString code
  | none => "none"

end Host.Result

namespace Suite

open Host (Routine Result)

def ruleWidth : Nat := 80

def rule : String := String.ofList (List.replicate ruleWidth '=')

structure Summary where
  total : Nat
  passed : Nat
  failed : Nat
  failedCases : List String
deriving DecidableEq, Repr

namespace Summary

def ofResults (results : List Result) : Summary :=
  let failures := results.filter (!·.passed)
  { total := results.length
    passed := results.length - failures.length
    failed := failures.length
    failedCases := failures.map (·.case.name) }

def allPassed (s : Summary) : Bool := s.failed == 0

def headed (heading : String) (items : List String) : String :=
  if items.isEmpty then "" else heading ++ String.join items

def text (s : Summary) : String :=
  rule ++ "\nTEST SUMMARY\n" ++ rule ++ "\nTotal tests: " ++ toString s.total ++ "\nPassed: " ++
    toString s.passed ++ "\nFailed: " ++ toString s.failed ++ "\n" ++
    headed "\nFailed tests:\n" (s.failedCases.map fun name => "  - " ++ name ++ "\n")

def markdown (s : Summary) (target : String) : String :=
  "## Integration tests: `" ++ target ++ "`\n\n| Total | Passed | Failed |\n|---|---|---|\n| " ++
    toString s.total ++ " | " ++ toString s.passed ++ " | " ++ toString s.failed ++ " |\n" ++
    headed "\n**Failed tests**\n\n" (s.failedCases.map fun name => "- `" ++ name ++ "`\n")

def document (s : Summary) (target time : String) : Text.Json.Value :=
  .object [("target", .string target), ("generated_at", .string time), ("total", .number s.total),
    ("passed", .number s.passed), ("failed", .number s.failed),
    ("failed_cases", .list (s.failedCases.map .string))]

def announce (styled : Bool) (s : Summary) : Routine Unit :=
  let style := if s.allPassed then Text.Style.green else Text.Style.red
  Host.say .err ("\n" ++ style.apply styled s.text ++ "\n")

end Summary

inductive SummaryError
  | replacing (path : String) (cause : SystemError)
  | opening (path : String) (cause : SystemError)
  | appending (path : String) (cause : SystemError)
deriving DecidableEq, Repr

def SummaryError.message : SummaryError → String
  | replacing path cause =>
    "Failed to write summary to " ++ Text.Quoted.value path ++ ": " ++ cause.message
  | opening path cause =>
    "Failed to open summary file " ++ Text.Quoted.value path ++ ": " ++ cause.message
  | appending path cause =>
    "Failed to append summary to " ++ Text.Quoted.value path ++ ": " ++ cause.message

def SummaryError.ofWrite (path : String) : Host.Writing → Host.WriteError → SummaryError
  | .replace, e => replacing path e.cause
  | .append, .opening cause => opening path cause
  | .append, .writing cause => appending path cause

def isDocument (path : String) : Bool :=
  match Path.suffix? path.toList with
  | some ending => ending.map Char.toLower == ['j', 's', 'o', 'n']
  | none => false

/-- A document replaces the file; a section is appended to it. -/
def writeSummary (path target : String) (s : Summary) : Routine (Except SummaryError Unit) := do
  if isDocument path then
    let time := Text.Timestamp.text (← Host.clock)
    return (← Host.write path .replace ((s.document target time).render 0)).mapError
      (.ofWrite path .replace)
  else
    return (← Host.write path .append (s.markdown target)).mapError (.ofWrite path .append)

end Suite

end TestRig
