import TestRig.Suite.Summary
import TestRig.Text.Blank

/-!
What a finished worker printed, echoed between markers. The banners that a test program writes over
lists of output are dropped where nothing stands between them and the next banner.
-/

namespace TestRig.Suite

open Host (Routine Result)

namespace Output

abbrev Line := List Char

def banners : List Line := ["successes:".toList, "failures:".toList]

def isBanner (line : Line) : Bool := banners.contains (Text.trim line)

def leadsToBanner (lines : List Line) : Bool :=
  match lines.find? (!Text.allBlank ·) with
  | some next => isBanner next
  | none => false

/-- Drop each banner that leads to another, and the blank lines in between. -/
def thinFrom : (dropping : Bool) → List Line → List Line
  | _, [] => []
  | dropping, line :: rest =>
    if isBanner line then
      if leadsToBanner rest then thinFrom true rest else line :: thinFrom false rest
    else if dropping && Text.allBlank line then thinFrom true rest
    else line :: thinFrom false rest

def thin (lines : List Line) : List Line := thinFrom false lines

def filterText (text : List Char) : List Char := Text.joined '\n' (thin (Text.pieces '\n' text))

def filter (text : String) : String := String.ofList (filterText text.toList)

end Output

def startMarker (name : String) : String := "TEST CASE: " ++ name

def endMarker (r : Result) : String :=
  startMarker r.case.name ++ " - " ++ r.label ++ " (exit code: " ++ r.codeText ++ ")"

def showBlock (styled : Bool) (r : Result) : Routine Unit := do
  let plain : Text.Style := ⟨false, false, none⟩
  let verdict := if r.passed then Text.Style.green else Text.Style.red
  Host.say .err ("\n" ++ rule ++ "\n" ++
    plain.strong.apply styled (startMarker r.case.name) ++ "\n" ++ rule ++ "\n")
  let text := Output.filter r.output
  if !text.isEmpty then Host.say .out text
  Host.say .err ("\n" ++ rule ++ "\n" ++ verdict.strong.apply styled (endMarker r) ++ "\n" ++
    rule ++ "\n\n")

end TestRig.Suite
