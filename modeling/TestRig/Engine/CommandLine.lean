import TestRig.Engine.Call
import TestRig.External
import TestRig.Text.Blank
import TestRig.Text.Lines
import TestRig.Text.Utf8

/-!
An engine driven through its command-line client. Each call becomes one invocation with a time
limit; the exit status decides between success and failure, and listings are read off the output.
-/

namespace TestRig.Engine.CommandLine

def namesOnly : List String := ["--format", "\x7b\x7b.Names\x7d\x7d"]

def arguments : Call → List String
  | .run spec =>
    ["run", "-d", "-p", toString spec.hostPort.toNat ++ ":" ++ toString spec.containerPort.toNat,
      "--memory=" ++ spec.memoryLimit, "--name", spec.name, spec.image]
  | .publishing port => ["ps", "--filter", "publish=" ++ toString port.toNat] ++ namesOnly
  | .matching pattern stopped =>
    ["ps"] ++ (if stopped then ["-a"] else []) ++ ["--filter", "name=" ++ pattern] ++ namesOnly
  | .logs name => ["logs", name]
  | .stop name grace => ["stop", "-t", toString grace.secs, name]
  | .kill name => ["kill", name]
  | .remove name => ["rm", "-f", name]
  | .pruneNetworks => ["network", "prune", "-f"]
  | .pruneVolumes => ["volume", "prune", "-f"]

/-- A launch may fetch the image, and a stop waits for its grace first. -/
def limit : Call → Duration
  | .run _ => .ofSecs 300
  | .publishing _ => .ofSecs 5
  | .matching _ _ => .ofSecs 5
  | .logs _ => .ofSecs 5
  | .stop _ grace => grace + .ofSecs 5
  | .kill _ => .ofSecs 10
  | .remove _ => .ofSecs 10
  | .pruneNetworks => .ofSecs 30
  | .pruneVolumes => .ofSecs 30

def command (client : String) (c : Call) : External.Command := ⟨client, arguments c, none, []⟩

def commandText (client : String) (c : Call) : String :=
  client ++ " " ++ " ".intercalate (arguments c)

def listedNames (out : List UInt8) : List String :=
  ((Text.lines (Text.Utf8.decode out)).map Text.trim).filter (!·.isEmpty) |>.map String.ofList

def result (out err : List UInt8) : (c : Call) → c.Answer
  | .run _ => ()
  | .publishing _ => listedNames out
  | .matching _ _ => listedNames out
  | .logs _ => (⟨Text.Utf8.text out, Text.Utf8.text err⟩ : Logs)
  | .stop _ _ => ()
  | .kill _ => ()
  | .remove _ => ()
  | .pruneNetworks => ()
  | .pruneVolumes => ()

/-- What an invocation answers that ended in this way, or did not end within its limit. -/
def answer (client : String) (c : Call) : Option External.Ending → Except Error c.Answer
  | none => .error (.timeout (commandText client c) (limit c))
  | some (.unstarted cause) => .error (.spawn (commandText client c) cause)
  | some (.exited status out err) =>
    if status = some 0 then .ok (result out err c)
    else .error (.failed (commandText client c) status
      (String.ofList (Text.trim (Text.Utf8.decode err))))

end TestRig.Engine.CommandLine
