import TestRig.Cancellation
import TestRig.Rehearsal.Installed
import TestRig.Suite.Supervision

/-!
Workers that run side by side on one stand-in system. Each is supervised as a worker process is; all
of them share the files and the clock of the system. The interrupt comes at once, with one of the
launches, or once enough files have been left by the scripts.
-/

namespace TestRig.Rehearsal

open Host (Result)
open Kernel (Moment)
open Suite (Worker.interface)

inductive Task
  | script (text : String)
  | program (path : String)
deriving DecidableEq, Repr

namespace Task

def readyPath : String := "/ready"

def readyPlace : Place := ["ready"]

def home : Place := ["work"]

def environment : Variables :=
  Installed.environment ++ [("READY", readyPath), ("RUST_LOG", "off")]

def files : Files := (Disk.settle Installed.machine home).put readyPlace .directory

def routine? (f : Files) : Task → Except SystemError (Kernel.Routine Nat)
  | script text =>
    if text.contains '\u0000' then .error .nulInWord
    else Installed.find f "/bin/sh" ["-c", text] environment
  | program path =>
    if path.contains '\u0000' then .error .nulInWord else Installed.find f path [] environment

end Task

/-- One worker under supervision, and when its supervisor last asked something. -/
structure Post where
  position : Nat
  task : Task
  pid : Option Kernel.Pid := none
  rest : Suite.Worker.Routine Result
  asked : Moment

namespace Post

def micros (d : Duration) : Moment := d.nanos / 1000

def deadline? (p : Post) : Option Moment :=
  match p.rest with
  | .ask (.exitWithin limit) _ => some (p.asked + micros limit)
  | .ask (.drain _ limit) _ => some (p.asked + micros limit)
  | _ => none

end Post

structure Member where
  position : Nat
  case : Case
deriving Repr

structure Crew where
  tasks : List (String × Task) := []
  settings : Suite.Worker.Settings := {}
  kernel : Kernel := { files := Task.files }
  cancelAt : Option Moment := none
  /-- The launch that brings the interrupt, counted from one. -/
  cancelAtLaunch : Option Nat := none
  /-- How many files bring the interrupt. -/
  cancelWhenReady : Option Nat := none
  launched : List Member := []
  posts : List Post := []
  finished : List (Nat × Result) := []

namespace Crew

def noticeTime : Moment := 5000

def startTime : Moment := 1000

def interruptAt (c : Crew) : Option Moment :=
  if c.cancelAt.isNone && c.cancelWhenReady == some 0 then some 0 else c.cancelAt

def requested (c : Crew) : Bool := c.interruptAt.any (· ≤ c.kernel.now)

def cancel (c : Crew) : Crew := { c with cancelAt := some (c.cancelAt.getD c.kernel.now) }

def launch (c : Crew) (position : Nat) (case : Case) : Crew :=
  let task := (c.tasks.lookup case.name).getD (.script ":")
  let rest := Suite.Worker.supervise c.settings case
  let c := { c with
    launched := c.launched ++ [⟨position, case⟩]
    posts := c.posts ++ [{ position, task, rest, asked := c.kernel.now }] }
  if c.cancelAtLaunch = some c.launched.length then c.cancel else c

def status? (c : Crew) (p : Post) : Option Suite.Worker.Status :=
  (p.pid.bind c.kernel.ending?).map fun
    | .exited code => some (code : Int)
    | .killed _ => none

def signal (c : Crew) (p : Post) (n : Kernel.Signal) : Kernel :=
  match p.pid with
  | some pid => (c.kernel.deliver pid n).2
  | none => c.kernel

def isOver (c : Crew) (p : Post) (limit : Duration) : Bool :=
  p.asked + Post.micros limit ≤ c.kernel.now

def answer (c : Crew) (p : Post) : (q : Suite.Worker.Ask) → Option (q.Answer × Post × Kernel)
  | .spawn =>
    match p.task.routine? c.kernel.files with
    | .ok routine =>
      let (pid, kernel) := c.kernel.launch p.position routine startTime
      some ((.ok () : Except SystemError Unit), { p with pid := some pid }, kernel)
    | .error e => some ((.error e : Except SystemError Unit), p, c.kernel)
  | .exitOrInterrupt =>
    match c.status? p with
    | some status => some ((some status : Option Suite.Worker.Status), p, c.kernel)
    | none =>
      if c.requested then some ((none : Option Suite.Worker.Status), p, c.kernel) else none
  | .terminate => some ((), p, c.signal p Kernel.Signal.terminate)
  | .exitWithin limit =>
    match c.status? p with
    | some status => some ((some status : Option Suite.Worker.Status), p, c.kernel)
    | none =>
      if c.isOver p limit then some ((none : Option Suite.Worker.Status), p, c.kernel) else none
  | .kill => some ((), p, c.signal p Kernel.Signal.kill)
  | .exit => (c.status? p).map fun status => (status, p, c.kernel)
  | .drain channel limit =>
    if !c.kernel.isOpen p.position channel || c.isOver p limit then some ((), p, c.kernel) else none
  | .output => some (c.kernel.chunks p.position, p, c.kernel)

def proceed (c : Crew) (p : Post) : Suite.Worker.Routine Result → Crew
  | .done r => { c with finished := c.finished ++ [(p.position, r)] }
  | .ask q next =>
    match c.answer p q with
    | none => { c with posts := c.posts ++ [{ p with rest := .ask q next }] }
    | some (x, p, kernel) => { c with kernel }.proceed { p with asked := kernel.now } (next x)

def attend (c : Crew) : Crew :=
  c.posts.foldl (fun c p => c.proceed p p.rest) { c with posts := [] }

def notice (c : Crew) : Crew :=
  match c.cancelAt, c.cancelWhenReady with
  | none, some n =>
    if (c.kernel.files.namesIn Task.readyPlace).length < n then c
    else { c with cancelAt := some (c.kernel.now + noticeTime) }
  | _, _ => c

def nextAlarm? (c : Crew) : Option Moment :=
  let alarms := c.posts.filterMap Post.deadline? ++ (c.interruptAt.filter (c.kernel.now < ·)).toList
  alarms.min?

/-- Go on to whatever happens next: a step of the system before anything else at its time. -/
def advance (c : Crew) : Option Crew :=
  let alarm := c.nextAlarm?
  match c.kernel.due?, alarm with
  | some (time, _), some limit =>
    if time ≤ limit then stepped else some ({ c with kernel := { c.kernel with now := limit } })
  | some _, none => stepped
  | none, some limit => some ({ c with kernel := { c.kernel with now := limit } })
  | none, none => none
where
  stepped : Option Crew := (c.kernel.step Installed.load).map fun kernel => { c with kernel }.notice

def enough : Nat := 1000000000

def awaitWithin (watching : Bool) : (fuel : Nat) → (c : Crew) → Option (Nat × Result) × Crew
  | 0, c => (none, c)
  | fuel + 1, c =>
    let c := c.attend
    match c.finished with
    | result :: rest => (some result, { c with finished := rest })
    | [] =>
      if watching && c.requested then (none, c)
      else match c.advance with
        | some c => awaitWithin watching fuel c
        | none => (none, c)

def await (c : Crew) (watching : Bool) : Option (Nat × Result) × Crew :=
  awaitWithin watching enough c

end Crew

end TestRig.Rehearsal
