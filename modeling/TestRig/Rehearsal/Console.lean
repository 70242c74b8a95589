import TestRig.Command.Execution
import TestRig.Locks
import TestRig.Rehearsal.Dice
import TestRig.Rehearsal.Disk
import TestRig.Rehearsal.Tools
import TestRig.Suite.Supervision

/-!
The whole program on a machine with scripted external programs, where no sandbox ever answers.
Workers are the program again, each in a process of its own with its own variables. A signal comes
once so many external programs were started; it is noticed by whoever is waiting then, and the first
process passes it on to the workers. A worker that goes on too long after that is killed.
-/

namespace TestRig.Rehearsal

open Host (Result Listing)

/-- What all processes share. -/
structure World where
  tools : Tools := {}
  locks : Locks := {}
  dice : Dice := {}
  /-- How many external programs are started before the signal comes. -/
  signalAfter : Option Nat := none

namespace World

def signalled (w : World) : Bool :=
  match w.signalAfter with
  | some n => n ≤ w.tools.record.length
  | none => false

end World

structure Seat where
  values : Variables
  around : Command.Surroundings
  held : List (String × Place) := []
  cancelled : Bool := false
  waited : Option Duration := none
  /-- Time spent waiting since the signal was passed on. -/
  elapsed : Duration := ⟨0⟩
  out : String := ""
  err : String := ""
  transcript : List UInt8 := []

namespace Seat

def lookup (s : Seat) : Command.Lookup := fun key => s.values.lookup key

def config? (s : Seat) : Option Command.Config :=
  (Command.Config.ofLookup s.around s.lookup).toOption

def say (s : Seat) (channel : Host.Channel) (bytes : List UInt8) : Seat :=
  let s := { s with transcript := s.transcript ++ bytes }
  match channel with
  | .out => { s with out := s.out ++ Text.Utf8.text bytes }
  | .err => { s with err := s.err ++ Text.Utf8.text bytes }

def site (s : Seat) : TestProgram.Site where
  root := (s.config?.map (·.workspaceRoot)).getD s.around.directory
  search := s.lookup TestProgram.searchVariable
  own := some "/"

def lockDir (s : Seat) : String := (s.config?.map (·.lockDir)).getD s.around.temporary

end Seat

def consoleTime : Nat := 4102444800000

def endless : Duration := .ofSecs 1000000

def World.reply (w : World) (s : Seat) : (q : Host.Ask) → q.Answer × World × Seat
  | .engine call =>
    let (ending, tools) := w.tools.startEngine call
    let waited := if ending.isNone then some (Engine.CommandLine.limit call) else none
    (Engine.CommandLine.answer Tools.client call ending, { w with tools }, { s with waited })
  | .probe _ => (.unhealthy, w, s)
  | .pause length => ((), w, { s with waited := some length })
  | .say channel text => ((), w, s.say channel (Text.Utf8.encode text))
  | .clock => (consoleTime, w, s)
  | .draw bound =>
    let (number, dice) := w.dice.roll bound
    (number, { w with dice }, s)
  | .bindable _ => (true, w, s)
  | .lock key =>
    let (answer, locks) := w.locks.acquire s.lockDir key s.around.pid
    match answer with
    | .ok (some place) => ((.ok true : Except SystemError Bool), { w with locks },
        { s with held := (key, place) :: s.held })
    | .ok none => ((.ok false : Except SystemError Bool), { w with locks }, s)
    | .error e => ((.error e : Except SystemError Bool), { w with locks }, s)
  | .unlock key =>
    match s.held.lookup key with
    | some place => ((), { w with locks := w.locks.release place },
        { s with held := s.held.filter (·.1 ≠ key) })
    | none => ((), w, s)
  | .list i =>
    let (ending, tools) := w.tools.startTests w.locks.files s.lookup
      (TestProgram.listCommand s.site i)
    match ending with
    | some e => (TestProgram.listing e, { w with tools }, s)
    | none => ((.error .notFound : Except SystemError Listing), { w with tools },
        { s with waited := some endless })
  | .test i values =>
    let (ending, tools) := w.tools.startTests w.locks.files s.lookup
      (TestProgram.runCommand s.site i values)
    match ending with
    | some e =>
      let s := match e with
        | .exited _ out err => (s.say .out out).say .err err
        | .unstarted _ => s
      (TestProgram.status e, { w with tools }, s)
    | none => ((.ok none : Except String (Option Int)), { w with tools },
        { s with waited := some endless })
  | .launch _ _ => ((), w, s)
  | .completion true => ((none : Option (Nat × Result)), w, s)
  | .completion false => ((0, ⟨⟨"", ""⟩, "", none⟩), w, s)
  | .interrupted => (s.cancelled && s.waited.isSome, w, s)
  | .cancelRequested => (s.cancelled, w, s)
  | .write path mode text =>
    match Disk.write w.locks.files path mode text with
    | .ok files => ((.ok () : Except Host.WriteError Unit),
        { w with locks := { w.locks with files } }, s)
    | .error e => ((.error e : Except Host.WriteError Unit), w, s)

def Seat.passWait (s : Seat) (q : Host.Ask) : Seat :=
  if q = .interrupted then s
  else { s with elapsed := s.elapsed + s.waited.getD .zero, waited := none }

def World.answer (w : World) (s : Seat) (q : Host.Ask) : q.Answer × World × Seat :=
  w.reply (s.passWait q) q

/-- Where a worker has got to. -/
inductive Progress
  | ended (code : Option Int)
  | waiting (rest : Host.Routine Int)

def workerGrace : Duration := ({} : Suite.Worker.Settings).grace

/-- Run a worker until it ends, is killed, or waits while the signal is still to come. -/
def World.advance : Host.Routine Int → World → Seat → Progress × World × Seat
  | .done code, w, s => (.ended (some code), w, s)
  | .ask q next, w, s =>
    if s.cancelled ∧ workerGrace.nanos < s.elapsed.nanos then (.ended none, w, s)
    else if q = .interrupted ∧ s.waited.isSome ∧ !s.cancelled ∧ w.signalAfter.isSome then
      (.waiting (.ask q next), w, s)
    else
      let (x, w, s) := w.answer s q
      advance (next x) w s

structure Hand where
  position : Nat
  case : Case
  seat : Seat
  progress : Progress

structure Console where
  world : World
  seat : Seat
  launcher : Suite.Launcher
  hands : List Hand := []

namespace Console

def release (w : World) (s : Seat) : World :=
  { w with locks := s.held.foldl (fun locks (_, place) => locks.release place) w.locks }

def goOn (w : World) (h : Hand) : World × Hand :=
  match h.progress with
  | .ended _ => (w, h)
  | .waiting rest =>
    let (x, w, seat) := w.answer h.seat .interrupted
    let rest := match rest with
      | .ask .interrupted next => next x
      | other => other
    let (progress, w, seat) := w.advance rest { seat with waited := none }
    let w := match progress with
      | .ended _ => release w seat
      | .waiting _ => w
    (w, { h with seat, progress })

def goOnAll (w : World) : List Hand → World × List Hand
  | [] => (w, [])
  | h :: rest =>
    let (w, h) := goOn w h
    let (w, rest) := goOnAll w rest
    (w, h :: rest)

def launch (c : Console) (position : Nat) (case : Case) : Console :=
  let command := c.launcher.command case
  let changed := command.changes.filterMap fun (key, value) => value.map (key, ·)
  let kept := c.seat.values.filter fun (key, _) => !(command.changes.map Prod.fst).contains key
  let seat : Seat := { values := changed ++ kept, around := c.seat.around }
  let program := Command.run seat.around seat.lookup command.arguments
  let (progress, world, seat) := c.world.advance program seat
  let world := match progress with
    | .ended _ => release world seat
    | .waiting _ => world
  { c with world, hands := c.hands ++ [⟨position, case, seat, progress⟩] }

def resultOf? (h : Hand) : Option (Nat × Result) :=
  match h.progress with
  | .ended code => some (h.position, ⟨h.case, Text.Utf8.text h.seat.transcript, code⟩)
  | .waiting _ => none

def collect (c : Console) : Option ((Nat × Result) × Console) :=
  (c.hands.findSome? resultOf?).map fun (position, result) =>
    ((position, result), { c with hands := c.hands.filter (·.position ≠ position) })

def passOn (c : Console) : Console :=
  { c with hands := c.hands.map fun h =>
      { h with seat := { h.seat with cancelled := true, elapsed := .zero } } }

def goOnHands (c : Console) : Console :=
  let (world, hands) := goOnAll c.world c.hands
  { c with world, hands }

def await (watching : Bool) : (fuel : Nat) → Console → Option (Nat × Result) × Console
  | 0, c => (none, c)
  | fuel + 1, c =>
    match c.collect with
    | some (event, c) => (some event, c)
    | none =>
      if watching ∧ c.world.signalled then (none, c)
      else if c.world.signalled then await watching fuel c.passOn.goOnHands
      else await watching fuel c.goOnHands

def rounds : Nat := 10000

def completion (c : Console) : (watching : Bool) → (Host.Ask.completion watching).Answer × Console
  | true =>
    let (event, c) := await true rounds c
    ((event : Option (Nat × Result)), c)
  | false =>
    let (event, c) := await false rounds c
    ((event.getD (0, ⟨⟨"", ""⟩, "", none⟩) : Nat × Result), c)

def answer (q : Host.Ask) (c : Console) : q.Answer × Console :=
  let c := { c with seat := { c.seat with cancelled := c.world.signalled } }
  match q with
  | .launch position case => ((), { c with seat := c.seat.passWait q }.launch position case)
  | .completion watching => { c with seat := c.seat.passWait q }.completion watching
  | q =>
    let (x, world, seat) := c.world.answer c.seat q
    (x, { c with world, seat })

def machine : Machine Host.interface Console := ⟨answer⟩

end Console

def launcherOf (seat : Seat) (args : List String) : Suite.Launcher :=
  match Command.Arguments.read args, seat.config? with
  | .ok (.test o), some config => ⟨"", o.invocation config, config.owner⟩
  | _, _ => ⟨"", { package := "", target := "" }, 0⟩

def answersSignals (args : List String) : Bool :=
  match Command.Arguments.read args with
  | .ok (.cleanup _) => false
  | _ => true

def World.runUnguarded : Host.Routine Int → World → Seat → Option Int × World × Seat
  | .done code, w, s => (some code, w, s)
  | .ask q next, w, s =>
    let (x, w, s) := w.answer s q
    if w.signalled ∧ s.waited.isSome then (none, w, s) else runUnguarded (next x) w s

def Console.perform (world : World) (seat : Seat) (args : List String) : Option Int × Console :=
  let program := Command.run seat.around seat.lookup args
  let console : Console := { world, seat, launcher := launcherOf seat args }
  if answersSignals args then
    let (code, console) := machine.run program console
    (some code, console)
  else
    let (code, world, seat) := World.runUnguarded program world seat
    (code, { console with world, seat })

end TestRig.Rehearsal
