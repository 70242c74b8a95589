import TestRig.Engine.Memory
import TestRig.Locks
import TestRig.Rehearsal.Crew
import TestRig.Rehearsal.Dice
import TestRig.Rehearsal.Disk

/-!
A host to rehearse on: an engine in memory whose calls can be made to fail, sandboxes that become
healthy as scripted, a clock that only pauses move, locks in a tree of files, stand-in workers, and
everything said or asked kept for the record.
-/

namespace TestRig.Rehearsal

open Host (Channel Health Listing Result)

structure Prober where
  failures : Nat := 0
  never : Bool := false
  cancelAt : Option Nat := none
  asked : List Port.Number := []
deriving Repr

namespace Prober

def answer (p : Prober) (port : Port.Number) : Health × Prober :=
  (if p.never || p.asked.length < p.failures then .unhealthy else .healthy,
    { p with asked := port :: p.asked })

def cancels (p : Prober) : Bool := p.cancelAt == some p.asked.length

end Prober

inductive Performance (α : Type)
  | returns (value : α)
  | hangs
deriving Repr

structure TestStandIn where
  listing : Performance (Except SystemError Listing) := .returns (.ok ⟨"", ""⟩)
  cancelsListing : Bool := false
  run : Performance (Except String (Option Int)) := .returns (.ok none)
  cancelsRun : Bool := false
  runs : List (Invocation × Variables) := []
deriving Repr

structure Stage where
  engine : Engine.Memory := {}
  faults : List (String × Engine.Fault) := []
  /-- Ports on which a container turns up once somebody has asked for them. -/
  late : List Port.Number := []
  calls : List Engine.Call := []
  prober : Prober := {}
  tests : TestStandIn := {}
  crew : Crew := {}
  /-- Whether the last question made the program wait. -/
  suspended : Bool := false
  slept : Duration := ⟨0⟩
  out : String := ""
  err : String := ""
  locks : Locks := {}
  lockDir : String := "locks"
  pid : UInt32 := 4000
  bound : List Port.Number := []
  dice : Dice := {}

namespace Stage

def opening : Nat := 4102444800000

def fault? (s : Stage) (c : Engine.Call) : Option Engine.Error :=
  (s.faults.lookup c.label).map (·.of c)

def lateName (port : Port.Number) : String := "late-" ++ Text.Decimal.text port.toNat

def arrive (s : Stage) : Engine.Call → Stage
  | .publishing port =>
    if s.late.contains port then
      { s with engine := { s.engine with
          store := s.engine.store.insert ⟨lateName port, port, true⟩ } }
    else s
  | _ => s

def callEngine (s : Stage) (c : Engine.Call) : Except Engine.Error c.Answer × Stage :=
  let (answer, engine) := s.engine.serve (s.fault? c) c
  (answer, { s with engine, calls := c :: s.calls }.arrive c)

def probe (s : Stage) (port : Port.Number) : Health × Stage :=
  let (health, prober) := s.prober.answer port
  (health, { s with prober, crew := if prober.cancels then s.crew.cancel else s.crew })

def say (s : Stage) (channel : Channel) (text : String) : Stage :=
  match channel with
  | .out => { s with out := s.out ++ text }
  | .err => { s with err := s.err ++ text }

def cancelIf (s : Stage) (cancels : Bool) : Stage :=
  if cancels then { s with crew := s.crew.cancel } else s

def perform {α : Type} (s : Stage) (p : Performance α) (otherwise : α) : α × Stage :=
  match p with
  | .returns value => (value, s)
  | .hangs => (otherwise, { s with suspended := true })

def list (s : Stage) : Except SystemError Listing × Stage :=
  (s.cancelIf s.tests.cancelsListing).perform s.tests.listing (.error .notFound)

def test (s : Stage) (i : Invocation) (values : Variables) :
    Except String (Option Int) × Stage :=
  let s := { s with tests := { s.tests with runs := (i, values) :: s.tests.runs } }
  (s.cancelIf s.tests.cancelsRun).perform s.tests.run (.ok none)

def lock (s : Stage) (key : String) : Except SystemError Bool × Stage :=
  let (answer, locks) := s.locks.acquire s.lockDir key s.pid
  (answer.map Option.isSome, { s with locks })

def write (s : Stage) (path : String) (mode : Host.Writing) (text : String) :
    Except Host.WriteError Unit × Stage :=
  match Disk.write s.locks.files path mode text with
  | .ok files => (.ok (), { s with locks := { s.locks with files } })
  | .error e => (.error e, s)

def completion (s : Stage) : (watching : Bool) → (Host.Ask.completion watching).Answer × Stage
  | true =>
    let (event, crew) := s.crew.await true
    ((event : Option (Nat × Result)), { s with crew })
  | false =>
    let (event, crew) := s.crew.await false
    (event.getD (0, ⟨⟨"", ""⟩, "", none⟩), { s with crew })

def interrupted (s : Stage) : Bool := s.crew.requested && s.suspended

def reply (s : Stage) : (q : Host.Ask) → q.Answer × Stage
  | .engine call => s.callEngine call
  | .probe port => s.probe port
  | .pause length => ((), { s with slept := s.slept + length, suspended := length.nanos != 0 })
  | .say channel text => ((), s.say channel text)
  | .clock => (opening + s.slept.millis, s)
  | .draw bound =>
    let (number, dice) := s.dice.roll bound
    (number, { s with dice })
  | .bindable port => (!s.bound.contains port, s)
  | .lock key => s.lock key
  | .unlock key => ((), { s with locks := s.locks.releaseKey s.lockDir key })
  | .list _ => s.list
  | .test i values => s.test i values
  | .launch position case => ((), { s with crew := s.crew.launch position case })
  | .completion watching => s.completion watching
  | .interrupted => (s.interrupted, s)
  | .cancelRequested => (s.crew.requested, s)
  | .write path mode text => s.write path mode text

/-- Only the last question counts as a wait; asking for the interrupt leaves that as it is. -/
def answer (q : Host.Ask) (s : Stage) : q.Answer × Stage :=
  match q with
  | .interrupted => s.reply .interrupted
  | q => { s with suspended := false }.reply q

def machine : Machine Host.interface Stage := ⟨answer⟩

def run {α : Type} (s : Stage) (p : Host.Routine α) : α × Stage := machine.run p s

end Stage

end TestRig.Rehearsal
