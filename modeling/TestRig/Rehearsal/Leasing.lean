import TestRig.Port.Lease
import TestRig.Rehearsal.Stage

/-!
Ports leased step by step, while containers, listeners and foreign locks come and go.
-/

namespace TestRig.Rehearsal

open Port (Number Lease LeaseError)

structure Leasing where
  allocator : Port.Allocator
  stage : Stage
  leases : List Lease := []
  foreign : List Number := []

namespace Leasing

inductive Step
  | acquire
  | acquirePlain
  | acquireAll
  | release (port : Number)
  | releaseAll
  | publish (port : Number)
  | unpublish (port : Number)
  | bind (port : Number)
  | unbind (port : Number)
  | lock (port : Number)
  | unlock (port : Number)
  | held
  | queries
  | names
deriving DecidableEq, Repr

inductive Reply
  | leased (port : Number) (inRange fresh timely : Bool)
  | failed (e : LeaseError)
  | refused (cause : SystemError)
  | changed (did : Bool)
  | count (n : Nat)
  | ports (all : List Number)
  | names (all : List String)
deriving DecidableEq, Repr

def ports (s : Leasing) : List Number :=
  (s.leases.map (·.port)).mergeSort fun a b => a ≤ b

def acquire (s : Leasing) (a : Port.Allocator) : Reply × Leasing :=
  let started := Stage.opening + s.stage.slept.millis
  let (answer, stage) := s.stage.run a.acquire
  let s' := { s with stage }
  match answer with
  | .error e => (.failed e, s')
  | .ok lease =>
    let ended := Stage.opening + stage.slept.millis
    (.leased lease.port (a.range.contains lease.port) (!s.ports.contains lease.port)
      (started ≤ lease.since && lease.since ≤ ended),
      { s' with leases := lease :: s'.leases })

def acquireAll (s : Leasing) : (fuel : Nat) → Reply × Leasing
  | 0 => (.changed false, s)
  | fuel + 1 =>
    match s.acquire s.allocator with
    | (.failed e, s) => (.failed e, s)
    | (_, s) => s.acquireAll fuel

def giveBack (s : Leasing) (lease : Lease) : Leasing :=
  { s with
    stage := (s.stage.run lease.release).2
    leases := s.leases.filter (·.port ≠ lease.port) }

def publishedName (port : Number) : String := "published-" ++ Text.Decimal.text port.toNat

def withStore (s : Leasing) (f : Engine.Store → Engine.Store) : Leasing :=
  { s with stage := { s.stage with
      engine := { s.stage.engine with store := f s.stage.engine.store } } }

def isPublished (s : Leasing) (port : Number) : Bool :=
  s.stage.engine.store.contains (publishedName port)

def publish (s : Leasing) (port : Number) : Leasing :=
  s.withStore (·.insert ⟨publishedName port, port, true⟩)

def lockForeign (s : Leasing) (port : Number) : Except SystemError Bool × Leasing :=
  match s.stage.run (Host.lock (Port.lockKey port)) with
  | (.ok true, stage) => (.ok true, { s with stage, foreign := port :: s.foreign })
  | (answer, stage) => (answer, { s with stage })

def unlockForeign (s : Leasing) (port : Number) : Bool × Leasing :=
  if s.foreign.contains port then
    (true, { s with
      stage := (s.stage.run (Host.unlock (Port.lockKey port))).2
      foreign := s.foreign.filter (· ≠ port) })
  else (false, s)

def names (s : Leasing) : List String :=
  match s.stage.locks.files.locate s.stage.lockDir with
  | .ok place => s.stage.locks.files.namesIn place
  | .error _ => []

def queries (s : Leasing) : Nat := s.stage.calls.countP (·.label == "ps-publish")

def perform (s : Leasing) : Step → Reply × Leasing
  | .acquire => s.acquire s.allocator
  | .acquirePlain => s.acquire
      { range := s.allocator.range, registry := .empty, pid := s.allocator.pid }
  | .acquireAll => s.acquireAll (s.allocator.range.span.toNat + s.allocator.range.jitter.toNat)
  | .release port =>
    match s.leases.find? (·.port == port) with
    | some lease => (.changed true, s.giveBack lease)
    | none => (.changed false, s)
  | .releaseAll => (.count s.leases.length, s.leases.foldl giveBack s)
  | .publish port => (.changed (!s.isPublished port), s.publish port)
  | .unpublish port =>
    (.changed (s.isPublished port), s.withStore (·.erase (publishedName port)))
  | .bind port =>
    (.changed (!s.stage.bound.contains port),
      { s with stage := { s.stage with
          bound := port :: s.stage.bound.filter (· ≠ port) } })
  | .unbind port =>
    (.changed (s.stage.bound.contains port),
      { s with stage := { s.stage with bound := s.stage.bound.filter (· ≠ port) } })
  | .lock port =>
    match s.lockForeign port with
    | (.ok did, s) => (.changed did, s)
    | (.error cause, s) => (.refused cause, s)
  | .unlock port =>
    let (did, s) := s.unlockForeign port
    (.changed did, s)
  | .held => (.ports s.ports, s)
  | .queries => (.count s.queries, s)
  | .names => (.names s.names, s)

def performAll (s : Leasing) : List Step → List Reply
  | [] => []
  | step :: rest =>
    let (reply, s) := s.perform step
    reply :: s.performAll rest

end Leasing

end TestRig.Rehearsal
