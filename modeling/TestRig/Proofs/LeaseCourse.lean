import Mathlib.Tactic
import TestRig.Proofs.Guards
import TestRig.Proofs.PortSearch
import TestRig.Proofs.Site

/-!
A call for a lease from its first question to its last, whatever the host answers. The questions fall
into one examination for each candidate, in the order of the candidates, and each examination has
one of six ends. Which of them are met settles what the call returns, and which locks it leaves held.

The host is any machine at all: ports, containers and locks may change between any two questions.
-/

namespace TestRig.Port

abbrev Script := List (Event Host.interface)

theorem Registry.publishes_runs {r : Registry} {port : Number} {t : Script} {b : Bool}
    (run : Program.Runs (r.publishes port) t b) :
    ∃ x, Program.Runs (r port) t x ∧ (b = true ↔ x = .ok true) := by
  obtain ⟨t₁, x, t₂, asked, ended, rfl⟩ := Program.runs_bind.1 run
  cases x with
  | ok answer =>
    obtain ⟨rfl, rfl⟩ := Program.runs_done.1 ended
    exact ⟨.ok b, by simpa using asked, by simp⟩
  | error e =>
    obtain ⟨rfl, rfl⟩ := Program.runs_done.1 ended
    exact ⟨.error e, by simpa using asked, by simp⟩

def heldAfter (held : List String) : Event Host.interface → List String
  | ⟨.lock key, answer⟩ => match (answer : Except SystemError Bool) with
    | .ok true => key :: held
    | _ => held
  | ⟨.unlock key, _⟩ => held.erase key
  | _ => held

theorem heldAfter_of_leavesLocks {e : Event Host.interface} (h : e.question.LeavesLocks)
    (held : List String) : heldAfter held e = held := by
  obtain ⟨q, x⟩ := e
  cases q
  case lock => exact h.elim
  case unlock => exact h.elim
  all_goals rfl

theorem foldl_heldAfter {t : Script} (h : ∀ e ∈ t, e.question.LeavesLocks) (held : List String) :
    t.foldl heldAfter held = held := by
  induction t with
  | nil => rfl
  | cons e t ih =>
    obtain ⟨first, rest⟩ := List.forall_mem_cons.1 h
    rw [List.foldl_cons, heldAfter_of_leavesLocks first, ih rest]

/-- What becomes of a candidate; after a rejection, the number drawn for the next one. -/
inductive Outcome
  | rejected (drawn : Nat)
  | refused (cause : SystemError)
  | leased (since : Nat)

structure Exam where
  port : Number
  events : Script
  queries : List (Except Engine.Error Bool)
  outcome : Outcome

namespace Allocator

/-- The six ends of an examination. A look-up that fails counts as not published. -/
inductive Examined (a : Allocator) (port : Number) :
    Script → List (Except Engine.Error Bool) → Outcome → Prop
  | unbindable (n : Nat) : Examined a port
      [⟨.bindable port, false⟩, ⟨.draw a.range.jitter.toNat, n⟩] [] (.rejected n)
  | published {t} (first : Program.Runs (a.registry port) t (.ok true)) (n : Nat) :
      Examined a port
      (⟨.bindable port, true⟩ :: t ++ [⟨.draw a.range.jitter.toNat, n⟩]) [.ok true] (.rejected n)
  | contended {t x} (first : Program.Runs (a.registry port) t x) (unpublished : x ≠ .ok true)
      (n : Nat) : Examined a port
      (⟨.bindable port, true⟩ :: t ++
        [⟨.lock (lockKey port), Except.ok false⟩, ⟨.draw a.range.jitter.toNat, n⟩]) [x] (.rejected n)
  | refused {t x} (first : Program.Runs (a.registry port) t x) (unpublished : x ≠ .ok true)
      (cause : SystemError) : Examined a port
      (⟨.bindable port, true⟩ :: t ++ [⟨.lock (lockKey port), Except.error cause⟩]) [x]
      (.refused cause)
  | overtaken {t x t'} (first : Program.Runs (a.registry port) t x) (unpublished : x ≠ .ok true)
      (second : Program.Runs (a.registry port) t' (.ok true)) (n : Nat) : Examined a port
      (⟨.bindable port, true⟩ :: t ++ ⟨.lock (lockKey port), Except.ok true⟩ :: t' ++
        [⟨.unlock (lockKey port), ()⟩, ⟨.draw a.range.jitter.toNat, n⟩]) [x, .ok true] (.rejected n)
  | leased {t x t' y} (first : Program.Runs (a.registry port) t x) (unpublished : x ≠ .ok true)
      (second : Program.Runs (a.registry port) t' y) (unpublished' : y ≠ .ok true) (since : Nat) :
      Examined a port
      (⟨.bindable port, true⟩ :: t ++ ⟨.lock (lockKey port), Except.ok true⟩ :: t' ++
        [⟨.clock, since⟩]) [x, y] (.leased since)

variable {a : Allocator} {port : Number} {left : Nat} {t : Script}
  {result : Except LeaseError Lease}

theorem Examined.held {queries : List (Except Engine.Error Bool)} {outcome : Outcome}
    (h : a.Examined port t queries outcome)
    (apart : (a.registry port).Asks Host.Ask.LeavesLocks) (held : List String) :
    t.foldl heldAfter held = match outcome with
      | .leased _ => lockKey port :: held
      | _ => held := by
  have still : ∀ {t x}, Program.Runs (a.registry port) t x → ∀ held, t.foldl heldAfter held = held :=
    fun run => foldl_heldAfter (run.asks apart)
  cases h with
  | unbindable => rfl
  | published first => simp [still first, heldAfter]
  | contended first => simp [still first, heldAfter]
  | refused first => simp [still first, heldAfter]
  | overtaken first _ second => simp [still first, still second, heldAfter]
  | leased first _ second => simp [still first, still second, heldAfter]

def Onward (a : Allocator) (left : Nat) (port : Number) :
    Outcome → Script → Except LeaseError Lease → Prop
  | .rejected n, t, result => (a.search left (a.range.next port (.ofNat n))).Runs t result
  | .refused cause, t, result => t = [] ∧ result = .error (.lock (lockKey port) cause)
  | .leased since, t, result => t = [] ∧ result = .ok ⟨port, since⟩

theorem goOn_runs (run : (a.goOn left port).Runs t result) :
    ∃ (n : Nat) (t' : Script), a.Onward left port (.rejected n) t' result ∧
      t = ⟨.draw a.range.jitter.toNat, n⟩ :: t' :=
  Program.runs_ask.1 run

theorem secondLook_runs
    (run : (a.registry.publishes port >>= a.settle left port).Runs t result) :
    ∃ t₁ y t', Program.Runs (a.registry port) t₁ y ∧ t = t₁ ++ t' ∧
      ((y = .ok true ∧ ∃ (n : Nat) (t'' : Script),
          t' = ⟨.unlock (lockKey port), ()⟩ :: ⟨.draw a.range.jitter.toNat, n⟩ :: t'' ∧
          a.Onward left port (.rejected n) t'' result) ∨
        (y ≠ .ok true ∧ ∃ since : Nat,
          t' = [⟨.clock, since⟩] ∧ a.Onward left port (.leased since) [] result)) := by
  obtain ⟨t₁, again, t', looked, settled, rfl⟩ := Program.runs_bind.1 run
  obtain ⟨y, second, same⟩ := Registry.publishes_runs looked
  refine ⟨t₁, y, t', second, rfl, ?_⟩
  cases again with
  | true =>
    obtain ⟨_, t₂, wentOn, rfl⟩ := Program.runs_ask.1 settled
    obtain ⟨n, t'', onward, rfl⟩ := goOn_runs wentOn
    exact .inl ⟨same.1 rfl, n, t'', rfl, onward⟩
  | false =>
    obtain ⟨since, t₂, ended, rfl⟩ := Program.runs_ask.1 settled
    obtain ⟨rfl, rfl⟩ := Program.runs_done.1 ended
    exact .inr ⟨fun e => Bool.false_ne_true (same.2 e), since, rfl, rfl, rfl⟩

theorem search_succ_runs (run : (a.search (left + 1) port).Runs t result) :
    ∃ events queries outcome t', a.Examined port events queries outcome ∧
      a.Onward left port outcome t' result ∧ t = events ++ t' := by
  rw [search_succ] at run
  obtain ⟨free, t₁, asked, rfl⟩ := Program.runs_ask.1 run
  cases (free : Bool) with
  | false =>
    obtain ⟨n, t', onward, rfl⟩ := goOn_runs asked
    exact ⟨_, _, _, t', .unbindable n, onward, rfl⟩
  | true =>
    replace asked : (a.registry.publishes port >>= fun published => if published then
      a.goOn left port else Host.lock (lockKey port) >>= a.afterLock left port).Runs t₁ result :=
        asked
    obtain ⟨t₁, published, t₂, looked, tried, rfl⟩ := Program.runs_bind.1 asked
    obtain ⟨x, first, same⟩ := Registry.publishes_runs looked
    cases published with
    | true =>
      obtain rfl := same.1 rfl
      obtain ⟨n, t', onward, rfl⟩ := goOn_runs tried
      exact ⟨_, _, _, t', .published first n, onward, by simp⟩
    | false =>
      have unpublished : x ≠ .ok true := fun e => Bool.false_ne_true (same.2 e)
      obtain ⟨granted, t₃, locked, rfl⟩ := Program.runs_ask.1 tried
      match (granted : Except SystemError Bool) with
      | .error cause =>
        obtain ⟨rfl, rfl⟩ := Program.runs_done.1 locked
        exact ⟨_, _, _, [], .refused first unpublished cause, ⟨rfl, rfl⟩, by simp⟩
      | .ok false =>
        obtain ⟨n, t', onward, rfl⟩ := goOn_runs locked
        exact ⟨_, _, _, t', .contended first unpublished n, onward, by simp⟩
      | .ok true =>
        obtain ⟨t₄, y, t', second, rfl, ends⟩ := secondLook_runs locked
        obtain ⟨rfl, n, t'', rfl, onward⟩ | ⟨unpublished', since, rfl, onward⟩ := ends
        · exact ⟨_, _, _, t'', .overtaken first unpublished second n, onward, by simp⟩
        · exact ⟨_, _, _, [], .leased first unpublished second unpublished' since, onward, by simp⟩

inductive Searched (a : Allocator) :
    (left : Nat) → Number → List Exam → Except LeaseError Lease → Prop
  | spent (port : Number) : Searched a 0 port [] (.error (.exhausted a.attempts))
  | refused {left port events queries cause}
      (examined : a.Examined port events queries (.refused cause)) :
      Searched a (left + 1) port [⟨port, events, queries, .refused cause⟩]
        (.error (.lock (lockKey port) cause))
  | leased {left port events queries since}
      (examined : a.Examined port events queries (.leased since)) :
      Searched a (left + 1) port [⟨port, events, queries, .leased since⟩] (.ok ⟨port, since⟩)
  | rejected {left port events queries n exams result}
      (examined : a.Examined port events queries (.rejected n))
      (later : Searched a left (a.range.next port (.ofNat n)) exams result) :
      Searched a (left + 1) port (⟨port, events, queries, .rejected n⟩ :: exams) result

theorem searched_of_runs (run : (a.search left port).Runs t result) :
    ∃ exams, t = exams.flatMap Exam.events ∧ a.Searched left port exams result := by
  induction left generalizing port t with
  | zero =>
    obtain ⟨rfl, rfl⟩ := Program.runs_done.1 run
    exact ⟨[], rfl, .spent port⟩
  | succ left ih =>
    obtain ⟨events, queries, outcome, t', examined, onward, rfl⟩ := search_succ_runs run
    cases outcome with
    | rejected n =>
      obtain ⟨exams, rfl, searched⟩ := ih onward
      exact ⟨_, rfl, .rejected examined searched⟩
    | refused cause =>
      obtain ⟨rfl, rfl⟩ := onward
      exact ⟨_, rfl, .refused examined⟩
    | leased since =>
      obtain ⟨rfl, rfl⟩ := onward
      exact ⟨_, rfl, .leased examined⟩

namespace Searched

variable {exams : List Exam}

theorem examined (h : a.Searched left port exams result) :
    ∀ e ∈ exams, a.Examined e.port e.events e.queries e.outcome := by
  induction h with
  | spent => simp
  | refused examined => simpa using examined
  | leased examined => simpa using examined
  | rejected examined _ ih => exact List.forall_mem_cons.2 ⟨examined, ih⟩

theorem head_port (h : a.Searched left port exams result) : ∀ e ∈ exams.head?, e.port = port := by
  cases h <;> simp

theorem isChain (h : a.Searched left port exams result) : exams.IsChain fun e e' =>
    ∃ n, e.outcome = .rejected n ∧ e'.port = a.range.next e.port (.ofNat n) := by
  induction h with
  | spent => exact .nil
  | refused => exact .singleton _
  | leased => exact .singleton _
  | rejected _ later ih =>
    exact List.isChain_cons.2 ⟨fun e he => ⟨_, rfl, later.head_port e he⟩, ih⟩

theorem length_le (h : a.Searched left port exams result) : exams.length ≤ left := by
  induction h with
  | spent => simp
  | refused => simp
  | leased => simp
  | rejected _ _ ih => simpa using ih

theorem ok_iff (h : a.Searched left port exams result) (lease : Lease) :
    result = .ok lease ↔ ∃ e ∈ exams, e.port = lease.port ∧ e.outcome = .leased lease.since := by
  induction h with
  | spent => simp
  | refused => simp
  | leased =>
    cases lease
    simp
  | rejected _ _ ih => simpa using ih

theorem lock_iff (h : a.Searched left port exams result) (key : String) (cause : SystemError) :
    result = .error (.lock key cause) ↔
      ∃ e ∈ exams, key = lockKey e.port ∧ e.outcome = .refused cause := by
  induction h with
  | spent => simp
  | refused => simp [eq_comm]
  | leased => simp
  | rejected _ _ ih => simpa using ih

theorem exhausted_iff (h : a.Searched left port exams result) (n : Nat) :
    result = .error (.exhausted n) ↔ n = a.attempts ∧ exams.length = left ∧
      ∀ e ∈ exams, ∃ drawn, e.outcome = .rejected drawn := by
  induction h with
  | spent => simp [eq_comm]
  | refused => simp
  | leased => simp
  | rejected _ _ ih => simpa using ih

theorem held (h : a.Searched left port exams result)
    (apart : ∀ port, (a.registry port).Asks Host.Ask.LeavesLocks) (held : List String) :
    (exams.flatMap Exam.events).foldl heldAfter held = match result with
      | .ok lease => lockKey lease.port :: held
      | .error _ => held := by
  induction h with
  | spent => rfl
  | refused examined => simpa using examined.held (apart _) held
  | leased examined => simpa using examined.held (apart _) held
  | rejected examined _ ih =>
    rw [List.flatMap_cons, List.foldl_append, examined.held (apart _) held]
    exact ih

end Searched

/-- A call examines candidates from the seed on, each drawn after the one before it was rejected, as
long as there are attempts. The first that is not rejected settles it: leased, or its lock refused
by the system. Where the registry leaves the locks alone, a lease leaves one more lock held and an
error none. -/
theorem acquire_takes_first_free {σ : Type} (a : Allocator)
    (apart : ∀ port, (a.registry port).Asks Host.Ask.LeavesLocks)
    (m : Machine Host.interface σ) (s : σ) :
    ∃ (millis drawn : Nat) (exams : List Exam),
      m.events a.acquire s = ⟨.clock, millis⟩ :: ⟨.draw a.range.jitter.toNat, drawn⟩ ::
        exams.flatMap Exam.events ∧
      (∀ e ∈ exams, a.Examined e.port e.events e.queries e.outcome) ∧
      (∀ e ∈ exams.head?, e.port = a.range.seed a.pid millis (.ofNat drawn)) ∧
      exams.IsChain (fun e e' =>
        ∃ n, e.outcome = .rejected n ∧ e'.port = a.range.next e.port (.ofNat n)) ∧
      exams.length ≤ a.attempts ∧
      (∀ lease, (m.run a.acquire s).1 = .ok lease ↔
        ∃ e ∈ exams, e.port = lease.port ∧ e.outcome = .leased lease.since) ∧
      (∀ key cause, (m.run a.acquire s).1 = .error (.lock key cause) ↔
        ∃ e ∈ exams, key = lockKey e.port ∧ e.outcome = .refused cause) ∧
      (∀ n, (m.run a.acquire s).1 = .error (.exhausted n) ↔ n = a.attempts ∧
        exams.length = a.attempts ∧ ∀ e ∈ exams, ∃ drawn, e.outcome = .rejected drawn) ∧
      ∀ held, (m.events a.acquire s).foldl heldAfter held = match (m.run a.acquire s).1 with
        | .ok lease => lockKey lease.port :: held
        | .error _ => held := by
  have run := Program.runs_events m a.acquire s
  generalize m.events a.acquire s = t at run ⊢
  generalize (m.run a.acquire s).1 = result at run ⊢
  obtain ⟨millis, t₁, asked, rfl⟩ := Program.runs_ask.1 run
  obtain ⟨drawn, t₂, search, rfl⟩ := Program.runs_ask.1 asked
  obtain ⟨exams, rfl, searched⟩ := searched_of_runs search
  exact ⟨millis, drawn, exams, rfl, searched.examined, searched.head_port, searched.isChain,
    searched.length_le, searched.ok_iff, searched.lock_iff, searched.exhausted_iff,
    searched.held apart⟩

def fivePorts : Allocator := ⟨⟨8083, 5, 1⟩, .engine, 7, 2⟩

/-- A host where a container turns up on the first port as soon as it is locked; the state counts the
looks at the engine. -/
def overtaking : Machine Host.interface Nat where
  answer
    | .engine (.publishing _), looks => (.ok (if looks = 1 then ["late"] else []), looks + 1)
    | .lock _, looks => (.ok true, looks)
    | q, looks =>
      (((Site.smooth "locks" (fun _ => 7) ()).answer q ⟨{}, ⟨⟨{}, []⟩, fun _ => []⟩⟩).1, looks)

theorem acquire_takes_first_free_overtaken :
    (overtaking.run fivePorts.acquire 0).1 = .ok ⟨8086, 0⟩ ∧
    (overtaking.events fivePorts.acquire 0).foldl heldAfter [] = [lockKey 8086] ∧
    ∃ exams : List Exam, exams.length ≤ 2 ∧
      (∀ e ∈ exams, fivePorts.Examined e.port e.events e.queries e.outcome) ∧
      ∃ e ∈ exams, e.port = 8086 ∧ e.outcome = .leased 0 := by
  have second : (overtaking.run fivePorts.acquire 0).1 = .ok ⟨8086, 0⟩ := rfl
  obtain ⟨_, _, exams, -, examined, -, -, budget, ok, -, -, held⟩ := acquire_takes_first_free
    fivePorts (fun _ => ⟨trivial, fun x => by cases x <;> trivial⟩) overtaking 0
  have locked := held []
  rw [second] at locked
  exact ⟨second, locked, exams, budget, examined, (ok _).1 second⟩

end Allocator

end TestRig.Port
