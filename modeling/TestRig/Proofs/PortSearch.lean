import Mathlib.Tactic
import TestRig.Port.Lease
import TestRig.Proofs.EngineMemory
import TestRig.Proofs.HostRoutines

/-!
The search for a port, one candidate at a time, and what it passes through. It starts without a
lock, takes the lock of a candidate, looks at the candidate once more, and then either gives the
lock back or has its lease. `Stages` says this of any world; what the states stand for is left to
the world.
-/

namespace TestRig.Port

open Host (Routine)

namespace Allocator

def goOn (a : Allocator) (left : Nat) (port : Number) : Routine (Except LeaseError Lease) :=
  a.offset >>= fun offset => a.search left (a.range.next port offset)

/-- What the second look leads to: the lock given back and the next candidate, or the lease. -/
def settle (a : Allocator) (left : Nat) (port : Number) :
    Bool → Routine (Except LeaseError Lease)
  | true => Host.unlock (lockKey port) >>= fun _ => a.goOn left port
  | false => Host.clock >>= fun millis => pure (.ok ⟨port, millis⟩)

def afterLock (a : Allocator) (left : Nat) (port : Number) :
    Except SystemError Bool → Routine (Except LeaseError Lease)
  | .error cause => pure (.error (.lock (lockKey port) cause))
  | .ok false => a.goOn left port
  | .ok true => a.registry.publishes port >>= a.settle left port

theorem search_succ (a : Allocator) (left : Nat) (port : Number) :
    a.search (left + 1) port = (Host.bindable port >>= fun free =>
      if free then a.registry.publishes port >>= fun published =>
        if published then a.goOn left port else Host.lock (lockKey port) >>= a.afterLock left port
      else a.goOn left port) := by
  rw [search]
  simp only [take, bind_assoc]
  congr 1
  funext free
  cases free with
  | false => rfl
  | true =>
    simp only [Bool.not_true, Bool.false_eq_true, if_false, if_true, bind_assoc]
    congr 1
    funext published
    cases published with
    | true => rfl
    | false =>
      simp only [Bool.false_eq_true, if_false, bind_assoc]
      congr 1
      funext x
      match x with
      | .error e => rfl
      | .ok false => rfl
      | .ok true =>
        simp only [afterLock, bind_assoc]
        congr 1
        funext again
        cases again <;> rfl

end Allocator

theorem Registry.publishes_engine (port : Number) : Registry.engine.publishes port =
    Program.ask (I := Host.interface) (.engine (.publishing port))
      fun (x : Except Engine.Error (List String)) => .done (match x with
        | .ok names => !names.isEmpty
        | .error _ => false) := by
  refine congrArg (Program.ask _) (funext fun (x : Except Engine.Error (List String)) => ?_)
  cases x <;> rfl

variable {σ : Type}

/-- States that a search passes through: without a lock, with the lock of a port that is still to be
looked at, and with the lock of a port that the second look found free. -/
structure Stages (w : World Host.interface σ) (free : σ → Prop)
    (locked leased : Number → σ → Prop) : Prop where
  look : ∀ {q s}, free s → q.Within Engine.Call.Looks →
    w.Allows q s ∧ ∀ x s', w.Answers q s x s' → free s'
  lock : ∀ {port s}, free s → w.Allows (.lock (lockKey port)) s ∧
    ∀ x s', w.Answers (.lock (lockKey port)) s x s' →
      (x = .ok true → locked port s') ∧ (x ≠ .ok true → free s')
  again : ∀ {port s}, locked port s → w.Allows (.engine (.publishing port)) s ∧
    ∀ (x : Except Engine.Error (List String)) s', w.Answers (.engine (.publishing port)) s x s' →
      ((∃ name rest, x = .ok (name :: rest)) → locked port s') ∧
      ((x = .ok [] ∨ ∃ e, x = .error e) → leased port s')
  unlock : ∀ {port s}, locked port s → w.Allows (.unlock (lockKey port)) s ∧
    ∀ x s', w.Answers (.unlock (lockKey port)) s x s' → free s'
  hold : ∀ {port q s}, leased port s → (q.Within fun _ => False) →
    w.Allows q s ∧ ∀ x s', w.Answers q s x s' → leased port s'

namespace Stages

variable {w : World Host.interface σ} {free : σ → Prop} {locked leased : Number → σ → Prop} {s : σ}
  {a : Allocator}

def Ended (free : σ → Prop) (leased : Number → σ → Prop) : Except LeaseError Lease → σ → Prop
  | .ok lease, s => leased lease.port s
  | .error _, s => free s

theorem keeps_look (stages : Stages w free locked leased) {α : Type} {Q : α → σ → Prop}
    {q : Host.Ask} {next : q.Answer → Routine α} (h : free s) (looks : q.Within Engine.Call.Looks)
    (later : ∀ x s', free s' → w.Keeps (fun _ => True) (next x) Q s') :
    w.Keeps (fun _ => True) (.ask q next) Q s :=
  ⟨(stages.look h looks).1,
    fun x s' answered => ⟨trivial, later x s' ((stages.look h looks).2 x s' answered)⟩⟩

theorem keeps_hold (stages : Stages w free locked leased) {α : Type} {Q : α → σ → Prop}
    {q : Host.Ask} {next : q.Answer → Routine α} {port : Number} (h : leased port s)
    (apart : q.Within fun _ => False)
    (later : ∀ x s', leased port s' → w.Keeps (fun _ => True) (next x) Q s') :
    w.Keeps (fun _ => True) (.ask q next) Q s :=
  ⟨(stages.hold h apart).1,
    fun x s' answered => ⟨trivial, later x s' ((stages.hold h apart).2 x s' answered)⟩⟩

theorem keeps_secondLook (stages : Stages w free locked leased) (engine : a.registry = .engine)
    {left : Nat} {port : Number} (h : locked port s)
    (goOn : ∀ s, free s → w.Keeps (fun _ => True) (a.goOn left port) (Ended free leased) s) :
    w.Keeps (fun _ => True) (a.registry.publishes port >>= a.settle left port)
      (Ended free leased) s := by
  rw [engine, Registry.publishes_engine]
  refine ⟨(stages.again h).1, fun (x : Except Engine.Error (List String)) s' answered => ?_⟩
  refine ⟨trivial, ?_⟩
  have after := (stages.again h).2 x s' answered
  have lease : leased port s' → w.Keeps (fun _ => True) (a.settle left port false)
      (Ended free leased) s' := fun leased => stages.keeps_hold leased trivial fun _ _ held => held
  match x with
  | .error e => exact lease (after.2 (.inr ⟨e, rfl⟩))
  | .ok [] => exact lease (after.2 (.inl rfl))
  | .ok (name :: rest) =>
    have held : locked port s' := after.1 ⟨name, rest, rfl⟩
    exact ⟨(stages.unlock held).1, fun x s'' answered =>
      ⟨trivial, goOn s'' ((stages.unlock held).2 x s'' answered)⟩⟩

theorem keeps_search (stages : Stages w free locked leased) (engine : a.registry = .engine)
    (left : Nat) {port : Number} (h : free s) :
    w.Keeps (fun _ => True) (a.search left port) (Ended free leased) s := by
  induction left generalizing port s with
  | zero => exact h
  | succ left ih =>
    have goOn : ∀ s, free s → w.Keeps (fun _ => True) (a.goOn left port) (Ended free leased) s :=
      fun s h => stages.keeps_look h trivial fun _ _ h => ih h
    rw [Allocator.search_succ]
    refine stages.keeps_look h trivial fun (free : Bool) s h => ?_
    cases free with
    | false => exact goOn s h
    | true =>
      rw [engine, Registry.publishes_engine]
      refine stages.keeps_look h trivial fun (x : Except Engine.Error (List String)) s h => ?_
      have attempt : w.Keeps (fun _ => True) (Host.lock (lockKey port) >>= a.afterLock left port)
          (Ended free leased) s := by
        refine ⟨(stages.lock h).1, fun (x : Except SystemError Bool) s' answered => ⟨trivial, ?_⟩⟩
        have after := (stages.lock h).2 x s' answered
        match x with
        | .error e => exact after.2 nofun
        | .ok false => exact goOn s' (after.2 nofun)
        | .ok true =>
          have held : locked port s' := after.1 rfl
          exact stages.keeps_secondLook engine held goOn
      match x with
      | .error e => exact attempt
      | .ok [] => exact attempt
      | .ok (name :: rest) => exact goOn s h

theorem keeps_acquire (stages : Stages w free locked leased) (engine : a.registry = .engine)
    (h : free s) : w.Keeps (fun _ => True) a.acquire (Ended free leased) s :=
  stages.keeps_look h trivial fun _ _ h =>
    stages.keeps_look h trivial fun _ _ h => stages.keeps_search engine _ h

end Stages

end TestRig.Port
