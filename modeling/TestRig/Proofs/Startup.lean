import Mathlib.Tactic
import TestRig.Proofs.Site
import TestRig.Proofs.StopCalls
import TestRig.Proofs.Waiting

/-!
A start as a whole: the launch is refused, or the sandbox answers in time, or it is stopped again.
On an engine kept in memory, whichever of its calls fail, a start adds its own container or changes
none. What a launch collides with is left alone, because nothing is stopped before one succeeded.

A look-up by name or a removal that fails may leave the container, so both are taken to succeed.
-/

namespace TestRig

namespace Engine

def Call.fallible : Call → Bool
  | run _ => true
  | logs _ => true
  | stop _ _ => true
  | kill _ => true
  | _ => false

def Call.Spares (name : String) : Call → Prop
  | stop other _ => other ≠ name
  | kill other => other ≠ name
  | remove other => other ≠ name
  | _ => True

theorem Call.spares_of_removes {name other : String} (apart : other ≠ name) {c : Call}
    (h : c.Removes name) : c.Spares other := by
  cases c
  case stop | kill | remove =>
    obtain rfl := h
    exact apart.symm
  all_goals trivial

namespace Memory

variable {α : Type} {mayFail : Call → Prop} {m m' : Memory} {t : Host.Trace}

theorem run_cases {spec : Spec} {x : Except Error Unit}
    (answered : (host mayFail).Answers (.engine (.run spec)) m x m') :
    ((∃ e, x = .error e) ∧ m'.store = m.store) ∨
      x = .ok () ∧ m.store.contains spec.name = false ∧ ∃ served,
        m' = { m with store := m.store.insert ⟨spec.name, spec.hostPort, true⟩, served } := by
  obtain ⟨fault, -, served⟩ := answered
  cases fault with
  | some e =>
    obtain ⟨rfl, rfl⟩ := serve_some served
    exact .inl ⟨⟨e, rfl⟩, rfl⟩
  | none =>
    obtain ⟨rfl, absent, -, rfl⟩ | ⟨refused, store⟩ := launch_cases served
    · exact .inr ⟨rfl, absent, _, rfl⟩
    · refine .inl ⟨?_, store⟩
      cases x with
      | error e => exact ⟨e, rfl⟩
      | ok _ => exact absurd rfl refused

theorem eq_of_uncalled {p p' : Host.Routine α} (path : (host mayFail).Steps p m t p' m')
    (uncalled : Host.called t = []) : m' = m := by
  induction path with
  | refl => rfl
  | @ask q _ _ _ _ _ _ _ answered _ ih =>
    cases q
    case engine c => simp [Host.called] at uncalled
    all_goals exact (ih uncalled).trans answered

theorem runs_among {p : Routine α} {t : List (Event interface)} {a : α} (allowed : Call → Prop)
    (run : (host mayFail).engine.Runs p m t a m') :
    (among Eq mayFail allowed).Runs p m t a m' := by
  refine World.Steps.mono ?_ run
  rintro c m x m' ⟨fault, may, served⟩
  exact ⟨m, fault, rfl, may, served⟩

end Memory

end Engine

namespace Sandbox

open Engine (Call Memory)
open Host (Trace)

section

variable {σ : Type} {w : World Host.interface σ} {s : Settings} {port : Port.Number}
  {name : String} {u u' : σ} {t : Trace} {result : Except StartError Instance}

/-- The ways a start can go: refused, ready, or stopped again after a wait in vain. -/
inductive Starting (w : World Host.interface σ) (s : Settings) (port : Port.Number) (name : String)
    (u : σ) : Trace → Except StartError Instance → σ → Prop
  | refused {e : Engine.Error} {u' : σ}
      (answered : w.Answers (.engine (.run (s.spec port name))) u (.error e) u') :
      Starting w s port name u [⟨.engine (.run (s.spec port name)), .error e⟩]
        (.error (.launch name e)) u'
  | ready {u₁ u' : σ} {waited : Trace}
      (launched : w.Answers (.engine (.run (s.spec port name))) u (.ok ()) u₁)
      (waiting : w.Runs (waitReady s port name s.readyAttempts) u₁ waited true u') :
      Starting w s port name u (⟨.engine (.run (s.spec port name)), .ok ()⟩ :: waited)
        (.ok ⟨name, port, .ready, false⟩) u'
  | unready {u₁ u₂ u' : σ} {waited : Trace} {stops : Transcript} {report : StopReport}
      (launched : w.Answers (.engine (.run (s.spec port name))) u (.ok ()) u₁)
      (waiting : w.Runs (waitReady s port name s.readyAttempts) u₁ waited false u₂)
      (stopping : w.engine.Runs (stop s.stopGrace name) u₂ stops report u') :
      Starting w s port name u
        (⟨.engine (.run (s.spec port name)), .ok ()⟩ :: (waited ++ stops.map Host.ofCall))
        (.error (.notReady name s.readyAttempts)) u'

theorem starting_of_runs (run : w.Runs (start s port name) u t result u') :
    Starting w s port name u t result u' := by
  obtain ⟨(x : Except Engine.Error Unit), u₁, t₁, launched, later, rfl⟩ := World.runs_ask.1 run
  cases x with
  | error e =>
    obtain ⟨rfl, rfl, rfl⟩ := World.runs_done.1 later
    exact .refused launched
  | ok _ =>
    replace later : w.Runs (waitReady s port name s.readyAttempts >>= _) u₁ t₁ result u' := later
    obtain ⟨waited, ready, u₂, t₂, waiting, onward, rfl⟩ := World.runs_bind.1 later
    cases ready with
    | true =>
      obtain ⟨rfl, rfl, rfl⟩ := World.runs_done.1 onward
      rw [List.append_nil]
      exact .ready launched waiting
    | false =>
      obtain ⟨t₃, report, u₃, t₄, stopped, ended, rfl⟩ := World.runs_bind.1 onward
      obtain ⟨rfl, rfl, rfl⟩ := World.runs_done.1 ended
      obtain ⟨stops, stopping, rfl⟩ := World.runs_ofEngine.1 stopped
      rw [List.append_nil]
      exact .unready launched waiting stopping

end

section

variable {mayFail : Call → Prop} {s : Settings} {port : Port.Number} {name : String}
  {m m' : Memory} {t : Trace} {result : Except StartError Instance}

theorem store_of_waitReady {attempts : Nat} {ready : Bool}
    (run : (Memory.host mayFail).Runs (waitReady s port name attempts) m t ready m') :
    m'.store = m.store := by
  refine run.preserves (J := fun m' => m'.store = m.store)
    (run.asks (asks_waitReady (P := Call.Looks) trivial)) rfl ?_
  exact fun _ _ _ _ looks same answered =>
    (Memory.store_host_of_looks (Host.Ask.within_of_attends looks) answered).trans same

theorem erase_of_stop {grace : Duration} {stops : Transcript} {report : StopReport}
    (run : (Memory.host mayFail).engine.Runs (stop grace name) m stops report m') :
    m'.store.erase name = m.store.erase name := by
  refine run.preserves (J := fun m' => m'.store.erase name = m.store.erase name)
    (run.asks (asks_stop grace name)) rfl ?_
  rintro c m₁ x m₂ removes same ⟨fault, -, served⟩
  exact (Memory.erase_serve (Call.about_of_removes removes) served).trans same

theorem spares_of_starting (starting : Starting (Memory.host mayFail) s port name m t result m') :
    ∀ c ∈ m.store.items, ∀ e ∈ Host.called t, e.question.Spares c.name := by
  intro c there
  cases starting with
  | refused => simp [Host.called, Call.Spares]
  | ready launched waiting =>
    obtain ⟨-, quiet⟩ | ⟨⟨⟩, -⟩ := (waiting_of_runs waiting).called
    simp [quiet, Call.Spares]
  | unready launched waiting stopping =>
    -- the name was free, so it is not the name of this container
    have apart : c.name ≠ name := by
      obtain ⟨⟨e, ⟨⟩⟩, -⟩ | ⟨-, absent, -⟩ := Memory.run_cases launched
      exact Engine.Store.name_ne absent there
    have stops := fun e among =>
      Call.spares_of_removes apart (stopping.asks (asks_stop _ _) e among)
    obtain ⟨⟨⟩, -⟩ | ⟨-, x, logged⟩ := (waiting_of_runs waiting).called
    simpa [logged, Call.Spares] using stops

theorem listed_of_present {grace : Duration} {stops : Transcript} {report : StopReport}
    (matching : ∀ pattern stopped, ¬ mayFail (.matching pattern stopped))
    (present : m.store.contains name = true)
    (run : (Memory.host mayFail).engine.Runs (stop grace name) m stops report m') :
    report.outcome ≠ .absent := by
  intro missed
  have absent := absent_of_runs_stop (matching _ _)
    (Memory.runs_among (fun _ => True) run) missed
  simp [present] at absent

theorem store_of_stop {grace : Duration} {stops : Transcript} {report : StopReport}
    {m₀ : Memory} {port : Port.Number}
    (matching : ∀ pattern stopped, ¬ mayFail (.matching pattern stopped))
    (remove : ∀ name, ¬ mayFail (.remove name)) (absent : m₀.store.contains name = false)
    (launched : m.store = m₀.store.insert ⟨name, port, true⟩)
    (run : (Memory.host mayFail).engine.Runs (stop grace name) m stops report m') :
    m'.store = m₀.store := by
  have gone : m'.store.contains name = false :=
    ((removal_among matching remove name).keeps_stop grace trivial).runs
      (Memory.runs_among (fun _ => True) run)
  calc m'.store
      = m'.store.erase name := (Engine.Store.erase_of_absent gone).symm
    _ = m.store.erase name := erase_of_stop run
    _ = m₀.store.erase name := by rw [launched, Engine.Store.erase_insert _ ⟨name, port, true⟩]
    _ = m₀.store := Engine.Store.erase_of_absent absent

end

/-- An engine kept in memory, with the failures of its next calls and the answers to the next
probes foretold. -/
structure Foretold where
  memory : Memory
  faults : ℕ → Option Engine.Error
  health : ℕ → Host.Health

/-- A host that answers calls and probes as foretold, and all else as it likes. -/
def foretold {σ : Type} (rest : Machine Host.interface σ) :
    Machine Host.interface (Foretold × σ) where
  answer
    | .engine c, (f, u) =>
      let (x, memory) := f.memory.serve (if c.fallible then f.faults 0 else none) c
      (x, { f with memory, faults := fun k => f.faults (k + 1) }, u)
    | .probe _, (f, u) => (f.health 0, { f with health := fun k => f.health (k + 1) }, u)
    | q, (f, u) => ((rest.answer q u).1, f, (rest.answer q u).2)

theorem host_of_foretold {σ : Type} (rest : Machine Host.interface σ) (q : Host.Ask)
    (v : Foretold × σ) : (Memory.host fun c => c.fallible = true).Answers q v.1.memory
      ((foretold rest).answer q v).1 ((foretold rest).answer q v).2.1.memory := by
  obtain ⟨f, u⟩ := v
  cases q
  case engine c =>
    refine ⟨if c.fallible then f.faults 0 else none, fun failed => ?_, rfl⟩
    by_contra sure
    simp [sure] at failed
  all_goals rfl

/-- Whichever launches, logs, graceful stops and kills fail and whatever the probes find, a start
leaves the containers as they were and its own among them, ready, or leaves them just as they were;
it never stops, kills or removes one that was there before. -/
theorem start_atomic {σ : Type} (rest : Machine Host.interface σ) (s : Settings)
    (port : Port.Number) (name : String) (f : Foretold) (u : σ) : ∃ result f' u' t,
    (foretold rest).run (start s port name) (f, u) = (result, f', u') ∧
    (foretold rest).events (start s port name) (f, u) = t ∧
    (match result with
      | .ok started => started = ⟨name, port, .ready, false⟩ ∧
          f.memory.store.contains name = false ∧
          (∃ served, f'.memory = { f.memory with
            store := f.memory.store.insert ⟨name, port, true⟩, served }) ∧
          (∀ c, c ∈ f'.memory.store.items ↔ c = ⟨name, port, true⟩ ∨ c ∈ f.memory.store.items) ∧
          Host.called t = [⟨.run (s.spec port name), .ok ()⟩]
      | .error (.launch other e) => other = name ∧ f'.memory.store = f.memory.store ∧
          t = [⟨.engine (.run (s.spec port name)), .error e⟩]
      | .error (.notReady other probes) => other = name ∧ probes = s.readyAttempts ∧
          f'.memory.store = f.memory.store ∧
          Host.probed t = List.replicate s.readyAttempts .unhealthy ∧
          ∃ x stops outcome, Host.called t =
              ⟨.run (s.spec port name), .ok ()⟩ :: ⟨.logs name, x⟩ :: stops ∧
            Stopping s.stopGrace name stops outcome ∧ outcome ≠ .absent) ∧
    ∀ c ∈ f.memory.store.items, ∀ e ∈ Host.called t, e.question.Spares c.name := by
  have run := Machine.runs_of_view (fun v : Foretold × σ => v.1.memory) (host_of_foretold rest)
    (start s port name) (f, u)
  have starting := starting_of_runs run
  generalize (foretold rest).events (start s port name) (f, u) = t at starting ⊢
  cases ended : (foretold rest).run (start s port name) (f, u) with
  | mk result after =>
    obtain ⟨f', u'⟩ := after
    rw [ended] at starting
    refine ⟨result, f', u', t, rfl, rfl, ?_, spares_of_starting starting⟩
    cases starting with
    | @refused e _ answered =>
      obtain ⟨-, store⟩ | ⟨⟨⟩, -⟩ := Memory.run_cases answered
      exact ⟨rfl, store, rfl⟩
    | ready launched waiting =>
      obtain ⟨⟨e, ⟨⟩⟩, -⟩ | ⟨-, absent, served, rfl⟩ := Memory.run_cases launched
      obtain ⟨-, quiet⟩ | ⟨⟨⟩, -⟩ := (waiting_of_runs waiting).called
      have kept := Memory.eq_of_uncalled waiting quiet
      refine ⟨rfl, absent, ⟨served, kept⟩, fun c => ?_, by simp [quiet]⟩
      rw [show f'.memory = _ from kept]
      exact Engine.Store.mem_insert absent
    | @unready _ m₂ _ _ stops report launched waiting stopping =>
      obtain ⟨⟨e, ⟨⟩⟩, -⟩ | ⟨-, absent, served, rfl⟩ := Memory.run_cases launched
      obtain ⟨⟨⟩, -⟩ | ⟨-, x, logged⟩ := (waiting_of_runs waiting).called
      have store : m₂.store = f.memory.store.insert ⟨name, port, true⟩ := store_of_waitReady waiting
      have present : m₂.store.contains name = true := by
        rw [store]
        exact (Engine.Store.contains_insert absent).2 (.inl rfl)
      have sure : ∀ pattern stopped, ¬ (Call.matching pattern stopped).fallible = true := nofun
      refine ⟨rfl, rfl, store_of_stop sure nofun absent store stopping, ?_, x, stops,
        report.outcome, by simp [logged], (stopping_of_runs stopping).1,
        listed_of_present sure present stopping⟩
      simp [(waiting_of_runs waiting).probed]

end Sandbox

end TestRig
