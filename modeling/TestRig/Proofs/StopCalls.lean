import Mathlib.Tactic
import TestRig.Proofs.PipelineStages

/-!
The calls of one stop. It looks the container up under its exact name, and goes no further unless
the answer has that very name; otherwise it stops the container, kills it if that failed, and asks
for its removal in any case. On an engine kept in memory no other container notices, and the
container is gone if and only if it was not there or the removal succeeded.
-/

namespace TestRig

namespace Engine

/-- An engine that fails some calls, without effect, and that others may use before each of them. -/
def Memory.among (others : Store → Store → Prop) (mayFail allowed : Call → Prop) :
    World interface Memory where
  Allows c _ := allowed c
  Answers c m x m' := ∃ (m₁ : Memory) (fault : Option Error), others m.store m₁.store ∧
    (fault.isSome → mayFail c) ∧ m₁.serve fault c = (x, m')

namespace Memory

variable {α : Type} {others : Store → Store → Prop} {mayFail allowed : Call → Prop}
  {P : String → Prop} {p p' : Routine α} {m m' : Memory} {t : List (Event interface)}
  {name : String}

theorem fades_of_steps (fading : ∀ s u, others s u → s.Fades u)
    (path : (among others mayFail allowed).Steps p m t p' m')
    (reaps : ∀ e ∈ t, Call.Reaps P e.question) : m.store.Fades m'.store := by
  refine path.preserves (J := fun m' => m.store.Fades m'.store) reaps (Store.fades_refl _) ?_
  rintro q m₁ x m₂ reaps faded ⟨m₀, fault, meanwhile, -, served⟩
  exact faded.trans ((fading _ _ meanwhile).trans
    (fades_serve (Call.ne_run_of_reaps reaps) served))

theorem absent_serve_iff {c : Call} {x : Except Error c.Answer} {fault : Option Error}
    (reaps : c.Reaps P) (served : m.serve fault c = (x, m')) :
    m'.store.contains name = false ↔
      m.store.contains name = false ∨ (⟨c, x⟩ : Event interface) = ⟨.remove name, .ok ()⟩ := by
  by_cases removal : (⟨c, x⟩ : Event interface) = ⟨.remove name, .ok ()⟩
  · cases removal
    cases fault with
    | some e => cases served
    | none =>
      cases served
      exact iff_of_true Store.contains_erase_self (.inr rfl)
  · have faded := fades_serve (Call.ne_run_of_reaps reaps) served
    refine ⟨fun absent => .inl ?_, ?_⟩
    · by_contra there
      have present : m.store.contains name = true := by simpa using there
      have removes : c = .remove name := by
        by_contra kept
        simp [contains_serve present kept served] at absent
      subst removes
      cases fault with
      | some e => simp [(serve_some served).2, present] at absent
      | none =>
        cases served
        exact removal rfl
    · rintro (absent | same)
      · exact faded.absent absent
      · exact absurd same removal

theorem absent_iff_of_steps (path : (among Eq mayFail allowed).Steps p m t p' m')
    (reaps : ∀ e ∈ t, Call.Reaps P e.question) : m'.store.contains name = false ↔
      m.store.contains name = false ∨ (⟨.remove name, .ok ()⟩ : Event interface) ∈ t := by
  induction path with
  | refl => simp
  | ask answered _ ih =>
    obtain ⟨m₀, fault, same, -, served⟩ := answered
    obtain ⟨first, rest⟩ := List.forall_mem_cons.1 reaps
    rw [ih rest, absent_serve_iff first served, ← same, List.mem_cons, or_assoc]
    exact or_congr_right (or_congr_left eq_comm)

theorem mem_items_of_steps {d : Container} (path : (among Eq mayFail allowed).Steps p m t p' m')
    (reaps : ∀ e ∈ t, Call.Reaps P e.question) (spared : ¬ P d.name) :
    d ∈ m'.store.items ↔ d ∈ m.store.items := by
  refine path.preserves (J := fun m' => d ∈ m'.store.items ↔ d ∈ m.store.items) reaps Iff.rfl ?_
  rintro q m₁ x m₂ reaps same ⟨m₀, fault, here, -, served⟩
  rw [items_serve reaps spared served, ← here, same]

theorem steps_allowing {allowed' : Call → Prop}
    (path : (among others mayFail allowed).Steps p m t p' m') :
    (among others mayFail allowed').Steps p m t p' m' := by
  refine World.Steps.mono ?_ path
  exact fun _ _ _ _ answered => answered

/-- An engine that fails its next calls as foretold, without effect. -/
def failing : Machine interface (Memory × (ℕ → Option Error)) where
  answer c s := ((s.1.serve (s.2 0) c).1, (s.1.serve (s.2 0) c).2, fun k => s.2 (k + 1))

theorem run_failing_ask {q : Call} (next : Except Error q.Answer → Routine α)
    {faults : ℕ → Option Error} (sure : faults 0 = none) :
    failing.run (.ask q next) (m, faults) =
      failing.run (next (m.serve none q).1) ((m.serve none q).2, fun k => faults (k + 1)) := by
  rw [← sure]
  rfl

theorem failures_events_failing (p : Routine α) (m : Memory) (faults : ℕ → Option Error) {k : ℕ}
    {e : Error} (inside : k < (failing.events p (m, faults)).length) (fault : faults k = some e) :
    Sandbox.failures ((failing.events p (m, faults))[k]).answer = [e] := by
  induction p generalizing m faults k with
  | done a => exact absurd inside k.not_lt_zero
  | ask q next ih =>
    cases k with
    | zero =>
      show Sandbox.failures (m.serve (faults 0) q).1 = [e]
      rw [fault]
      rfl
    | succ k =>
      exact ih _ (m.serve (faults 0) q).2 (fun k => faults (k + 1)) (Nat.lt_of_succ_lt_succ inside)
        fault

theorem runs_failing (allowed : Call → Prop) (p : Routine α) (m : Memory)
    (faults : ℕ → Option Error) : (among Eq (fun _ => True) allowed).Runs p m
      (failing.events p (m, faults)) (failing.run p (m, faults)).1
      (failing.run p (m, faults)).2.1 := by
  refine Machine.runs_of_view (fun s : Memory × (ℕ → Option Error) => s.1) (fun c s => ?_) p
    (m, faults)
  exact ⟨s.1, s.2 0, rfl, fun _ => trivial, rfl⟩

theorem runs_unfailing (idle : ∀ s, others s s) (allowed : Call → Prop) (p : Routine α) (m : Memory)
    {faults : ℕ → Option Error} (sure : ∀ k, faults k = none) :
    (among others (fun _ => False) allowed).Runs p m (failing.events p (m, faults))
      (failing.run p (m, faults)).1 (failing.run p (m, faults)).2.1 := by
  induction p generalizing m faults with
  | done a => exact .refl _ _
  | ask q next ih =>
    have answered : (among others (fun _ => False) allowed).Answers q m (m.serve (faults 0) q).1
        (m.serve (faults 0) q).2 := by
      rw [sure 0]
      exact ⟨m, none, idle _, nofun, rfl⟩
    exact .ask answered (ih _ _ fun k => sure (k + 1))

theorem pruneCounts_run_failing (p : Routine α) (m : Memory) (faults : ℕ → Option Error)
    (spares : ∀ e ∈ failing.events p (m, faults), ¬ e.question.Prunes) :
    (failing.run p (m, faults)).2.1.pruneCounts = m.pruneCounts := by
  induction p generalizing m faults with
  | done a => rfl
  | ask q next ih =>
    obtain ⟨first, later⟩ := List.forall_mem_cons.1 spares
    exact (ih _ _ _ later).trans (pruneCounts_serve first rfl)

end Memory

end Engine

namespace Sandbox

open Engine (Call Memory Store)

abbrev Transcript := List (Event Engine.interface)

namespace Transcript

def failed (t : Transcript) : List Engine.Error := t.flatMap fun e => failures e.answer

def removals (t : Transcript) : List String := t.filterMap fun e =>
  match e.question with
  | .remove name => some name
  | _ => none

variable {t t' : Transcript} {name : String}

@[simp] theorem failed_nil : failed [] = [] := rfl

@[simp] theorem failed_cons (e : Event Engine.interface) (t : Transcript) :
    failed (e :: t) = failures e.answer ++ failed t := List.flatMap_cons

@[simp] theorem failed_append (t t' : Transcript) : failed (t ++ t') = failed t ++ failed t' :=
  List.flatMap_append

@[simp] theorem removals_append (t t' : Transcript) :
    removals (t ++ t') = removals t ++ removals t' := List.filterMap_append

theorem failed_eq_nil : failed t = [] ↔ ∀ e ∈ t, failures e.answer = [] := List.flatMap_eq_nil_iff

theorem mem_removals : name ∈ removals t ↔ ∃ e ∈ t, e.question = .remove name := by
  rw [removals, List.mem_filterMap]
  refine exists_congr fun e => and_congr_right fun _ => ?_
  cases e.question <;> simp

end Transcript

abbrev lookUp (name : String) : Call := .matching (exactly name) true

variable {σ : Type} {w : World Engine.interface σ} {s s' : σ} {t : Transcript}

/-- The ways a stop can go, by its calls with their answers. -/
inductive Stopping (grace : Duration) (name : String) : Transcript → StopOutcome → Prop
  | unanswered (e : Engine.Error) : Stopping grace name [⟨lookUp name, .error e⟩] .absent
  | unlisted {names : List String} (absent : name ∉ names) :
      Stopping grace name [⟨lookUp name, .ok names⟩] .absent
  | stopped {names : List String} (listed : name ∈ names) (removal : Except Engine.Error Unit) :
      Stopping grace name
        [⟨lookUp name, .ok names⟩, ⟨.stop name grace, .ok ()⟩, ⟨.remove name, removal⟩] .stopped
  | killed {names : List String} (listed : name ∈ names) (e : Engine.Error)
      (death removal : Except Engine.Error Unit) :
      Stopping grace name
        [⟨lookUp name, .ok names⟩, ⟨.stop name grace, .error e⟩, ⟨.kill name, death⟩,
          ⟨.remove name, removal⟩] .killed

theorem stopping_of_runs {grace : Duration} {name : String} {report : StopReport}
    (run : w.Runs (stop grace name) s t report s') :
    Stopping grace name t report.outcome ∧ report.errors = t.failed := by
  obtain ⟨(x : Except Engine.Error (List String)), s₁, t₁, -, looked, rfl⟩ := World.runs_ask.1 run
  cases x with
  | error e =>
    obtain ⟨rfl, rfl, -⟩ := World.runs_done.1 looked
    exact ⟨.unanswered e, rfl⟩
  | ok names =>
    replace looked : w.Runs (if names.contains name then stopKnown grace name
      else pure ⟨.absent, []⟩) s₁ t₁ report s' := looked
    by_cases listed : name ∈ names
    · rw [if_pos (List.contains_iff_mem.2 listed)] at looked
      obtain ⟨(y : Except Engine.Error Unit), s₂, t₂, -, tried, rfl⟩ := World.runs_ask.1 looked
      cases y with
      | ok _ =>
        obtain ⟨removal, s₃, t₃, -, ended, rfl⟩ := World.runs_ask.1 tried
        obtain ⟨rfl, rfl, -⟩ := World.runs_done.1 ended
        exact ⟨.stopped listed removal, by simp [failures]⟩
      | error e =>
        obtain ⟨death, s₃, t₃, -, killed, rfl⟩ := World.runs_ask.1 tried
        obtain ⟨removal, s₄, t₄, -, ended, rfl⟩ := World.runs_ask.1 killed
        obtain ⟨rfl, rfl, -⟩ := World.runs_done.1 ended
        exact ⟨.killed listed e death removal, by simp [failures]⟩
    · rw [if_neg (mt List.contains_iff_mem.1 listed)] at looked
      obtain ⟨rfl, rfl, -⟩ := World.runs_done.1 looked
      exact ⟨.unlisted listed, rfl⟩

theorem reaps_of_runs_stop {grace : Duration} {name : String} {report : StopReport}
    (run : w.Runs (stop grace name) s t report s') :
    ∀ e ∈ t, Call.Reaps (name = ·) e.question := fun e among =>
  Call.reaps_of_removes rfl (run.asks (asks_stop grace name) e among)

theorem Stopping.head {grace : Duration} {name : String} {outcome : StopOutcome}
    (h : Stopping grace name t outcome) : ∃ x t₁, t = ⟨lookUp name, x⟩ :: t₁ := by
  cases h <;> exact ⟨_, _, rfl⟩

theorem Stopping.removals {grace : Duration} {name : String} {outcome : StopOutcome}
    (h : Stopping grace name t outcome) :
    t.removals = if outcome = .absent then [] else [name] := by
  cases h <;> rfl

theorem removal_among {others : Store → Store → Prop} {mayFail : Call → Prop}
    (matching : ∀ pattern stopped, ¬ mayFail (.matching pattern stopped))
    (remove : ∀ name, ¬ mayFail (.remove name)) (name : String) :
    Removal (Memory.among others mayFail fun _ => True) name (fun _ => True) (fun _ => True)
      (fun m : Memory => m.store.contains name = false) where
  find _ := by
    refine ⟨trivial, ?_⟩
    rintro x m' ⟨m₀, fault, -, may, served⟩
    refine ⟨trivial, fun _ => trivial, fun absent => ?_⟩
    cases Memory.serve_of_sure (matching _ _) may served
    exact m₀.store.contains_namesMatching name ▸ absent _ rfl
  stop _ := ⟨trivial, fun _ _ _ => ⟨trivial, trivial⟩⟩
  kill _ := ⟨trivial, fun _ _ _ => ⟨trivial, trivial⟩⟩
  remove _ := by
    refine ⟨trivial, ?_⟩
    rintro x m' ⟨m₀, fault, -, may, served⟩
    cases Memory.serve_of_sure (remove _) may served
    exact ⟨trivial, Store.contains_erase_self⟩

section

variable {mayFail allowed : Call → Prop} {m m' : Memory} {grace : Duration} {name : String}
  {report : StopReport}

theorem listed_iff {x : Except Engine.Error (List String)}
    (answered : (Memory.among Eq mayFail allowed).Answers (lookUp name) m x m') :
    ((∃ e, x = .error e) ∧ mayFail (lookUp name)) ∨
      ∃ names, x = .ok names ∧ (name ∈ names ↔ m.store.contains name = true) := by
  obtain ⟨m₀, fault, same, may, served⟩ := answered
  cases fault with
  | some e =>
    obtain ⟨rfl, -⟩ := Memory.serve_some served
    exact .inl ⟨⟨e, rfl⟩, may rfl⟩
  | none =>
    cases served
    refine .inr ⟨_, rfl, ?_⟩
    rw [same, ← m₀.store.contains_namesMatching, List.contains_iff_mem]

theorem present_of_runs_stop (run : (Memory.among Eq mayFail allowed).Runs (stop grace name) m t
    report m') (found : report.outcome ≠ .absent) : m.store.contains name = true := by
  obtain ⟨stopping, -⟩ := stopping_of_runs run
  obtain ⟨x, m₁, t₁, answered, -, rfl⟩ := World.runs_ask.1 run
  generalize report.outcome = outcome at stopping found
  obtain ⟨⟨e, rfl⟩, -⟩ | ⟨names, rfl, listed⟩ := listed_iff answered
  · cases stopping
    exact absurd rfl found
  · cases stopping with
    | unlisted => exact absurd rfl found
    | stopped among => exact listed.1 among
    | killed among => exact listed.1 among

theorem absent_of_runs_stop (sure : ¬ mayFail (lookUp name))
    (run : (Memory.among Eq mayFail allowed).Runs (stop grace name) m t report m')
    (missed : report.outcome = .absent) : m.store.contains name = false := by
  obtain ⟨stopping, -⟩ := stopping_of_runs run
  obtain ⟨x, m₁, t₁, answered, -, rfl⟩ := World.runs_ask.1 run
  rw [missed] at stopping
  obtain ⟨-, may⟩ | ⟨names, rfl, listed⟩ := listed_iff answered
  · exact absurd may sure
  · cases stopping with
    | unlisted absent => simpa using mt listed.2 absent

end

theorem run_stop_absent (grace : Duration) {name : String} {m : Memory}
    {faults : ℕ → Option Engine.Error} (absent : m.store.contains name = false)
    (sure : faults 0 = none) : ∃ served left,
      Memory.failing.run (stop grace name) (m, faults) =
        (⟨.absent, []⟩, { m with served := served }, left) := by
  have looked : Memory.failing.run (stop grace name) (m, faults) =
      Memory.failing.run (if m.store.contains name then stopKnown grace name
        else pure ⟨.absent, []⟩)
        ({ m with served := (lookUp name).title :: m.served }, fun k => faults (k + 1)) := by
    rw [← m.store.contains_namesMatching]
    exact Memory.run_failing_ask _ sure
  rw [looked, absent]
  exact ⟨_, _, rfl⟩

/-- Whatever the engine answers, a stop makes the calls of one of its ways, none of which names
another container, and reports what failed in the order of the calls. Kept in memory, the engine
loses no other container, and this one if and only if it was not there or its removal succeeded;
where it is gone a further stop finds nothing and changes nothing, unless its look-up fails. -/
theorem stop_calls (grace : Duration) (name : String) :
    (∀ {σ : Type} (engine : Machine Engine.interface σ) (s : σ), ∃ report s' calls,
      engine.run (stop grace name) s = (report, s') ∧ engine.events (stop grace name) s = calls ∧
      Stopping grace name calls report.outcome ∧ report.errors = Transcript.failed calls ∧
      ∀ e ∈ calls, e.question.Removes name) ∧
    ∀ (m : Memory) (faults : ℕ → Option Engine.Error), ∃ report m' left calls,
      Memory.failing.run (stop grace name) (m, faults) = (report, m', left) ∧
      Memory.failing.events (stop grace name) (m, faults) = calls ∧
      (∀ d, d.name ≠ name → (d ∈ m'.store.items ↔ d ∈ m.store.items)) ∧
      (m'.store.contains name = false ↔
        m.store.contains name = false ∨ ⟨.remove name, .ok ()⟩ ∈ calls) ∧
      (m.store.contains name = false → faults 0 = none →
        report = ⟨.absent, []⟩ ∧ ∃ served, m' = { m with served := served }) := by
  refine ⟨fun {σ} engine s => ?_, fun m faults => ?_⟩
  · have run := Program.runs_events engine (stop grace name) s
    obtain ⟨stopping, errors⟩ := stopping_of_runs run
    exact ⟨_, _, _, rfl, rfl, stopping, errors, run.asks (asks_stop grace name)⟩
  · have run := Memory.runs_failing (fun _ => True) (stop grace name) m faults
    have reaps := reaps_of_runs_stop run
    cases ended : Memory.failing.run (stop grace name) (m, faults) with
    | mk report after =>
      obtain ⟨m', left⟩ := after
      rw [ended] at run
      refine ⟨report, m', left, _, rfl, rfl, fun d other => ?_, ?_, fun absent sure => ?_⟩
      · exact Memory.mem_items_of_steps run reaps (Ne.symm other)
      · exact Memory.absent_iff_of_steps run reaps
      · obtain ⟨served, left, idle⟩ := run_stop_absent grace absent sure
        rw [ended] at idle
        cases idle
        exact ⟨rfl, served, rfl⟩

end Sandbox

end TestRig
