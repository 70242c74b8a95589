import Mathlib.Tactic
import TestRig.Proofs.CleanupCalls

/-!
A clean-up on an engine that fails any of its calls. It comes to an end all the same, takes every
step that the failures leave it, and its report tells them all, in the order of the calls. What it
calls removed was there and was asked to be removed, and is gone if a removal of it succeeded.
-/

namespace TestRig

namespace Sandbox.Cleaner

open Engine (Memory)

section

variable {c : Cleaner} {scope : Scope} {mayFail allowed : Engine.Call → Prop} {m m' : Memory}
  {t : Transcript} {report : CleanupReport}

theorem looked_up_of_runs
    (run : (Memory.among Eq mayFail allowed).Runs (c.cleanup scope) m t report m') :
    (scope = .run ∧ ∃ e, t.head? = some ⟨listing, .error e⟩) ∨
      ∀ name ∈ c.found scope m.store, lookUp name ∈ t.map Event.question := by
  obtain ⟨t₁, found, m₁, t₂, r, m₂, t₃, listed, removed, -, rfl⟩ := runs_cleanup run
  obtain ⟨undisturbed, all | ⟨whole, -, e, rfl⟩⟩ := found_of_runs listed
  · -- nobody else uses the engine, so the listing shows the store at the start
    have same : m₁.store = m.store := by
      obtain rfl | same := undisturbed
      · rfl
      · exact same.symm
    refine .inr fun name among => ?_
    rw [← same, ← all] at among
    have asked := (runs_removeAll removed).2.2 name among
    rw [List.map_append, List.map_append]
    exact List.mem_append_right _ (List.mem_append_left _ asked)
  · exact .inl ⟨whole, e, rfl⟩

theorem present_of_removeAll {names : List String} {r r' : CleanupReport}
    (run : (Memory.among Eq mayFail allowed).Runs (c.removeAll names r) m t r' m') :
    ∀ name ∈ r'.removed, name ∈ r.removed ∨ m.store.contains name = true := by
  induction names generalizing r m t with
  | nil =>
    obtain ⟨rfl, rfl, -⟩ := World.runs_done.1 run
    exact fun name => Or.inl
  | cons name rest ih =>
    obtain ⟨t₁, ended, m₁, t₂, stopped, later, rfl⟩ := World.runs_bind.1 run
    have faded := Memory.fades_of_steps (by rintro s _ rfl; exact s.fades_refl) stopped
      (reaps_of_runs_stop stopped)
    intro other among
    obtain noted | present := ih later other among
    · by_cases missed : ended.outcome = .absent
      · simp only [noteStop, missed, if_true] at noted
        exact .inl noted
      · simp only [noteStop, missed, if_false, List.mem_append, List.mem_singleton] at noted
        refine noted.imp id ?_
        rintro rfl
        exact present_of_runs_stop stopped missed
    · exact .inr (faded.contains present)

theorem removed_finish {r : CleanupReport}
    (run : (Memory.among Eq mayFail allowed).Runs (c.finish r) m t report m') :
    report.removed = r.removed := by
  obtain ⟨-, pruning⟩ | ⟨-, -, rfl⟩ := runs_finish run
  · obtain ⟨x, y, rfl, accounts, -⟩ := runs_prune pruning
    simp [accounts.removed, Transcript.removals]
  · rfl

theorem present_of_removed
    (run : (Memory.among Eq mayFail allowed).Runs (c.cleanup scope) m t report m') :
    ∀ name ∈ report.removed, m.store.contains name = true := by
  obtain ⟨t₁, found, m₁, t₂, r, m₂, t₃, listed, removed, finished, rfl⟩ := runs_cleanup run
  have same : m₁.store = m.store := by
    obtain ⟨rfl | same, -⟩ := found_of_runs listed
    · rfl
    · exact same.symm
  intro name among
  rw [removed_finish finished] at among
  have present := present_of_removeAll removed name among
  simpa [same] using present

end

/-- Whatever calls are made to fail, all that a listing found is looked up, both prunes are made
where they may be, nothing but a target is touched, and the report has the message of each failure,
in the order of the calls, and nothing else; it claims to have pruned if and only if both prunes
succeeded. -/
theorem report_complete (c : Cleaner) (scope : Scope) (m : Memory)
    (faults : ℕ → Option Engine.Error) : ∃ report m' left calls,
    Memory.failing.run (c.cleanup scope) (m, faults) = (report, m', left) ∧
    Memory.failing.events (c.cleanup scope) (m, faults) = calls ∧
    (∀ k e, faults k = some e → ∀ inside : k < calls.length, failures calls[k].answer = [e]) ∧
    ((scope = .run ∧ ∃ e, calls.head? = some ⟨listing, .error e⟩) ∨
      ∀ name ∈ c.found scope m.store, lookUp name ∈ calls.map Event.question) ∧
    (c.environment = .developer →
      .pruneNetworks ∈ calls.map Event.question ∧ .pruneVolumes ∈ calls.map Event.question) ∧
    (∀ e ∈ calls, Engine.Call.Reaps (c.Target scope) e.question) ∧
    (∀ d, ¬ c.Target scope d.name → (d ∈ m'.store.items ↔ d ∈ m.store.items)) ∧
    report.errors = (Transcript.failed calls).map Engine.Error.message ∧
    (report.isClean = true ↔ ∀ e ∈ calls, failures e.answer = []) ∧
    (report.pruned = true ↔ ⟨.pruneNetworks, .ok ()⟩ ∈ calls ∧ ⟨.pruneVolumes, .ok ()⟩ ∈ calls) := by
  have run := Memory.runs_failing (Engine.Call.Reaps (c.Target scope)) (c.cleanup scope) m faults
  set calls := Memory.failing.events (c.cleanup scope) (m, faults)
  have accounts := accounts_cleanup run
  have clean : (Memory.failing.run (c.cleanup scope) (m, faults)).1.isClean = true ↔
      ∀ e ∈ calls, failures e.answer = [] := by
    rw [CleanupReport.isClean, accounts.errors, List.isEmpty_iff, ← Transcript.failed_eq_nil]
    exact List.map_eq_nil_iff
  refine ⟨_, _, _, calls, rfl, rfl, ?_, looked_up_of_runs run, asked_prunes run,
    reaps_of_steps run, fun d => Memory.mem_items_of_steps run (reaps_of_steps run), accounts.errors, clean, pruned_cleanup run⟩
  exact fun k e fault inside => Memory.failures_events_failing _ _ _ inside fault

/-- Whatever calls are made to fail, a report calls removed the containers that were asked to be
removed. Each of them was there at the beginning, and at the end it is gone if and only if a removal
of it succeeded. -/
theorem removed_gone_iff (c : Cleaner) (scope : Scope) (m : Memory)
    (faults : ℕ → Option Engine.Error) : ∃ report m' left calls,
    Memory.failing.run (c.cleanup scope) (m, faults) = (report, m', left) ∧
    Memory.failing.events (c.cleanup scope) (m, faults) = calls ∧
    report.removed = Transcript.removals calls ∧
    ∀ name ∈ report.removed, m.store.contains name = true ∧
      (m'.store.contains name = false ↔ ⟨.remove name, .ok ()⟩ ∈ calls) := by
  have run := Memory.runs_failing (Engine.Call.Reaps (c.Target scope)) (c.cleanup scope) m faults
  refine ⟨_, _, _, _, rfl, rfl, (accounts_cleanup run).removed, fun name among => ?_⟩
  have present := present_of_removed run name among
  refine ⟨present, ?_⟩
  rw [Memory.absent_iff_of_steps run (reaps_of_steps run)]
  simp [present]

def alone : Memory where
  store := Engine.Store.empty.insert ⟨"chain-sim-a", 9100, true⟩

def thirdFails : ℕ → Option Engine.Error
  | 2 => some (.failed "rm chain-sim-a" (some 1) "busy")
  | _ => none

/-- A container whose removal failed is called removed while it is still there. -/
theorem removed_still_there : ∃ report m' left,
    Memory.failing.run (Cleaner.cleanup ⟨.sharedRunner, 4242, .ofSecs 10⟩ (.one "chain-sim-a"))
      (alone, thirdFails) = (report, m', left) ∧
    "chain-sim-a" ∈ report.removed ∧ m'.store.contains "chain-sim-a" = true :=
  ⟨_, _, _, rfl, by decide +kernel, by decide +kernel⟩

end Sandbox.Cleaner

end TestRig
