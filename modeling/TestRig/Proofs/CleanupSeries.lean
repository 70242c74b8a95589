import Mathlib.Tactic
import TestRig.Proofs.CleanupConvergence

/-!
Clean-ups one after the other on one engine, any of whose calls may fail. What none of them is after
stays as it was. On a shared runner nothing is pruned, and of the containers of other owners only
those go that a clean-up was told by name: it does not ask whose they are.
-/

namespace TestRig.Sandbox.Cleaner

open Engine (Call Memory Store)

variable {c : Cleaner} {scope : Scope} {scopes : List Scope} {mayFail allowed : Call → Prop}
  {others : Store → Store → Prop} {m m' : Memory} {t : Transcript} {reports : List CleanupReport}

def AfterAny (c : Cleaner) (scopes : List Scope) (name : String) : Prop :=
  ∃ scope ∈ scopes, c.Target scope name

theorem owned_or_named_of_afterAny (shared : c.environment = .sharedRunner) {name : String}
    (after : c.AfterAny scopes name) : Name.ownedBy c.owner name = true ∨ .one name ∈ scopes := by
  obtain ⟨scope, among, target⟩ := after
  cases scope with
  | one other =>
    obtain rfl : name = other := target
    exact .inr among
  | run =>
    rw [Target, shared] at target
    exact .inl (beq_iff_eq.2 target)

theorem reaps_of_runs_each (run : (Memory.among others mayFail allowed).Runs
    (scopes.mapM c.cleanup) m t reports m') : ∀ e ∈ t, Call.Reaps (c.AfterAny scopes) e.question := by
  intro e among
  obtain ⟨scope, listed, m₁, t₁, report, m₂, ran, among⟩ := World.mem_runs_mapM run among
  have guarded : (Memory.among others mayFail (Call.Reaps (c.Target scope))).Runs
      (c.cleanup scope) m₁ t₁ report m₂ := Memory.steps_allowing ran
  exact Call.reaps_mono (fun name target => ⟨scope, listed, target⟩)
    (reaps_of_steps guarded e among)

theorem not_prunes_of_runs_each (shared : c.environment = .sharedRunner)
    (run : (Memory.among others mayFail allowed).Runs (scopes.mapM c.cleanup) m t reports m') :
    ∀ e ∈ t, ¬ Call.Prunes e.question := by
  intro e among
  obtain ⟨scope, -, _, _, _, _, ran, among⟩ := World.mem_runs_mapM run among
  exact not_prunes_of_runs shared ran e among

theorem absent_of_runs_each (matching : ∀ pattern stopped, ¬ mayFail (.matching pattern stopped))
    (remove : ∀ name, ¬ mayFail (.remove name))
    (run : (Memory.among Store.Fades mayFail allowed).Runs (scopes.mapM c.cleanup) m t reports m')
    {name : String} (after : c.AfterAny scopes name) : m'.store.contains name = false := by
  induction scopes generalizing m t reports with
  | nil =>
    obtain ⟨scope, among, -⟩ := after
    exact absurd among List.not_mem_nil
  | cons scope rest ih =>
    obtain ⟨t₁, report, m₁, t₂, _, first, later, -, rfl⟩ := World.runs_mapM_cons run
    obtain ⟨other, among, target⟩ := after
    obtain rfl | among := List.mem_cons.1 among
    · have guarded : (Memory.among Store.Fades mayFail (Call.Reaps (c.Target other))).Runs
          (c.cleanup other) m t₁ report m₁ := Memory.steps_allowing first
      have faded := Memory.fades_of_steps (fun _ _ => id) later (reaps_of_runs_each later)
      exact faded.absent (absent_of_cleanup matching remove guarded target)
    · exact ih later ⟨other, among, target⟩

/-- Whatever clean-ups a shared runner makes, whatever calls are made to fail: nothing is pruned, no
container of another owner is stopped, killed or removed unless a clean-up was told its name, and all
these stay as they were. One whose name was told goes where no call fails, whoever owns it. -/
theorem others_spared_unless_named (c : Cleaner) (shared : c.environment = .sharedRunner)
    (scopes : List Scope) (m : Memory) (faults : ℕ → Option Engine.Error) :
    ∃ reports m' left calls,
      Memory.failing.run (scopes.mapM c.cleanup) (m, faults) = (reports, m', left) ∧
      Memory.failing.events (scopes.mapM c.cleanup) (m, faults) = calls ∧
      (∀ e ∈ calls, ¬ Call.Prunes e.question) ∧ m'.pruneCounts = m.pruneCounts ∧
      (∀ e ∈ calls, Call.Reaps (fun name => Name.ownedBy c.owner name = true ∨ .one name ∈ scopes)
        e.question) ∧
      (∀ d : Engine.Container, Name.ownedBy c.owner d.name = false → .one d.name ∉ scopes →
        (d ∈ m'.store.items ↔ d ∈ m.store.items)) ∧
      ((∀ k, faults k = none) → ∀ name, .one name ∈ scopes → m'.store.contains name = false) := by
  have run := Memory.runs_failing (fun _ => True) (scopes.mapM c.cleanup) m faults
  have unpruned := not_prunes_of_runs_each shared run
  have reaps := reaps_of_runs_each run
  refine ⟨_, _, _, _, rfl, rfl, unpruned, Memory.pruneCounts_run_failing _ m faults unpruned,
    fun e among => ?_, fun d foreign unnamed => ?_, fun sure name named => ?_⟩
  · exact Call.reaps_mono (fun name => owned_or_named_of_afterAny shared) (reaps e among)
  · refine Memory.mem_items_of_steps run reaps fun after => ?_
    obtain owned | named := owned_or_named_of_afterAny shared after
    · rw [foreign] at owned
      cases owned
    · exact unnamed named
  · have unfailing := Memory.runs_unfailing Store.fades_refl (fun _ => True)
      (scopes.mapM c.cleanup) m sure
    exact absent_of_runs_each (fun _ _ => id) (fun _ => id) unfailing ⟨.one name, named, rfl⟩

def tenants : Memory where
  store := .ofList [⟨"chain-sim-9100-4242-17-1111", 9100, true⟩,
    ⟨"chain-sim-9102-7777-17-3333", 9102, true⟩, ⟨"postgres", 5432, true⟩]

def fourthFails : ℕ → Option Engine.Error
  | 3 => some (.failed "rm chain-sim-9100-4242-17-1111" (some 1) "busy")
  | _ => none

theorem others_spared_unless_named_tenants : ∃ reports m' left,
    Memory.failing.run
      ([.run, .one "chain-sim-9100-4242-17-1111"].mapM (cleanup ⟨.sharedRunner, 4242, .ofSecs 10⟩))
      (tenants, fourthFails) = (reports, m', left) ∧
    ⟨"chain-sim-9102-7777-17-3333", 9102, true⟩ ∈ m'.store.items ∧
    ⟨"postgres", 5432, true⟩ ∈ m'.store.items ∧ m'.pruneCounts = (0, 0) := by
  obtain ⟨reports, m', left, calls, run, -, -, pruned, -, spared, -⟩ :=
    others_spared_unless_named ⟨.sharedRunner, 4242, .ofSecs 10⟩ rfl
      [.run, .one "chain-sim-9100-4242-17-1111"] tenants fourthFails
  refine ⟨reports, m', left, run, (spared _ ?_ ?_).2 ?_, (spared _ ?_ ?_).2 ?_, pruned⟩
  all_goals decide +kernel

/-- A clean-up that is told the name of another owner's container removes it. -/
theorem named_stranger_removed : ∃ reports m' left,
    Memory.failing.run
      ([.one "chain-sim-9102-7777-17-3333"].mapM (cleanup ⟨.sharedRunner, 4242, .ofSecs 10⟩))
      (tenants, fun _ => none) = (reports, m', left) ∧
    tenants.store.contains "chain-sim-9102-7777-17-3333" = true ∧
    Name.ownedBy 4242 "chain-sim-9102-7777-17-3333" = false ∧
    m'.store.contains "chain-sim-9102-7777-17-3333" = false :=
  ⟨_, _, _, rfl, by decide +kernel, by decide +kernel, by decide +kernel⟩

end TestRig.Sandbox.Cleaner
