import Mathlib.Tactic
import TestRig.Proofs.CleanupTargets

/-!
A clean-up alone with an engine that fails no call, unless it lets every graceful stop run into its
limit. It takes away its targets, reports those that were there in the order of the store, and leaves
all other containers as they were; so a second one finds nothing to do.
-/

namespace TestRig

namespace Engine

namespace Store

variable {s : Store} {name other : String} {names rest : List String}

def eraseAll (s : Store) (names : List String) : Store :=
  ⟨s.items.filter (·.name ∉ names), s.ordered.filter _⟩

theorem eraseAll_nil (s : Store) : s.eraseAll [] = s :=
  eq_of_items (List.filter_eq_self.2 (by simp))

theorem eraseAll_cons (s : Store) (name : String) (rest : List String) :
    s.eraseAll (name :: rest) = (s.erase name).eraseAll rest := by
  refine eq_of_items ?_
  simp only [eraseAll, erase, List.filter_filter]
  refine List.filter_congr fun c _ => ?_
  rw [Bool.eq_iff_iff]
  simp [and_comm]

theorem filter_contains_erase (apart : name ∉ rest) :
    rest.filter (s.erase name).contains = rest.filter s.contains :=
  List.filter_congr fun _ among =>
    contains_erase_of_ne fun same => apart (same ▸ among)

end Store

namespace Memory

def holding (m : Memory) (store : Store) (served : List String) : Memory := { m with store, served }

@[simp] theorem holding_store (m : Memory) (s : Store) (served : List String) :
    (m.holding s served).store = s := rfl

@[simp] theorem holding_holding (m : Memory) (s t : Store) (served served' : List String) :
    (m.holding s served).holding t served' = m.holding t served' := rfl

/-- The failures of a stop: a graceful stop that hangs runs into its limit. -/
def overdue (m : Memory) (grace : Duration) (name : String) : List Error :=
  if m.hangStops then [.timeout (Call.stop name grace).title grace] else []

end Memory

end Engine

namespace Sandbox

open Engine (Memory)

variable {c : Cleaner} {scope : Scope} {m : Memory} {names : List String}

def ending (m : Memory) (grace : Duration) (name : String) : StopReport :=
  if m.store.contains name then
    ⟨if m.hangStops then .killed else .stopped, m.overdue grace name⟩
  else ⟨.absent, []⟩

theorem run_stopKnown (grace : Duration) (name : String) (m : Memory) : ∃ served,
    Memory.machine.run (stopKnown grace name) m =
      (⟨if m.hangStops then .killed else .stopped, m.overdue grace name⟩,
        m.holding (m.store.erase name) served) := by
  obtain ⟨store, networks, volumes, refuse, hang, logs, served⟩ := m
  -- stopped or killed first, the container is removed
  rw [← store.erase_halt]
  cases hang with
  | false => exact ⟨_, rfl⟩
  | true => exact ⟨_, rfl⟩

theorem run_stop (grace : Duration) (name : String) (m : Memory) : ∃ served,
    Memory.machine.run (stop grace name) m =
      (ending m grace name, m.holding (m.store.erase name) served) := by
  have looked : Memory.machine.run (stop grace name) m =
      Memory.machine.run (if m.store.contains name then stopKnown grace name
        else pure ⟨.absent, []⟩)
        (m.holding m.store ((Engine.Call.matching (exactly name) true).title :: m.served)) := by
    rw [← m.store.contains_namesMatching]
    rfl
  rw [looked, ending]
  cases there : m.store.contains name with
  | false =>
    rw [Engine.Store.erase_of_absent there]
    exact ⟨_, rfl⟩
  | true =>
    obtain ⟨served, known⟩ := run_stopKnown grace name
      (m.holding m.store ((Engine.Call.matching (exactly name) true).title :: m.served))
    exact ⟨served, known⟩

namespace Cleaner

def noteAll (m : Memory) (grace : Duration) (names : List String) (r : CleanupReport) :
    CleanupReport :=
  { r with
    removed := r.removed ++ names
    errors := r.errors ++ (names.flatMap (m.overdue grace)).map Engine.Error.message }

theorem noteStop_ending (m : Memory) (grace : Duration) (name : String) (r : CleanupReport) :
    noteStop r name (ending m grace name) =
      noteAll m grace ([name].filter m.store.contains) r := by
  unfold ending
  cases there : m.store.contains name <;> cases m.hangStops <;> simp [noteStop, noteAll, there]

theorem noteAll_noteAll (m : Memory) (grace : Duration) (names rest : List String)
    (r : CleanupReport) :
    noteAll m grace rest (noteAll m grace names r) = noteAll m grace (names ++ rest) r := by
  simp [noteAll]

theorem run_removeAll (distinct : names.Nodup) (r : CleanupReport) (m : Memory) : ∃ served,
    Memory.machine.run (c.removeAll names r) m =
      (noteAll m c.grace (names.filter m.store.contains) r,
        m.holding (m.store.eraseAll names) served) := by
  induction names generalizing r m with
  | nil =>
    refine ⟨m.served, ?_⟩
    simp only [removeAll, Engine.Store.eraseAll_nil, List.filter_nil, noteAll, List.flatMap_nil,
      List.map_nil, List.append_nil]
    rfl
  | cons name rest ih =>
    obtain ⟨apart, distinct⟩ := List.nodup_cons.1 distinct
    obtain ⟨served, stopped⟩ := run_stop c.grace name m
    obtain ⟨served', later⟩ := ih distinct (noteStop r name (ending m c.grace name))
      (m.holding (m.store.erase name) served)
    refine ⟨served', ?_⟩
    have split : (name :: rest).filter m.store.contains =
        [name].filter m.store.contains ++ rest.filter m.store.contains := by
      rw [← List.filter_append, List.singleton_append]
    rw [removeAll, Machine.run_bind, stopped, later, split, Engine.Store.eraseAll_cons,
      ← noteAll_noteAll, ← noteStop_ending]
    simp only [Memory.holding_store, Memory.holding_holding,
      Engine.Store.filter_contains_erase apart]
    rfl

theorem items_eraseAll_found (c : Cleaner) (scope : Scope) (s : Engine.Store) :
    (s.eraseAll (c.found scope s)).items = s.items.filter fun d => ¬ c.Target scope d.name := by
  refine List.filter_congr fun d there => decide_eq_decide.2 (not_congr ?_)
  cases scope with
  | one name => exact List.mem_singleton
  | run =>
    have named : d.name ∈ s.names := List.mem_map_of_mem there
    rw [found, List.mem_filter, decide_eq_true_iff]
    exact and_iff_right named

theorem run_targets (c : Cleaner) (scope : Scope) (m : Memory) : ∃ served,
    Memory.machine.run (c.targets scope) m =
      ((c.found scope m.store, []), m.holding m.store served) := by
  cases scope with
  | one name => exact ⟨m.served, rfl⟩
  | run =>
    refine ⟨(Engine.Call.matching ("^" ++ nameStart) true).title :: m.served, ?_⟩
    rw [found, ← c.mayRemove_listing]
    rfl

theorem run_prune (r : CleanupReport) (m : Memory) : ∃ served,
    Memory.machine.run (prune r) m = ({ r with pruned := true },
      { m with networkPrunes := m.networkPrunes + 1, volumePrunes := m.volumePrunes + 1, served }) := by
  have unfailing : r.errors ++ ([] : List Engine.Error).map Engine.Error.message = r.errors :=
    List.append_nil _
  refine ⟨Engine.Call.pruneVolumes.title :: Engine.Call.pruneNetworks.title :: m.served, ?_⟩
  conv_rhs => rw [← unfailing]
  rfl

def prunings (c : Cleaner) : Nat := if c.environment = .developer then 1 else 0

theorem run_cleanup (c : Cleaner) (scope : Scope) (m : Memory) : ∃ served,
    Memory.machine.run (c.cleanup scope) m =
      ({ noteAll m c.grace (m.store.names.filter (c.Target scope)) {} with
          pruned := c.environment = .developer },
        { m.holding (m.store.eraseAll (c.found scope m.store)) served with
          networkPrunes := m.networkPrunes + c.prunings
          volumePrunes := m.volumePrunes + c.prunings }) := by
  obtain ⟨served, found⟩ := c.run_targets scope m
  obtain ⟨served', removed⟩ := run_removeAll (c := c) (c.nodup_found scope m.store) {}
    (m.holding m.store served)
  simp only [Memory.holding_store, Memory.holding_holding, filter_found] at removed
  unfold cleanup prunings
  rw [Machine.run_bind, found]
  dsimp only
  rw [Machine.run_bind, removed]
  cases environment : c.environment with
  | developer =>
    obtain ⟨served'', pruned⟩ := run_prune
      (noteAll m c.grace (m.store.names.filter (c.Target scope)) {})
      (m.holding (m.store.eraseAll (c.found scope m.store)) served')
    exact ⟨served'', pruned⟩
  | sharedRunner => exact ⟨served', rfl⟩

/-- A clean-up that no call fails, but for graceful stops that all hang, leaves the containers that
are no targets and reports the others, each once and in the order of the store. It prunes once on a
developer's machine and never on a shared runner. A second one has nothing left to do. -/
theorem cleanup_removes_targets (c : Cleaner) (scope : Scope) (m : Memory) : ∃ report m',
    Memory.machine.run (c.cleanup scope) m = (report, m') ∧
    m'.store.items = m.store.items.filter (fun d => ¬ c.Target scope d.name) ∧
    report.removed = m.store.names.filter (c.Target scope) ∧ report.removed.Nodup ∧
    m'.networkPrunes = m.networkPrunes + (if c.environment = .developer then 1 else 0) ∧
    m'.volumePrunes = m.volumePrunes + (if c.environment = .developer then 1 else 0) ∧
    ∃ report' m'', Memory.machine.run (c.cleanup scope) m' = (report', m'') ∧
      report'.removed = [] ∧ report'.errors = [] ∧ m''.store = m'.store := by
  obtain ⟨served, first⟩ := c.run_cleanup scope m
  set m' : Memory := { m.holding (m.store.eraseAll (c.found scope m.store)) served with
    networkPrunes := m.networkPrunes + c.prunings
    volumePrunes := m.volumePrunes + c.prunings }
  obtain ⟨served', second⟩ := c.run_cleanup scope m'
  have left : m'.store.items = m.store.items.filter fun d => ¬ c.Target scope d.name :=
    c.items_eraseAll_found scope m.store
  have spared : ∀ d ∈ m'.store.items, ¬ c.Target scope d.name := by
    intro d there
    rw [left] at there
    simpa using (List.mem_filter.1 there).2
  have nothing : m'.store.names.filter (c.Target scope) = [] := by
    rw [List.filter_eq_nil_iff]
    intro name among
    obtain ⟨d, there, rfl⟩ := List.mem_map.1 among
    simpa using spared d there
  have kept : m'.store.eraseAll (c.found scope m'.store) = m'.store := by
    refine Engine.Store.eq_of_items ?_
    rw [items_eraseAll_found, List.filter_eq_self]
    exact fun d there => decide_eq_true (spared d there)
  refine ⟨_, m', first, left, rfl, m.store.nodup_names.filter _, rfl, rfl, _, _, second, ?_, ?_, kept⟩
  · simp only [noteAll, nothing, List.append_nil]
  · simp only [noteAll, nothing, List.flatMap_nil, List.map_nil, List.append_nil]

end Cleaner

end Sandbox

end TestRig
