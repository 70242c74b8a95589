import Mathlib.Tactic
import TestRig.Proofs.CleanupTargets
import TestRig.Proofs.StopCalls

/-!
The calls of a clean-up one by one, whatever they are answered and whatever else happens to the
engine in between. Each name to remove is looked up, each failure and each removal is noted where it
happens, and only what the clean-up is after is stopped, killed or removed.
-/

namespace TestRig

namespace Sandbox

open Engine (Call Memory Store)

abbrev listing : Call := .matching ("^" ++ nameStart) true

variable {σ : Type} {w : World Engine.interface σ} {c : Cleaner} {scope : Scope}
  {names : List String} {r r' r'' : CleanupReport} {s s' : σ} {t t' : Transcript}

/-- How a report goes on over some calls: it notes what they failed and removed. -/
structure Accounts (t : Transcript) (r r' : CleanupReport) : Prop where
  removed : r'.removed = r.removed ++ t.removals
  errors : r'.errors = r.errors ++ t.failed.map Engine.Error.message

theorem Accounts.refl (r : CleanupReport) : Accounts [] r r :=
  ⟨(List.append_nil _).symm, (List.append_nil _).symm⟩

theorem Accounts.trans (h : Accounts t r r') (h' : Accounts t' r' r'') :
    Accounts (t ++ t') r r'' where
  removed := by rw [h'.removed, h.removed, Transcript.removals_append, List.append_assoc]
  errors := by
    rw [h'.errors, h.errors, Transcript.failed_append, List.map_append, List.append_assoc]

namespace Cleaner

theorem accounts_noteStop {grace : Duration} {name : String} {report : StopReport}
    (run : w.Runs (stop grace name) s t report s') : Accounts t r (noteStop r name report) := by
  obtain ⟨stopping, errors⟩ := stopping_of_runs run
  refine ⟨?_, by rw [noteStop, errors]⟩
  rw [noteStop, stopping.removals]
  split_ifs
  · exact (List.append_nil _).symm
  · rfl

theorem runs_removeAll (run : w.Runs (c.removeAll names r) s t r' s') :
    Accounts t r r' ∧ r'.pruned = r.pruned ∧ ∀ name ∈ names, lookUp name ∈ t.map Event.question := by
  induction names generalizing r s t with
  | nil =>
    obtain ⟨rfl, rfl, -⟩ := World.runs_done.1 run
    exact ⟨.refl _, rfl, by simp⟩
  | cons name rest ih =>
    obtain ⟨t₁, report, s₁, t₂, stopped, later, rfl⟩ := World.runs_bind.1 run
    obtain ⟨accounts, pruned, lookedUp⟩ := ih later
    refine ⟨(accounts_noteStop stopped).trans accounts, pruned, fun other among => ?_⟩
    rw [List.map_append, List.mem_append]
    obtain rfl | among := List.mem_cons.1 among
    · obtain ⟨x, t₃, rfl⟩ := (stopping_of_runs stopped).1.head
      exact .inl List.mem_cons_self
    · exact .inr (lookedUp other among)

theorem asks_removeAll (c : Cleaner) (names : List String) (r : CleanupReport) :
    (c.removeAll names r).Asks fun q : Call => ∃ name ∈ names, q.Removes name := by
  induction names generalizing r with
  | nil => trivial
  | cons name rest ih =>
    refine Program.asks_bind (Program.asks_mono ?_ (asks_stop c.grace name)) fun report =>
      Program.asks_mono ?_ (ih _)
    · exact fun q removes => ⟨name, List.mem_cons_self, removes⟩
    · rintro q ⟨other, among, removes⟩
      exact ⟨other, List.mem_cons_of_mem _ among, removes⟩

theorem runs_prune (run : w.Runs (prune r) s t r' s') : ∃ x y,
    t = [⟨.pruneNetworks, x⟩, ⟨.pruneVolumes, y⟩] ∧ Accounts t r r' ∧
      (r'.pruned = true ↔ ⟨.pruneNetworks, .ok ()⟩ ∈ t ∧ ⟨.pruneVolumes, .ok ()⟩ ∈ t) := by
  obtain ⟨(x : Except Engine.Error Unit), s₁, t₁, -, rest, rfl⟩ := World.runs_ask.1 run
  obtain ⟨(y : Except Engine.Error Unit), s₂, t₂, -, ended, rfl⟩ := World.runs_ask.1 rest
  obtain ⟨rfl, rfl, -⟩ := World.runs_done.1 ended
  have networks : ⟨.pruneNetworks, .ok ()⟩ ∈
      ([⟨.pruneNetworks, x⟩, ⟨.pruneVolumes, y⟩] : Transcript) ↔ failures x = [] := by
    cases x with
    | ok _ => exact iff_of_true List.mem_cons_self rfl
    | error e => exact iff_of_false (by rintro (_ | ⟨_, _ | ⟨_, ⟨⟩⟩⟩)) nofun
  have volumes : ⟨.pruneVolumes, .ok ()⟩ ∈
      ([⟨.pruneNetworks, x⟩, ⟨.pruneVolumes, y⟩] : Transcript) ↔ failures y = [] := by
    cases y with
    | ok _ => exact iff_of_true (List.mem_cons_of_mem _ List.mem_cons_self) rfl
    | error e => exact iff_of_false (by rintro (_ | ⟨_, _ | ⟨_, ⟨⟩⟩⟩)) nofun
  refine ⟨x, y, rfl, ⟨(List.append_nil _).symm, by simp⟩, ?_⟩
  rw [networks, volumes, ← List.append_eq_nil_iff]
  exact List.isEmpty_iff

def finish (c : Cleaner) (r : CleanupReport) : Engine.Routine CleanupReport :=
  match c.environment with
  | .developer => prune r
  | .sharedRunner => return r

theorem runs_finish (run : w.Runs (c.finish r) s t r' s') :
    (c.environment = .developer ∧ w.Runs (prune r) s t r' s') ∨
      (c.environment = .sharedRunner ∧ t = [] ∧ r' = r) := by
  unfold finish at run
  cases environment : c.environment with
  | developer => exact .inl ⟨rfl, by rwa [environment] at run⟩
  | sharedRunner =>
    rw [environment] at run
    obtain ⟨rfl, rfl, -⟩ := World.runs_done.1 run
    exact .inr ⟨rfl, rfl, rfl⟩

theorem asks_finish (c : Cleaner) (r : CleanupReport) (P : String → Prop) :
    (c.finish r).Asks (Call.Reaps P) := by
  unfold finish
  cases c.environment with
  | developer => exact ⟨trivial, fun _ => ⟨trivial, fun _ => trivial⟩⟩
  | sharedRunner => trivial

theorem cleanup_eq (c : Cleaner) (scope : Scope) : c.cleanup scope =
    c.targets scope >>= fun found => c.removeAll found.1 ⟨[], found.2, false⟩ >>= c.finish := rfl

theorem runs_cleanup {report : CleanupReport} (run : w.Runs (c.cleanup scope) s t report s') :
    ∃ t₁ found s₁ t₂ r s₂ t₃, w.Runs (c.targets scope) s t₁ found s₁ ∧
      w.Runs (c.removeAll found.1 ⟨[], found.2, false⟩) s₁ t₂ r s₂ ∧
      w.Runs (c.finish r) s₂ t₃ report s' ∧ t = t₁ ++ (t₂ ++ t₃) := by
  rw [cleanup_eq] at run
  obtain ⟨t₁, found, s₁, _, listed, rest, rfl⟩ := World.runs_bind.1 run
  obtain ⟨t₂, r, s₂, t₃, removed, finished, rfl⟩ := World.runs_bind.1 rest
  exact ⟨t₁, found, s₁, t₂, r, s₂, t₃, listed, removed, finished, rfl⟩

theorem accounts_targets {found : List String × List String}
    (run : w.Runs (c.targets scope) s t found s') :
    Accounts t {} ⟨[], found.2, false⟩ ∧ ∀ e ∈ t, e.question = listing := by
  cases scope with
  | one name =>
    obtain ⟨rfl, rfl, -⟩ := World.runs_done.1 run
    exact ⟨.refl _, by simp⟩
  | run =>
    obtain ⟨(x : Except Engine.Error (List String)), s₁, t₁, -, listed, rfl⟩ :=
      World.runs_ask.1 run
    cases x with
    | ok _ | error _ =>
      obtain ⟨rfl, rfl, -⟩ := World.runs_done.1 listed
      exact ⟨⟨rfl, rfl⟩, by simp⟩

theorem accounts_finish (run : w.Runs (c.finish r) s t r' s') : Accounts t r r' := by
  obtain ⟨-, pruning⟩ | ⟨-, rfl, rfl⟩ := runs_finish run
  · obtain ⟨x, y, -, accounts, -⟩ := runs_prune pruning
    exact accounts
  · exact .refl _

theorem accounts_cleanup {report : CleanupReport} (run : w.Runs (c.cleanup scope) s t report s') :
    Accounts t {} report := by
  obtain ⟨t₁, found, s₁, t₂, r, s₂, t₃, listed, removed, finished, rfl⟩ := runs_cleanup run
  exact (accounts_targets listed).1.trans
    ((runs_removeAll removed).1.trans (accounts_finish finished))

theorem mem_finish_of_prunes {found : List String × List String} {names : List String} {s₁ : σ}
    {t₁ t₂ t₃ : Transcript} (listed : w.Runs (c.targets scope) s t₁ found s₁)
    (removed : w.Runs (c.removeAll names r) s₁ t₂ r' s') {e : Event Engine.interface}
    (prunes : Call.Prunes e.question) : e ∈ t₁ ++ (t₂ ++ t₃) ↔ e ∈ t₃ := by
  refine ⟨fun among => ?_, fun among => by simp [among]⟩
  obtain among | among | among := by simpa only [List.mem_append] using among
  · rw [(accounts_targets listed).2 e among] at prunes
    obtain ⟨⟨⟩⟩ | ⟨⟨⟩⟩ := prunes
  · obtain ⟨name, -, removes⟩ := removed.asks (asks_removeAll c _ _) e among
    exact absurd prunes (Call.not_prunes_of_removes removes)
  · exact among

theorem pruned_cleanup {report : CleanupReport} (run : w.Runs (c.cleanup scope) s t report s') :
    report.pruned = true ↔ ⟨.pruneNetworks, .ok ()⟩ ∈ t ∧ ⟨.pruneVolumes, .ok ()⟩ ∈ t := by
  obtain ⟨t₁, found, s₁, t₂, r, s₂, t₃, listed, removed, finished, rfl⟩ := runs_cleanup run
  rw [mem_finish_of_prunes listed removed (.inl rfl), mem_finish_of_prunes listed removed (.inr rfl)]
  obtain ⟨-, pruning⟩ | ⟨-, rfl, rfl⟩ := runs_finish finished
  · obtain ⟨x, y, -, -, pruned⟩ := runs_prune pruning
    exact pruned
  · have unpruned := (runs_removeAll removed).2.1
    simp [unpruned]

theorem not_prunes_of_runs {report : CleanupReport} (shared : c.environment = .sharedRunner)
    (run : w.Runs (c.cleanup scope) s t report s') : ∀ e ∈ t, ¬ Call.Prunes e.question := by
  obtain ⟨t₁, found, s₁, t₂, r, s₂, t₃, listed, removed, finished, rfl⟩ := runs_cleanup run
  intro e among prunes
  rw [mem_finish_of_prunes listed removed prunes] at among
  obtain ⟨developer, -⟩ | ⟨-, rfl, -⟩ := runs_finish finished
  · rw [shared] at developer
    cases developer
  · exact absurd among List.not_mem_nil

theorem asked_prunes {report : CleanupReport} (run : w.Runs (c.cleanup scope) s t report s')
    (may : c.environment = .developer) :
    .pruneNetworks ∈ t.map Event.question ∧ .pruneVolumes ∈ t.map Event.question := by
  obtain ⟨t₁, found, s₁, t₂, r, s₂, t₃, -, -, finished, rfl⟩ := runs_cleanup run
  obtain ⟨-, pruning⟩ | ⟨shared, -⟩ := runs_finish finished
  · obtain ⟨x, y, rfl, -⟩ := runs_prune pruning
    simp
  · rw [may] at shared
    cases shared

section

variable {others : Store → Store → Prop} {mayFail allowed : Call → Prop} {m m' : Memory}
  {found : List String × List String}

theorem found_of_runs
    (run : (Memory.among others mayFail allowed).Runs (c.targets scope) m t found m') :
    (m' = m ∨ others m.store m'.store) ∧ (found.1 = c.found scope m'.store ∨
      scope = .run ∧ mayFail listing ∧ ∃ e, t = [⟨listing, .error e⟩]) := by
  cases scope with
  | one name =>
    obtain ⟨rfl, rfl, rfl⟩ := World.runs_done.1 run
    exact ⟨.inl rfl, .inl rfl⟩
  | run =>
    obtain ⟨(x : Except Engine.Error (List String)), m₁, t₁, ⟨m₀, fault, used, may, served⟩, listed,
      rfl⟩ := World.runs_ask.1 run
    cases fault with
    | some e =>
      obtain ⟨rfl, rfl⟩ := Memory.serve_some served
      obtain ⟨rfl, rfl, rfl⟩ := World.runs_done.1 listed
      exact ⟨.inr used, .inr ⟨rfl, may rfl, e, rfl⟩⟩
    | none =>
      cases served
      obtain ⟨rfl, rfl, rfl⟩ := World.runs_done.1 listed
      exact ⟨.inr used, .inl (c.mayRemove_listing _)⟩

theorem keeps_targets (free : allowed listing) (c : Cleaner) (scope : Scope) (m : Memory) :
    (Memory.among others mayFail allowed).Keeps (fun _ => True) (c.targets scope)
      (fun found _ => ∀ name ∈ found.1, c.Target scope name) m := by
  cases scope with
  | one name => exact fun other among => List.mem_singleton.1 among
  | run =>
    refine ⟨free, fun (x : Except Engine.Error (List String)) m' answered => ⟨trivial, ?_⟩⟩
    obtain ⟨m₀, fault, -, -, served⟩ := answered
    cases fault with
    | some e =>
      obtain ⟨rfl, -⟩ := Memory.serve_some served
      exact fun name among => absurd among List.not_mem_nil
    | none =>
      cases served
      intro name among
      replace among : name ∈ c.mayRemove (m₀.store.namesMatching ("^" ++ nameStart) true) := among
      rw [mayRemove_listing, List.mem_filter, decide_eq_true_iff] at among
      exact among.2

/-- Nothing but what the clean-up is after is stopped, killed or removed. -/
theorem keeps_cleanup (c : Cleaner) (scope : Scope) (m : Memory) :
    (Memory.among others mayFail (Call.Reaps (c.Target scope))).Keeps (fun _ => True)
      (c.cleanup scope) (fun _ _ => True) m := by
  rw [cleanup_eq]
  refine (keeps_targets trivial c scope m).bind fun found m₁ among =>
    World.keeps_of_allowed ?_ fun _ _ => id
  refine Program.asks_bind (Program.asks_mono ?_ (asks_removeAll c _ _)) fun r =>
    c.asks_finish r (c.Target scope)
  rintro q ⟨name, hit, removes⟩
  exact Call.reaps_of_removes (among name hit) removes

theorem reaps_of_steps {p : Engine.Routine CleanupReport}
    (path : (Memory.among others mayFail (Call.Reaps (c.Target scope))).Steps
      (c.cleanup scope) m t p m') : ∀ e ∈ t, Call.Reaps (c.Target scope) e.question := by
  intro e among
  obtain ⟨_, allowed⟩ := (c.keeps_cleanup scope m).allowed path e among
  exact allowed

end

end Cleaner

end Sandbox

end TestRig
