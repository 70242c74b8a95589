import Mathlib.Tactic
import Mathlib.Data.DFinsupp.WellFounded
import Mathlib.Logic.Relation
import TestRig.Proofs.CleanupCalls

/-!
Any number of clean-ups on one engine, one call at a time in any order, while nobody launches. Each
of them sees the store fade under its hands: containers stop or go, and none comes. So what one has
seen gone stays gone, and whatever the order, all that any of them is after is gone in the end, the
rest is as it was, and each container that went was removed by one that says so.

Stops, kills and prunes may fail; look-ups and removals do not.
-/

namespace TestRig

namespace Sandbox

open Engine (Call Memory Store)

namespace Cleaner

variable {others : Store → Store → Prop} {mayFail allowed : Call → Prop} {P : String → Prop}
  {m m' : Memory} {t : Transcript} {c : Cleaner} {scope : Scope} {names : List String}
  {r r' report : CleanupReport}

theorem absent_of_removeAll (matching : ∀ pattern stopped, ¬ mayFail (.matching pattern stopped))
    (remove : ∀ name, ¬ mayFail (.remove name))
    (run : (Memory.among Store.Fades mayFail fun _ => True).Runs (c.removeAll names r) m t r' m') :
    ∀ name ∈ names, m'.store.contains name = false := by
  induction names generalizing r m t with
  | nil => simp
  | cons name rest ih =>
    obtain ⟨t₁, ended, m₁, t₂, stopped, later, rfl⟩ := World.runs_bind.1 run
    intro other among
    obtain rfl | among := List.mem_cons.1 among
    · have gone : m₁.store.contains other = false :=
        ((removal_among matching remove other).keeps_stop c.grace trivial).runs stopped
      have faded := Memory.fades_of_steps (fun _ _ => id) later fun e among => by
        obtain ⟨name, -, removes⟩ := later.asks (asks_removeAll c _ _) e among
        exact Call.reaps_of_removes (P := fun _ => True) trivial removes
      exact faded.absent gone
    · exact ih later other among

theorem absent_of_cleanup (matching : ∀ pattern stopped, ¬ mayFail (.matching pattern stopped))
    (remove : ∀ name, ¬ mayFail (.remove name))
    (run : (Memory.among Store.Fades mayFail (Call.Reaps (c.Target scope))).Runs
      (c.cleanup scope) m t report m') {name : String} (target : c.Target scope name) :
    m'.store.contains name = false := by
  have reaps := reaps_of_steps run
  obtain ⟨t₁, found, m₁, t₂, r, m₂, t₃, listed, removed, finished, rfl⟩ := runs_cleanup run
  -- a target is among what was found, or was gone before the listing
  have gone : m₂.store.contains name = false := by
    obtain ⟨-, all | ⟨-, failed, -⟩⟩ := found_of_runs listed
    · by_cases present : m₁.store.contains name = true
      · have among : name ∈ found.1 := all ▸ mem_found target present
        have unguarded : (Memory.among Store.Fades mayFail fun _ => True).Steps
            (c.removeAll found.1 ⟨[], found.2, false⟩) m₁ t₂ (.done r) m₂ :=
          Memory.steps_allowing removed
        exact absent_of_removeAll matching remove unguarded name among
      · have faded := Memory.fades_of_steps (fun _ _ => id) removed fun e among =>
          reaps e (List.mem_append_right _ (List.mem_append_left _ among))
        exact faded.absent (by simpa using present)
    · exact absurd failed (matching _ _)
  have faded := Memory.fades_of_steps (fun _ _ => id) finished fun e among =>
    reaps e (List.mem_append_right _ (List.mem_append_right _ among))
  exact faded.absent gone

end Cleaner

structure Cleanups (ι : Type) where
  memory : Memory
  rest : ι → Engine.Routine CleanupReport

namespace Cleanups

variable {ι : Type}

def opening (cleaner : ι → Cleaner) (scope : ι → Scope) (m : Memory) : Cleanups ι :=
  ⟨m, fun i => (cleaner i).cleanup (scope i)⟩

/-- One clean-up has its next call served, or failed if that call may fail. -/
inductive Step [DecidableEq ι] (mayFail : Call → Prop) (s : Cleanups ι) : Cleanups ι → Prop
  | serve {i : ι} {q : Call} {next : Except Engine.Error q.Answer → Engine.Routine CleanupReport}
      {fault : Option Engine.Error} {x : Except Engine.Error q.Answer} {m : Memory}
      (left : s.rest i = .ask q next) (may : fault.isSome → mayFail q)
      (served : s.memory.serve fault q = (x, m)) :
      Step mayFail s ⟨m, Function.update s.rest i (next x)⟩

/-- What is left of each clean-up is what its calls so far leave, answered by an engine that the
others use as well; what none is after is as it was, and what is gone one of them removed. -/
structure Orderly (mayFail : Call → Prop) (cleaner : ι → Cleaner) (scope : ι → Scope) (m : Memory)
    (s : Cleanups ι) (t : ι → Transcript) : Prop where
  path : ∀ i, ∃ u : Memory, u.store.Fades s.memory.store ∧
    (Memory.among Store.Fades mayFail (Call.Reaps ((cleaner i).Target (scope i)))).Steps
      ((cleaner i).cleanup (scope i)) m (t i) (s.rest i) u
  spared : ∀ d : Engine.Container, (∀ i, ¬ (cleaner i).Target (scope i) d.name) →
    (d ∈ s.memory.store.items ↔ d ∈ m.store.items)
  missing : ∀ name, m.store.contains name = true → s.memory.store.contains name = false →
    ∃ i, name ∈ (t i).removals

variable {mayFail : Call → Prop} {cleaner : ι → Cleaner} {scope : ι → Scope} {m : Memory}
  {s s' : Cleanups ι} {t : ι → Transcript}

theorem orderly_opening : Orderly mayFail cleaner scope m (opening cleaner scope m) fun _ => [] where
  path i := ⟨m, Store.fades_refl _, .refl _ _⟩
  spared d _ := Iff.rfl
  missing name present absent := by
    rw [opening, present] at absent
    cases absent

section

variable [DecidableEq ι]

theorem Orderly.step (h : Orderly mayFail cleaner scope m s t) (step : Step mayFail s s') :
    ∃ t', Orderly mayFail cleaner scope m s' t' := by
  obtain @⟨i, q, next, fault, x, m', left, may, served⟩ := step
  obtain ⟨u, meanwhile, path⟩ := h.path i
  rw [left] at path
  have reaps : Call.Reaps ((cleaner i).Target (scope i)) q :=
    (((cleaner i).keeps_cleanup (scope i) m).steps path).1
  have faded := Memory.fades_serve (Call.ne_run_of_reaps reaps) served
  refine ⟨Function.update t i (t i ++ [⟨q, x⟩]), fun j => ?_, fun d spared => ?_,
    fun name present absent => ?_⟩
  · by_cases e : j = i
    · subst e
      refine ⟨m', Store.fades_refl _, ?_⟩
      simp only [Function.update_self]
      exact path.trans (.ask ⟨s.memory, fault, meanwhile, may, served⟩ (.refl _ _))
    · obtain ⟨v, before, path⟩ := h.path j
      simp only [Function.update_of_ne e]
      exact ⟨v, before.trans faded, path⟩
  · exact (Memory.items_serve reaps (spared i) served).trans (h.spared d spared)
  · -- only a removal takes away what is still there
    cases there : s.memory.store.contains name with
    | true =>
      obtain rfl : q = .remove name := by
        by_contra kept
        rw [Memory.contains_serve there kept served] at absent
        cases absent
      refine ⟨i, ?_⟩
      rw [Function.update_self]
      exact Transcript.mem_removals.2 ⟨⟨.remove name, x⟩, by simp, rfl⟩
    | false =>
      obtain ⟨j, removed⟩ := h.missing name present there
      refine ⟨j, ?_⟩
      by_cases e : j = i
      · subst e
        rw [Function.update_self, Transcript.removals_append]
        exact List.mem_append_left _ removed
      · rwa [Function.update_of_ne e]

theorem orderly_of_steps
    (path : Relation.ReflTransGen (Step mayFail) (opening cleaner scope m) s) :
    ∃ t, Orderly mayFail cleaner scope m s t := by
  induction path with
  | refl => exact ⟨_, orderly_opening⟩
  | tail _ step ih =>
    obtain ⟨t, orderly⟩ := ih
    exact orderly.step step

theorem wellFounded_step [Finite ι] : WellFounded fun s' s : Cleanups ι => Step mayFail s s' := by
  refine Subrelation.wf ?_ (InvImage.wf Cleanups.rest
    (Pi.Lex.wellFounded WellOrderingRel fun _ : ι => Program.wellFounded_leaves))
  intro s' s step
  obtain @⟨i, q, next, fault, x, m', left, may, served⟩ := step
  refine ⟨i, fun j before => Function.update_of_ne (ne_of_irrefl before) _ _, q, next, x, left, ?_⟩
  exact Function.update_self _ _ _

theorem done_of_stuck (stuck : ∀ s', ¬ Step mayFail s s') (i : ι) : ∃ r, s.rest i = .done r := by
  cases left : s.rest i with
  | done r => exact ⟨r, rfl⟩
  | ask q next =>
    have served : s.memory.serve none q = ((s.memory.serve none q).1, (s.memory.serve none q).2) :=
      rfl
    have may : (none : Option Engine.Error).isSome → mayFail q := nofun
    exact absurd (.serve left may served) (stuck _)

theorem exists_stuck [Finite ι] (s : Cleanups ι) : ∃ s',
    Relation.ReflTransGen (Step mayFail) s s' ∧ ∀ u, ¬ Step mayFail s' u := by
  obtain ⟨s', path, last⟩ := wellFounded_step.has_min
    {s' : Cleanups ι | Relation.ReflTransGen (Step mayFail) s s'} ⟨s, .refl⟩
  exact ⟨s', path, fun u step => last u (path.tail step) step⟩

/-- Every interleaving comes to an end, and there all clean-ups have reported. Of the containers at
the beginning those are left, as they were, that no clean-up was after; and each of the others is
reported removed by one of them at least. -/
theorem cleanups_converge [Finite ι]
    (matching : ∀ pattern stopped, ¬ mayFail (.matching pattern stopped))
    (remove : ∀ name, ¬ mayFail (.remove name)) (cleaner : ι → Cleaner) (scope : ι → Scope)
    (m : Memory) : (WellFounded fun s' s : Cleanups ι => Step mayFail s s') ∧
      ∀ s : Cleanups ι, Relation.ReflTransGen (Step mayFail) (opening cleaner scope m) s →
        (∀ s', ¬ Step mayFail s s') → ∃ report : ι → CleanupReport,
          (∀ i, s.rest i = .done (report i)) ∧
          (∀ d, d ∈ s.memory.store.items ↔
            d ∈ m.store.items ∧ ∀ i, ¬ (cleaner i).Target (scope i) d.name) ∧
          ∀ name, m.store.contains name = true → (∃ i, (cleaner i).Target (scope i) name) →
            ∃ i, name ∈ (report i).removed := by
  refine ⟨wellFounded_step, fun s path stuck => ?_⟩
  choose report ended using done_of_stuck stuck
  obtain ⟨t, orderly⟩ := orderly_of_steps path
  have runs : ∀ i, ∃ u : Memory, u.store.Fades s.memory.store ∧
      (Memory.among Store.Fades mayFail (Call.Reaps ((cleaner i).Target (scope i)))).Runs
        ((cleaner i).cleanup (scope i)) m (t i) (report i) u := by
    intro i
    obtain ⟨u, faded, path⟩ := orderly.path i
    rw [ended i] at path
    exact ⟨u, faded, path⟩
  have gone : ∀ i name, (cleaner i).Target (scope i) name →
      s.memory.store.contains name = false := by
    intro i name target
    obtain ⟨u, faded, run⟩ := runs i
    exact faded.absent (Cleaner.absent_of_cleanup matching remove run target)
  refine ⟨report, ended, fun d => ⟨fun there => ?_, fun ⟨there, spared⟩ => ?_⟩, ?_⟩
  · have spared : ∀ i, ¬ (cleaner i).Target (scope i) d.name := fun i target =>
      Store.name_ne (gone i d.name target) there rfl
    exact ⟨(orderly.spared d spared).1 there, spared⟩
  · exact (orderly.spared d spared).2 there
  · rintro name present ⟨i, target⟩
    obtain ⟨j, removed⟩ := orderly.missing name present (gone i name target)
    obtain ⟨u, -, run⟩ := runs j
    refine ⟨j, ?_⟩
    rw [(Cleaner.accounts_cleanup run).removed]
    exact removed

def crowded : Memory where
  store := (Store.empty.insert ⟨"web", 80, true⟩).insert ⟨"chain-sim-8085-7-1-1000", 8085, true⟩
  hangStops := true

def racers : Bool → Scope
  | false => .one "chain-sim-8085-7-1-1000"
  | true => .run

theorem cleanups_converge_crowded : ∃ s : Cleanups Bool, ∃ report : Bool → CleanupReport,
    Relation.ReflTransGen (Step fun q => ∃ name, q = .kill name)
      (opening (fun _ => ⟨.sharedRunner, 7, .ofSecs 10⟩) racers crowded) s ∧
    (∀ i, s.rest i = .done (report i)) ∧ ⟨"web", 80, true⟩ ∈ s.memory.store.items ∧
    ∃ i, "chain-sim-8085-7-1-1000" ∈ (report i).removed := by
  obtain ⟨s, path, stuck⟩ : ∃ s, Relation.ReflTransGen (Step fun q => ∃ name, q = .kill name)
      (opening (fun _ => ⟨.sharedRunner, 7, .ofSecs 10⟩) racers crowded) s ∧
      ∀ u, ¬ Step (fun q => ∃ name, q = .kill name) s u := exists_stuck _
  obtain ⟨report, ended, left, removed⟩ :=
    (cleanups_converge (by simp) (by simp) _ _ _).2 s path stuck
  refine ⟨s, report, path, ended, (left _).2 ⟨?_, ?_⟩, removed _ ?_ ⟨false, rfl⟩⟩
  · decide +kernel
  · intro i
    cases i <;> decide +kernel
  · decide +kernel

end

end Cleanups

end Sandbox

end TestRig
