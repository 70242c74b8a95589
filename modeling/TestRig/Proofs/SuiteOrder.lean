import Mathlib.Tactic
import TestRig.Proofs.SuiteExit

/-!
What a suite run does in which order. A run that finds cases is over with its workers before it turns
to the engine, and then reclaims once; by that time its answer is settled, and neither the engine nor
a summary file can change it. A run that finds none never gets that far. Behind the gate nothing is
launched before the pre-flight case has passed, and that case is never launched again.
-/

namespace TestRig.Suite

open Host (Routine Result)
open Pool (Trace Workers Report Account launch? launches receipts calls Seen)

variable {worker : Worker.Settings} {s : Settings} {i : Invocation} {w w' : Workers} {t : Trace}
  {r : Except SuiteError Int} {cases : List Case}

/-- No launch any more, and one clean-up of the whole run, perhaps after the totals. -/
structure Closing (worker : Worker.Settings) (s : Settings) (t : Trace) : Prop where
  noLaunch : launches t = []
  once : ∃ shown cleaned report w w', t = shown ++ cleaned ∧ calls shown = [] ∧
    (Workers.world worker).Runs (Host.ofEngine (s.cleaner.cleanup .run)) w cleaned report w'

/-- Every worker launched has reported, and the engine was not called. -/
structure Rested (t : Trace) : Prop where
  calls : calls t = []
  reported : ((receipts t).map Workers.ticket).Perm (launches t)

theorem rested_searched (i : Invocation) (x : Except SystemError Host.Listing) :
    Rested (searched i x) :=
  ⟨rfl, .refl _⟩

theorem Rested.append {t t' : Trace} (rested : Rested t) (rested' : Rested t') :
    Rested (t ++ t') := by
  refine ⟨by rw [Pool.calls_append, rested.calls, rested'.calls, List.append_nil], ?_⟩
  rw [Pool.receipts_append, Pool.launches_append, List.map_append]
  exact rested.reported.append rested'.reported

/-- Whatever is answered from here on, the run closes and ends with `r`. -/
def Settled (worker : Worker.Settings) (s : Settings) (p : Routine (Except SuiteError Int))
    (r : Except SuiteError Int) : Prop :=
  ∀ w z r' w', (Workers.world worker).Runs p w z r' w' → r' = r ∧ Closing worker s z

theorem closing_of_runs {shown cleaned : Trace} (publishes : ∀ e ∈ shown, Publishes e.question)
    (path : (Workers.world worker).Runs (reclaim s) w cleaned () w') :
    Closing worker s (shown ++ cleaned) := by
  refine ⟨?_, ?_⟩
  · exact ((silent_of_publishes publishes).append (silent_reclaim path)).noLaunch
  · obtain ⟨report, cleans⟩ := runs_reclaim path
    exact ⟨shown, cleaned, report, w, w', rfl, calls_of_publishes publishes, cleans⟩

theorem settled_conclude (target : String) (report : Report) :
    Settled worker s (conclude s target report) (.ok (exitCode report)) := by
  intro w z r' w' path
  obtain ⟨shown, cleaned, w₁, rfl, rfl, published, reclaimed⟩ := runs_conclude path
  exact ⟨rfl, closing_of_runs (published.asks (asks_publish _ _ _)) reclaimed⟩

theorem settled_reclaim (verdict : Except SuiteError Int) :
    Settled worker s (reclaim s >>= fun _ => .done verdict) verdict := by
  intro w z r' w' path
  obtain ⟨cleaned, _, w₁, _, reclaimed, ended, rfl⟩ := World.runs_bind.1 path
  obtain ⟨rfl, rfl, rfl⟩ := World.runs_done.1 ended
  refine ⟨rfl, ?_⟩
  have closing := closing_of_runs (List.forall_mem_nil _) reclaimed
  rwa [List.nil_append, ← List.append_nil cleaned] at closing

theorem Settled.runs {m z : Trace} {p : Routine (Except SuiteError Int)} {w₁ : Workers}
    (settled : Settled worker s p r) (arrived : (Workers.world worker).Steps (run s i) w m p w₁)
    {r' : Except SuiteError Int} (path : (Workers.world worker).Runs (run s i) w (m ++ z) r' w') :
    r' = r ∧ Closing worker s z := by
  obtain ⟨q, u, before, after⟩ := World.steps_append.1 path
  obtain rfl := arrived.left_unique before
  exact settled u z r' w' after

theorem Pool.Account.rested {report : Report} (account : Account cases t report) : Rested t :=
  ⟨account.calls, account.reported⟩

theorem Opened.rested (opened : Opened s t) : Rested t :=
  ⟨opened.calls, opened.reported⟩

theorem Course.settles (course : Course worker s i w t r w') (idle : w.out = [])
    (listed : Found i t cases) : ∃ m z p u, t = m ++ z ∧ Rested m ∧
      (Workers.world worker).Steps (run s i) w m p u ∧ Settled worker s p r := by
  cases course with
  | cutBefore =>
    obtain ⟨x, rest, same, -⟩ := listed.searched
    cases same
  | cutAfter x =>
    obtain ⟨y, rest, same, -⟩ := listed.searched
    cases same
  | missed misses =>
    exact (listed.not_missed (missed_searched.2 misses)).elim
  | @stopped x _ _ _ _ a c _ _ finds set ran stop =>
    exact ⟨_, c, _, _, rfl, (rested_searched i x).append (Pool.account ran idle).1.rested,
      steps_stopped finds set ran stop, settled_reclaim _⟩
  | @spread x _ report a b p c _ _ _ _ finds gate ran =>
    obtain ⟨opened, idle⟩ := gate.opened idle
    have pools := opened.rested.append (Pool.account ran idle).1.rested
    exact ⟨_, p ++ c, _, _, rfl, (rested_searched i x).append pools, steps_spread finds gate ran,
      settled_conclude _ _⟩

theorem Course.idle (course : Course worker s i w t r w') (lost : ¬ ∃ cases, Found i t cases) :
    launches t = [] ∧ calls t = [] := by
  cases course with
  | cutBefore | cutAfter | missed => exact ⟨rfl, rfl⟩
  | stopped finds | spread finds => exact (lost ⟨_, found_around.2 finds⟩).elim

/-- The place of a launch behind the gate: the pre-flight case came first and passed, no interrupt was
found since, and the launch is of another case. -/
structure Behind (first : Case) (t : Trace) (ticket : Nat × Case) : Prop where
  launched : (launches t).head? = some (0, first)
  passed : ∃ result : Result, (receipts t).head? = some (0, result) ∧ result.case = first ∧
    result.code = some 0
  unseen : ¬ Seen t
  other : ticket.2 ≠ first

theorem Opened.result {first : Case} (opened : Opened s t) (set : s.preflight = some first) :
    ∃ result : Result, receipts t = [(0, result)] ∧ result.case = first ∧ result.code = some 0 := by
  have reported := opened.reported
  rw [opened.launched, set, Option.toList_some, List.map_singleton, List.perm_singleton,
    List.map_eq_singleton_iff] at reported
  obtain ⟨⟨_, result⟩, received, ticket⟩ := reported
  obtain ⟨rfl, own⟩ := Prod.mk.inj ticket
  exact ⟨result, received, own, (opened.passed _ (received ▸ List.mem_singleton_self _)).2⟩

theorem append_cons_eq_append {α : Type} {l₁ l₂ m z : List α} {e : α}
    (same : l₁ ++ e :: l₂ = m ++ z) :
    (∃ rest, m = l₁ ++ e :: rest) ∨ ∃ pre, l₁ = m ++ pre ∧ z = pre ++ e :: l₂ := by
  obtain ⟨rest, rfl, split⟩ | ⟨pre, rfl, rfl⟩ := List.append_eq_append_iff.1 same
  · cases rest with
    | nil => exact .inr ⟨[], by simp, split.symm⟩
    | cons _ rest =>
      cases split
      exact .inl ⟨rest, rfl⟩
  · exact .inr ⟨pre, rfl, rfl⟩

section Launch

variable {t₁ t₂ : Trace} {e : Event Host.interface} {first : Case} {ticket : Nat × Case}
  (launch : launch? e = some ticket)

include launch

theorem launches_split : launches (t₁ ++ e :: t₂) = launches t₁ ++ ticket :: launches t₂ := by
  rw [Pool.launches_append, Pool.launches_cons, launch]
  rfl

theorem first_of_singleton (few : launches t <+: [(0, first)]) (split : t = t₁ ++ e :: t₂) :
    launches t₁ = [] ∧ ticket = (0, first) := by
  subst split
  rw [launches_split launch] at few
  obtain ⟨more, same⟩ := few
  cases before : launches t₁ with
  | nil =>
    rw [before] at same
    exact ⟨rfl, (List.cons.inj same).1⟩
  | cons c l =>
    rw [before] at same
    simp at same

theorem behind_of_pools {a b z : Trace} {x : Except SystemError Host.Listing} {report : Report}
    (set : s.preflight = some first) (opened : Opened s a)
    (account : Account (others s cases) b report) (silent : Silent z)
    (split : searched i x ++ (a ++ b) ++ z = t₁ ++ e :: t₂) :
    (launches t₁ = [] ∧ ticket = (0, first)) ∨ Behind first t₁ ticket := by
  have gated : launches (searched i x ++ a) = [(0, first)] := by
    rw [Pool.launches_append, (silent_searched i x).noLaunch, opened.launched, set]
    rfl
  -- the launch is in the first pool, in the second, or in the closing, which has none
  rw [← List.append_assoc, List.append_assoc] at split
  obtain ⟨rest, before⟩ | ⟨pre, rfl, after⟩ := append_cons_eq_append split.symm
  · exact .inl (first_of_singleton launch (gated ▸ List.prefix_rfl) before)
  obtain ⟨rest, rfl⟩ | ⟨pre', -, rfl⟩ := append_cons_eq_append after.symm
  · obtain ⟨result, received, own, passed⟩ := opened.result set
    refine .inr ⟨?_, ⟨result, ?_, own, passed⟩, ?_, ?_⟩
    · rw [Pool.launches_append, gated]
      rfl
    · rw [Pool.receipts_append, Pool.receipts_append, (silent_searched i x).noReceipt, received]
      rfl
    · rw [Pool.seen_append, Pool.seen_append, not_or, not_or]
      exact ⟨⟨(silent_searched i x).unseen, opened.unseen⟩,
        account.unseen pre e rest rfl (launch ▸ rfl)⟩
    · intro again
      have among : ticket ∈ launches (pre ++ e :: rest) := by
        rw [launches_split launch]
        exact List.mem_append_right _ List.mem_cons_self
      exact preflight_ne_of_launch account among (again ▸ set)
  · have quiet := silent.noLaunch
    rw [launches_split launch] at quiet
    simp at quiet

theorem Course.behind (course : Course worker s i w t r w') (idle : w.out = [])
    (set : s.preflight = some first) (split : t = t₁ ++ e :: t₂) :
    (launches t₁ = [] ∧ ticket = (0, first)) ∨ Behind first t₁ ticket := by
  cases course with
  | cutBefore | cutAfter | missed =>
    refine .inl (first_of_singleton launch ?_ split)
    exact List.nil_prefix
  | @stopped x _ _ _ _ a _ _ _ _ set' ran _ reclaimed =>
    rw [set] at set'
    cases set'
    refine .inl (first_of_singleton launch ?_ split)
    rw [((silent_reclaim reclaimed).around x).1]
    exact (Pool.account ran idle).1.order
  | spread _ gate ran shown reclaimed =>
    obtain ⟨opened, idle⟩ := gate.opened idle
    exact behind_of_pools launch set opened (Pool.account ran idle).1
      (silent_closing shown reclaimed) split

end Launch

/-- A run that finds no cases launches nothing and leaves the engine alone. Any other comes to a point
where every worker launched has reported and the engine was not called yet; from there on nothing is
launched and the whole run is reclaimed once, and whatever the engine, the clock and the summary file
answer there, the order and the answer stay. With a pre-flight case set the first launch is that
case; every later one is of another case, and comes after that case ended with code 0 and before any
interrupt was found. -/
theorem one_cleanup_after_workers {requested : Bool}
    (path : (Workers.world worker).Runs (run s i) ⟨requested, [], [], []⟩ t r w) :
    ((¬ ∃ cases, Found i t cases) → launches t = [] ∧ calls t = []) ∧
    (∀ cases, Found i t cases → ∃ m z, t = m ++ z ∧ Rested m ∧ Closing worker s z ∧
      ∀ z' r' w', (Workers.world worker).Runs (run s i) ⟨requested, [], [], []⟩ (m ++ z') r' w' →
        r' = r ∧ Closing worker s z') ∧
    ∀ first, s.preflight = some first → ∀ t₁ e t₂ ticket, t = t₁ ++ e :: t₂ →
      launch? e = some ticket →
      (launches t₁ = [] ∧ ticket = (0, first)) ∨ Behind first t₁ ticket := by
  have course := course_of_runs path
  refine ⟨course.idle, fun cases listed => ?_, fun first set t₁ e t₂ ticket split launch =>
    course.behind launch rfl set split⟩
  obtain ⟨m, z, p, u, rfl, rested, arrived, settled⟩ := course.settles rfl listed
  exact ⟨m, z, rfl, rested, (settled.runs arrived path).2,
    fun z' r' w' path' => settled.runs arrived path'⟩

theorem one_cleanup_after_workers_pair : ∃ t w,
    (Workers.world {}).Runs (run pairSettings pairInvocation) ⟨false, [], [], []⟩ t (.ok 0) w ∧
    (∃ m z, t = m ++ z ∧ Rested m ∧ Closing {} pairSettings z) ∧
    ∀ t₁ e t₂, t = t₁ ++ e :: t₂ → launch? e = some (0, probe) →
      Behind Pool.smoke t₁ (0, probe) := by
  obtain ⟨t, w, path⟩ := runs_clean {} found_pair (s := pairSettings) rfl
  obtain ⟨-, closes, gate⟩ := one_cleanup_after_workers path
  obtain ⟨m, z, split, rested, closing, -⟩ := closes _ (found_searched.2 found_pair)
  refine ⟨_, w, path, ⟨m, z, split, rested, closing⟩, fun t₁ e t₂ split launch => ?_⟩
  obtain ⟨-, other⟩ | behind := gate _ rfl t₁ e t₂ _ split launch
  · exact absurd other (by decide)
  · exact behind

end TestRig.Suite
