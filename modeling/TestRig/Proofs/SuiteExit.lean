import Mathlib.Tactic
import TestRig.Proofs.PoolSummary
import TestRig.Proofs.SuiteCourse

/-!
What a suite run answers, read off its trace. A run has one of five outcomes, which exclude each
other: the interrupt was found, discovery failed, the pre-flight case failed, everything passed, or
something after the pre-flight case did not. How the clean-up and the writing of the totals fare is
no part of them.
-/

namespace TestRig.Suite

open Host (Result)
open Pool (Trace Workers Report Account launches receipts Seen)

/-- Every case asked for was launched, the pre-flight case first, and every worker reported. -/
structure Completed (s : Settings) (t : Trace) (cases : List Case) : Prop where
  launched : (launches t).map Prod.snd = s.preflight.toList ++ others s cases
  reported : ((receipts t).map Workers.ticket).Perm (launches t)

inductive Outcome (s : Settings) (i : Invocation) (t : Trace) : Except SuiteError Int → Prop
  | interrupted (seen : Seen t) : Outcome s i t (.ok 130)
  | missed {e : DiscoveryError} (unseen : ¬ Seen t) (misses : Missed i t e)
      (idle : launches t = []) : Outcome s i t (.error (.discovery e))
  | barred {cases : List Case} {first : Case} {result : Result} (unseen : ¬ Seen t)
      (finds : Found i t cases) (set : s.preflight = some first)
      (launched : launches t = [(0, first)]) (received : receipts t = [(0, result)])
      (own : result.case = first) (fails : result.code ≠ some 0) :
      Outcome s i t (.error (.preflight first.name result.codeText))
  | passed {cases : List Case} (unseen : ¬ Seen t) (finds : Found i t cases)
      (completed : Completed s t cases) (passes : ∀ event ∈ receipts t, event.2.code = some 0) :
      Outcome s i t (.ok 0)
  | failed {cases : List Case} {event : Nat × Result} (unseen : ¬ Seen t)
      (finds : Found i t cases) (completed : Completed s t cases) (among : event ∈ receipts t)
      (other : s.preflight ≠ some event.2.case) (fails : event.2.code ≠ some 0) :
      Outcome s i t (.ok 1)

namespace Outcome

variable {s : Settings} {i : Invocation} {t : Trace} {r : Except SuiteError Int}

theorem interrupted_iff (outcome : Outcome s i t r) : r = .ok 130 ↔ Seen t := by
  constructor
  · rintro rfl
    cases outcome with
    | interrupted seen => exact seen
  · intro seen
    cases outcome with
    | interrupted => rfl
    | missed unseen | barred unseen | passed unseen | failed unseen => exact (unseen seen).elim

theorem passed_iff (outcome : Outcome s i t r) : r = .ok 0 ↔ ¬ Seen t ∧ ∃ cases,
    Found i t cases ∧ Completed s t cases ∧ ∀ event ∈ receipts t, event.2.code = some 0 := by
  constructor
  · rintro rfl
    cases outcome with
    | passed unseen finds completed passes => exact ⟨unseen, _, finds, completed, passes⟩
  · rintro ⟨unseen, cases, finds, completed, passes⟩
    cases outcome with
    | interrupted seen => exact (unseen seen).elim
    | missed _ misses => exact (finds.not_missed misses).elim
    | barred _ _ _ _ received _ fails =>
      exact (fails (passes _ (received ▸ List.mem_singleton_self _))).elim
    | passed => rfl
    | failed _ _ _ among _ fails => exact (fails (passes _ among)).elim

theorem failed_iff (outcome : Outcome s i t r) : r = .ok 1 ↔ ¬ Seen t ∧ ∃ cases,
    Found i t cases ∧ Completed s t cases ∧ ∃ event ∈ receipts t,
      s.preflight ≠ some event.2.case ∧ event.2.code ≠ some 0 := by
  constructor
  · rintro rfl
    cases outcome with
    | failed unseen finds completed among other fails =>
      exact ⟨unseen, _, finds, completed, _, among, other, fails⟩
  · rintro ⟨unseen, cases, finds, completed, event, among, other, fails⟩
    cases outcome with
    | interrupted seen => exact (unseen seen).elim
    | missed _ misses => exact (finds.not_missed misses).elim
    | barred _ _ set _ received own =>
      rw [received, List.mem_singleton] at among
      subst among
      exact (other (own ▸ set)).elim
    | passed _ _ _ passes => exact (fails (passes _ among)).elim
    | failed => rfl

theorem barred_iff (outcome : Outcome s i t r) {name code : String} :
    r = .error (.preflight name code) ↔ ¬ Seen t ∧ ∃ first result, s.preflight = some first ∧
      launches t = [(0, first)] ∧ receipts t = [(0, result)] ∧ result.code ≠ some 0 ∧
      name = first.name ∧ code = result.codeText := by
  constructor
  · rintro rfl
    cases outcome with
    | barred unseen _ set launched received _ fails =>
      exact ⟨unseen, _, _, set, launched, received, fails, rfl, rfl⟩
  · rintro ⟨unseen, first, result, set, launched, received, fails, rfl, rfl⟩
    cases outcome with
    | interrupted seen => exact (unseen seen).elim
    | missed _ _ idle =>
      rw [launched] at idle
      cases idle
    | barred _ _ set' _ received' =>
      rw [set] at set'
      rw [received] at received'
      cases set'
      cases received'
      rfl
    | passed _ _ _ passes =>
      exact (fails (passes _ (received ▸ List.mem_singleton_self _))).elim
    | failed _ _ completed among other =>
      have reported := completed.reported
      rw [launched, received, List.map_singleton, List.perm_singleton] at reported
      rw [received, List.mem_singleton] at among
      subst among
      cases reported
      exact (other set).elim

theorem missed_iff (outcome : Outcome s i t r) {e : DiscoveryError} :
    r = .error (.discovery e) ↔ ¬ Seen t ∧ Missed i t e := by
  constructor
  · rintro rfl
    cases outcome with
    | missed unseen misses => exact ⟨unseen, misses⟩
  · rintro ⟨unseen, misses⟩
    cases outcome with
    | interrupted seen => exact (unseen seen).elim
    | missed _ misses' => rw [misses.unique misses']
    | barred _ finds | passed _ finds | failed _ finds => exact (finds.not_missed misses).elim

end Outcome

variable {worker : Worker.Settings} {s : Settings} {i : Invocation} {w w' : Workers} {t : Trace}
  {r : Except SuiteError Int}

section Pools

variable {a b z : Trace} {cases : List Case} {report : Report} (opened : Opened s a)
  (account : Account (others s cases) b report) (silent : Silent z)
  (x : Except SystemError Host.Listing)

include opened account silent

theorem completed_of_pools (running : report.interrupted = false) :
    Completed s (searched i x ++ (a ++ b) ++ z) cases := by
  obtain ⟨launched, received, -⟩ := silent.around_pools (i := i) (a := a) (b := b) x
  constructor
  · rw [launched, List.map_append, opened.launched, account.complete running, Pool.cases_ofCases,
      List.map_map]
    simp [Function.comp_def]
  · rw [launched, received, List.map_append]
    exact opened.reported.append account.reported

theorem seen_of_pools : Seen (searched i x ++ (a ++ b) ++ z) ↔ report.interrupted = true := by
  rw [(silent.around_pools x).2.2, account.seen]
  exact or_iff_right opened.unseen

theorem outcome_of_pools (finds : found i x = .ok cases) :
    Outcome s i (searched i x ++ (a ++ b) ++ z) (.ok (exitCode report)) := by
  have seen := seen_of_pools (i := i) opened account silent x
  have finds : Found i (searched i x ++ (a ++ b) ++ z) cases := found_around.2 finds
  cases running : report.interrupted with
  | true =>
    simp only [exitCode, running, if_true]
    exact .interrupted (seen.2 running)
  | false =>
    have unseen := mt seen.1 (by simp [running])
    have completed := completed_of_pools (i := i) opened account silent x running
    obtain ⟨-, received, -⟩ := silent.around_pools (i := i) (a := a) (b := b) x
    by_cases passes : report.summary.allPassed
    · simp only [exitCode, running, passes, if_true, Bool.false_eq_true, if_false]
      refine .passed unseen finds completed fun event among => ?_
      rw [received, List.mem_append] at among
      exact among.elim (fun early => (opened.passed event early).2) (account.allPassed.1 passes event)
    · simp only [exitCode, running, passes, Bool.false_eq_true, if_false]
      rw [account.allPassed] at passes
      push Not at passes
      obtain ⟨event, among, fails⟩ := passes
      exact .failed unseen finds completed (received ▸ List.mem_append_right _ among)
        (preflight_ne_of_receipt account among) fails

end Pools

theorem Course.outcome (course : Course worker s i w t r w') (idle : w.out = []) :
    Outcome s i t r := by
  cases course with
  | cutBefore => exact .interrupted ⟨_, List.mem_singleton_self _, rfl⟩
  | cutAfter x => exact .interrupted ⟨⟨.interrupted, true⟩, by simp, rfl⟩
  | @missed x e misses requested =>
    have looked : Missed i (searched i x ++ [⟨.cancelRequested, requested⟩]) e :=
      missed_searched.2 misses
    cases requested with
    | true =>
      exact .interrupted ((Pool.seen_append _ _).2 (.inr ⟨_, List.mem_singleton_self _, rfl⟩))
    | false =>
      refine .missed ?_ looked rfl
      rw [Pool.seen_append, Pool.seen_cons]
      exact not_or.2 ⟨(silent_searched i x).unseen, not_or.2 ⟨nofun, Pool.not_seen_nil⟩⟩
  | @stopped x cases first report verdict a c _ _ finds set ran stop reclaimed =>
    obtain ⟨launched, received, seen⟩ := (silent_reclaim reclaimed).around (i := i) (m := a) x
    obtain ⟨cut, verdict⟩ | ⟨result, unseen, launch, receipt, own, verdict⟩ :=
      preflight_account (Pool.account ran idle).1
    · rw [stop] at verdict
      cases verdict
      exact .interrupted (seen.2 cut)
    · rw [stop] at verdict
      split at verdict
      · cases verdict
      · rename_i fails
        cases verdict
        exact .barred (mt seen.1 unseen) (found_around.2 finds) set (launched.trans launch)
          (received.trans receipt) own fails
  | spread finds gate ran shown reclaimed =>
    obtain ⟨opened, idle⟩ := gate.opened idle
    exact outcome_of_pools opened (Pool.account ran idle).1 (silent_closing shown reclaimed) _ finds

def clean : Fate := .ended (some 0) []

theorem runs_pool (worker : Worker.Settings) (settings : Pool.Settings) (fate : Nat → Fate)
    (cases : List Case) (launched : List (Nat × Case)) (received : List (Nat × Result)) :
    ∃ t report launched' received', (Workers.world worker).Runs (Pool.runAll settings cases 1)
      ⟨false, [], launched, received⟩ t report ⟨false, [], launched', received'⟩ ∧
      report.interrupted = false ∧
      ∀ event ∈ receipts t, event.2.code = (fate event.1).code := by
  obtain ⟨t, report, _, _, path, running⟩ : ∃ t report launched' received',
      (Workers.fated worker fate).Runs (Pool.runAll settings cases 1)
        ⟨false, [], launched, received⟩ t report ⟨false, [], launched', received'⟩ ∧
      report.interrupted = false := Pool.runs_alone (s := .ofCases cases) rfl rfl
  refine ⟨t, report, _, _, Pool.Workers.steps_of_fated path, running, fun event among => ?_⟩
  rw [← (Pool.meets_receipts path event among).result, Fate.result_code]

theorem gate_clean (worker : Worker.Settings) (s : Settings) : ∃ t launched received,
    Gate worker s ⟨false, [], [], []⟩ t ⟨false, [], launched, received⟩ := by
  cases set : s.preflight with
  | none => exact ⟨[], [], [], .absent set⟩
  | some first =>
    obtain ⟨t, report, _, _, path, running, passes⟩ :=
      runs_pool worker s.pool (fun _ => clean) [first] [] []
    have account := (Pool.account path rfl).1
    refine ⟨t, _, _, .passed set path ?_⟩
    obtain ⟨seen, -⟩ | ⟨result, -, -, received, -, verdict⟩ := preflight_account account
    · rw [← account.seen, running] at seen
      cases seen
    · have passed : result.code = some 0 := passes (0, result) (by simp [received])
      rw [verdict, if_pos passed]

theorem runs_fated (worker : Worker.Settings) {x : Except SystemError Host.Listing}
    {cases : List Case} (finds : found i x = .ok cases) (single : s.limit = 1)
    (fate : Nat → Fate) : ∃ a b z report w, Opened s a ∧ Account (others s cases) b report ∧
      report.interrupted = false ∧ (∀ event ∈ receipts b, event.2.code = (fate event.1).code) ∧
      Silent z ∧ (Workers.world worker).Runs (run s i) ⟨false, [], [], []⟩
        (searched i x ++ (a ++ b) ++ z) (.ok (exitCode report)) w := by
  obtain ⟨a, launched, received, gate⟩ := gate_clean worker s
  obtain ⟨b, report, launched', received', ran, running, fares⟩ :=
    runs_pool worker s.pool fate (others s cases) launched received
  obtain ⟨z, answer, closing⟩ : ∃ z answer, (Workers.world worker).Runs
      (conclude s i.target report) ⟨false, [], launched', received'⟩ z answer
      ⟨false, [], launched', received'⟩ := runs_of_closes (asks_conclude s i.target report) _
  have silent := silent_of_closes (closing.asks (asks_conclude s i.target report))
  obtain ⟨-, -, -, -, rfl, -⟩ := runs_conclude closing
  exact ⟨a, b, z, report, _, (gate.opened rfl).1, (Pool.account ran rfl).1, running, fares, silent,
    (steps_spread finds gate (single ▸ ran)).trans closing⟩

theorem runs_clean (worker : Worker.Settings) {x : Except SystemError Host.Listing}
    {cases : List Case} (finds : found i x = .ok cases) (single : s.limit = 1) :
    ∃ t w, (Workers.world worker).Runs (run s i) ⟨false, [], [], []⟩ (searched i x ++ t)
      (.ok 0) w := by
  obtain ⟨a, b, z, report, w, -, account, running, passes, -, path⟩ :=
    runs_fated worker finds single fun _ => clean
  have zero : exitCode report = 0 := by
    simp [exitCode, running, account.allPassed.2 passes]
  rw [zero, List.append_assoc] at path
  exact ⟨_, w, path⟩

/-- A run answers 130 where the interrupt was found, while discovery ran, after it failed, or by a
pool; 0 where discovery gave cases and the pre-flight case and each other case of the list was
launched once and ended with code 0; 1 where all were launched and one after the pre-flight case
ended otherwise; and an error where the pre-flight case did not end with code 0 or discovery failed.
The engine's answers and the writing of the totals have no part in it. -/
theorem answer_iff {requested : Bool}
    (path : (Workers.world worker).Runs (run s i) ⟨requested, [], [], []⟩ t r w) :
    (r = .ok 130 ↔ Seen t) ∧
    (r = .ok 0 ↔ ¬ Seen t ∧ ∃ cases, Found i t cases ∧ Completed s t cases ∧
      ∀ event ∈ receipts t, event.2.code = some 0) ∧
    (r = .ok 1 ↔ ¬ Seen t ∧ ∃ cases, Found i t cases ∧ Completed s t cases ∧
      ∃ event ∈ receipts t, s.preflight ≠ some event.2.case ∧ event.2.code ≠ some 0) ∧
    (∀ name code, r = .error (.preflight name code) ↔ ¬ Seen t ∧ ∃ first result,
      s.preflight = some first ∧ launches t = [(0, first)] ∧ receipts t = [(0, result)] ∧
      result.code ≠ some 0 ∧ name = first.name ∧ code = result.codeText) ∧
    ∀ e, r = .error (.discovery e) ↔ ¬ Seen t ∧ Missed i t e := by
  have outcome := (course_of_runs path).outcome rfl
  exact ⟨outcome.interrupted_iff, outcome.passed_iff, outcome.failed_iff,
    fun _ _ => outcome.barred_iff, fun _ => outcome.missed_iff⟩

def pairSettings : Settings where
  limit := 1
  preflight := some Pool.smoke
  pool := Pool.silent
  cleaner := ⟨.sharedRunner, 1, ⟨0⟩⟩

def pairInvocation : Invocation where
  package := "rig"
  target := "port_range"

def pairListing : Except SystemError Host.Listing :=
  .ok ⟨"smoke: test\nprobe: test\nsmoke: test\n", ""⟩

def probe : Case := ⟨"port_range", "probe"⟩

theorem found_pair : found pairInvocation pairListing = .ok [Pool.smoke, probe, Pool.smoke] := by
  decide +kernel

theorem answer_iff_pair : ∃ t w, (Workers.world {}).Runs (run pairSettings pairInvocation)
    ⟨false, [], [], []⟩ t (.ok 0) w ∧ ¬ Seen t ∧
      (launches t).map Prod.snd = [Pool.smoke, probe] ∧
      ∀ event ∈ receipts t, event.2.code = some 0 := by
  obtain ⟨t, w, path⟩ := runs_clean {} found_pair (s := pairSettings) rfl
  obtain ⟨unseen, cases, finds, completed, passes⟩ := (answer_iff path).2.1.1 rfl
  have listed := found_searched.1 finds
  rw [found_pair] at listed
  cases listed
  exact ⟨_, w, path, unseen, completed.launched.trans (by decide), passes⟩

end TestRig.Suite
