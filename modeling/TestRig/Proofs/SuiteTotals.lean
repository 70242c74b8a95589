import Mathlib.Tactic
import TestRig.Proofs.HostRoutines
import TestRig.Proofs.SuiteExit

/-!
What the totals of a suite run count. They are those of the pool behind the gate: one result for each
case launched there. The pre-flight case, which has a pool to itself and has passed by then, is no
part of them. A run that does not get that far, because nothing was found or the pre-flight case
failed, publishes none.
-/

namespace TestRig.Suite

open Host (Routine Result Writing said written)
open Pool (Trace Workers Report Account launches receipts Seen)
open scoped List

def Summary.printed (styled : Bool) (s : Summary) : String :=
  "\n" ++ (if s.allPassed then Text.Style.green else Text.Style.red).apply styled s.text ++ "\n"

def Summary.entry (s : Summary) (path target : String) (time : Nat) : String × Writing × String :=
  if isDocument path then
    (path, .replace, (s.document target (Text.Timestamp.text time)).render 0)
  else (path, .append, s.markdown target)

def Settings.filed (s : Settings) (target : String) (summary : Summary) (time : Nat) :
    List (String × Writing × String) :=
  s.summaryPath.toList.map fun path => summary.entry path target time

/-- Once the last worker has reported these totals are printed, and nothing is said after them; they
are all that is written. -/
structure Published (s : Settings) (target : String) (summary : Summary) (t : Trace) : Prop where
  shown : ∃ m z, t = m ++ ⟨.say .err (summary.printed s.pool.styled), ()⟩ :: z ∧ Silent z ∧
    said z = []
  filed : ∃ time, written t = s.filed target summary time

/-- One result for each case launched after the pre-flight one, in the order of the launches. With
that of the pre-flight case, which passed, these are all that came in. -/
structure Tallied (s : Settings) (t : Trace) (cases : List Case) (results : List Result) :
    Prop where
  counted : results.map Result.case = others s cases
  received : ∃ gate, (receipts t).map Prod.snd ~ gate ++ results ∧
    gate.map Result.case ~ s.preflight.toList ∧ ∀ r ∈ gate, r.code = some 0

theorem written_of_crews {t : Trace} (crews : ∀ e ∈ t, Pool.Crews e.question) : written t = [] := by
  refine List.filterMap_eq_nil_iff.2 ?_
  rintro ⟨q, x⟩ among
  have own := crews _ among
  cases q with
  | write => exact own.elim
  | _ => rfl

variable {worker : Worker.Settings} {s : Settings} {i : Invocation} {w w' : Workers} {t : Trace}
  {r : Except SuiteError Int} {cases : List Case} {results : List Result}

theorem Pool.written_of_runs {settings : Pool.Settings} {limit : Nat} {report : Report}
    (path : (Workers.world worker).Runs (runAll settings cases limit) w t report w') :
    written t = [] := by
  have stands : Stands (max limit 1) settings (runAll settings cases limit) (.ofCases cases) :=
    .head _
  exact written_of_crews (stands.asked path)

theorem Gate.unwritten (gate : Gate worker s w t w') : written t = [] := by
  cases gate with
  | absent => rfl
  | passed _ ran => exact Pool.written_of_runs ran

theorem called_of_reclaim (path : (Workers.world worker).Runs (reclaim s) w t () w') :
    ∃ called : List (Event Engine.interface), t = called.map Host.ofCall := by
  obtain ⟨report, cleans⟩ := runs_reclaim path
  obtain ⟨called, -, rfl⟩ := World.runs_ofEngine.1 cleans
  exact ⟨called, rfl⟩

theorem runs_writeSummary {path target : String} {summary : Summary}
    {x : Except SummaryError Unit}
    (run : (Workers.world worker).Runs (writeSummary path target summary) w t x w') :
    said t = [] ∧ ∃ time, written t = [summary.entry path target time] := by
  rw [writeSummary] at run
  split at run
  · rename_i document
    obtain ⟨time, _, _, -, writing, rfl⟩ := World.runs_ask.1 run
    obtain ⟨_, _, _, -, ended, rfl⟩ := World.runs_ask.1 writing
    obtain ⟨rfl, -, -⟩ := World.runs_done.1 ended
    exact ⟨rfl, time, congrArg (· :: []) (if_pos document).symm⟩
  · rename_i other
    obtain ⟨_, _, _, -, ended, rfl⟩ := World.runs_ask.1 run
    obtain ⟨rfl, -, -⟩ := World.runs_done.1 ended
    exact ⟨rfl, 0, congrArg (· :: []) (if_neg other).symm⟩

theorem runs_publish {target : String} {summary : Summary}
    (run : (Workers.world worker).Runs (publish s target summary) w t () w') :
    ∃ z time, t = ⟨.say .err (summary.printed s.pool.styled), ()⟩ :: z ∧ said z = [] ∧
      written z = s.filed target summary time := by
  obtain ⟨_, _, _, z, announced, onward, rfl⟩ := World.runs_bind.1 run
  obtain ⟨_, _, _, -, ended, rfl⟩ := World.runs_ask.1 announced
  obtain ⟨rfl, -, -⟩ := World.runs_done.1 ended
  cases set : s.summaryPath with
  | none =>
    rw [set] at onward
    obtain ⟨rfl, -, -⟩ := World.runs_done.1 onward
    refine ⟨[], 0, rfl, rfl, ?_⟩
    rw [Settings.filed, set]
    rfl
  | some path =>
    rw [set] at onward
    obtain ⟨z, _, _, _, writing, ended, rfl⟩ := World.runs_bind.1 onward
    obtain ⟨rfl, -, -⟩ := World.runs_done.1 ended
    obtain ⟨unsaid, time, entry⟩ := runs_writeSummary writing
    rw [List.append_nil]
    refine ⟨z, time, rfl, unsaid, ?_⟩
    rw [Settings.filed, set, entry]
    rfl

section Spread

variable {a b p c : Trace} {report : Report} {w₁ w₂ w₃ w₄ : Workers}

theorem published_of_runs (gate : Gate worker s w a w₁)
    (ran : (Workers.world worker).Runs (Pool.runAll s.pool (others s cases) s.limit)
      w₁ b report w₂)
    (shown : (Workers.world worker).Runs (publish s i.target report.summary) w₂ p () w₃)
    (reclaimed : (Workers.world worker).Runs (reclaim s) w₃ c () w₄)
    (x : Except SystemError Host.Listing) :
    Published s i.target report.summary (searched i x ++ (a ++ b) ++ (p ++ c)) := by
  have closing := silent_reclaim reclaimed
  have publishes := shown.asks (asks_publish _ _ _)
  obtain ⟨z, time, rfl, unsaid, filed⟩ := runs_publish shown
  obtain ⟨called, rfl⟩ := called_of_reclaim reclaimed
  refine ⟨⟨searched i x ++ (a ++ b), z ++ called.map Host.ofCall, rfl, ?_, ?_⟩, time, ?_⟩
  · exact (silent_of_publishes (List.forall_mem_cons.1 publishes).2).append closing
  · rw [Host.said_append, unsaid, Host.said_map_ofCall, List.append_nil]
  · have before : written (searched i x ++ (a ++ b)) = [] := by
      rw [Host.written_append, Host.written_append, gate.unwritten, Pool.written_of_runs ran]
      rfl
    rw [Host.written_append (searched i x ++ (a ++ b)), before, Host.written_append,
      Host.written_map_ofCall, List.append_nil]
    exact filed

theorem tallied_of_pools {z : Trace} (opened : Opened s a)
    (account : Account (others s cases) b report) (silent : Silent z)
    (x : Except SystemError Host.Listing) (running : report.interrupted = false) :
    Tallied s (searched i x ++ (a ++ b) ++ z) cases report.inOrder := by
  have launched := account.complete running
  refine ⟨?_, (receipts a).map Prod.snd, ?_, ?_, ?_⟩
  · have reported := account.reported
    rw [launched] at reported
    rw [account.inOrder, Pool.cases_scheduled reported, Pool.cases_ofCases]
    exact Pool.positions_ofCases _ ▸ List.pairwise_lt_range
  · rw [(silent.around_pools x).2.1, List.map_append, account.inOrder]
    exact (Pool.scheduled_perm _).symm.append_left _
  · have reported := opened.reported.map Prod.snd
    rw [opened.launched, List.map_map, List.map_map] at reported
    simpa [Function.comp_def, Workers.ticket] using reported
  · rw [List.forall_mem_map]
    exact fun event among => (opened.passed event among).2

end Spread

theorem Course.totals {code : Int} (course : Course worker s i w t r w') (idle : w.out = [])
    (unseen : ¬ Seen t) (ended : r = .ok code) :
    ∃ cases results, Found i t cases ∧ Completed s t cases ∧ Tallied s t cases results ∧
      Published s i.target (.ofResults results) t := by
  cases course with
  | cutBefore => exact (unseen ⟨_, List.mem_singleton_self _, rfl⟩).elim
  | cutAfter x => exact (unseen ⟨⟨.interrupted, true⟩, by simp, rfl⟩).elim
  | missed misses requested =>
    cases requested with
    | true => exact (unseen ((Pool.seen_append _ _).2 (.inr ⟨_, List.mem_singleton_self _, rfl⟩))).elim
    | false => cases ended
  | @stopped x _ first _ _ a _ _ _ _ _ ran stop reclaimed =>
    -- the pre-flight case ends a run by finding the interrupt or with an error
    obtain ⟨-, -, seen⟩ := (silent_reclaim reclaimed).around (i := i) (m := a) x
    obtain ⟨cut, -⟩ | ⟨result, -, -, -, -, verdict⟩ := preflight_account (Pool.account ran idle).1
    · exact (unseen (seen.2 cut)).elim
    · rw [stop, ended] at verdict
      split at verdict <;> cases verdict
  | @spread x cases report a b p c _ _ _ _ finds gate ran shown reclaimed =>
    obtain ⟨opened, idle⟩ := gate.opened idle
    have account := (Pool.account ran idle).1
    have silent := silent_closing shown reclaimed
    have running : report.interrupted = false := by
      rw [seen_of_pools opened account silent x, Bool.not_eq_true] at unseen
      exact unseen
    have published := published_of_runs gate ran shown reclaimed x
    rw [account.summary] at published
    exact ⟨cases, report.inOrder, found_around.2 finds,
      completed_of_pools opened account silent x running,
      tallied_of_pools opened account silent x running, published⟩

theorem Course.unwritten {e : SuiteError} (course : Course worker s i w t r w')
    (failed : r = .error e) : written t = [] := by
  cases course with
  | cutBefore | cutAfter | missed => rfl
  | stopped _ _ ran _ reclaimed =>
    obtain ⟨called, rfl⟩ := called_of_reclaim reclaimed
    rw [Host.written_append, Host.written_append, Pool.written_of_runs ran, Host.written_map_ofCall]
    rfl
  | spread => cases failed

/-! ### The numbers -/

theorem Summary.passed_add_failed (results : List Result) :
    (Summary.ofResults results).passed + (Summary.ofResults results).failed =
      (Summary.ofResults results).total :=
  Nat.sub_add_cancel (List.length_filter_le _ _)

theorem Summary.mem_failedCases {name : String} : name ∈ (Summary.ofResults results).failedCases ↔
    ∃ result ∈ results, result.case.name = name ∧ result.code ≠ some 0 := by
  simp [Summary.ofResults, Result.passed, and_left_comm, and_comm]

theorem Tallied.total (tallied : Tallied s t cases results) (completed : Completed s t cases) :
    (Summary.ofResults results).total + s.preflight.toList.length = (launches t).length := by
  have launched := congrArg List.length completed.launched
  rw [List.length_map, List.length_append, ← tallied.counted, List.length_map] at launched
  rw [launched, Nat.add_comm]
  rfl

theorem Tallied.failed_iff (tallied : Tallied s t cases results) (name : String) :
    name ∈ (Summary.ofResults results).failedCases ↔
      ∃ event ∈ receipts t, event.2.case.name = name ∧ event.2.code ≠ some 0 := by
  obtain ⟨gate, received, -, passed⟩ := tallied.received
  rw [Summary.mem_failedCases]
  constructor
  · rintro ⟨result, among, named, fails⟩
    obtain ⟨event, came, rfl⟩ :=
      List.mem_map.1 (received.mem_iff.2 (List.mem_append_right _ among))
    exact ⟨event, came, named, fails⟩
  · rintro ⟨event, among, named, fails⟩
    obtain early | late := List.mem_append.1 (received.mem_iff.1 (List.mem_map_of_mem among))
    · exact (fails (passed _ early)).elim
    · exact ⟨event.2, late, named, fails⟩

theorem Completed.nodup (completed : Completed s t cases) (distinct : cases.Nodup) :
    ((launches t).map Prod.snd).Nodup := by
  rw [completed.launched]
  refine List.Nodup.append ?_ (distinct.filter _) fun c first other => ?_
  · cases s.preflight <;> simp
  · exact preflight_ne_of_mem other (Option.mem_toList.1 first)

theorem Tallied.failedCases_nodup (tallied : Tallied s t cases results) (finds : Found i t cases)
    (distinct : cases.Nodup) : (Summary.ofResults results).failedCases.Nodup := by
  obtain ⟨-, listing, _, -, rfl⟩ := finds
  have names : (((Listing.parse listing.out i.filter).map (Case.mk i.target)).map
      Case.name).Nodup := by
    rw [List.map_map]
    exact (List.map_id _).symm ▸ distinct.of_map _
  have counted := congrArg (List.map Case.name) tallied.counted
  rw [List.map_map] at counted
  have listed : (results.map (Case.name ∘ Result.case)).Nodup :=
    counted ▸ names.sublist (List.filter_sublist.map _)
  exact listed.sublist (List.filter_sublist.map _)

/-- A run that found no interrupt and answers with an exit code has launched every case it found, the
pre-flight case first if one is set, and publishes totals that count each case launched after that one
once: the numbers add up to those launches, and the cases that failed are those launched that did not
end with code 0. The pre-flight case, which did, is not counted. Where no name was listed twice, no
case is launched or named twice. A run that answers with an error writes no totals. -/
theorem totals_skip_preflight {requested : Bool}
    (path : (Workers.world worker).Runs (run s i) ⟨requested, [], [], []⟩ t r w)
    (unseen : ¬ Seen t) :
    (∀ e, r = .error e → written t = []) ∧
    ∀ code, r = .ok code → ∃ cases results summary, Found i t cases ∧ Completed s t cases ∧
      Tallied s t cases results ∧ summary = .ofResults results ∧ Published s i.target summary t ∧
      summary.total + s.preflight.toList.length = (launches t).length ∧
      summary.passed + summary.failed = summary.total ∧
      (∀ name, name ∈ summary.failedCases ↔
        ∃ event ∈ receipts t, event.2.case.name = name ∧ event.2.code ≠ some 0) ∧
      (cases.Nodup → ((launches t).map Prod.snd).Nodup ∧ summary.failedCases.Nodup) := by
  have course := course_of_runs path
  refine ⟨fun e failed => course.unwritten failed, fun code ended => ?_⟩
  obtain ⟨cases, results, finds, completed, tallied, published⟩ := course.totals rfl unseen ended
  exact ⟨cases, results, _, finds, completed, tallied, rfl, published, tallied.total completed,
    Summary.passed_add_failed results, tallied.failed_iff, fun distinct =>
      ⟨completed.nodup distinct, tallied.failedCases_nodup finds distinct⟩⟩

def gatedSettings : Settings := { pairSettings with summaryFile := some "summary.md" }

def gatedListing : Except SystemError Host.Listing := .ok ⟨"smoke: test\nprobe: test\n", ""⟩

theorem found_gated : found pairInvocation gatedListing = .ok [Pool.smoke, probe] := by
  decide +kernel

theorem totals_skip_preflight_gated : ∃ t code w summary, (Workers.world {}).Runs
    (run gatedSettings pairInvocation) ⟨false, [], [], []⟩ t (.ok code) w ∧ ¬ Seen t ∧
    (launches t).map Prod.snd = [Pool.smoke, probe] ∧
    Published gatedSettings "port_range" summary t ∧ summary.total = 1 ∧
    "probe" ∈ summary.failedCases := by
  obtain ⟨a, b, z, report, w, opened, account, running, fares, silent, path⟩ :=
    runs_fated {} found_gated (s := gatedSettings) rfl fun _ => .ended (some 1) []
  have seen := seen_of_pools (i := pairInvocation) opened account silent gatedListing
  have unseen := mt seen.1 (by simp [running])
  obtain ⟨-, answers⟩ := totals_skip_preflight path unseen
  obtain ⟨cases, results, summary, finds, completed, tallied, -, published, total, -, fails, -⟩ :=
    answers _ rfl
  have listed := found_around.1 finds
  rw [found_gated] at listed
  cases listed
  have launched : (launches _).map Prod.snd = [Pool.smoke, probe] :=
    completed.launched.trans (by decide)
  refine ⟨_, _, w, summary, path, unseen, launched, published, ?_, (fails _).2 ?_⟩
  · have two := congrArg List.length launched
    rw [List.length_map, ← total] at two
    exact Nat.succ.inj two
  · have reported := account.reported
    rw [account.complete running] at reported
    obtain ⟨event, among, own⟩ := List.mem_map.1 (reported.mem_iff.2 (List.mem_singleton_self _))
    refine ⟨event, ?_, congrArg (fun ticket => ticket.2.name) own, ?_⟩
    · rw [(silent.around_pools gatedListing).2.1]
      exact List.mem_append_right _ among
    · rw [fares event among]
      decide

/-- Where a pre-flight case is set, the totals fall short of what was launched. -/
theorem preflight_uncounted : ∃ t w summary, (Workers.world {}).Runs
    (run gatedSettings pairInvocation) ⟨false, [], [], []⟩ t (.ok 0) w ∧ ¬ Seen t ∧
    Found pairInvocation t [Pool.smoke, probe] ∧
    Published gatedSettings "port_range" summary t ∧ summary.total = 1 ∧
    (launches t).length = 2 := by
  obtain ⟨t, w, path⟩ := runs_clean {} found_gated (s := gatedSettings) rfl
  have course := course_of_runs path
  have unseen := mt (course.outcome rfl).interrupted_iff.2 (by decide)
  obtain ⟨cases, results, finds, completed, tallied, published⟩ := course.totals rfl unseen rfl
  have listed := found_searched.1 finds
  rw [found_gated] at listed
  cases listed
  have launched := congrArg List.length completed.launched
  have total := tallied.total completed
  rw [List.length_map] at launched
  rw [launched] at total
  exact ⟨_, w, _, path, unseen, finds, published, Nat.succ.inj total, launched⟩

end TestRig.Suite
