import Mathlib.Tactic
import TestRig.Proofs.PoolTrace

/-!
What a run sums up to does not show in which order its workers finished. Each position of the list
has a fate, how the worker's process fares; the results of a run, put in the order of the launches,
are those fates, one after the other, and so is the summary, which one worker at a time would have
given too.
-/

namespace TestRig.Suite

open Host (Routine Result Chunk)
open scoped List

/-- How a worker's process fares: it cannot be started, or it ends, with a code or by a signal, after
so much was read from it. -/
inductive Fate
  | unlaunched (cause : SystemError)
  | ended (status : Worker.Status) (chunks : List Chunk)

namespace Fate

def code : Fate → Option Int
  | unlaunched _ => none
  | ended status _ => status

def passed (fate : Fate) : Bool := fate.code == some 0

def result (c : Case) : Fate → Result
  | unlaunched cause => Worker.unlaunched c cause
  | ended status chunks => ⟨c, Worker.merged chunks, status⟩

def world (fate : Fate) : World Worker.interface Unit where
  Answers
    | .spawn, _, x, _ => match fate with
      | unlaunched cause => x = .error cause
      | ended _ _ => x = .ok ()
    | .exitOrInterrupt, _, x, _ => ∀ status, x = some status → status = fate.code
    | .exitWithin _, _, x, _ => ∀ status, x = some status → status = fate.code
    | .exit, _, x, _ => x = fate.code
    | .output, _, x, _ => ∀ status chunks, fate = ended status chunks → x = chunks
    | _, _, _, _ => True

@[simp] theorem result_case (c : Case) (fate : Fate) : (fate.result c).case = c := by
  cases fate <;> rfl

@[simp] theorem result_code (c : Case) (fate : Fate) : (fate.result c).code = fate.code := by
  cases fate <;> rfl

@[simp] theorem result_passed (c : Case) (fate : Fate) : (fate.result c).passed = fate.passed := by
  rw [Result.passed, result_code, passed]

variable {settings : Worker.Settings} {c : Case} {fate : Fate}

theorem keeps_finish (grace : Duration) : fate.world.Keeps (fun _ => True) (Worker.finish grace)
    (fun status _ => status = fate.code) () := by
  refine ⟨trivial, fun (x : Option Worker.Status) _ answered => ⟨trivial, ?_⟩⟩
  cases x with
  | some status => exact answered status rfl
  | none =>
    refine ⟨trivial, fun _ _ _ => ⟨trivial, trivial, fun (x : Option Worker.Status) _ answered =>
      ⟨trivial, ?_⟩⟩⟩
    cases x with
    | some status => exact answered status rfl
    | none =>
      exact ⟨trivial, fun _ _ _ => ⟨trivial, trivial, fun _ _ answered => ⟨trivial, answered⟩⟩⟩

theorem keeps_supervise : fate.world.Keeps (fun _ => True) (Worker.supervise settings c)
    (fun r _ => r = fate.result c) () := by
  refine ⟨trivial, fun (x : Except SystemError Unit) _ spawned => ⟨trivial, ?_⟩⟩
  cases fate with
  | unlaunched cause =>
    obtain rfl : x = .error cause := spawned
    rfl
  | ended status chunks =>
    obtain rfl : x = .ok () := spawned
    refine World.Keeps.bind (p := Worker.finish settings.grace) (keeps_finish _)
      fun status' _ finished => ?_
    obtain rfl : status' = status := finished
    refine ⟨trivial, fun _ _ _ => ⟨trivial, trivial, fun _ _ _ => ⟨trivial, trivial,
      fun (read : List Chunk) _ answered => ⟨trivial, ?_⟩⟩⟩⟩
    obtain rfl : read = chunks := answered _ _ rfl
    rfl

theorem runs_supervise (settings : Worker.Settings) (c : Case) (fate : Fate) :
    ∃ t, fate.world.Runs (Worker.supervise settings c) () t (fate.result c) () := by
  cases fate with
  | unlaunched cause =>
    have spawned : (unlaunched cause).world.Answers .spawn () (.error cause) () := rfl
    exact ⟨_, .ask spawned (.refl _ _)⟩
  | ended status chunks =>
    have spawned : (ended status chunks).world.Answers .spawn () (.ok ()) () := rfl
    have exited : (ended status chunks).world.Answers .exitOrInterrupt () (some status) () := by
      rintro _ ⟨⟩
      rfl
    have read : (ended status chunks).world.Answers .output () chunks () := by
      rintro _ _ ⟨⟩
      rfl
    have drained (channel : Host.Channel) : (ended status chunks).world.Answers
      (.drain channel settings.drain) () () () := trivial
    exact ⟨_, .ask spawned (.ask exited (.ask (drained .out) (.ask (drained .err)
      (.ask read (.refl _ _)))))⟩

end Fate

namespace Pool

def inTurn (fate : Nat → Fate) (cases : List Case) : List Result :=
  cases.zipIdx.map fun (c, position) => (fate position).result c

def fared (fate : Nat → Fate) (c : Nat × Case) : Nat × Result := (c.1, (fate c.1).result c.2)

/-- The totals of cases that fare so: only exit code zero passes, and what does not pass is named. -/
def totals (fate : Nat → Fate) (cases : List Case) : Summary where
  total := cases.length
  passed := cases.zipIdx.countP fun (_, position) => (fate position).passed
  failed := cases.length - cases.zipIdx.countP fun (_, position) => (fate position).passed
  failedCases := (cases.zipIdx.filter fun (_, position) => !(fate position).passed).map
    fun (c, _) => c.name

theorem ofResults_inTurn (fate : Nat → Fate) (cases : List Case) :
    Summary.ofResults (inTurn fate cases) = totals fate cases := by
  have failures : (inTurn fate cases).filter (!·.passed) =
      (cases.zipIdx.filter fun c => !(fate c.2).passed).map fun c => (fate c.2).result c.1 := by
    simp [inTurn, List.filter_map, Function.comp_def]
  have length : (inTurn fate cases).length = cases.length := by simp [inTurn]
  have split : cases.length = cases.zipIdx.countP (fun c => (fate c.2).passed) +
      cases.zipIdx.countP fun c => !(fate c.2).passed := by
    simpa using cases.zipIdx.length_eq_countP_add_countP fun c => (fate c.2).passed
  simp only [Summary.ofResults, totals, failures, length, List.length_map,
    ← List.countP_eq_length_filter, List.map_map, Function.comp_def, Fate.result_case,
    Summary.mk.injEq, and_true, true_and]
  omega

theorem getElem?_inTurn (fate : Nat → Fate) (cases : List Case) (position : Nat) :
    (inTurn fate cases)[position]? = cases[position]?.map (fate position).result := by
  simp [inTurn, Function.comp_def]

/-- Supervision of a process with the fate of this position gave this result. -/
def Meets (worker : Worker.Settings) (fate : Nat → Fate) (event : Nat × Result) : Prop :=
  ∃ t, (fate event.1).world.Runs (Worker.supervise worker event.2.case) () t event.2 ()

def Workers.fated (worker : Worker.Settings) (fate : Nat → Fate) :
    World Host.interface Workers where
  Answers q w x w' := (Workers.world worker).Answers q w x w' ∧
    ∀ event, receipt? ⟨q, x⟩ = some event → Meets worker fate event

variable {worker : Worker.Settings} {fate : Nat → Fate} {cases : List Case} {limit : Nat}
  {settings : Settings} {p p' : Routine Report} {t : Trace} {w w' : Workers}

theorem Meets.result {event : Nat × Result} (meets : Meets worker fate event) :
    (fate event.1).result event.2.case = event.2 := by
  obtain ⟨t, path⟩ := meets
  exact (Fate.keeps_supervise.runs path).symm

theorem Workers.steps_of_fated (path : (Workers.fated worker fate).Steps p w t p' w') :
    (Workers.world worker).Steps p w t p' w' :=
  World.Steps.mono (fun _ _ _ _ answered => And.left answered) path

theorem meets_receipts (path : (Workers.fated worker fate).Steps p w t p' w') :
    ∀ event ∈ receipts t, Meets worker fate event := by
  induction path with
  | refl => simp
  | ask answered _ ih =>
    intro event among
    rw [receipts_cons, List.mem_append, Option.mem_toList] at among
    exact among.elim (answered.2 event) (ih event)

/-- Of two lists with the same content, the positions of one never falling and those of the other
always rising, there is only one. -/
theorem eq_of_positions {α : Type} {l l' : List (Nat × α)} (same : l ~ l')
    (sorted : (l.map Prod.fst).Pairwise (· ≤ ·))
    (increasing : (l'.map Prod.fst).Pairwise (· < ·)) : l = l' := by
  have nodup : (l'.map Prod.fst).Nodup := increasing.imp fun less => Nat.ne_of_lt less
  rw [List.pairwise_map] at sorted increasing
  refine List.Perm.eq_of_pairwise ?_ sorted (increasing.imp fun less => Nat.le_of_lt less) same
  intro a b among listed le ge
  exact List.inj_on_of_nodup_map nodup (same.mem_iff.1 among) listed (Nat.le_antisymm le ge)

theorem positions_mergeSort (completed : List (Nat × Result)) :
    ((completed.mergeSort fun a b => a.1 ≤ b.1).map Prod.fst).Pairwise (· ≤ ·) := by
  have sorted := @List.pairwise_mergeSort _ (fun a b : Nat × Result => decide (a.1 ≤ b.1))
    (fun a b c => by simp only [decide_eq_true_eq]; omega)
    (fun a b => by simp only [Bool.or_eq_true, decide_eq_true_eq]; omega) completed
  exact List.pairwise_map.2 (sorted.imp of_decide_eq_true)

theorem scheduled_of_perm {completed ordered : List (Nat × Result)} (same : completed ~ ordered)
    (increasing : (ordered.map Prod.fst).Pairwise (· < ·)) :
    scheduled completed = ordered.map Prod.snd := by
  have together := (List.mergeSort_perm completed fun a b => decide (a.1 ≤ b.1)).trans same
  rw [scheduled, eq_of_positions together (positions_mergeSort completed) increasing]

theorem cases_scheduled {completed : List (Nat × Result)} {launched : List (Nat × Case)}
    (reported : completed.map Workers.ticket ~ launched)
    (increasing : (launched.map Prod.fst).Pairwise (· < ·)) :
    (scheduled completed).map Result.case = launched.map Prod.snd := by
  have together := ((List.mergeSort_perm completed fun a b => decide (a.1 ≤ b.1)).map
    Workers.ticket).trans reported
  have sorted : (((completed.mergeSort fun a b => a.1 ≤ b.1).map Workers.ticket).map
      Prod.fst).Pairwise (· ≤ ·) := by
    rw [List.map_map]
    exact positions_mergeSort completed
  rw [← eq_of_positions together sorted increasing, scheduled, List.map_map, List.map_map]
  rfl

theorem inTurn_ofCases (fate : Nat → Fate) (cases : List Case) :
    (State.ofCases cases).pending.map (fun c => (fate c.1).result c.2) = inTurn fate cases := by
  simp [State.ofCases, inTurn, Function.comp_def]

section Reports

variable {report : Report} {requested : Bool}
  (path : (Workers.fated worker fate).Runs (runAll settings cases limit) ⟨requested, [], [], []⟩
    t report w)

include path

theorem account_of_fated : Account cases t report ∧ w.launched = launches t := by
  have plain := Workers.steps_of_fated path
  exact ⟨(account plain rfl).1, (Workers.history plain).1⟩

theorem launched_of_fated : w.launched.map Prod.snd <+: cases ∧
    (report.interrupted = false → w.launched.map Prod.snd = cases) := by
  obtain ⟨account, launched⟩ := account_of_fated path
  rw [launched]
  refine ⟨(prefix_ofCases account.order).2, fun running => ?_⟩
  rw [account.complete running, cases_ofCases]

theorem inOrder_eq : report.inOrder = inTurn fate (w.launched.map Prod.snd) := by
  obtain ⟨account, launched⟩ := account_of_fated path
  obtain ⟨whole, -⟩ := prefix_ofCases account.order
  have each := meets_receipts path
  have own : receipts t = ((receipts t).map Workers.ticket).map (fared fate) := by
    rw [List.map_map]
    refine (List.map_id _).symm.trans (List.map_congr_left fun event among => ?_)
    exact Prod.ext rfl (each event among).result.symm
  have same : receipts t ~ (launches t).map (fared fate) := own ▸ account.reported.map _
  have increasing : (((launches t).map (fared fate)).map Prod.fst).Pairwise (· < ·) := by
    rw [List.map_map, whole]
    exact positions_ofCases _ ▸ List.pairwise_lt_range
  have results := congrArg (List.map fun c => (fate c.1).result c.2) whole
  rw [inTurn_ofCases] at results
  rw [account.inOrder, scheduled_of_perm same increasing, List.map_map, launched]
  exact results

theorem summary_eq : report.summary = .ofResults (inTurn fate (w.launched.map Prod.snd)) := by
  rw [(account_of_fated path).1.summary, inOrder_eq path]

theorem getElem?_inOrder {position : Nat} (launched : position < w.launched.length) :
    report.inOrder[position]? = cases[position]?.map (fate position).result := by
  have listed := (launched_of_fated path).1
  have here : position < (w.launched.map Prod.snd).length := by simpa using launched
  rw [inOrder_eq path, getElem?_inTurn, List.prefix_iff_getElem?.1 listed position here,
    List.getElem?_eq_getElem here]

end Reports

theorem answers_quietly {q : Host.Ask} {x : q.Answer} (none : receipt? ⟨q, x⟩ = none)
    (answered : (Workers.world worker).Answers q w x w') :
    (Workers.fated worker fate).Answers q w x w' :=
  ⟨answered, fun event brought => by rw [none] at brought; cases brought⟩

theorem runs_showing {r : Routine Unit} (shows : Program.Asks Shows r) (w : Workers) :
    ∃ t, (Workers.fated worker fate).Runs r w t () w := by
  induction r with
  | done => exact ⟨_, .refl _ _⟩
  | ask q next ih =>
    cases q with
    | say channel text =>
      obtain ⟨t, path⟩ := ih () (shows.2 ())
      exact ⟨_, .ask (answers_quietly rfl rfl) path⟩
    | _ => exact shows.1.elim

variable {s : State} {position : Nat} {c : Case} {rest : List (Nat × Case)}
  {out launched : List (Nat × Case)} {received : List (Nat × Result)}

theorem steps_launch_fated (running : s.interrupted = false) (room : s.inFlight < limit)
    (next : s.pending = (position, c) :: rest) :
    (Workers.fated worker fate).Steps (rounds limit settings s) ⟨false, out, launched, received⟩
      [⟨.cancelRequested, false⟩, ⟨.launch position c, ()⟩]
      (rounds limit settings (s.launched rest))
      ⟨false, out ++ [(position, c)], launched ++ [(position, c)], received⟩ :=
  steps_launch running room next (answers_quietly rfl (answers_look false _ _ _))
    (answers_quietly rfl rfl)

theorem steps_receive (running : s.interrupted = false) (busy : s.inFlight ≠ 0)
    (among : (position, c) ∈ out) :
    ∃ t, (Workers.fated worker fate).Steps (turn limit settings s)
      ⟨false, out, launched, received⟩ t
      (rounds limit settings (s.received position ((fate position).result c)))
      ⟨false, out.erase (position, c), launched,
        received ++ [(position, (fate position).result c)]⟩ := by
  obtain ⟨t, path⟩ := (fate position).runs_supervise worker c
  have handed : (Workers.fated worker fate).Answers (.completion true)
      ⟨false, out, launched, received⟩ (some (position, (fate position).result c))
      ⟨false, out.erase (position, c), launched,
        received ++ [(position, (fate position).result c)]⟩ := by
    refine ⟨⟨c, among, World.ends_of_runs path, rfl⟩, ?_⟩
    rintro event ⟨⟩
    exact ⟨t, by simpa using path⟩
  obtain ⟨shown, echo⟩ := runs_showing (asks_echoed settings ((fate position).result c)) _
  rw [turn_watching busy running]
  exact ⟨_, .ask handed (echo.onward _)⟩

theorem steps_turn (running : s.interrupted = false) (idle : s.inFlight = 0)
    (next : s.pending = (position, c) :: rest) :
    ∃ t, (Workers.fated worker fate).Steps (rounds 1 settings s) ⟨false, [], launched, received⟩ t
      (rounds 1 settings ((s.launched rest).received position ((fate position).result c)))
      ⟨false, [], launched ++ [(position, c)],
        received ++ [(position, (fate position).result c)]⟩ := by
  have full : rounds 1 settings (s.launched rest) = turn 1 settings (s.launched rest) := by
    rw [rounds_eq, if_pos (.inr (Nat.le_add_left 1 _))]
  have begun : (Workers.fated worker fate).Steps (rounds 1 settings s)
      ⟨false, [], launched, received⟩ _ (rounds 1 settings (s.launched rest)) _ :=
    steps_launch_fated running (by omega) next
  obtain ⟨t, taken⟩ := steps_receive (s := s.launched rest) running (Nat.succ_ne_zero _)
    (List.mem_singleton_self (position, c))
  rw [full] at begun
  rw [List.erase_cons_head] at taken
  exact ⟨_, begun.trans taken⟩

theorem steps_spent (running : s.interrupted = false) (room : s.inFlight < limit)
    (spent : s.pending = []) :
    (Workers.fated worker fate).Steps (rounds limit settings s) ⟨false, out, launched, received⟩
      [⟨.cancelRequested, false⟩] (turn limit settings s) ⟨false, out, launched, received⟩ := by
  have chosen : check limit settings s false = turn limit settings s := by
    simp only [check, Bool.false_eq_true, if_false, spent]
  exact chosen ▸ steps_look running room (answers_quietly rfl (answers_look false _ _ _))

theorem runs_alone (running : s.interrupted = false) (idle : s.inFlight = 0) :
    ∃ t report launched' received', (Workers.fated worker fate).Runs (rounds 1 settings s)
      ⟨false, [], launched, received⟩ t report ⟨false, [], launched', received'⟩ ∧
      report.interrupted = false := by
  -- on what is still to be launched
  induction left : s.pending generalizing s launched received with
  | nil =>
    have ended : (Workers.fated worker fate).Steps (rounds 1 settings s)
        ⟨false, [], launched, received⟩ _ (turn 1 settings s) ⟨false, [], launched, received⟩ :=
      steps_spent running (by omega) left
    exact ⟨_, s.report, _, _, turn_idle idle ▸ ended, running⟩
  | cons c rest ih =>
    obtain ⟨t, turn⟩ := steps_turn running idle left
    obtain ⟨t', report, _, _, path, done⟩ := ih (s := (s.launched rest).received c.1 _) running
      (by simp [State.received, State.launched, idle]) rfl
    exact ⟨t ++ t', report, _, _, turn.trans path, done⟩

theorem summary_alone (worker : Worker.Settings) (settings : Settings) (fate : Nat → Fate)
    (cases : List Case) : ∃ t report w, (Workers.fated worker fate).Runs (runAll settings cases 1)
      ⟨false, [], [], []⟩ t report w ∧ report.interrupted = false ∧
      report.summary = .ofResults (inTurn fate cases) := by
  obtain ⟨t, report, _, _, path, running⟩ : ∃ t report launched received,
      (Workers.fated worker fate).Runs (runAll settings cases 1) ⟨false, [], [], []⟩ t report
        ⟨false, [], launched, received⟩ ∧ report.interrupted = false :=
    runs_alone (s := .ofCases cases) rfl rfl
  refine ⟨t, report, _, path, running, ?_⟩
  rw [summary_eq path, (launched_of_fated path).2 running]

/-- What a run gives, put in the order of the launches, and its summary are those of the fates of
the cases launched, whatever the limit and whoever finished first; without an interrupt those are
all cases. One worker at a time gives the same summary. A worker that could not be started leaves
the results at all other positions as they were. -/
theorem summary_of_fates {requested : Bool} {report : Report}
    (path : (Workers.fated worker fate).Runs (runAll settings cases limit) ⟨requested, [], [], []⟩
      t report w) :
    ∃ ran, ran = w.launched.map Prod.snd ∧ ran <+: cases ∧
      (report.interrupted = false → ran = cases) ∧
      report.inOrder = inTurn fate ran ∧
      report.summary = .ofResults (inTurn fate ran) ∧ report.summary = totals fate ran ∧
      (∃ t₁ report₁ w₁, (Workers.fated worker fate).Runs (runAll settings ran 1)
        ⟨false, [], [], []⟩ t₁ report₁ w₁ ∧ report₁.interrupted = false ∧
        report₁.summary = report.summary) ∧
      ∀ position cause limit₂ requested₂ t₂ report₂ w₂,
        (Workers.fated worker (Function.update fate position (.unlaunched cause))).Runs
          (runAll settings cases limit₂) ⟨requested₂, [], [], []⟩ t₂ report₂ w₂ →
        ∀ i, i ≠ position → i < w.launched.length → i < w₂.launched.length →
          report₂.inOrder[i]? = report.inOrder[i]? := by
  have summary := summary_eq path
  obtain ⟨listed, complete⟩ := launched_of_fated path
  refine ⟨_, rfl, listed, complete, inOrder_eq path, summary, ?_, ?_, ?_⟩
  · rw [summary, ofResults_inTurn]
  · rw [summary]
    exact summary_alone worker settings fate _
  · intro position cause limit₂ requested₂ t₂ report₂ w₂ path₂ i other first second
    rw [getElem?_inOrder path first, getElem?_inOrder path₂ second, Function.update_of_ne other]

def twins : Nat → Fate
  | 0 => .unlaunched .notFound
  | _ => .ended (some 0) []

def bothOut : State := ((State.ofCases [smoke, smoke]).launched [(1, smoke)]).launched []

def firstOut : State := bothOut.received 1 ((twins 1).result smoke)

def nobodyOut : State := firstOut.received 0 ((twins 0).result smoke)

theorem runs_twins : ∃ t report w, (Workers.fated {} twins).Runs (runAll silent [smoke, smoke] 2)
    ⟨false, [], [], []⟩ t report w ∧ report.interrupted = false ∧
    report.results = [(twins 1).result smoke, (twins 0).result smoke] := by
  have first : (Workers.fated {} twins).Steps (runAll silent [smoke, smoke] 2)
      ⟨false, [], [], []⟩ _ _ ⟨false, [(0, smoke)], [(0, smoke)], []⟩ :=
    steps_launch_fated rfl (by decide) rfl
  have second : (Workers.fated {} twins).Steps _ ⟨false, [(0, smoke)], [(0, smoke)], []⟩ _
      (rounds 2 silent bothOut) ⟨false, [(0, smoke), (1, smoke)], [(0, smoke), (1, smoke)], []⟩ :=
    steps_launch_fated rfl (by decide) rfl
  have full : rounds 2 silent bothOut = turn 2 silent bothOut := by
    rw [rounds_eq, if_pos (by decide)]
  rw [full] at second
  obtain ⟨t₁, third⟩ : ∃ t, (Workers.fated {} twins).Steps (turn 2 silent bothOut)
      ⟨false, [(0, smoke), (1, smoke)], [(0, smoke), (1, smoke)], []⟩ t (rounds 2 silent firstOut)
      ⟨false, [(0, smoke)], [(0, smoke), (1, smoke)], [(1, (twins 1).result smoke)]⟩ :=
    steps_receive rfl (by decide) (by decide)
  have fourth : (Workers.fated {} twins).Steps (rounds 2 silent firstOut) _ _ _
      ⟨false, [(0, smoke)], [(0, smoke), (1, smoke)], [(1, (twins 1).result smoke)]⟩ :=
    steps_spent rfl (by decide) rfl
  obtain ⟨t₂, fifth⟩ : ∃ t, (Workers.fated {} twins).Steps (turn 2 silent firstOut)
      ⟨false, [(0, smoke)], [(0, smoke), (1, smoke)], [(1, (twins 1).result smoke)]⟩ t
      (rounds 2 silent nobodyOut) ⟨false, [], [(0, smoke), (1, smoke)],
        [(1, (twins 1).result smoke), (0, (twins 0).result smoke)]⟩ :=
    steps_receive rfl (by decide) (by decide)
  have last : (Workers.fated {} twins).Steps (rounds 2 silent nobodyOut) _ _ (turn 2 silent nobodyOut)
      ⟨false, [], [(0, smoke), (1, smoke)],
        [(1, (twins 1).result smoke), (0, (twins 0).result smoke)]⟩ :=
    steps_spent rfl (by decide) rfl
  rw [turn_idle rfl] at last
  exact ⟨_, nobodyOut.report, _, (first.trans second).trans ((third.trans fourth).trans
    (fifth.trans last)), rfl, rfl⟩

theorem summary_of_fates_twins : ∃ t report w,
    (Workers.fated {} twins).Runs (runAll silent [smoke, smoke] 2) ⟨false, [], [], []⟩ t report w ∧
    report.results = [(twins 1).result smoke, (twins 0).result smoke] ∧
    report.inOrder = [(twins 0).result smoke, (twins 1).result smoke] ∧
    report.summary = ⟨2, 1, 1, ["smoke"]⟩ := by
  obtain ⟨t, report, w, path, running, results⟩ := runs_twins
  obtain ⟨ran, -, -, complete, inOrder, -, summary, -⟩ := summary_of_fates path
  rw [complete running] at inOrder summary
  exact ⟨t, report, w, path, results, inOrder, summary⟩

end Pool

end TestRig.Suite
