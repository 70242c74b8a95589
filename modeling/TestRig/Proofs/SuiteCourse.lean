import Mathlib.Tactic
import TestRig.Suite
import TestRig.Proofs.PoolTrace

/-!
The ways a suite run can go, each with its trace: it ends while the cases are being looked for, or the
pre-flight case ends it, or the other cases are run. A run that got past the first of these closes
with a clean-up, and by then its answer is settled.
-/

namespace TestRig.Suite

open Host (Routine Result interruptedExit)
open Pool (Trace Workers Report Account launches receipts calls Seen)

def found (i : Invocation) : Except SystemError Host.Listing → Except DiscoveryError (List Case)
  | .error cause => .error (.spawn cause)
  | .ok listing => casesIn i.target i.filter listing

def conclude (s : Settings) (target : String) (report : Report) :
    Routine (Except SuiteError Int) :=
  publish s target report.summary >>= fun _ => reclaim s >>= fun _ =>
    .done (.ok (exitCode report))

def spread (s : Settings) (target : String) (cases : List Case) :
    Routine (Except SuiteError Int) :=
  Pool.runAll s.pool cases s.limit >>= conclude s target

def afterPreflight (s : Settings) (target : String) (cases : List Case) (first : Case)
    (report : Report) : Routine (Except SuiteError Int) :=
  match preflightVerdict first report with
  | some verdict => reclaim s >>= fun _ => .done verdict
  | none => spread s target (cases.filter (· ≠ first))

def afterDiscovery (s : Settings) (i : Invocation) :
    Except DiscoveryError (List Case) → Routine (Except SuiteError Int)
  | .ok cases => runCases s i.target cases
  | .error e => .ask .cancelRequested fun (requested : Bool) =>
    if requested then .done (.ok interruptedExit) else .done (.error (.discovery e))

variable {s : Settings} {i : Invocation} {target : String} {cases : List Case}

theorem discover_eq : discover i i.filter = .ask (.list i) fun x => .done (found i x) := by
  refine congrArg (Program.ask _) (funext fun (x : Except SystemError Host.Listing) => ?_)
  cases x <;> rfl

theorem run_eq : run s i = .ask .interrupted fun (cut : Bool) =>
    if cut then .done (.ok interruptedExit)
    else .ask (.list i) fun x => .ask .interrupted fun (cut : Bool) =>
      if cut then .done (.ok interruptedExit) else afterDiscovery s i (found i x) := by
  rw [run, discover_eq]
  refine congrArg (Program.ask _) (funext fun (cut : Bool) => ?_)
  cases cut with
  | true => rfl
  | false =>
    refine congrArg (Program.ask _) (funext fun x => congrArg (Program.ask _) (funext fun cut => ?_))
    change Bool at cut
    cases cut with
    | true => rfl
    | false =>
      simp only [Bool.false_eq_true, if_false]
      cases found i x with
      | ok cases => rfl
      | error e =>
        refine congrArg (Program.ask _) (funext fun (requested : Bool) => ?_)
        cases requested <;> rfl

theorem fanOut_bind : (fanOut s target cases >>= fun code => pure (.ok code)) =
    spread s target cases := by
  simp only [fanOut, bind_assoc, pure_bind]
  rfl

theorem runCases_none (unset : s.preflight = none) :
    runCases s target cases = spread s target cases := by
  rw [runCases, unset, ← fanOut_bind]

theorem runCases_some {first : Case} (set : s.preflight = some first) :
    runCases s target cases =
      Pool.runAll s.pool [first] 1 >>= afterPreflight s target cases first := by
  rw [runCases, set]
  refine bind_congr fun report => ?_
  rw [afterPreflight]
  cases preflightVerdict first report with
  | some verdict => rfl
  | none => exact fanOut_bind

def searched (i : Invocation) (x : Except SystemError Host.Listing) : Trace :=
  [⟨.interrupted, false⟩, ⟨.list i, x⟩, ⟨.interrupted, false⟩]

def others (s : Settings) (cases : List Case) : List Case :=
  cases.filter fun c => s.preflight ≠ some c

section Course

variable (worker : Worker.Settings) (s : Settings) (i : Invocation) (w : Workers)

/-- The way to the other cases: no pre-flight case is set, or it passed. -/
inductive Gate : Trace → Workers → Prop
  | absent (unset : s.preflight = none) : Gate [] w
  | passed {first : Case} {report : Report} {t : Trace} {w' : Workers}
      (set : s.preflight = some first)
      (ran : (Workers.world worker).Runs (Pool.runAll s.pool [first] 1) w t report w')
      (pass : preflightVerdict first report = none) : Gate t w'

/-- A run from its first question to its end. -/
inductive Course : Trace → Except SuiteError Int → Workers → Prop
  | cutBefore : Course [⟨.interrupted, true⟩] (.ok interruptedExit) w
  | cutAfter (x : Except SystemError Host.Listing) :
      Course [⟨.interrupted, false⟩, ⟨.list i, x⟩, ⟨.interrupted, true⟩] (.ok interruptedExit) w
  | missed {x : Except SystemError Host.Listing} {e : DiscoveryError} (misses : found i x = .error e)
      (requested : Bool) :
      Course (searched i x ++ [⟨.cancelRequested, requested⟩])
        (if requested then .ok interruptedExit else .error (.discovery e)) { w with requested }
  | stopped {x : Except SystemError Host.Listing} {cases : List Case} {first : Case}
      {report : Report} {verdict : Except SuiteError Int} {a c : Trace} {w₁ w' : Workers}
      (finds : found i x = .ok cases) (set : s.preflight = some first)
      (ran : (Workers.world worker).Runs (Pool.runAll s.pool [first] 1) w a report w₁)
      (stop : preflightVerdict first report = some verdict)
      (reclaimed : (Workers.world worker).Runs (reclaim s) w₁ c () w') :
      Course (searched i x ++ a ++ c) verdict w'
  | spread {x : Except SystemError Host.Listing} {cases : List Case} {report : Report}
      {a b p c : Trace} {w₁ w₂ w₃ w' : Workers}
      (finds : found i x = .ok cases) (gate : Gate worker s w a w₁)
      (ran : (Workers.world worker).Runs (Pool.runAll s.pool (others s cases) s.limit)
        w₁ b report w₂)
      (shown : (Workers.world worker).Runs (publish s i.target report.summary) w₂ p () w₃)
      (reclaimed : (Workers.world worker).Runs (reclaim s) w₃ c () w') :
      Course (searched i x ++ (a ++ b) ++ (p ++ c)) (.ok (exitCode report)) w'

end Course

variable {worker : Worker.Settings} {w w' : Workers} {t : Trace} {r : Except SuiteError Int}

theorem runs_conclude {report : Report}
    (path : (Workers.world worker).Runs (conclude s target report) w t r w') :
    ∃ p c w₁, t = p ++ c ∧ r = .ok (exitCode report) ∧
      (Workers.world worker).Runs (publish s target report.summary) w p () w₁ ∧
      (Workers.world worker).Runs (reclaim s) w₁ c () w' := by
  obtain ⟨p, _, w₁, _, shown, onward, rfl⟩ := World.runs_bind.1 path
  obtain ⟨c, _, w₂, _, reclaimed, ended, rfl⟩ := World.runs_bind.1 onward
  obtain ⟨rfl, rfl, rfl⟩ := World.runs_done.1 ended
  exact ⟨p, c, w₁, by rw [List.append_nil], rfl, shown, reclaimed⟩

theorem others_none (unset : s.preflight = none) : others s cases = cases := by
  simp [others, unset]

theorem others_some {first : Case} (set : s.preflight = some first) :
    others s cases = cases.filter (· ≠ first) := by
  refine List.filter_congr fun c _ => ?_
  simp [set, eq_comm]

theorem runs_runCases (path : (Workers.world worker).Runs (runCases s i.target cases) w t r w') :
    (∃ first report verdict a c w₁, s.preflight = some first ∧
      (Workers.world worker).Runs (Pool.runAll s.pool [first] 1) w a report w₁ ∧
      preflightVerdict first report = some verdict ∧ r = verdict ∧ t = a ++ c ∧
      (Workers.world worker).Runs (reclaim s) w₁ c () w') ∨
    ∃ a b w₁, Gate worker s w a w₁ ∧ t = a ++ b ∧
      (Workers.world worker).Runs (spread s i.target (others s cases)) w₁ b r w' := by
  cases preflight : s.preflight with
  | none =>
    rw [runCases_none preflight] at path
    exact .inr ⟨[], t, w, .absent preflight, rfl, by rwa [others_none preflight]⟩
  | some first =>
    rw [runCases_some preflight] at path
    obtain ⟨a, report, w₁, c, ran, onward, rfl⟩ := World.runs_bind.1 path
    cases decided : preflightVerdict first report with
    | none =>
      simp only [afterPreflight, decided] at onward
      refine .inr ⟨a, c, w₁, .passed preflight ran decided, rfl, ?_⟩
      rwa [others_some preflight]
    | some verdict =>
      simp only [afterPreflight, decided] at onward
      obtain ⟨c, _, w₂, _, reclaimed, ended, rfl⟩ := World.runs_bind.1 onward
      obtain ⟨rfl, rfl, rfl⟩ := World.runs_done.1 ended
      rw [List.append_nil]
      exact .inl ⟨first, report, _, a, c, w₁, rfl, ran, decided, rfl, rfl, reclaimed⟩

theorem course_of_found {x : Except SystemError Host.Listing}
    (path : (Workers.world worker).Runs (afterDiscovery s i (found i x)) w t r w') :
    Course worker s i w (searched i x ++ t) r w' := by
  cases finding : found i x with
  | error e =>
    rw [finding] at path
    obtain ⟨requested, w₁, _, answered, ended, rfl⟩ := World.runs_ask.1 path
    obtain ⟨-, rfl⟩ := answered
    change Bool at requested
    cases requested with
    | true =>
      obtain ⟨rfl, rfl, rfl⟩ := World.runs_done.1 ended
      exact .missed finding true
    | false =>
      obtain ⟨rfl, rfl, rfl⟩ := World.runs_done.1 ended
      exact .missed finding false
  | ok cases =>
    rw [finding] at path
    obtain ⟨first, report, _, a, c, w₁, set, ran, stop, rfl, rfl, reclaimed⟩ |
      ⟨a, _, w₁, gate, rfl, onward⟩ := runs_runCases path
    · rw [← List.append_assoc]
      exact .stopped finding set ran stop reclaimed
    · obtain ⟨b, report, w₂, _, ran, ending, rfl⟩ := World.runs_bind.1 onward
      obtain ⟨p, c, w₃, rfl, rfl, shown, reclaimed⟩ := runs_conclude ending
      rw [← List.append_assoc a, ← List.append_assoc (searched i x)]
      exact .spread finding gate ran shown reclaimed

theorem course_of_runs (path : (Workers.world worker).Runs (run s i) w t r w') :
    Course worker s i w t r w' := by
  rw [run_eq] at path
  obtain ⟨cut, w₁, _, looked, listing, rfl⟩ := World.runs_ask.1 path
  obtain rfl : w₁ = w := looked
  change Bool at cut
  cases cut with
  | true =>
    obtain ⟨rfl, rfl, rfl⟩ := World.runs_done.1 listing
    exact .cutBefore
  | false =>
    obtain ⟨x, w₂, _, listed, looking, rfl⟩ := World.runs_ask.1 listing
    obtain rfl : w₂ = w₁ := listed
    obtain ⟨cut, w₃, _, looked, onward, rfl⟩ := World.runs_ask.1 looking
    obtain rfl : w₃ = w₂ := looked
    change Bool at cut
    cases cut with
    | true =>
      obtain ⟨rfl, rfl, rfl⟩ := World.runs_done.1 onward
      exact .cutAfter x
    | false => exact course_of_found onward

def Found (i : Invocation) (t : Trace) (cases : List Case) : Prop :=
  cases ≠ [] ∧ ∃ listing rest, t = searched i (.ok listing) ++ rest ∧
    (Listing.parse listing.out i.filter).map (Case.mk i.target) = cases

def Missed (i : Invocation) (t : Trace) (e : DiscoveryError) : Prop :=
  (∃ cause rest, t = searched i (.error cause) ++ rest ∧ e = .spawn cause) ∨
    ∃ listing rest, t = searched i (.ok listing) ++ rest ∧
      Listing.parse listing.out i.filter = [] ∧
      e = .noCases i.target (Listing.errorLines listing.err)

theorem casesIn_eq_ok {filter : Option String} {l : Host.Listing} :
    casesIn target filter l = .ok cases ↔
      cases ≠ [] ∧ (Listing.parse l.out filter).map (Case.mk target) = cases := by
  rw [casesIn]
  split
  · rename_i empty
    rw [empty]
    simp only [reduceCtorEq, false_iff, not_and]
    exact fun listed same => listed same.symm
  · rename_i listed
    simp only [Except.ok.injEq]
    exact ⟨fun same => ⟨same ▸ listed, same⟩, And.right⟩

theorem casesIn_eq_error {filter : Option String} {l : Host.Listing} {e : DiscoveryError} :
    casesIn target filter l = .error e ↔
      Listing.parse l.out filter = [] ∧ e = .noCases target (Listing.errorLines l.err) := by
  rw [casesIn]
  split
  · rename_i empty
    simp [List.map_eq_nil_iff.1 empty, eq_comm]
  · rename_i listed
    simp only [List.map_eq_nil_iff] at listed
    simp only [reduceCtorEq, false_iff, not_and]
    exact fun empty => (listed empty).elim

theorem searched_inj {x y : Except SystemError Host.Listing} {t t' : Trace} :
    searched i x ++ t = searched i y ++ t' ↔ x = y ∧ t = t' := by
  constructor
  · intro same
    simp only [searched, List.cons_append, List.nil_append, List.cons.injEq, true_and] at same
    exact ⟨eq_of_heq (Event.mk.inj same.1).2, same.2⟩
  · rintro ⟨rfl, rfl⟩
    rfl

theorem found_searched {x : Except SystemError Host.Listing} {rest : Trace} :
    Found i (searched i x ++ rest) cases ↔ found i x = .ok cases := by
  simp only [Found, searched_inj]
  cases x with
  | error cause => simp [found]
  | ok listing =>
    rw [found, casesIn_eq_ok]
    refine and_congr_right fun _ => ⟨?_, fun names => ⟨listing, rest, ⟨rfl, rfl⟩, names⟩⟩
    rintro ⟨_, _, ⟨⟨⟩, -⟩, names⟩
    exact names

theorem found_around {x : Except SystemError Host.Listing} {m z : Trace} :
    Found i (searched i x ++ m ++ z) cases ↔ found i x = .ok cases := by
  rw [List.append_assoc]
  exact found_searched

theorem missed_searched {x : Except SystemError Host.Listing} {rest : Trace} {e : DiscoveryError} :
    Missed i (searched i x ++ rest) e ↔ found i x = .error e := by
  simp only [Missed, searched_inj]
  cases x with
  | error cause =>
    constructor
    · rintro (⟨_, _, ⟨⟨⟩, -⟩, rfl⟩ | ⟨_, _, ⟨⟨⟩, -⟩, -⟩)
      rfl
    · intro missed
      exact .inl ⟨cause, rest, ⟨rfl, rfl⟩, (Except.error.inj missed).symm⟩
  | ok listing =>
    rw [found, casesIn_eq_error]
    constructor
    · rintro (⟨_, _, ⟨⟨⟩, -⟩, -⟩ | ⟨_, _, ⟨⟨⟩, -⟩, missed⟩)
      exact missed
    · exact fun missed => .inr ⟨listing, rest, ⟨rfl, rfl⟩, missed⟩

theorem Found.searched (finds : Found i t cases) :
    ∃ x rest, t = searched i x ++ rest ∧ found i x = .ok cases := by
  obtain ⟨-, listing, rest, rfl, -⟩ := id finds
  exact ⟨_, rest, rfl, found_searched.1 finds⟩

theorem Missed.searched {e : DiscoveryError} (misses : Missed i t e) :
    ∃ x rest, t = searched i x ++ rest ∧ found i x = .error e := by
  obtain ⟨cause, rest, rfl, -⟩ | ⟨listing, rest, rfl, -⟩ := id misses
  · exact ⟨_, rest, rfl, missed_searched.1 misses⟩
  · exact ⟨_, rest, rfl, missed_searched.1 misses⟩

theorem Found.not_missed {e : DiscoveryError} (finds : Found i t cases) : ¬ Missed i t e := by
  intro misses
  obtain ⟨x, rest, rfl, finding⟩ := finds.searched
  rw [missed_searched.1 misses] at finding
  cases finding

theorem Missed.unique {e e' : DiscoveryError} (misses : Missed i t e) (misses' : Missed i t e') :
    e = e' := by
  obtain ⟨x, rest, rfl, finding⟩ := misses.searched
  rw [missed_searched.1 misses'] at finding
  exact (Except.error.inj finding).symm

/-! ### What follows the last result -/

def Publishes : Host.Ask → Prop
  | .say _ _ => True
  | .clock => True
  | .write _ _ _ => True
  | _ => False

def Closes : Host.Ask → Prop
  | .engine _ => True
  | q => Publishes q

theorem closes_of_publishes (q : Host.Ask) (publishes : Publishes q) : Closes q := by
  cases q with
  | engine call => trivial
  | _ => exact publishes

theorem asks_writeSummary (path target : String) (summary : Summary) :
    Program.Asks Publishes (writeSummary path target summary) := by
  unfold writeSummary
  split
  · have timed : Program.Asks Publishes Host.clock := Program.asks_query trivial
    exact Program.asks_bind timed fun _ =>
      Program.asks_bind (Program.asks_query trivial) fun _ => trivial
  · exact Program.asks_bind (Program.asks_query trivial) fun _ => trivial

theorem asks_publish (s : Settings) (target : String) (summary : Summary) :
    Program.Asks Publishes (publish s target summary) := by
  refine Program.asks_bind (Program.asks_query trivial) fun _ => ?_
  split
  · trivial
  · exact Program.asks_bind (asks_writeSummary _ _ _) fun _ => trivial

theorem asks_ofEngine {α : Type} (p : Engine.Routine α) :
    Program.Asks Closes (Host.ofEngine p) := by
  induction p with
  | done a => trivial
  | ask call next ih => exact ⟨trivial, ih⟩

theorem asks_reclaim (s : Settings) : Program.Asks Closes (reclaim s) :=
  Program.asks_bind (asks_ofEngine _) fun _ => trivial

theorem asks_conclude (s : Settings) (target : String) (report : Report) :
    Program.Asks Closes (conclude s target report) :=
  Program.asks_bind (Program.asks_mono closes_of_publishes (asks_publish _ _ _)) fun _ =>
    Program.asks_bind (asks_reclaim s) fun _ => trivial

structure Silent (t : Trace) : Prop where
  noLaunch : launches t = []
  noReceipt : receipts t = []
  unseen : ¬ Seen t

theorem silent_searched (i : Invocation) (x : Except SystemError Host.Listing) :
    Silent (searched i x) := by
  refine ⟨rfl, rfl, ?_⟩
  simp only [searched, Pool.seen_cons, Pool.not_seen_nil, or_false, not_or]
  exact ⟨Bool.false_ne_true, Bool.false_ne_true, Bool.false_ne_true⟩

theorem Silent.append {t t' : Trace} (silent : Silent t) (silent' : Silent t') :
    Silent (t ++ t') :=
  ⟨by simp [silent.noLaunch, silent'.noLaunch], by simp [silent.noReceipt, silent'.noReceipt],
    by simp [silent.unseen, silent'.unseen]⟩

theorem Silent.around {m z : Trace} (silent : Silent z) (x : Except SystemError Host.Listing) :
    launches (searched i x ++ m ++ z) = launches m ∧
      receipts (searched i x ++ m ++ z) = receipts m ∧
      (Seen (searched i x ++ m ++ z) ↔ Seen m) := by
  obtain ⟨noLaunch, noReceipt, unseen⟩ := silent_searched i x
  simp [noLaunch, noReceipt, unseen, silent.noLaunch, silent.noReceipt, silent.unseen]

theorem Silent.around_pools {a b z : Trace} (silent : Silent z)
    (x : Except SystemError Host.Listing) :
    launches (searched i x ++ (a ++ b) ++ z) = launches a ++ launches b ∧
      receipts (searched i x ++ (a ++ b) ++ z) = receipts a ++ receipts b ∧
      (Seen (searched i x ++ (a ++ b) ++ z) ↔ Seen a ∨ Seen b) := by
  obtain ⟨launched, received, seen⟩ := silent.around (i := i) (m := a ++ b) x
  exact ⟨launched.trans (Pool.launches_append a b), received.trans (Pool.receipts_append a b),
    seen.trans (Pool.seen_append a b)⟩

theorem silent_of_closes (closes : ∀ e ∈ t, Closes e.question) : Silent t := by
  induction t with
  | nil => exact ⟨rfl, rfl, Pool.not_seen_nil⟩
  | cons e t ih =>
    obtain ⟨q, x⟩ := e
    obtain ⟨own, later⟩ := List.forall_mem_cons.1 closes
    obtain ⟨noLaunch, noReceipt, unseen⟩ := ih later
    cases q with
    | engine | say | clock | write =>
      refine ⟨noLaunch, noReceipt, ?_⟩
      rw [Pool.seen_cons]
      exact not_or.2 ⟨nofun, unseen⟩
    | _ => exact own.elim

theorem silent_of_publishes (publishes : ∀ e ∈ t, Publishes e.question) : Silent t :=
  silent_of_closes fun e among => closes_of_publishes _ (publishes e among)

theorem runs_reclaim (path : (Workers.world worker).Runs (reclaim s) w t () w') : ∃ report,
    (Workers.world worker).Runs (Host.ofEngine (s.cleaner.cleanup .run)) w t report w' := by
  obtain ⟨_, report, _, _, cleans, ended, rfl⟩ := World.runs_bind.1 path
  obtain ⟨rfl, -, rfl⟩ := World.runs_done.1 ended
  rw [List.append_nil]
  exact ⟨report, cleans⟩

theorem silent_reclaim (path : (Workers.world worker).Runs (reclaim s) w t () w') : Silent t :=
  silent_of_closes (path.asks (asks_reclaim s))

theorem silent_closing {summary : Summary} {p c : Trace} {w₁ : Workers}
    (shown : (Workers.world worker).Runs (publish s target summary) w p () w₁)
    (reclaimed : (Workers.world worker).Runs (reclaim s) w₁ c () w') : Silent (p ++ c) :=
  (silent_of_publishes (shown.asks (asks_publish _ _ _))).append (silent_reclaim reclaimed)

theorem calls_of_publishes (publishes : ∀ e ∈ t, Publishes e.question) : calls t = [] := by
  induction t with
  | nil => rfl
  | cons e t ih =>
    obtain ⟨q, x⟩ := e
    obtain ⟨own, later⟩ := List.forall_mem_cons.1 publishes
    cases q with
    | say | clock | write => exact ih later
    | _ => exact own.elim

theorem runs_of_closes {α : Type} {p : Routine α} (closes : Program.Asks Closes p) (w : Workers) :
    ∃ t a, (Workers.world worker).Runs p w t a w := by
  induction p with
  | done a => exact ⟨_, a, .refl _ _⟩
  | ask q next ih =>
    have own := closes.1
    have onward (x : q.Answer) (answered : (Workers.world worker).Answers q w x w) :
        ∃ t a, (Workers.world worker).Runs (.ask q next) w t a w := by
      obtain ⟨t, a, path⟩ := ih x (closes.2 x)
      exact ⟨_, a, .ask answered path⟩
    cases q with
    | engine call => exact onward (.error (.timeout "" ⟨0⟩)) rfl
    | say => exact onward () rfl
    | clock => exact onward (0 : Nat) rfl
    | write => exact onward (.ok ()) rfl
    | _ => exact own.elim

/-! ### The two pools -/

theorem preflight_account {first : Case} {report : Report} (account : Account [first] t report) :
    (Seen t ∧ preflightVerdict first report = some (.ok interruptedExit)) ∨
    ∃ result : Result, ¬ Seen t ∧ launches t = [(0, first)] ∧ receipts t = [(0, result)] ∧
      result.case = first ∧ preflightVerdict first report =
        if result.code = some 0 then none
        else some (.error (.preflight first.name result.codeText)) := by
  cases running : report.interrupted with
  | true => exact .inl ⟨account.seen.1 running, by simp [preflightVerdict, running]⟩
  | false =>
    have launched : launches t = [(0, first)] := account.complete running
    have reported := account.reported
    rw [launched, List.perm_singleton, List.map_eq_singleton_iff] at reported
    obtain ⟨⟨_, result⟩, received, ticket⟩ := reported
    obtain ⟨rfl, own⟩ := Prod.mk.inj ticket
    refine .inr ⟨result, fun seen => ?_, launched, received, own, ?_⟩
    · simpa [running] using account.seen.2 seen
    · simp [preflightVerdict, running, account.results, received, Result.passed]

/-- What the gate let through: nothing, or a pre-flight case that passed. -/
structure Opened (s : Settings) (t : Trace) : Prop where
  launched : launches t = s.preflight.toList.map (Prod.mk 0)
  reported : ((receipts t).map Workers.ticket).Perm (launches t)
  passed : ∀ event ∈ receipts t, s.preflight = some event.2.case ∧ event.2.code = some 0
  unseen : ¬ Seen t
  calls : calls t = []

theorem Gate.opened (gate : Gate worker s w t w') (idle : w.out = []) :
    Opened s t ∧ w'.out = [] := by
  cases gate with
  | absent unset =>
    exact ⟨⟨by simp [unset], by simp, by simp, Pool.not_seen_nil, rfl⟩, idle⟩
  | passed set ran pass =>
    obtain ⟨account, idle⟩ := Pool.account ran idle
    obtain ⟨-, stop⟩ | ⟨result, unseen, launched, received, own, verdict⟩ :=
      preflight_account account
    · rw [pass] at stop
      cases stop
    · rw [pass] at verdict
      have passed : result.code = some 0 := by
        by_contra failed
        rw [if_neg failed] at verdict
        cases verdict
      refine ⟨⟨?_, account.reported, ?_, unseen, account.calls⟩, idle⟩
      · rw [launched, set]
        rfl
      · rw [received, set]
        simp [own, passed]

theorem preflight_ne_of_mem {c : Case} (among : c ∈ others s cases) : s.preflight ≠ some c := by
  simpa using List.of_mem_filter among

theorem preflight_ne_of_launch {report : Report} (account : Account (others s cases) t report)
    {ticket : Nat × Case} (among : ticket ∈ launches t) : s.preflight ≠ some ticket.2 := by
  have listed := List.mem_map_of_mem (f := Prod.snd) (account.order.subset among)
  rw [Pool.cases_ofCases] at listed
  exact preflight_ne_of_mem listed

theorem preflight_ne_of_receipt {report : Report} (account : Account (others s cases) t report)
    {event : Nat × Result} (among : event ∈ receipts t) : s.preflight ≠ some event.2.case :=
  preflight_ne_of_launch account (account.reported.subset (List.mem_map_of_mem among))

/-! ### Up to the closing -/

theorem steps_searched (x : Except SystemError Host.Listing) :
    (Workers.world worker).Steps (run s i) w (searched i x) (afterDiscovery s i (found i x)) w := by
  rw [run_eq]
  exact .ask rfl (.ask rfl (.ask rfl (.refl _ _)))

theorem Gate.steps (gate : Gate worker s w t w') :
    (Workers.world worker).Steps (runCases s target cases) w t
      (spread s target (others s cases)) w' := by
  cases gate with
  | absent unset =>
    rw [runCases_none unset, others_none unset]
    exact .refl _ _
  | @passed first _ _ _ set ran pass =>
    have onward := ran.onward (afterPreflight s target cases first)
    simp only [afterPreflight, pass] at onward
    rw [runCases_some set, others_some set]
    exact onward

section Closing

variable {x : Except SystemError Host.Listing} {report : Report} {a b : Trace} {w₁ w₂ : Workers}
  (finds : found i x = .ok cases)

include finds

theorem steps_spread (gate : Gate worker s w a w₁)
    (ran : (Workers.world worker).Runs (Pool.runAll s.pool (others s cases) s.limit)
      w₁ b report w₂) :
    (Workers.world worker).Steps (run s i) w (searched i x ++ (a ++ b))
      (conclude s i.target report) w₂ := by
  have opening : (Workers.world worker).Steps (run s i) w (searched i x)
      (afterDiscovery s i (found i x)) w := steps_searched x
  rw [finds] at opening
  exact opening.trans (gate.steps.trans (ran.onward (conclude s i.target)))

theorem steps_stopped {first : Case} {verdict : Except SuiteError Int}
    (set : s.preflight = some first)
    (ran : (Workers.world worker).Runs (Pool.runAll s.pool [first] 1) w a report w₁)
    (stop : preflightVerdict first report = some verdict) :
    (Workers.world worker).Steps (run s i) w (searched i x ++ a)
      (reclaim s >>= fun _ => .done verdict) w₁ := by
  have opening : (Workers.world worker).Steps (run s i) w (searched i x)
      (afterDiscovery s i (found i x)) w := steps_searched x
  have onward := ran.onward (afterPreflight s i.target cases first)
  simp only [afterPreflight, stop] at onward
  rw [finds, afterDiscovery, runCases_some set] at opening
  exact opening.trans onward

end Closing

end TestRig.Suite
