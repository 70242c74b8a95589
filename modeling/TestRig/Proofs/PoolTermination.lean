import Mathlib.Tactic
import TestRig.Cancellation
import TestRig.Proofs.PoolCount

/-!
A pool's loop among its workers. They finish when they like and queue their results; the interrupt is
requested or taken back at any time, or there is nobody left who could. A result that is queued can
always be taken, so the loop stands still only while somebody works, and if each worker reports it
comes to its end. It has then taken all results, and waited once for each of them and at most once
for the interrupt.
-/

namespace TestRig.Suite.Pool

open Host (Routine Result)
open scoped List

/-- The request to interrupt, who is at work, and the results that wait to be taken. -/
structure Floor where
  cancel : Cancellation
  working : List (Nat × Case) := []
  queue : List (Nat × Result) := []

namespace Floor

def launch (f : Floor) (position : Nat) (c : Case) : Floor :=
  { f with working := f.working ++ [(position, c)] }

def finish (f : Floor) (position : Nat) (c : Case) (r : Result) : Floor :=
  { f with working := f.working.erase (position, c), queue := f.queue ++ [(position, r)] }

def Hands (f : Floor) (event : Nat × Result) (f' : Floor) : Prop :=
  ∃ queue, f.queue = event :: queue ∧ f' = { f with queue }

def world : World Host.interface Floor where
  Answers
    | .cancelRequested, f, x, f' => x = f.cancel.releases ∧ f' = f
    | .launch position c, f, _, f' => f' = f.launch position c
    | .completion true, f, x, f' => match x with
      | none => f.cancel.releases = true ∧ f' = f
      | some event => f.Hands event f'
    | .completion false, f, x, f' => f.Hands x f'
    | _, f, _, f' => f' = f

/-- What happens without the loop: a worker comes to the end of its case and queues the result; the
interrupt is requested, or taken back; nobody is left to request it. -/
inductive Stirs (worker : Worker.Settings) (f : Floor) : Floor → Prop
  | finish {position : Nat} {c : Case} {r : Result} (working : (position, c) ∈ f.working)
      (ends : (Worker.supervise worker c).Ends r) : Stirs worker f (f.finish position c r)
  | send {value : Bool} {cancel : Cancellation} (sent : f.cancel.send value = some cancel) :
      Stirs worker f { f with cancel }
  | abandon : Stirs worker f { f with cancel := f.cancel.abandon }

def tickets (f : Floor) : List (Nat × Case) := f.working ++ f.queue.map Workers.ticket

theorem tickets_launch (f : Floor) (position : Nat) (c : Case) :
    (f.launch position c).tickets ~ f.tickets ++ [(position, c)] := by
  simp only [tickets, launch, List.append_assoc]
  exact List.perm_append_comm.append_left _

theorem tickets_finish {f : Floor} {position : Nat} {c : Case} {r : Result}
    (working : (position, c) ∈ f.working) (own : r.case = c) :
    (f.finish position c r).tickets ~ f.tickets := by
  have reported : Workers.ticket (position, r) = (position, c) := by rw [Workers.ticket, own]
  calc (f.finish position c r).tickets
      ~ f.working.erase (position, c) ++ (position, c) :: f.queue.map Workers.ticket := by
        simp only [tickets, finish, List.map_append, List.map_singleton, reported]
        exact (List.perm_append_singleton _ _).append_left _
    _ ~ (position, c) :: f.working.erase (position, c) ++ f.queue.map Workers.ticket :=
        List.perm_middle
    _ ~ f.tickets := (List.perm_cons_erase working).symm.append_right _

theorem Hands.tickets {f f' : Floor} {event : Nat × Result} (hands : f.Hands event f') :
    f.tickets ~ Workers.ticket event :: f'.tickets := by
  obtain ⟨queue, next, rfl⟩ := hands
  rw [Floor.tickets, next, List.map_cons]
  exact List.perm_middle

theorem queue_cases {f f' : Floor} {q : Host.Ask} {answer : q.Answer}
    (answered : world.Answers q f answer f') :
    (∃ event, receipt? ⟨q, answer⟩ = some event ∧ f.Hands event f') ∨
      receipt? ⟨q, answer⟩ = none ∧ f'.queue = f.queue := by
  cases q with
  | cancelRequested => exact .inr ⟨rfl, congrArg queue answered.2⟩
  | launch position c =>
    obtain rfl : f' = f.launch position c := answered
    exact .inr ⟨rfl, rfl⟩
  | completion watching =>
    cases watching with
    | false => exact .inl ⟨answer, rfl, answered⟩
    | true =>
      cases answer with
      | none => exact .inr ⟨rfl, congrArg queue answered.2⟩
      | some event => exact .inl ⟨event, rfl, answered⟩
  | _ =>
    obtain rfl : f' = f := answered
    exact .inr ⟨rfl, rfl⟩

end Floor

structure Point where
  rest : Routine Report
  floor : Floor
  past : Trace

namespace Point

def opening (settings : Settings) (cases : List Case) (limit : Nat) (cancel : Cancellation) : Point :=
  ⟨runAll settings cases limit, { cancel }, []⟩

inductive Step (x : Point) : Point → Prop
  | step {q : Host.Ask} {next : q.Answer → Routine Report} {answer : q.Answer} {floor : Floor}
      (left : x.rest = .ask q next) (answered : Floor.world.Answers q x.floor answer floor) :
      Step x ⟨next answer, floor, x.past ++ [⟨q, answer⟩]⟩

inductive Stir (worker : Worker.Settings) (x : Point) : Point → Prop
  | stir {floor : Floor} (stirs : x.floor.Stirs worker floor) : Stir worker x { x with floor }

def Move (worker : Worker.Settings) (x y : Point) : Prop := x.Step y ∨ x.Stir worker y

def Ready (x : Point) : Prop :=
  ∃ q next, x.rest = .ask q next ∧ (Prompt q ∨ x.floor.queue ≠ [])

def results (x : Point) : List (Nat × Result) := receipts x.past ++ x.floor.queue

structure Agrees (x : Point) (w : Workers) : Prop where
  unasked : w.requested = false
  out : w.out ~ x.floor.tickets
  launched : w.launched = launches x.past
  received : w.received = receipts x.past

structure Sound (worker : Worker.Settings) (settings : Settings) (cases : List Case) (limit : Nat)
    (x : Point) : Prop where
  path : (World.free Host.interface).Steps (runAll settings cases limit) () x.past x.rest ()
  books : ∃ w, Kept cases (max limit 1) settings x.rest w ∧ x.Agrees w
  queued : ∀ event ∈ x.floor.queue, (Worker.supervise worker event.2.case).Ends event.2

variable {worker : Worker.Settings} {settings : Settings} {cases : List Case} {limit : Nat}
  {x y : Point} {w : Workers}

theorem sound_opening (worker : Worker.Settings) (settings : Settings) (cases : List Case)
    (limit : Nat) (cancel : Cancellation) :
    (opening settings cases limit cancel).Sound worker settings cases limit where
  path := .refl _ _
  books := ⟨⟨false, [], [], []⟩, ⟨_, .head _, Ledger.opening cases _ false⟩, rfl, .refl _, rfl, rfl⟩
  queued := by simp [opening]

theorem hands_in {f f' : Floor} {event : Nat × Result} (hands : f.Hands event f')
    (out : w.out ~ f.tickets) (ends : (Worker.supervise worker event.2.case).Ends event.2) :
    ∃ w', w.HandsIn worker event w' ∧ w'.out ~ f'.tickets := by
  have first : w.out ~ Workers.ticket event :: f'.tickets := out.trans hands.tickets
  refine ⟨w.receive event.2.case event, ⟨event.2.case, ?_, ends, rfl⟩, ?_⟩
  · exact first.mem_iff.2 List.mem_cons_self
  · have rest := first.erase (Workers.ticket event)
    rw [List.erase_cons_head] at rest
    exact rest

theorem answers_workers {q : Host.Ask} {answer : q.Answer} {f f' : Floor}
    (answered : Floor.world.Answers q f answer f') (unasked : w.requested = false)
    (out : w.out ~ f.tickets)
    (queued : ∀ event ∈ f.queue, (Worker.supervise worker event.2.case).Ends event.2) :
    ∃ w', (Workers.world worker).Answers q w answer w' ∧ w'.out ~ f'.tickets := by
  have handed {event : Nat × Result} (hands : f.Hands event f') :
      ∃ w', w.HandsIn worker event w' ∧ w'.out ~ f'.tickets := by
    have among : event ∈ f.queue := by
      obtain ⟨queue, next, -⟩ := hands
      rw [next]
      exact List.mem_cons_self
    exact hands_in hands out (queued event among)
  cases q with
  | cancelRequested =>
    obtain ⟨-, rfl⟩ := answered
    exact ⟨{ w with requested := answer }, ⟨by simp [unasked], rfl⟩, out⟩
  | launch position c =>
    obtain rfl : f' = f.launch position c := answered
    refine ⟨w.launch position c, rfl, ?_⟩
    exact (out.append_right _).trans (f.tickets_launch position c).symm
  | completion watching =>
    cases watching with
    | false => exact handed answered
    | true =>
      cases answer with
      | none =>
        obtain ⟨-, rfl⟩ := answered
        exact ⟨{ w with requested := true }, rfl, out⟩
      | some event => exact handed answered
  | _ =>
    obtain rfl : f' = f := answered
    exact ⟨w, rfl, out⟩

theorem queued_of_answers {P : Nat × Result → Prop} {q : Host.Ask} {answer : q.Answer}
    {f f' : Floor} (answered : Floor.world.Answers q f answer f') (queued : ∀ e ∈ f.queue, P e) :
    ∀ e ∈ f'.queue, P e := by
  obtain ⟨event, -, queue, next, rfl⟩ | ⟨-, same⟩ := Floor.queue_cases answered
  · rw [next] at queued
    exact (List.forall_mem_cons.1 queued).2
  · rw [same]
    exact queued

theorem Sound.step (sound : x.Sound worker settings cases limit) (step : x.Step y) :
    y.Sound worker settings cases limit := by
  cases step with
  | @step q next answer floor left answered =>
    obtain ⟨path, ⟨w, kept, agrees⟩, queued⟩ := sound
    rw [left] at path kept
    obtain ⟨w', answers, out⟩ := answers_workers answered agrees.unasked agrees.out queued
    obtain ⟨launched, received⟩ := Workers.history_of_answers answers
    obtain ⟨s, stands, ledger⟩ := kept.step answers
    refine ⟨path.trans (.ask trivial (.refl _ _)), ?_, queued_of_answers answered queued⟩
    refine ⟨{ w' with requested := false }, ⟨s, stands, ledger.request false⟩, rfl, out, ?_, ?_⟩
    · rw [launches_append, ← agrees.launched, launches_cons, launches_nil, List.append_nil]
      exact launched
    · rw [receipts_append, ← agrees.received, receipts_cons, receipts_nil, List.append_nil]
      exact received

theorem Sound.stir (sound : x.Sound worker settings cases limit) (stir : x.Stir worker y) :
    y.Sound worker settings cases limit := by
  obtain ⟨path, ⟨w, kept, agrees⟩, queued⟩ := sound
  obtain ⟨stirs⟩ := stir
  cases stirs with
  | @finish position c r working ends =>
    have own := Worker.case_of_ends ends
    have out := agrees.out.trans (Floor.tickets_finish working own).symm
    refine ⟨path, ⟨w, kept, agrees.unasked, out, agrees.launched, agrees.received⟩, ?_⟩
    intro event among
    obtain among | last := List.mem_append.1 among
    · exact queued event among
    · obtain rfl := List.mem_singleton.1 last
      rw [own]
      exact ends
  | send sent =>
    exact ⟨path, ⟨w, kept, agrees.unasked, agrees.out, agrees.launched, agrees.received⟩, queued⟩
  | abandon =>
    exact ⟨path, ⟨w, kept, agrees.unasked, agrees.out, agrees.launched, agrees.received⟩, queued⟩

theorem Sound.goes_on (sound : x.Sound worker settings cases limit) (ready : x.Ready) :
    ∃ y, x.Step y := by
  obtain ⟨w, ⟨s, stands, -⟩, -⟩ := sound.books
  obtain ⟨q, next, left, prompt⟩ := ready
  have crews := stands.crews left
  cases q with
  | cancelRequested => exact ⟨_, .step left ⟨rfl, rfl⟩⟩
  | launch position c =>
    have answered : Floor.world.Answers (.launch position c) x.floor ()
        (x.floor.launch position c) := rfl
    exact ⟨_, .step left answered⟩
  | say channel text =>
    have answered : Floor.world.Answers (.say channel text) x.floor () x.floor := rfl
    exact ⟨_, .step left answered⟩
  | completion watching =>
    have queued : x.floor.queue ≠ [] := prompt.resolve_left id
    obtain ⟨event, queue, first⟩ := List.exists_cons_of_ne_nil queued
    have hands : x.floor.Hands event { x.floor with queue } := ⟨queue, first, rfl⟩
    cases watching with
    | false => exact ⟨_, .step left hands⟩
    | true =>
      have answered : Floor.world.Answers (.completion true) x.floor (some event)
          { x.floor with queue } := hands
      exact ⟨_, .step left answered⟩
  | _ => exact crews.elim

theorem Sound.waits_for (sound : x.Sound worker settings cases limit) (waits : ¬ x.Ready) :
    (∃ report, x.rest = .done report) ∨ x.floor.working ≠ [] := by
  obtain ⟨w, ⟨s, stands, ledger⟩, agrees⟩ := sound.books
  cases left : x.rest with
  | done report => exact .inl ⟨report, rfl⟩
  | ask q next =>
    right
    have waiting : ¬ Prompt q ∧ x.floor.queue = [] := by
      constructor
      · exact fun prompt => waits ⟨q, next, left, .inl prompt⟩
      · by_contra queued
        exact waits ⟨q, next, left, .inr queued⟩
    have busy : s.inFlight ≠ 0 := by
      cases q with
      | completion watching => exact (stands.wait left).1
      | _ => exact absurd trivial waiting.1
    intro none
    have nobody : x.floor.tickets = [] := by simp [Floor.tickets, none, waiting.2]
    have out := agrees.out
    rw [nobody, List.perm_nil] at out
    rw [ledger.inFlight, out] at busy
    exact busy rfl

structure Settled (settings : Settings) (cases : List Case) (limit : Nat) (x : Point)
    (report : Report) : Prop where
  working : x.floor.working = []
  queue : x.floor.queue = []
  accounts : (receipts x.past).map Workers.ticket ~ launches x.past
  results : report.results = (receipts x.past).map Prod.snd
  rounds : ∃ k, (counted (max limit 1) settings (.ofCases cases)).Runs x.past (k, report) ∧
    k = (receipts x.past).length + x.past.countP cuts + 1 ∧ x.past.countP cuts ≤ 1 ∧
    k ≤ (launches x.past).length + 2

theorem Sound.settled (sound : x.Sound worker settings cases limit) {report : Report}
    (ended : x.rest = .done report) : x.Settled settings cases limit report := by
  obtain ⟨path, ⟨w, ⟨s, stands, ledger⟩, agrees⟩, -⟩ := sound
  obtain ⟨-, idle, rfl⟩ := stands_done stands ended
  have nobody := ledger.nobody_out idle
  have out := agrees.out
  rw [nobody, List.nil_perm, Floor.tickets, List.append_eq_nil_iff] at out
  have accounts := ledger.accounts
  rw [nobody, List.nil_append, agrees.launched, agrees.received] at accounts
  refine ⟨out.1, List.map_eq_nil_iff.1 out.2, accounts.symm, ?_, ?_⟩
  · rw [State.report, ledger.completed, agrees.received]
  · rw [ended] at path
    obtain ⟨k, run⟩ := exists_counted path
    have start : Stands (max limit 1) settings (runAll settings cases limit) (.ofCases cases) :=
      .head _
    have once : x.past.countP cuts ≤ 1 := start.countP_cuts_le path
    have number : k = (receipts x.past).length + x.past.countP cuts + 1 := by
      rw [waits_counted run, countP_waits]
    have taken := accounts.length_eq
    rw [List.length_map] at taken
    exact ⟨k, run, number, once, by omega⟩

theorem results_step (step : x.Step y) : y.results = x.results := by
  obtain ⟨left, answered⟩ := step
  obtain ⟨event, brings, queue, next, rfl⟩ | ⟨none, same⟩ := Floor.queue_cases answered
  · simp [results, next, receipts_cons, brings]
  · simp [results, same, receipts_cons, none]

theorem results_stir (stir : x.Stir worker y) : x.results <+: y.results := by
  obtain ⟨stirs⟩ := stir
  cases stirs with
  | @finish position c r working ends => exact ⟨[(position, r)], by simp [results, Floor.finish]⟩
  | send sent => exact List.prefix_rfl
  | abandon => exact List.prefix_rfl

def left (x : Point) : Routine Report × List (Nat × Case) := (x.rest, x.floor.working)

/-- Less is left: the loop had an answer, or it stands and one worker less is at work. -/
def Less : Routine Report × List (Nat × Case) → Routine Report × List (Nat × Case) → Prop :=
  Prod.Lex (fun p' p => p.Leaves p') (InvImage (· < ·) List.length)

theorem wellFounded_less : WellFounded Less :=
  WellFounded.prod_lex Program.wellFounded_leaves (InvImage.wf _ Nat.lt_wfRel.wf)

theorem less_step (step : x.Step y) : Less y.left x.left := by
  obtain ⟨rest, answered⟩ := step
  exact .left _ _ ⟨_, _, _, rest, rfl⟩

theorem rest_stir (stir : x.Stir worker y) : y.rest = x.rest := by
  obtain ⟨stirs⟩ := stir
  rfl

theorem less_finish {position : Nat} {c : Case} (r : Result)
    (working : (position, c) ∈ x.floor.working) :
    Less (x.rest, (x.floor.finish position c r).working) x.left := by
  refine .right _ ?_
  have fewer := List.length_erase_of_mem working
  have filled := List.length_pos_of_mem working
  change (x.floor.working.erase (position, c)).length < x.floor.working.length
  omega

theorem left_stir (stir : x.Stir worker y) : y.left = x.left ∨ Less y.left x.left := by
  obtain ⟨stirs⟩ := stir
  cases stirs with
  | @finish _ _ r working ends => exact .inr (less_finish r working)
  | send sent => exact .inl rfl
  | abandon => exact .inl rfl

theorem Sound.exists_way (sound : x.Sound worker settings cases limit) :
    ∃ y report, Relation.ReflTransGen (Move worker) x y ∧ y.rest = .done report := by
  induction here : x.left using wellFounded_less.induction generalizing x with
  | _ _ ih =>
    subst here
    by_cases ready : x.Ready
    · obtain ⟨u, step⟩ := sound.goes_on ready
      obtain ⟨y, report, path, ended⟩ := ih _ (less_step step) (sound.step step) rfl
      exact ⟨y, report, .head (.inl step) path, ended⟩
    · obtain ⟨report, ended⟩ | filled := sound.waits_for ready
      · exact ⟨x, report, .refl, ended⟩
      · obtain ⟨⟨position, c⟩, working⟩ := List.exists_mem_of_ne_nil _ filled
        have ends : (Worker.supervise worker c).Ends (Worker.unlaunched c .notFound) :=
          ⟨.error .notFound, rfl⟩
        have stir : x.Stir worker { x with floor := x.floor.finish position c _ } :=
          ⟨.finish working ends⟩
        obtain ⟨y, report, path, ended⟩ := ih _ (less_finish _ working) (sound.stir stir) rfl
        exact ⟨y, report, .head (.inr stir) path, ended⟩

end Point

/-- One course of things: at each time the loop has a question answered, or something else happens,
or nothing. -/
structure Schedule (worker : Worker.Settings) (settings : Settings) (cases : List Case) (limit : Nat)
    (x : Nat → Point) : Prop where
  opening : ∃ cancel, x 0 = .opening settings cases limit cancel
  moves : ∀ n, x (n + 1) = x n ∨ (x n).Move worker (x (n + 1))

/-- Whoever works reports, and a loop that does not have to wait goes on; both at some time. -/
structure Fair (x : Nat → Point) : Prop where
  reports : ∀ n, ∀ ticket ∈ (x n).floor.working, ∃ m, n ≤ m ∧ ticket ∉ (x m).floor.working
  steps : ∀ n, (x n).Ready → ∃ m, n ≤ m ∧ (x m).Step (x (m + 1))

section

variable {worker : Worker.Settings} {settings : Settings} {cases : List Case} {limit : Nat}
  {x : Nat → Point}

theorem Schedule.sound (schedule : Schedule worker settings cases limit x) (n : Nat) :
    (x n).Sound worker settings cases limit := by
  induction n with
  | zero =>
    obtain ⟨cancel, start⟩ := schedule.opening
    rw [start]
    exact Point.sound_opening worker settings cases limit cancel
  | succ n ih =>
    obtain same | step | stir := schedule.moves n
    · rw [same]
      exact ih
    · exact ih.step step
    · exact ih.stir stir

theorem Schedule.results (schedule : Schedule worker settings cases limit x) {m n : Nat}
    (before : m ≤ n) : (x m).results <+: (x n).results := by
  induction n, before using Nat.le_induction with
  | base => exact List.prefix_rfl
  | succ n before ih =>
    obtain same | step | stir := schedule.moves n
    · rw [same]
      exact ih
    · rw [Point.results_step step]
      exact ih
    · exact ih.trans (Point.results_stir stir)

theorem Schedule.left (schedule : Schedule worker settings cases limit x) (n : Nat) :
    (x (n + 1)).left = (x n).left ∨ Point.Less (x (n + 1)).left (x n).left := by
  obtain same | step | stir := schedule.moves n
  · exact .inl (congrArg Point.left same)
  · exact .inr (Point.less_step step)
  · exact Point.left_stir stir

theorem exists_rest {α : Type} {r : α → α → Prop} (wf : WellFounded r) {v : Nat → α}
    (falls : ∀ n, v (n + 1) = v n ∨ r (v (n + 1)) (v n)) :
    ∃ n, ∀ m, n ≤ m → v m = v n ∧ ¬ r (v (m + 1)) (v m) := by
  obtain ⟨_, ⟨n, rfl⟩, least⟩ := wf.has_min (Set.range v) ⟨v 0, 0, rfl⟩
  refine ⟨n, fun m later => ?_⟩
  have same : v m = v n := by
    induction m, later using Nat.le_induction with
    | base => rfl
    | succ m later ih =>
      obtain same | less := falls m
      · exact same.trans ih
      · rw [ih] at less
        exact absurd less (least _ ⟨m + 1, rfl⟩)
  rw [same]
  exact ⟨rfl, least _ ⟨m + 1, rfl⟩⟩

theorem Schedule.ends (schedule : Schedule worker settings cases limit x) (fair : Fair x) :
    ∃ n report, (x n).rest = .done report := by
  obtain ⟨n, rests⟩ := exists_rest (v := fun n => (x n).left) Point.wellFounded_less schedule.left
  by_cases ready : (x n).Ready
  · obtain ⟨m, later, step⟩ := fair.steps n ready
    exact absurd (Point.less_step step) (rests m later).2
  · obtain ended | some := (schedule.sound n).waits_for ready
    · exact ⟨n, ended⟩
    · obtain ⟨ticket, works⟩ := List.exists_mem_of_ne_nil _ some
      obtain ⟨m, later, reported⟩ := fair.reports n ticket works
      have same : (x m).floor.working = (x n).floor.working := congrArg Prod.snd (rests m later).1
      rw [same] at reported
      exact absurd works reported

end

section

variable {worker : Worker.Settings} {settings : Settings} {cases : List Case} {limit : Nat}
  {cancel : Cancellation} {a y : Point}

theorem exists_course (path : Relation.ReflTransGen (Point.Move worker) a y) :
    ∃ x : Nat → Point, x 0 = a ∧ (∀ n, x (n + 1) = x n ∨ (x n).Move worker (x (n + 1))) ∧
      ∃ n, ∀ m, n ≤ m → x m = y := by
  induction path using Relation.ReflTransGen.head_induction_on with
  | refl => exact ⟨fun _ => y, rfl, fun _ => .inl rfl, 0, fun _ _ => rfl⟩
  | @head a b move _ ih =>
    obtain ⟨x, rfl, moves, n, stays⟩ := ih
    refine ⟨fun m => m.casesOn a x, rfl, fun m => ?_, n + 1, fun m later => ?_⟩
    · cases m with
      | zero => exact .inr move
      | succ m => exact moves m
    · cases m with
      | zero => omega
      | succ m => exact stays m (by omega)

theorem exists_fair {report : Report}
    (path : Relation.ReflTransGen (Point.Move worker) (.opening settings cases limit cancel) y)
    (ended : y.rest = .done report) :
    ∃ x, Schedule worker settings cases limit x ∧ Fair x ∧ ∃ n, x n = y := by
  obtain ⟨x, start, moves, n, stays⟩ := exists_course path
  have schedule : Schedule worker settings cases limit x := ⟨⟨cancel, start⟩, moves⟩
  refine ⟨x, schedule, ⟨fun m ticket _ => ?_, fun m ready => ?_⟩, n, stays n le_rfl⟩
  · have nobody : y.floor.working = [] := by
      have sound := schedule.sound n
      rw [stays n le_rfl] at sound
      exact (sound.settled ended).working
    refine ⟨max m n, le_max_left m n, ?_⟩
    rw [stays _ (le_max_right m n), nobody]
    exact List.not_mem_nil
  · -- without a step the loop would be at its end already
    by_contra none
    have same (k : Nat) : (x (m + k)).rest = (x m).rest := by
      induction k with
      | zero => rfl
      | succ k ih =>
        obtain same | step | stir := moves (m + k)
        · exact (congrArg Point.rest same).trans ih
        · exact absurd ⟨m + k, Nat.le_add_right m k, step⟩ none
        · exact (Point.rest_stir stir).trans ih
    obtain ⟨q, next, left, -⟩ := ready
    have last := same n
    rw [stays _ (by omega), ended, left] at last
    cases last

/-- Whatever the cases and the limit, there is a fair schedule. -/
theorem exists_fair_schedule (worker : Worker.Settings) (settings : Settings) (cases : List Case)
    (limit : Nat) : ∃ x, Schedule worker settings cases limit x ∧ Fair x := by
  have sound := Point.sound_opening worker settings cases limit ⟨false, true⟩
  obtain ⟨y, report, path, ended⟩ := sound.exists_way
  obtain ⟨x, schedule, fair, -⟩ := exists_fair path ended
  exact ⟨x, schedule, fair⟩

end

def crewed : State := (State.ofCases [smoke]).launched []

theorem way_of_smoke : ∃ t, Relation.ReflTransGen (Point.Move {})
    (.opening silent [smoke] 0 ⟨false, true⟩)
    ⟨.done (crewed.interrupt.received 0 refused).report, ⟨⟨true, false⟩, [], []⟩, t⟩ ∧
    receipts t = [(0, refused)] ∧ t.countP cuts = 1 := by
  have looks : runAll silent [smoke] 0 = _ := (rounds_eq 1 silent _).trans (if_neg (by decide))
  have watches : rounds 1 silent crewed = _ :=
    ((rounds_eq 1 silent _).trans (if_pos (by decide))).trans (turn_watching (by decide) rfl)
  have waits : rounds 1 silent crewed.interrupt = _ :=
    ((rounds_eq 1 silent _).trans (if_pos (by decide))).trans (turn_waiting (by decide) rfl)
  have ends : rounds 1 silent (crewed.interrupt.received 0 refused) = _ :=
    ((rounds_eq 1 silent _).trans (if_pos (by decide))).trans (turn_idle rfl)
  rw [← ends]
  refine ⟨[⟨.cancelRequested, false⟩, ⟨.launch 0 smoke, ()⟩, ⟨.completion true, none⟩,
    ⟨.completion false, (0, refused)⟩], ?_, rfl, rfl⟩
  have looked : Floor.world.Answers .cancelRequested ⟨⟨false, true⟩, [], []⟩ false
    ⟨⟨false, true⟩, [], []⟩ := ⟨rfl, rfl⟩
  have launched : Floor.world.Answers (.launch 0 smoke) ⟨⟨false, true⟩, [], []⟩ ()
    ⟨⟨false, true⟩, [(0, smoke)], []⟩ := rfl
  have asked : Cancellation.send ⟨false, true⟩ true = some ⟨true, true⟩ := rfl
  have cut : Floor.world.Answers (.completion true) ⟨⟨true, true⟩, [(0, smoke)], []⟩ none
    ⟨⟨true, true⟩, [(0, smoke)], []⟩ := ⟨rfl, rfl⟩
  have handed : Floor.world.Answers (.completion false) ⟨⟨true, false⟩, [], [(0, refused)]⟩
    (0, refused) ⟨⟨true, false⟩, [], []⟩ := ⟨[], rfl, rfl⟩
  have refuses : (Worker.supervise {} smoke).Ends refused := ⟨.error .notFound, rfl⟩
  refine .head (.inl (.step looks looked)) ?_
  refine .head (.inl (.step rfl launched)) ?_
  refine .head (.inr (.stir (.send asked))) ?_
  refine .head (.inl (.step watches cut)) ?_
  refine .head (.inr (.stir .abandon)) ?_
  refine .head (.inr (.stir (.finish (List.mem_singleton_self _) refuses))) ?_
  refine .head (.inl (.step waits handed)) ?_
  exact .refl

/-- Under every schedule the loop goes on whenever it asks for something that needs no worker or a
result is queued, whatever became of the interrupt; where it has to wait somebody is at work. No
result that was queued is lost. At the end nobody is at work, no result is queued, and there is one
of each case launched. Each round but the last took one of them, or found the interrupt, which was
found once at most. And if whoever works reports, there is an end. -/
theorem ends_under_every_schedule {worker : Worker.Settings} {settings : Settings}
    {cases : List Case} {limit : Nat} {x : Nat → Point}
    (schedule : Schedule worker settings cases limit x) :
    (∀ n, ((x n).Ready → ∃ y, (x n).Step y) ∧
      ((x n).Ready ∨ (∃ report, (x n).rest = .done report) ∨ (x n).floor.working ≠ [])) ∧
    (∀ m n, m ≤ n → (x m).results <+: (x n).results) ∧
    (∀ n report, (x n).rest = .done report → (x n).Settled settings cases limit report) ∧
    (Fair x → ∃ n report, (x n).rest = .done report) := by
  refine ⟨fun n => ⟨(schedule.sound n).goes_on, ?_⟩, fun m n => schedule.results, fun n report =>
    (schedule.sound n).settled, schedule.ends⟩
  by_cases ready : (x n).Ready
  · exact .inl ready
  · exact .inr ((schedule.sound n).waits_for ready)

theorem ends_under_every_schedule_cut : ∃ x, Schedule {} silent [smoke] 0 x ∧ Fair x ∧
    (∃ n report, (x n).rest = .done report) ∧
    ∃ n report, (counted 1 silent (.ofCases [smoke])).Runs (x n).past (3, report) := by
  obtain ⟨t, path, taken, cut⟩ := way_of_smoke
  obtain ⟨x, schedule, fair, n, last⟩ := exists_fair path rfl
  obtain ⟨-, -, settled, ends⟩ := ends_under_every_schedule schedule
  have ended : (x n).rest = .done (crewed.interrupt.received 0 refused).report := by rw [last]
  obtain ⟨k, run, number, -⟩ := (settled n _ ended).rounds
  rw [last, taken, cut] at number
  subst number
  exact ⟨x, schedule, fair, ends fair, n, _, run⟩

end TestRig.Suite.Pool
