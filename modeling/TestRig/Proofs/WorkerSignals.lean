import Mathlib.Tactic
import TestRig.Suite.Summary
import TestRig.Suite.Supervision
import TestRig.Proofs.World

/-!
A worker against the clock. Its process ends by itself, or it is asked to terminate when the
interrupt comes; then it does so in its own time, dies, or goes on as before, and is killed if it
outlives the grace. Where no two of these moments fall together, the signals that are sent, the end of
the process and the code of the result follow from them, and the process has ended before there is
a result.
-/

namespace TestRig.Suite.Worker

open Host (Channel Chunk Result)

/-- How a process ends, and when: times are in nanoseconds from its start. -/
structure Ending where
  time : Nat
  status : Status
deriving DecidableEq, Repr

def lasts (course : Option Ending) (time : Nat) : Bool := course.all (time < ·.time)

/-- What a process does when it is asked to terminate. -/
inductive Reaction
  | exits (delay : Duration) (code : Int)
  | dies
  | ignores
deriving DecidableEq, Repr

/-- The end of a process that is asked to terminate at a time; its own may come first. -/
def Reaction.course : Reaction → (own : Option Ending) → (time : Nat) → Option Ending
  | exits delay code, own, time =>
    let asked : Ending := ⟨time + delay.nanos, some code⟩
    if lasts own asked.time then some asked else own
  | dies, _, time => some ⟨time, none⟩
  | ignores, own, _ => own

inductive Behaviour
  | unlaunched (cause : SystemError)
  | launched (own : Option Ending) (onTerm : Reaction)
deriving Repr

inductive Signal
  | term
  | kill
deriving DecidableEq, Repr

/-- The clock, the end that the process has before it as things stand, and the signals sent to it,
each with its time. -/
structure Scene where
  now : Nat := 0
  course : Option Ending := none
  sent : List (Nat × Signal) := []
deriving Repr

namespace Scene

def waited (s : Scene) (time : Nat) : Scene := { s with now := max s.now time }

def signal (s : Scene) (sig : Signal) (course : Option Ending) : Scene :=
  { s with
    sent := s.sent ++ [(s.now, sig)]
    course := if lasts s.course s.now then course else s.course }

end Scene

namespace Behaviour

def onTerm : Behaviour → Reaction
  | unlaunched _ => .ignores
  | launched _ onTerm => onTerm

/-- A process with this behaviour, and an interrupt at a time or never. Each wait ends with the first
of the events it waits for. -/
def world (b : Behaviour) (cancel : Option Nat) : World interface Scene where
  Answers
    | .spawn, s, x, s' => match b with
      | unlaunched cause => x = .error cause ∧ s' = s
      | launched own _ => x = .ok () ∧ s' = { s with course := own }
    | .exitOrInterrupt, s, x, s' => match x with
      | some status => ∃ e, s.course = some e ∧ (∀ k, cancel = some k → e.time ≤ k) ∧
        status = e.status ∧ s' = s.waited e.time
      | none => ∃ k, cancel = some k ∧ (∀ e, s.course = some e → k ≤ e.time) ∧ s' = s.waited k
    | .terminate, s, _, s' => s' = s.signal .term (b.onTerm.course s.course s.now)
    | .exitWithin limit, s, x, s' => match x with
      | some status => ∃ e, s.course = some e ∧ e.time ≤ s.now + limit.nanos ∧
        status = e.status ∧ s' = s.waited e.time
      | none => (∀ e, s.course = some e → s.now + limit.nanos ≤ e.time) ∧
        s' = s.waited (s.now + limit.nanos)
    | .kill, s, _, s' => s' = s.signal .kill (some ⟨s.now, none⟩)
    | .exit, s, x, s' => ∃ e, s.course = some e ∧ x = e.status ∧ s' = s.waited e.time
    | .drain _ limit, s, _, s' => ∃ time ≤ s.now + limit.nanos, s' = s.waited time
    | .output, s, _, s' => s' = s

/-- No two of the moments that a wait looks for are the same. -/
def Apart (grace : Duration) (cancel : Option Nat) : Behaviour → Prop
  | unlaunched _ => True
  | launched own onTerm => ∀ k, cancel = some k → (∀ e, own = some e → e.time ≠ k) ∧
    (lasts own k = true → ∀ e, onTerm.course own k = some e → e.time ≠ k + grace.nanos)

def Settles (cancel : Option Nat) : Behaviour → Prop
  | unlaunched _ => True
  | launched own _ => own.isSome ∨ cancel.isSome

end Behaviour

inductive Course (grace : Duration) (cancel : Option Nat) (own : Option Ending) (onTerm : Reaction) :
    List (Nat × Signal) → Ending → Prop
  | spared {e : Ending} (ends : own = some e) (first : ∀ k, cancel = some k → e.time < k) :
      Course grace cancel own onTerm [] e
  | terminated {k : Nat} {e : Ending} (cancelled : cancel = some k) (alive : lasts own k = true)
      (ends : onTerm.course own k = some e) (inTime : e.time < k + grace.nanos) :
      Course grace cancel own onTerm [(k, .term)] e
  | killed {k : Nat} (cancelled : cancel = some k) (alive : lasts own k = true)
      (late : lasts (onTerm.course own k) (k + grace.nanos) = true) :
      Course grace cancel own onTerm [(k, .term), (k + grace.nanos, .kill)]
        ⟨k + grace.nanos, none⟩

def Scene.Over (s : Scene) (sent : List (Nat × Signal)) (e : Ending) : Prop :=
  s.sent = sent ∧ s.course = some e ∧ e.time ≤ s.now

section Runs

variable {settings : Settings} {c : Case} {b : Behaviour} {cancel : Option Nat} {grace : Duration}
  {own : Option Ending} {onTerm : Reaction} {s s' : Scene} {sent : List (Nat × Signal)} {e : Ending}

theorem lasts_iff {course : Option Ending} {time : Nat} :
    lasts course time = true ↔ ∀ e, course = some e → time < e.time := by
  cases course <;> simp [lasts]

theorem Scene.Over.waited (ended : s.Over sent e) (time : Nat) : (s.waited time).Over sent e :=
  ⟨ended.1, ended.2.1, ended.2.2.trans (Nat.le_max_left _ _)⟩

theorem signal_lasting {now : Nat} {course : Option Ending} (alive : lasts course now = true)
    (sent : List (Nat × Signal)) (sig : Signal) (next : Option Ending) :
    Scene.signal ⟨now, course, sent⟩ sig next = ⟨now, next, sent ++ [(now, sig)]⟩ := by
  simp [Scene.signal, alive]

theorem keeps_terminate {k : Nat} (apart : (Behaviour.launched own onTerm).Apart grace cancel)
    (cancelled : cancel = some k) (alive : lasts own k = true) :
    ((Behaviour.launched own onTerm).world cancel).Keeps (fun _ => True) (terminate grace)
      (fun status s => ∃ sent e, Course grace cancel own onTerm sent e ∧ s.Over sent e ∧
        status = e.status) ⟨k, own, []⟩ := by
  refine ⟨trivial, fun _ s answered => ⟨trivial, ?_⟩⟩
  obtain rfl : s = ⟨k, onTerm.course own k, [(k, .term)]⟩ :=
    answered.trans (signal_lasting alive [] .term _)
  refine ⟨trivial, fun (x : Option Status) s answered => ⟨trivial, ?_⟩⟩
  cases x with
  | some status =>
    obtain ⟨e, ends, inTime, rfl, rfl⟩ := answered
    have before : e.time < k + grace.nanos :=
      lt_of_le_of_ne inTime ((apart k cancelled).2 alive e ends)
    exact ⟨_, e, .terminated cancelled alive ends before, ⟨rfl, ends, Nat.le_max_right _ _⟩, rfl⟩
  | none =>
    obtain ⟨waited, rfl⟩ := answered
    have late : lasts (onTerm.course own k) (k + grace.nanos) = true :=
      lasts_iff.2 fun e ends =>
        lt_of_le_of_ne (waited e ends) ((apart k cancelled).2 alive e ends).symm
    have clock : Scene.waited ⟨k, onTerm.course own k, [(k, .term)]⟩ (k + grace.nanos) =
        ⟨k + grace.nanos, onTerm.course own k, [(k, .term)]⟩ := by
      simp [Scene.waited]
    rw [clock]
    refine ⟨trivial, fun _ s answered => ⟨trivial, ?_⟩⟩
    obtain rfl : s = ⟨k + grace.nanos, some ⟨k + grace.nanos, none⟩,
        [(k, .term), (k + grace.nanos, .kill)]⟩ := answered.trans (signal_lasting late _ .kill _)
    refine ⟨trivial, fun (x : Status) s answered => ⟨trivial, ?_⟩⟩
    obtain ⟨e, ends, rfl, rfl⟩ := answered
    obtain rfl := Option.some.inj ends
    exact ⟨_, _, .killed cancelled alive late, ⟨rfl, rfl, Nat.le_max_right _ _⟩, rfl⟩

theorem keeps_finish (apart : (Behaviour.launched own onTerm).Apart grace cancel) :
    ((Behaviour.launched own onTerm).world cancel).Keeps (fun _ => True) (finish grace)
      (fun status s => ∃ sent e, Course grace cancel own onTerm sent e ∧ s.Over sent e ∧
        status = e.status) ⟨0, own, []⟩ := by
  refine ⟨trivial, fun (x : Option Status) s answered => ⟨trivial, ?_⟩⟩
  cases x with
  | some status =>
    obtain ⟨e, ends, first, rfl, rfl⟩ := answered
    have before (k : Nat) (cancelled : cancel = some k) : e.time < k :=
      lt_of_le_of_ne (first k cancelled) ((apart k cancelled).1 e ends)
    exact ⟨_, e, .spared ends before, ⟨rfl, ends, Nat.le_max_right _ _⟩, rfl⟩
  | none =>
    obtain ⟨k, cancelled, first, rfl⟩ := answered
    have alive : lasts own k = true := lasts_iff.2 fun e ends =>
      lt_of_le_of_ne (first e ends) ((apart k cancelled).1 e ends).symm
    have clock : Scene.waited ⟨0, own, []⟩ k = ⟨k, own, []⟩ := by
      simp [Scene.waited]
    rw [clock]
    exact keeps_terminate apart cancelled alive

theorem keeps_supervise (apart : (Behaviour.launched own onTerm).Apart settings.grace cancel) :
    ((Behaviour.launched own onTerm).world cancel).Keeps (fun _ => True) (supervise settings c)
      (fun r s => r.case = c ∧ ∃ sent e, Course settings.grace cancel own onTerm sent e ∧
        s.Over sent e ∧ r.code = e.status) {} := by
  refine ⟨trivial, fun (x : Except SystemError Unit) s answered => ⟨trivial, ?_⟩⟩
  obtain ⟨rfl, rfl⟩ := answered
  refine World.Keeps.bind (p := finish settings.grace) (keeps_finish apart) fun status s ended => ?_
  obtain ⟨sent, e, course, ended, rfl⟩ := ended
  refine ⟨trivial, fun _ s₁ out => ⟨trivial, trivial, fun _ s₂ err => ⟨trivial, trivial,
    fun (chunks : List Chunk) s₃ read => ⟨trivial, rfl, sent, e, course, ?_, rfl⟩⟩⟩⟩
  obtain ⟨time, -, rfl⟩ := out
  obtain ⟨time', -, rfl⟩ := err
  obtain rfl : s₃ = _ := read
  exact (ended.waited time).waited time'

theorem exists_first (settles : own.isSome ∨ cancel.isSome) :
    (∃ e, own = some e ∧ ∀ k, cancel = some k → e.time ≤ k) ∨
      ∃ k, cancel = some k ∧ ∀ e, own = some e → k ≤ e.time := by
  cases own with
  | none =>
    obtain ⟨k, cancelled⟩ := Option.isSome_iff_exists.1 (settles.resolve_left nofun)
    exact .inr ⟨k, cancelled, nofun⟩
  | some e =>
    cases cancel with
    | none => exact .inl ⟨e, rfl, nofun⟩
    | some k => simpa using le_total e.time k

theorem exists_course_signal (s : Scene) (sig : Signal) (e : Ending) :
    ∃ e', (s.signal sig (some e)).course = some e' := by
  simp only [Scene.signal]
  split
  · exact ⟨e, rfl⟩
  · rename_i gone
    have some : s.course.isSome := by
      cases found : s.course with
      | none => simp [found, lasts] at gone
      | some e' => rfl
    exact Option.isSome_iff_exists.1 some

theorem serves_terminate (s : Scene) : (b.world cancel).Serves (terminate grace) s := by
  refine ⟨⟨(), _, rfl⟩, fun _ s _ => ⟨?_, fun (x : Option Status) s₁ _ => ?_⟩⟩
  · cases found : s.course with
    | none => exact ⟨none, _, by rw [found]; exact nofun, rfl⟩
    | some e =>
      obtain early | late := le_total e.time (s.now + grace.nanos)
      · exact ⟨some e.status, _, e, found, early, rfl, rfl⟩
      · exact ⟨none, _, by rw [found]; rintro _ ⟨⟩; exact late, rfl⟩
  · cases x with
    | some status => trivial
    | none =>
      refine ⟨⟨(), _, rfl⟩, fun _ s₂ killed => ⟨?_, fun _ _ _ => trivial⟩⟩
      obtain ⟨e, ends⟩ := exists_course_signal s₁ .kill ⟨s₁.now, none⟩
      exact ⟨e.status, _, e, killed ▸ ends, rfl, rfl⟩

theorem serves_finish (settles : own.isSome ∨ cancel.isSome) (ends : s.course = own) :
    (b.world cancel).Serves (finish grace) s := by
  subst ends
  refine ⟨?_, fun (x : Option Status) s' _ => ?_⟩
  · obtain ⟨e, ends, first⟩ | ⟨k, cancelled, first⟩ := exists_first settles
    · exact ⟨some e.status, _, e, ends, first, rfl, rfl⟩
    · exact ⟨none, _, k, cancelled, first, rfl⟩
  · cases x with
    | some status => trivial
    | none => exact serves_terminate s'

theorem serves_supervise (settles : b.Settles cancel) :
    (b.world cancel).Serves (supervise settings c) {} := by
  cases b with
  | unlaunched cause =>
    refine ⟨⟨.error cause, _, rfl, rfl⟩, fun (x : Except SystemError Unit) s answered => ?_⟩
    obtain ⟨rfl, -⟩ := answered
    trivial
  | launched own onTerm =>
    refine ⟨⟨.ok (), _, rfl, rfl⟩, fun (x : Except SystemError Unit) s answered => ?_⟩
    obtain ⟨rfl, rfl⟩ := answered
    refine World.Serves.bind (p := finish settings.grace) (serves_finish settles rfl)
      fun status s => ?_
    exact ⟨⟨(), _, 0, Nat.zero_le _, rfl⟩, fun _ s _ => ⟨⟨(), _, 0, Nat.zero_le _, rfl⟩, fun _ s _ =>
      ⟨⟨[], s, rfl⟩, fun _ _ _ => trivial⟩⟩⟩

theorem keeps_unlaunched (cause : SystemError) :
    ((Behaviour.unlaunched cause).world cancel).Keeps (fun _ => True) (supervise settings c)
      (fun r s => r.case = c ∧ s.sent = [] ∧ r.code = none) {} := by
  refine ⟨trivial, fun (x : Except SystemError Unit) s answered => ⟨trivial, ?_⟩⟩
  obtain ⟨rfl, rfl⟩ := answered
  exact ⟨rfl, rfl, rfl⟩

theorem Course.spared_of_ended (course : Course grace cancel own onTerm sent e)
    (ended : ∀ k, cancel = some k → lasts own k = false) : sent = [] ∧ some e = own := by
  cases course with
  | spared ends first => exact ⟨rfl, ends.symm⟩
  | terminated cancelled alive => simp [ended _ cancelled] at alive
  | killed cancelled alive => simp [ended _ cancelled] at alive

theorem Course.asked_of_lasting {k : Nat} (course : Course grace cancel own onTerm sent e)
    (cancelled : cancel = some k) (alive : lasts own k = true) :
    (lasts (onTerm.course own k) (k + grace.nanos) = false →
      sent = [(k, .term)] ∧ some e = onTerm.course own k) ∧
    (lasts (onTerm.course own k) (k + grace.nanos) = true →
      sent = [(k, .term), (k + grace.nanos, .kill)] ∧ e = ⟨k + grace.nanos, none⟩) := by
  cases course with
  | spared ends first =>
    have late := lasts_iff.1 alive e ends
    have early := first k cancelled
    omega
  | terminated cancelled' _ ends inTime =>
    obtain rfl := Option.some.inj (cancelled.symm.trans cancelled')
    refine ⟨fun _ => ⟨rfl, ends.symm⟩, fun lasting => ?_⟩
    have late := lasts_iff.1 lasting e ends
    omega
  | killed cancelled' _ late =>
    obtain rfl := Option.some.inj (cancelled.symm.trans cancelled')
    refine ⟨fun gone => ?_, fun _ => ⟨rfl, rfl⟩⟩
    rw [late] at gone
    cases gone

end Runs

/-- Where no two moments fall together that a wait looks for, a worker that comes to an end or is
interrupted is supervised to one result, that of its own case. A worker that was not started, or has
ended before the interrupt, is sent no signal. Any other is asked to terminate once, when the
interrupt comes, and killed exactly if it is still there a full grace later. In any case its process
has ended when there is a result, and the code is the one it ended with, none if a signal ended it;
so one that was killed has not passed. -/
theorem signals_follow_interrupt (settings : Settings) (c : Case) (b : Behaviour)
    (cancel : Option Nat) (apart : b.Apart settings.grace cancel) :
    (b.Settles cancel → ∀ t p s, (b.world cancel).Steps (supervise settings c) {} t p s →
      ∃ t' r s', (b.world cancel).Runs p s t' r s') ∧
    ∀ t r s, (b.world cancel).Runs (supervise settings c) {} t r s → r.case = c ∧
      match b with
      | .unlaunched _ => s.sent = [] ∧ r.code = none
      | .launched own onTerm =>
        ((∀ k, cancel = some k → lasts own k = false) → s.sent = [] ∧ s.course = own) ∧
        (∀ k, cancel = some k → lasts own k = true →
          (lasts (onTerm.course own k) (k + settings.grace.nanos) = false →
            s.sent = [(k, .term)] ∧ s.course = onTerm.course own k) ∧
          (lasts (onTerm.course own k) (k + settings.grace.nanos) = true →
            s.sent = [(k, .term), (k + settings.grace.nanos, .kill)] ∧
            s.course = some ⟨k + settings.grace.nanos, none⟩ ∧ r.code = none ∧
            r.passed = false)) ∧
        ∃ e, s.course = some e ∧ e.time ≤ s.now ∧ r.code = e.status := by
  refine ⟨fun settles t p s path => ((serves_supervise settles).steps path).exists_run,
    fun t r s run => ?_⟩
  cases b with
  | unlaunched cause => exact (keeps_unlaunched cause).runs run
  | launched own onTerm =>
    obtain ⟨same, sent, e, course, ⟨rfl, ends, past⟩, code⟩ := (keeps_supervise apart).runs run
    rw [ends]
    refine ⟨same, course.spared_of_ended, fun k cancelled alive => ?_, e, rfl, past, code⟩
    obtain ⟨obliged, overdue⟩ := course.asked_of_lasting cancelled alive
    refine ⟨obliged, fun lasting => ?_⟩
    obtain ⟨signals, rfl⟩ := overdue lasting
    exact ⟨signals, rfl, code, by simp [Host.Result.passed, code]⟩

def stubborn : Behaviour := .launched (some ⟨9000000000, some 0⟩) .ignores

theorem signals_follow_interrupt_stubborn : ∃ t r s,
    (stubborn.world (some 1000000000)).Runs (supervise {} ⟨"flow", "slow"⟩) {} t r s ∧
    s.sent = [(1000000000, .term), (6000000000, .kill)] ∧ r.code = none ∧ r.passed = false := by
  have apart : stubborn.Apart (.ofSecs 5) (some 1000000000) := by
    rintro k ⟨⟩
    constructor
    · rintro e ⟨⟩
      decide
    · rintro - e ⟨⟩
      decide
  obtain ⟨comes, settled⟩ :=
    signals_follow_interrupt {} ⟨"flow", "slow"⟩ stubborn (some 1000000000) apart
  obtain ⟨t, r, s, run⟩ := comes (.inl rfl) [] _ _ (.refl _ _)
  obtain ⟨-, -, asked, -⟩ := settled t r s run
  obtain ⟨signals, -, code, failed⟩ := (asked 1000000000 rfl (by decide)).2 (by decide)
  exact ⟨t, r, s, run, signals, code, failed⟩

end TestRig.Suite.Worker
