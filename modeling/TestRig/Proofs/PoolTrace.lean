import Mathlib.Tactic
import TestRig.Proofs.PoolLedger

/-!
A pool's run as its trace tells it: the launches and the results in it, and whether the interrupt was
found. The loop's state is what the events so far make of the first one, and what a report says is
then said of the trace.
-/

namespace TestRig.Suite.Pool

open Host (Routine Result)
open scoped List

abbrev Trace := List (Event Host.interface)

def launch? : Event Host.interface → Option (Nat × Case)
  | ⟨.launch position c, _⟩ => some (position, c)
  | _ => none

def receipt? : Event Host.interface → Option (Nat × Result)
  | ⟨.completion true, event⟩ => event
  | ⟨.completion false, event⟩ => some event
  | _ => none

def call? : Event Host.interface → Option Engine.Call
  | ⟨.engine call, _⟩ => some call
  | _ => none

def findsInterrupt : Event Host.interface → Bool
  | ⟨.cancelRequested, requested⟩ => requested
  | ⟨.interrupted, cut⟩ => cut
  | ⟨.completion true, event⟩ => Option.isNone event
  | _ => false

def launches (t : Trace) : List (Nat × Case) := t.filterMap launch?

def receipts (t : Trace) : List (Nat × Result) := t.filterMap receipt?

def calls (t : Trace) : List Engine.Call := t.filterMap call?

/-- Somewhere in the trace the interrupt is found. -/
def Seen (t : Trace) : Prop := ∃ e ∈ t, findsInterrupt e = true

@[simp] theorem launches_nil : launches [] = [] := rfl

@[simp] theorem receipts_nil : receipts [] = [] := rfl

theorem launches_cons (e : Event Host.interface) (t : Trace) :
    launches (e :: t) = (launch? e).toList ++ launches t := by
  cases found : launch? e <;> simp [launches, found]

theorem receipts_cons (e : Event Host.interface) (t : Trace) :
    receipts (e :: t) = (receipt? e).toList ++ receipts t := by
  cases found : receipt? e <;> simp [receipts, found]

@[simp] theorem launches_append (t t' : Trace) : launches (t ++ t') = launches t ++ launches t' :=
  List.filterMap_append

@[simp] theorem receipts_append (t t' : Trace) : receipts (t ++ t') = receipts t ++ receipts t' :=
  List.filterMap_append

@[simp] theorem calls_append (t t' : Trace) : calls (t ++ t') = calls t ++ calls t' :=
  List.filterMap_append

@[simp] theorem not_seen_nil : ¬ Seen [] := by
  simp [Seen]

@[simp] theorem seen_cons (e : Event Host.interface) (t : Trace) :
    Seen (e :: t) ↔ findsInterrupt e = true ∨ Seen t := by
  simp [Seen]

@[simp] theorem seen_append (t t' : Trace) : Seen (t ++ t') ↔ Seen t ∨ Seen t' := by
  simp [Seen, or_and_right, exists_or]

namespace State

def heard (s : State) (e : Event Host.interface) : State :=
  if findsInterrupt e then s.interrupt
  else match receipt? e with
    | some event => s.received event.1 event.2
    | none => if (launch? e).isSome then s.launched s.pending.tail else s

theorem interrupted_heard (s : State) (e : Event Host.interface) :
    (s.heard e).interrupted = true ↔ s.interrupted = true ∨ findsInterrupt e = true := by
  unfold heard
  split
  · simp [interrupt, *]
  · split
    · simp [received, *]
    · split <;> simp [launched, *]

theorem heard_launch (s : State) (position : Nat) (c : Case)
    (x : (Host.Ask.launch position c).Answer) :
    s.heard ⟨.launch position c, x⟩ = s.launched s.pending.tail := rfl

theorem interrupted_foldl (s : State) (t : Trace) :
    (t.foldl heard s).interrupted = true ↔ s.interrupted = true ∨ Seen t := by
  induction t generalizing s with
  | nil => simp
  | cons e t ih => rw [List.foldl_cons, ih, interrupted_heard, seen_cons, or_assoc]

end State

section Loop

variable {limit : Nat} {settings : Settings} {s : State} {q : Host.Ask}
  {next : q.Answer → Routine Report}

theorem stands_turn_heard (x : q.Answer) (left : turn limit settings s = .ask q next) :
    Stands limit settings (next x) (s.heard ⟨q, x⟩) := by
  by_cases idle : s.inFlight = 0
  · rw [turn_idle idle] at left
    cases left
  cases running : s.interrupted with
  | false =>
    rw [turn_watching idle running] at left
    cases left
    cases x with
    | none => exact .head _
    | some event => exact .echoing (asks_echoed _ _)
  | true =>
    rw [turn_waiting idle running] at left
    cases left
    exact .echoing (asks_echoed _ _)

theorem stands_head_heard (x : q.Answer) (left : rounds limit settings s = .ask q next) :
    Stands limit settings (next x) (s.heard ⟨q, x⟩) := by
  rw [rounds_eq] at left
  by_cases filled : s.interrupted = true ∨ limit ≤ s.inFlight
  · rw [if_pos filled] at left
    exact stands_turn_heard x left
  · rw [if_neg filled] at left
    cases left
    simp only [not_or, Bool.not_eq_true, not_le] at filled
    cases x with
    | true => exact .turning (.inl rfl)
    | false => exact stands_check filled.1 filled.2

theorem Stands.heard {p : Routine Report} (stands : Stands limit settings p s) (x : q.Answer)
    (left : p = .ask q next) : Stands limit settings (next x) (s.heard ⟨q, x⟩) := by
  cases stands with
  | head => exact stands_head_heard x left
  | turning => exact stands_turn_heard x left
  | launching running free pending =>
    cases left
    have launched := State.heard_launch s _ _ x
    rw [pending, List.tail_cons] at launched
    exact launched ▸ .head _
  | @echoing _ r shows =>
    cases r with
    | done _ => exact stands_head_heard x left
    | ask q' next' =>
      cases left
      cases q with
      | say channel text => exact .echoing (shows.2 x)
      | _ => exact shows.1.elim

theorem turn_asks (left : turn limit settings s = .ask q next) :
    ∃ watching, q = .completion watching := by
  by_cases idle : s.inFlight = 0
  · rw [turn_idle idle] at left
    cases left
  · cases running : s.interrupted with
    | false =>
      rw [turn_watching idle running] at left
      cases left
      exact ⟨true, rfl⟩
    | true =>
      rw [turn_waiting idle running] at left
      cases left
      exact ⟨false, rfl⟩

theorem rounds_asks (left : rounds limit settings s = .ask q next) :
    q = .cancelRequested ∨ ∃ watching, q = .completion watching := by
  rw [rounds_eq] at left
  split at left
  · exact .inr (turn_asks left)
  · cases left
    exact .inl rfl

theorem Stands.launch {position : Nat} {c : Case} {next : Unit → Routine Report}
    {p : Routine Report} (stands : Stands limit settings p s)
    (left : p = Program.ask (I := Host.interface) (.launch position c) next) :
    s.interrupted = false ∧ s.pending = (position, c) :: s.pending.tail := by
  cases stands with
  | head => obtain other | ⟨_, other⟩ := rounds_asks left <;> cases other
  | turning => obtain ⟨_, ⟨⟩⟩ := turn_asks left
  | launching running free pending =>
    cases left
    rw [pending]
    exact ⟨running, rfl⟩
  | @echoing _ r shows =>
    cases r with
    | done _ => obtain other | ⟨_, other⟩ := rounds_asks left <;> cases other
    | ask q' next' =>
      cases left
      exact shows.1.elim

def Crews : Host.Ask → Prop
  | .launch _ _ => True
  | .completion _ => True
  | .cancelRequested => True
  | .say _ _ => True
  | _ => False

theorem crews_rounds (left : rounds limit settings s = .ask q next) : Crews q := by
  obtain rfl | ⟨watching, rfl⟩ := rounds_asks left <;> trivial

theorem Stands.crews {p : Routine Report} (stands : Stands limit settings p s)
    (left : p = .ask q next) : Crews q := by
  cases stands with
  | head => exact crews_rounds left
  | turning =>
    obtain ⟨watching, rfl⟩ := turn_asks left
    trivial
  | launching =>
    cases left
    trivial
  | @echoing _ r shows =>
    cases r with
    | done _ => exact crews_rounds left
    | ask q' next' =>
      cases left
      cases q with
      | say channel text => trivial
      | _ => exact shows.1.elim

variable {σ : Type} {world : World Host.interface σ} {w w' : σ} {p p' : Routine Report} {t : Trace}

theorem Stands.foldl (stands : Stands limit settings p s) (path : world.Steps p w t p' w') :
    Stands limit settings p' (t.foldl State.heard s) := by
  induction path generalizing s with
  | refl => exact stands
  | ask answered rest ih => exact ih (stands.heard _ rfl)

theorem Stands.asked (stands : Stands limit settings p s) (path : world.Steps p w t p' w') :
    ∀ e ∈ t, Crews e.question := by
  induction path generalizing s with
  | refl => exact List.forall_mem_nil _
  | ask answered rest ih =>
    exact List.forall_mem_cons.2 ⟨stands.crews rfl, ih (stands.heard _ rfl)⟩

theorem Stands.calls (stands : Stands limit settings p s) (path : world.Steps p w t p' w') :
    Pool.calls t = [] := by
  refine List.filterMap_eq_nil_iff.2 ?_
  rintro ⟨q, x⟩ among
  have crews := stands.asked path _ among
  cases q with
  | engine call => exact crews.elim
  | _ => rfl

theorem Stands.unseen {t₁ t₂ : Trace} {e : Event Host.interface} (stands : Stands limit settings p s)
    (path : world.Steps p w (t₁ ++ e :: t₂) p' w') (launched : (launch? e).isSome) : ¬ Seen t₁ := by
  obtain ⟨r, u, before, after⟩ := World.steps_append.1 path
  cases after with
  | @ask q next _ _ _ x _ _ answered rest =>
    cases q with
    | launch position c =>
      have running := ((stands.foldl before).launch rfl).1
      intro seen
      have interrupted := (State.interrupted_foldl s t₁).2 (.inr seen)
      rw [running] at interrupted
      cases interrupted
    | completion watching => cases watching <;> cases launched
    | _ => cases launched

end Loop

namespace Workers

def since (earlier w : Workers) : Workers :=
  { w with launched := earlier.launched ++ w.launched, received := earlier.received ++ w.received }

variable {worker : Worker.Settings} {earlier w w' : Workers} {q : Host.Ask} {x : q.Answer}

theorem HandsIn.since {event : Nat × Result} (hands : HandsIn worker (earlier.since w) event w') :
    ∃ v, w' = earlier.since v ∧ HandsIn worker w event v := by
  obtain ⟨c, out, ends, rfl⟩ := hands
  exact ⟨w.receive c event, by simp [Workers.since, receive], c, out, ends, rfl⟩

theorem answers_since (answered : (world worker).Answers q (earlier.since w) x w') :
    ∃ v, w' = earlier.since v ∧ (world worker).Answers q w x v := by
  cases q with
  | cancelRequested => exact ⟨{ w with requested := x }, answered.2, answered.1, rfl⟩
  | launch position c =>
    refine ⟨w.launch position c, ?_, rfl⟩
    rw [show w' = (earlier.since w).launch position c from answered]
    simp [since, launch]
  | completion watching =>
    cases watching with
    | false => exact HandsIn.since answered
    | true =>
      cases x with
      | none => exact ⟨{ w with requested := true }, answered, rfl⟩
      | some event => exact HandsIn.since answered
  | _ => exact ⟨w, answered, rfl⟩

theorem steps_since {α : Type} {p p' : Routine α} {t : Trace}
    (path : (world worker).Steps p (earlier.since w) t p' w') :
    ∃ v, w' = earlier.since v ∧ (world worker).Steps p w t p' v := by
  generalize start : earlier.since w = u at path
  induction path generalizing w with
  | refl => exact ⟨w, start.symm, .refl _ _⟩
  | ask answered rest ih =>
    subst start
    obtain ⟨u, rfl, onward⟩ := answers_since answered
    obtain ⟨v, ended, path⟩ := ih rfl
    exact ⟨v, ended, .ask onward path⟩

theorem history_of_answers (answered : (world worker).Answers q w x w') :
    w'.launched = w.launched ++ (launch? ⟨q, x⟩).toList ∧
      w'.received = w.received ++ (receipt? ⟨q, x⟩).toList := by
  have same (l : List (Nat × Case)) : l = l ++ none.toList := (List.append_nil l).symm
  have same' (l : List (Nat × Result)) : l = l ++ none.toList := (List.append_nil l).symm
  cases q with
  | cancelRequested =>
    obtain rfl : w' = { w with requested := x } := answered.2
    exact ⟨same _, same' _⟩
  | launch position c =>
    obtain rfl : w' = w.launch position c := answered
    exact ⟨rfl, same' _⟩
  | completion watching =>
    cases watching with
    | false =>
      obtain ⟨c, -, -, rfl⟩ := answered
      exact ⟨same _, rfl⟩
    | true =>
      cases x with
      | none =>
        obtain rfl : w' = { w with requested := true } := answered
        exact ⟨same _, same' _⟩
      | some event =>
        obtain ⟨c, -, -, rfl⟩ := answered
        exact ⟨same _, rfl⟩
  | _ =>
    obtain rfl : w' = w := answered
    exact ⟨same _, same' _⟩

theorem history {α : Type} {p p' : Routine α} {t : Trace} (path : (world worker).Steps p w t p' w') :
    w'.launched = w.launched ++ launches t ∧ w'.received = w.received ++ receipts t := by
  induction path with
  | refl => simp
  | ask answered rest ih =>
    obtain ⟨launched, received⟩ := history_of_answers answered
    rw [ih.1, ih.2, launched, received, launches_cons, receipts_cons]
    simp only [List.append_assoc, and_self]

end Workers

/-- What a report says of the run that its trace tells. -/
structure Account (cases : List Case) (t : Trace) (report : Report) : Prop where
  seen : report.interrupted = true ↔ Seen t
  results : report.results = (receipts t).map Prod.snd
  inOrder : report.inOrder = scheduled (receipts t)
  summary : report.summary = .ofResults report.inOrder
  order : launches t <+: (State.ofCases cases).pending
  complete : report.interrupted = false → launches t = (State.ofCases cases).pending
  reported : ((receipts t).map Workers.ticket).Perm (launches t)
  unseen : ∀ t₁ e t₂, t = t₁ ++ e :: t₂ → (launch? e).isSome → ¬ Seen t₁
  calls : calls t = []

theorem allPassed_ofResults (results : List Result) :
    (Summary.ofResults results).allPassed = true ↔ ∀ r ∈ results, r.code = some 0 := by
  simp [Summary.ofResults, Summary.allPassed, Result.passed]

theorem scheduled_perm (completed : List (Nat × Result)) :
    scheduled completed ~ completed.map Prod.snd :=
  (List.mergeSort_perm _ _).map _

theorem Account.allPassed {cases : List Case} {t : Trace} {report : Report}
    (account : Account cases t report) :
    report.summary.allPassed = true ↔ ∀ event ∈ receipts t, event.2.code = some 0 := by
  rw [account.summary, account.inOrder, allPassed_ofResults]
  simp only [(scheduled_perm _).mem_iff, List.forall_mem_map]

theorem prefix_ofCases {cases : List Case} {l : List (Nat × Case)}
    (first : l <+: (State.ofCases cases).pending) :
    l = (State.ofCases (l.map Prod.snd)).pending ∧ l.map Prod.snd <+: cases := by
  have listed := first.map Prod.snd
  rw [cases_ofCases] at listed
  have numbered := first.map Prod.fst
  rw [positions_ofCases, List.prefix_iff_eq_take, List.length_map, List.take_range,
    Nat.min_eq_left (by simpa using listed.length_le)] at numbered
  have whole := List.zip_of_prod (positions_ofCases (l.map Prod.snd)) (cases_ofCases (l.map Prod.snd))
  rw [List.length_map, ← List.zip_of_prod numbered rfl] at whole
  exact ⟨whole.symm, listed⟩

theorem account {worker : Worker.Settings} {settings : Settings} {cases : List Case} {limit : Nat}
    {t : Trace} {w w' : Workers} {report : Report}
    (path : (Workers.world worker).Runs (runAll settings cases limit) w t report w')
    (idle : w.out = []) : Account cases t report ∧ w'.out = [] := by
  have stands : Stands (max limit 1) settings (runAll settings cases limit) (.ofCases cases) :=
    .head _
  obtain ⟨-, -, ended⟩ := stands_done (stands.foldl path) rfl
  have alone : w = w.since ⟨w.requested, [], [], []⟩ := by
    obtain ⟨requested, out, launched, received⟩ := w
    obtain rfl : out = [] := idle
    simp [Workers.since]
  rw [alone] at path
  obtain ⟨v, rfl, fresh⟩ := Workers.steps_since path
  obtain ⟨launched, received⟩ := Workers.history fresh
  obtain ⟨s, standing, ledger⟩ := kept_of_steps fresh
  obtain ⟨filled, nobody, same⟩ := stands_done standing rfl
  rw [List.nil_append] at launched received
  have order := ledger.order
  rw [launched] at order
  have accounts := ledger.accounts
  rw [ledger.nobody_out nobody, List.nil_append, launched, received] at accounts
  refine ⟨⟨?_, ?_, ?_, ?_, ⟨_, order⟩, fun running => ?_, accounts.symm, ?_,
    stands.calls path⟩, ledger.nobody_out nobody⟩
  · rw [ended]
    exact (State.interrupted_foldl _ _).trans (by simp [State.ofCases])
  · rw [same, State.report, ledger.completed, received]
  · rw [same, State.report, ledger.completed, received]
  · rw [same, State.report]
  · obtain rfl := same
    change s.interrupted = false at running
    have pending : s.pending = [] :=
      (filled.resolve_left (by simp [running])).resolve_left (by omega)
    rw [← order, pending, List.append_nil]
  · rintro t₁ e t₂ rfl
    exact stands.unseen path

end TestRig.Suite.Pool
