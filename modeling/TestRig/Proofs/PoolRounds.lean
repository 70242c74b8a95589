import Mathlib.Tactic
import TestRig.Suite.Pool
import TestRig.Proofs.World

/-!
The pool's loop as a flow between three points: the head of a round, the look for an interrupt, and
the turn from filling to waiting. What is left of a run is one of these, the launch of one case, or
the echo of one result, and each goes with one state of the loop.
-/

namespace TestRig.Suite.Pool

open Host (Routine Result)

variable (limit : Nat) (settings : Settings)

def turn (s : State) : Routine Report :=
  if h : s.inFlight = 0 then pure s.report
  else await s settings h >>= fun u => rounds limit settings u.val

def check (s : State) (requested : Bool) : Routine Report :=
  if requested then turn limit settings s.interrupt
  else match s.pending with
    | [] => turn limit settings s
    | (position, c) :: rest =>
      Host.launch position c >>= fun _ => rounds limit settings (s.launched rest)

theorem rounds_eq (s : State) : rounds limit settings s =
    if s.interrupted = true ∨ limit ≤ s.inFlight then turn limit settings s
    else Host.cancelRequested >>= check limit settings s := by
  rw [rounds, fill]
  by_cases filled : s.interrupted = true ∨ limit ≤ s.inFlight
  · rw [if_pos filled, if_pos filled, pure_bind]
    rfl
  · rw [if_neg filled, if_neg filled, bind_assoc]
    refine bind_congr fun (requested : Bool) => ?_
    cases requested with
    | true => rfl
    | false =>
      simp only [check, Bool.false_eq_true, if_false]
      split
      · rename_i none
        rw [none]
        rfl
      · rename_i position c rest next
        simp only [next, bind_assoc, pure_bind]
        refine bind_congr fun _ => ?_
        rw [rounds]

variable {limit : Nat} {settings : Settings} {s : State}

theorem turn_idle (idle : s.inFlight = 0) : turn limit settings s = .done s.report := by
  rw [turn, dif_pos idle]
  rfl

theorem turn_watching (busy : s.inFlight ≠ 0) (watching : s.interrupted = false) :
    turn limit settings s = Program.ask (I := Host.interface) (.completion true)
      fun (event : Option (Nat × Result)) => match event with
        | none => rounds limit settings s.interrupt
        | some (position, r) =>
          settings.echoed r >>= fun _ => rounds limit settings (s.received position r) := by
  rw [turn, dif_neg busy, await, dif_pos watching]
  refine congrArg (Program.ask _) (funext fun (event : Option (Nat × Result)) => ?_)
  match event with
  | none => rfl
  | some (position, r) =>
    have onward := bind_assoc (settings.echoed r)
      (fun _ => pure (⟨s.received position r, State.left_received busy position r⟩ :
        { t : State // t.left < s.left })) fun u => rounds limit settings u.val
    exact onward

theorem turn_waiting (busy : s.inFlight ≠ 0) (interrupted : s.interrupted = true) :
    turn limit settings s = Program.ask (I := Host.interface) (.completion false)
      fun (event : Nat × Result) => settings.echoed event.2 >>= fun _ =>
        rounds limit settings (s.received event.1 event.2) := by
  rw [turn, dif_neg busy, await, dif_neg (by simp [interrupted])]
  refine congrArg (Program.ask _) (funext fun (event : Nat × Result) => ?_)
  have onward := bind_assoc (settings.echoed event.2)
    (fun _ => pure (⟨s.received event.1 event.2, State.left_received busy event.1 event.2⟩ :
      { t : State // t.left < s.left })) fun u => rounds limit settings u.val
  exact onward

def Shows : Host.Ask → Prop
  | .say _ _ => True
  | _ => False

theorem asks_say (channel : Host.Channel) (text : String) :
    Program.Asks Shows (Host.say channel text) :=
  Program.asks_query trivial

theorem asks_showBlock (styled : Bool) (r : Result) : Program.Asks Shows (showBlock styled r) := by
  unfold showBlock
  generalize Output.filter r.output = text
  refine Program.asks_bind (asks_say _ _) fun _ => ?_
  dsimp only
  split
  · exact Program.asks_bind (asks_say _ _) fun _ => asks_say _ _
  · exact asks_say _ _

theorem asks_echoed (settings : Settings) (r : Result) :
    Program.Asks Shows (settings.echoed r) := by
  unfold Settings.echoed
  split
  · exact asks_showBlock settings.styled r
  · trivial

def Filled (limit : Nat) (s : State) : Prop :=
  s.interrupted = true ∨ limit ≤ s.inFlight ∨ s.pending = []

/-- What is left of a run goes with this state of its loop. -/
inductive Stands (limit : Nat) (settings : Settings) : Routine Report → State → Prop
  | head (s : State) : Stands limit settings (rounds limit settings s) s
  | turning {s : State} (filled : Filled limit s) : Stands limit settings (turn limit settings s) s
  | launching {s : State} {position : Nat} {c : Case} {rest : List (Nat × Case)}
      (running : s.interrupted = false) (room : s.inFlight < limit)
      (next : s.pending = (position, c) :: rest) : Stands limit settings
        (Host.launch position c >>= fun _ => rounds limit settings (s.launched rest)) s
  | echoing {s : State} {r : Routine Unit} (shows : Program.Asks Shows r) :
      Stands limit settings (r >>= fun _ => rounds limit settings s) s

def Quiet : Host.Ask → Prop
  | .launch _ _ => False
  | _ => True

theorem quiet_of_shows (q : Host.Ask) (shows : Shows q) : Quiet q := by
  cases q
  case say => trivial
  all_goals exact shows.elim

theorem asks_rounds_interrupted (interrupted : s.interrupted = true) :
    Program.Asks Quiet (rounds limit settings s) := by
  -- on what is left to happen: nothing is filled any more, and each wait takes one worker in
  induction left : s.left using Nat.strong_induction_on generalizing s with
  | _ n ih =>
    subst left
    rw [rounds_eq, if_pos (.inl interrupted)]
    by_cases idle : s.inFlight = 0
    · rw [turn_idle idle]
      trivial
    · rw [turn_waiting idle interrupted]
      refine ⟨trivial, fun (event : Nat × Result) => ?_⟩
      have shown := Program.asks_mono quiet_of_shows (asks_echoed settings event.2)
      exact Program.asks_bind shown fun _ =>
        ih _ (State.left_received idle event.1 event.2) interrupted rfl

theorem asks_turn_interrupted (interrupted : s.interrupted = true) :
    Program.Asks Quiet (turn limit settings s) := by
  have rest : Program.Asks Quiet (rounds limit settings s) := asks_rounds_interrupted interrupted
  rw [rounds_eq, if_pos (.inl interrupted)] at rest
  exact rest

theorem turn_ne_look (next : Bool → Routine Report) :
    turn limit settings s ≠ Program.ask (I := Host.interface) .cancelRequested next := by
  by_cases idle : s.inFlight = 0
  · rw [turn_idle idle]
    exact nofun
  · cases running : s.interrupted with
    | false =>
      rw [turn_watching idle running]
      exact nofun
    | true =>
      rw [turn_waiting idle running]
      exact nofun

theorem asks_head_seen {next : Bool → Routine Report}
    (left : rounds limit settings s = Program.ask (I := Host.interface) .cancelRequested next) :
    Program.Asks Quiet (next true) := by
  rw [rounds_eq] at left
  split at left
  · exact (turn_ne_look next left).elim
  · cases left
    have seen : Program.Asks Quiet (turn limit settings s.interrupt) := asks_turn_interrupted rfl
    exact seen

/-- Wherever a run looks for the interrupt, it launches nothing more once the answer is yes. -/
theorem asks_seen {next : Bool → Routine Report} {p : Routine Report}
    (stands : Stands limit settings p s)
    (left : p = Program.ask (I := Host.interface) .cancelRequested next) :
    Program.Asks Quiet (next true) := by
  cases stands with
  | head => exact asks_head_seen left
  | turning => exact (turn_ne_look next left).elim
  | launching => exact nomatch left
  | @echoing _ r shows =>
    cases r with
    | done _ => exact asks_head_seen left
    | ask q' next' =>
      cases left
      exact shows.1.elim

theorem stands_check (running : s.interrupted = false) (room : s.inFlight < limit) :
    Stands limit settings (check limit settings s false) s := by
  simp only [check, Bool.false_eq_true, if_false]
  split
  · rename_i none
    exact .turning (.inr (.inr none))
  · rename_i next
    exact .launching running room next

section Steps

variable {σ : Type} {v : World Host.interface σ} {u u' u'' : σ}

theorem steps_look {requested : Bool} (running : s.interrupted = false) (room : s.inFlight < limit)
    (looked : v.Answers .cancelRequested u requested u') :
    v.Steps (rounds limit settings s) u [⟨.cancelRequested, requested⟩]
      (check limit settings s requested) u' := by
  rw [rounds_eq, if_neg (by simp [running, room])]
  exact .ask looked (.refl _ _)

theorem steps_launch {position : Nat} {c : Case} {rest : List (Nat × Case)}
    (running : s.interrupted = false) (room : s.inFlight < limit)
    (next : s.pending = (position, c) :: rest) (looked : v.Answers .cancelRequested u false u')
    (launched : v.Answers (.launch position c) u' () u'') :
    v.Steps (rounds limit settings s) u [⟨.cancelRequested, false⟩, ⟨.launch position c, ()⟩]
      (rounds limit settings (s.launched rest)) u'' := by
  have chosen : check limit settings s false =
      Host.launch position c >>= fun _ => rounds limit settings (s.launched rest) := by
    simp only [check, Bool.false_eq_true, if_false, next]
  have seen : v.Steps (rounds limit settings s) u [⟨.cancelRequested, false⟩]
      (check limit settings s false) u' := steps_look running room looked
  rw [chosen] at seen
  exact seen.trans (.ask launched (.refl _ _))

end Steps

theorem turn_done {report : Report} (ended : turn limit settings s = .done report) :
    s.inFlight = 0 ∧ report = s.report := by
  by_cases idle : s.inFlight = 0
  · rw [turn_idle idle] at ended
    cases ended
    exact ⟨idle, rfl⟩
  · cases running : s.interrupted with
    | false =>
      rw [turn_watching idle running] at ended
      cases ended
    | true =>
      rw [turn_waiting idle running] at ended
      cases ended

theorem rounds_done {report : Report} (ended : rounds limit settings s = .done report) :
    Filled limit s ∧ s.inFlight = 0 ∧ report = s.report := by
  rw [rounds_eq] at ended
  by_cases filled : s.interrupted = true ∨ limit ≤ s.inFlight
  · rw [if_pos filled] at ended
    exact ⟨filled.imp_right .inl, turn_done ended⟩
  · rw [if_neg filled] at ended
    cases ended

theorem stands_done {p : Routine Report} {report : Report} (stands : Stands limit settings p s)
    (ended : p = .done report) : Filled limit s ∧ s.inFlight = 0 ∧ report = s.report := by
  cases stands with
  | head => exact rounds_done ended
  | turning filled => exact ⟨filled, turn_done ended⟩
  | launching => exact nomatch ended
  | @echoing _ r shows =>
    cases r with
    | done _ => exact rounds_done ended
    | ask q' next' => cases ended

end TestRig.Suite.Pool
