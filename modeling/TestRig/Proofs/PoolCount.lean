import Mathlib.Tactic
import TestRig.Proofs.PoolTrace

/-!
How often a pool goes round. Every round but the last waits, once; and a wait ends with a result or,
once at most, with the interrupt.
-/

namespace TestRig.Suite.Pool

open Host (Routine Result)

/-- Questions that are answered at once, all but the wait for a worker. -/
def Prompt : Host.Ask → Prop
  | .completion _ => False
  | _ => True

def waits : Event Host.interface → Bool
  | ⟨.completion _, _⟩ => true
  | _ => false

def cuts : Event Host.interface → Bool
  | ⟨.completion true, event⟩ => Option.isNone event
  | _ => false

theorem countP_waits (t : Trace) : t.countP waits = (receipts t).length + t.countP cuts := by
  induction t with
  | nil => rfl
  | cons e t ih =>
    have one : (if waits e = true then 1 else 0) =
        (receipt? e).toList.length + if cuts e = true then 1 else 0 := by
      obtain ⟨q, x⟩ := e
      cases q with
      | completion watching =>
        cases watching with
        | false => rfl
        | true => cases x <;> rfl
      | _ => rfl
    rw [receipts_cons, List.length_append, List.countP_cons, List.countP_cons]
    omega

theorem countP_waits_of_prompt {t : Trace} (prompt : ∀ e ∈ t, Prompt e.question) :
    t.countP waits = 0 := by
  rw [List.countP_eq_zero]
  rintro ⟨q, x⟩ among waiting
  have prompt := prompt _ among
  cases q with
  | completion watching => exact prompt
  | _ => cases waiting

theorem prompt_of_shows (q : Host.Ask) (shows : Shows q) : Prompt q := by
  cases q with
  | say channel text => trivial
  | _ => exact shows.elim

section Count

variable {limit : Nat} {settings : Settings} {s : State}

theorem asks_fill (limit : Nat) (s : State) : Program.Asks Prompt (fill limit s) := by
  induction left : s.left using Nat.strong_induction_on generalizing s with
  | _ n ih =>
    subst left
    rw [fill]
    split
    · trivial
    · refine Program.asks_bind (Program.asks_query trivial) fun (requested : Bool) => ?_
      split
      · trivial
      · split
        · trivial
        · rename_i next
          have later := ih _ (State.left_launched next) _ rfl
          refine Program.asks_bind (Program.asks_query trivial) fun _ => ?_
          exact Program.asks_bind later fun _ => trivial

theorem waits_echoed {α : Type} {r : Result} {a b : α} {t : Trace}
    (run : (settings.echoed r >>= fun _ => pure a).Runs t b) : t.countP waits = 0 := by
  have shows : Program.Asks Shows (settings.echoed r >>= fun _ => pure a) :=
    Program.asks_bind (asks_echoed settings r) fun _ => trivial
  exact countP_waits_of_prompt fun e among => prompt_of_shows _ (run.asks shows e among)

theorem waits_await {busy : s.inFlight ≠ 0} {t : Trace} {u : { u : State // u.left < s.left }}
    (run : (await s settings busy).Runs t u) : t.countP waits = 1 := by
  unfold await at run
  split at run
  · obtain ⟨event, t', later, rfl⟩ := Program.runs_ask.1 run
    rw [List.countP_cons]
    cases event with
    | none =>
      obtain ⟨rfl, -⟩ := Program.runs_done.1 later
      rfl
    | some event =>
      rw [waits_echoed later]
      rfl
  · obtain ⟨event, t', later, rfl⟩ := Program.runs_ask.1 run
    rw [List.countP_cons, waits_echoed later]
    rfl

def counted (limit : Nat) (settings : Settings) (s : State) : Routine (Nat × Report) :=
  fill limit s >>= fun t =>
    if h : t.val.inFlight = 0 then pure (1, t.val.report)
    else await t.val settings h >>= fun u =>
      counted limit settings u.val >>= fun later => pure (later.1 + 1, later.2)
termination_by s.left
decreasing_by exact Nat.lt_of_lt_of_le u.property t.property

theorem counted_snd (limit : Nat) (settings : Settings) (s : State) :
    (counted limit settings s >>= fun later => pure later.2) = rounds limit settings s := by
  induction left : s.left using Nat.strong_induction_on generalizing s with
  | _ n ih =>
    subst left
    rw [counted, rounds, bind_assoc]
    refine bind_congr fun t => ?_
    split
    · rfl
    · rw [bind_assoc]
      refine bind_congr fun u => ?_
      have less := Nat.lt_of_lt_of_le u.property t.property
      rw [← ih _ less u.val rfl, bind_assoc]
      rfl

/-- Every round but the last waits, once. -/
theorem waits_counted {t : Trace} {k : Nat} {report : Report}
    (run : (counted limit settings s).Runs t (k, report)) : k = t.countP waits + 1 := by
  induction left : s.left using Nat.strong_induction_on generalizing s t k with
  | _ n ih =>
    subst left
    rw [counted] at run
    obtain ⟨t₁, filled, t₂, first, later, rfl⟩ := Program.runs_bind.1 run
    have none := countP_waits_of_prompt (first.asks (asks_fill limit s))
    rw [List.countP_append, none]
    split at later
    · obtain ⟨rfl, last⟩ := Program.runs_done.1 later
      cases last
      rfl
    · obtain ⟨t₃, u, t₄, waited, onward, rfl⟩ := Program.runs_bind.1 later
      obtain ⟨t₅, counts, t₆, rest, ended, rfl⟩ := Program.runs_bind.1 onward
      obtain ⟨rfl, last⟩ := Program.runs_done.1 ended
      cases last
      have less := Nat.lt_of_lt_of_le u.property filled.property
      have rounds := ih _ less rest rfl
      rw [List.append_nil, List.countP_append, waits_await waited, rounds]
      omega

theorem exists_counted {t : Trace} {report : Report} (run : (rounds limit settings s).Runs t report) :
    ∃ k, (counted limit settings s).Runs t (k, report) := by
  rw [← counted_snd] at run
  obtain ⟨t₁, ⟨k, report'⟩, t₂, counts, last, rfl⟩ := Program.runs_bind.1 run
  obtain ⟨rfl, rfl⟩ := Program.runs_done.1 last
  rw [List.append_nil]
  exact ⟨k, counts⟩

end Count

section Waiting

variable {limit : Nat} {settings : Settings} {s : State} {watching : Bool}
  {next : (Host.Ask.completion watching).Answer → Routine Report} {p : Routine Report}

theorem turn_wait (left : turn limit settings s = .ask (.completion watching) next) :
    s.inFlight ≠ 0 ∧ (watching = true → s.interrupted = false) := by
  by_cases idle : s.inFlight = 0
  · rw [turn_idle idle] at left
    cases left
  refine ⟨idle, ?_⟩
  rintro rfl
  cases running : s.interrupted with
  | false => rfl
  | true =>
    rw [turn_waiting idle running] at left
    cases left

theorem rounds_wait (left : rounds limit settings s = .ask (.completion watching) next) :
    s.inFlight ≠ 0 ∧ (watching = true → s.interrupted = false) := by
  rw [rounds_eq] at left
  split at left
  · exact turn_wait left
  · cases left

theorem Stands.wait (stands : Stands limit settings p s)
    (left : p = .ask (.completion watching) next) :
    s.inFlight ≠ 0 ∧ (watching = true → s.interrupted = false) := by
  cases stands with
  | head => exact rounds_wait left
  | turning => exact turn_wait left
  | launching => cases left
  | @echoing _ r shows =>
    cases r with
    | done _ => exact rounds_wait left
    | ask q' next' =>
      cases left
      exact shows.1.elim

theorem findsInterrupt_of_cuts {e : Event Host.interface} (cut : cuts e = true) :
    findsInterrupt e = true := by
  obtain ⟨q, x⟩ := e
  cases q with
  | completion watching =>
    cases watching with
    | true => exact cut
    | false => cases cut
  | _ => cases cut

theorem Stands.countP_cuts_le {σ : Type} {world : World Host.interface σ} {w w' : σ}
    {p' : Routine Report} {t : Trace} (stands : Stands limit settings p s)
    (path : world.Steps p w t p' w') : t.countP cuts ≤ (!s.interrupted).toNat := by
  induction path generalizing s with
  | refl => exact Nat.zero_le _
  | @ask q _ _ _ _ x _ _ answered rest ih =>
    have later := ih (stands.heard x rfl)
    rw [List.countP_cons]
    by_cases cut : cuts ⟨q, x⟩ = true
    · have found : (s.heard ⟨q, x⟩).interrupted = true :=
        (State.interrupted_heard _ _).2 (.inr (findsInterrupt_of_cuts cut))
      have running : s.interrupted = false := by
        cases q with
        | completion watching =>
          cases watching with
          | true => exact (stands.wait rfl).2 rfl
          | false => cases cut
        | _ => cases cut
      rw [found] at later
      rw [if_pos cut, running]
      simpa using later
    · rw [if_neg cut]
      cases seen : s.interrupted with
      | false =>
        have most := Bool.toNat_le (!(s.heard ⟨q, x⟩).interrupted)
        exact later.trans most
      | true =>
        have still : (s.heard ⟨q, x⟩).interrupted = true :=
          (State.interrupted_heard _ _).2 (.inl seen)
        rw [still] at later
        exact later

end Waiting

end TestRig.Suite.Pool
