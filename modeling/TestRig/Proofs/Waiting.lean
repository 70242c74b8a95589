import Mathlib.Tactic
import TestRig.Proofs.HostRoutines
import TestRig.Sandbox.Lifecycle

/-!
Waiting for a sandbox, question by question. The probes go on until the first that is answered or
until the attempts are used up, with a pause between two of them and nowhere else. Only a wait in
vain asks for the logs, once and after the last probe, and shows what it gets of them.
-/

namespace TestRig.Sandbox

open Host (Health Trace)

def probing (interval : Duration) (port : Port.Number) : List Health → Trace
  | [] => []
  | [h] => [⟨.probe port, h⟩]
  | h :: h' :: rest => ⟨.probe port, h⟩ :: ⟨.pause interval, ()⟩ :: probing interval port (h' :: rest)

def shown : Except Engine.Error Engine.Logs → Trace
  | .ok logs => [logs.out, logs.err].filter (!·.isEmpty) |>.map fun text => ⟨.say .err (text ++ "\n"), ()⟩
  | .error _ => []

/-- The ways a wait with so many attempts can go, and whether the sandbox was ready. -/
inductive Waiting (interval : Duration) (port : Port.Number) (name : String) (attempts : Nat) :
    Trace → Bool → Prop
  | answered {k : Nat} (early : k < attempts) : Waiting interval port name attempts
      (probing interval port (List.replicate k .unhealthy ++ [.healthy])) true
  | exhausted (x : Except Engine.Error Engine.Logs) : Waiting interval port name attempts
      (probing interval port (List.replicate attempts .unhealthy) ++
        ⟨.engine (.logs name), x⟩ :: shown x) false

variable {σ : Type} {w : World Host.interface σ} {s s' : σ} {t : Trace} {interval : Duration}
  {port : Port.Number} {name : String} {ready : Bool}

theorem probing_cons {hs : List Health} (more : hs ≠ []) (h : Health) :
    probing interval port (h :: hs) =
      ⟨.probe port, h⟩ :: ⟨.pause interval, ()⟩ :: probing interval port hs := by
  cases hs with
  | nil => exact absurd rfl more
  | cons h' rest => rfl

@[simp] theorem called_probing (interval : Duration) (port : Port.Number) (hs : List Health) :
    Host.called (probing interval port hs) = [] := by
  induction hs with
  | nil => rfl
  | cons h hs ih =>
    cases hs with
    | nil => rfl
    | cons h' hs => simpa [probing, Host.called] using ih

@[simp] theorem probed_probing (interval : Duration) (port : Port.Number) (hs : List Health) :
    Host.probed (probing interval port hs) = hs := by
  induction hs with
  | nil => rfl
  | cons h hs ih =>
    cases hs with
    | nil => rfl
    | cons h' hs => simpa [probing, Host.probed] using ih

@[simp] theorem paused_probing (interval : Duration) (port : Port.Number) (hs : List Health) :
    Host.paused (probing interval port hs) = List.replicate (hs.length - 1) interval := by
  induction hs with
  | nil => rfl
  | cons h hs ih =>
    cases hs with
    | nil => rfl
    | cons h' hs => simpa [probing, Host.paused, List.replicate_succ] using ih

@[simp] theorem called_shown (x : Except Engine.Error Engine.Logs) : Host.called (shown x) = [] := by
  cases x <;> simp [shown, Host.called]

@[simp] theorem probed_shown (x : Except Engine.Error Engine.Logs) : Host.probed (shown x) = [] := by
  cases x <;> simp [shown, Host.probed]

@[simp] theorem paused_shown (x : Except Engine.Error Engine.Logs) : Host.paused (shown x) = [] := by
  cases x <;> simp [shown, Host.paused]

theorem Waiting.called {attempts : Nat} (h : Waiting interval port name attempts t ready) :
    (ready = true ∧ Host.called t = []) ∨
      ready = false ∧ ∃ x, Host.called t = [⟨.logs name, x⟩] := by
  cases h with
  | answered => simp
  | exhausted x =>
    refine .inr ⟨rfl, x, ?_⟩
    rw [Host.called_append, called_probing, List.nil_append]
    exact congrArg (_ :: ·) (called_shown x)

theorem Waiting.probed {attempts : Nat} (h : Waiting interval port name attempts t false) :
    Host.probed t = List.replicate attempts .unhealthy := by
  cases h with
  | exhausted x =>
    rw [Host.probed_append, probed_probing]
    exact (congrArg (_ ++ ·) (probed_shown x)).trans (List.append_nil _)

theorem runs_probeUntil {left : Nat} (run : w.Runs (probeUntil interval port left) s t ready s') :
    (ready = true ∧ ∃ k < left,
      t = probing interval port (List.replicate k .unhealthy ++ [.healthy])) ∨
    (ready = false ∧ t = probing interval port (List.replicate left .unhealthy)) := by
  induction left generalizing s t with
  | zero =>
    obtain ⟨rfl, rfl, rfl⟩ := World.runs_done.1 run
    exact .inr ⟨rfl, rfl⟩
  | succ left ih =>
    obtain ⟨(health : Health), s₁, t₁, -, probed, rfl⟩ := World.runs_ask.1 run
    cases health with
    | healthy =>
      obtain ⟨rfl, rfl, rfl⟩ := World.runs_done.1 probed
      exact .inl ⟨rfl, 0, left.succ_pos, rfl⟩
    | unhealthy =>
      cases left with
      | zero =>
        obtain ⟨rfl, rfl, rfl⟩ := World.runs_done.1 probed
        exact .inr ⟨rfl, rfl⟩
      | succ left =>
        obtain ⟨⟨⟩, s₂, t₂, -, later, rfl⟩ := World.runs_ask.1 probed
        obtain ⟨rfl, k, early, rfl⟩ | ⟨rfl, rfl⟩ := ih later
        · exact .inl ⟨rfl, k + 1, Nat.succ_lt_succ early, (probing_cons (by simp) _).symm⟩
        · exact .inr ⟨rfl, (probing_cons (by simp) _).symm⟩

theorem runs_showLogs (run : w.Runs (showLogs name) s t () s') :
    ∃ x, t = ⟨.engine (.logs name), x⟩ :: shown x := by
  have log : ∀ {text : String} {s s' : σ} {t : Trace}, w.Runs (showLog text) s t () s' →
      t = if text.isEmpty then [] else [⟨.say .err (text ++ "\n"), ()⟩] := by
    intro text s s' t run
    unfold showLog at run
    split_ifs at run ⊢ with blank
    · exact (World.runs_done.1 run).1
    · obtain ⟨⟨⟩, s₁, t₁, -, ended, rfl⟩ := World.runs_ask.1 run
      rw [(World.runs_done.1 ended).1]
  obtain ⟨(x : Except Engine.Error Engine.Logs), s₁, t₁, -, answered, rfl⟩ := World.runs_ask.1 run
  refine ⟨x, ?_⟩
  cases x with
  | error e => rw [(World.runs_done.1 answered).1, shown]
  | ok logs =>
    replace answered : w.Runs (showLog logs.out >>= fun _ => showLog logs.err) s₁ t₁ () s' := answered
    obtain ⟨t₂, _, s₂, t₃, out, err, rfl⟩ := World.runs_bind.1 answered
    rw [log out, log err, shown]
    by_cases first : logs.out.isEmpty <;> by_cases second : logs.err.isEmpty <;> simp [first, second]

theorem waiting_of_runs {settings : Settings} {attempts : Nat}
    (run : w.Runs (waitReady settings port name attempts) s t ready s') :
    Waiting settings.probeInterval port name attempts t ready := by
  obtain ⟨t₁, answered, s₁, t₂, probed, later, rfl⟩ := World.runs_bind.1 run
  obtain ⟨rfl, k, early, rfl⟩ | ⟨rfl, rfl⟩ := runs_probeUntil probed
  · obtain ⟨rfl, rfl, rfl⟩ := World.runs_done.1 later
    rw [List.append_nil]
    exact .answered early
  · obtain ⟨t₃, _, s₂, t₄, logged, ended, rfl⟩ := World.runs_bind.1 later
    obtain ⟨rfl, rfl, rfl⟩ := World.runs_done.1 ended
    obtain ⟨x, rfl⟩ := runs_showLogs logged
    rw [List.append_nil]
    exact .exhausted x

/-- A host whose probes find what is foretold, one after the other, and that answers all else as it
likes. -/
def foreseen (rest : Machine Host.interface σ) : Machine Host.interface ((ℕ → Health) × σ) where
  answer
    | .probe port, (health, u) =>
      (health 0, fun k => health (k + 1), (rest.answer (.probe port) u).2)
    | q, (health, u) => ((rest.answer q u).1, health, (rest.answer q u).2)

theorem probed_foreseen {α : Type} (rest : Machine Host.interface σ) (p : Host.Routine α)
    (health : ℕ → Health) (u : σ) : ∃ made,
      Host.probed ((foreseen rest).events p (health, u)) = (List.range made).map health ∧
      ((foreseen rest).run p (health, u)).2.1 = fun k => health (k + made) := by
  induction p generalizing health u with
  | done a => exact ⟨0, rfl, rfl⟩
  | ask q next ih =>
    cases q
    case probe port =>
      obtain ⟨made, probed, left⟩ :=
        ih (health 0) (fun k => health (k + 1)) (rest.answer (.probe port) u).2
      refine ⟨made + 1, ?_, left.trans (funext fun k => congrArg health (by omega))⟩
      calc Host.probed ((foreseen rest).events (.ask (.probe port) next) (health, u))
          = health 0 :: (List.range made).map fun k => health (k + 1) := congrArg (_ :: ·) probed
        _ = (List.range (made + 1)).map health := by
          rw [List.range_succ_eq_map, List.map_cons, List.map_map]
          rfl
    all_goals exact ih _ _ _

def afterwards (ready : Bool) (name : String) (x : Except Engine.Error Engine.Logs) : Trace :=
  if ready then [] else ⟨.engine (.logs name), x⟩ :: shown x

@[simp] theorem probed_afterwards (ready : Bool) (name : String)
    (x : Except Engine.Error Engine.Logs) : Host.probed (afterwards ready name x) = [] := by
  cases ready with
  | true => rfl
  | false => exact probed_shown x

@[simp] theorem paused_afterwards (ready : Bool) (name : String)
    (x : Except Engine.Error Engine.Logs) : Host.paused (afterwards ready name x) = [] := by
  cases ready with
  | true => rfl
  | false => exact paused_shown x

@[simp] theorem called_afterwards (ready : Bool) (name : String)
    (x : Except Engine.Error Engine.Logs) :
    Host.called (afterwards ready name x) = if ready then [] else [⟨.logs name, x⟩] := by
  cases ready with
  | true => rfl
  | false => exact congrArg (_ :: ·) (called_shown x)

def Found (attempts : ℕ) (hs : List Health) : Bool → Prop
  | true => ∃ k < attempts, hs = List.replicate k .unhealthy ++ [.healthy]
  | false => hs = List.replicate attempts .unhealthy

theorem Waiting.split {attempts : ℕ} (h : Waiting interval port name attempts t ready) :
    ∃ hs x, t = probing interval port hs ++ afterwards ready name x ∧ Found attempts hs ready := by
  cases h with
  | answered early => exact ⟨_, .ok ⟨"", ""⟩, (List.append_nil _).symm, _, early, rfl⟩
  | exhausted x => exact ⟨_, x, rfl, rfl⟩

section

variable {health : ℕ → Health} {attempts made : ℕ}

theorem unhealthy_of_replicate
    (h : (List.range made).map health = List.replicate attempts .unhealthy) :
    made = attempts ∧ ∀ i < made, health i = .unhealthy := by
  refine ⟨by simpa using congrArg List.length h, fun i early => ?_⟩
  exact (List.eq_replicate_iff.1 h).2 _ (List.mem_map_of_mem (List.mem_range.2 early))

theorem healthy_of_replicate {k : ℕ}
    (h : (List.range made).map health = List.replicate k .unhealthy ++ [.healthy]) :
    made = k + 1 ∧ (∀ i < k, health i = .unhealthy) ∧ health k = .healthy := by
  have len : made = k + 1 := by simpa using congrArg List.length h
  subst len
  rw [List.range_succ, List.map_append] at h
  obtain ⟨before, last⟩ := List.append_inj' h rfl
  exact ⟨rfl, (unhealthy_of_replicate before).2, List.head_eq_of_cons_eq last⟩

theorem Found.ready_iff (h : Found attempts ((List.range made).map health) ready) :
    ready = true ↔ ∃ k < attempts, health k = .healthy := by
  cases ready with
  | true =>
    obtain ⟨k, early, h⟩ := h
    exact iff_of_true rfl ⟨k, early, (healthy_of_replicate h).2.2⟩
  | false =>
    obtain ⟨rfl, missed⟩ := unhealthy_of_replicate h
    refine iff_of_false nofun fun ⟨k, early, found⟩ => ?_
    simp [missed k early] at found

theorem Found.made_of_first (h : Found attempts ((List.range made).map health) ready) {k : ℕ}
    (early : k < attempts) (found : health k = .healthy) (first : ∀ i < k, health i ≠ .healthy) :
    made = k + 1 := by
  obtain rfl : ready = true := h.ready_iff.2 ⟨k, early, found⟩
  obtain ⟨j, -, h⟩ := h
  obtain ⟨rfl, before, foundAt⟩ := healthy_of_replicate h
  have noLater : ¬ k < j := fun later => by simp [before k later] at found
  have noEarlier : ¬ j < k := fun earlier => first j earlier foundAt
  omega

theorem Found.made_of_none (h : Found attempts ((List.range made).map health) ready)
    (missed : ∀ k < attempts, health k ≠ .healthy) : made = attempts := by
  cases ready with
  | true =>
    obtain ⟨k, early, found⟩ := h.ready_iff.1 rfl
    exact absurd found (missed k early)
  | false => exact (unhealthy_of_replicate h).1

end

/-- Whatever the probes find and however many attempts there are, a wait ends with the first healthy
answer among the attempts, or when they are used up. There is one pause between two probes and none
elsewhere, and the only call of the engine is for the logs, after a wait in vain. -/
theorem waitReady_course (rest : Machine Host.interface σ) (settings : Settings)
    (port : Port.Number) (name : String) (attempts : ℕ) (health : ℕ → Health) (u : σ) :
    ∃ ready u' t made,
      (foreseen rest).run (waitReady settings port name attempts) (health, u) =
        (ready, (fun k => health (k + made)), u') ∧
      (foreseen rest).events (waitReady settings port name attempts) (health, u) = t ∧
      (ready = true ↔ ∃ k < attempts, health k = .healthy) ∧
      (∀ k < attempts, health k = .healthy → (∀ i < k, health i ≠ .healthy) → made = k + 1) ∧
      ((∀ k < attempts, health k ≠ .healthy) → made = attempts) ∧
      Host.probed t = (List.range made).map health ∧
      Host.paused t = List.replicate (made - 1) settings.probeInterval ∧
      (Host.called t).map (·.question) = (if ready then [] else [.logs name]) ∧
      ∃ x, t = probing settings.probeInterval port ((List.range made).map health) ++
        if ready then [] else ⟨.engine (.logs name), x⟩ :: shown x := by
  have run := Program.runs_events (foreseen rest) (waitReady settings port name attempts)
    (health, u)
  obtain ⟨made, probed, left⟩ :=
    probed_foreseen rest (waitReady settings port name attempts) health u
  generalize (foreseen rest).events (waitReady settings port name attempts) (health, u) = t
    at run probed ⊢
  cases ended : (foreseen rest).run (waitReady settings port name attempts) (health, u) with
  | mk ready after =>
    obtain ⟨health', u'⟩ := after
    rw [ended] at run left
    obtain rfl : health' = _ := left
    obtain ⟨hs, x, rfl, found⟩ := (waiting_of_runs run).split
    obtain rfl : hs = _ := by simpa using probed
    refine ⟨ready, u', _, made, rfl, rfl, found.ready_iff, fun k => found.made_of_first,
      found.made_of_none, probed, by simp, ?_, x, rfl⟩
    cases ready <;> simp

end TestRig.Sandbox
