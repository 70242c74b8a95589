import Mathlib.Tactic
import TestRig.Sandbox.Pipeline
import TestRig.Proofs.PortSearch

/-!
The run of one case in stages: settle on a port and a name, use a sandbox of that name, give the
port back. Settling only looks at the engine; the use concerns the container of that name and no
other; and in any world the clean-up leaves behind what its calls of the engine leave behind.
-/

namespace TestRig.Sandbox

open Host (Routine)
open Host.Ask (Attends Within)
open Engine (Call)

theorem asks_probeUntil {P : Call → Prop} (interval : Duration) (port : Port.Number) (left : Nat) :
    Program.Asks (Attends P) (probeUntil interval port left) := by
  induction left with
  | zero => trivial
  | succ left ih =>
    refine Program.asks_bind (Program.asks_query trivial) fun health => ?_
    split
    · trivial
    · split
      · trivial
      · exact Program.asks_bind (Program.asks_query trivial) fun _ => ih

theorem asks_showLog {P : Call → Prop} (text : String) :
    Program.Asks (Attends P) (showLog text) := by
  unfold showLog
  split
  · trivial
  · exact Program.asks_query trivial

theorem asks_showLogs {P : Call → Prop} {name : String} (logs : P (.logs name)) :
    Program.Asks (Attends P) (showLogs name) := by
  refine Program.asks_bind (Program.asks_query logs) fun x => ?_
  split
  · exact Program.asks_bind (asks_showLog _) fun _ => asks_showLog _
  · trivial

theorem asks_waitReady {P : Call → Prop} {s : Settings} {port : Port.Number} {name : String}
    {attempts : Nat} (logs : P (.logs name)) :
    Program.Asks (Attends P) (waitReady s port name attempts) := by
  refine Program.asks_bind (asks_probeUntil _ _ _) fun ready => ?_
  cases ready with
  | true => trivial
  | false => exact Program.asks_bind (asks_showLogs logs) fun _ => trivial

theorem asks_adopt {P : Call → Prop} {s : Settings} {port : Port.Number} {name : String}
    (logs : P (.logs name)) : Program.Asks (Attends P) (adopt s port name) :=
  Program.asks_bind (asks_waitReady logs) fun _ => trivial

theorem asks_stopKnown (grace : Duration) (name : String) :
    (stopKnown grace name).Asks (Call.Removes name) := by
  refine Program.asks_bind (Program.asks_query rfl) fun x => ?_
  split
  · exact Program.asks_bind (Program.asks_query rfl) fun _ => trivial
  · exact Program.asks_bind (Program.asks_query rfl) fun _ =>
      Program.asks_bind (Program.asks_query rfl) fun _ => trivial

theorem asks_stop (grace : Duration) (name : String) :
    (stop grace name).Asks (Call.Removes name) := by
  refine Program.asks_bind (Program.asks_query ⟨rfl, rfl⟩) fun x => ?_
  split
  · trivial
  · split
    · exact asks_stopKnown grace name
    · trivial

theorem asks_start (s : Settings) (port : Port.Number) (name : String) :
    Program.Asks (Attends (Call.About name)) (start s port name) := by
  refine Program.asks_bind (Program.asks_query rfl) fun x => ?_
  split
  · trivial
  · refine Program.asks_bind (asks_waitReady rfl) fun ready => ?_
    cases ready with
    | true => trivial
    | false =>
      have stopped := Program.asks_mono (fun _ => Call.about_of_removes) (asks_stop s.stopGrace name)
      exact Program.asks_bind (Host.asks_ofEngine stopped) fun _ => trivial

namespace Cleaner

theorem asks_prune (r : CleanupReport) (name : String) : (prune r).Asks (Call.About name) :=
  ⟨trivial, fun _ => ⟨trivial, fun _ => trivial⟩⟩

theorem asks_cleanup (c : Cleaner) (name : String) :
    (c.cleanup (.one name)).Asks (Call.About name) := by
  refine Program.asks_bind (p := c.removeAll [name] _) ?_ fun report => ?_
  · have stopped := Program.asks_mono (fun _ => Call.about_of_removes) (asks_stop c.grace name)
    exact Program.asks_bind stopped fun _ => trivial
  · cases c.environment with
    | developer => exact asks_prune report name
    | sharedRunner => trivial

end Cleaner

namespace Pipeline

variable (p : Pipeline) (i : Invocation) (port : Port.Number) (name : String)

theorem asks_provide (owned : Bool) :
    Program.Asks (Attends (Call.About name)) (p.provide port name owned) := by
  cases owned with
  | true =>
    refine Program.asks_bind (asks_start _ _ _) fun started => ?_
    cases started <;> trivial
  | false => exact Program.asks_bind (asks_adopt rfl) fun _ => trivial

theorem asks_provide_reused :
    Program.Asks (Attends Call.Looks) (p.provide port name false) :=
  Program.asks_bind (asks_adopt trivial) fun _ => trivial

theorem asks_execute {P : Call → Prop} {owned : Bool}
    (provide : Program.Asks (Attends P) (p.provide port name owned)) :
    Program.Asks (Within P) (p.execute i port name owned) := by
  refine Program.asks_bind
    (Program.asks_mono (fun _ => Host.Ask.within_of_attends) provide) fun provided => ?_
  cases provided with
  | true => exact Program.asks_bind (Program.asks_query trivial) fun _ => trivial
  | false => trivial

section

variable {P : Host.Ask → Prop} {port : Port.Number} (clock : P .clock)
  (draw : ∀ bound, P (.draw bound))

include clock draw

theorem asks_freshName (owner : UInt32) : Program.Asks P (freshName port owner) :=
  Program.asks_bind (Program.asks_query clock) fun _ =>
    Program.asks_bind (Program.asks_query (draw _)) fun _ => trivial

theorem asks_choose (look : P (.engine (.publishing port))) : Program.Asks P (p.choose port) := by
  have fresh : Program.Asks P (do return (← freshName port p.owner, true)) :=
    Program.asks_bind (asks_freshName clock draw p.owner) fun _ => trivial
  unfold choose
  split
  · exact fresh
  · refine Program.asks_bind (Host.asks_ofEngine ?_) fun found => ?_
    · refine Program.asks_bind (Program.asks_query look) fun x => ?_
      split <;> trivial
    · cases found with
      | some name => trivial
      | none => exact fresh

end

/-- The port, the name, and whether the sandbox is ours; nothing if no port could be leased. -/
def settle : Routine (Option (Port.Number × String × Bool)) :=
  match p.channel with
  | some port => p.choose port >>= fun chosen => pure (some (port, chosen))
  | none => p.allocator.acquire >>= fun
    | .error _ => pure none
    | .ok lease => p.choose lease.port >>= fun chosen => pure (some (lease.port, chosen))

theorem asks_settle {p : Pipeline} {port : Port.Number} (channel : p.channel = some port) :
    Program.Asks (Within Call.Looks) p.settle := by
  rw [settle, channel]
  exact Program.asks_bind (p.asks_choose trivial (fun _ => trivial) trivial) fun _ => trivial

def use (owned : Bool) : Routine Int := do
  let code := (← Host.interruptible (p.execute i port name owned)).getD Host.interruptedExit
  if owned then
    let _ ← Host.ofEngine (p.cleaner.cleanup (.one name))
  return code

def giveBack : Routine Unit :=
  match p.channel with
  | some _ => pure ()
  | none => Host.unlock (Port.lockKey port)

def carryOut : Option (Port.Number × String × Bool) → Routine Int
  | none => pure Host.failureExit
  | some (port, name, owned) =>
    p.use i port name owned >>= fun code => p.giveBack port >>= fun _ => pure code

theorem run_eq : p.run i = p.settle >>= p.carryOut i := by
  have onPort : ∀ port, p.runOn i port =
      p.choose port >>= fun chosen => p.use i port chosen.1 chosen.2 := fun _ => rfl
  unfold run settle
  cases channel : p.channel with
  | some port =>
    simp only [onPort, bind_assoc, pure_bind, carryOut, giveBack, channel, bind_pure]
  | none =>
    simp only [bind_assoc]
    refine bind_congr fun leased => ?_
    cases leased with
    | error e => rfl
    | ok lease =>
      simp only [onPort, bind_assoc, pure_bind, carryOut, giveBack, channel, Port.Lease.release]

theorem asks_use (owned : Bool) :
    Program.Asks (Within (Call.About name)) (p.use i port name owned) := by
  refine Program.asks_bind (Host.asks_interruptible
    (asks_execute p i port name (asks_provide p port name owned)) trivial) fun code => ?_
  cases owned with
  | true =>
    exact Program.asks_bind (Host.asks_ofEngine (p.cleaner.asks_cleanup name)) fun _ => trivial
  | false => trivial

theorem asks_use_reused : Program.Asks (Within Call.Looks) (p.use i port name false) :=
  Program.asks_bind (Host.asks_interruptible
    (asks_execute p i port name (asks_provide_reused p port name)) trivial) fun _ => trivial

end Pipeline

/-- What the calls of a removal do to a container of this name, in any world: it is here until a
look-up or a removal says that it is gone. -/
structure Removal {σ : Type} (w : World Engine.interface σ) (name : String)
    (R here gone : σ → Prop) : Prop where
  find : ∀ {s}, here s → w.Allows (.matching (exactly name) true) s ∧
    ∀ (x : Except Engine.Error (List String)) s', w.Answers (.matching (exactly name) true) s x s' →
      R s' ∧ ((∃ names, x = .ok names ∧ names.contains name = true) → here s') ∧
      ((∀ names, x = .ok names → names.contains name = false) → gone s')
  stop : ∀ {grace s}, here s → w.Allows (.stop name grace) s ∧
    ∀ x s', w.Answers (.stop name grace) s x s' → R s' ∧ here s'
  kill : ∀ {s}, here s → w.Allows (.kill name) s ∧
    ∀ x s', w.Answers (.kill name) s x s' → R s' ∧ here s'
  remove : ∀ {s}, here s → w.Allows (.remove name) s ∧
    ∀ x s', w.Answers (.remove name) s x s' → R s' ∧ gone s'

namespace Removal

variable {σ : Type} {w : World Engine.interface σ} {name : String} {R here gone : σ → Prop} {s : σ}

theorem view {τ : Type} {w' : World Engine.interface τ} (removal : Removal w name R here gone)
    (view : τ → σ) (allows : ∀ c s, w.Allows c (view s) → w'.Allows c s)
    (answers : ∀ c s x s', w'.Answers c s x s' → w.Answers c (view s) x (view s')) :
    Removal w' name (fun s => R (view s)) (fun s => here (view s)) (fun s => gone (view s)) where
  find h := ⟨allows _ _ (removal.find h).1,
    fun x s' answered => (removal.find h).2 x _ (answers _ _ _ s' answered)⟩
  stop h := ⟨allows _ _ (removal.stop h).1,
    fun x s' answered => (removal.stop h).2 x _ (answers _ _ _ s' answered)⟩
  kill h := ⟨allows _ _ (removal.kill h).1,
    fun x s' answered => (removal.kill h).2 x _ (answers _ _ _ s' answered)⟩
  remove h := ⟨allows _ _ (removal.remove h).1,
    fun x s' answered => (removal.remove h).2 x _ (answers _ _ _ s' answered)⟩

theorem keeps_stopKnown (removal : Removal w name R here gone) (grace : Duration) (h : here s) :
    w.Keeps R (stopKnown grace name) (fun _ s' => gone s') s := by
  have remove : ∀ {α : Type} {next : Except Engine.Error Unit → Engine.Routine α} {s : σ}, here s →
      (∀ x s', gone s' → w.Keeps R (next x) (fun _ s' => gone s') s') →
      w.Keeps R (Engine.call (.remove name) >>= next) (fun _ s' => gone s') s := fun h later =>
    ⟨(removal.remove h).1, fun x s' answered =>
      ⟨((removal.remove h).2 x s' answered).1, later x s' ((removal.remove h).2 x s' answered).2⟩⟩
  refine ⟨(removal.stop h).1, fun (x : Except Engine.Error Unit) s' answered => ?_⟩
  obtain ⟨kept, still⟩ := (removal.stop h).2 x s' answered
  refine ⟨kept, ?_⟩
  cases x with
  | ok _ => exact remove still fun _ _ gone => gone
  | error e =>
    refine ⟨(removal.kill still).1, fun x s'' answered => ?_⟩
    obtain ⟨kept, still⟩ := (removal.kill still).2 x s'' answered
    exact ⟨kept, remove still fun _ _ gone => gone⟩

theorem keeps_stop (removal : Removal w name R here gone) (grace : Duration) (h : here s) :
    w.Keeps R (Sandbox.stop grace name) (fun _ s' => gone s') s := by
  refine ⟨(removal.find h).1, fun (x : Except Engine.Error (List String)) s' answered => ?_⟩
  obtain ⟨kept, found, absent⟩ := (removal.find h).2 x s' answered
  refine ⟨kept, ?_⟩
  cases x with
  | error e => exact absent nofun
  | ok names =>
    show w.Keeps R (if names.contains name then stopKnown grace name
      else pure ⟨.absent, []⟩) (fun _ s' => gone s') s'
    by_cases there : names.contains name = true
    · rw [if_pos there]
      exact removal.keeps_stopKnown grace (found ⟨names, rfl, there⟩)
    · rw [if_neg there]
      refine absent fun names' same => ?_
      cases same
      simpa using there

theorem keeps_cleanup (removal : Removal w name R here gone) (c : Cleaner)
    (prune : ∀ {s}, gone s → ∀ call, call = .pruneNetworks ∨ call = .pruneVolumes →
      w.Allows call s ∧ ∀ x s', w.Answers call s x s' → R s' ∧ gone s') (h : here s) :
    w.Keeps R (c.cleanup (.one name)) (fun _ s' => gone s') s := by
  have pruned : ∀ r s, gone s → w.Keeps R (Cleaner.prune r) (fun _ s' => gone s') s := by
    intro r s h
    refine ⟨(prune h _ (.inl rfl)).1, fun x s' answered => ?_⟩
    obtain ⟨kept, still⟩ := (prune h _ (.inl rfl)).2 x s' answered
    refine ⟨kept, (prune still _ (.inr rfl)).1, fun x s'' answered => ?_⟩
    exact (prune still _ (.inr rfl)).2 x s'' answered
  have removed : w.Keeps R (c.removeAll [name] ⟨[], [], false⟩) (fun _ s' => gone s') s :=
    (removal.keeps_stop c.grace h).bind fun _ _ gone => gone
  refine removed.bind fun report s' h => ?_
  cases c.environment with
  | developer => exact pruned report s' h
  | sharedRunner => exact h

end Removal

namespace Pipeline

variable {p : Pipeline} {σ : Type} {w : World Host.interface σ} {free : σ → Prop}
  {locked leased : Port.Number → σ → Prop} {s : σ}

theorem keeps_settle (stages : Port.Stages w free locked leased) (channel : p.channel = none)
    (engine : p.allocator.registry = .engine) (h : free s) :
    w.Keeps (fun _ => True) p.settle (fun settled s' => (settled = none ∧ free s') ∨
      ∃ port name, settled = some (port, name, true) ∧ leased port s') s := by
  rw [settle, channel]
  refine (stages.keeps_acquire engine h).bind fun answer s' ended => ?_
  cases answer with
  | error e => exact .inl ⟨rfl, ended⟩
  | ok lease =>
    simp only [choose, channel]
    exact stages.keeps_hold ended trivial fun _ _ held => stages.keeps_hold held trivial
      fun _ _ held => .inr ⟨lease.port, _, rfl, held⟩

theorem findByPort_eq (port : Port.Number) : Host.ofEngine (findByPort port) =
    Program.ask (I := Host.interface) (.engine (.publishing port))
      fun (x : Except Engine.Error (List String)) => .done (match x with
        | .ok names => names.head?
        | .error _ => none) := by
  refine congrArg (Program.ask _) (funext fun (x : Except Engine.Error (List String)) => ?_)
  cases x <;> rfl

theorem runs_settle_channel {port : Port.Number} {s' : σ} {t : List (Event Host.interface)}
    (channel : p.channel = some port)
    {settled : Option (Port.Number × String × Bool)}
    (run : w.Runs p.settle s t settled s') : ∃ (x : Except Engine.Error (List String)) (t' : _),
      t = ⟨.engine (.publishing port), x⟩ :: t' ∧
      ((∃ name rest, x = .ok (name :: rest) ∧ settled = some (port, name, false) ∧ t' = []) ∨
        (∀ name rest, x ≠ .ok (name :: rest)) ∧ (∃ name, settled = some (port, name, true)) ∧
          ∀ e ∈ t', e.question.Within fun _ => False) := by
  rw [settle, channel] at run
  obtain ⟨t₁, ⟨name, owned⟩, s₁, t₂, chosen, ended, rfl⟩ := World.runs_bind.1 run
  obtain ⟨rfl, rfl, rfl⟩ := World.runs_done.1 ended
  rw [choose, channel] at chosen
  obtain ⟨t₁, found, s₂, t₃, looked, chosen, rfl⟩ := World.runs_bind.1 chosen
  have fresh : ∀ {s t}, w.Runs (freshName port p.owner >>= fun name => pure (name, true)) s t
      (name, owned) s' → owned = true ∧ ∀ e ∈ t, e.question.Within fun _ => False := by
    intro s t run
    obtain ⟨t₁, made, s₃, t₂, named, ended, rfl⟩ := World.runs_bind.1 run
    obtain ⟨rfl, same, rfl⟩ := World.runs_done.1 ended
    cases same
    rw [List.append_nil]
    exact ⟨rfl, named.asks (asks_freshName trivial (fun _ => trivial) p.owner)⟩
  rw [findByPort_eq] at looked
  cases looked with
  | @ask _ _ _ _ _ x _ _ answered rest =>
    obtain ⟨rfl, rfl, rfl⟩ := World.runs_done.1 rest
    refine ⟨x, t₃, by simp, ?_⟩
    match x with
    | .ok (first :: others) =>
      obtain ⟨rfl, same, rfl⟩ := World.runs_done.1 chosen
      cases same
      exact .inl ⟨_, _, rfl, rfl, rfl⟩
    | .ok [] =>
      obtain ⟨rfl, apart⟩ := fresh chosen
      exact .inr ⟨nofun, ⟨name, rfl⟩, apart⟩
    | .error e =>
      obtain ⟨rfl, apart⟩ := fresh chosen
      exact .inr ⟨nofun, ⟨name, rfl⟩, apart⟩

def onePort : Pipeline where
  settings := {}
  cleaner := ⟨.developer, 7, .ofSecs 10⟩
  allocator := { range := ⟨8085, 1, 1⟩, registry := .engine, pid := 7 }
  channel := none
  owner := 7

def smoke : Invocation := { package := "rig", target := "smoke", name := some "smoke::starts" }

end Pipeline

end TestRig.Sandbox
