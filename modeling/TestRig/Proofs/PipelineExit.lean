import Mathlib.Tactic
import TestRig.Proofs.Startup

/-!
The exit code of one case and what it stands for. The test is run at most once, against a sandbox
that was had before and on the port it is told; its own code is the exit code, unless no sandbox was
to be had or an interrupt came. A sandbox of our own is cleaned up once, when all that is done with
it is done and before its port is given back.
-/

namespace TestRig

def Host.Ask.Settles : Host.Ask → Prop
  | engine call => ∃ port, call = .publishing port
  | clock => True
  | draw _ => True
  | bindable _ => True
  | lock _ => True
  | unlock _ => True
  | _ => False

namespace Port.Allocator

open Host.Ask (Settles)

variable {a : Allocator}

theorem asks_take (engine : a.registry = .engine) (port : Number) :
    Program.Asks Settles (a.take port) := by
  have published : Program.Asks Settles (a.registry.publishes port) := by
    rw [engine, Registry.publishes_engine]
    exact ⟨⟨port, rfl⟩, fun _ => trivial⟩
  refine Program.asks_bind (Program.asks_query trivial) fun free => ?_
  split
  · trivial
  refine Program.asks_bind published fun taken => ?_
  split
  · trivial
  refine Program.asks_bind (Program.asks_query trivial) fun won => ?_
  split
  · trivial
  · trivial
  refine Program.asks_bind published fun overtaken => ?_
  split
  · exact Program.asks_bind (Program.asks_query trivial) fun _ => trivial
  · trivial

theorem asks_search (engine : a.registry = .engine) (left : Nat) (port : Number) :
    Program.Asks Settles (a.search left port) := by
  induction left generalizing port with
  | zero => trivial
  | succ left ih =>
    refine Program.asks_bind (asks_take engine port) fun taken => ?_
    split
    · trivial
    · exact Program.asks_bind (Program.asks_query trivial) fun _ => trivial
    · exact Program.asks_bind (Program.asks_bind (Program.asks_query trivial) fun _ => trivial)
        fun _ => ih _

theorem asks_acquire (engine : a.registry = .engine) : Program.Asks Settles a.acquire := by
  refine Program.asks_bind (Program.asks_query trivial) fun _ => ?_
  refine Program.asks_bind (Program.asks_bind (Program.asks_query trivial) fun _ => trivial) ?_
  exact fun _ => asks_search engine _ _

end Port.Allocator

namespace Sandbox.Pipeline

open Host (Routine Trace Cut tested worked)
open Host.Ask (Attends Settles)
open Engine (Call)

variable {p : Pipeline} {i : Invocation} {port : Port.Number} {name : String} {owned : Bool}
  {t : Trace} {code : Int}

theorem asks_settle_settles (engine : p.allocator.registry = .engine) :
    Program.Asks Settles p.settle := by
  have chosen : ∀ port, Program.Asks Settles (p.choose port) := fun port =>
    p.asks_choose trivial (fun _ => trivial) ⟨port, rfl⟩
  unfold settle
  split
  · exact Program.asks_bind (chosen _) fun _ => trivial
  · refine Program.asks_bind (Port.Allocator.asks_acquire engine) fun leased => ?_
    split
    · trivial
    · exact Program.asks_bind (chosen _) fun _ => trivial

/-- A sandbox is had: one of our own was started and is ready, or one that runs was taken over. -/
inductive Had (p : Pipeline) (port : Port.Number) (name : String) : Bool → Trace → Prop
  | started {t : Trace}
      (ready : Program.Runs (start p.settings port name) t (.ok ⟨name, port, .ready, false⟩)) :
      Had p port name true t
  | adopted {t : Trace} {sandbox : Instance}
      (taken : Program.Runs (adopt p.settings port name) t sandbox) : Had p port name false t

/-- What the exit code of a case with port and sandbox settled stands for. -/
inductive Ending (p : Pipeline) (port : Port.Number) (name : String) (owned : Bool) (t : Trace) :
    Int → Prop
  | interrupted (cut : Cut t) : Ending p port name owned t Host.interruptedExit
  | unstarted {e : StartError} (uncut : ¬ Cut t) (own : owned = true)
      (failed : Program.Runs (start p.settings port name) (worked t) (.error e)) :
      Ending p port name owned t Host.failureExit
  | answered {x : Except String (Option Int)} (uncut : ¬ Cut t) (told : tested t = [x]) :
      Ending p port name owned t (exitCode x)

/-- The test is not run, or it is run once, and a sandbox was had before. -/
def Tried (p : Pipeline) (i : Invocation) (port : Port.Number) (name : String) (owned : Bool)
    (t : Trace) : Prop :=
  tested t = [] ∨ ∃ before x after, t = before ++ ⟨.test i (i.environment port), x⟩ :: after ∧
    tested before = [] ∧ tested after = [] ∧ p.Had port name owned (worked before)

theorem provide_runs {provided : Bool}
    (run : Program.Runs (p.provide port name owned) t provided) :
    (provided = true ∧ p.Had port name owned t) ∨ (provided = false ∧ owned = true ∧
      ∃ e, Program.Runs (start p.settings port name) t (.error e)) := by
  cases owned with
  | true =>
    obtain ⟨t₁, started, t₂, launched, ended, rfl⟩ := Program.runs_bind.1 run
    cases started with
    | error e =>
      obtain ⟨rfl, rfl⟩ := Program.runs_done.1 ended
      rw [List.append_nil]
      exact .inr ⟨rfl, rfl, e, launched⟩
    | ok sandbox =>
      obtain ⟨rfl, rfl⟩ := Program.runs_done.1 ended
      rw [List.append_nil]
      cases starting_of_runs launched
      exact .inl ⟨rfl, .started launched⟩
  | false =>
    obtain ⟨t₁, sandbox, t₂, taken, ended, rfl⟩ := Program.runs_bind.1 run
    obtain ⟨rfl, rfl⟩ := Program.runs_done.1 ended
    rw [List.append_nil]
    exact .inl ⟨rfl, .adopted taken⟩

theorem tested_of_provide (h : Program.Begins (p.provide port name owned) t) : tested t = [] :=
  Host.tested_eq_nil (h.asks (p.asks_provide port name owned)) fun _ _ => id

theorem asks_execute_plain :
    Program.Asks (fun q : Host.Ask => q ≠ .interrupted) (p.execute i port name owned) := by
  have provide : Program.Asks (fun q : Host.Ask => q ≠ .interrupted)
      (p.provide port name owned) := by
    refine Program.asks_mono ?_ (p.asks_provide port name owned)
    rintro q attends rfl
    exact attends
  refine Program.asks_bind provide fun provided => ?_
  split
  · exact Program.asks_bind (Program.asks_query (by simp)) fun _ => trivial
  · trivial

theorem split_of_worked {q : Host.Ask} {x : q.Answer} {t₁ : Trace}
    (last : worked t = t₁ ++ [⟨q, x⟩]) : ∃ before after, t = before ++ ⟨q, x⟩ :: after ∧
      worked before = t₁ ∧ worked after = [] := by
  obtain ⟨l₁, l₂, rfl, first, second⟩ := List.filter_eq_append_iff.1 last
  obtain ⟨l₃, after, rfl, looks, -, rest⟩ := List.filter_eq_cons_iff.1 second
  refine ⟨l₁ ++ l₃, after, by simp, ?_, rest⟩
  rw [worked, List.filter_append, first, List.filter_eq_nil_iff.2 looks, List.append_nil]

theorem tried_of_had {x : Except String (Option Int)} {t₁ : Trace}
    (last : worked t = t₁ ++ [⟨.test i (i.environment port), x⟩]) (had : p.Had port name owned t₁)
    (untested : tested t₁ = []) : p.Tried i port name owned t ∧ tested t = [x] := by
  obtain ⟨before, after, rfl, rfl, none⟩ := split_of_worked last
  rw [Host.tested_worked] at untested
  have later : tested after = [] := by rw [← Host.tested_worked, none]; rfl
  refine ⟨.inr ⟨before, x, after, rfl, untested, later, had⟩, ?_⟩
  rw [Host.tested_append, untested]
  exact congrArg (x :: ·) later

theorem middle_of_runs {r : Option Int}
    (run : Program.Runs (Host.interruptible (p.execute i port name owned)) t r) :
    p.Tried i port name owned t ∧
      p.Ending port name owned t (r.getD Host.interruptedExit) := by
  obtain ⟨rfl, cut, begins⟩ | ⟨code, rfl, uncut, whole⟩ :=
    Host.runs_interruptible asks_execute_plain run
  · refine ⟨?_, .interrupted cut⟩
    obtain first | ⟨t₁, provided, t₂, provides, later, split⟩ := Program.begins_bind begins
    · exact .inl (by rw [← Host.tested_worked, tested_of_provide first])
    have untested := tested_of_provide ⟨_, provides⟩
    cases provided with
    | false =>
      refine .inl ?_
      rw [← Host.tested_worked, split, Program.begins_done later, List.append_nil, untested]
    | true =>
      obtain rfl | ⟨x, t₃, told, rfl⟩ := Program.begins_ask.1 later
      · exact .inl (by rw [← Host.tested_worked, split, List.append_nil, untested])
      · obtain rfl := Program.begins_done told
        obtain ⟨-, had⟩ | ⟨⟨⟩, -⟩ := provide_runs provides
        exact (tried_of_had split had untested).1
  · obtain ⟨t₁, provided, t₂, provides, later, split⟩ := Program.runs_bind.1 whole
    have untested := tested_of_provide ⟨_, provides⟩
    obtain ⟨rfl, had⟩ | ⟨rfl, own, e, failed⟩ := provide_runs provides
    · obtain ⟨x, t₃, told, rfl⟩ := Program.runs_ask.1 later
      obtain ⟨rfl, rfl⟩ := Program.runs_done.1 told
      obtain ⟨tried, answered⟩ := tried_of_had split had untested
      exact ⟨tried, .answered uncut answered⟩
    · obtain ⟨rfl, rfl⟩ := Program.runs_done.1 later
      rw [List.append_nil] at split
      rw [← split] at failed untested
      exact ⟨.inl (by rw [← Host.tested_worked, untested]), .unstarted uncut own failed⟩

def returned (p : Pipeline) (port : Port.Number) : Trace :=
  match p.channel with
  | some _ => []
  | none => [⟨.unlock (Port.lockKey port), ()⟩]

theorem giveBack_runs {u : Unit} (run : Program.Runs (p.giveBack port) t u) :
    t = p.returned port := by
  rw [giveBack] at run
  rw [returned]
  cases channel : p.channel with
  | some _ =>
    rw [channel] at run
    exact (Program.runs_done.1 run).1
  | none =>
    rw [channel] at run
    obtain ⟨⟨⟩, t₁, ended, rfl⟩ := Program.runs_ask.1 run
    rw [(Program.runs_done.1 ended).1]

theorem use_runs (run : Program.Runs (p.use i port name owned) t code) : ∃ middle cleaned,
    t = middle ++ cleaned ∧
    (∃ r, Program.Runs (Host.interruptible (p.execute i port name owned)) middle r) ∧
    p.Tried i port name owned middle ∧ p.Ending port name owned middle code ∧
    if owned then ∃ report,
      Program.Runs (Host.ofEngine (p.cleaner.cleanup (.one name))) cleaned report
    else cleaned = [] := by
  obtain ⟨middle, r, t₁, executed, later, rfl⟩ := Program.runs_bind.1 run
  obtain ⟨tried, ending⟩ := middle_of_runs executed
  cases owned with
  | true =>
    obtain ⟨cleaned, report, t₂, cleans, ended, rfl⟩ := Program.runs_bind.1 later
    obtain ⟨rfl, rfl⟩ := Program.runs_done.1 ended
    rw [List.append_nil]
    exact ⟨middle, cleaned, rfl, ⟨r, executed⟩, tried, ending, report, cleans⟩
  | false =>
    obtain ⟨rfl, rfl⟩ := Program.runs_done.1 later
    exact ⟨middle, [], rfl, ⟨r, executed⟩, tried, ending, rfl⟩

def afterLease (p : Pipeline) : Except Port.LeaseError Port.Lease →
    Routine (Option (Port.Number × String × Bool))
  | .error _ => pure none
  | .ok lease => freshName lease.port p.owner >>= fun name => pure (some (lease.port, name, true))

theorem settle_eq (channel : p.channel = none) :
    p.settle = p.allocator.acquire >>= p.afterLease := by
  rw [settle, channel]
  refine bind_congr fun leased => ?_
  cases leased with
  | error e => rfl
  | ok lease => simp only [afterLease, choose, channel, bind_assoc, pure_bind]

theorem run_settle {σ : Type} (p : Pipeline) (m : Machine Host.interface σ) (s : σ) :
    ((m.run p.settle s).1 = none ∧ p.channel = none ∧
      ∃ e, (m.run p.allocator.acquire s).1 = .error e) ∨
    ∃ port name owned, (m.run p.settle s).1 = some (port, name, owned) ∧
      ((p.channel = none ∧ owned = true ∧
          ∃ lease, (m.run p.allocator.acquire s).1 = .ok lease ∧ lease.port = port) ∨
        p.channel = some port ∧ (owned = false → ∃ names,
          m.events p.settle s = [⟨.engine (.publishing port), .ok (name :: names)⟩])) := by
  cases channel : p.channel with
  | none =>
    rw [settle_eq channel, Machine.run_bind]
    cases leased : (m.run p.allocator.acquire s).1 with
    | error e => exact .inl ⟨rfl, rfl, e, rfl⟩
    | ok lease => exact .inr ⟨lease.port, _, true, rfl, .inl ⟨rfl, rfl, lease, rfl, rfl⟩⟩
  | some port =>
    have run := Program.runs_events m p.settle s
    obtain ⟨x, t', asked, found⟩ := runs_settle_channel channel run
    obtain ⟨name, rest, rfl, settled, rfl⟩ | ⟨-, ⟨name, settled⟩, -⟩ := found
    · exact .inr ⟨port, name, false, settled, .inr ⟨rfl, fun _ => ⟨rest, asked⟩⟩⟩
    · exact .inr ⟨port, name, true, settled, .inr ⟨rfl, nofun⟩⟩

theorem exitCode_eq_zero {x : Except String (Option Int)} : exitCode x = 0 ↔ x = .ok (some 0) := by
  match x with
  | .ok (some code) => simp [exitCode]
  | .ok none => simp [exitCode, Host.failureExit]
  | .error e => simp [exitCode, Host.failureExit]

theorem Tried.length_le (h : p.Tried i port name owned t) : (tested t).length ≤ 1 := by
  obtain untested | ⟨before, x, after, rfl, first, last, -⟩ := h
  · simp [untested]
  · rw [Host.tested_append, first, List.nil_append]
    exact (congrArg (fun l => (x :: l).length) last).le

theorem Ending.eq_zero_iff (h : p.Ending port name owned t code) :
    code = 0 ↔ tested t = [.ok (some 0)] ∧ ¬ Cut t := by
  cases h with
  | interrupted cut => simp [Host.interruptedExit, cut]
  | unstarted uncut own failed =>
    have untested : tested t = [] := by
      rw [← Host.tested_worked]
      exact Host.tested_eq_nil (failed.asks (asks_start _ _ _)) fun _ _ => id
    simp [Host.failureExit, untested]
  | answered uncut told => simp [exitCode_eq_zero, told, uncut]

theorem quiet_of_cleaned {r : CleanupReport}
    (run : Program.Runs (Host.ofEngine (p.cleaner.cleanup (.one name))) t r) :
    tested t = [] ∧ ¬ Cut t := by
  have about := run.asks (Host.asks_ofEngine (P := Attends (Call.About name))
    (p.cleaner.asks_cleanup name))
  exact ⟨Host.tested_eq_nil about fun _ _ => id, Host.not_cut about id⟩

theorem quiet_of_returned (p : Pipeline) (port : Port.Number) :
    tested (p.returned port) = [] ∧ ¬ Cut (p.returned port) := by
  unfold returned
  split
  · exact ⟨rfl, List.not_mem_nil⟩
  · refine ⟨rfl, ?_⟩
    rintro (_ | ⟨_, ⟨⟩⟩)

/-- The test is run at most once, by a sandbox of our own that became ready or by one taken over on
the port from outside, and is told the port of that sandbox. The exit code is 1 and nothing is
launched if no port could be leased; otherwise it is 130 after an interrupt, 1 if our sandbox did not
start or the test gave no code, and the test's own code in all other cases. So it is 0 if and only if
the test passed and no interrupt came. A sandbox of our own is cleaned up once, after its start and
the test, and then a leased port is given back. -/
theorem run_exit {σ : Type} (engine : p.allocator.registry = .engine) (i : Invocation)
    (m : Machine Host.interface σ) (s : σ) : ∃ code s' t,
    m.run (p.run i) s = (code, s') ∧ m.events (p.run i) s = t ∧
    (tested t).length ≤ 1 ∧ (code = 0 ↔ tested t = [.ok (some 0)] ∧ ¬ Cut t) ∧
    ((p.channel = none ∧ (∃ e, (m.run p.allocator.acquire s).1 = .error e) ∧
        code = Host.failureExit ∧ ∀ e ∈ t, e.question.Settles) ∨
      ∃ port name owned settled middle cleaned,
        t = settled ++ (middle ++ cleaned) ++ p.returned port ∧
        (∀ e ∈ settled, e.question.Settles) ∧
        ((p.channel = none ∧ owned = true ∧
            ∃ lease, (m.run p.allocator.acquire s).1 = .ok lease ∧ lease.port = port) ∨
          p.channel = some port ∧ (owned = false → ∃ names,
            settled = [⟨.engine (.publishing port), .ok (name :: names)⟩])) ∧
        (∃ r, Program.Runs (Host.interruptible (p.execute i port name owned)) middle r) ∧
        p.Tried i port name owned middle ∧
        (i.environment port).lookup Variable.port = some (Text.Decimal.text port.toNat) ∧
        (i.environment port).lookup Variable.testPort = some (Text.Decimal.text port.toNat) ∧
        p.Ending port name owned middle code ∧
        if owned then ∃ report,
          Program.Runs (Host.ofEngine (p.cleaner.cleanup (.one name))) cleaned report
        else cleaned = []) := by
  have apart : ∀ i values, ¬ (Host.Ask.test i values).Settles := fun _ _ => id
  have settling := (Program.runs_events m p.settle s).asks (asks_settle_settles engine)
  have untested := Host.tested_eq_nil settling apart
  have unsettled : ¬ Cut (m.events p.settle s) := Host.not_cut settling id
  rw [run_eq, Machine.run_bind, Machine.events_bind]
  have later := Program.runs_events m (p.carryOut i (m.run p.settle s).1) (m.run p.settle s).2
  generalize m.events (p.carryOut i (m.run p.settle s).1) (m.run p.settle s).2 = t at later ⊢
  cases ended : m.run (p.carryOut i (m.run p.settle s).1) (m.run p.settle s).2 with
  | mk code s' =>
    rw [ended] at later
    refine ⟨code, s', _, rfl, rfl, ?_⟩
    obtain ⟨none, channel, refused⟩ | ⟨port, name, owned, some, place⟩ := p.run_settle m s
    · rw [none] at later
      obtain ⟨rfl, rfl⟩ := Program.runs_done.1 later
      rw [List.append_nil]
      refine ⟨by simp [untested], ?_, .inl ⟨channel, refused, rfl, settling⟩⟩
      simp [untested, Host.failureExit]
    · rw [some] at later
      obtain ⟨t₁, code', t₂, used, given, rfl⟩ := Program.runs_bind.1 later
      obtain ⟨t₃, u, t₄, back, done, rfl⟩ := Program.runs_bind.1 given
      obtain ⟨rfl, rfl⟩ := Program.runs_done.1 done
      obtain rfl := giveBack_runs back
      obtain ⟨middle, cleaned, rfl, executed, tried, ending, cleans⟩ := use_runs used
      have quiet : tested cleaned = [] ∧ ¬ Cut cleaned := by
        cases owned with
        | true =>
          obtain ⟨report, run⟩ := cleans
          exact quiet_of_cleaned run
        | false =>
          obtain rfl := cleans
          exact ⟨rfl, List.not_mem_nil⟩
      have back := quiet_of_returned p port
      have told : tested (m.events p.settle s ++ (middle ++ cleaned ++ (p.returned port ++ []))) =
          tested middle := by simp [untested, quiet.1, back.1]
      have cut : Cut (m.events p.settle s ++ (middle ++ cleaned ++ (p.returned port ++ []))) ↔
          Cut middle := by simp [unsettled, quiet.2, back.2]
      rw [told, cut]
      refine ⟨tried.length_le, ending.eq_zero_iff, .inr ⟨port, name, owned, _, middle, cleaned,
        by simp, settling, place, executed, tried, rfl, rfl, ending, cleans⟩⟩

def toldPort : Pipeline := { onePort with channel := some 8085 }

theorem run_exit_toldPort : ∃ s' t,
    (Site.smooth "locks" (fun _ => 7) ()).run (toldPort.run smoke)
      ⟨{}, ⟨⟨{}, []⟩, fun _ => []⟩⟩ = (0, s') ∧
    (Site.smooth "locks" (fun _ => 7) ()).events (toldPort.run smoke)
      ⟨{}, ⟨⟨{}, []⟩, fun _ => []⟩⟩ = t ∧ tested t = [.ok (some 0)] ∧ ¬ Cut t := by
  obtain ⟨code, s', t, run, events, -, zero, -⟩ := run_exit (p := toldPort) rfl smoke
    (Site.smooth "locks" (fun _ => 7) ()) ⟨{}, ⟨⟨{}, []⟩, fun _ => []⟩⟩
  have passed : ((Site.smooth "locks" (fun _ => 7) ()).run (toldPort.run smoke)
      ⟨{}, ⟨⟨{}, []⟩, fun _ => []⟩⟩).1 = 0 := by decide +kernel
  rw [run] at passed
  obtain rfl : code = 0 := passed
  exact ⟨s', t, run, events, zero.1 rfl⟩

end Sandbox.Pipeline

end TestRig
