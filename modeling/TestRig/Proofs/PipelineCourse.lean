import Mathlib.Tactic
import TestRig.Proofs.PipelineStages

/-!
The course of one pipeline that leases its port, told by what it knows of that port: nothing, the
lock, that nothing publishes it, or that its own sandbox does. A launch is asked for only on a port
that nothing publishes, and the lock is given back last. Nothing here speaks of other pipelines; the
surroundings may answer as they like, as long as no look-up of a port fails.

With `strict`, look-ups by name and removals do not fail either, and then no sandbox is left when
the lock is given back.
-/

namespace TestRig.Sandbox

open Host (Routine)
open Host.Ask (Within)
open Engine (Call)
open Port (lockKey)

inductive Standing
  | free
  | locked (key : String)
  /-- The port is locked, and nothing that runs publishes it. -/
  | clear (port : Port.Number)
  /-- The port is locked, and a sandbox of this name was launched on it. -/
  | serving (port : Port.Number) (name : String)

namespace Standing

def key? : Standing → Option String
  | free => none
  | locked key => some key
  | clear port => some (lockKey port)
  | serving port _ => some (lockKey port)

def Serves : Standing → Prop
  | serving _ _ => True
  | _ => False

def unpublished (port : Port.Number) : Standing → Standing
  | locked key => if key = lockKey port then clear port else locked key
  | st => st

def gone (name : String) : Standing → Standing
  | serving port other => if other = name then locked (lockKey port) else serving port other
  | st => st

def listed (pattern : String) (stopped : Bool) (names : List String) : Standing → Standing
  | serving port name =>
    if pattern = exactly name ∧ stopped = true ∧ names.contains name = false then
      locked (lockKey port)
    else serving port name
  | st => st

def afterCall (st : Standing) : (c : Call) → Except Engine.Error c.Answer → Standing
  | .run spec, .ok _ => serving spec.hostPort spec.name
  | .publishing port, .ok names => if List.isEmpty names then st.unpublished port else st
  | .matching pattern stopped, .ok names => st.listed pattern stopped names
  | .remove name, .ok _ => st.gone name
  | _, _ => st

def after (st : Standing) : (q : Host.Ask) → q.Answer → Standing
  | .engine c, x => st.afterCall c x
  | .lock key, x => match x with
    | .ok true => locked key
    | _ => st
  | .unlock _, _ => free
  | _, _ => st

def Lawful (strict : Prop) : (q : Host.Ask) → q.Answer → Prop
  | .engine (.publishing _), x => ∀ e, x ≠ .error e
  | .engine (.matching _ _), x => strict → ∀ e, x ≠ .error e
  | .engine (.remove _), x => strict → ∀ e, x ≠ .error e
  | _, _ => True

/-- What may be asked in a standing, and what the answers lead to. -/
def course (strict : Prop) : World Host.interface Standing where
  Allows
    | .lock _, st => st = free
    | .unlock key, st => st.key? = some key ∧ (strict → ¬ st.Serves)
    | .engine (.run spec), st => st = clear spec.hostPort
    | _, _ => True
  Answers q st x st' := Lawful strict q x ∧ st' = st.after q x

variable {strict : Prop} {st st' : Standing} {port : Port.Number} {name : String}

def Idle : Call → Prop
  | .logs _ => True
  | .stop _ _ => True
  | .kill _ => True
  | .pruneNetworks => True
  | .pruneVolumes => True
  | _ => False

theorem course_of_idle {q : Host.Ask} (idle : q.Within Idle) : (course strict).Allows q st ∧
    ∀ x st', (course strict).Answers q st x st' → st' = st := by
  cases q
  case engine c =>
    cases c
    case logs | stop | kill | pruneNetworks | pruneVolumes =>
      refine ⟨trivial, fun x st' answered => ?_⟩
      exact answered.2
    all_goals exact idle.elim
  case lock | unlock => exact idle.elim
  all_goals exact ⟨trivial, fun x st' answered => answered.2⟩

theorem stages : Port.Stages (course strict) (· = free) (fun port st => st = locked (lockKey port))
    (fun port st => st = clear port) where
  look := by
    rintro q _ rfl looks
    cases q
    case engine c =>
      cases c
      case publishing port =>
        refine ⟨trivial, fun (x : Except Engine.Error (List String)) st' answered => ?_⟩
        rw [answered.2]
        cases x with
        | error e => rfl
        | ok names => exact ite_self (c := List.isEmpty names = true) free
      case matching pattern stopped =>
        refine ⟨trivial, fun (x : Except Engine.Error (List String)) st' answered => ?_⟩
        rw [answered.2]
        cases x <;> rfl
      case logs name => exact ⟨trivial, fun x st' answered => answered.2⟩
      all_goals exact looks.elim
    case lock | unlock => exact looks.elim
    all_goals exact ⟨trivial, fun x st' answered => answered.2⟩
  lock := by
    rintro port _ rfl
    refine ⟨rfl, fun (x : Except SystemError Bool) st' answered => ⟨?_, fun refused => ?_⟩⟩
    · rintro rfl
      exact answered.2
    · rw [answered.2]
      match x with
      | .error e => rfl
      | .ok false => rfl
      | .ok true => exact absurd rfl refused
  again := by
    rintro port _ rfl
    refine ⟨trivial, fun x st' answered => ⟨?_, ?_⟩⟩
    · rintro ⟨name, rest, rfl⟩
      exact answered.2
    · rintro (rfl | ⟨e, rfl⟩)
      · rw [answered.2]
        exact if_pos rfl
      · exact absurd rfl (answered.1 e)
  unlock := by
    rintro port _ rfl
    exact ⟨⟨rfl, fun _ => id⟩, fun _ _ answered => answered.2⟩
  hold := by
    rintro port q _ rfl apart
    exact course_of_idle (Host.Ask.within_mono (fun _ => False.elim) apart)

theorem key?_unpublished (st : Standing) (port : Port.Number) :
    (st.unpublished port).key? = st.key? := by
  cases st with
  | locked key =>
    by_cases same : key = lockKey port <;> simp [unpublished, key?, same]
  | _ => rfl

theorem key?_gone (st : Standing) (name : String) : (st.gone name).key? = st.key? := by
  cases st with
  | serving port other =>
    by_cases same : other = name <;> simp [gone, key?, same]
  | _ => rfl

theorem key?_listed (st : Standing) (pattern : String) (stopped : Bool) (names : List String) :
    (st.listed pattern stopped names).key? = st.key? := by
  cases st with
  | serving port name =>
    simp only [listed]
    split_ifs <;> rfl
  | _ => rfl

theorem key?_afterCall {c : Call} (allowed : (course strict).Allows (.engine c) st)
    (x : Except Engine.Error c.Answer) : (st.afterCall c x).key? = st.key? := by
  cases c
  case run spec =>
    obtain rfl : st = clear spec.hostPort := allowed
    cases x <;> rfl
  case publishing port =>
    cases x with
    | error e => rfl
    | ok names =>
      simp only [afterCall]
      split_ifs
      · exact key?_unpublished st port
      · rfl
  case matching pattern stopped =>
    cases x with
    | error e => rfl
    | ok names => exact key?_listed st pattern stopped names
  case remove name =>
    cases x with
    | error e => rfl
    | ok _ => exact key?_gone st name
  all_goals rfl

/-- The port is locked, and no sandbox was launched on it but one of this name. -/
def Engaged (port : Port.Number) (name : String) (st : Standing) : Prop :=
  st = clear port ∨ st = locked (lockKey port) ∨ st = serving port name

def Vacated (strict : Prop) (port : Port.Number) (name : String) (st : Standing) : Prop :=
  Engaged port name st ∧ (strict → ¬ st.Serves)

theorem key?_of_engaged (h : Engaged port name st) : st.key? = some (lockKey port) := by
  obtain rfl | rfl | rfl := h <;> rfl

theorem gone_of_engaged (h : Engaged port name st) : Vacated strict port name (st.gone name) := by
  obtain rfl | rfl | rfl := h
  · exact ⟨.inl rfl, fun _ => id⟩
  · exact ⟨.inr (.inl rfl), fun _ => id⟩
  · rw [gone, if_pos rfl]
    exact ⟨.inr (.inl rfl), fun _ => id⟩

theorem listed_of_absent (h : Engaged port name st) {names : List String}
    (absent : names.contains name = false) :
    Vacated strict port name (st.listed (exactly name) true names) := by
  obtain rfl | rfl | rfl := h
  · exact ⟨.inl rfl, fun _ => id⟩
  · exact ⟨.inr (.inl rfl), fun _ => id⟩
  · rw [listed, if_pos ⟨rfl, rfl, absent⟩]
    exact ⟨.inr (.inl rfl), fun _ => id⟩

theorem listed_of_engaged (h : Engaged port name st) (pattern : String) (stopped : Bool)
    (names : List String) : Engaged port name (st.listed pattern stopped names) := by
  obtain rfl | rfl | rfl := h
  · exact .inl rfl
  · exact .inr (.inl rfl)
  · simp only [listed]
    split_ifs
    · exact .inr (.inl rfl)
    · exact .inr (.inr rfl)

theorem removal (port : Port.Number) (name : String) : Removal (course strict).engine name
    (Engaged port name) (Engaged port name) (Vacated strict port name) where
  find := by
    intro st engaged
    refine ⟨trivial, fun x st' answered => ?_⟩
    obtain ⟨lawful, rfl⟩ := answered
    cases x with
    | error e =>
      have here : Engaged port name
          (st.after (.engine (.matching (exactly name) true)) (.error e)) := engaged
      exact ⟨here, fun _ => here, fun _ => ⟨here, fun s => absurd rfl (lawful s e)⟩⟩
    | ok names =>
      have here := listed_of_engaged engaged (exactly name) true names
      exact ⟨here, fun _ => here, fun absent => listed_of_absent engaged (absent names rfl)⟩
  stop := by
    intro grace st engaged
    refine ⟨trivial, fun x st' answered => ?_⟩
    obtain ⟨-, rfl⟩ := answered
    exact ⟨engaged, engaged⟩
  kill := by
    intro st engaged
    refine ⟨trivial, fun x st' answered => ?_⟩
    obtain ⟨-, rfl⟩ := answered
    exact ⟨engaged, engaged⟩
  remove := by
    intro st engaged
    refine ⟨trivial, fun x st' answered => ?_⟩
    obtain ⟨lawful, rfl⟩ := answered
    cases x with
    | error e => exact ⟨engaged, engaged, fun s => absurd rfl (lawful s e)⟩
    | ok _ =>
      have vacated : Vacated strict port name (st.gone name) := gone_of_engaged engaged
      exact ⟨vacated.1, vacated⟩

def Clears (port : Port.Number) : (q : Host.Ask) → q.Answer → Prop
  | .engine (.publishing other), x => other = port ∧ x = .ok []
  | _, _ => False

def Dismisses (name : String) : (q : Host.Ask) → q.Answer → Prop
  | .engine (.matching pattern stopped), x => pattern = exactly name ∧ stopped = true ∧
      ∃ names : List String, x = .ok names ∧ names.contains name = false
  | .engine (.remove other), x => other = name ∧ x = .ok ()
  | _, _ => False

theorem clear_of_unpublished {other : Port.Number} (h : st.unpublished other = clear port) :
    st = clear port ∨ other = port := by
  cases st with
  | locked key =>
    simp only [unpublished] at h
    split_ifs at h
    cases h
    exact .inr rfl
  | _ => exact .inl h

theorem clear_of_gone {other : String} (h : st.gone other = clear port) : st = clear port := by
  cases st with
  | serving _ name =>
    simp only [gone] at h
    split_ifs at h
  | _ => exact h

theorem clear_of_listed {pattern : String} {stopped : Bool} {names : List String}
    (h : st.listed pattern stopped names = clear port) : st = clear port := by
  cases st with
  | serving _ name =>
    simp only [listed] at h
    split_ifs at h
  | _ => exact h

theorem clear_of_after {q : Host.Ask} {x : q.Answer} (allowed : (course strict).Allows q st)
    (h : st.after q x = clear port) : st = clear port ∨ Clears port q x := by
  cases q
  case engine c =>
    cases c
    case run spec =>
      obtain rfl : st = clear spec.hostPort := allowed
      cases x with
      | error e => exact .inl h
      | ok _ => cases h
    case publishing other =>
      cases x with
      | error e => exact .inl h
      | ok names =>
        change List String at names
        by_cases empty : names = []
        · subst empty
          exact (clear_of_unpublished h).imp id fun same => ⟨same, rfl⟩
        · refine .inl (Eq.trans ?_ h)
          simp [after, afterCall, empty]
    case matching pattern stopped =>
      cases x with
      | error e => exact .inl h
      | ok names => exact .inl (clear_of_listed h)
    case remove name =>
      cases x with
      | error e => exact .inl h
      | ok _ => exact .inl (clear_of_gone h)
    all_goals exact .inl h
  case lock key =>
    match x with
    | .error e => exact .inl h
    | .ok false => exact .inl h
    | .ok true => cases h
  case unlock key => cases h
  all_goals exact .inl h

theorem after_of_serving {q : Host.Ask} {x : q.Answer} (s : strict)
    (allowed : (course strict).Allows q (serving port name)) :
    (serving port name).after q x = serving port name ∨ Dismisses name q x := by
  cases q
  case engine c =>
    cases c
    case run spec => cases allowed
    case publishing other =>
      cases x with
      | error e => exact .inl rfl
      | ok names => exact .inl (ite_self _)
    case matching pattern stopped =>
      cases x with
      | error e => exact .inl rfl
      | ok names =>
        change List String at names
        by_cases absent : pattern = exactly name ∧ stopped = true ∧ names.contains name = false
        · exact .inr ⟨absent.1, absent.2.1, names, rfl, absent.2.2⟩
        · exact .inl (if_neg absent)
    case remove other =>
      cases x with
      | error e => exact .inl rfl
      | ok _ =>
        by_cases same : other = name
        · exact .inr ⟨same, rfl⟩
        · exact .inl (if_neg fun e => same e.symm)
    all_goals exact .inl rfl
  case lock key => cases allowed
  case unlock key => exact absurd trivial (allowed.2 s)
  all_goals exact .inl rfl

theorem keeps_idle {α : Type} {R : Standing → Prop} {r : Routine α}
    (idle : Program.Asks (Within Idle) r) (h : R st) :
    (course strict).Keeps R r (fun _ st' => st' = st) st :=
  World.keeps_of_asks idle h fun _ => course_of_idle

end Standing

namespace Pipeline

open Standing

variable {strict : Prop} (p : Pipeline) (i : Invocation) (port : Port.Number) (name : String)

theorem keeps_start (s : Settings) : (course strict).Keeps (Engaged port name) (start s port name)
    (fun _ => Engaged port name) (clear port) := by
  refine ⟨rfl, fun (x : Except Engine.Error Unit) st answered => ?_⟩
  obtain ⟨-, rfl⟩ := answered
  cases x with
  | error e => exact ⟨.inl rfl, .inl rfl⟩
  | ok _ =>
    have serving : Engaged port name (serving port name) := .inr (.inr rfl)
    refine ⟨serving, ?_⟩
    have idle : Program.Asks (Within Idle) (waitReady s port name s.readyAttempts) :=
      Program.asks_mono (fun _ => Host.Ask.within_of_attends) (asks_waitReady trivial)
    refine (keeps_idle idle serving).bind fun ready st same => ?_
    subst same
    cases ready with
    | true => exact serving
    | false =>
      have rules : Removal (course strict).engine name (Engaged port name) (Engaged port name)
          (Vacated strict port name) := removal port name
      exact (World.keeps_ofEngine.2 (rules.keeps_stop s.stopGrace serving)).bind
        fun _ _ vacated => vacated.1

theorem keeps_execute : (course strict).Keeps (Engaged port name) (p.execute i port name true)
    (fun _ => Engaged port name) (clear port) := by
  have provide : (course strict).Keeps (Engaged port name) (p.provide port name true)
      (fun _ => Engaged port name) (clear port) :=
    (keeps_start port name p.settings).bind fun started st engaged => by
      cases started <;> exact engaged
  refine provide.bind fun provided st engaged => ?_
  cases provided with
  | false => exact engaged
  | true =>
    have idle : Program.Asks (Within Idle) (Host.test i (i.environment port)) :=
      Program.asks_query trivial
    refine (keeps_idle idle engaged).bind fun _ st' same => ?_
    subst same
    exact engaged

theorem keeps_use : (course strict).Keeps (fun _ => True) (p.use i port name true)
    (fun _ => Vacated strict port name) (clear port) := by
  have cut : (course strict).Keeps (Engaged port name)
      (Host.interruptible (p.execute i port name true)) (fun _ => Engaged port name)
      (clear port) := by
    refine (Host.keeps_interruptible (fun st engaged => ?_) (.inl rfl)
      (p.keeps_execute i port name)).weaken ?_
    · exact course_of_idle (q := .interrupted) trivial
    · rintro r st (⟨-, engaged⟩ | ⟨_, -, engaged⟩) <;> exact engaged
  have cleanup : ∀ st, Engaged port name st → (course strict).Keeps (Engaged port name)
      (Host.ofEngine (p.cleaner.cleanup (.one name))) (fun _ => Vacated strict port name) st := by
    intro st engaged
    refine World.keeps_ofEngine.2 ((removal port name).keeps_cleanup p.cleaner ?_ engaged)
    intro st vacated call prunes
    refine ⟨?_, ?_⟩
    · obtain rfl | rfl := prunes <;> trivial
    · intro x st' answered
      obtain rfl : st' = st := by
        obtain rfl | rfl := prunes <;> exact answered.2
      exact ⟨vacated.1, vacated⟩
  refine (cut.bind fun code st engaged => ?_).mono (fun _ _ => trivial) fun _ _ h => h
  exact (cleanup st engaged).bind fun _ _ vacated => vacated

/-- A pipeline that leases its port asks only for what its standing allows, to the end, and leaves
with nothing. -/
theorem keeps_course (channel : p.channel = none) (engine : p.allocator.registry = .engine) :
    (course strict).Keeps (fun _ => True) (p.run i) (fun _ st => st = free) free := by
  rw [run_eq]
  refine (keeps_settle stages channel engine rfl).bind fun settled st ended => ?_
  obtain ⟨rfl, rfl⟩ | ⟨port, name, rfl, rfl⟩ := ended
  · rfl
  · refine (p.keeps_use i port name).bind fun code st vacated => ?_
    rw [giveBack, channel]
    exact ⟨⟨key?_of_engaged vacated.1, vacated.2⟩, fun _ st' answered => ⟨trivial, answered.2⟩⟩

end Pipeline

end TestRig.Sandbox
