import Mathlib.Tactic
import TestRig.Host
import TestRig.Proofs.World

/-!
Routines of a host that are made of others: calls of the engine alone, and a routine that an
interrupt may cut. What holds at the end of a cut routine is what held after every answer.
-/

namespace TestRig

def Host.Ask.Within (P : Engine.Call → Prop) : Host.Ask → Prop
  | engine call => P call
  | lock _ => False
  | unlock _ => False
  | _ => True

/-- Questions for attending to a sandbox: what it answers, what to show, how long to wait, and these
calls of the engine. -/
def Host.Ask.Attends (P : Engine.Call → Prop) : Host.Ask → Prop
  | engine call => P call
  | probe _ => True
  | pause _ => True
  | say _ _ => True
  | _ => False

namespace Host

abbrev Trace := List (Event interface)

def ofCall (e : Event Engine.interface) : Event interface := ⟨.engine e.question, e.answer⟩

def called (t : Trace) : List (Event Engine.interface) := t.filterMap fun
  | ⟨.engine call, x⟩ => some ⟨call, x⟩
  | _ => none

def probed (t : Trace) : List Health := t.filterMap fun
  | ⟨.probe _, health⟩ => some health
  | _ => none

def paused (t : Trace) : List Duration := t.filterMap fun
  | ⟨.pause length, _⟩ => some length
  | _ => none

def tested (t : Trace) : List (Except String (Option Int)) := t.filterMap fun
  | ⟨.test _ _, x⟩ => some x
  | _ => none

def said (t : Trace) : List (Channel × String) := t.filterMap fun
  | ⟨.say channel text, _⟩ => some (channel, text)
  | _ => none

def written (t : Trace) : List (String × Writing × String) := t.filterMap fun
  | ⟨.write path mode text, _⟩ => some (path, mode, text)
  | _ => none

/-- The interrupt was found. -/
def Cut (t : Trace) : Prop := (⟨.interrupted, true⟩ : Event interface) ∈ t

def worked (t : Trace) : Trace := t.filter fun e => e.question ≠ .interrupted

@[simp] theorem called_engine (call : Engine.Call) (x : Except Engine.Error call.Answer)
    (t : Trace) : called (⟨.engine call, x⟩ :: t) = ⟨call, x⟩ :: called t := rfl

@[simp] theorem probed_engine (call : Engine.Call) (x : Except Engine.Error call.Answer)
    (t : Trace) : probed (⟨.engine call, x⟩ :: t) = probed t := rfl

@[simp] theorem paused_engine (call : Engine.Call) (x : Except Engine.Error call.Answer)
    (t : Trace) : paused (⟨.engine call, x⟩ :: t) = paused t := rfl

@[simp] theorem called_append (t t' : Trace) : called (t ++ t') = called t ++ called t' :=
  List.filterMap_append

@[simp] theorem probed_append (t t' : Trace) : probed (t ++ t') = probed t ++ probed t' :=
  List.filterMap_append

@[simp] theorem paused_append (t t' : Trace) : paused (t ++ t') = paused t ++ paused t' :=
  List.filterMap_append

@[simp] theorem said_append (t t' : Trace) : said (t ++ t') = said t ++ said t' :=
  List.filterMap_append

@[simp] theorem written_append (t t' : Trace) : written (t ++ t') = written t ++ written t' :=
  List.filterMap_append

@[simp] theorem called_map_ofCall (t : List (Event Engine.interface)) :
    called (t.map ofCall) = t := by
  rw [called, List.filterMap_map]
  exact List.filterMap_some

@[simp] theorem probed_map_ofCall (t : List (Event Engine.interface)) :
    probed (t.map ofCall) = [] := by
  rw [probed, List.filterMap_map]
  exact List.filterMap_none _

@[simp] theorem said_map_ofCall (t : List (Event Engine.interface)) :
    said (t.map ofCall) = [] := by
  rw [said, List.filterMap_map]
  exact List.filterMap_none _

@[simp] theorem written_map_ofCall (t : List (Event Engine.interface)) :
    written (t.map ofCall) = [] := by
  rw [written, List.filterMap_map]
  exact List.filterMap_none _

variable {α σ : Type}

theorem Ask.within_mono {P P' : Engine.Call → Prop} (h : ∀ c, P c → P' c) {q : Ask}
    (within : q.Within P) : q.Within P' := by
  cases q
  case engine call => exact h call within
  all_goals exact within

theorem Ask.within_of_attends {P : Engine.Call → Prop} {q : Ask} (attends : q.Attends P) :
    q.Within P := by
  cases q
  case engine call => exact attends
  case probe | pause | say => trivial
  all_goals exact attends.elim

theorem asks_ofEngine {P : Ask → Prop} {p : Engine.Routine α} (h : p.Asks fun c => P (.engine c)) :
    Program.Asks P (ofEngine p) := by
  induction p with
  | done a => trivial
  | ask call next ih => exact ⟨h.1, fun x => ih x (h.2 x)⟩

theorem asks_interruptible {P : Ask → Prop} {p : Routine α} (h : Program.Asks P p)
    (interrupted : P .interrupted) : Program.Asks P (interruptible p) := by
  have going : Program.Asks P (interruptible.go p) := by
    induction p with
    | done a => trivial
    | ask q next ih =>
      refine ⟨h.1, fun x => ⟨interrupted, fun cut => ?_⟩⟩
      cases (cut : Bool) with
      | true => trivial
      | false => exact ih x (h.2 x)
  refine ⟨interrupted, fun cut => ?_⟩
  cases (cut : Bool) with
  | true => trivial
  | false => exact going

theorem tested_eq_nil {P : Ask → Prop} {t : Trace} (h : ∀ e ∈ t, P e.question)
    (apart : ∀ i values, ¬ P (.test i values)) : tested t = [] := by
  refine List.filterMap_eq_nil_iff.2 ?_
  rintro ⟨q, x⟩ among
  cases q
  case test i values => exact (apart i values (h _ among)).elim
  all_goals rfl

theorem not_cut {P : Ask → Prop} {t : Trace} (h : ∀ e ∈ t, P e.question)
    (apart : ¬ P .interrupted) : ¬ Cut t := fun cut => apart (h _ cut)

@[simp] theorem tested_append (t t' : Trace) : tested (t ++ t') = tested t ++ tested t' :=
  List.filterMap_append

@[simp] theorem cut_append {t t' : Trace} : Cut (t ++ t') ↔ Cut t ∨ Cut t' := List.mem_append

theorem worked_cons {q : Ask} (work : q ≠ .interrupted) (x : q.Answer) (t : Trace) :
    worked (⟨q, x⟩ :: t) = ⟨q, x⟩ :: worked t := by
  simp [worked, work]

theorem cut_cons {q : Ask} (work : q ≠ .interrupted) (x : q.Answer) (t : Trace) :
    Cut (⟨q, x⟩ :: t) ↔ Cut t := by
  refine ⟨fun cut => ?_, List.mem_cons_of_mem _⟩
  obtain same | cut := List.mem_cons.1 cut
  · cases same
    exact absurd rfl work
  · exact cut

theorem cut_look (t : Trace) : Cut (⟨.interrupted, false⟩ :: t) ↔ Cut t := by
  refine ⟨fun cut => ?_, List.mem_cons_of_mem _⟩
  obtain ⟨⟨⟩⟩ | cut := List.mem_cons.1 cut
  exact cut

@[simp] theorem tested_worked (t : Trace) : tested (worked t) = tested t := by
  rw [worked, tested, List.filterMap_filter]
  refine List.filterMap_congr fun e _ => ?_
  obtain ⟨q, x⟩ := e
  cases q <;> rfl

theorem runs_look {next : Routine (Option α)} {t : Trace} {r : Option α}
    (run : Program.Runs (.ask (I := interface) .interrupted fun (cut : Bool) =>
      if cut then .done none else next) t r) :
    (t = [⟨.interrupted, true⟩] ∧ r = none) ∨
      ∃ t', t = ⟨.interrupted, false⟩ :: t' ∧ Program.Runs next t' r := by
  obtain ⟨(cut : Bool), t₁, later, rfl⟩ := Program.runs_ask.1 run
  cases cut with
  | true =>
    obtain ⟨rfl, rfl⟩ := Program.runs_done.1 later
    exact .inl ⟨rfl, rfl⟩
  | false => exact .inr ⟨t₁, rfl, later⟩

/-- A routine that an interrupt may cut begins like the routine, and runs to its end unless the
interrupt is found. -/
theorem runs_interruptible {p : Routine α} {t : Trace} {r : Option α}
    (plain : Program.Asks (fun q : Ask => q ≠ .interrupted) p)
    (run : Program.Runs (interruptible p) t r) :
    (r = none ∧ Cut t ∧ Program.Begins p (worked t)) ∨
      ∃ a, r = some a ∧ ¬ Cut t ∧ Program.Runs p (worked t) a := by
  have going : ∀ {t}, Program.Runs (interruptible.go p) t r →
      (r = none ∧ Cut t ∧ Program.Begins p (worked t)) ∨
        ∃ a, r = some a ∧ ¬ Cut t ∧ Program.Runs p (worked t) a := by
    clear run
    induction p with
    | done a =>
      intro t run
      obtain ⟨rfl, rfl⟩ := Program.runs_done.1 run
      exact .inr ⟨a, rfl, List.not_mem_nil, Program.runs_done.2 ⟨rfl, rfl⟩⟩
    | ask q next ih =>
      intro t run
      obtain ⟨x, t₁, asked, rfl⟩ := Program.runs_ask.1 run
      rw [cut_cons plain.1, worked_cons plain.1]
      obtain ⟨rfl, rfl⟩ | ⟨t₂, rfl, later⟩ := runs_look asked
      · have begins : Program.Begins (next x) [] := ⟨_, .refl _ _⟩
        exact .inl ⟨rfl, List.mem_cons_self, Program.begins_ask.2 (.inr ⟨x, [], begins, rfl⟩)⟩
      · rw [cut_look]
        obtain ⟨rfl, cut, begins⟩ | ⟨a, rfl, uncut, whole⟩ := ih x (plain.2 x) later
        · exact .inl ⟨rfl, cut, Program.begins_ask.2 (.inr ⟨x, _, begins, rfl⟩)⟩
        · exact .inr ⟨a, rfl, uncut, Program.runs_ask.2 ⟨x, _, whole, rfl⟩⟩
  obtain ⟨rfl, rfl⟩ | ⟨t₁, rfl, later⟩ := runs_look run
  · exact .inl ⟨rfl, List.mem_cons_self, ⟨_, .refl _ _⟩⟩
  · rw [cut_look]
    exact going later

variable {w : World Host.interface σ} {R : σ → Prop} {Q : α → σ → Prop} {s : σ}

/-- An interrupt that leaves the state alone may come at any point of a routine: what is kept up
after every answer is then what the cut leaves behind. -/
theorem keeps_interruptible {p : Routine α}
    (still : ∀ s, R s → w.Allows .interrupted s ∧ ∀ x s', w.Answers .interrupted s x s' → s' = s)
    (hR : R s) (h : w.Keeps R p Q s) :
    w.Keeps R (interruptible p) (fun r s' => (r = none ∧ R s') ∨ ∃ a, r = some a ∧ Q a s') s := by
  have going : ∀ s, w.Keeps R p Q s → w.Keeps R (interruptible.go p)
      (fun r s' => (r = none ∧ R s') ∨ ∃ a, r = some a ∧ Q a s') s := by
    clear h
    induction p with
    | done a => exact fun s h => .inr ⟨a, rfl, h⟩
    | ask q next ih =>
      refine fun s h => ⟨h.1, fun x s' answered => ?_⟩
      obtain ⟨kept, later⟩ := h.2 x s' answered
      refine ⟨kept, (still s' kept).1, fun cut s'' same => ?_⟩
      obtain rfl := (still s' kept).2 cut s'' same
      refine ⟨kept, ?_⟩
      cases (cut : Bool) with
      | true => exact .inl ⟨rfl, kept⟩
      | false => exact ih x s'' later
  refine ⟨(still s hR).1, fun cut s' same => ?_⟩
  obtain rfl := (still s hR).2 cut s' same
  refine ⟨hR, ?_⟩
  cases (cut : Bool) with
  | true => exact .inl ⟨rfl, hR⟩
  | false => exact going s' h

end Host

namespace World

def engine {σ : Type} (w : World Host.interface σ) : World Engine.interface σ where
  Allows call := w.Allows (.engine call)
  Answers call := w.Answers (.engine call)

theorem keeps_ofEngine {α σ : Type} {w : World Host.interface σ} {R : σ → Prop}
    {Q : α → σ → Prop} {p : Engine.Routine α} {s : σ} :
    w.Keeps R (Host.ofEngine p) Q s ↔ w.engine.Keeps R p Q s := by
  induction p generalizing s with
  | done a => rfl
  | ask call next ih =>
    refine and_congr_right fun _ => forall_congr' fun x => forall_congr' fun s' =>
      imp_congr_right fun _ => and_congr_right fun _ => ih x

theorem runs_ofEngine {α σ : Type} {w : World Host.interface σ} {p : Engine.Routine α} {s s' : σ}
    {t : Host.Trace} {a : α} : w.Runs (Host.ofEngine p) s t a s' ↔
      ∃ t', w.engine.Runs p s t' a s' ∧ t = t'.map Host.ofCall := by
  induction p generalizing s t with
  | done b => simp [Host.ofEngine, Program.lift, runs_done, and_comm, and_assoc]
  | ask call next ih =>
    constructor
    · intro run
      obtain ⟨x, s₁, t₁, answered, later, rfl⟩ := runs_ask.1 run
      obtain ⟨t', called, rfl⟩ := (ih x).1 later
      exact ⟨_, .ask answered called, rfl⟩
    · rintro ⟨t', run, rfl⟩
      obtain ⟨x, s₁, t₁, answered, later, rfl⟩ := runs_ask.1 run
      exact .ask answered ((ih x).2 ⟨t₁, later, rfl⟩)

end World

end TestRig
