/-!
Effects as data. A program of an interface is a tree of questions; every answer of the world selects
one branch. A machine answers from a state it keeps, so the same tree runs against a store kept in
memory, against scripted replies, or against an arbitrary environment quantified over in a statement.
-/

namespace TestRig

/-- The questions a program may put to its surroundings, each with the type of its answers. -/
structure Interface where
  Ask : Type
  Answer : Ask → Type

inductive Program (I : Interface) (α : Type) : Type
  | done (value : α)
  | ask (question : I.Ask) (next : I.Answer question → Program I α)

namespace Program

variable {I J : Interface} {α β σ : Type}

def query (question : I.Ask) : Program I (I.Answer question) :=
  ask question done

/-- Sequencing grafts the second program onto every end of the first. -/
def bind : Program I α → (α → Program I β) → Program I β
  | done a, f => f a
  | ask q next, f => ask q fun x => (next x).bind f

instance : Monad (Program I) where
  pure := done
  bind := bind

@[simp] theorem pure_eq (a : α) : (pure a : Program I α) = done a := rfl

@[simp] theorem done_bind (a : α) (f : α → Program I β) : (done a >>= f) = f a := rfl

@[simp] theorem ask_bind (q : I.Ask) (next : I.Answer q → Program I α) (f : α → Program I β) :
    (ask q next >>= f) = ask q fun x => next x >>= f := rfl

@[simp] theorem query_bind (q : I.Ask) (f : I.Answer q → Program I β) :
    (query q >>= f) = ask q f := rfl

theorem bind_done (p : Program I α) : (p >>= done) = p := by
  induction p with
  | done a => rfl
  | ask q next ih => simp only [ask_bind, ih]

theorem bind_assoc {γ : Type} (p : Program I α) (f : α → Program I β) (g : β → Program I γ) :
    (p >>= f >>= g) = (p >>= fun a => f a >>= g) := by
  induction p with
  | done a => rfl
  | ask q next ih => simp only [ask_bind, ih]

instance : LawfulMonad (Program I) :=
  LawfulMonad.mk' (Program I) bind_done (fun _ _ => rfl) bind_assoc

def lift (h : (q : I.Ask) → Program J (I.Answer q)) : Program I α → Program J α
  | done a => done a
  | ask q next => h q >>= fun x => (next x).lift h

end Program

/-- Surroundings that answer each question from a state. -/
structure Machine (I : Interface) (σ : Type) where
  answer : (question : I.Ask) → σ → I.Answer question × σ

namespace Machine

variable {I : Interface} {α β σ : Type}

def run (m : Machine I σ) : Program I α → σ → α × σ
  | .done a, s => (a, s)
  | .ask q next, s =>
    let (x, s') := m.answer q s
    m.run (next x) s'

theorem run_bind (m : Machine I σ) (p : Program I α) (f : α → Program I β) (s : σ) :
    m.run (p >>= f) s = m.run (f (m.run p s).1) (m.run p s).2 := by
  induction p generalizing s with
  | done a => rfl
  | ask q next ih => simp only [Program.ask_bind, run, ih]

end Machine

end TestRig
