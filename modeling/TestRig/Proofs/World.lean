import TestRig.Program

/-!
Surroundings that may answer one question in several ways. A run is a path through a program
together with the answers met on it, and every state along it is reached by such a path. `Keeps`
states what holds all along and at the end; it follows the program, so it is proved one question at
a time, and by `Keeps.steps` it speaks of every run and of every state a run goes through. `Serves`
states that a run never lacks an answer. `Program.Runs` leaves the surroundings out and speaks of
the answers alone.
-/

namespace TestRig

structure Event (I : Interface) where
  question : I.Ask
  answer : I.Answer question

namespace Program

variable {I : Interface} {α β : Type}

def Asks (P : I.Ask → Prop) : Program I α → Prop
  | done _ => True
  | ask q next => P q ∧ ∀ x, (next x).Asks P

theorem asks_mono {P P' : I.Ask → Prop} (h : ∀ q, P q → P' q) {p : Program I α}
    (hp : p.Asks P) : p.Asks P' := by
  induction p with
  | done a => trivial
  | ask q next ih => exact ⟨h q hp.1, fun x => ih x (hp.2 x)⟩

theorem asks_bind {P : I.Ask → Prop} {p : Program I α} {f : α → Program I β}
    (hp : p.Asks P) (hf : ∀ a, (f a).Asks P) : (p >>= f).Asks P := by
  induction p with
  | done a => exact hf a
  | ask q next ih => exact ⟨hp.1, fun x => ih x (hp.2 x)⟩

theorem asks_query {P : I.Ask → Prop} {q : I.Ask} (hq : P q) : (query q).Asks P :=
  ⟨hq, fun _ => trivial⟩

/-- Some answers lead the program to this end. -/
def Ends : Program I α → α → Prop
  | done a, b => a = b
  | ask _ next, b => ∃ x, (next x).Ends b

theorem ends_bind {p : Program I α} {f : α → Program I β} {b : β} :
    (p >>= f).Ends b ↔ ∃ a, p.Ends a ∧ (f a).Ends b := by
  induction p with
  | done a => simp [Ends]
  | ask q next ih =>
    simp only [ask_bind, Ends, ih]
    constructor
    · rintro ⟨x, a, first, second⟩
      exact ⟨a, ⟨x, first⟩, second⟩
    · rintro ⟨a, ⟨x, first⟩, second⟩
      exact ⟨x, a, first, second⟩

/-- What an answer leaves of a program. -/
def Leaves (p p' : Program I α) : Prop := ∃ q next x, p = ask q next ∧ p' = next x

theorem wellFounded_leaves : WellFounded fun p' p : Program I α => p.Leaves p' := by
  refine ⟨fun p => ?_⟩
  induction p with
  | done a => exact ⟨_, by rintro _ ⟨q, next, x, ⟨⟩, -⟩⟩
  | ask q next ih =>
    refine ⟨_, ?_⟩
    rintro _ ⟨_, _, x, ⟨⟩, rfl⟩
    exact ih x

end Program

/-- The answers that each question may get in a state, with the state after them, and what may be
asked at all. -/
structure World (I : Interface) (σ : Type) where
  Allows : I.Ask → σ → Prop := fun _ _ => True
  Answers : (question : I.Ask) → σ → I.Answer question → σ → Prop

namespace World

variable {I : Interface} {α β σ : Type} {w : World I σ}

/-- A part of a run: what was left of the program before and is left after it. -/
inductive Steps (w : World I σ) : Program I α → σ → List (Event I) → Program I α → σ → Prop
  | refl (p : Program I α) (s : σ) : Steps w p s [] p s
  | ask {q : I.Ask} {next : I.Answer q → Program I α} {s s' s'' : σ} {x : I.Answer q}
      {trace : List (Event I)} {p : Program I α} (answered : w.Answers q s x s')
      (rest : Steps w (next x) s' trace p s'') :
      Steps w (.ask q next) s (⟨q, x⟩ :: trace) p s''

def Runs (w : World I σ) (p : Program I α) (s : σ) (trace : List (Event I)) (a : α) (s' : σ) :
    Prop :=
  w.Steps p s trace (.done a) s'

theorem Steps.trans {p p' p'' : Program I α} {s s' s'' : σ} {t t' : List (Event I)}
    (h : w.Steps p s t p' s') (h' : w.Steps p' s' t' p'' s'') :
    w.Steps p s (t ++ t') p'' s'' := by
  induction h with
  | refl => exact h'
  | ask answered _ ih => exact .ask answered (ih h')

theorem runs_bind {p : Program I α} {f : α → Program I β} {s s'' : σ} {t : List (Event I)} {b : β} :
    w.Runs (p >>= f) s t b s'' ↔ ∃ t₁ a s' t₂,
      w.Runs p s t₁ a s' ∧ w.Runs (f a) s' t₂ b s'' ∧ t = t₁ ++ t₂ := by
  constructor
  · intro h
    induction p generalizing s t with
    | done a => exact ⟨[], a, s, t, .refl _ _, h, rfl⟩
    | ask q next ih =>
      cases h with
      | ask answered rest =>
        obtain ⟨t₁, a, s', t₂, first, second, rfl⟩ := ih _ rest
        exact ⟨_ :: t₁, a, s', t₂, .ask answered first, second, rfl⟩
  · rintro ⟨t₁, a, s', t₂, first, second, rfl⟩
    induction p generalizing s t₁ with
    | done c => cases first; exact second
    | ask q next ih =>
      cases first with
      | ask answered rest => exact .ask answered (ih _ _ rest)

theorem Runs.onward {p : Program I α} {a : α} {s s' : σ} {t : List (Event I)}
    (path : w.Runs p s t a s') (f : α → Program I β) : w.Steps (p >>= f) s t (f a) s' := by
  induction p generalizing s t with
  | done b =>
    cases path
    exact .refl _ _
  | ask q next ih =>
    cases path with
    | ask answered rest => exact .ask answered (ih _ rest)

theorem runs_done {a b : α} {s s' : σ} {t : List (Event I)} :
    w.Runs (.done a) s t b s' ↔ t = [] ∧ b = a ∧ s' = s := by
  constructor
  · intro h
    cases h
    exact ⟨rfl, rfl, rfl⟩
  · rintro ⟨rfl, rfl, rfl⟩
    exact .refl _ _

theorem runs_ask {q : I.Ask} {next : I.Answer q → Program I α} {a : α} {s s' : σ}
    {t : List (Event I)} : w.Runs (.ask q next) s t a s' ↔ ∃ x s₁ t₁,
      w.Answers q s x s₁ ∧ w.Runs (next x) s₁ t₁ a s' ∧ t = ⟨q, x⟩ :: t₁ := by
  constructor
  · intro h
    cases h with
    | ask answered rest => exact ⟨_, _, _, answered, rest, rfl⟩
  · rintro ⟨x, s₁, t₁, answered, rest, rfl⟩
    exact .ask answered rest

theorem runs_mapM_cons {f : β → Program I α} {b : β} {rest : List β} {s s' : σ}
    {t : List (Event I)} {as : List α} (run : w.Runs ((b :: rest).mapM f) s t as s') :
    ∃ t₁ a s₁ t₂ as', w.Runs (f b) s t₁ a s₁ ∧ w.Runs (rest.mapM f) s₁ t₂ as' s' ∧
      as = a :: as' ∧ t = t₁ ++ t₂ := by
  rw [List.mapM_cons] at run
  obtain ⟨t₁, a, s₁, _, first, onward, rfl⟩ := runs_bind.1 run
  obtain ⟨t₂, as', s₂, _, later, ended, rfl⟩ := runs_bind.1 onward
  obtain ⟨rfl, rfl, rfl⟩ := runs_done.1 ended
  exact ⟨t₁, a, s₁, t₂, as', first, later, rfl, by rw [List.append_nil]⟩

theorem mem_runs_mapM {f : β → Program I α} {l : List β} {s s' : σ} {t : List (Event I)}
    {as : List α} (run : w.Runs (l.mapM f) s t as s') {e : Event I} (among : e ∈ t) :
    ∃ b ∈ l, ∃ s₁ t₁ a s₂, w.Runs (f b) s₁ t₁ a s₂ ∧ e ∈ t₁ := by
  induction l generalizing s t as with
  | nil =>
    obtain ⟨rfl, -, -⟩ := runs_done.1 run
    exact absurd among List.not_mem_nil
  | cons b rest ih =>
    obtain ⟨t₁, a, s₁, t₂, as', first, later, -, rfl⟩ := runs_mapM_cons run
    obtain among | among := List.mem_append.1 among
    · exact ⟨b, List.mem_cons_self, s, t₁, a, s₁, first, among⟩
    · obtain ⟨b', listed, ran⟩ := ih later among
      exact ⟨b', List.mem_cons_of_mem _ listed, ran⟩

/-- All along the run `R` holds after every answer and only what is allowed is asked; at the end
`Q` holds. -/
def Keeps (w : World I σ) (R : σ → Prop) : Program I α → (α → σ → Prop) → σ → Prop
  | .done a, Q, s => Q a s
  | .ask q next, Q, s => w.Allows q s ∧ ∀ x s', w.Answers q s x s' → R s' ∧ w.Keeps R (next x) Q s'

variable {R R' : σ → Prop} {Q Q' : α → σ → Prop}

theorem keeps_ask {q : I.Ask} {next : I.Answer q → Program I α} {s : σ} :
    w.Keeps R (.ask q next) Q s ↔
      w.Allows q s ∧ ∀ x s', w.Answers q s x s' → R s' ∧ w.Keeps R (next x) Q s' :=
  Iff.rfl

theorem Keeps.mono {p : Program I α} {s : σ} (h : w.Keeps R p Q s) (hR : ∀ s, R s → R' s)
    (hQ : ∀ a s, Q a s → Q' a s) : w.Keeps R' p Q' s := by
  induction p generalizing s with
  | done a => exact hQ a s h
  | ask q next ih =>
    exact ⟨h.1, fun x s' answered => ⟨hR s' (h.2 x s' answered).1, ih x (h.2 x s' answered).2⟩⟩

theorem Keeps.weaken {p : Program I α} {s : σ} (h : w.Keeps R p Q s)
    (hQ : ∀ a s, Q a s → Q' a s) : w.Keeps R p Q' s :=
  h.mono (fun _ r => r) hQ

theorem keeps_bind {p : Program I α} {f : α → Program I β} {Q : β → σ → Prop} {s : σ} :
    w.Keeps R (p >>= f) Q s ↔ w.Keeps R p (fun a s' => w.Keeps R (f a) Q s') s := by
  induction p generalizing s with
  | done a => rfl
  | ask q next ih => simp only [Program.ask_bind, keeps_ask, ih]

theorem Keeps.bind {p : Program I α} {f : α → Program I β} {Q' : β → σ → Prop} {s : σ}
    (h : w.Keeps R p Q s) (hf : ∀ a s, Q a s → w.Keeps R (f a) Q' s) :
    w.Keeps R (p >>= f) Q' s :=
  keeps_bind.2 (h.weaken hf)

theorem Keeps.steps {p p' : Program I α} {s s' : σ} {t : List (Event I)} (h : w.Keeps R p Q s)
    (path : w.Steps p s t p' s') : w.Keeps R p' Q s' := by
  induction path with
  | refl => exact h
  | ask answered _ ih => exact ih (h.2 _ _ answered).2

theorem Keeps.runs {p : Program I α} {a : α} {s s' : σ} {t : List (Event I)} (h : w.Keeps R p Q s)
    (path : w.Runs p s t a s') : Q a s' :=
  h.steps path

theorem Keeps.allowed {p p' : Program I α} {s s' : σ} {t : List (Event I)} (h : w.Keeps R p Q s)
    (path : w.Steps p s t p' s') : ∀ e ∈ t, ∃ u, w.Allows e.question u := by
  induction path with
  | refl => simp
  | ask answered _ ih =>
    intro e he
    rcases List.mem_cons.1 he with rfl | he
    · exact ⟨_, h.1⟩
    · exact ih (h.2 _ _ answered).2 e he

theorem keeps_of_allowed {P : I.Ask → Prop} {p : Program I α} {s : σ} (hp : p.Asks P)
    (allowed : ∀ q s, P q → w.Allows q s) : w.Keeps (fun _ => True) p (fun _ _ => True) s := by
  induction p generalizing s with
  | done a => trivial
  | ask q next ih => exact ⟨allowed q s hp.1, fun x s' _ => ⟨trivial, ih x (hp.2 x)⟩⟩

theorem keeps_of_asks {P : I.Ask → Prop} {p : Program I α} {s : σ} (hp : p.Asks P)
    (hR : R s) (hP : ∀ q, P q → w.Allows q s ∧ ∀ x s', w.Answers q s x s' → s' = s) :
    w.Keeps R p (fun _ s' => s' = s) s := by
  induction p with
  | done a => rfl
  | ask q next ih =>
    refine ⟨(hP q hp.1).1, fun x s' answered => ?_⟩
    obtain rfl := (hP q hp.1).2 x s' answered
    exact ⟨hR, ih x (hp.2 x)⟩

theorem Steps.asks {P : I.Ask → Prop} {p p' : Program I α} {s s' : σ} {t : List (Event I)}
    (path : w.Steps p s t p' s') (hp : p.Asks P) : ∀ e ∈ t, P e.question := by
  induction path with
  | refl => simp
  | ask _ _ ih =>
    intro e he
    rcases List.mem_cons.1 he with rfl | he
    · exact hp.1
    · exact ih (hp.2 _) e he

theorem Steps.carries {K : Program I α → σ → Prop} {p p' : Program I α} {s s' : σ}
    {t : List (Event I)} (path : w.Steps p s t p' s') (start : K p s)
    (step : ∀ q next s x s', K (.ask q next) s → w.Answers q s x s' → K (next x) s') : K p' s' := by
  induction path with
  | refl => exact start
  | ask answered _ ih => exact ih (step _ _ _ _ _ start answered)

theorem steps_append {p p' : Program I α} {s s' : σ} {t₁ t₂ : List (Event I)} :
    w.Steps p s (t₁ ++ t₂) p' s' ↔ ∃ r u, w.Steps p s t₁ r u ∧ w.Steps r u t₂ p' s' := by
  constructor
  · intro h
    induction t₁ generalizing p s with
    | nil => exact ⟨p, s, .refl _ _, h⟩
    | cons e t₁ ih =>
      cases h with
      | ask answered rest =>
        obtain ⟨r, u, first, second⟩ := ih rest
        exact ⟨r, u, .ask answered first, second⟩
  · rintro ⟨r, u, first, second⟩
    exact first.trans second

theorem Steps.preserves {P : I.Ask → Prop} {J : σ → Prop} {p p' : Program I α} {s s' : σ}
    {t : List (Event I)} (path : w.Steps p s t p' s') (put : ∀ e ∈ t, P e.question) (hJ : J s)
    (step : ∀ q s x s', P q → J s → w.Answers q s x s' → J s') : J s' := by
  induction path with
  | refl => exact hJ
  | ask answered _ ih =>
    obtain ⟨first, put⟩ := List.forall_mem_cons.1 put
    exact ih put (step _ _ _ _ first hJ answered)

/-- A run is a run of any world that knows less of the state and allows all its answers. -/
theorem Steps.view {τ : Type} {w' : World I τ} (view : σ → τ)
    (h : ∀ q s x s', w.Answers q s x s' → w'.Answers q (view s) x (view s'))
    {p p' : Program I α} {s s' : σ} {t : List (Event I)} (path : w.Steps p s t p' s') :
    w'.Steps p (view s) t p' (view s') := by
  induction path with
  | refl => exact .refl _ _
  | ask answered _ ih => exact .ask (h _ _ _ _ answered) ih

theorem Steps.mono {w' : World I σ} (h : ∀ q s x s', w.Answers q s x s' → w'.Answers q s x s')
    {p p' : Program I α} {s s' : σ} {t : List (Event I)} (path : w.Steps p s t p' s') :
    w'.Steps p s t p' s' :=
  path.view id h

theorem Steps.left_unique {w' : World I σ} {p p₁ p₂ : Program I α} {s s' s₁ s₂ : σ}
    {t : List (Event I)} (path : w.Steps p s t p₁ s₁) (path' : w'.Steps p s' t p₂ s₂) :
    p₁ = p₂ := by
  induction path generalizing s' with
  | refl =>
    cases path'
    rfl
  | ask _ _ ih =>
    cases path' with
    | ask _ rest => exact ih rest

theorem ends_of_runs {p : Program I α} {a : α} {s s' : σ} {t : List (Event I)}
    (path : w.Runs p s t a s') : p.Ends a := by
  induction p generalizing s t with
  | done b =>
    obtain ⟨-, rfl, -⟩ := runs_done.1 path
    rfl
  | ask q next ih =>
    cases path with
    | ask answered rest => exact ⟨_, ih _ rest⟩

/-- All along, each question can be answered. -/
def Serves (w : World I σ) : Program I α → σ → Prop
  | .done _, _ => True
  | .ask q next, s =>
    (∃ x s', w.Answers q s x s') ∧ ∀ x s', w.Answers q s x s' → w.Serves (next x) s'

theorem Serves.steps {p p' : Program I α} {s s' : σ} {t : List (Event I)} (serves : w.Serves p s)
    (path : w.Steps p s t p' s') : w.Serves p' s' := by
  induction path with
  | refl => exact serves
  | ask answered _ ih => exact ih (serves.2 _ _ answered)

theorem Serves.exists_run {p : Program I α} {s : σ} (serves : w.Serves p s) :
    ∃ t a s', w.Runs p s t a s' := by
  induction p generalizing s with
  | done a => exact ⟨[], a, s, .refl _ _⟩
  | ask q next ih =>
    obtain ⟨⟨x, s₁, answered⟩, later⟩ := serves
    obtain ⟨t, a, s', path⟩ := ih x (later x s₁ answered)
    exact ⟨_, a, s', .ask answered path⟩

theorem Serves.bind {p : Program I α} {f : α → Program I β} {s : σ} (serves : w.Serves p s)
    (later : ∀ a s', w.Serves (f a) s') : w.Serves (p >>= f) s := by
  induction p generalizing s with
  | done a => exact later a s
  | ask q next ih => exact ⟨serves.1, fun x s' answered => ih x (serves.2 x s' answered)⟩

end World

namespace Machine

variable {I : Interface} {α σ : Type}

def events (m : Machine I σ) : Program I α → σ → List (Event I)
  | .done _, _ => []
  | .ask q next, s => ⟨q, (m.answer q s).1⟩ :: m.events (next (m.answer q s).1) (m.answer q s).2

theorem events_bind {β : Type} (m : Machine I σ) (p : Program I α) (f : α → Program I β) (s : σ) :
    m.events (p >>= f) s = m.events p s ++ m.events (f (m.run p s).1) (m.run p s).2 := by
  induction p generalizing s with
  | done a => rfl
  | ask q next ih => simp only [Program.ask_bind, events, run, ih, List.cons_append]

theorem answer_of_mem_events {m : Machine I σ} {p : Program I α} {s : σ} {e : Event I}
    (among : e ∈ m.events p s) : ∃ s', e.answer = (m.answer e.question s').1 := by
  induction p generalizing s with
  | done a => exact absurd among List.not_mem_nil
  | ask q next ih =>
    obtain rfl | among := List.mem_cons.1 among
    · exact ⟨s, rfl⟩
    · exact ih _ among

theorem runs_of_view {τ : Type} {m : Machine I σ} {w : World I τ} (view : σ → τ)
    (h : ∀ q s, w.Answers q (view s) (m.answer q s).1 (view (m.answer q s).2)) (p : Program I α)
    (s : σ) : w.Runs p (view s) (m.events p s) (m.run p s).1 (view (m.run p s).2) := by
  induction p generalizing s with
  | done a => exact .refl _ _
  | ask q next ih => exact .ask (h q s) (ih _ _)

theorem runs_of_answers {m : Machine I σ} {w : World I σ}
    (h : ∀ q s, w.Answers q s (m.answer q s).1 (m.answer q s).2) (p : Program I α) (s : σ) :
    w.Runs p s (m.events p s) (m.run p s).1 (m.run p s).2 :=
  runs_of_view id h p s

end Machine

def World.free (I : Interface) : World I Unit where
  Answers _ _ _ _ := True

namespace Program

variable {I : Interface} {α β : Type} {t : List (Event I)}

def Runs (p : Program I α) (t : List (Event I)) (a : α) : Prop :=
  (World.free I).Runs p () t a ()

theorem runs_done {a b : α} : (done a : Program I α).Runs t b ↔ t = [] ∧ b = a := by
  simp [Runs, World.runs_done]

theorem runs_ask {q : I.Ask} {next : I.Answer q → Program I α} {a : α} :
    (ask q next).Runs t a ↔ ∃ x t', (next x).Runs t' a ∧ t = ⟨q, x⟩ :: t' :=
  World.runs_ask.trans
    ⟨fun ⟨x, _, t', _, later, split⟩ => ⟨x, t', later, split⟩,
      fun ⟨x, t', later, split⟩ => ⟨x, (), t', trivial, later, split⟩⟩

theorem runs_bind {p : Program I α} {f : α → Program I β} {b : β} :
    (p >>= f).Runs t b ↔ ∃ t₁ a t₂, p.Runs t₁ a ∧ (f a).Runs t₂ b ∧ t = t₁ ++ t₂ :=
  World.runs_bind.trans
    ⟨fun ⟨t₁, a, _, t₂, first, second, split⟩ => ⟨t₁, a, t₂, first, second, split⟩,
      fun ⟨t₁, a, t₂, first, second, split⟩ => ⟨t₁, a, (), t₂, first, second, split⟩⟩

theorem Runs.asks {P : I.Ask → Prop} {p : Program I α} {a : α} (run : p.Runs t a)
    (hp : p.Asks P) : ∀ e ∈ t, P e.question :=
  World.Steps.asks run hp

def Begins (p : Program I α) (t : List (Event I)) : Prop := ∃ p', (World.free I).Steps p () t p' ()

theorem begins_done {a : α} (h : (done a : Program I α).Begins t) : t = [] := by
  obtain ⟨p', path⟩ := h
  cases path
  rfl

theorem begins_ask {q : I.Ask} {next : I.Answer q → Program I α} :
    (ask q next).Begins t ↔ t = [] ∨ ∃ x t', (next x).Begins t' ∧ t = ⟨q, x⟩ :: t' := by
  constructor
  · rintro ⟨p', path⟩
    cases path with
    | refl => exact .inl rfl
    | ask _ rest => exact .inr ⟨_, _, ⟨p', rest⟩, rfl⟩
  · rintro (rfl | ⟨x, t', ⟨p', rest⟩, rfl⟩)
    · exact ⟨_, .refl _ _⟩
    · exact ⟨p', .ask trivial rest⟩

theorem begins_bind {p : Program I α} {f : α → Program I β} (h : (p >>= f).Begins t) :
    p.Begins t ∨ ∃ t₁ a t₂, p.Runs t₁ a ∧ (f a).Begins t₂ ∧ t = t₁ ++ t₂ := by
  induction p generalizing t with
  | done a => exact .inr ⟨[], a, t, runs_done.2 ⟨rfl, rfl⟩, h, rfl⟩
  | ask q next ih =>
    obtain rfl | ⟨x, t', later, rfl⟩ := begins_ask.1 h
    · exact .inl (begins_ask.2 (.inl rfl))
    · obtain first | ⟨t₁, a, t₂, first, second, rfl⟩ := ih x later
      · exact .inl (begins_ask.2 (.inr ⟨x, t', first, rfl⟩))
      · exact .inr ⟨_, a, t₂, runs_ask.2 ⟨x, t₁, first, rfl⟩, second, rfl⟩

theorem Begins.asks {P : I.Ask → Prop} {p : Program I α} (h : p.Begins t) (hp : p.Asks P) :
    ∀ e ∈ t, P e.question := by
  obtain ⟨p', path⟩ := h
  exact path.asks hp

theorem runs_events {σ : Type} (m : Machine I σ) (p : Program I α) (s : σ) :
    p.Runs (m.events p s) (m.run p s).1 := by
  induction p generalizing s with
  | done a => exact runs_done.2 ⟨rfl, rfl⟩
  | ask q next ih => exact runs_ask.2 ⟨_, _, ih _ _, rfl⟩

end Program

end TestRig
