import Mathlib.Tactic
import TestRig.Suite.Supervision
import TestRig.Proofs.PoolRounds

/-!
The pool's books against its workers. Workers finish in any order and the interrupt may be requested
at any time; still the counter is the number of workers out, the launches follow the list, and at
the end every worker launched has handed in the result of its own case, once.

The most workers ever out is settled by the first fill that no interrupt cuts short: from then on as
many are out as the limit and the list allow, or were before.
-/

namespace TestRig.Suite

open Host (Routine Result)
open scoped List

theorem Worker.case_of_ends {settings : Worker.Settings} {c : Case} {r : Result}
    (h : (Worker.supervise settings c).Ends r) : r.case = c := by
  obtain ⟨spawned, -, h⟩ := Program.ends_bind.1 h
  change Except SystemError Unit at spawned
  cases spawned with
  | error cause =>
    obtain rfl : Worker.unlaunched c cause = r := h
    rfl
  | ok _ =>
    obtain ⟨status, -, h⟩ := Program.ends_bind.1 h
    obtain ⟨_, -, h⟩ := Program.ends_bind.1 h
    obtain ⟨_, -, h⟩ := Program.ends_bind.1 h
    obtain ⟨chunks, -, h⟩ := Program.ends_bind.1 h
    obtain rfl : (⟨c, Worker.merged chunks, status⟩ : Result) = r := h
    rfl

namespace Pool

/-- The workers of one pool: which were launched, which results were received, both in order, and
which are out, launched and not yet received, whether they have finished or not. -/
structure Workers where
  requested : Bool
  out : List (Nat × Case) := []
  launched : List (Nat × Case) := []
  received : List (Nat × Result) := []

namespace Workers

def launch (w : Workers) (position : Nat) (c : Case) : Workers :=
  { w with out := w.out ++ [(position, c)], launched := w.launched ++ [(position, c)] }

def receive (w : Workers) (c : Case) (event : Nat × Result) : Workers :=
  { w with out := w.out.erase (event.1, c), received := w.received ++ [event] }

/-- One of the workers that are out has come to the end of its case. -/
def HandsIn (worker : Worker.Settings) (w : Workers) (event : Nat × Result) (w' : Workers) : Prop :=
  ∃ c, (event.1, c) ∈ w.out ∧ (Worker.supervise worker c).Ends event.2 ∧ w' = w.receive c event

/-- An interrupt once requested stays so; a watching wait may end with it. -/
def world (worker : Worker.Settings) : World Host.interface Workers where
  Answers
    | .cancelRequested, w, x, w' =>
      (w.requested = true → x = true) ∧ w' = { w with requested := x }
    | .launch position c, w, _, w' => w' = w.launch position c
    | .completion true, w, x, w' => match x with
      | none => w' = { w with requested := true }
      | some event => w.HandsIn worker event w'
    | .completion false, w, x, w' => w.HandsIn worker x w'
    | _, w, _, w' => w' = w

def ticket (event : Nat × Result) : Nat × Case := (event.1, event.2.case)

end Workers

theorem positions_ofCases (cases : List Case) :
    (State.ofCases cases).pending.map Prod.fst = List.range cases.length := by
  simp [State.ofCases, Function.comp_def, ← List.range_eq_range']

theorem cases_ofCases (cases : List Case) : (State.ofCases cases).pending.map Prod.snd = cases := by
  simp [State.ofCases, Function.comp_def]

/-- The books of the loop agree with the workers. -/
structure Ledger (cases : List Case) (limit : Nat) (s : State) (w : Workers) : Prop where
  inFlight : s.inFlight = w.out.length
  room : s.inFlight ≤ limit
  order : w.launched ++ s.pending = (State.ofCases cases).pending
  accounts : w.launched.Perm (w.out ++ w.received.map Workers.ticket)
  completed : s.completed = w.received
  peak_le : s.peak ≤ limit ∧ s.peak ≤ w.launched.length
  peak_ge : s.interrupted = false → (w.received = [] ∧ s.peak = w.launched.length) ∨
    min limit cases.length ≤ s.peak

namespace Ledger

variable {cases : List Case} {limit : Nat} {s : State} {w w' : Workers}

theorem opening (cases : List Case) (limit : Nat) (requested : Bool) :
    Ledger cases limit (.ofCases cases) ⟨requested, [], [], []⟩ :=
  ⟨rfl, Nat.zero_le _, rfl, .refl _, rfl, ⟨Nat.zero_le _, Nat.zero_le _⟩, fun _ => .inl ⟨rfl, rfl⟩⟩

theorem length_pending (h : Ledger cases limit s w) :
    w.launched.length + s.pending.length = cases.length := by
  have lengths := congrArg List.length h.order
  simpa [State.ofCases] using lengths

theorem length_launched (h : Ledger cases limit s w) :
    w.launched.length = s.inFlight + w.received.length := by
  have lengths := h.accounts.length_eq
  simpa [h.inFlight] using lengths

theorem request (h : Ledger cases limit s w) (requested : Bool) :
    Ledger cases limit s { w with requested } :=
  ⟨h.inFlight, h.room, h.order, h.accounts, h.completed, h.peak_le, h.peak_ge⟩

theorem interrupt (h : Ledger cases limit s w) : Ledger cases limit s.interrupt w :=
  ⟨h.inFlight, h.room, h.order, h.accounts, h.completed, h.peak_le, nofun⟩

theorem launch (h : Ledger cases limit s w) {position : Nat} {c : Case} {rest : List (Nat × Case)}
    (free : s.inFlight < limit) (next : s.pending = (position, c) :: rest) :
    Ledger cases limit (s.launched rest) (w.launch position c) where
  inFlight := by simp [State.launched, Workers.launch, h.inFlight]
  room := by
    simp only [State.launched]
    omega
  order := by
    rw [← h.order, next]
    simp [State.launched, Workers.launch]
  accounts := by
    have moved : (w.launched ++ [(position, c)]).Perm
        (w.out ++ [(position, c)] ++ w.received.map Workers.ticket) :=
      calc w.launched ++ [(position, c)]
          ~ (w.out ++ w.received.map Workers.ticket) ++ [(position, c)] := h.accounts.append_right _
        _ ~ w.out ++ ([(position, c)] ++ w.received.map Workers.ticket) := by
          rw [List.append_assoc]
          exact List.perm_append_comm.append_left _
        _ ~ w.out ++ [(position, c)] ++ w.received.map Workers.ticket := by
          rw [List.append_assoc]
    exact moved
  completed := h.completed
  peak_le := by
    have out := h.length_launched
    have peak := h.peak_le
    simp only [State.launched, Workers.launch, List.length_append, List.length_singleton]
    omega
  peak_ge := by
    intro running
    have out := h.length_launched
    have left := h.length_pending
    rw [next, List.length_cons] at left
    simp only [State.launched, Workers.launch, List.length_append, List.length_singleton]
    obtain ⟨none, peak⟩ | peak := h.peak_ge running
    · refine .inl ⟨none, ?_⟩
      rw [none, List.length_nil] at out
      omega
    · right
      omega

theorem peak_full (h : Ledger cases limit s w) (running : s.interrupted = false)
    (filled : limit ≤ s.inFlight ∨ s.pending = []) : min limit cases.length ≤ s.peak := by
  obtain ⟨none, peak⟩ | peak := h.peak_ge running
  · have out := h.length_launched
    have left := h.length_pending
    rw [none, List.length_nil] at out
    obtain full | none := filled
    · omega
    · rw [none, List.length_nil] at left
      omega
  · exact peak

theorem receive (h : Ledger cases limit s w) (filled : Filled limit s)
    {worker : Worker.Settings} {event : Nat × Result} (hands : w.HandsIn worker event w') :
    Ledger cases limit (s.received event.1 event.2) w' := by
  obtain ⟨c, out, ends, rfl⟩ := hands
  have own : Workers.ticket event = (event.1, c) := by
    rw [Workers.ticket, Worker.case_of_ends ends]
  refine ⟨?_, ?_, h.order, ?_, ?_, h.peak_le, fun running => .inr ?_⟩
  · simp only [State.received, Workers.receive, List.length_erase_of_mem out, h.inFlight]
  · have room := h.room
    simp only [State.received]
    omega
  · have moved : w.launched.Perm
        (w.out.erase (event.1, c) ++ (w.received ++ [event]).map Workers.ticket) :=
      calc w.launched
          ~ w.out ++ w.received.map Workers.ticket := h.accounts
        _ ~ (event.1, c) :: w.out.erase (event.1, c) ++ w.received.map Workers.ticket :=
          (List.perm_cons_erase out).append_right _
        _ ~ w.out.erase (event.1, c) ++ (event.1, c) :: w.received.map Workers.ticket :=
          List.perm_middle.symm
        _ ~ w.out.erase (event.1, c) ++ (w.received ++ [event]).map Workers.ticket := by
          rw [List.map_append, List.map_singleton, own]
          exact (List.perm_append_singleton _ _).symm.append_left _
    exact moved
  · simp [State.received, Workers.receive, h.completed]
  · -- whoever waits for a result has filled the places first
    refine h.peak_full running (filled.resolve_left ?_)
    change s.interrupted = false at running
    simp [running]

theorem positions (h : Ledger cases limit s w) :
    w.launched.map Prod.fst = List.range w.launched.length := by
  have few : w.launched.length ≤ cases.length := by
    have left := h.length_pending
    omega
  have first : w.launched = (State.ofCases cases).pending.take w.launched.length := by
    rw [← h.order, List.take_left]
  rw [first, List.map_take, positions_ofCases]
  simp [few, State.ofCases]

theorem listed (h : Ledger cases limit s w) :
    w.launched.map Prod.snd ++ s.pending.map Prod.snd = cases := by
  rw [← List.map_append, h.order, cases_ofCases]

theorem nobody_out (h : Ledger cases limit s w) (idle : s.inFlight = 0) : w.out = [] :=
  List.eq_nil_of_length_eq_zero (h.inFlight.symm.trans idle)

theorem peak_le_min (h : Ledger cases limit s w) : s.peak ≤ min limit cases.length := by
  have left := h.length_pending
  have peak := h.peak_le
  omega

theorem complete (h : Ledger cases limit s w) (busy : 0 < limit) (filled : Filled limit s)
    (idle : s.inFlight = 0) (running : s.interrupted = false) :
    w.launched.map Prod.snd = cases ∧ s.peak = min limit cases.length := by
  have filled := filled.resolve_left (by simp [running])
  have none : s.pending = [] := filled.resolve_left (by omega)
  constructor
  · have listed := h.listed
    rw [none, List.map_nil, List.append_nil] at listed
    exact listed
  · exact Nat.le_antisymm h.peak_le_min (h.peak_full running filled)

end Ledger

def Kept (cases : List Case) (limit : Nat) (settings : Settings) (p : Routine Report)
    (w : Workers) : Prop :=
  ∃ s, Stands limit settings p s ∧ Ledger cases limit s w

variable {cases : List Case} {limit : Nat} {settings : Settings} {worker : Worker.Settings}
  {s : State} {w w' : Workers} {q : Host.Ask} {next : q.Answer → Routine Report} {x : q.Answer}

theorem kept_turn (ledger : Ledger cases limit s w) (filled : Filled limit s)
    (left : turn limit settings s = .ask q next)
    (answered : (Workers.world worker).Answers q w x w') :
    Kept cases limit settings (next x) w' := by
  by_cases idle : s.inFlight = 0
  · rw [turn_idle idle] at left
    cases left
  cases running : s.interrupted with
  | false =>
    rw [turn_watching idle running] at left
    cases left
    cases x with
    | none =>
      obtain rfl : w' = { w with requested := true } := answered
      exact ⟨_, .head _, (ledger.request true).interrupt⟩
    | some event => exact ⟨_, .echoing (asks_echoed _ _), ledger.receive filled answered⟩
  | true =>
    rw [turn_waiting idle running] at left
    cases left
    exact ⟨_, .echoing (asks_echoed _ _), ledger.receive filled answered⟩

theorem kept_head (ledger : Ledger cases limit s w) (left : rounds limit settings s = .ask q next)
    (answered : (Workers.world worker).Answers q w x w') :
    Kept cases limit settings (next x) w' := by
  rw [rounds_eq] at left
  by_cases filled : s.interrupted = true ∨ limit ≤ s.inFlight
  · rw [if_pos filled] at left
    exact kept_turn ledger (filled.imp_right .inl) left answered
  · rw [if_neg filled] at left
    cases left
    simp only [not_or, Bool.not_eq_true, not_le] at filled
    obtain ⟨-, rfl⟩ := answered
    cases x with
    | true => exact ⟨s.interrupt, .turning (.inl rfl), (ledger.request true).interrupt⟩
    | false => exact ⟨s, stands_check filled.1 filled.2, ledger.request false⟩

theorem Kept.step (kept : Kept cases limit settings (.ask q next) w)
    (answered : (Workers.world worker).Answers q w x w') :
    Kept cases limit settings (next x) w' := by
  obtain ⟨s, stands, ledger⟩ := kept
  generalize left : (Program.ask q next : Routine Report) = p at stands
  cases stands with
  | head => exact kept_head ledger left.symm answered
  | turning filled => exact kept_turn ledger filled left.symm answered
  | launching running free pending =>
    cases left
    obtain rfl := answered
    exact ⟨_, .head _, ledger.launch free pending⟩
  | @echoing _ r shows =>
    cases r with
    | done _ => exact kept_head ledger left.symm answered
    | ask q' next' =>
      cases left
      cases q with
      | say channel text =>
        obtain rfl : w' = w := answered
        exact ⟨_, .echoing (shows.2 x), ledger⟩
      | _ => exact shows.1.elim

theorem kept_of_steps {requested : Bool} {t : List (Event Host.interface)} {p : Routine Report}
    (path : (Workers.world worker).Steps (runAll settings cases limit) ⟨requested, [], [], []⟩
      t p w) :
    Kept cases (max limit 1) settings p w := by
  have opening : Kept cases (max limit 1) settings (runAll settings cases limit)
      ⟨requested, [], [], []⟩ := ⟨_, .head _, Ledger.opening cases _ requested⟩
  exact path.carries opening fun _ _ _ _ _ kept answered => kept.step answered

/-- At every point of a run the counter of the loop is the number of workers launched and not yet
received, within the limit. The launches follow the list, each position once, and end with the first
look that finds the interrupt. A report comes when no worker is out; it holds one result for each
worker launched, and that of its own case. Without an interrupt all cases were launched, and the
places were all in use at some time. -/
theorem every_launch_accounted {requested : Bool} {t : List (Event Host.interface)}
    {p : Routine Report}
    (path : (Workers.world worker).Steps (runAll settings cases limit) ⟨requested, [], [], []⟩
      t p w) :
    (∃ s, Stands (max limit 1) settings p s ∧ s.inFlight = w.out.length ∧
      w.launched.Perm (w.out ++ w.received.map Workers.ticket) ∧ s.inFlight ≤ max limit 1) ∧
    (w.launched.map Prod.fst = List.range w.launched.length ∧
      w.launched.map Prod.snd <+: cases) ∧
    (∀ t₁ t₂, t = t₁ ++ ⟨.cancelRequested, true⟩ :: t₂ → ∀ e ∈ t₂, Quiet e.question) ∧
    ∀ report, p = .done report →
      w.out = [] ∧ report.results = w.received.map Prod.snd ∧
      (w.received.map Workers.ticket).Perm w.launched ∧
      report.peak ≤ min (max limit 1) cases.length ∧
      (report.interrupted = false → w.launched.map Prod.snd = cases ∧
        report.peak = min (max limit 1) cases.length) := by
  obtain ⟨s, stands, ledger⟩ := kept_of_steps path
  refine ⟨⟨s, stands, ledger.inFlight, ledger.accounts, ledger.room⟩,
    ⟨ledger.positions, ⟨_, ledger.listed⟩⟩, ?_, ?_⟩
  · rintro t₁ t₂ rfl
    obtain ⟨q, u, before, after⟩ := World.steps_append.1 path
    -- the look is the first question after `t₁`, and what is left there is known
    cases after with
    | ask answered rest =>
      obtain ⟨_, looking, -⟩ := kept_of_steps before
      exact rest.asks (asks_seen looking rfl)
  · rintro report ended
    obtain ⟨filled, idle, rfl⟩ := stands_done stands ended
    have nobody := ledger.nobody_out idle
    have accounts := ledger.accounts
    rw [nobody, List.nil_append] at accounts
    have own : s.report.results = w.received.map Prod.snd := by
      rw [State.report, ledger.completed]
    exact ⟨nobody, own, accounts.symm, ledger.peak_le_min,
      ledger.complete (by omega) filled idle⟩

def silent : Settings := { echo := false }

def smoke : Case := ⟨"port_range", "smoke"⟩

def stress : Case := ⟨"port_range", "stress"⟩

def refused : Result := Worker.unlaunched smoke .notFound

theorem answers_look (requested : Bool) (out launched : List (Nat × Case))
    (received : List (Nat × Result)) : (Workers.world worker).Answers .cancelRequested
      ⟨false, out, launched, received⟩ requested ⟨requested, out, launched, received⟩ :=
  ⟨nofun, rfl⟩

theorem hands_in_unlaunched {position : Nat} {c : Case} (out : (position, c) ∈ w.out) :
    w.HandsIn worker (position, Worker.unlaunched c .notFound)
      (w.receive c (position, Worker.unlaunched c .notFound)) :=
  ⟨c, out, ⟨.error .notFound, rfl⟩, rfl⟩

def bothBegun : State :=
  ((State.ofCases [smoke, stress, smoke]).launched [(1, stress), (2, smoke)]).launched [(2, smoke)]

def stressBack : State := bothBegun.received 1 (Worker.unlaunched stress .notFound)

theorem steps_bothBegun : ∃ t, (Workers.world {}).Steps (runAll silent [smoke, stress, smoke] 2)
    ⟨false, [], [], []⟩ t (rounds 2 silent bothBegun)
    ⟨false, [(0, smoke), (1, stress)], [(0, smoke), (1, stress)], []⟩ := by
  have first : (Workers.world {}).Steps (runAll silent [smoke, stress, smoke] 2)
      ⟨false, [], [], []⟩ _ _ ⟨false, [(0, smoke)], [(0, smoke)], []⟩ :=
    steps_launch rfl (by decide) rfl (answers_look false [] [] []) rfl
  have second : (Workers.world {}).Steps _ ⟨false, [(0, smoke)], [(0, smoke)], []⟩ _
      (rounds 2 silent bothBegun)
      ⟨false, [(0, smoke), (1, stress)], [(0, smoke), (1, stress)], []⟩ :=
    steps_launch rfl (by decide) rfl (answers_look false _ _ _) rfl
  exact ⟨_, first.trans second⟩

theorem steps_cutShort : ∃ t₁ t₂, (Workers.world {}).Steps (rounds 2 silent bothBegun)
    ⟨false, [(0, smoke), (1, stress)], [(0, smoke), (1, stress)], []⟩
    (t₁ ++ ⟨.cancelRequested, true⟩ :: t₂) (.done (stressBack.interrupt.received 0 refused).report)
    ⟨true, [], [(0, smoke), (1, stress)],
      [(1, Worker.unlaunched stress .notFound), (0, refused)]⟩ := by
  have taken : (Workers.world {}).Steps (rounds 2 silent bothBegun)
      ⟨false, [(0, smoke), (1, stress)], [(0, smoke), (1, stress)], []⟩
      [⟨.completion true, some (1, Worker.unlaunched stress .notFound)⟩]
      (rounds 2 silent stressBack) ⟨false, [(0, smoke)], [(0, smoke), (1, stress)],
        [(1, Worker.unlaunched stress .notFound)]⟩ := by
    rw [rounds_eq, if_pos (by decide), turn_watching (by decide) rfl]
    exact .ask (hands_in_unlaunched (by decide)) (.refl _ _)
  have looked : (Workers.world {}).Steps (rounds 2 silent stressBack)
      ⟨false, [(0, smoke)], [(0, smoke), (1, stress)], [(1, Worker.unlaunched stress .notFound)]⟩
      [⟨.cancelRequested, true⟩] (turn 2 silent stressBack.interrupt) _ :=
    steps_look rfl (by decide) (answers_look true _ _ _)
  have ended : (Workers.world {}).Steps (turn 2 silent stressBack.interrupt)
      ⟨true, [(0, smoke)], [(0, smoke), (1, stress)], [(1, Worker.unlaunched stress .notFound)]⟩
      [⟨.completion false, (0, refused)⟩]
      (.done (stressBack.interrupt.received 0 refused).report) ⟨true, [],
        [(0, smoke), (1, stress)], [(1, Worker.unlaunched stress .notFound), (0, refused)]⟩ := by
    have last : rounds 2 silent (stressBack.interrupt.received 0 refused) =
        .done (stressBack.interrupt.received 0 refused).report := by
      rw [rounds_eq, if_pos (by decide), turn_idle rfl]
    rw [turn_waiting (by decide) rfl]
    exact .ask (hands_in_unlaunched (by decide)) (last ▸ .refl _ _)
  exact ⟨_, _, taken.trans (looked.trans ended)⟩

/-- Two workers are out when the second hands in its result, and the next look finds the interrupt. -/
theorem every_launch_accounted_cutShort : ∃ t t₁ t₂ w₁ report w,
    (Workers.world {}).Steps (runAll silent [smoke, stress, smoke] 2) ⟨false, [], [], []⟩ t
      (rounds 2 silent bothBegun) w₁ ∧ w₁.out.length = 2 ∧
    (Workers.world {}).Steps (rounds 2 silent bothBegun) w₁
      (t₁ ++ ⟨.cancelRequested, true⟩ :: t₂) (.done report) w ∧
    (∀ e ∈ t₂, Quiet e.question) ∧ (w.received.map Workers.ticket).Perm w.launched ∧
    w.launched.map Prod.snd = [smoke, stress] ∧ report.interrupted = true ∧ report.peak = 2 := by
  obtain ⟨t, begun⟩ := steps_bothBegun
  obtain ⟨t₁, t₂, cut⟩ := steps_cutShort
  obtain ⟨-, -, quiet, ends⟩ := every_launch_accounted (begun.trans cut)
  obtain ⟨-, -, accounts, -⟩ := ends _ rfl
  exact ⟨t, t₁, t₂, _, _, _, begun, rfl, cut, quiet (t ++ t₁) t₂ (by simp), accounts, rfl, rfl, rfl⟩

end Pool

end TestRig.Suite
