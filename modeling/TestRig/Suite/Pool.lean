import TestRig.Suite.Output

/-!
Running workers side by side. Free places are filled in list order, an interrupt being looked for
before each launch; then one event is awaited, a worker that finished or the interrupt, and the
places are filled again. The results come in the order in which workers finish, the summary in the
order in which they were launched.
-/

namespace TestRig.Suite

open Host (Routine Result)

namespace Pool

structure State where
  pending : List (Nat × Case)
  inFlight : Nat := 0
  peak : Nat := 0
  interrupted : Bool := false
  completed : List (Nat × Result) := []

namespace State

def ofCases (cases : List Case) : State where
  pending := cases.zipIdx.map fun (c, position) => (position, c)

/-- What is left to happen: two events for each case to launch, one for each worker in flight, and
the interrupt. -/
def left (s : State) : Nat :=
  2 * s.pending.length + s.inFlight + (!s.interrupted).toNat

def launched (s : State) (rest : List (Nat × Case)) : State :=
  { s with pending := rest, inFlight := s.inFlight + 1, peak := max s.peak (s.inFlight + 1) }

def interrupt (s : State) : State := { s with interrupted := true }

def received (s : State) (position : Nat) (r : Result) : State :=
  { s with inFlight := s.inFlight - 1, completed := s.completed ++ [(position, r)] }

theorem left_launched {s : State} {c : Nat × Case} {rest : List (Nat × Case)}
    (h : s.pending = c :: rest) : (s.launched rest).left < s.left := by
  simp only [left, launched, h, List.length_cons]
  omega

theorem left_interrupt_le (s : State) : s.interrupt.left ≤ s.left := by
  simp only [left, interrupt, Bool.not_true, Bool.toNat_false]
  omega

theorem left_interrupt_lt {s : State} (h : s.interrupted = false) :
    s.interrupt.left < s.left := by
  simp [left, interrupt, h]

theorem left_received {s : State} (h : s.inFlight ≠ 0) (position : Nat) (r : Result) :
    (s.received position r).left < s.left := by
  simp only [left, received]
  omega

end State

abbrev After (s : State) := { t : State // t.left ≤ s.left }

/-- Fill the free places, unless an interrupt is seen before a launch. -/
def fill (limit : Nat) : (s : State) → Routine (After s)
  | s =>
    if s.interrupted ∨ limit ≤ s.inFlight then pure ⟨s, Nat.le_refl _⟩
    else Host.cancelRequested >>= fun (requested : Bool) =>
      if requested then pure ⟨s.interrupt, s.left_interrupt_le⟩
      else match h : s.pending with
        | [] => pure ⟨s, Nat.le_refl _⟩
        | (position, c) :: rest => Host.launch position c >>= fun _ =>
          fill limit (s.launched rest) >>= fun t =>
            pure ⟨t.val, Nat.le_trans t.property (Nat.le_of_lt (State.left_launched h))⟩
termination_by s => s.left
decreasing_by exact State.left_launched h

structure Report where
  summary : Summary
  results : List Result
  /-- The same results in the order in which their cases were launched. -/
  inOrder : List Result
  /-- The most workers in flight at once. -/
  peak : Nat
  interrupted : Bool
deriving Repr

def scheduled (completed : List (Nat × Result)) : List Result :=
  (completed.mergeSort fun a b => a.1 ≤ b.1).map Prod.snd

def State.report (s : State) : Report where
  summary := .ofResults (scheduled s.completed)
  results := s.completed.map Prod.snd
  inOrder := scheduled s.completed
  peak := s.peak
  interrupted := s.interrupted

structure Settings where
  echo : Bool := true
  styled : Bool := false
deriving Repr

def Settings.echoed (settings : Settings) (r : Result) : Routine Unit :=
  if settings.echo then showBlock settings.styled r else pure ()

/-- Wait for one event: a result, or the interrupt while it is still being looked for. -/
def await (s : State) (settings : Settings) (h : s.inFlight ≠ 0) :
    Routine { t : State // t.left < s.left } :=
  if i : s.interrupted = false then
    .ask (.completion true) fun (event : Option (Nat × Result)) =>
      match event with
      | none => pure ⟨s.interrupt, State.left_interrupt_lt i⟩
      | some (position, r) => settings.echoed r >>= fun _ =>
        pure ⟨s.received position r, State.left_received h position r⟩
  else
    .ask (.completion false) fun (event : Nat × Result) => settings.echoed event.2 >>= fun _ =>
      pure ⟨s.received event.1 event.2, State.left_received h event.1 event.2⟩

def rounds (limit : Nat) (settings : Settings) (s : State) : Routine Report :=
  fill limit s >>= fun t =>
    if h : t.val.inFlight = 0 then pure t.val.report
    else await t.val settings h >>= fun u => rounds limit settings u.val
termination_by s.left
decreasing_by exact Nat.lt_of_lt_of_le u.property t.property

def runAll (settings : Settings) (cases : List Case) (limit : Nat) : Routine Report :=
  rounds (max limit 1) settings (.ofCases cases)

end Pool

end TestRig.Suite
