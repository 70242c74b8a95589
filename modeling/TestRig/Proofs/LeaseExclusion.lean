import Mathlib.Tactic
import Mathlib.Logic.Relation
import TestRig.Proofs.Guards
import TestRig.Proofs.PortSearch
import TestRig.Proofs.Range

/-!
Any number of calls for a lease, one question at a time in any order. A call that holds a lock is
either taking its second look at the port or has its lease; every other way out of a candidate gives
the lock back. Since a key is held once, so is a port.

Nothing is said about whether a call succeeds: ports may be bound, published or locked for ever.
-/

namespace TestRig.Port

open Host (Routine)

/-- An allocator whose range was accepted and whose registry leaves the locks alone. -/
structure Leaser extends Allocator where
  accepted : range.Accepted
  apart : ∀ port, (registry port).Asks Host.Ask.LeavesLocks

namespace Leaser

variable (a : Leaser)

/-- The call has locked the port; what is left is the rest of its second look at it, and then what
that look decides. -/
def SecondLook (port : Number) (p : Routine (Except LeaseError Lease)) : Prop :=
  ∃ left look, Program.Asks Host.Ask.LeavesLocks look ∧
    p = look >>= a.settle left port

def granted? : (q : Host.Ask) → q.Answer → Option String
  | .lock key, .ok true => some key
  | _, _ => none

/-- The call holds no lock. It gives none back, ends in an error if it ends, and takes a lock only
of a port of its range, for a second look at that port. -/
def Seeking : Routine (Except LeaseError Lease) → Prop
  | .done answer => ∃ e, answer = .error e
  | .ask q next => (∀ key, q ≠ .unlock key) ∧ ∀ x,
    match granted? q x with
    | some key => ∃ port, key = lockKey port ∧ a.range.contains port = true ∧
        a.SecondLook port (next x)
    | none => Seeking (next x)

theorem granted?_of_leavesLocks {q : Host.Ask} (h : q.LeavesLocks) (x : q.Answer) :
    granted? q x = none := by
  cases q
  case lock => exact h.elim
  all_goals rfl

variable {a}

theorem seeking_bind {β : Type} {r : Routine β} {f : β → Routine (Except LeaseError Lease)}
    (quiet : Program.Asks Host.Ask.LeavesLocks r) (hf : ∀ b, a.Seeking (f b)) :
    a.Seeking (r >>= f) := by
  induction r with
  | done b => exact hf b
  | ask q next ih =>
    refine ⟨?_, fun x => ?_⟩
    · rintro key rfl
      exact quiet.1
    · rw [granted?_of_leavesLocks quiet.1]
      exact ih x (quiet.2 x)

theorem publishes_quiet (a : Leaser) (port : Number) :
    Program.Asks Host.Ask.LeavesLocks (a.registry.publishes port) :=
  Program.asks_bind (a.apart port) fun answer => by cases answer <;> trivial

theorem seeking_search (left : Nat) {port : Number} (inside : a.range.contains port = true) :
    a.Seeking (a.search left port) := by
  induction left generalizing port with
  | zero => exact ⟨_, rfl⟩
  | succ left ih =>
    have goOn : a.Seeking (a.goOn left port) :=
      seeking_bind ⟨trivial, fun _ => trivial⟩ fun _ => ih (Range.contains_next a.accepted _ _)
    rw [Allocator.search_succ]
    refine seeking_bind ⟨trivial, fun _ => trivial⟩ fun free => ?_
    cases free with
    | false => exact goOn
    | true =>
      refine seeking_bind (a.publishes_quiet port) fun published => ?_
      cases published with
      | true => exact goOn
      | false =>
        refine ⟨by rintro _ ⟨⟩, fun (x : Except SystemError Bool) => ?_⟩
        match x with
        | .error e => exact ⟨_, rfl⟩
        | .ok false => exact goOn
        | .ok true => exact ⟨port, rfl, inside, left, _, a.publishes_quiet port, rfl⟩

theorem seeking_acquire (a : Leaser) : a.Seeking a.acquire :=
  seeking_bind ⟨trivial, fun _ => trivial⟩ fun _ =>
    seeking_bind ⟨trivial, fun _ => trivial⟩ fun _ =>
      seeking_search _ (Range.contains_seed a.accepted _ _ _)

/-- What a call has left to do, against the locks it holds; nothing is left of a dropped lease. -/
inductive Custody (a : Leaser) :
    Option (Routine (Except LeaseError Lease)) → List (String × Place) → Prop
  | seeking {p} (h : a.Seeking p) : Custody a (some p) []
  | looking {p port place} (inside : a.range.contains port = true) (h : a.SecondLook port p) :
    Custody a (some p) [(lockKey port, place)]
  | leased {l : Lease} {place} (inside : a.range.contains l.port = true) :
    Custody a (some (.done (.ok l))) [(lockKey l.port, place)]
  | dropped : Custody a none []

variable {ι : Type} [DecidableEq ι] {dir : String} {pid : ι → UInt32} {i : ι} {g g' : Guards ι}
  {q : Host.Ask} {x : q.Answer} {next : q.Answer → Routine (Except LeaseError Lease)}

theorem custody_of_seeking (h : a.Seeking (.ask q next)) (none : g.own i = [])
    (answered : (Guards.world dir pid i).Answers q g x g') :
    a.Custody (some (next x)) (g'.own i) := by
  have later := h.2 x
  cases q
  case lock key =>
    obtain locked | ⟨⟨e, rfl⟩, rfl⟩ := answered
    · obtain ⟨-, ⟨place, rfl, -, -, -, own⟩ | ⟨refused, -, own⟩⟩ := Guards.lock_cases locked
      · obtain ⟨port, rfl, inside, look⟩ := later
        rw [own, Function.update_self, none]
        exact .looking inside look
      · rw [own, none]
        match x with
        | .error e => exact .seeking later
        | .ok false => exact .seeking later
        | .ok true => exact absurd rfl refused
    · rw [none]
      exact .seeking later
  case unlock key => exact absurd rfl (h.1 key)
  all_goals
    obtain rfl : g' = g := answered
    rw [none]
    exact .seeking later

theorem custody_of_secondLook {port : Number} {place : Place}
    (inside : a.range.contains port = true) (h : a.SecondLook port (.ask q next))
    (one : g.own i = [(lockKey port, place)])
    (answered : (Guards.world dir pid i).Answers q g x g') :
    a.Custody (some (next x)) (g'.own i) := by
  obtain ⟨left, look, quiet, e⟩ := h
  cases look with
  | done published =>
    cases published with
    | true =>
      cases e
      obtain rfl : g' = g.unlock i (lockKey port) := answered
      rw [Guards.own_unlock_self g i one]
      exact .seeking ⟨by rintro _ ⟨⟩,
        fun _ => seeking_search _ (Range.contains_next a.accepted _ _)⟩
    | false =>
      cases e
      obtain rfl : g' = g := answered
      rw [one]
      exact .leased (l := ⟨port, _⟩) inside
  | ask q' next' =>
    cases e
    obtain rfl := Guards.world_of_leavesLocks quiet.1 answered
    rw [one]
    exact .looking inside ⟨left, next' x, quiet.2 x, rfl⟩

theorem not_secondLook_done {port : Number} {answer : Except LeaseError Lease} :
    ¬ a.SecondLook port (.done answer) := by
  rintro ⟨left, look, -, e⟩
  cases look with
  | done published => cases published <;> cases e
  | ask q next => cases e

theorem Custody.step (h : a.Custody (some (.ask q next)) (g.own i))
    (answered : (Guards.world dir pid i).Answers q g x g') :
    a.Custody (some (next x)) (g'.own i) := by
  generalize own : g.own i = held at h
  cases h with
  | seeking seeks => exact custody_of_seeking seeks own answered
  | looking inside look => exact custody_of_secondLook inside look own answered

end Leaser

/-- Calls for leases that share the locks of one directory, with what is left of each; nothing is
left of a call whose lease has been dropped. -/
structure Calls (ι : Type) where
  guards : Guards ι
  rest : ι → Option (Routine (Except LeaseError Lease))

namespace Calls

section

variable {ι : Type}

def opening (a : ι → Leaser) (files : Files) : Calls ι :=
  ⟨⟨⟨files, []⟩, fun _ => []⟩, fun i => some (a i).acquire⟩

def Live (s : Calls ι) (i : ι) (lease : Lease) : Prop := s.rest i = some (.done (.ok lease))

def Looking (a : ι → Leaser) (s : Calls ι) (i : ι) (port : Number) : Prop :=
  ∃ p, s.rest i = some p ∧ (a i).SecondLook port p

structure Orderly (a : ι → Leaser) (dir : String) (s : Calls ι) : Prop where
  sole : s.guards.Sole dir
  custody : ∀ i, (a i).Custody (s.rest i) (s.guards.own i)

variable {a : ι → Leaser} {dir : String} {files : Files} {s : Calls ι} {i : ι}

theorem orderly_opening : Orderly a dir (opening a files) :=
  ⟨Guards.sole_free files, fun i => .seeking (a i).seeking_acquire⟩

theorem Orderly.own_of_live (h : Orderly a dir s) {lease : Lease} (live : s.Live i lease) :
    (a i).range.contains lease.port = true ∧
      ∃ place, s.guards.own i = [(lockKey lease.port, place)] := by
  have stands := h.custody i
  rw [live] at stands
  generalize s.guards.own i = keys at stands
  cases stands with
  | seeking seeks =>
    obtain ⟨_, bad⟩ := seeks
    cases bad
  | looking _ look => exact absurd look Leaser.not_secondLook_done
  | leased inside => exact ⟨inside, _, rfl⟩

theorem Orderly.holder (h : Orderly a dir s) {key : String} {place : Place}
    (held : (key, place) ∈ s.guards.own i) : ∃ port, key = lockKey port ∧
      ((∃ lease, s.Live i lease ∧ lease.port = port) ∨ s.Looking a i port) := by
  have stands := h.custody i
  generalize s.guards.own i = keys at stands held
  generalize left : s.rest i = rest at stands
  cases stands with
  | seeking _ => cases held
  | @looking p port _ _ look =>
    obtain ⟨rfl, -⟩ := Prod.mk.inj (List.mem_singleton.1 held)
    exact ⟨port, rfl, .inr ⟨p, left, look⟩⟩
  | @leased lease _ _ =>
    obtain ⟨rfl, -⟩ := Prod.mk.inj (List.mem_singleton.1 held)
    exact ⟨lease.port, rfl, .inl ⟨lease, left, rfl⟩⟩
  | dropped => cases held

end

variable {ι : Type} [DecidableEq ι]

inductive Step (a : ι → Leaser) (dir : String) (s : Calls ι) : Calls ι → Prop
  | ask {i : ι} {q : Host.Ask} {next : q.Answer → Routine (Except LeaseError Lease)} {x : q.Answer}
      {g : Guards ι} (left : s.rest i = some (.ask q next))
      (answered : (Guards.world dir (fun i => (a i).pid) i).Answers q s.guards x g) :
      Step a dir s ⟨g, Function.update s.rest i (some (next x))⟩
  | drop {i : ι} {lease : Lease} {trace : List (Event Host.interface)} {g : Guards ι}
      (live : s.Live i lease)
      (released :
        (Guards.world dir (fun i => (a i).pid) i).Runs lease.release s.guards trace () g) :
      Step a dir s ⟨g, Function.update s.rest i none⟩

variable {a : ι → Leaser} {dir : String} {files : Files} {s t : Calls ι}

theorem Orderly.step (h : Orderly a dir s) (step : Step a dir s t) : Orderly a dir t := by
  cases step with
  | @ask i q next x g left answered =>
    refine ⟨h.sole.world answered, fun j => ?_⟩
    by_cases e : j = i
    · subst e
      simp only [Function.update_self]
      exact (left ▸ h.custody j).step answered
    · simp only [Function.update_of_ne e, Guards.own_world_of_ne e answered]
      exact h.custody j
  | @drop i lease trace g live released =>
    -- a release is one question: the lock given back
    cases released with
    | ask answered rest =>
      cases rest
      refine ⟨h.sole.world answered, fun j => ?_⟩
      by_cases e : j = i
      · subst e
        obtain ⟨-, place, own⟩ := h.own_of_live live
        obtain rfl : g = s.guards.unlock j (lockKey lease.port) := answered
        simp only [Function.update_self, Guards.own_unlock_self _ _ own]
        exact .dropped
      · simp only [Function.update_of_ne e, Guards.own_world_of_ne e answered]
        exact h.custody j

theorem orderly_of_steps (h : Relation.ReflTransGen (Step a dir) (opening a files) s) :
    Orderly a dir s := by
  induction h with
  | refl => exact orderly_opening
  | tail _ step ih => exact ih.step step

theorem steps_of_call {i : ι} {p p' : Routine (Except LeaseError Lease)} {g : Guards ι}
    {trace : List (Event Host.interface)} (left : s.rest i = some p)
    (path : (Guards.world dir (fun i => (a i).pid) i).Steps p s.guards trace p' g) :
    Relation.ReflTransGen (Step a dir) s ⟨g, Function.update s.rest i (some p')⟩ := by
  generalize start : s.guards = g₀ at path
  induction path generalizing s with
  | refl =>
    subst start
    rw [← left, Function.update_eq_self]
  | ask answered _ ih =>
    subst start
    have after := ih (s := ⟨_, Function.update s.rest i (some _)⟩) (Function.update_self i _ _) rfl
    rw [Function.update_idem] at after
    exact .head (.ask left answered) after

/-- At every moment of every interleaving: no port is leased twice; a lease is inside the range and
holds the lock of its port and no other; and each lock that is held belongs to one call, which has
its lease or is about to act on its second look. -/
theorem leases_exclusive (h : Relation.ReflTransGen (Step a dir) (opening a files) s) :
    (∀ i j l m, s.Live i l → s.Live j m → l.port = m.port → i = j ∧ l = m) ∧
    (∀ i l, s.Live i l → (a i).range.contains l.port = true ∧
      ∃ place ∈ s.guards.locks.held, s.guards.own i = [(lockKey l.port, place)] ∧
        place = s.guards.locks.files.leads (Locks.path dir (lockKey l.port))) ∧
    (∀ place ∈ s.guards.locks.held, ∃! i, ∃ key, (key, place) ∈ s.guards.own i) ∧
    (∀ i key place, (key, place) ∈ s.guards.own i → ∃ port, key = lockKey port ∧
      ((∃ l, s.Live i l ∧ l.port = port) ∨ s.Looking a i port)) := by
  have orderly := orderly_of_steps h
  have mine : ∀ {i l}, s.Live i l → ∃ place, s.guards.own i = [(lockKey l.port, place)] ∧
      (lockKey l.port, place) ∈ s.guards.own i := fun live => by
    obtain ⟨-, place, own⟩ := orderly.own_of_live live
    exact ⟨place, own, own ▸ List.mem_singleton_self _⟩
  refine ⟨fun i j l m hl hm same => ?_, fun i l live => ?_, fun place held => ?_,
    fun i key place held => orderly.holder held⟩
  · obtain ⟨p, -, memI⟩ := mine hl
    obtain ⟨q, -, memJ⟩ := mine hm
    obtain rfl : i = j := orderly.sole.eq_of_key memI (same ▸ memJ)
    rw [Live, hl] at hm
    cases hm
    exact ⟨rfl, rfl⟩
  · obtain ⟨place, own, mem⟩ := mine live
    exact ⟨(orderly.own_of_live live).1, place, (orderly.sole.held_iff place).2 ⟨i, _, mem⟩, own,
      orderly.sole.placed mem⟩
  · obtain ⟨i, key, own⟩ := (orderly.sole.held_iff place).1 held
    exact ⟨i, ⟨key, own⟩, fun j ⟨_, own'⟩ => (orderly.sole.single own' own).1⟩

def twoPorts : Leaser := ⟨⟨⟨8085, 2, 1⟩, .empty, 7, 200⟩, by decide, fun _ => trivial⟩

section Contention

variable (i : Bool) (left : Nat) (port : Number) (g : Guards Bool)

def wanting : Routine (Except LeaseError Lease) :=
  Host.lock (lockKey port) >>= twoPorts.afterLock left port

theorem steps_wanting : (Guards.world "locks" (fun _ => 7) i).Steps
    (twoPorts.search (left + 1) port) g [⟨.bindable port, true⟩] (wanting left port) g := by
  rw [Allocator.search_succ]
  exact .ask rfl (.refl _ _)

theorem steps_opening : (Guards.world "locks" (fun _ => 7) i).Steps twoPorts.acquire g
    [⟨.clock, (4 : Nat)⟩, ⟨.draw 1, (0 : Nat)⟩, ⟨.bindable 8085, true⟩] (wanting 199 8085) g :=
  .ask rfl (.ask rfl (steps_wanting i 199 8085 g))

variable {g} {g' : Guards Bool}

theorem steps_refused (refused : g.lock "locks" 7 i (lockKey 8085) = (.ok false, g')) :
    (Guards.world "locks" (fun _ => 7) i).Steps (wanting 199 8085) g
      [⟨.lock (lockKey 8085), Except.ok false⟩, ⟨.draw 1, (0 : Nat)⟩, ⟨.bindable 8086, true⟩]
      (wanting 198 8086) g' :=
  .ask (.inl refused) (.ask rfl (steps_wanting i 198 8086 g'))

theorem steps_granted (granted : g.lock "locks" 7 i (lockKey port) = (.ok true, g')) :
    (Guards.world "locks" (fun _ => 7) i).Steps (wanting left port) g
      [⟨.lock (lockKey port), Except.ok true⟩] (twoPorts.settle left port false) g' :=
  .ask (.inl granted) (.refl _ _)

variable (g)

theorem runs_settle : (Guards.world "locks" (fun _ => 7) i).Runs
    (twoPorts.settle left port false) g [⟨.clock, (4 : Nat)⟩] (.ok ⟨port, 4⟩) g :=
  .ask rfl (.refl _ _)

end Contention

theorem steps_facing {g : Guards Bool}
    (granted : Guards.lock ⟨⟨{}, []⟩, fun _ => []⟩ "locks" 7 true (lockKey 8085) = (.ok true, g)) :
    ∃ s : Calls Bool,
      Relation.ReflTransGen (Step (fun _ => twoPorts) "locks") (opening (fun _ => twoPorts) {}) s ∧
      s.guards = g ∧ s.rest true = some (twoPorts.settle 199 8085 false) ∧
      s.rest false = some (wanting 199 8085) := by
  have begun := steps_of_call (a := fun _ => twoPorts) (s := opening (fun _ => twoPorts) {}) rfl
    ((steps_opening true _).trans (steps_granted true 199 8085 granted))
  exact ⟨_, begun.trans (steps_of_call rfl (steps_opening false g)), rfl, rfl, rfl⟩

/-- Both calls are after the lock of one port: the first gets it, the second is refused and leases the
next port. -/
theorem leases_exclusive_twoPorts : ∃ s t : Calls Bool,
    Relation.ReflTransGen (Step (fun _ => twoPorts) "locks") (opening (fun _ => twoPorts) {}) s ∧
    s.Looking (fun _ => twoPorts) true 8085 ∧ s.rest false = some (wanting 199 8085) ∧
    (s.guards.lock "locks" 7 false (lockKey 8085)).1 = .ok false ∧
    Relation.ReflTransGen (Step (fun _ => twoPorts) "locks") s t ∧
    t.Live true ⟨8085, 4⟩ ∧ t.Live false ⟨8086, 4⟩ ∧
    (∃ place ∈ t.guards.locks.held, t.guards.own true = [(lockKey 8085, place)]) ∧
    ∃ place ∈ t.guards.locks.held, t.guards.own false = [(lockKey 8086, place)] := by
  obtain ⟨g₁, g₂, g₃, first, second, third⟩ := Guards.lock_contended
  obtain ⟨s, wants, rfl, mine, yours⟩ := steps_facing first
  have turned := steps_of_call (a := fun _ => twoPorts) yours ((steps_refused false second).trans
    ((steps_granted false 198 8086 third).trans (runs_settle false 198 8086 g₃)))
  have ended := turned.trans (steps_of_call (i := true) mine (runs_settle true 199 8085 g₃))
  have leases := (leases_exclusive (wants.trans ended)).2.1
  obtain ⟨-, p, heldP, ownP, -⟩ := leases true ⟨8085, 4⟩ rfl
  obtain ⟨-, q, heldQ, ownQ, -⟩ := leases false ⟨8086, 4⟩ rfl
  exact ⟨s, _, wants, ⟨_, mine, 199, .done false, trivial, rfl⟩, yours, congrArg Prod.fst second,
    ended, rfl, rfl, ⟨p, heldP, ownP⟩, q, heldQ, ownQ⟩

end Calls

end TestRig.Port
