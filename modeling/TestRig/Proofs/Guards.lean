import Mathlib.Tactic
import TestRig.Host
import TestRig.Locks
import TestRig.Port.Lease
import TestRig.Proofs.HostRoutines

/-!
Locks of one directory in the hands of several parties. What a key leads to depends on links and the
starting directory alone, which no lock ever changes; so two parties that want one key want one
file, and only one of them has it. `Sole` is that statement, and every operation keeps it.
-/

namespace TestRig

theorem bind_eq_ok {ε α β : Type} {x : Except ε α} {f : α → Except ε β} {b : β} :
    (x >>= f) = .ok b ↔ ∃ a, x = .ok a ∧ f a = .ok b := by
  cases x <;> simp [bind, Except.bind]

namespace Files

def leadsBy (f : Files) (p : Place) : Step → Place
  | .here => p
  | .parent => p.dropLast
  | .name text => f.target p text

def leads (f : Files) (path : String) : Place := (steps path).foldl f.leadsBy (f.start path)

structure SameWays (f g : Files) : Prop where
  links : f.links = g.links
  home : f.home = g.home

theorem SameWays.trans {f g k : Files} (h : SameWays f g) (h' : SameWays g k) : SameWays f k :=
  ⟨h.links.trans h'.links, h.home.trans h'.home⟩

theorem SameWays.leads {f g : Files} (h : SameWays f g) : f.leads = g.leads := by
  have steps : f.leadsBy = g.leadsBy := by
    funext p s
    cases s <;> simp [leadsBy, target, h.links]
  funext path
  simp only [Files.leads, start, steps, h.home]

theorem step_eq {f : Files} {p q : Place} {s : Step} (h : f.step p s = .ok q) :
    q = f.leadsBy p s := by
  obtain ⟨_, _, h⟩ := bind_eq_ok.1 h
  cases s with
  | here => exact (Except.ok.inj h).symm
  | parent => exact (Except.ok.inj h).symm
  | name text =>
    simp only at h
    split at h
    · cases h
    · split at h
      · cases h
      · exact (Except.ok.inj h).symm

theorem walk_eq {f : Files} {p q : Place} {l : List Step} (h : f.walk p l = .ok q) :
    q = l.foldl f.leadsBy p := by
  induction l generalizing p with
  | nil => exact (Except.ok.inj h).symm
  | cons s rest ih =>
    obtain ⟨r, stepped, h⟩ := bind_eq_ok.1 h
    rw [List.foldl_cons, ← step_eq stepped]
    exact ih h

theorem slot_eq {f : Files} {path name : String} {p : Place}
    (h : f.slot path = .ok (p, some name)) : f.target p name = f.leads path := by
  obtain ⟨_, _, h⟩ := bind_eq_ok.1 h
  obtain ⟨q, walked, h⟩ := bind_eq_ok.1 h
  obtain ⟨_, _, h⟩ := bind_eq_ok.1 h
  split at h
  · rename_i text last
    simp only at h
    split at h
    · cases h
    · obtain ⟨rfl, named⟩ := Prod.mk.inj (Except.ok.inj h)
      obtain rfl := Option.some.inj named
      rw [leads, ← List.dropLast_append_getLast? _ last, List.foldl_append, ← walk_eq walked]
      rfl
  · cases h

theorem openToWrite_eq {f f' : Files} {path : String} {p : Place}
    (h : f.openToWrite path = .ok (p, f')) : p = f.leads path ∧ SameWays f f' := by
  obtain ⟨⟨d, name⟩, found, h⟩ := bind_eq_ok.1 h
  cases name with
  | none => cases h
  | some name =>
    rw [← slot_eq found]
    simp only at h
    split at h
    · cases h
    split at h
    · cases h
    · cases h
      exact ⟨rfl, rfl, rfl⟩
    · split at h
      · cases h
        exact ⟨rfl, rfl, rfl⟩
      · cases h

theorem Making.sameWays_step {m m' : Making} {last dotted : Bool} {text : String}
    (h : m.step last dotted text = .ok m') : SameWays m.files m'.files := by
  unfold step at h
  simp only at h
  split at h
  · cases h
  split at h
  · cases h
    exact ⟨rfl, rfl⟩
  · cases h
  · split at h
    · cases h
    · cases h
      exact ⟨rfl, rfl⟩

theorem Making.sameWays_along {dotted : Bool} {l : List Path.Component} {m m' : Making}
    (h : Making.along dotted m l = .ok m') : SameWays m.files m'.files := by
  induction l generalizing m with
  | nil =>
    cases h
    exact ⟨rfl, rfl⟩
  | cons c rest ih =>
    cases c with
    | root => exact ih h
    | here => exact ih h
    | parent => exact ih (m := { m with place := m.place.dropLast }) h
    | name text =>
      obtain ⟨k, stepped, h⟩ := bind_eq_ok.1 h
      exact (Making.sameWays_step stepped).trans (ih h)

theorem sameWays_createAll {f f' : Files} {path : String} (h : f.createAll path = .ok f') :
    SameWays f f' := by
  unfold createAll at h
  split at h
  · cases h
    exact ⟨rfl, rfl⟩
  · obtain ⟨_, _, h⟩ := bind_eq_ok.1 h
    obtain ⟨m, made, h⟩ := bind_eq_ok.1 h
    cases h
    exact Making.sameWays_along made

end Files

namespace Locks

theorem acquire_cases {s s' : Locks} {dir key : String} {pid : UInt32}
    {answer : Except SystemError (Option Place)} (h : s.acquire dir key pid = (answer, s')) :
    Files.SameWays s.files s'.files ∧
      ((∃ place, answer = .ok (some place) ∧ place = s.files.leads (path dir key) ∧
          place ∉ s.held ∧ s'.held = place :: s.held) ∨
        ((∀ place, answer ≠ .ok (some place)) ∧ s'.held = s.held)) := by
  unfold acquire at h
  split at h
  · cases h
    exact ⟨⟨rfl, rfl⟩, .inr ⟨by simp, rfl⟩⟩
  · rename_i files made
    have ways := Files.sameWays_createAll made
    split at h
    · cases h
      exact ⟨ways, .inr ⟨by simp, rfl⟩⟩
    · rename_i p files' opened
      obtain ⟨rfl, ways'⟩ := Files.openToWrite_eq opened
      rw [ways.leads]
      unfold take at h
      simp only at h
      split at h
      · cases h
        exact ⟨ways.trans ways', .inr ⟨by simp, rfl⟩⟩
      · rename_i free
        cases h
        exact ⟨(ways.trans ways').trans ⟨rfl, rfl⟩,
          .inl ⟨_, rfl, rfl, by simpa using free, rfl⟩⟩

theorem path_onePort : path "locks" "port_lock_8085" = "locks/port_lock_8085.lock" := by
  decide +kernel

theorem path_nextPort : path "locks" "port_lock_8086" = "locks/port_lock_8086.lock" := by
  decide +kernel

theorem check_onePort : Files.check "locks" = .ok () ∧
    Files.check "locks/port_lock_8085.lock" = .ok () ∧
    Files.check "locks/port_lock_8086.lock" = .ok () := by
  simp only [Files.check, Files.objection?]
  refine ⟨?_, ?_, ?_⟩ <;> simp <;> decide

theorem createAll_onePort :
    Files.createAll {} "locks" = .ok (Files.put {} ["locks"] .directory) := by
  simp only [Files.createAll, check_onePort.1]
  rfl

end Locks

/-- The locks of a directory, and for each party the keys it holds with the places they led to. -/
structure Guards (ι : Type) where
  locks : Locks
  own : ι → List (String × Place)

namespace Guards

variable {ι : Type}

/-- Every lock is held by one party, under one key, at the place the key leads to. -/
structure Sole (dir : String) (g : Guards ι) : Prop where
  placed : ∀ {i key place}, (key, place) ∈ g.own i →
    place = g.locks.files.leads (Locks.path dir key)
  held_iff : ∀ place, place ∈ g.locks.held ↔ ∃ i key, (key, place) ∈ g.own i
  single : ∀ {i j key key' place}, (key, place) ∈ g.own i → (key', place) ∈ g.own j →
    i = j ∧ key = key'

variable {dir : String} {g g' : Guards ι} {i j : ι} {key : String}

theorem sole_free (files : Files) : Sole dir (⟨⟨files, []⟩, fun _ : ι => []⟩ : Guards ι) :=
  ⟨by simp, by simp, by simp⟩

theorem Sole.eq_of_key (h : g.Sole dir) {p q : Place} (hi : (key, p) ∈ g.own i)
    (hj : (key, q) ∈ g.own j) : i = j := by
  obtain rfl : p = q := (h.placed hi).trans (h.placed hj).symm
  exact (h.single hi hj).1

theorem Sole.less (h : g.Sole dir) (files : g'.locks.files = g.locks.files)
    (gone : Place → Prop) (held : ∀ p, p ∈ g'.locks.held ↔ p ∈ g.locks.held ∧ ¬ gone p)
    (own : ∀ {j k p}, (k, p) ∈ g'.own j ↔ (k, p) ∈ g.own j ∧ ¬ gone p) : g'.Sole dir := by
  refine ⟨fun m => ?_, fun p => ?_, fun m m' => h.single (own.1 m).1 (own.1 m').1⟩
  · rw [files]
    exact h.placed (own.1 m).1
  · simp only [held, own, h.held_iff]
    constructor
    · rintro ⟨⟨j, k, m⟩, stays⟩
      exact ⟨j, k, m, stays⟩
    · rintro ⟨j, k, m, stays⟩
      exact ⟨⟨j, k, m⟩, stays⟩

variable [DecidableEq ι]

def lock (g : Guards ι) (dir : String) (pid : UInt32) (i : ι) (key : String) :
    Except SystemError Bool × Guards ι :=
  match g.locks.acquire dir key pid with
  | (.ok (some place), locks) =>
    (.ok true, ⟨locks, Function.update g.own i ((key, place) :: g.own i)⟩)
  | (.ok none, locks) => (.ok false, { g with locks })
  | (.error e, locks) => (.error e, { g with locks })

def unlock (g : Guards ι) (i : ι) (key : String) : Guards ι :=
  match (g.own i).lookup key with
  | some place =>
    ⟨g.locks.release place, Function.update g.own i ((g.own i).filter (·.1 ≠ key))⟩
  | none => g

/-- Give back all that a party holds, as the system does when it dies. -/
def quit (g : Guards ι) (i : ι) : Guards ι where
  locks := { g.locks with held := g.locks.held.filter fun p => !(g.own i).any (·.2 == p) }
  own := Function.update g.own i []

/-- Where nothing is yet, the first to ask gets the lock; the second is refused it, and gets that of
the next port. -/
theorem lock_contended : ∃ g₁ g₂ g₃ : Guards Bool,
    lock ⟨⟨{}, []⟩, fun _ => []⟩ "locks" 7 true (Port.lockKey 8085) = (.ok true, g₁) ∧
    g₁.lock "locks" 7 false (Port.lockKey 8085) = (.ok false, g₂) ∧
    g₂.lock "locks" 7 false (Port.lockKey 8086) = (.ok true, g₃) := by
  have key : Port.lockKey 8085 = "port_lock_8085" ∧ Port.lockKey 8086 = "port_lock_8086" := by
    decide +kernel
  refine ⟨_, _, _, Prod.ext ?_ rfl, Prod.ext ?_ rfl, Prod.ext ?_ rfl⟩
  all_goals
    simp only [lock, Locks.acquire, key.1, key.2, Locks.path_onePort, Locks.path_nextPort,
      Files.createAll, Files.openToWrite, Files.slot, Locks.check_onePort.1,
      Locks.check_onePort.2.1, Locks.check_onePort.2.2]
    decide +kernel

theorem lock_cases {g g' : Guards ι} {dir key : String} {pid : UInt32} {i : ι}
    {x : Except SystemError Bool} (h : g.lock dir pid i key = (x, g')) :
    Files.SameWays g.locks.files g'.locks.files ∧
      ((∃ place, x = .ok true ∧ place = g.locks.files.leads (Locks.path dir key) ∧
          place ∉ g.locks.held ∧ g'.locks.held = place :: g.locks.held ∧
          g'.own = Function.update g.own i ((key, place) :: g.own i)) ∨
        (x ≠ .ok true ∧ g'.locks.held = g.locks.held ∧ g'.own = g.own)) := by
  unfold lock at h
  split at h
  all_goals
    rename_i acquired
    obtain ⟨ways, taken⟩ := Locks.acquire_cases acquired
    cases h
  · obtain ⟨_, same, led, free, held⟩ | ⟨none, -⟩ := taken
    · cases same
      exact ⟨ways, .inl ⟨_, rfl, led, free, held, rfl⟩⟩
    · exact absurd rfl (none _)
  all_goals
    obtain ⟨place, same, -⟩ | ⟨-, held⟩ := taken
    · cases same
    · exact ⟨ways, .inr ⟨by simp, held, rfl⟩⟩

theorem mem_own_cons {own : ι → List (String × Place)} {k : String} {p place : Place} :
    (k, p) ∈ Function.update own i ((key, place) :: own i) j ↔
      (j = i ∧ k = key ∧ p = place) ∨ (k, p) ∈ own j := by
  rw [Function.update_apply]
  split_ifs with e
  · subst e
    simp
  · simp [e]

theorem Sole.lock (h : g.Sole dir) {pid : UInt32} {x : Except SystemError Bool}
    (locked : g.lock dir pid i key = (x, g')) : g'.Sole dir := by
  obtain ⟨ways, ⟨place, -, led, free, held, own⟩ | ⟨-, held, own⟩⟩ := lock_cases locked
  · have unheld : ∀ {j k}, (k, place) ∉ g.own j := fun {j k} m =>
      free ((h.held_iff place).2 ⟨j, k, m⟩)
    have mem : ∀ {j k p}, (k, p) ∈ g'.own j ↔
        (j = i ∧ k = key ∧ p = place) ∨ (k, p) ∈ g.own j := fun {j k p} => by
      rw [own]
      exact mem_own_cons
    refine ⟨fun m => ?_, fun p => ?_, fun m m' => ?_⟩
    · rw [← ways.leads]
      obtain ⟨-, rfl, rfl⟩ | m := mem.1 m
      · exact led
      · exact h.placed m
    · simp only [held, List.mem_cons, h.held_iff, mem]
      constructor
      · rintro (rfl | ⟨j, k, m⟩)
        · exact ⟨i, key, .inl ⟨rfl, rfl, rfl⟩⟩
        · exact ⟨j, k, .inr m⟩
      · rintro ⟨j, k, ⟨-, -, rfl⟩ | m⟩
        · exact .inl rfl
        · exact .inr ⟨j, k, m⟩
    · obtain ⟨rfl, rfl, rfl⟩ | m := mem.1 m <;> obtain ⟨rfl, rfl, e⟩ | m' := mem.1 m'
      · exact ⟨rfl, rfl⟩
      · exact absurd m' unheld
      · exact absurd (e ▸ m) unheld
      · exact h.single m m'
  · exact ⟨fun m => by rw [← ways.leads]; exact h.placed (own ▸ m),
      fun p => by rw [held, own]; exact h.held_iff p,
      fun m m' => h.single (own ▸ m) (own ▸ m')⟩

theorem Sole.unlock (h : g.Sole dir) (i : ι) (key : String) : (g.unlock i key).Sole dir := by
  unfold Guards.unlock
  split
  · rename_i place found
    have mine : (key, place) ∈ g.own i := by
      obtain ⟨l, r, e, -⟩ := List.lookup_eq_some_iff.1 found
      simp [e]
    refine h.less rfl (· = place) (fun p => by simp [Locks.release]) ?_
    intro j k p
    simp only [Function.update_apply]
    split_ifs with e
    · subst e
      simp only [List.mem_filter, decide_eq_true_eq]
      refine and_congr_right fun m => not_congr ⟨?_, ?_⟩
      · rintro rfl
        exact (h.placed m).trans (h.placed mine).symm
      · rintro rfl
        exact (h.single m mine).2
    · refine ⟨fun m => ⟨m, ?_⟩, And.left⟩
      rintro rfl
      exact e (h.single m mine).1
  · exact h

theorem Sole.quit (h : g.Sole dir) (i : ι) : (g.quit i).Sole dir := by
  refine h.less rfl (fun p => ∃ k, (k, p) ∈ g.own i) (fun p => ?_) ?_
  · simp only [Guards.quit, List.mem_filter, Bool.not_eq_true', List.any_eq_false, beq_iff_eq,
      Prod.forall, not_exists]
    exact and_congr_right fun _ =>
      ⟨fun none k m => none k p m rfl, fun none k q m e => none k (e ▸ m)⟩
  · intro j k p
    simp only [Guards.quit, Function.update_apply]
    split_ifs with e
    · subst e
      simp only [List.not_mem_nil, false_iff, not_and, not_not]
      exact fun m => ⟨k, m⟩
    · refine ⟨fun m => ⟨m, ?_⟩, And.left⟩
      rintro ⟨k', m'⟩
      exact e (h.single m m').1

theorem own_unlock_self (g : Guards ι) (i : ι) {key : String} {place : Place}
    (h : g.own i = [(key, place)]) : (g.unlock i key).own i = [] := by
  simp [Guards.unlock, h]

theorem own_unlock_of_ne (g : Guards ι) (h : j ≠ i) (key : String) :
    (g.unlock i key).own j = g.own j := by
  unfold Guards.unlock
  split
  · exact Function.update_of_ne h _ _
  · rfl

theorem own_lock_of_ne {pid : UInt32} {x : Except SystemError Bool} (h : j ≠ i)
    (locked : g.lock dir pid i key = (x, g')) : g'.own j = g.own j := by
  obtain ⟨-, ⟨_, -, -, -, -, own⟩ | ⟨-, -, own⟩⟩ := lock_cases locked
  · rw [own, Function.update_of_ne h]
  · rw [own]

/-- How a party's questions about locks are answered; the system may also refuse to open a lock
file. Everything else may be answered in any way and leaves the locks alone. -/
def world (dir : String) (pid : ι → UInt32) (i : ι) : World Host.interface (Guards ι) where
  Answers
    | .lock key, g, x, g' => g.lock dir (pid i) i key = (x, g') ∨ (∃ e, x = .error e) ∧ g' = g
    | .unlock key, g, _, g' => g' = g.unlock i key
    | _, g, _, g' => g' = g

end Guards

abbrev Host.Ask.LeavesLocks (q : Host.Ask) : Prop := q.Within fun _ => True

namespace Guards

variable {ι : Type} [DecidableEq ι] {dir : String} {pid : ι → UInt32} {i j : ι} {g g' : Guards ι}
  {q : Host.Ask} {x : q.Answer}

theorem world_of_leavesLocks (h : q.LeavesLocks) (answered : (world dir pid i).Answers q g x g') :
    g' = g := by
  cases q
  case lock => exact h.elim
  case unlock => exact h.elim
  all_goals exact answered

theorem Sole.world (h : g.Sole dir) (answered : (world dir pid i).Answers q g x g') :
    g'.Sole dir := by
  cases q
  case lock key =>
    obtain locked | ⟨-, rfl⟩ := answered
    · exact h.lock locked
    · exact h
  case unlock key =>
    obtain rfl : g' = g.unlock i key := answered
    exact h.unlock i key
  all_goals
    obtain rfl : g' = g := answered
    exact h

theorem own_world_of_ne (h : j ≠ i) (answered : (world dir pid i).Answers q g x g') :
    g'.own j = g.own j := by
  cases q
  case lock key =>
    obtain locked | ⟨-, rfl⟩ := answered
    · exact own_lock_of_ne h locked
    · rfl
  case unlock key =>
    obtain rfl : g' = g.unlock i key := answered
    exact own_unlock_of_ne g h key
  all_goals
    obtain rfl : g' = g := answered
    rfl

end Guards

end TestRig
