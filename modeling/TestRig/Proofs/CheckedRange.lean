import Mathlib.Tactic
import TestRig.Proofs.Candidates

/-!
The arithmetic of a port range, once more with every step checked: a sum that does not fit its word,
a difference below zero, a remainder by zero and a number cut short have no result. In an accepted
range each computation has one, the same as without the checks, and the exact one.
-/

namespace TestRig.Port

open Range (accepted_iff toNat_pos toNat_fold toNat_highest)

namespace Checked

def toWord (n : Nat) : Option UInt32 := if n < 2 ^ 32 then some (.ofNat n) else none

def toPort (n : Nat) : Option Number := if n < 2 ^ 16 then some (.ofNat n) else none

def add (a b : UInt32) : Option UInt32 := toWord (a.toNat + b.toNat)

def sub (a b : UInt32) : Option UInt32 :=
  if b.toNat ≤ a.toNat then toWord (a.toNat - b.toNat) else none

def rem {α : Type} [Mod α] [OfNat α 0] [DecidableEq α] (a b : α) : Option α :=
  if b = 0 then none else some (a % b)

section

variable (r : Range)

def highest : Option Number := do
  let upper ← sub (← add (← add r.base.toUInt32 r.span.toUInt32) r.jitter.toUInt32) 1
  toPort upper.toNat

def fold (raw : UInt32) (offset : UInt16) : Option Number := do
  let value ← rem raw r.span.toUInt32
  let drawn ← rem offset r.jitter
  let folded ← add (← add r.base.toUInt32 value) drawn.toUInt32
  toPort folded.toNat

def seed (pid : UInt32) (millis : Nat) (offset : UInt16) : Option Number := do
  let own ← rem pid r.span.toUInt32
  let time ← toWord (← rem millis r.span.toNat)
  let drawn ← rem offset r.jitter
  let raw ← add (← add (← add r.base.toUInt32 own) time) drawn.toUInt32
  fold r raw offset

def next (previous : Number) (offset : UInt16) : Option Number := fold r previous.toUInt32 offset

def walk : (previous : Number) → (offsets : List UInt16) → Option (List Number)
  | _, [] => some []
  | previous, offset :: rest => do
    let port ← next r previous offset
    return port :: (← walk port rest)

end

theorem toWord_eq_some_iff {n : Nat} {w : UInt32} : toWord n = some w ↔ w.toNat = n := by
  unfold toWord
  split_ifs with fits
  · rw [Option.some_inj, ← UInt32.toNat_inj, UInt32.toNat_ofNat_of_lt' fits, eq_comm]
  · have := w.toNat_lt
    simp only [false_iff]
    omega

theorem toPort_eq_some_iff {n : Nat} {p : Number} : toPort n = some p ↔ p.toNat = n := by
  unfold toPort
  split_ifs with fits
  · rw [Option.some_inj, ← UInt16.toNat_inj, UInt16.toNat_ofNat_of_lt' fits, eq_comm]
  · have := p.toNat_lt
    simp only [false_iff]
    omega

theorem add_eq_some {a b : UInt32} (fits : a.toNat + b.toNat < 2 ^ 32) :
    add a b = some (a + b) := by
  rw [add, toWord_eq_some_iff, UInt32.toNat_add, Nat.mod_eq_of_lt fits]

theorem sub_eq_some {a b : UInt32} (fits : b.toNat ≤ a.toNat) : sub a b = some (a - b) := by
  rw [sub, if_pos fits, toWord_eq_some_iff, UInt32.toNat_sub_of_le _ _ fits]

theorem rem_eq_some {α : Type} [Mod α] [OfNat α 0] [DecidableEq α] {a b : α} (h : b ≠ 0) :
    rem a b = some (a % b) :=
  if_neg h

theorem toUInt32_ne_zero {n : UInt16} (h : n ≠ 0) : n.toUInt32 ≠ 0 := by
  intro zero
  have := toNat_pos h
  have : n.toNat = 0 := congrArg UInt32.toNat zero
  omega

variable {r : Range}

theorem highest_eq (h : r.Accepted) : highest r = some r.highest := by
  have positive := h.span_pos
  have upper := h.sum_le
  simp only [highestAllowed] at upper
  have first : add r.base.toUInt32 r.span.toUInt32 =
      some (r.base.toUInt32 + r.span.toUInt32) := add_eq_some (by simp; omega)
  have second : add (r.base.toUInt32 + r.span.toUInt32) r.jitter.toUInt32 =
      some (r.base.toUInt32 + r.span.toUInt32 + r.jitter.toUInt32) :=
    add_eq_some (by simp; omega)
  have third : sub (r.base.toUInt32 + r.span.toUInt32 + r.jitter.toUInt32) 1 =
      some (r.base.toUInt32 + r.span.toUInt32 + r.jitter.toUInt32 - 1) :=
    sub_eq_some (by simp; omega)
  have last : toPort (r.base.toUInt32 + r.span.toUInt32 + r.jitter.toUInt32 - 1).toNat =
      some r.highest := by
    rw [toPort_eq_some_iff, toNat_highest h, UInt32.toNat_sub_of_le]
    · simp
      omega
    · rw [UInt32.le_iff_toNat_le]
      simp
      omega
  simp only [highest, first, second, third, last, Option.bind_eq_bind, Option.bind_some]

theorem fold_eq (h : r.Accepted) (raw : UInt32) (offset : UInt16) :
    fold r raw offset = some (r.fold raw offset) := by
  obtain ⟨hs, hj, -⟩ := accepted_iff.1 h
  have inSpan := h.mod_span_lt raw.toNat
  have inJitter := h.mod_jitter_lt offset.toNat
  have upper := h.sum_le
  simp only [highestAllowed] at upper
  have value : rem raw r.span.toUInt32 = some (raw % r.span.toUInt32) :=
    rem_eq_some (toUInt32_ne_zero hs)
  have drawn : rem offset r.jitter = some (offset % r.jitter) := rem_eq_some hj
  have first : add r.base.toUInt32 (raw % r.span.toUInt32) =
      some (r.base.toUInt32 + raw % r.span.toUInt32) := add_eq_some (by simp; omega)
  have second : add (r.base.toUInt32 + raw % r.span.toUInt32) (offset % r.jitter).toUInt32 =
      some (r.base.toUInt32 + raw % r.span.toUInt32 + (offset % r.jitter).toUInt32) :=
    add_eq_some (by simp; omega)
  have last : toPort (r.base.toUInt32 + raw % r.span.toUInt32 +
      (offset % r.jitter).toUInt32).toNat = some (r.fold raw offset) := by
    rw [toPort_eq_some_iff, toNat_fold h]
    simp
    omega
  simp only [fold, value, drawn, first, second, last, Option.bind_eq_bind, Option.bind_some]

theorem seed_eq (h : r.Accepted) (pid : UInt32) (millis : Nat) (offset : UInt16) :
    seed r pid millis offset = some (r.seed pid millis offset) := by
  obtain ⟨hs, hj, -⟩ := accepted_iff.1 h
  have ownInSpan := h.mod_span_lt pid.toNat
  have timeInSpan := h.mod_span_lt millis
  have inJitter := h.mod_jitter_lt offset.toNat
  have upper := h.sum_le
  simp only [highestAllowed] at upper
  have own : rem pid r.span.toUInt32 = some (pid % r.span.toUInt32) :=
    rem_eq_some (toUInt32_ne_zero hs)
  have cut : rem millis r.span.toNat = some (millis % r.span.toNat) := rem_eq_some h.span_pos.ne'
  have time : toWord (millis % r.span.toNat) = some (.ofNat (millis % r.span.toNat)) :=
    toWord_eq_some_iff.2 (by simp; omega)
  have drawn : rem offset r.jitter = some (offset % r.jitter) := rem_eq_some hj
  have first : add r.base.toUInt32 (pid % r.span.toUInt32) =
      some (r.base.toUInt32 + pid % r.span.toUInt32) := add_eq_some (by simp; omega)
  have second : add (r.base.toUInt32 + pid % r.span.toUInt32) (.ofNat (millis % r.span.toNat)) =
      some (r.base.toUInt32 + pid % r.span.toUInt32 + .ofNat (millis % r.span.toNat)) :=
    add_eq_some (by simp; omega)
  have third : add (r.base.toUInt32 + pid % r.span.toUInt32 + .ofNat (millis % r.span.toNat))
      (offset % r.jitter).toUInt32 = some (r.base.toUInt32 + pid % r.span.toUInt32 +
        .ofNat (millis % r.span.toNat) + (offset % r.jitter).toUInt32) :=
    add_eq_some (by simp; omega)
  simp only [seed, own, cut, time, drawn, first, second, third, fold_eq h, Option.bind_eq_bind,
    Option.bind_some, Range.seed]

theorem next_eq (h : r.Accepted) (previous : Number) (offset : UInt16) :
    next r previous offset = some (r.next previous offset) :=
  fold_eq h _ _

theorem walk_eq (h : r.Accepted) (previous : Number) (offsets : List UInt16) :
    walk r previous offsets = some (r.walk previous offsets) := by
  induction offsets generalizing previous with
  | nil => rfl
  | cons offset rest ih =>
    simp only [walk, next_eq h, ih, Option.bind_eq_bind, Option.bind_some, Range.walk]
    rfl

end Checked

namespace Range

variable {r : Range}

/-- The sum that a value and an offset stand for, in numbers without bounds. -/
def exactSum (r : Range) (raw offset : Nat) : Nat :=
  r.base.toNat + raw % r.span.toNat + offset % r.jitter.toNat

def exactWalk (r : Range) : (previous : Nat) → (offsets : List UInt16) → List Nat
  | _, [] => []
  | previous, offset :: rest =>
    r.exactSum previous offset.toNat :: r.exactWalk (r.exactSum previous offset.toNat) rest

theorem map_walk (h : r.Accepted) (previous : Number) (offsets : List UInt16) :
    (r.walk previous offsets).map (·.toNat) = r.exactWalk previous.toNat offsets := by
  induction offsets generalizing previous with
  | nil => rfl
  | cons offset rest ih =>
    have port : (r.next previous offset).toNat = r.exactSum previous.toNat offset.toNat :=
      toNat_next h previous offset
    simp only [walk, List.map_cons, ih, exactWalk, port]

theorem candidate_of_mem_walk (h : r.Accepted) {previous port : Number} {offsets : List UInt16}
    (among : port ∈ r.walk previous offsets) : r.Candidate port := by
  induction offsets generalizing previous with
  | nil => exact absurd among List.not_mem_nil
  | cons offset rest ih =>
    obtain rfl | among := List.mem_cons.1 among
    · exact candidate_next h previous offset
    · exact ih among

theorem allowed_of_candidate (h : r.Accepted) {port : Number} (candidate : r.Candidate port) :
    lowestAllowed ≤ port.toNat ∧ port.toNat ≤ highestAllowed := by
  obtain ⟨-, -, lower, upper⟩ := accepted_iff.1 h
  obtain ⟨low, high⟩ := candidate
  constructor <;> omega

/-- In an accepted range, and in the standard one, no sum overflows, no number is cut short, and
each result is the exact sum; first candidates and walks of any length consist of candidates, which
are contained in the range and allowed as ports. -/
theorem arithmetic_exact (h : r.Accepted ∨ r = standard) (pid : UInt32) (millis : Nat)
    (offset : UInt16) (previous : Number) (offsets : List UInt16) :
    Checked.highest r = some r.highest ∧
    r.highest.toNat = r.base.toNat + r.span.toNat + r.jitter.toNat - 1 ∧
    Checked.seed r pid millis offset = some (r.seed pid millis offset) ∧
    (r.seed pid millis offset).toNat =
      r.exactSum (r.base.toNat + pid.toNat % r.span.toNat + millis % r.span.toNat +
        offset.toNat % r.jitter.toNat) offset.toNat ∧
    Checked.next r previous offset = some (r.next previous offset) ∧
    (r.next previous offset).toNat = r.exactSum previous.toNat offset.toNat ∧
    Checked.walk r previous offsets = some (r.walk previous offsets) ∧
    (r.walk previous offsets).map (·.toNat) = r.exactWalk previous.toNat offsets ∧
    ∀ port ∈ r.seed pid millis offset :: r.walk previous offsets,
      r.Candidate port ∧ r.contains port = true ∧
        lowestAllowed ≤ port.toNat ∧ port.toNat ≤ highestAllowed := by
  have accepted : r.Accepted := h.elim id fun same => same ▸ accepted_standard
  refine ⟨Checked.highest_eq accepted, toNat_highest accepted,
    Checked.seed_eq accepted pid millis offset, toNat_seed accepted pid millis offset,
    Checked.next_eq accepted previous offset, toNat_next accepted previous offset,
    Checked.walk_eq accepted previous offsets, map_walk accepted previous offsets,
    fun port among => ?_⟩
  have candidate : r.Candidate port := by
    obtain rfl | among := List.mem_cons.1 among
    · exact candidate_seed accepted pid millis offset
    · exact candidate_of_mem_walk accepted among
  exact ⟨candidate, contains_of_candidate accepted candidate,
    allowed_of_candidate accepted candidate⟩

theorem arithmetic_exact_last : (⟨65526, 5, 5⟩ : Range).Accepted ∧
    Checked.seed ⟨65526, 5, 5⟩ 4294967295 (2 ^ 128 - 1) 65535 = some 65527 ∧
    Checked.walk ⟨65526, 5, 5⟩ 65535 [65534, 65535, 9] = some [65530, 65526, 65531] ∧
    ∀ port ∈ (⟨65526, 5, 5⟩ : Range).walk 65535 [65534, 65535, 9], port.toNat ≤ highestAllowed := by
  have accepted : (⟨65526, 5, 5⟩ : Range).Accepted := by decide
  obtain ⟨-, -, seed, -, -, -, walk, -, within⟩ := arithmetic_exact (.inl accepted) 4294967295
    (2 ^ 128 - 1) 65535 65535 [65534, 65535, 9]
  refine ⟨accepted, seed.trans (by decide), walk.trans (by decide), fun port among => ?_⟩
  exact (within port (List.mem_cons_of_mem _ among)).2.2.2

end Range

end TestRig.Port
