import Mathlib.Tactic
import TestRig.Port.Range

/-!
Arithmetic of a port range. In an accepted range no sum of 32 bits wraps and none is cut when it
becomes a port, so candidates are plain sums of remainders and lie between the two ends.
-/

namespace TestRig.Port.Range

variable {r : Range}

/-- The range is one that the check of its three numbers lets through. -/
def Accepted (r : Range) : Prop := create r.base r.span r.jitter = .ok r

instance (r : Range) : Decidable r.Accepted :=
  match h : create r.base r.span r.jitter with
  | .ok s =>
    if e : s = r then .isTrue (e ▸ h) else .isFalse fun a => e (Except.ok.inj (h.symm.trans a))
  | .error _ => .isFalse fun a => by simp [Accepted, h] at a

theorem accepted_iff : r.Accepted ↔ r.span ≠ 0 ∧ r.jitter ≠ 0 ∧ lowestAllowed ≤ r.base.toNat ∧
    r.base.toNat + r.span.toNat + r.jitter.toNat - 1 ≤ highestAllowed := by
  unfold Accepted create
  simp only
  split_ifs with empty low high
  · simp only [false_iff]
    rintro ⟨hs, hj, -⟩
    exact empty.elim hs hj
  · simp only [false_iff]
    omega
  · simp only [false_iff]
    omega
  · simp only [not_or] at empty
    simp only [true_iff]
    exact ⟨empty.1, empty.2, by omega, by omega⟩

theorem accepted_standard : standard.Accepted := by decide

theorem toNat_pos {n : UInt16} (h : n ≠ 0) : 0 < n.toNat := by
  have : n.toNat ≠ 0 := fun e => h (UInt16.toNat_inj.1 e)
  omega

theorem Accepted.span_pos (h : r.Accepted) : 0 < r.span.toNat := toNat_pos (accepted_iff.1 h).1

theorem Accepted.jitter_pos (h : r.Accepted) : 0 < r.jitter.toNat :=
  toNat_pos (accepted_iff.1 h).2.1

theorem Accepted.sum_le (h : r.Accepted) :
    r.base.toNat + r.span.toNat + r.jitter.toNat ≤ highestAllowed + 1 :=
  Nat.sub_le_iff_le_add.1 (accepted_iff.1 h).2.2.2

theorem Accepted.mod_span_lt (h : r.Accepted) (n : Nat) : n % r.span.toNat < r.span.toNat :=
  Nat.mod_lt n h.span_pos

theorem Accepted.mod_jitter_lt (h : r.Accepted) (n : Nat) : n % r.jitter.toNat < r.jitter.toNat :=
  Nat.mod_lt n h.jitter_pos

theorem toNat_fold (h : r.Accepted) (raw : UInt32) (offset : UInt16) :
    (r.fold raw offset).toNat =
      r.base.toNat + raw.toNat % r.span.toNat + offset.toNat % r.jitter.toNat := by
  have inSpan := h.mod_span_lt raw.toNat
  have inJitter := h.mod_jitter_lt offset.toNat
  have upper := h.sum_le
  simp only [highestAllowed] at upper
  simp only [fold, UInt32.toNat_toUInt16, UInt32.toNat_add, UInt32.toNat_mod, UInt16.toNat_toUInt32,
    UInt16.toNat_mod]
  omega

theorem toNat_next (h : r.Accepted) (previous : Number) (offset : UInt16) :
    (r.next previous offset).toNat =
      r.base.toNat + previous.toNat % r.span.toNat + offset.toNat % r.jitter.toNat := by
  rw [next, toNat_fold h, UInt16.toNat_toUInt32]

theorem toNat_seed (h : r.Accepted) (pid : UInt32) (millis : Nat) (offset : UInt16) :
    (r.seed pid millis offset).toNat = r.base.toNat +
      (r.base.toNat + pid.toNat % r.span.toNat + millis % r.span.toNat +
        offset.toNat % r.jitter.toNat) % r.span.toNat + offset.toNat % r.jitter.toNat := by
  have pidInSpan := h.mod_span_lt pid.toNat
  have millisInSpan := h.mod_span_lt millis
  have inJitter := h.mod_jitter_lt offset.toNat
  have upper := h.sum_le
  simp only [highestAllowed] at upper
  have raw : (r.base.toUInt32 + pid % r.span.toUInt32 +
      UInt32.ofNat (millis % r.span.toNat) + (offset % r.jitter).toUInt32).toNat =
      r.base.toNat + pid.toNat % r.span.toNat + millis % r.span.toNat +
        offset.toNat % r.jitter.toNat := by
    simp only [UInt32.toNat_add, UInt32.toNat_mod, UInt16.toNat_toUInt32, UInt16.toNat_mod,
      UInt32.toNat_ofNat']
    omega
  simp only [seed, toNat_fold h, raw]

theorem toNat_highest (h : r.Accepted) :
    r.highest.toNat = r.base.toNat + r.span.toNat + r.jitter.toNat - 1 := by
  have positive := h.span_pos
  have upper := h.sum_le
  simp only [highestAllowed] at upper
  simp only [highest, UInt32.toNat_toUInt16, UInt32.toNat_sub, UInt32.toNat_add,
    UInt16.toNat_toUInt32, UInt32.reduceToNat]
  omega

theorem contains_iff (h : r.Accepted) (port : Number) : r.contains port = true ↔
    r.base.toNat ≤ port.toNat ∧ port.toNat ≤ r.base.toNat + r.span.toNat + r.jitter.toNat - 1 := by
  rw [← toNat_highest h]
  simp [contains, lowest, UInt16.le_iff_toNat_le]

theorem contains_fold (h : r.Accepted) (raw : UInt32) (offset : UInt16) :
    r.contains (r.fold raw offset) = true := by
  have inSpan := h.mod_span_lt raw.toNat
  have inJitter := h.mod_jitter_lt offset.toNat
  rw [contains_iff h, toNat_fold h]
  omega

theorem contains_seed (h : r.Accepted) (pid : UInt32) (millis : Nat) (offset : UInt16) :
    r.contains (r.seed pid millis offset) = true :=
  contains_fold h _ _

theorem contains_next (h : r.Accepted) (previous : Number) (offset : UInt16) :
    r.contains (r.next previous offset) = true :=
  contains_fold h _ _

end TestRig.Port.Range
