import Mathlib.Tactic
import TestRig.Proofs.Range

/-!
Which ports a range produces. A candidate is the base plus a value below the span plus an offset
below the jitter, and each such sum is produced, as a first candidate and as a later one. The upper
end of the range lies one above the largest of them, so it is contained and never produced.
-/

namespace TestRig.Port.Range

variable {r : Range} {port : Number}

def Candidate (r : Range) (port : Number) : Prop :=
  r.base.toNat ≤ port.toNat ∧ port.toNat ≤ r.base.toNat + r.span.toNat + r.jitter.toNat - 2

theorem candidate_iff_sum (h : r.Accepted) : r.Candidate port ↔
    ∃ value < r.span.toNat, ∃ offset < r.jitter,
      port.toNat = r.base.toNat + value + offset.toNat := by
  have span := h.span_pos
  have jitter := h.jitter_pos
  constructor
  · rintro ⟨low, high⟩
    by_cases inSpan : port.toNat - r.base.toNat < r.span.toNat
    · exact ⟨port.toNat - r.base.toNat, inSpan, 0, UInt16.lt_iff_toNat_lt.2 jitter, by simp; omega⟩
    · have inJitter : port.toNat - r.base.toNat - (r.span.toNat - 1) < r.jitter.toNat := by omega
      have offset := UInt16.toNat_ofNat_of_lt' (inJitter.trans r.jitter.toNat_lt)
      refine ⟨r.span.toNat - 1, by omega,
        .ofNat (port.toNat - r.base.toNat - (r.span.toNat - 1)), ?_, ?_⟩
      · rwa [UInt16.lt_iff_toNat_lt, offset]
      · omega
  · rintro ⟨value, inSpan, offset, inJitter, sum⟩
    have inJitter := UInt16.lt_iff_toNat_lt.1 inJitter
    constructor <;> omega

theorem candidate_iff (h : r.Accepted) :
    r.Candidate port ↔ r.contains port = true ∧ port ≠ r.highest := by
  have span := h.span_pos
  have jitter := h.jitter_pos
  have apart : port ≠ r.highest ↔
      port.toNat ≠ r.base.toNat + r.span.toNat + r.jitter.toNat - 1 := by
    rw [← toNat_highest h, ne_eq, ne_eq, UInt16.toNat_inj]
  rw [contains_iff h, apart, Candidate]
  omega

theorem contains_of_candidate (h : r.Accepted) (candidate : r.Candidate port) :
    r.contains port = true :=
  ((candidate_iff h).1 candidate).1

theorem candidate_lowest (h : r.Accepted) : r.Candidate r.lowest := by
  have span := h.span_pos
  have jitter := h.jitter_pos
  constructor
  · exact le_rfl
  · rw [lowest]
    omega

theorem candidate_fold (h : r.Accepted) (raw : UInt32) (offset : UInt16) :
    r.Candidate (r.fold raw offset) := by
  have inJitter : offset % r.jitter < r.jitter := by
    rw [UInt16.lt_iff_toNat_lt, UInt16.toNat_mod]
    exact h.mod_jitter_lt _
  exact (candidate_iff_sum h).2 ⟨_, h.mod_span_lt _, _, inJitter, toNat_fold h raw offset⟩

theorem candidate_next (h : r.Accepted) (previous : Number) (offset : UInt16) :
    r.Candidate (r.next previous offset) :=
  candidate_fold h _ _

theorem candidate_seed (h : r.Accepted) (pid : UInt32) (millis : Nat) (offset : UInt16) :
    r.Candidate (r.seed pid millis offset) :=
  candidate_fold h _ _

theorem exists_add_mod {n value : Nat} (below : value < n) (c : Nat) :
    ∃ x < n, (c + x) % n = value := by
  have rest := Nat.mod_lt c (Nat.zero_lt_of_lt below)
  refine ⟨(value + (n - c % n)) % n, Nat.mod_lt _ (Nat.zero_lt_of_lt below), ?_⟩
  calc (c + (value + (n - c % n)) % n) % n
      = (c % n + (value + (n - c % n))) % n := by simp
    _ = (value + n) % n := by congr 1; omega
    _ = value := by rw [Nat.add_mod_right, Nat.mod_eq_of_lt below]

theorem exists_seed (h : r.Accepted) (candidate : r.Candidate port) :
    ∃ pid : UInt32, ∃ offset < r.jitter, r.seed pid 0 offset = port := by
  obtain ⟨value, inSpan, offset, inJitter, sum⟩ := (candidate_iff_sum h).1 candidate
  obtain ⟨x, xInSpan, remainder⟩ := exists_add_mod inSpan (r.base.toNat + offset.toNat)
  rw [Nat.add_right_comm] at remainder
  have span := r.span.toNat_lt
  have pid : (UInt32.ofNat x).toNat = x := UInt32.toNat_ofNat_of_lt' (by simp [UInt32.size]; omega)
  refine ⟨.ofNat x, offset, inJitter, ?_⟩
  rw [← UInt16.toNat_inj, toNat_seed h, pid, Nat.mod_eq_of_lt xInSpan,
    Nat.mod_eq_of_lt (UInt16.lt_iff_toNat_lt.1 inJitter), Nat.zero_mod, Nat.add_zero,
    remainder, sum]

theorem next_eq (h : r.Accepted) {previous : Number} {offset : UInt16}
    (inJitter : offset < r.jitter)
    (sum : port.toNat = r.base.toNat + previous.toNat % r.span.toNat + offset.toNat) :
    r.next previous offset = port := by
  rw [← UInt16.toNat_inj, toNat_next h, Nat.mod_eq_of_lt (UInt16.lt_iff_toNat_lt.1 inJitter), sum]

theorem exists_next (h : r.Accepted) (candidate : r.Candidate port) :
    ∃ previous, r.Candidate previous ∧ ∃ offset < r.jitter, r.next previous offset = port := by
  have jitter := h.jitter_pos
  have upper := h.sum_le
  obtain ⟨value, inSpan, offset, inJitter, sum⟩ := (candidate_iff_sum h).1 candidate
  obtain ⟨x, xInSpan, remainder⟩ := exists_add_mod inSpan r.base.toNat
  simp only [highestAllowed] at upper
  have previous : (UInt16.ofNat (r.base.toNat + x)).toNat = r.base.toNat + x :=
    UInt16.toNat_ofNat_of_lt' (by simp only [UInt16.size]; omega)
  refine ⟨.ofNat (r.base.toNat + x), ?_, offset, inJitter, next_eq h inJitter ?_⟩
  · constructor <;> omega
  · rw [previous, remainder, sum]

theorem candidate_iff_seed (h : r.Accepted) : r.Candidate port ↔
    ∃ pid, ∃ millis < 2 ^ 128, ∃ offset, r.seed pid millis offset = port := by
  constructor
  · intro candidate
    obtain ⟨pid, offset, -, seed⟩ := exists_seed h candidate
    exact ⟨pid, 0, by decide, offset, seed⟩
  · rintro ⟨pid, millis, -, offset, rfl⟩
    exact candidate_seed h pid millis offset

theorem candidate_iff_next (h : r.Accepted) :
    r.Candidate port ↔ ∃ previous offset, r.next previous offset = port := by
  constructor
  · intro candidate
    obtain ⟨previous, -, offset, -, next⟩ := exists_next h candidate
    exact ⟨previous, offset, next⟩
  · rintro ⟨previous, offset, rfl⟩
    exact candidate_next h previous offset

theorem not_candidate_highest (h : r.Accepted) : ¬ r.Candidate r.highest :=
  fun candidate => ((candidate_iff h).1 candidate).2 rfl

theorem contains_iff_candidate (h : r.Accepted) :
    r.contains port = true ↔ r.Candidate port ∨ port = r.highest := by
  constructor
  · intro contained
    by_cases top : port = r.highest
    · exact .inr top
    · exact .inl ((candidate_iff h).2 ⟨contained, top⟩)
  · rintro (candidate | rfl)
    · exact contains_of_candidate h candidate
    · rw [contains_iff h, toNat_highest h]
      have := (candidate_lowest h).2
      rw [lowest] at this
      omega

/-- A range contains what it produces and one port more, its upper end. Nothing produces that one:
no process starts there at any time, and from no port does a search get there. -/
theorem contains_iff_produced (h : r.Accepted) (port : Number) :
    (r.contains port = true ↔
      (∃ pid, ∃ millis < 2 ^ 128, ∃ offset, r.seed pid millis offset = port) ∨
        port = r.highest) ∧
    (r.contains port = true ↔
      (∃ previous offset, r.next previous offset = port) ∨ port = r.highest) ∧
    (∃ pid, ∃ millis < 2 ^ 128, ∃ offset, r.seed pid millis offset = r.lowest) ∧
    (∃ previous offset, r.next previous offset = r.lowest) ∧
    (∀ pid millis offset, r.seed pid millis offset ≠ r.highest) ∧
    ∀ previous offset, r.next previous offset ≠ r.highest := by
  refine ⟨?_, ?_, (candidate_iff_seed h).1 (candidate_lowest h),
    (candidate_iff_next h).1 (candidate_lowest h), fun pid millis offset top => ?_,
    fun previous offset top => ?_⟩
  · rw [← candidate_iff_seed h, contains_iff_candidate h]
  · rw [← candidate_iff_next h, contains_iff_candidate h]
  · exact not_candidate_highest h (top ▸ candidate_seed h pid millis offset)
  · exact not_candidate_highest h (top ▸ candidate_next h previous offset)

theorem contains_iff_produced_last : (⟨65526, 5, 5⟩ : Range).Accepted ∧
    (⟨65526, 5, 5⟩ : Range).contains 65535 = true ∧
    (∃ previous offset, (⟨65526, 5, 5⟩ : Range).next previous offset = 65534) ∧
    ∀ pid millis offset, (⟨65526, 5, 5⟩ : Range).seed pid millis offset ≠ 65535 := by
  have accepted : (⟨65526, 5, 5⟩ : Range).Accepted := by decide
  have top : (⟨65526, 5, 5⟩ : Range).highest = 65535 := by decide
  obtain ⟨-, produced, -, -, never, -⟩ := contains_iff_produced accepted 65534
  refine ⟨accepted, by decide, ?_, fun pid millis offset => top ▸ never pid millis offset⟩
  exact (produced.1 (by decide)).resolve_right (by decide)

/-- A range of a single port says that it goes up to the next one, which is contained too and is
never produced. -/
theorem highest_not_attained : ∃ r : Range, Range.create 20000 1 1 = .ok r ∧
    r.highest = 20001 ∧ r.contains 20001 = true ∧
    (∀ pid millis offset, r.seed pid millis offset = 20000) ∧
    ∀ previous offset, r.next previous offset = 20000 := by
  have accepted : (⟨20000, 1, 1⟩ : Range).Accepted := by decide
  refine ⟨⟨20000, 1, 1⟩, accepted, by decide, by decide, fun pid millis offset => ?_,
    fun previous offset => ?_⟩
  · rw [← UInt16.toNat_inj, toNat_seed accepted]
    simp [Nat.mod_one]
  · rw [← UInt16.toNat_inj, toNat_next accepted]
    simp [Nat.mod_one]

end TestRig.Port.Range
