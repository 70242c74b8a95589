import Mathlib.Tactic
import TestRig.Proofs.Candidates
import TestRig.Proofs.LeaseCourse

/-!
Where a walk gets to. Each step adds the base and an offset, modulo the span. With two offsets to
choose from, as many steps as the span has values make up any remainder; with one offset, the walk
goes round the remainders and meets all of them exactly if base and span have no common factor.
Where they have one, a walk never leaves the remainder of its start, and a search can use up any
number of attempts beside a free port.
-/

namespace TestRig.Port

namespace Range

variable {r : Range} {start port : Number}

def Reaches (r : Range) (start port : Number) : Prop :=
  ∃ offsets : List UInt16, (∀ offset ∈ offsets, offset < r.jitter) ∧
    port ∈ start :: r.walk start offsets

theorem foldl_next_mem (r : Range) (start : Number) (offsets : List UInt16) :
    offsets.foldl r.next start ∈ start :: r.walk start offsets := by
  induction offsets generalizing start with
  | nil => exact List.mem_cons_self
  | cons offset rest ih => exact List.mem_cons_of_mem _ (ih _)

theorem toNat_next_modEq (h : r.Accepted) {offset : UInt16} (inJitter : offset < r.jitter)
    (previous : Number) : (r.next previous offset).toNat ≡
      previous.toNat + r.base.toNat + offset.toNat [MOD r.span.toNat] := by
  rw [toNat_next h, Nat.mod_eq_of_lt (UInt16.lt_iff_toNat_lt.1 inJitter), Nat.add_comm r.base.toNat]
  exact ((Nat.mod_modEq _ _).add_right _).add_right _

theorem foldl_next_modEq (h : r.Accepted) (start : Number) {offsets : List UInt16}
    (inJitter : ∀ offset ∈ offsets, offset < r.jitter) :
    (offsets.foldl r.next start).toNat ≡ start.toNat + offsets.length * r.base.toNat +
      (offsets.map (·.toNat)).sum [MOD r.span.toNat] := by
  induction offsets generalizing start with
  | nil => simp [Nat.ModEq]
  | cons offset rest ih =>
    obtain ⟨first, later⟩ := List.forall_mem_cons.1 inJitter
    calc (rest.foldl r.next (r.next start offset)).toNat
        ≡ (r.next start offset).toNat + rest.length * r.base.toNat + (rest.map (·.toNat)).sum
          [MOD r.span.toNat] := ih _ later
      _ ≡ start.toNat + r.base.toNat + offset.toNat + rest.length * r.base.toNat +
          (rest.map (·.toNat)).sum [MOD r.span.toNat] :=
        ((toNat_next_modEq h first start).add_right _).add_right _
      _ = start.toNat + (offset :: rest).length * r.base.toNat +
          ((offset :: rest).map (·.toNat)).sum := by
        simp only [List.length_cons, List.map_cons, List.sum_cons]
        ring

theorem reaches_of_remainders (h : r.Accepted)
    (remainders : ∀ value < r.span.toNat, ∃ offsets : List UInt16,
      (∀ offset ∈ offsets, offset < r.jitter) ∧
        (offsets.foldl r.next start).toNat % r.span.toNat = value)
    (candidate : r.Candidate port) : r.Reaches start port := by
  obtain ⟨value, inSpan, offset, inJitter, sum⟩ := (candidate_iff_sum h).1 candidate
  obtain ⟨offsets, below, remainder⟩ := remainders value inSpan
  refine ⟨offsets ++ [offset], List.forall_mem_append.2 ⟨below, by simpa using inJitter⟩, ?_⟩
  have last : (offsets ++ [offset]).foldl r.next start = port := by
    rw [List.foldl_append]
    exact next_eq h inJitter (by rw [remainder, sum])
  exact last ▸ foldl_next_mem r start (offsets ++ [offset])

theorem reaches_of_two_offsets (h : r.Accepted) (two : 2 ≤ r.jitter.toNat)
    (candidate : r.Candidate port) : r.Reaches start port := by
  refine reaches_of_remainders h (fun value inSpan => ?_) candidate
  obtain ⟨ones, fewer, remainder⟩ := exists_add_mod inSpan start.toNat
  have zero : (0 : UInt16) < r.jitter := UInt16.lt_iff_toNat_lt.2 (by simp; omega)
  have one : (1 : UInt16) < r.jitter := UInt16.lt_iff_toNat_lt.2 (by simp; omega)
  have below : ∀ offset ∈ List.replicate ones (1 : UInt16) ++
      List.replicate (r.span.toNat - ones) 0, offset < r.jitter := by
    intro offset among
    obtain among | among := List.mem_append.1 among
    · exact (List.eq_of_mem_replicate among) ▸ one
    · exact (List.eq_of_mem_replicate among) ▸ zero
  refine ⟨_, below, Eq.trans (foldl_next_modEq h start below) ?_⟩
  -- in as many steps as the span has values the bases cancel, which leaves the ones
  calc _ = (start.toNat + ones + r.span.toNat * r.base.toNat) % r.span.toNat := by
        simp [Nat.add_sub_cancel' fewer.le, Nat.add_right_comm]
    _ = value := by rw [Nat.add_mul_mod_self_left, remainder]

theorem reaches_of_coprime (h : r.Accepted) (coprime : r.base.toNat.gcd r.span.toNat = 1)
    (candidate : r.Candidate port) : r.Reaches start port := by
  refine reaches_of_remainders h (fun value inSpan => ?_) candidate
  obtain ⟨x, -, remainder⟩ := exists_add_mod inSpan start.toNat
  obtain ⟨m, -, steps⟩ := Nat.exists_mul_mod_eq_of_coprime x coprime h.span_pos.ne'
  have below : ∀ offset ∈ List.replicate m (0 : UInt16), offset < r.jitter := by
    intro offset among
    rw [List.eq_of_mem_replicate among]
    exact UInt16.lt_iff_toNat_lt.2 h.jitter_pos
  refine ⟨_, below, Eq.trans (foldl_next_modEq h start below) ?_⟩
  calc _ = (start.toNat + r.base.toNat * m) % r.span.toNat := by simp [Nat.mul_comm]
    _ = (start.toNat + x) % r.span.toNat := Nat.ModEq.add_left _ steps
    _ = value := remainder

theorem next_modEq_gcd (h : r.Accepted) (single : r.jitter = 1) (previous : Number)
    (offset : UInt16) : (r.next previous offset).toNat ≡
      previous.toNat [MOD r.base.toNat.gcd r.span.toNat] := by
  have common := Nat.gcd_dvd_left r.base.toNat r.span.toNat
  calc (r.next previous offset).toNat
      = r.base.toNat + previous.toNat % r.span.toNat := by
        rw [toNat_next h, single]
        simp [Nat.mod_one]
    _ ≡ 0 + previous.toNat [MOD r.base.toNat.gcd r.span.toNat] :=
        (Nat.modEq_zero_iff_dvd.2 common).add
          ((Nat.mod_modEq _ _).of_dvd (Nat.gcd_dvd_right _ _))
    _ = previous.toNat := Nat.zero_add _

theorem walk_modEq_gcd (h : r.Accepted) (single : r.jitter = 1) {offsets : List UInt16}
    (among : port ∈ start :: r.walk start offsets) :
    port.toNat ≡ start.toNat [MOD r.base.toNat.gcd r.span.toNat] := by
  induction offsets generalizing start with
  | nil => rw [List.mem_singleton.1 among]
  | cons offset rest ih =>
    obtain rfl | among := List.mem_cons.1 among
    · rfl
    · exact (ih among).trans (next_modEq_gcd h single start offset)

/-- Of the first two candidates, one has another remainder than the start. -/
theorem exists_apart (h : r.Accepted) (common : r.base.toNat.gcd r.span.toNat ≠ 1)
    (start : Number) : ∃ free, r.Candidate free ∧
      ¬ free.toNat ≡ start.toNat [MOD r.base.toNat.gcd r.span.toNat] := by
  have jitter := h.jitter_pos
  have upper := h.sum_le
  simp only [highestAllowed] at upper
  have two : 2 ≤ r.span.toNat := by
    have positive := Nat.gcd_pos_of_pos_right r.base.toNat h.span_pos
    have atMost := Nat.le_of_dvd h.span_pos (Nat.gcd_dvd_right r.base.toNat r.span.toNat)
    omega
  by_cases same : r.base.toNat ≡ start.toNat [MOD r.base.toNat.gcd r.span.toNat]
  · have second : (UInt16.ofNat (r.base.toNat + 1)).toNat = r.base.toNat + 1 :=
      UInt16.toNat_ofNat_of_lt' (by simp only [UInt16.size]; omega)
    refine ⟨.ofNat (r.base.toNat + 1), by constructor <;> omega, fun also => common ?_⟩
    rw [second] at also
    have unit : 1 ≡ 0 [MOD r.base.toNat.gcd r.span.toNat] :=
      Nat.ModEq.add_left_cancel' r.base.toNat (also.trans same.symm)
    exact Nat.dvd_one.1 (Nat.modEq_zero_iff_dvd.1 unit)
  · exact ⟨r.base, candidate_lowest h, same⟩

theorem exists_unreached (h : r.Accepted)
    (neither : ¬ (2 ≤ r.jitter.toNat ∨ r.base.toNat.gcd r.span.toNat = 1)) (start : Number) :
    ∃ free, r.Candidate free ∧ ∀ offsets, free ∉ start :: r.walk start offsets := by
  obtain ⟨few, common⟩ := not_or.1 neither
  have positive := h.jitter_pos
  have single : r.jitter = 1 := UInt16.toNat_inj.1 (by simp; omega)
  obtain ⟨free, candidate, apart⟩ := exists_apart h common start
  exact ⟨free, candidate, fun offsets among => apart (walk_modEq_gcd h single among)⟩

end Range

namespace Allocator

variable {a : Allocator} {left : ℕ} {port : Number} {exams : List Exam}
  {result : Except LeaseError Lease}

theorem Searched.on_walk (h : a.Searched left port exams result) :
    ∃ offsets, ∀ e ∈ exams, e.port ∈ port :: a.range.walk port offsets := by
  induction h with
  | spent => exact ⟨[], by simp⟩
  | refused => exact ⟨[], by simp⟩
  | leased => exact ⟨[], by simp⟩
  | @rejected _ _ _ _ drawn _ _ _ _ ih =>
    obtain ⟨offsets, walked⟩ := ih
    refine ⟨.ofNat drawn :: offsets,
      List.forall_mem_cons.2 ⟨List.mem_cons_self, fun e among => ?_⟩⟩
    exact List.mem_cons_of_mem _ (walked e among)

theorem Examined.opened_or_rejected {events : Script}
    {queries : List (Except Engine.Error Bool)} {outcome : Outcome}
    (h : a.Examined port events queries outcome) :
    ⟨.bindable port, true⟩ ∈ events ∨ ∃ n, outcome = .rejected n := by
  cases h with
  | unbindable n => exact .inr ⟨n, rfl⟩
  | _ => exact .inl List.mem_cons_self

theorem Searched.exhausted_of_busy (h : a.Searched left port exams result)
    (busy : ∀ e ∈ exams, ⟨.bindable e.port, true⟩ ∉ e.events) :
    result = .error (.exhausted a.attempts) := by
  induction h with
  | spent => rfl
  | refused examined =>
    obtain opened | ⟨n, ⟨⟩⟩ := examined.opened_or_rejected
    exact absurd opened (busy _ List.mem_cons_self)
  | leased examined =>
    obtain opened | ⟨n, ⟨⟩⟩ := examined.opened_or_rejected
    exact absurd opened (busy _ List.mem_cons_self)
  | rejected _ _ ih => exact ih (List.forall_mem_cons.1 busy).2

/-- A port that is on no walk from the start is on no search from there either. If it is the only
one that can be opened, no number of attempts is enough. -/
theorem search_misses {start free : Number}
    (unreached : ∀ offsets, free ∉ start :: a.range.walk start offsets) {σ : Type}
    (m : Machine Host.interface σ) (s : σ) (attempts : ℕ) : ∃ exams : List Exam,
      m.events (a.search attempts start) s = exams.flatMap Exam.events ∧
      (∀ e ∈ exams, a.Examined e.port e.events e.queries e.outcome ∧ e.port ≠ free) ∧
      ((∀ port s, (m.answer (.bindable port) s).1 = true → port = free) →
        (m.run (a.search attempts start) s).1 = .error (.exhausted a.attempts)) := by
  obtain ⟨exams, events, searched⟩ :=
    searched_of_runs (Program.runs_events m (a.search attempts start) s)
  obtain ⟨offsets, walked⟩ := searched.on_walk
  have missed : ∀ e ∈ exams, e.port ≠ free := by
    rintro e among rfl
    exact unreached offsets (walked e among)
  refine ⟨exams, events, fun e among => ⟨searched.examined e among, missed e among⟩,
    fun only => searched.exhausted_of_busy fun e among opened => ?_⟩
  have answered : ⟨.bindable e.port, true⟩ ∈ m.events (a.search attempts start) s :=
    events ▸ List.mem_flatMap_of_mem among opened
  obtain ⟨s', opens⟩ := Machine.answer_of_mem_events answered
  exact missed e among (only e.port s' opens.symm)

end Allocator

/-- Every candidate is reached from every candidate if and only if there are two offsets to choose
from, or base and span have no common factor. Otherwise any start has a candidate that no search
from there ever examines, and where only that one can be opened a search uses up its attempts,
however many there are. -/
theorem Range.all_reached_iff {r : Range} (h : r.Accepted) :
    ((∀ start port, r.Candidate start → r.Candidate port → r.Reaches start port) ↔
      2 ≤ r.jitter.toNat ∨ r.base.toNat.gcd r.span.toNat = 1) ∧
    (¬ (2 ≤ r.jitter.toNat ∨ r.base.toNat.gcd r.span.toNat = 1) → ∀ start, ∃ free,
      r.Candidate free ∧ ∀ a : Allocator, a.range = r →
        ∀ {σ : Type} (m : Machine Host.interface σ) (s : σ) (attempts : ℕ), ∃ exams : List Exam,
          m.events (a.search attempts start) s = exams.flatMap Exam.events ∧
          (∀ e ∈ exams, a.Examined e.port e.events e.queries e.outcome ∧ e.port ≠ free) ∧
          ((∀ port s, (m.answer (.bindable port) s).1 = true → port = free) →
            (m.run (a.search attempts start) s).1 = .error (.exhausted a.attempts))) := by
  refine ⟨⟨fun all => ?_, fun either start port _ candidate => ?_⟩, fun neither start => ?_⟩
  · by_contra neither
    obtain ⟨free, candidate, unreached⟩ := exists_unreached h neither r.lowest
    obtain ⟨offsets, -, walked⟩ := all r.lowest free (candidate_lowest h) candidate
    exact unreached offsets walked
  · exact either.elim (reaches_of_two_offsets h · candidate) (reaches_of_coprime h · candidate)
  · obtain ⟨free, candidate, unreached⟩ := exists_unreached h neither start
    refine ⟨free, candidate, ?_⟩
    rintro a rfl σ m s attempts
    exact Allocator.search_misses unreached m s attempts

theorem Range.all_reached_iff_quarters : (⟨8084, 4, 1⟩ : Range).Accepted ∧
    (¬ ∀ start port, (⟨8084, 4, 1⟩ : Range).Candidate start →
      (⟨8084, 4, 1⟩ : Range).Candidate port → (⟨8084, 4, 1⟩ : Range).Reaches start port) ∧
    ∀ start port, (⟨8085, 8, 1⟩ : Range).Candidate start →
      (⟨8085, 8, 1⟩ : Range).Candidate port → (⟨8085, 8, 1⟩ : Range).Reaches start port := by
  have accepted : (⟨8084, 4, 1⟩ : Range).Accepted := by decide
  have accepted' : (⟨8085, 8, 1⟩ : Range).Accepted := by decide
  exact ⟨accepted, fun all => absurd ((all_reached_iff accepted).1.1 all) (by decide),
    (all_reached_iff accepted').1.2 (.inr (by decide))⟩

end TestRig.Port
