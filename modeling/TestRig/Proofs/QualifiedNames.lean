import Mathlib.Tactic
import TestRig.Case

/-!
Qualified names of cases. Colons may stand side by side in any number, so a text can be cut at a pair
of them in several ways; the first pair is the one that counts, and it leaves no pair in the target,
not even one that takes in the colon behind it. So a case is read in one way only, and what is read,
written again, is the text it was read from.
-/

namespace TestRig

namespace Text

variable {mark s head tail : List Char}

theorem after?_eq_none_iff : after? mark s = none ↔ ¬ mark <+: s := by
  rw [Option.eq_none_iff_forall_ne_some, List.IsPrefix, not_exists]
  exact forall_congr' fun rest => not_congr (after?_eq_some_iff.trans eq_comm)

theorem prefix_of_dropLast (mark head tail : List Char) :
    head ++ mark.dropLast <+: head ++ mark ++ tail := by
  have cut : mark.dropLast <+: mark ++ tail :=
    mark.dropLast_prefix.trans (List.prefix_append mark tail)
  simpa using cut

theorem prefix_cons_iff {c : Char} :
    mark <+: c :: (head ++ mark ++ tail) ↔ mark <+: c :: (head ++ mark.dropLast) := by
  have short : c :: (head ++ mark.dropLast) <+: c :: (head ++ mark ++ tail) :=
    prefix_of_dropLast mark (c :: head) tail
  constructor
  · intro begins
    refine List.prefix_of_prefix_length_le begins short ?_
    simp only [List.length_cons, List.length_append, List.length_dropLast]
    omega
  · exact fun begins => begins.trans short

theorem not_infix_dropLast (filled : mark ≠ []) : ¬ mark <:+: mark.dropLast := by
  intro inside
  have length := inside.length_le
  have long := List.length_pos_iff.2 filled
  rw [List.length_dropLast] at length
  omega

/-- The parts are those around an occurrence of the mark, and none begins before it. -/
theorem splitAt?_eq_some_iff (filled : mark ≠ []) : splitAt? mark s = some (head, tail) ↔
    s = head ++ mark ++ tail ∧ ¬ mark <:+: head ++ mark.dropLast := by
  induction s generalizing head with
  | nil => simp [splitAt?, filled]
  | cons c rest ih =>
    cases head with
    | nil =>
      have here : splitAt? mark (c :: rest) = some ([], tail) ↔
          after? mark (c :: rest) = some tail := by
        rw [splitAt?]
        cases after? mark (c :: rest) <;> simp
      simp [here, after?_eq_some_iff, not_infix_dropLast filled]
    | cons c' head =>
      have further : splitAt? mark (c :: rest) = some (c' :: head, tail) ↔
          ¬ mark <+: c :: rest ∧ c = c' ∧ splitAt? mark rest = some (head, tail) := by
        rw [splitAt?, ← after?_eq_none_iff]
        cases after? mark (c :: rest) <;> simp [and_comm]
      rw [further, ih, List.cons_append, List.cons_append, List.cons_append, List.infix_cons_iff,
        not_or, List.cons.injEq]
      constructor
      · rintro ⟨later, rfl, rfl, apart⟩
        exact ⟨⟨rfl, rfl⟩, mt prefix_cons_iff.2 later, apart⟩
      · rintro ⟨⟨rfl, rfl⟩, later, apart⟩
        exact ⟨mt prefix_cons_iff.1 later, rfl, rfl, apart⟩

theorem length_le_of_not_infix {front back : List Char}
    (first : ¬ mark <:+: head ++ mark.dropLast)
    (same : head ++ mark ++ tail = front ++ mark ++ back) : head.length ≤ front.length := by
  by_contra later
  have earlier : front ++ mark <+: head ++ mark ++ tail := same ▸ List.prefix_append _ back
  have inside : front ++ mark <+: head ++ mark.dropLast := by
    refine List.prefix_of_prefix_length_le earlier (prefix_of_dropLast mark head tail) ?_
    simp only [List.length_append, List.length_dropLast]
    omega
  exact first ((List.suffix_append front mark).isInfix.trans inside.isInfix)

end Text

namespace Case

variable {s target name : List Char}

theorem separator_ne_nil : separator ≠ [] := List.cons_ne_nil _ _

theorem splitQualified?_eq_some_iff : splitQualified? s = some (target, name) ↔
    s = target ++ separator ++ name ∧ target ≠ [] ∧ name ≠ [] ∧
      ¬ separator <:+: target ++ [':'] := by
  have cut : splitQualified? s = some (target, name) ↔
      Text.splitAt? separator s = some (target, name) ∧ target ≠ [] ∧ name ≠ [] := by
    rw [splitQualified?]
    cases Text.splitAt? separator s with
    | none => simp
    | some parts =>
      obtain ⟨front, back⟩ := parts
      simp only [Bool.or_eq_true, List.isEmpty_iff, Option.ite_none_left_eq_some, Option.some.injEq,
        Prod.mk.injEq, not_or]
      constructor
      · rintro ⟨filled, rfl, rfl⟩
        exact ⟨⟨rfl, rfl⟩, filled⟩
      · rintro ⟨⟨rfl, rfl⟩, filled⟩
        exact ⟨filled, rfl, rfl⟩
  have lone : separator.dropLast = [':'] := rfl
  rw [cut, Text.splitAt?_eq_some_iff separator_ne_nil, lone]
  tauto

theorem ofQualified?_eq_some_iff {s : String} {c : Case} : ofQualified? s = some c ↔
    s = c.target ++ "::" ++ c.name ∧ c.target ≠ "" ∧ c.name ≠ "" ∧
      ¬ separator <:+: (c.target ++ ":").toList := by
  have parts : ofQualified? s = some c ↔
      splitQualified? s.toList = some (c.target.toList, c.name.toList) := by
    obtain ⟨target, name⟩ := c
    rw [ofQualified?, Option.map_eq_some_iff]
    constructor
    · rintro ⟨⟨front, back⟩, cut, same⟩
      obtain ⟨rfl, rfl⟩ := Case.mk.inj same
      simpa using cut
    · intro cut
      exact ⟨_, cut, by simp⟩
  have text : s = c.target ++ "::" ++ c.name ↔
      s.toList = c.target.toList ++ separator ++ c.name.toList := by
    rw [← String.toList_inj]
    simp [separator]
  rw [parts, splitQualified?_eq_some_iff, text]
  simp

theorem not_infix_colon (whole : ¬ separator <:+: target) (last : target.getLast? ≠ some ':') :
    ¬ separator <:+: target ++ [':'] := by
  intro inside
  obtain ends | holds := List.infix_concat_iff.1 inside
  · obtain none | ⟨front, pair, ends⟩ := List.suffix_concat_iff.1 ends
    · exact separator_ne_nil none
    · have colons : [':'] ++ [':'] = front ++ [':'] := pair
      have lone : [':'] = front := List.append_cancel_right colons
      obtain ⟨start, ends⟩ := lone ▸ ends
      exact last (ends ▸ List.getLast?_concat)
  · exact whole holds

/-- A text is read as a case exactly if two colons stand between the target and the name, both hold
something, and no pair of colons begins inside the target. So it is the first pair that counts: what
is read, written again, is the text, and no way to cut the text has a shorter target. And a case
whose target neither holds a pair nor ends in a colon is read back, with any colons in its name. -/
theorem read_at_first_pair :
    (∀ (s : String) (c : Case), ofQualified? s = some c ↔
      s = c.target ++ "::" ++ c.name ∧ c.target ≠ "" ∧ c.name ≠ "" ∧
        ¬ separator <:+: (c.target ++ ":").toList) ∧
    (∀ (s : String) (c : Case), ofQualified? s = some c → c.qualified = s ∧
      ∀ target name : String, s = target ++ "::" ++ name → c.target.length ≤ target.length) ∧
    ∀ c : Case, c.target ≠ "" → ¬ separator <:+: c.target.toList →
      c.target.toList.getLast? ≠ some ':' → c.name ≠ "" → ofQualified? c.qualified = some c := by
  refine ⟨fun s c => ofQualified?_eq_some_iff, fun s c read => ?_,
    fun c filled whole last named => ?_⟩
  · obtain ⟨rfl, -, -, first⟩ := ofQualified?_eq_some_iff.1 read
    refine ⟨rfl, fun target name same => ?_⟩
    have lists := congrArg String.toList same
    simp only [String.toList_append] at lists first
    have shorter := Text.length_le_of_not_infix first lists
    rwa [String.length_toList, String.length_toList] at shorter
  · have first : ¬ separator <:+: (c.target ++ ":").toList := by
      rw [String.toList_append]
      exact not_infix_colon whole last
    exact ofQualified?_eq_some_iff.2 ⟨rfl, filled, named, first⟩

theorem read_at_first_pair_colons : ofQualified? "a:b:::x::y" = some ⟨"a:b", ":x::y"⟩ :=
  read_at_first_pair.2.2 ⟨"a:b", ":x::y"⟩ (by decide) (by decide) (by decide) (by decide)

end Case

end TestRig
