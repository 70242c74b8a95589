import Mathlib.Data.List.DropRight
import Mathlib.Tactic
import TestRig.Text.Blank
import TestRig.Text.Decimal
import TestRig.Text.Lines

/-!
Numbers through text. What is written in decimal is digits only, so that no trimming changes it and no
separator is found in it, and it is read back as the number it was. What trimming and cutting do to
other texts stands beside.
-/

namespace TestRig.Text

namespace Decimal

theorem digit?_digit (n : Nat) : digit? (digit n) = some (n % 10) := by
  have few : n % 10 < 10 := Nat.mod_lt _ (by decide)
  unfold digit
  generalize n % 10 = d at few
  interval_cases d <;> rfl

theorem isBlank_digit (n : Nat) : isBlank (digit n) = false := by
  have few : n % 10 < 10 := Nat.mod_lt _ (by decide)
  unfold digit
  generalize n % 10 = d at few
  interval_cases d <;> rfl

theorem digit_ne {c : Char} (other : digit? c = none) (n : Nat) : digit n ≠ c := by
  rintro rfl
  rw [digit?_digit] at other
  cases other

theorem render_ne_nil (n : Nat) : render n ≠ [] := by
  unfold render
  split <;> simp

theorem mem_render {n : Nat} {c : Char} (among : c ∈ render n) : ∃ d, c = digit d := by
  induction n using render.induct with
  | case1 n small =>
    rw [render, if_pos small, List.mem_singleton] at among
    exact ⟨n, among⟩
  | case2 n large ih =>
    rw [render, if_neg large, List.mem_append, List.mem_singleton] at among
    exact among.elim ih fun last => ⟨n, last⟩

theorem render_eq_toDigits (n : Nat) : render n = Nat.toDigits 10 n := by
  have same (d : Nat) (few : d < 10) : digit d = d.digitChar := by
    interval_cases d <;> rfl
  have last (n : Nat) : digit n = (n % 10).digitChar := by
    rw [← same _ (Nat.mod_lt _ (by decide))]
    simp [digit]
  induction n using render.induct with
  | case1 n small =>
    rw [render, if_pos small, Nat.toDigits_of_lt_base small, same n small]
  | case2 n large ih =>
    rw [render, if_neg large, Nat.toDigits_eq_if (by decide), if_neg large, ih, last]

theorem toString_eq_text (n : Nat) : toString n = text n := by
  rw [Nat.toString_eq_repr, Nat.repr_eq_ofList_toDigits, text, render_eq_toDigits]

theorem readFrom_append {bound value n : Nat} {s : List Char} (first : readFrom bound value s = .ok n)
    (rest : List Char) : readFrom bound value (s ++ rest) = readFrom bound n rest := by
  induction s generalizing value with
  | nil =>
    cases first
    rfl
  | cons c s ih =>
    rw [readFrom] at first
    rw [List.cons_append, readFrom]
    cases digit : digit? c with
    | none =>
      rw [digit] at first
      cases first
    | some d =>
      simp only [digit] at first ⊢
      split at first
      · cases first
      · rename_i fits
        rw [if_neg fits]
        exact ih first

theorem readFrom_render {bound n : Nat} (fits : n ≤ bound) :
    readFrom bound 0 (render n) = .ok n := by
  induction n using render.induct with
  | case1 n small =>
    rw [render, if_pos small]
    simp [readFrom, digit?_digit, Nat.mod_eq_of_lt small, fits]
  | case2 n large ih =>
    have whole : n / 10 * 10 + n % 10 = n := Nat.div_add_mod' n 10
    rw [render, if_neg large, readFrom_append (ih (by omega))]
    simp [readFrom, digit?_digit, whole, fits]

theorem read_render {bound n : Nat} (fits : n ≤ bound) : read bound (render n) = .ok n := by
  have plain := readFrom_render fits
  cases written : render n with
  | nil => exact absurd written (render_ne_nil n)
  | cons c rest =>
    obtain ⟨d, rfl⟩ := mem_render (written ▸ List.mem_cons_self : c ∈ render n)
    rw [written] at plain
    unfold read
    split
    · rename_i empty
      cases empty
    · rename_i sign
      exact absurd (List.cons.inj sign).1 (digit_ne rfl d)
    · rename_i sign
      exact absurd (List.cons.inj sign).1 (digit_ne rfl d)
    · exact plain

theorem render_injective {m n : Nat} (same : render m = render n) : m = n := by
  have left : read (m + n) (render m) = .ok m := read_render (Nat.le_add_right m n)
  have right : read (m + n) (render n) = .ok n := read_render (Nat.le_add_left n m)
  rw [same, right] at left
  exact (Except.ok.inj left).symm

theorem not_mem_render {c : Char} (other : digit? c = none) (n : Nat) : c ∉ render n := by
  intro among
  obtain ⟨d, rfl⟩ := mem_render among
  exact digit_ne other d rfl

theorem allBlank_render (n : Nat) : allBlank (render n) = false := by
  cases written : render n with
  | nil => exact absurd written (render_ne_nil n)
  | cons c rest =>
    obtain ⟨d, rfl⟩ := mem_render (written ▸ List.mem_cons_self : c ∈ render n)
    simp [allBlank, isBlank_digit]

def append (n : Nat) (c : Char) : Nat := n * 10 + (c.toNat - 48)

def value (digits : List Char) : Nat := digits.foldl append 0

/-- A text that gives a number: a plus or none, and one or more ASCII digits. -/
def Numeral (s : List Char) (n : Nat) : Prop :=
  ∃ digits, (s = digits ∨ s = '+' :: digits) ∧ digits ≠ [] ∧ (∀ c ∈ digits, c.isDigit = true) ∧
    value digits = n

theorem digit?_of_isDigit {c : Char} (digit : c.isDigit = true) :
    digit? c = some (c.toNat - 48) := by
  rw [Char.isDigit, Bool.and_eq_true, decide_eq_true_eq, decide_eq_true_eq] at digit
  exact if_pos digit

theorem digit?_of_not_isDigit {c : Char} (other : c.isDigit = false) : digit? c = none := by
  refine if_neg fun digit => ?_
  rw [Char.isDigit, Bool.and_eq_false_iff, decide_eq_false_iff_not,
    decide_eq_false_iff_not] at other
  exact other.elim (absurd digit.1) (absurd digit.2)

theorem le_foldl_append (n : Nat) (s : List Char) : n ≤ s.foldl append n := by
  induction s generalizing n with
  | nil => exact Nat.le_refl n
  | cons c s ih =>
    have further : n ≤ append n c := by
      unfold append
      omega
    exact further.trans (ih _)

theorem readFrom_eq_ok_iff {bound start n : Nat} {s : List Char} (fits : start ≤ bound) :
    readFrom bound start s = .ok n ↔
      (∀ c ∈ s, c.isDigit = true) ∧ s.foldl append start = n ∧ n ≤ bound := by
  induction s generalizing start with
  | nil =>
    simp only [readFrom, Except.ok.injEq, List.not_mem_nil, false_implies, implies_true, true_and,
      List.foldl_nil]
    exact ⟨fun same => ⟨same, same ▸ fits⟩, And.left⟩
  | cons c s ih =>
    rw [readFrom, List.forall_mem_cons, List.foldl_cons]
    cases digit : c.isDigit with
    | false => simp [digit?_of_not_isDigit digit]
    | true =>
      simp only [digit?_of_isDigit digit, true_and]
      split_ifs with beyond
      · have larger : start * 10 + (c.toNat - 48) ≤ s.foldl append (append start c) :=
          le_foldl_append _ s
        simp only [false_iff, not_and]
        rintro - rfl
        omega
      · exact ih (Nat.le_of_not_lt beyond)

theorem numeral_plus {s : List Char} {n : Nat} : Numeral ('+' :: s) n ↔
    s ≠ [] ∧ (∀ c ∈ s, c.isDigit = true) ∧ value s = n := by
  constructor
  · rintro ⟨digits, rfl | same, filled, all, worth⟩
    · exact absurd (all '+' List.mem_cons_self) (by decide)
    · obtain rfl := (List.cons.inj same).2
      exact ⟨filled, all, worth⟩
  · exact fun plain => ⟨s, .inr rfl, plain⟩

theorem numeral_plain {s : List Char} {n : Nat} (unsigned : ∀ rest, s ≠ '+' :: rest) :
    Numeral s n ↔ s ≠ [] ∧ (∀ c ∈ s, c.isDigit = true) ∧ value s = n := by
  constructor
  · rintro ⟨digits, rfl | signed, plain⟩
    · exact plain
    · exact absurd signed (unsigned digits)
  · exact fun plain => ⟨s, .inl rfl, plain⟩

theorem read_eq_ok_iff {bound n : Nat} {s : List Char} :
    read bound s = .ok n ↔ Numeral s n ∧ n ≤ bound := by
  unfold read
  split
  · simp [numeral_plain]
  · simp [numeral_plus]
  · rename_i rest filled
    have some : rest ≠ [] := fun none => filled (none ▸ rfl)
    simp [numeral_plus, readFrom_eq_ok_iff, value, some, and_assoc]
  · rename_i filled _ unsigned
    have some : s ≠ [] := filled
    simp [numeral_plain unsigned, readFrom_eq_ok_iff, value, some, and_assoc]

theorem read?_eq_some_iff {bound n : Nat} {s : List Char} :
    read? bound s = some n ↔ Numeral s n ∧ n ≤ bound := by
  rw [← read_eq_ok_iff, read?]
  cases read bound s <;> simp [Except.toOption]

end Decimal

theorem trim_of_ends {s : List Char} (first : ∀ c, s.head? = some c → isBlank c = false)
    (last : ∀ c, s.getLast? = some c → isBlank c = false) : trim s = s := by
  have kept {s : List Char} (first : ∀ c, s.head? = some c → isBlank c = false) :
      s.dropWhile isBlank = s := by
    cases s with
    | nil => rfl
    | cons c s => rw [List.dropWhile_cons, first c rfl]; rfl
  have back : ∀ c, s.reverse.head? = some c → isBlank c = false := by
    rwa [List.head?_reverse]
  rw [trim, trimStart, kept first, trimEnd, kept back, List.reverse_reverse]

theorem trim_of_not_blank {s : List Char} (dense : ∀ c ∈ s, isBlank c = false) : trim s = s :=
  trim_of_ends (fun c first => dense c (List.mem_of_head? first))
    fun c last => dense c (List.mem_of_getLast? last)

theorem trim_eq_nil_iff {s : List Char} : trim s = [] ↔ allBlank s = true := by
  rw [trim, trimEnd, List.reverse_eq_nil_iff, List.dropWhile_eq_nil_iff]
  simp only [List.mem_reverse, trimStart]
  rw [← List.dropWhile_eq_nil_iff, List.dropWhile_idempotent, List.dropWhile_eq_nil_iff]
  simp [allBlank]

theorem trim_blank_append {blank : List Char} (empty : allBlank blank = true) (s : List Char) :
    trim (blank ++ s) = trim s := by
  rw [trim, trim, trimStart, trimStart, List.dropWhile_append_of_pos (List.all_eq_true.1 empty)]

theorem trim_append_blank {blank : List Char} (empty : allBlank blank = true) (s : List Char) :
    trim (s ++ blank) = trim s := by
  have all := List.all_eq_true.1 empty
  rw [trim, trim, trimStart, trimStart, List.dropWhile_append]
  cases rest : s.dropWhile isBlank with
  | nil =>
    have none : blank.dropWhile isBlank = [] := List.dropWhile_eq_nil_iff.2 all
    simp [none]
  | cons c rest =>
    rw [List.isEmpty_cons, if_neg Bool.false_ne_true, trimEnd, trimEnd, List.reverse_append,
      List.dropWhile_append_of_pos fun c among => all c (List.mem_reverse.1 among)]

theorem trim_dropReturn (line : List Char) : trim (dropReturn line) = trim line := by
  rw [dropReturn]
  split_ifs with ends
  · have whole : line.dropLast ++ ['\r'] = line := List.dropLast_append_getLast? _ ends
    conv_rhs => rw [← whole, trim_append_blank rfl]
  · rfl

theorem Decimal.trim_render (n : Nat) : trim (render n) = render n := by
  refine trim_of_not_blank fun c among => ?_
  obtain ⟨d, rfl⟩ := mem_render among
  exact isBlank_digit d

theorem pieces_of_not_mem {sep : Char} {s : List Char} (absent : sep ∉ s) : pieces sep s = [s] := by
  induction s with
  | nil => rfl
  | cons c s ih =>
    rw [List.mem_cons, not_or] at absent
    rw [pieces, if_neg (Ne.symm absent.1), ih absent.2]

theorem not_mem_of_mem_pieces {sep : Char} {s part : List Char} (among : part ∈ pieces sep s) :
    sep ∉ part := by
  induction s generalizing part with
  | nil => simp_all [pieces]
  | cons c s ih =>
    rw [pieces] at among
    by_cases hc : c = sep
    · rw [if_pos hc, List.mem_cons] at among
      obtain rfl | among := among
      · simp
      · exact ih among
    · rw [if_neg hc] at among
      cases cut : pieces sep s with
      | nil => exact absurd cut (pieces_ne_nil sep s)
      | cons first others =>
        simp only [cut, List.mem_cons] at among ih
        obtain rfl | later := among
        · have absent := ih (.inl rfl)
          simp [absent, Ne.symm hc]
        · exact ih (.inr later)

theorem pieces_append_sep (sep : Char) (s rest : List Char) :
    pieces sep (s ++ sep :: rest) = pieces sep s ++ pieces sep rest := by
  induction s with
  | nil => simp [pieces]
  | cons c s ih =>
    rw [List.cons_append, pieces, pieces, ih]
    by_cases hc : c = sep
    · simp [hc]
    · cases cut : pieces sep s with
      | nil => exact absurd cut (pieces_ne_nil sep s)
      | cons first others => simp [hc]

theorem pieces_append {sep : Char} {s : List Char} (absent : sep ∉ s) (rest : List Char) :
    pieces sep (s ++ sep :: rest) = s :: pieces sep rest := by
  rw [pieces_append_sep, pieces_of_not_mem absent, List.singleton_append]

theorem pieces_joined {sep : Char} {parts : List (List Char)} (nonempty : parts ≠ [])
    (absent : ∀ s ∈ parts, sep ∉ s) : pieces sep (joined sep parts) = parts := by
  induction parts with
  | nil => exact absurd rfl nonempty
  | cons s parts ih =>
    obtain ⟨first, later⟩ := List.forall_mem_cons.1 absent
    cases parts with
    | nil => exact pieces_of_not_mem first
    | cons s' parts =>
      have glued : joined sep (s :: s' :: parts) = s ++ sep :: joined sep (s' :: parts) := rfl
      rw [glued, pieces_append first, ih (List.cons_ne_nil _ _) later]

theorem lines_of_not_mem {line : List Char} (single : '\n' ∉ line) (filled : line ≠ []) :
    lines line = [line] := by
  rw [lines, pieces_of_not_mem single, endedLines, if_neg (by simpa using filled)]

theorem lines_append {line : List Char} (single : '\n' ∉ line) (rest : List Char) :
    lines (line ++ '\n' :: rest) = dropReturn line :: lines rest := by
  rw [lines, lines, pieces_append single]
  cases cut : pieces '\n' rest with
  | nil => exact absurd cut (pieces_ne_nil _ _)
  | cons first others => rfl

end TestRig.Text
