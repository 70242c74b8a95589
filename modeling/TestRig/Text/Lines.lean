/-!
Cutting text at a separator and putting it together again. `pieces` keeps every part, empty ones
included; `lines` drops the ends of lines and yields nothing for a last line without text.
-/

namespace TestRig.Text

/-- The parts between the occurrences of `sep`; never empty. -/
def pieces (sep : Char) : List Char → List (List Char)
  | [] => [[]]
  | c :: rest =>
    if c = sep then [] :: pieces sep rest
    else match pieces sep rest with
      | [] => [[c]]
      | first :: others => (c :: first) :: others

def joined (sep : Char) : List (List Char) → List Char
  | [] => []
  | [last] => last
  | first :: others => first ++ sep :: joined sep others

theorem pieces_ne_nil (sep : Char) (s : List Char) : pieces sep s ≠ [] := by
  cases s with
  | nil => simp [pieces]
  | cons c rest =>
    unfold pieces
    split
    · simp
    · split <;> simp

theorem joined_pieces (sep : Char) (s : List Char) : joined sep (pieces sep s) = s := by
  induction s with
  | nil => rfl
  | cons c rest ih =>
    rw [pieces]
    match h : pieces sep rest with
    | [] => exact absurd h (pieces_ne_nil sep rest)
    | [last] => rw [h] at ih; by_cases hc : c = sep <;> simp_all [joined]
    | first :: second :: others =>
      rw [h] at ih; by_cases hc : c = sep <;> simp_all [joined]

def dropReturn (line : List Char) : List Char :=
  if line.getLast? = some '\r' then line.dropLast else line

/-- Every part but the last ended in a line feed, so only those lose a carriage return. -/
def endedLines : List (List Char) → List (List Char)
  | [] => []
  | [last] => if last.isEmpty then [] else [last]
  | first :: others => dropReturn first :: endedLines others

def lines (s : List Char) : List (List Char) := endedLines (pieces '\n' s)

def after? : (start : List Char) → (text : List Char) → Option (List Char)
  | [], text => some text
  | _ :: _, [] => none
  | a :: start, b :: text => if a = b then after? start text else none

theorem after?_eq_some_iff {start text rest : List Char} :
    after? start text = some rest ↔ text = start ++ rest := by
  induction start generalizing text with
  | nil => simp [after?]
  | cons a start ih =>
    cases text with
    | nil => simp [after?]
    | cons b text => by_cases h : a = b <;> simp [after?, h, ih, eq_comm]

def before? (ending text : List Char) : Option (List Char) :=
  (after? ending.reverse text.reverse).map List.reverse

theorem before?_eq_some_iff {ending text rest : List Char} :
    before? ending text = some rest ↔ text = rest ++ ending := by
  rw [before?, Option.map_eq_some_iff]
  constructor
  · rintro ⟨r, h, rfl⟩
    rw [after?_eq_some_iff] at h
    simpa using congrArg List.reverse h
  · rintro rfl
    exact ⟨rest.reverse, by simp [after?_eq_some_iff], by simp⟩

def splitAt? (mark : List Char) : List Char → Option (List Char × List Char)
  | [] => if mark.isEmpty then some ([], []) else none
  | c :: rest =>
    match after? mark (c :: rest) with
    | some tail => some ([], tail)
    | none => (splitAt? mark rest).map fun (head, tail) => (c :: head, tail)

def holds (mark text : List Char) : Bool := (splitAt? mark text).isSome

end TestRig.Text
