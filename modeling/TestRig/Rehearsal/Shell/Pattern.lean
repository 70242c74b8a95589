/-!
Patterns in which a star stands for any text, a question mark for any character, and brackets for one
of several. Quoted characters stand for themselves.
-/

namespace TestRig.Rehearsal.Shell

/-- A character of a field; a quoted one has no meaning but itself. -/
structure Letter where
  char : Char
  quoted : Bool
deriving DecidableEq, Repr

namespace Pattern

inductive Atom
  | many
  | any
  | one (c : Char)
  | among (inverted : Bool) (ranges : List (Char × Char))
deriving DecidableEq, Repr

def ranges? : (first : Bool) → List Letter → List (Char × Char) →
    Option (List (Char × Char) × List Letter)
  | _, [], _ => none
  | first, l :: ⟨'-', false⟩ :: last :: rest, done =>
    if l = ⟨']', false⟩ ∧ !first then some (done, ⟨'-', false⟩ :: last :: rest)
    else if last = ⟨']', false⟩ then some (('-', '-') :: (l.char, l.char) :: done, rest)
    else ranges? false rest ((l.char, last.char) :: done)
  | first, l :: rest, done =>
    if l = ⟨']', false⟩ ∧ !first then some (done, rest)
    else ranges? false rest ((l.char, l.char) :: done)

def atoms : (fuel : Nat) → List Letter → List Atom
  | 0, _ => []
  | _, [] => []
  | fuel + 1, l :: rest =>
    if l.quoted then .one l.char :: atoms fuel rest
    else match l.char with
      | '*' => .many :: atoms fuel (rest.dropWhile (· = ⟨'*', false⟩))
      | '?' => .any :: atoms fuel rest
      | '[' =>
        let (inverted, inner) := match rest with
          | ⟨'!', false⟩ :: inner => (true, inner)
          | inner => (false, inner)
        match ranges? true inner [] with
        | some (ranges, more) => .among inverted ranges :: atoms fuel more
        | none => .one '[' :: atoms fuel rest
      | c => .one c :: atoms fuel rest

def ofLetters (s : List Letter) : List Atom := atoms (s.length + 1) s

def fits : List Atom → List Char → Bool
  | [], s => s.isEmpty
  | .many :: rest, s => rest.isEmpty || (List.range (s.length + 1)).any fun n => fits rest (s.drop n)
  | _ :: _, [] => false
  | .any :: rest, _ :: s => fits rest s
  | .one c :: rest, d :: s => c == d && fits rest s
  | .among inverted ranges :: rest, d :: s =>
    (ranges.any (fun (a, b) => a ≤ d && d ≤ b) != inverted) && fits rest s

def trim (pattern : List Atom) (front longest : Bool) (s : List Char) : List Char :=
  let sizes := List.range (s.length + 1)
  let sizes := if longest then sizes.reverse else sizes
  let part n := if front then s.take n else s.drop (s.length - n)
  match sizes.find? fun n => fits pattern (part n) with
  | some n => if front then s.drop n else s.take (s.length - n)
  | none => s

end Pattern

end TestRig.Rehearsal.Shell
