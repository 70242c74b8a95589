import Mathlib.Tactic
import TestRig.Proofs.Numerals
import TestRig.Sandbox.Name

/-!
The grammar of sandbox names. A clean-up on a shared runner removes what it reads its own pid out
of, so it matters which texts are read at all: those of four numbers behind the common start,
written with or without a plus and with as many zeros in front as one likes. The texts that are
written are among them, a different one for each name.
-/

namespace TestRig

namespace Text.Decimal

variable {s : List Char} {n : Nat}

theorem numeral_render (n : Nat) : Numeral (render n) n :=
  (read_eq_ok_iff.1 (read_render (Nat.le_refl n))).1

theorem Numeral.not_mem (numeral : Numeral s n) {c : Char} (other : c.isDigit = false)
    (unsigned : c ≠ '+') : c ∉ s := by
  obtain ⟨digits, rfl | rfl, -, all, -⟩ := numeral
  · intro among
    rw [all c among] at other
    cases other
  · intro among
    obtain rfl | among := List.mem_cons.1 among
    · exact unsigned rfl
    · rw [all c among] at other
      cases other

end Text.Decimal

namespace Sandbox.Name

open Text.Decimal (Numeral)

/-- Four numbers behind the common start, a hyphen between each two, that give the fields of a
name. -/
def Spells (s : List Char) (n : Name) : Prop :=
  ∃ port owner second random : List Char,
    s = nameStart.toList ++ Text.joined '-' [port, owner, second, random] ∧
    Numeral port n.port.toNat ∧ Numeral owner n.owner.toNat ∧
    Numeral second n.second.toNat ∧ Numeral random n.random.toNat

theorem parse?_of_spells {s : List Char} {n : Name} (spells : Spells s n) : parse? s = some n := by
  obtain ⟨a, b, c, d, rfl, port, owner, second, random⟩ := spells
  have parts : Text.pieces '-' (Text.joined '-' [a, b, c, d]) = [a, b, c, d] := by
    refine Text.pieces_joined (List.cons_ne_nil _ _) ?_
    simp [port.not_mem, owner.not_mem, second.not_mem, random.not_mem]
  have port := Text.Decimal.read?_eq_some_iff.2 ⟨port, Nat.le_of_lt_succ n.port.toNat_lt⟩
  have owner := Text.Decimal.read?_eq_some_iff.2 ⟨owner, Nat.le_of_lt_succ n.owner.toNat_lt⟩
  have second := Text.Decimal.read?_eq_some_iff.2 ⟨second, Nat.le_of_lt_succ n.second.toNat_lt⟩
  have random := Text.Decimal.read?_eq_some_iff.2 ⟨random, Nat.le_of_lt_succ n.random.toNat_lt⟩
  rw [parse?, Text.after?_eq_some_iff.2 rfl]
  simp only [Option.bind_eq_bind, Option.bind_some, parts, port, owner, second, random,
    UInt16.ofNat_toNat, UInt32.ofNat_toNat, UInt64.ofNat_toNat]

theorem spells_of_parse? {s : List Char} {n : Name} (parsed : parse? s = some n) : Spells s n := by
  rw [parse?, Option.bind_eq_bind, Option.bind_eq_some_iff] at parsed
  obtain ⟨rest, start, parsed⟩ := parsed
  rw [Text.after?_eq_some_iff] at start
  split at parsed
  · rename_i a b c d parts
    simp only [Option.bind_eq_bind, Option.bind_eq_some_iff, Text.Decimal.read?_eq_some_iff,
      Option.some.injEq] at parsed
    obtain ⟨port, ⟨a_gives, few⟩, owner, ⟨b_gives, few'⟩, second, ⟨c_gives, few''⟩, random,
      ⟨d_gives, few'''⟩, rfl⟩ := parsed
    refine ⟨a, b, c, d, ?_, ?_, ?_, ?_, ?_⟩
    · rw [start, ← parts, Text.joined_pieces]
    · rwa [UInt16.toNat_ofNat_of_lt' (Nat.lt_succ_of_le few)]
    · rwa [UInt32.toNat_ofNat_of_lt' (Nat.lt_succ_of_le few')]
    · rwa [UInt64.toNat_ofNat_of_lt' (Nat.lt_succ_of_le few'')]
    · rwa [UInt16.toNat_ofNat_of_lt' (Nat.lt_succ_of_le few''')]
  · cases parsed

theorem parse?_eq_some_iff {s : List Char} {n : Name} : parse? s = some n ↔ Spells s n :=
  ⟨spells_of_parse?, parse?_of_spells⟩

theorem spells_render (n : Name) : Spells n.render n :=
  ⟨_, _, _, _, rfl, Text.Decimal.numeral_render _, Text.Decimal.numeral_render _,
    Text.Decimal.numeral_render _, Text.Decimal.numeral_render _⟩

theorem ofText?_text (n : Name) : ofText? n.text = some n := by
  rw [ofText?, text, String.toList_ofList]
  exact parse?_of_spells (spells_render n)

theorem text_inj {n n' : Name} : n.text = n'.text ↔ n = n' := by
  refine ⟨fun same => ?_, congrArg text⟩
  have read : ofText? n.text = some n' := same ▸ ofText?_text n'
  rw [ofText?_text] at read
  exact Option.some.inj read

/-- A text is read as a name exactly if it is the common start and four numbers behind it, a hyphen
between each two, each of them a plus or none and one or more digits, and each within the width of
its field. Port and owner are what the first two give. So what is written is read back, and names
that differ anywhere are written differently. -/
theorem read_iff_spelled :
    (∀ (s : String) (port : Port.Number) (owner : UInt32),
      (ofText? s).map (fun n => (n.port, n.owner)) = some (port, owner) ↔
        ∃ (a b c d : List Char) (second random : Nat),
          s.toList = nameStart.toList ++ Text.joined '-' [a, b, c, d] ∧
          Numeral a port.toNat ∧ Numeral b owner.toNat ∧
          Numeral c second ∧ second ≤ 18446744073709551615 ∧
          Numeral d random ∧ random ≤ 65535) ∧
    (∀ n : Name, ofText? n.text = some n) ∧ ∀ n n' : Name, n.text = n'.text ↔ n = n' := by
  refine ⟨fun s port owner => ?_, ofText?_text, fun _ _ => text_inj⟩
  rw [Option.map_eq_some_iff]
  constructor
  · rintro ⟨n, read, fields⟩
    obtain ⟨rfl, rfl⟩ := Prod.mk.inj fields
    obtain ⟨a, b, c, d, whole, first, second, third, fourth⟩ := parse?_eq_some_iff.1 read
    exact ⟨a, b, c, d, _, _, whole, first, second, third, Nat.le_of_lt_succ n.second.toNat_lt,
      fourth, Nat.le_of_lt_succ n.random.toNat_lt⟩
  · rintro ⟨a, b, c, d, second, random, whole, first, next, third, few, fourth, few'⟩
    refine ⟨⟨port, owner, .ofNat second, .ofNat random⟩, ?_, rfl⟩
    refine parse?_of_spells ⟨a, b, c, d, whole, first, next, ?_, ?_⟩
    · rwa [UInt64.toNat_ofNat_of_lt' (Nat.lt_succ_of_le few)]
    · rwa [UInt16.toNat_ofNat_of_lt' (Nat.lt_succ_of_le few')]

example : (ofText? "chain-sim-+009100-4242-17-1234").map (fun n => (n.port, n.owner)) =
    some (9100, 4242) := by
  decide +kernel

end Sandbox.Name

end TestRig
