/-!
Bytes read as UTF-8. Well-formed sequences become their characters; every maximal part that begins a
sequence without completing it becomes one replacement character, and so does every byte that begins
none.
-/

namespace TestRig.Text.Utf8

def replacement : Char := '\ufffd'

/-- A sequence that has begun: the bits so far, the bytes still missing, and the bounds of the next. -/
structure Open where
  bits : Nat
  missing : Nat
  low : Nat
  high : Nat

inductive Lead
  | whole (c : Char)
  | opens (o : Open)
  | stray

def lead (b : UInt8) : Lead :=
  let n := b.toNat
  if n < 0x80 then .whole (Char.ofNat n)
  else if 0xC2 ≤ n ∧ n ≤ 0xDF then .opens ⟨n - 0xC0, 1, 0x80, 0xBF⟩
  else if n = 0xE0 then .opens ⟨0, 2, 0xA0, 0xBF⟩
  else if n = 0xED then .opens ⟨13, 2, 0x80, 0x9F⟩
  else if 0xE1 ≤ n ∧ n ≤ 0xEF then .opens ⟨n - 0xE0, 2, 0x80, 0xBF⟩
  else if n = 0xF0 then .opens ⟨0, 3, 0x90, 0xBF⟩
  else if 0xF1 ≤ n ∧ n ≤ 0xF3 then .opens ⟨n - 0xF0, 3, 0x80, 0xBF⟩
  else if n = 0xF4 then .opens ⟨4, 3, 0x80, 0x8F⟩
  else .stray

/-- Decode with at most one sequence open. -/
def decodeFrom : Option Open → List UInt8 → List Char
  | none, [] => []
  | some _, [] => [replacement]
  | none, b :: rest => begin b rest
  | some o, b :: rest =>
    let n := b.toNat
    if o.low ≤ n ∧ n ≤ o.high then
      let bits := o.bits * 64 + (n - 0x80)
      if o.missing ≤ 1 then Char.ofNat bits :: decodeFrom none rest
      else decodeFrom (some ⟨bits, o.missing - 1, 0x80, 0xBF⟩) rest
    else replacement :: begin b rest
where
  begin (b : UInt8) (rest : List UInt8) : List Char :=
    match lead b with
    | .whole c => c :: decodeFrom none rest
    | .opens o => decodeFrom (some o) rest
    | .stray => replacement :: decodeFrom none rest

def decode (bytes : List UInt8) : List Char := decodeFrom none bytes

def text (bytes : List UInt8) : String := String.ofList (decode bytes)

def encode (s : String) : List UInt8 := s.toList.flatMap String.utf8EncodeChar

end TestRig.Text.Utf8
