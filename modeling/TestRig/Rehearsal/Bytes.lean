import TestRig.Text.Utf8

/-!
Bytes as characters: programs of the machine work on texts in which every character stands for one
byte, so that what is not UTF-8 passes through them unharmed.
-/

namespace TestRig.Rehearsal.Bytes

def ofBytes (bytes : List UInt8) : String :=
  String.ofList (bytes.map fun b => Char.ofNat b.toNat)

def toBytes (s : String) : List UInt8 := s.toList.map fun c => .ofNat c.toNat

/-- The bytes of a text, one character for each. -/
def ofText (s : String) : String :=
  if s.toList.all fun c => c.toNat < 128 then s else ofBytes (Text.Utf8.encode s)

def toText (s : String) : String :=
  if s.toList.all fun c => c.toNat < 128 then s else Text.Utf8.text (toBytes s)

end TestRig.Rehearsal.Bytes
