import TestRig.Text.Decimal

/-!
The window that candidate ports are folded into. A candidate is the base, plus a value folded into
the span, plus an offset folded into the jitter; a range is accepted only if all such sums are ports.
-/

namespace TestRig.Port

abbrev Number := UInt16

def lowestAllowed : Nat := 1024

def highestAllowed : Nat := 65535

structure Range where
  base : Number
  span : Number
  jitter : Number
deriving DecidableEq, Repr

inductive RangeError
  | emptyPart (span jitter : Number)
  | privileged (base : Number)
  | beyondLast (base : Number) (upper : Nat)
deriving DecidableEq, Repr

namespace RangeError

def reason : RangeError → String
  | emptyPart span jitter =>
    "span (" ++ toString span.toNat ++ ") and jitter (" ++ toString jitter.toNat ++
      ") must be non-zero"
  | privileged base =>
    "base " ++ toString base.toNat ++ " is below " ++ toString lowestAllowed
  | beyondLast base upper =>
    "range " ++ toString base.toNat ++ "..=" ++ toString upper ++ " exceeds " ++
      toString highestAllowed

def message (e : RangeError) : String := "invalid port range: " ++ e.reason

end RangeError

namespace Range

def create (base span jitter : Number) : Except RangeError Range :=
  let upper := base.toNat + span.toNat + jitter.toNat - 1
  if span = 0 ∨ jitter = 0 then .error (.emptyPart span jitter)
  else if base.toNat < lowestAllowed then .error (.privileged base)
  else if highestAllowed < upper then .error (.beyondLast base upper)
  else .ok ⟨base, span, jitter⟩

def standard : Range := ⟨8085, 5000, 1000⟩

def lowest (r : Range) : Number := r.base

def highest (r : Range) : Number :=
  (r.base.toUInt32 + r.span.toUInt32 + r.jitter.toUInt32 - 1).toUInt16

def contains (r : Range) (port : Number) : Bool := r.lowest ≤ port && port ≤ r.highest

/-- Fold a value into the span and an offset into the jitter. -/
def fold (r : Range) (raw : UInt32) (offset : UInt16) : Number :=
  (r.base.toUInt32 + raw % r.span.toUInt32 + (offset % r.jitter).toUInt32).toUInt16

def seed (r : Range) (pid : UInt32) (millis : Nat) (offset : UInt16) : Number :=
  let raw := r.base.toUInt32 + pid % r.span.toUInt32 + UInt32.ofNat (millis % r.span.toNat) +
    (offset % r.jitter).toUInt32
  r.fold raw offset

def next (r : Range) (previous : Number) (offset : UInt16) : Number :=
  r.fold previous.toUInt32 offset

/-- Every candidate of a walk, each computed from the one before it. -/
def walk (r : Range) : (previous : Number) → (offsets : List UInt16) → List Number
  | _, [] => []
  | previous, offset :: rest =>
    let port := r.next previous offset
    port :: r.walk port rest

def text (r : Range) : String :=
  toString r.lowest.toNat ++ "..=" ++ toString r.highest.toNat

end Range

end TestRig.Port
