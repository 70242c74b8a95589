/-!
Lengths of time, counted in nanoseconds, and their text: the largest unit of which at least one whole
fits, with the rest as a fraction without trailing zeros.
-/

namespace TestRig

structure Duration where
  nanos : Nat
deriving DecidableEq, Repr

namespace Duration

def ofMillis (n : Nat) : Duration := ⟨n * 1000000⟩

def ofSecs (n : Nat) : Duration := ⟨n * 1000000000⟩

def zero : Duration := ⟨0⟩

def secs (d : Duration) : Nat := d.nanos / 1000000000

def millis (d : Duration) : Nat := d.nanos / 1000000

instance : Add Duration := ⟨fun a b => ⟨a.nanos + b.nanos⟩⟩

def decimals : (places : Nat) → (rest : Nat) → List Char
  | 0, _ => []
  | places + 1, rest =>
    if rest = 0 then [] else
      let unit := Nat.pow 10 places
      Nat.digitChar (rest / unit) :: decimals places (rest % unit)

/-- `d` in a unit of `10 ^ places` nanoseconds. -/
def textIn (d : Duration) (places : Nat) (symbol : String) : String :=
  let unit := Nat.pow 10 places
  let fraction := decimals places (d.nanos % unit)
  let point := if fraction.isEmpty then [] else ['.']
  toString (d.nanos / unit) ++ String.ofList (point ++ fraction) ++ symbol

def text (d : Duration) : String :=
  if 1000000000 ≤ d.nanos then d.textIn 9 "s"
  else if 1000000 ≤ d.nanos then d.textIn 6 "ms"
  else if 1000 ≤ d.nanos then d.textIn 3 "µs"
  else d.textIn 0 "ns"

end Duration

end TestRig
