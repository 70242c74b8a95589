import TestRig.Text.Decimal
import TestRig.Text.Lines
import TestRig.Port.Range

/-!
Names of sandboxes. A name carries the host port, the pid of the run that owns the sandbox, the
second it was made and a random number; port and owner can be read back out of it.
-/

namespace TestRig.Sandbox

def nameStart : String := "chain-sim-"

structure Name where
  port : Port.Number
  owner : UInt32
  second : UInt64
  random : UInt16
deriving DecidableEq, Repr

namespace Name

def render (n : Name) : List Char :=
  nameStart.toList ++ Text.joined '-' [Text.Decimal.render n.port.toNat,
    Text.Decimal.render n.owner.toNat, Text.Decimal.render n.second.toNat,
    Text.Decimal.render n.random.toNat]

def text (n : Name) : String := String.ofList n.render

/-- Four numbers after the common start, each within the width of its field. -/
def parse? (s : List Char) : Option Name := do
  let rest ← Text.after? nameStart.toList s
  match Text.pieces '-' rest with
  | [port, owner, second, random] =>
    let port ← Text.Decimal.read? 65535 port
    let owner ← Text.Decimal.read? 4294967295 owner
    let second ← Text.Decimal.read? 18446744073709551615 second
    let random ← Text.Decimal.read? 65535 random
    some ⟨.ofNat port, .ofNat owner, .ofNat second, .ofNat random⟩
  | _ => none

def ofText? (s : String) : Option Name := parse? s.toList

/-- Whether the name is a sandbox's and its owner is this one. -/
def ownedBy (owner : UInt32) (name : String) : Bool :=
  (ofText? name).map Name.owner == some owner

end Name

end TestRig.Sandbox
