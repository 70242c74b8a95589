/-!
Numbers that look random, from a state that is multiplied and shifted along.
-/

namespace TestRig.Rehearsal

structure Dice where
  state : UInt64 := 88172645463325252
deriving DecidableEq, Repr

def Dice.roll (d : Dice) (bound : Nat) : Nat × Dice :=
  let next : Dice := ⟨d.state * 6364136223846793005 + 1442695040888963407⟩
  ((next.state >>> 33).toNat % bound, next)

end TestRig.Rehearsal
