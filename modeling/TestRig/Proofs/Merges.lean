import Mathlib.Tactic

/-!
Two lists merged into one, each in its own order.
-/

namespace TestRig

/-- The last list is made of the elements of the first two, and those of each follow in their
order. -/
inductive Merges {α : Type} : List α → List α → List α → Prop
  | nil : Merges [] [] []
  | left {a : α} {xs ys zs : List α} : Merges xs ys zs → Merges (a :: xs) ys (a :: zs)
  | right {a : α} {xs ys zs : List α} : Merges xs ys zs → Merges xs (a :: ys) (a :: zs)

namespace Merges

variable {α β : Type} {xs ys zs : List α}

theorem perm (merges : Merges xs ys zs) : zs.Perm (xs ++ ys) := by
  induction merges with
  | nil => exact .nil
  | left _ ih => exact ih.cons _
  | right _ ih => exact (ih.cons _).trans List.perm_middle.symm

theorem length_eq (merges : Merges xs ys zs) : zs.length = xs.length + ys.length :=
  merges.perm.length_eq.trans List.length_append

theorem filterMap_left (merges : Merges xs ys zs) (pick : α → Option β)
    (none : ∀ y ∈ ys, pick y = none) : zs.filterMap pick = xs.filterMap pick := by
  induction merges with
  | nil => rfl
  | left _ ih => rw [List.filterMap_cons, List.filterMap_cons, ih none]
  | right _ ih =>
    obtain ⟨first, later⟩ := List.forall_mem_cons.1 none
    rw [List.filterMap_cons_none first, ih later]

end Merges

end TestRig
