import Mathlib.Tactic
import TestRig.Sandbox.Cleanup
import TestRig.Proofs.EngineMemory

/-!
Which containers a clean-up is after, said of their names alone. What a clean-up of the whole run
finds to remove, in a listing of the store, is every target there and nothing else, in the order of
the store.
-/

namespace TestRig

namespace Engine

theorem nameMatches_start {start name : List Char}
    (loose : Text.before? ['$'] ('^' :: start) = none) :
    nameMatches ('^' :: start) name = true ↔ start <+: name := by
  have cut : Text.after? ['^'] ('^' :: start) = some start := Text.after?_eq_some_iff.2 rfl
  simp only [nameMatches, cut, loose, Option.isSome_iff_exists, Text.after?_eq_some_iff]
  exact ⟨fun ⟨rest, same⟩ => ⟨rest, same.symm⟩, fun ⟨rest, same⟩ => ⟨rest, same.symm⟩⟩

namespace Store

variable {s : Store}

theorem namesMatching_stopped (s : Store) (pattern : String) : s.namesMatching pattern true =
    s.names.filter fun name => nameMatches pattern.toList name.toList := by
  simp only [namesMatching, names, Bool.true_or, Bool.true_and, List.filter_map]
  rfl

theorem mem_names {name : String} : name ∈ s.names ↔ s.contains name = true := by
  simp [names, contains_iff]

theorem nodup_names (s : Store) : s.names.Nodup := by
  refine List.Pairwise.map _ (fun a b before same => ?_) s.ordered
  rw [Container.Before, same] at before
  exact String.lt_irrefl b.name before

end Store

end Engine

namespace Sandbox

theorem nameMatches_nameStart (name : String) :
    Engine.nameMatches ("^" ++ nameStart).toList name.toList = true ↔
      nameStart.toList <+: name.toList :=
  Engine.nameMatches_start (by decide)

theorem Name.start_of_ofText? {n : Name} {name : String} (read : ofText? name = some n) :
    nameStart.toList <+: name.toList := by
  rw [ofText?, parse?] at read
  obtain ⟨rest, cut, -⟩ := Option.bind_eq_some_iff.1 read
  exact ⟨rest, (Text.after?_eq_some_iff.1 cut).symm⟩

/-- The names that a clean-up of the whole run is after: on a developer's machine all that begin as
those of sandboxes do, on a shared runner those that give this owner. -/
def Environment.Reaches (owner : UInt32) (name : String) : Environment → Prop
  | .developer => nameStart.toList <+: name.toList
  | .sharedRunner => (Name.ofText? name).map Name.owner = some owner

instance (owner : UInt32) (name : String) : (e : Environment) → Decidable (e.Reaches owner name)
  | .developer => inferInstanceAs (Decidable (nameStart.toList <+: name.toList))
  | .sharedRunner => inferInstanceAs (Decidable (_ = _))

namespace Cleaner

variable {c : Cleaner} {scope : Scope} {name : String}

/-- The names that a clean-up is after. -/
def Target (c : Cleaner) : Scope → String → Prop
  | .one name, other => other = name
  | .run, other => c.environment.Reaches c.owner other

instance (c : Cleaner) : (scope : Scope) → DecidablePred (c.Target scope)
  | .one name => fun other => inferInstanceAs (Decidable (other = name))
  | .run => fun other => inferInstanceAs (Decidable (c.environment.Reaches c.owner other))

theorem start_of_target (target : c.Target .run name) : nameStart.toList <+: name.toList := by
  unfold Target at target
  cases environment : c.environment with
  | developer => rwa [environment] at target
  | sharedRunner =>
    rw [environment] at target
    obtain ⟨n, read, -⟩ := Option.map_eq_some_iff.1 target
    exact Name.start_of_ofText? read

theorem mayRemove_eq_filter {names : List String}
    (listed : ∀ n ∈ names, nameStart.toList <+: n.toList) :
    c.mayRemove names = names.filter (c.Target .run) := by
  obtain ⟨environment, owner, grace⟩ := c
  cases environment with
  | developer => exact (List.filter_eq_self.2 fun n among => decide_eq_true (listed n among)).symm
  | sharedRunner => exact List.filter_congr fun n _ => Bool.beq_eq_decide_eq _ _

theorem mayRemove_listing (c : Cleaner) (s : Engine.Store) :
    c.mayRemove (s.namesMatching ("^" ++ nameStart) true) = s.names.filter (c.Target .run) := by
  rw [s.namesMatching_stopped, mayRemove_eq_filter, List.filter_filter]
  · refine List.filter_congr fun n _ => ?_
    rw [Bool.and_eq_left_iff_imp, decide_eq_true_iff, nameMatches_nameStart]
    exact start_of_target
  · intro n among
    exact (nameMatches_nameStart n).1 (List.mem_filter.1 among).2

/-- What there is to remove: the one name, there or not, or all targets in the store. -/
def found (c : Cleaner) : Scope → Engine.Store → List String
  | .one name, _ => [name]
  | .run, s => s.names.filter (c.Target .run)

theorem mem_found {s : Engine.Store} (target : c.Target scope name)
    (present : s.contains name = true) : name ∈ c.found scope s := by
  cases scope with
  | one other => exact List.mem_singleton.2 target
  | run => exact List.mem_filter.2 ⟨Engine.Store.mem_names.2 present, decide_eq_true target⟩

theorem nodup_found (c : Cleaner) (scope : Scope) (s : Engine.Store) : (c.found scope s).Nodup := by
  cases scope with
  | one name => exact List.nodup_singleton name
  | run => exact s.nodup_names.filter _

theorem filter_found (c : Cleaner) (scope : Scope) (s : Engine.Store) :
    (c.found scope s).filter s.contains = s.names.filter (c.Target scope) := by
  cases scope with
  | one name =>
    have alone : s.names.filter (c.Target (.one name)) = List.replicate (s.names.count name) name :=
      List.filter_eq name
    rw [alone, found]
    cases there : s.contains name with
    | false =>
      have absent : name ∉ s.names := by simp [Engine.Store.mem_names, there]
      simp [there, List.count_eq_zero_of_not_mem absent]
    | true =>
      have present : name ∈ s.names := Engine.Store.mem_names.2 there
      simp [there, List.count_eq_one_of_mem s.nodup_names present]
  | run =>
    refine List.filter_eq_self.2 fun name among => ?_
    exact Engine.Store.mem_names.1 (List.mem_filter.1 among).1

end Cleaner

end Sandbox

end TestRig
