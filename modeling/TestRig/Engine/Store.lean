import TestRig.Engine.Call
import TestRig.Text.Lines

/-!
Containers by name. The list is strictly increasing in the name, so a name stands at most once and
every listing comes out in name order.
-/

namespace TestRig.Engine

structure Container where
  name : String
  port : Port.Number
  running : Bool
deriving DecidableEq, Repr

namespace Container

def Before (a b : Container) : Prop := a.name < b.name

/-- Put `c` in its place; a container of the same name gives way. -/
def insertInto (c : Container) : List Container → List Container
  | [] => [c]
  | d :: rest =>
    if c.name < d.name then c :: d :: rest
    else if c.name = d.name then c :: rest
    else d :: insertInto c rest

theorem mem_insertInto {c x : Container} {items : List Container}
    (h : x ∈ insertInto c items) : x = c ∨ x ∈ items := by
  induction items with
  | nil => exact .inl (by simpa [insertInto] using h)
  | cons d rest ih =>
    unfold insertInto at h
    split at h
    · simpa using h
    · split at h <;> simp only [List.mem_cons] at h ⊢
      · rcases h with h | h
        · exact .inl h
        · exact .inr (.inr h)
      · rcases h with h | h
        · exact .inr (.inl h)
        · rcases ih h with h | h
          · exact .inl h
          · exact .inr (.inr h)

theorem pairwise_insertInto (c : Container) {items : List Container}
    (h : items.Pairwise Before) : (insertInto c items).Pairwise Before := by
  induction items with
  | nil => simp [insertInto]
  | cons d rest ih =>
    rw [List.pairwise_cons] at h
    unfold insertInto
    split
    · rename_i hlt
      rw [List.pairwise_cons]
      refine ⟨fun x hx => ?_, List.pairwise_cons.2 h⟩
      rcases List.mem_cons.1 hx with rfl | hx
      · exact hlt
      · exact String.lt_trans hlt (h.1 x hx)
    · rename_i hnot
      split
      · rename_i heq
        exact List.pairwise_cons.2 ⟨fun x hx => by
          have := h.1 x hx
          unfold Before at *
          rwa [heq], h.2⟩
      · rename_i hne
        refine List.pairwise_cons.2 ⟨fun x hx => ?_, ih h.2⟩
        rcases mem_insertInto hx with rfl | hx
        · by_cases hlt : d.name < x.name
          · exact hlt
          · exact absurd (String.le_antisymm (String.not_lt.1 hlt) (String.not_lt.1 hnot)) hne
        · exact h.1 x hx

end Container

structure Store where
  items : List Container
  ordered : items.Pairwise Container.Before

namespace Store

def empty : Store := ⟨[], .nil⟩

def insert (s : Store) (c : Container) : Store :=
  ⟨c.insertInto s.items, Container.pairwise_insertInto c s.ordered⟩

def ofList (containers : List Container) : Store := containers.foldl insert empty

def contains (s : Store) (name : String) : Bool := s.items.any (·.name == name)

def erase (s : Store) (name : String) : Store :=
  ⟨s.items.filter (·.name != name), s.ordered.filter _⟩

theorem halted_name (name : String) (c : Container) :
    (if c.name = name then { c with running := false } else c).name = c.name := by
  split <;> rfl

def halt (s : Store) (name : String) : Store where
  items := s.items.map fun c => if c.name = name then { c with running := false } else c
  ordered := by
    rw [List.pairwise_map]
    exact s.ordered.imp fun {a b} h => by simpa only [Container.Before, halted_name] using h

def names (s : Store) : List String := s.items.map (·.name)

def publishes (s : Store) (port : Port.Number) : Bool :=
  s.items.any fun c => c.running && c.port == port

def namesPublishing (s : Store) (port : Port.Number) : List String :=
  (s.items.filter fun c => c.running && c.port == port).map (·.name)

end Store

/-- A name filter: a plain text matches anywhere, a caret ties it to the start, a dollar sign to the
end, and both together to the whole name. -/
def nameMatches (pattern name : List Char) : Bool :=
  match Text.after? ['^'] pattern, Text.before? ['$'] pattern with
  | some rest, some _ => Text.before? ['$'] rest == some name
  | some start, none => (Text.after? start name).isSome
  | none, some ending => (Text.before? ending name).isSome
  | none, none => Text.holds pattern name

def Store.namesMatching (s : Store) (pattern : String) (stopped : Bool) : List String :=
  (s.items.filter fun c =>
    (stopped || c.running) && nameMatches pattern.toList c.name.toList).map (·.name)

end TestRig.Engine
