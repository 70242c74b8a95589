import Mathlib.Tactic
import TestRig.Proofs.Numerals
import TestRig.TestProgram

/-!
What stays on a search list when a directory leaves it. The entries that stay are those of the list,
in order and letter by letter, as long as there are any. A text always has an entry, though: a list
that loses them all is the empty text, and reads as the one entry that names the present directory.
-/

namespace TestRig.Path

theorem components_ne_nil {path : List Char} (some : path ≠ []) : components path ≠ [] := by
  cases path with
  | nil => exact absurd rfl some
  | cons c rest =>
    obtain ⟨first, others, cut⟩ := List.exists_cons_of_ne_nil (Text.pieces_ne_nil '/' rest)
    by_cases slash : c = '/'
    · simp [components, Text.pieces, slash, cut]
    · by_cases dot : c :: first = ['.']
      · simp [components, Text.pieces, slash, cut, dot]
      · have piece : (component? (c :: first)).isSome = true := by
          rw [component?, if_neg (by simp [dot])]
          split <;> rfl
        obtain ⟨part, named⟩ := Option.isSome_iff_exists.1 piece
        rw [components, Text.pieces, if_neg slash, cut]
        simp [dot, named]

theorem same_nil {dir : List Char} (named : dir ≠ []) : same [] dir = false := by
  rw [same, beq_eq_false_iff_ne]
  exact (components_ne_nil named).symm

namespace SearchList

def others (list dir : List Char) : List (List Char) :=
  (entries list).filter fun entry => !same entry dir

theorem mem_others {list dir entry : List Char} :
    entry ∈ others list dir ↔ entry ∈ entries list ∧ same entry dir = false := by
  rw [others, List.mem_filter, Bool.not_eq_true']

theorem without_eq (list dir : List Char) : without list dir = ofEntries (others list dir) := rfl

theorem entries_without {list dir : List Char} (some : others list dir ≠ []) :
    entries (without list dir) = others list dir :=
  Text.pieces_joined some fun _ among => Text.not_mem_of_mem_pieces (mem_others.1 among).1

theorem without_of_none {list dir : List Char} (none : others list dir = []) :
    without list dir = [] := by
  rw [without_eq, none]
  rfl

theorem without_without {list dir : List Char} (named : dir ≠ []) :
    without (without list dir) dir = without list dir := by
  by_cases none : others list dir = []
  · have kept : others [] dir = [[]] := by
      simp [others, entries, Text.pieces, same_nil named]
    rw [without_of_none none, without_eq, kept]
    rfl
  · have kept : others (without list dir) dir = others list dir := by
      rw [others, entries_without none, others, List.filter_filter]
      simp only [Bool.and_self]
    rw [without_eq, kept, without_eq]

/-- The directory leaves a list that also names others, which stay as they are; of a list that names
nothing else the empty entry is left, which it did not have. Either way there is nothing to strip a
second time. -/
theorem strip_keeps_others {list dir : String} (named : dir ≠ "") :
    (entries (strip list dir).toList =
        (entries list.toList).filter (fun entry => !same entry dir.toList) ↔
      ∃ entry ∈ entries list.toList, same entry dir.toList = false) ∧
    ((∀ entry ∈ entries list.toList, same entry dir.toList = true) →
      entries (strip list dir).toList = [[]] ∧ [] ∉ entries list.toList) ∧
    strip (strip list dir) dir = strip list dir := by
  have text : (strip list dir).toList = without list.toList dir.toList := String.toList_ofList
  have directory : dir.toList ≠ [] := by simpa using named
  have some_iff : (∃ entry ∈ entries list.toList, same entry dir.toList = false) ↔
      others list.toList dir.toList ≠ [] := by
    constructor
    · rintro ⟨entry, among, other⟩
      exact List.ne_nil_of_mem (mem_others.2 ⟨among, other⟩)
    · intro some
      obtain ⟨entry, among⟩ := List.exists_mem_of_ne_nil _ some
      exact ⟨entry, mem_others.1 among⟩
  refine ⟨?_, fun only => ⟨?_, fun bare => ?_⟩, ?_⟩
  · rw [text, some_iff]
    refine ⟨fun kept none => ?_, fun some => entries_without some⟩
    exact Text.pieces_ne_nil ':' _ (kept.trans none)
  · have none : others list.toList dir.toList = [] :=
      List.filter_eq_nil_iff.2 fun entry among => by simp [only entry among]
    rw [text, without_of_none none]
    rfl
  · have same := only [] bare
    rw [same_nil directory] at same
    cases same
  · rw [strip, text, without_without directory]
    rfl

theorem strip_keeps_others_dotted :
    "/opt/rig" ≠ "" ∧
    entries (strip ":/opt//rig/.:/bin/::/opt/rig" "/opt/rig").toList =
      ["".toList, "/bin/".toList, "".toList] := by
  have named : "/opt/rig" ≠ "" := by decide
  refine ⟨named, ((strip_keeps_others named).1.2 ?_).trans (by decide +kernel)⟩
  exact ⟨[], by decide +kernel, by decide +kernel⟩

/-- A list of nothing but the directory turns into one that has an entry still, an empty one, and
this is what the wrapped program is searched by. -/
theorem emptied_list_has_entry :
    (entries "/opt/rig:/opt/rig".toList).filter (fun entry => !same entry "/opt/rig".toList) = [] ∧
    entries (strip "/opt/rig:/opt/rig" "/opt/rig").toList = [[]] ∧
    (TestProgram.command ⟨"/work", some "/opt/rig:/opt/rig", some "/opt/rig"⟩
      ["test", "--list"]).changes = [(TestProgram.searchVariable, some "")] := by
  decide +kernel

end SearchList

end TestRig.Path
