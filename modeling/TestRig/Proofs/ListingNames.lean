import Mathlib.Tactic
import TestRig.Proofs.Merges
import TestRig.Proofs.Numerals
import TestRig.Suite.Discovery

/-!
Reading a listing back. A test program prints a row for each of its cases, and whatever it has to
say between them; blanks around a row and the way it ends do not matter. The names come back in
order, each once for every row, and a filter picks among them without a second look at the text.
-/

namespace TestRig.Suite.Listing

inductive Entry
  | case (name : String)
  | noise (text : String)
deriving DecidableEq, Repr

namespace Entry

def text : Entry → List Char
  | case name => name.toList ++ caseEnding
  | noise text => text.toList

def name? : Entry → Option String
  | case name => some name
  | noise _ => none

/-- All of it stands on one line. A name holds something and begins with no blank; noise does not
end as a case does. -/
def Sound : Entry → Prop
  | case name => name ≠ "" ∧ '\n' ∉ name.toList ∧ name.toList.head?.any Text.isBlank = false
  | noise text => '\n' ∉ text.toList ∧ ¬ caseEnding <:+ Text.trim text.toList

instance : (e : Entry) → Decidable e.Sound
  | case name => inferInstanceAs (Decidable (name ≠ "" ∧ '\n' ∉ name.toList ∧
      name.toList.head?.any Text.isBlank = false))
  | noise text => inferInstanceAs (Decidable ('\n' ∉ text.toList ∧
      ¬ caseEnding <:+ Text.trim text.toList))

end Entry

structure Row where
  lead : List Char := []
  entry : Entry
  trail : List Char := []
  returns : Bool := false
deriving DecidableEq, Repr

namespace Row

def content (r : Row) : List Char := r.lead ++ r.entry.text ++ r.trail

def body (r : Row) : List Char := r.content ++ if r.returns then ['\r'] else []

def ended (r : Row) : List Char := r.body ++ ['\n']

structure Sound (r : Row) : Prop where
  entry : r.entry.Sound
  lead : Text.allBlank r.lead = true ∧ '\n' ∉ r.lead
  trail : Text.allBlank r.trail = true ∧ '\n' ∉ r.trail

instance (r : Row) : Decidable r.Sound :=
  decidable_of_iff (r.entry.Sound ∧ (Text.allBlank r.lead = true ∧ '\n' ∉ r.lead) ∧
      Text.allBlank r.trail = true ∧ '\n' ∉ r.trail)
    ⟨fun ⟨entry, lead, trail⟩ => ⟨entry, lead, trail⟩, fun sound => ⟨sound.1, sound.2, sound.3⟩⟩

end Row

/-- Rows as a text; the last need not be ended. -/
def sheet (closed : Bool) : List Row → List Char
  | [] => []
  | [last] => if closed then last.ended else last.content
  | row :: rest => row.ended ++ sheet closed rest

theorem nameOn?_case {name : String} (sound : (Entry.case name).Sound) {line : List Char}
    (shown : Text.trim line = Text.trim (Entry.case name).text) :
    nameOn? line = some name.toList := by
  obtain ⟨filled, -, first⟩ := sound
  have some : name.toList ≠ [] := by simpa using filled
  have kept : Text.trim (Entry.case name).text = name.toList ++ caseEnding := by
    refine Text.trim_of_ends ?_ ?_
    · rw [Entry.text, List.head?_append_of_ne_nil _ some]
      exact (Option.any_eq_false _ _).1 first
    · intro c last
      rw [Entry.text, List.getLast?_append_of_ne_nil _ (by decide)] at last
      obtain rfl : 't' = c := Option.some.inj last
      rfl
  rw [nameOn?, shown, kept, Text.before?_eq_some_iff.2 rfl, Option.filter_some]
  simp [some]

theorem nameOn?_noise {text : String} (sound : (Entry.noise text).Sound) {line : List Char}
    (shown : Text.trim line = Text.trim (Entry.noise text).text) : nameOn? line = none := by
  have without : Text.before? caseEnding (Text.trim text.toList) = none := by
    refine Option.eq_none_iff_forall_ne_some.2 fun rest found => sound.2 ?_
    exact ⟨rest, (Text.before?_eq_some_iff.1 found).symm⟩
  rw [nameOn?, shown, Entry.text, without]
  rfl

theorem nameOn?_of_shown {entry : Entry} (sound : entry.Sound) {line : List Char}
    (shown : Text.trim line = Text.trim entry.text) :
    nameOn? line = entry.name?.map String.toList := by
  cases entry with
  | case name => exact nameOn?_case sound shown
  | noise text => exact nameOn?_noise sound shown

namespace Row

variable {r : Row}

theorem Sound.trim_content (sound : r.Sound) : Text.trim r.content = Text.trim r.entry.text := by
  rw [content, Text.trim_append_blank sound.trail.1, Text.trim_blank_append sound.lead.1]

theorem Sound.trim_body (sound : r.Sound) :
    Text.trim (Text.dropReturn r.body) = Text.trim r.entry.text := by
  rw [Text.trim_dropReturn, body, Text.trim_append_blank, sound.trim_content]
  cases r.returns <;> rfl

theorem Sound.single_content (sound : r.Sound) : '\n' ∉ r.content := by
  have entry : '\n' ∉ r.entry.text := by
    have sound := sound.entry
    cases shown : r.entry with
    | case name =>
      rw [shown] at sound
      have ending : '\n' ∉ caseEnding := by decide
      simp [Entry.text, sound.2.1, ending]
    | noise text =>
      rw [shown] at sound
      exact sound.1
  simp [content, sound.lead.2, sound.trail.2, entry]

theorem Sound.single_body (sound : r.Sound) : '\n' ∉ r.body := by
  cases returns : r.returns <;> simp [body, returns, sound.single_content]

end Row

theorem filterMap_ended {r : Row} (sound : r.Sound) (rest : List Char) :
    (Text.lines (r.ended ++ rest)).filterMap nameOn? =
      (r.entry.name?.map String.toList).toList ++ (Text.lines rest).filterMap nameOn? := by
  rw [Row.ended, List.append_assoc, List.singleton_append, Text.lines_append sound.single_body,
    List.filterMap_cons, nameOn?_of_shown sound.entry sound.trim_body]
  cases r.entry.name?.map String.toList <;> rfl

theorem filterMap_content {r : Row} (sound : r.Sound) :
    (Text.lines r.content).filterMap nameOn? = (r.entry.name?.map String.toList).toList := by
  have shown := nameOn?_of_shown sound.entry sound.trim_content
  by_cases bare : r.content = []
  · rw [bare] at shown ⊢
    rw [← shown]
    rfl
  · rw [Text.lines_of_not_mem sound.single_content bare, List.filterMap_cons, shown]
    cases r.entry.name?.map String.toList <;> rfl

theorem filterMap_sheet {rows : List Row} (sound : ∀ r ∈ rows, r.Sound) (closed : Bool) :
    (Text.lines (sheet closed rows)).filterMap nameOn? =
      rows.filterMap fun r => r.entry.name?.map String.toList := by
  induction rows with
  | nil => rfl
  | cons row rest ih =>
    obtain ⟨first, later⟩ := List.forall_mem_cons.1 sound
    have split : (row :: rest).filterMap (fun r => r.entry.name?.map String.toList) =
        (row.entry.name?.map String.toList).toList ++
          rest.filterMap fun r => r.entry.name?.map String.toList := by
      rw [List.filterMap_cons]
      cases row.entry.name?.map String.toList <;> rfl
    rw [split, ← ih later]
    cases rest with
    | nil =>
      cases closed with
      | true => simpa [sheet] using filterMap_ended first []
      | false =>
        simpa [sheet, Text.lines, Text.pieces, Text.endedLines] using filterMap_content first
    | cons next rest => exact filterMap_ended first _

theorem belongs_iff {test name : List Char} :
    belongs test name = true ↔ name = test ∨ test ++ Case.separator <+: name := by
  have onward : (Text.after? (test ++ Case.separator) name).isSome = true ↔
      test ++ Case.separator <+: name := by
    rw [Option.isSome_iff_exists]
    exact exists_congr fun rest => Text.after?_eq_some_iff.trans eq_comm
  rw [belongs, Bool.or_eq_true, beq_iff_eq, onward]

theorem names_none (text : List Char) :
    names text none = (Text.lines text).filterMap nameOn? :=
  List.filter_eq_self.2 fun _ _ => rfl

theorem parse_some (text test : String) : parse text (some test) =
    (parse text none).filter fun name => name = test ∨ (test ++ "::").toList <+: name.toList := by
  have picked : names text.toList (some test.toList) =
      (names text.toList none).filter (belongs test.toList) := by
    rw [names_none]
    rfl
  rw [parse, parse, Option.map_some, picked, Option.map_none, List.filter_map]
  refine congrArg _ (List.filter_congr fun name _ => ?_)
  have same : String.ofList name = test ↔ name = test.toList := by
    rw [← String.toList_inj, String.toList_ofList]
  simp only [Function.comp_apply, same, String.toList_append, String.toList_ofList]
  exact Bool.eq_iff_iff.2 (belongs_iff.trans (decide_eq_true_iff (p := _ ∨ _)).symm)

/-- The names that a listing shows are read out of it, all of them and in order, whatever stands
between their rows, around them and behind them; a filter leaves those that are the name of the test
or begin with it and two colons. -/
theorem parse_reads_back :
    (∀ (names noise : List String) (rows : List Row) (closed : Bool), (∀ r ∈ rows, r.Sound) →
      Merges (names.map Entry.case) (noise.map Entry.noise) (rows.map Row.entry) →
      parse (String.ofList (sheet closed rows)) none = names) ∧
    ∀ text test : String, parse text (some test) =
      (parse text none).filter fun name => name = test ∨ (test ++ "::").toList <+: name.toList := by
  refine ⟨fun names noise rows closed sound merges => ?_, parse_some⟩
  have shown : rows.filterMap (fun r => r.entry.name?) = names := by
    have picked := merges.filterMap_left Entry.name? (by simp [Entry.name?])
    rw [List.filterMap_map, List.filterMap_map] at picked
    exact picked.trans List.filterMap_some
  calc parse (String.ofList (sheet closed rows)) none
      = ((Text.lines (sheet closed rows)).filterMap nameOn?).map String.ofList := by
        rw [parse, String.toList_ofList, Option.map_none, names_none]
    _ = rows.filterMap (fun r => r.entry.name?) := by
        rw [filterMap_sheet sound, List.map_filterMap]
        simp [Option.map_map, Function.comp_def]
    _ = names := shown

def printed : List Row :=
  [{ entry := .case "deploy" },
    { entry := .noise "bench: bench" },
    { lead := [' ', '\t'], entry := .case "flow::a: test b", trail := ['\u00a0'], returns := true },
    { entry := .noise "" },
    { entry := .noise "2 tests: test." }]

theorem parse_reads_back_printed :
    parse (String.ofList (sheet false printed)) none = ["deploy", "flow::a: test b"] ∧
    parse (String.ofList (sheet false printed)) (some "flow") = ["flow::a: test b"] := by
  have found : parse (String.ofList (sheet false printed)) none = ["deploy", "flow::a: test b"] :=
    parse_reads_back.1 _ ["bench: bench", "", "2 tests: test."] printed false (by decide +kernel)
      (.left (.right (.left (.right (.right .nil)))))
  refine ⟨found, ?_⟩
  rw [parse_reads_back.2, found]
  decide +kernel

end TestRig.Suite.Listing
