import Mathlib.Tactic
import TestRig.Proofs.Numerals
import TestRig.Suite.Output

/-!
Which lines the filter of a worker's output keeps. The filter looks ahead only, with one flag for
the banner it has just dropped; the law for a line looks both ways. The flag holds where the nearest
text above and the nearest text below are both banners, which is what joins the two.
-/

namespace TestRig.Suite.Output

def linesOf (text : String) : List Line := Text.pieces '\n' text.toList

def hasText (line : Line) : Bool := !Text.allBlank line

def above? (lines : List Line) (i : Nat) : Option Line := (lines.take i).reverse.find? hasText

def below? (lines : List Line) (i : Nat) : Option Line := (lines.drop (i + 1)).find? hasText

def stays (lines : List Line) (i : Nat) (line : Line) : Bool :=
  if isBanner line then !(below? lines i).any isBanner
  else if Text.allBlank line then !((above? lines i).any isBanner && (below? lines i).any isBanner)
  else true

theorem isBanner_iff {line : Line} : isBanner line = true ↔
    Text.trim line = "successes:".toList ∨ Text.trim line = "failures:".toList := by
  simp [isBanner, banners]

theorem allBlank_of_isBanner {line : Line} (banner : isBanner line = true) :
    Text.allBlank line = false := by
  have filled : Text.trim line ≠ [] := by
    obtain named | named := isBanner_iff.1 banner <;> simp [named]
  simpa [Text.trim_eq_nil_iff] using filled

theorem leadsToBanner_eq (lines : List Line) :
    leadsToBanner lines = (lines.find? hasText).any isBanner := by
  show (match lines.find? hasText with
    | some next => isBanner next
    | none => false) = _
  cases lines.find? hasText <;> rfl

theorem leadsToBanner_cons (line : Line) (rest : List Line) : leadsToBanner (line :: rest) =
    if Text.allBlank line then leadsToBanner rest else isBanner line := by
  rw [leadsToBanner_eq, leadsToBanner_eq]
  cases blank : Text.allBlank line <;> simp [hasText, blank]

/-- The filter's flag, from the lines already seen, the nearest first, and those to come. -/
def between (seen below : List Line) : Bool := leadsToBanner seen && leadsToBanner below

/-- Whether a line is kept, from the lines around it. -/
def keptBetween (seen : List Line) (line : Line) (below : List Line) : Bool :=
  if isBanner line then !leadsToBanner below
  else !(Text.allBlank line && between seen below)

theorem thinFrom_between_cons (seen : List Line) (line : Line) (rest : List Line) :
    thinFrom (between seen (line :: rest)) (line :: rest) =
      if keptBetween seen line rest then line :: thinFrom (between (line :: seen) rest) rest
      else thinFrom (between (line :: seen) rest) rest := by
  rw [thinFrom, keptBetween]
  cases banner : isBanner line with
  | true =>
    have filled := allBlank_of_isBanner banner
    cases leads : leadsToBanner rest <;>
      simp [between, leadsToBanner_cons, banner, filled, leads]
  | false =>
    cases blank : Text.allBlank line with
    | true =>
      have before : between seen (line :: rest) = between seen rest := by
        simp [between, leadsToBanner_cons, blank]
      have after : between (line :: seen) rest = between seen rest := by
        simp [between, leadsToBanner_cons, blank]
      rw [before, after]
      cases flag : between seen rest <;> simp
    | false => simp [between, leadsToBanner_cons, banner, blank]

theorem stays_append (seen : List Line) (line : Line) (rest : List Line) :
    stays (seen.reverse ++ line :: rest) seen.length line = keptBetween seen line rest := by
  have upward : above? (seen.reverse ++ line :: rest) seen.length = seen.find? hasText := by
    simp [above?]
  have downward : below? (seen.reverse ++ line :: rest) seen.length = rest.find? hasText := by
    have gone : (seen.reverse ++ line :: rest).drop (seen.length + 1) = rest := by
      rw [List.append_cons, List.drop_left' (by simp)]
    simp [below?, gone]
  rw [stays, upward, downward, keptBetween, between, leadsToBanner_eq, leadsToBanner_eq]
  cases isBanner line <;> cases Text.allBlank line <;> simp

theorem thinFrom_between (seen below : List Line) : thinFrom (between seen below) below =
    ((below.zipIdx seen.length).filter fun p => stays (seen.reverse ++ below) p.2 p.1).map
      Prod.fst := by
  induction below generalizing seen with
  | nil => rfl
  | cons line rest ih =>
    have later := ih (line :: seen)
    rw [List.reverse_cons, List.append_assoc, List.singleton_append, List.length_cons] at later
    rw [thinFrom_between_cons, later, List.zipIdx_cons, List.filter_cons, stays_append]
    cases keptBetween seen line rest <;> rfl

theorem thin_eq (lines : List Line) :
    thin lines = (lines.zipIdx.filter fun p => stays lines p.2 p.1).map Prod.fst :=
  thinFrom_between [] lines

theorem leadsToBanner_thinFrom (dropping : Bool) (lines : List Line) :
    leadsToBanner (thinFrom dropping lines) = leadsToBanner lines := by
  induction lines generalizing dropping with
  | nil => rfl
  | cons line rest ih =>
    rw [thinFrom]
    split_ifs with banner leads dropped
    · simp [ih, leadsToBanner_cons, banner, allBlank_of_isBanner banner, leads]
    · simp [leadsToBanner_cons, ih]
    · simp_all [leadsToBanner_cons]
    · simp [leadsToBanner_cons, ih]

def Apart (lines : List Line) : Prop := ∀ above line below, lines = above ++ line :: below →
  isBanner line = true → leadsToBanner below = false

theorem apart_nil : Apart [] := by
  intro above line below cut
  simp at cut

theorem apart_cons {line : Line} {rest : List Line} : Apart (line :: rest) ↔
    (isBanner line = true → leadsToBanner rest = false) ∧ Apart rest := by
  constructor
  · intro apart
    refine ⟨apart [] line rest rfl, fun above other below cut => ?_⟩
    exact apart (line :: above) other below (by rw [cut, List.cons_append])
  · rintro ⟨first, later⟩ above other below cut
    cases above with
    | nil =>
      obtain ⟨rfl, rfl⟩ := List.cons.inj cut
      exact first
    | cons _ above => exact later above other below (List.cons.inj cut).2

theorem apart_thinFrom (dropping : Bool) (lines : List Line) : Apart (thinFrom dropping lines) := by
  induction lines generalizing dropping with
  | nil => exact apart_nil
  | cons line rest ih =>
    rw [thinFrom]
    split_ifs with banner leads dropped
    · exact ih _
    · exact apart_cons.2 ⟨fun _ => by simpa [leadsToBanner_thinFrom] using leads, ih _⟩
    · exact ih _
    · exact apart_cons.2 ⟨fun h => absurd h banner, ih _⟩

theorem thin_of_apart {lines : List Line} (apart : Apart lines) : thin lines = lines := by
  induction lines with
  | nil => rfl
  | cons line rest ih =>
    obtain ⟨first, later⟩ := apart_cons.1 apart
    have rest_stays : thinFrom false rest = rest := ih later
    rw [thin, thinFrom]
    split_ifs with banner leads dropped
    · simp [first banner] at leads
    · rw [rest_stays]
    · simp at dropped
    · rw [rest_stays]

theorem thinFrom_sublist (dropping : Bool) (lines : List Line) :
    (thinFrom dropping lines).Sublist lines := by
  induction lines generalizing dropping with
  | nil => exact .slnil
  | cons line rest ih =>
    rw [thinFrom]
    split_ifs
    · exact (ih _).cons _
    · exact (ih _).cons_cons _
    · exact (ih _).cons _
    · exact (ih _).cons_cons _

theorem thin_ne_nil {lines : List Line} (some : lines ≠ []) : thin lines ≠ [] := by
  cases lines with
  | nil => exact absurd rfl some
  | cons line rest =>
    rw [thin, thinFrom]
    split_ifs with banner leads dropped
    · intro none
      have kept := leadsToBanner_thinFrom true rest
      rw [none, leads] at kept
      cases kept
    · simp
    · simp at dropped
    · simp

theorem filter_thinFrom {p : Line → Bool} (bare : ∀ line, p line = true →
    isBanner line = false ∧ Text.allBlank line = false) (dropping : Bool) (lines : List Line) :
    (thinFrom dropping lines).filter p = lines.filter p := by
  induction lines generalizing dropping with
  | nil => rfl
  | cons line rest ih =>
    have unlisted : isBanner line = true ∨ Text.allBlank line = true → p line = false := by
      intro listed
      by_contra h
      obtain ⟨unlabelled, filled⟩ := bare line (by simpa using h)
      obtain banner | blank := listed
      · exact Bool.false_ne_true (unlabelled.symm.trans banner)
      · exact Bool.false_ne_true (filled.symm.trans blank)
    rw [thinFrom]
    split_ifs with banner leads dropped
    · simp [ih, unlisted (.inl banner)]
    · simp [ih, List.filter_cons]
    · simp_all
    · simp [ih, List.filter_cons]

theorem linesOf_filter (text : String) : linesOf (filter text) = thin (linesOf text) := by
  rw [linesOf, filter, String.toList_ofList]
  refine Text.pieces_joined (thin_ne_nil (Text.pieces_ne_nil _ _)) fun line among => ?_
  exact Text.not_mem_of_mem_pieces ((thinFrom_sublist false _).subset among)

/-- Of the lines of a text the filter keeps those that the law tells to stay, in order. So text that
is no banner is never lost, and no banner that is left has a banner as the next text below it. -/
theorem filter_keeps_lines (text : String) :
    linesOf (filter text) =
      ((linesOf text).zipIdx.filter fun p => stays (linesOf text) p.2 p.1).map Prod.fst ∧
    (linesOf (filter text)).filter (fun line => !isBanner line && hasText line) =
      (linesOf text).filter (fun line => !isBanner line && hasText line) ∧
    ∀ i line, (linesOf (filter text))[i]? = some line → isBanner line = true →
      (below? (linesOf (filter text)) i).any isBanner = false := by
  rw [linesOf_filter]
  refine ⟨thin_eq _, filter_thinFrom (by simp [hasText]) _ _, fun i line here banner => ?_⟩
  obtain ⟨inside, rfl⟩ := List.getElem?_eq_some_iff.1 here
  rw [below?, ← leadsToBanner_eq]
  refine apart_thinFrom false (linesOf text) ((thin (linesOf text)).take i) _ _ ?_ banner
  rw [List.getElem_cons_drop, List.take_append_drop]
  rfl

example : filter "failures:\n\nsuccesses:\n    case\n" = "successes:\n    case\n" := by
  decide +kernel

/-- What has been filtered once is left as it is. -/
theorem filter_idempotent (text : String) : filter (filter text) = filter text := by
  have settled : thin (linesOf (filter text)) = linesOf (filter text) := by
    rw [linesOf_filter]
    exact thin_of_apart (apart_thinFrom false _)
  calc filter (filter text) = String.ofList (Text.joined '\n' (linesOf (filter text))) := by
        rw [← settled]; rfl
    _ = filter text := by rw [linesOf, Text.joined_pieces, String.ofList_toList]

end TestRig.Suite.Output
