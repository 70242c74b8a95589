import Mathlib.Logic.Relation
import Mathlib.Tactic
import TestRig.Port.Lease
import TestRig.Proofs.Guards
import TestRig.Proofs.Numerals

/-!
The files of the locks while parties attempt to get them and give them back, in any order. Nothing
removes a file, and only a party that gets a lock writes to its file; so the text under a lock that
is held is the holder's. Keys without a slash are names in the directory, and where no such name is
a link, each key has a file of its own.
-/

namespace TestRig

namespace Files

/-- What is in `f` is in `g` as it was; what is new in `g` has no text. -/
def Extends (f g : Files) : Prop :=
  ∀ p, g.node? p = f.node? p ∨ f.node? p = none ∧ ∃ n, g.node? p = some n ∧ n.text = ""

variable {f g k : Files} {p : Place} {n : Node} {path : String}

theorem Extends.refl (f : Files) : Extends f f := fun _ => .inl rfl

theorem Extends.trans (h : Extends f g) (h' : Extends g k) : Extends f k := by
  intro p
  obtain same' | ⟨new', n, there', empty'⟩ := h' p
  · rw [same']
    exact h p
  · obtain same | ⟨-, m, there, -⟩ := h p
    · exact .inr ⟨same ▸ new', n, there', empty'⟩
    · rw [there] at new'
      cases new'

theorem Extends.node? (h : Extends f g) (there : f.node? p = some n) : g.node? p = some n := by
  obtain same | ⟨new, -⟩ := h p
  · rw [same, there]
  · rw [there] at new
    cases new

theorem Extends.textAt (h : Extends f g) (p : Place) : g.textAt p = f.textAt p := by
  unfold Files.textAt
  obtain same | ⟨new, n, there, empty⟩ := h p
  · rw [same]
  · simp [new, there, empty]

theorem ne_nil_of_node? (h : (f.node? p).any Node.isDirectory = false) : p ≠ [] := by
  rintro rfl
  simp [node?, Node.isDirectory] at h

theorem extends_put (new : f.node? p = none) (empty : n.text = "") : Extends f (f.put p n) := by
  intro q
  by_cases e : q = p
  · subst e
    have inside : q ≠ [] := ne_nil_of_node? (by rw [new]; rfl)
    exact .inr ⟨new, n, node?_put_self f inside n, empty⟩
  · exact .inl (node?_put_of_ne f e n)

theorem Making.extends_step {m m' : Making} {last dotted : Bool} {text : String}
    (h : m.step last dotted text = .ok m') : Extends m.files m'.files := by
  unfold step at h
  simp only at h
  split at h
  · cases h
  split at h
  · cases h
    exact .refl _
  · cases h
  · rename_i new
    split at h
    · cases h
    · cases h
      exact extends_put new rfl

theorem Making.extends_along {dotted : Bool} {l : List Path.Component} {m m' : Making}
    (h : Making.along dotted m l = .ok m') : Extends m.files m'.files := by
  induction l generalizing m with
  | nil =>
    cases h
    exact .refl _
  | cons c rest ih =>
    cases c with
    | root => exact ih h
    | here => exact ih h
    | parent => exact ih (m := { m with place := m.place.dropLast }) h
    | name text =>
      obtain ⟨k, stepped, h⟩ := bind_eq_ok.1 h
      exact (Making.extends_step stepped).trans (ih h)

theorem extends_createAll (h : f.createAll path = .ok g) : Extends f g := by
  unfold createAll at h
  split at h
  · cases h
    exact .refl _
  · obtain ⟨_, _, h⟩ := bind_eq_ok.1 h
    obtain ⟨m, made, h⟩ := bind_eq_ok.1 h
    cases h
    exact Making.extends_along made

theorem extends_openToWrite (h : f.openToWrite path = .ok (p, g)) :
    Extends f g ∧ p ≠ [] ∧ (f.node? p ≠ none → g = f) := by
  obtain ⟨⟨d, name⟩, found, h⟩ := bind_eq_ok.1 h
  cases name with
  | none => cases h
  | some name =>
    simp only at h
    split at h
    · cases h
    split at h
    · cases h
    · rename_i node plain there
      cases h
      refine ⟨.refl _, ne_nil_of_node? (f := f) ?_, fun _ => rfl⟩
      rw [there]
      cases node with
      | directory fixed => exact (plain fixed rfl).elim
      | _ => rfl
    · rename_i new
      split at h
      · cases h
        exact ⟨extends_put new rfl, ne_nil_of_node? (by rw [new]; rfl), fun old => absurd new old⟩
      · cases h

end Files

namespace Path

theorem isAbsolute_of_not_mem {s : List Char} (plain : '/' ∉ s) : isAbsolute s = false := by
  cases s with
  | nil => rfl
  | cons c rest =>
    have other : c ≠ '/' := by
      rintro rfl
      exact plain List.mem_cons_self
    simp [isAbsolute, other]

theorem toList_join (dir : String) {name : String} (plain : '/' ∉ name.toList) :
    (join dir name).toList = dir.toList ++ name.toList ∧
        (dir.toList = [] ∨ ∃ front, dir.toList = front ++ ['/']) ∨
      (join dir name).toList = dir.toList ++ '/' :: name.toList ∧ dir.toList ≠ [] := by
  rw [join, if_neg (by simp [isAbsolute_of_not_mem plain])]
  split_ifs with closed
  · refine .inl ⟨String.toList_append, ?_⟩
    obtain empty | slash := closed
    · exact .inl (by simpa using empty)
    · exact .inr (List.getLast?_eq_some_iff.1 slash)
  · rw [not_or] at closed
    exact .inr ⟨by simp, by simpa using closed.1⟩

end Path

namespace Locks

theorem not_mem_fileName {key : String} (plain : '/' ∉ key.toList) :
    '/' ∉ (key ++ ".lock").toList := by
  simp [plain]

theorem steps_path {dir key : String} (plain : '/' ∉ key.toList) :
    Files.steps (path dir key) = Files.steps dir ++ [.name (key ++ ".lock")] := by
  have named := not_mem_fileName plain
  have length : 5 ≤ (key ++ ".lock").toList.length := by simp
  unfold path
  generalize key ++ ".lock" = name at *
  have none : name.toList ≠ [] := by intro e; simp [e] at length
  have dot : name.toList ≠ ['.'] := by intro e; simp [e] at length
  have dots : name.toList ≠ ['.', '.'] := by intro e; simp [e] at length
  have whole := Text.pieces_of_not_mem named
  obtain ⟨written, empty | ⟨front, closed⟩⟩ | ⟨written, -⟩ := Path.toList_join dir named
  · simp [Files.steps, written, empty, whole, none, dot, dots, Text.pieces]
  · simp [Files.steps, written, closed, Text.pieces_append_sep, whole, none, dot, dots, Text.pieces]
  · simp [Files.steps, written, Text.pieces_append_sep, whole, none, dot, dots]

theorem leads_path (f : Files) {dir key : String} (plain : '/' ∉ key.toList) :
    f.leads (path dir key) = f.target (f.leads dir) (key ++ ".lock") := by
  have start : f.start (path dir key) = f.start dir := by
    have named := not_mem_fileName plain
    unfold Files.start path
    obtain ⟨written, empty | ⟨front, closed⟩⟩ | ⟨written, some⟩ :=
      Path.toList_join dir named
    · rw [written, empty, List.nil_append, Path.isAbsolute_of_not_mem named]
      rfl
    · rw [written, closed]
      cases front <;> rfl
    · rw [written]
      cases whole : dir.toList with
      | nil => exact absurd whole some
      | cons c rest => rfl
  rw [Files.leads, steps_path plain, List.foldl_append, start]
  rfl

theorem path_injective {dir key key' : String} (plain : '/' ∉ key.toList)
    (plain' : '/' ∉ key'.toList) (same : path dir key = path dir key') : key = key' := by
  have ends := congrArg Files.steps same
  rw [steps_path plain, steps_path plain'] at ends
  simpa using ends

end Locks

namespace Port

theorem lockKey_injective {a b : Number} (same : lockKey a = lockKey b) : a = b := by
  have texts : Text.Decimal.text a.toNat = Text.Decimal.text b.toNat := by
    simpa [lockKey] using same
  exact UInt16.toNat_inj.1 (Text.Decimal.render_injective (String.ofList_injective texts))

theorem plain_lockKey (port : Number) : '/' ∉ (lockKey port).toList := by
  have absent : '/' ∉ Text.Decimal.render port.toNat := Text.Decimal.not_mem_render (by decide) _
  simp [lockKey, Text.Decimal.text, absent]

end Port

def Files.IsFile (f : Files) (p : Place) : Prop := ∃ text runnable,
  f.node? p = some (.file text runnable)

/-- No entry of a directory stands for something elsewhere. -/
def Files.Unlinked (f : Files) (dir : Place) : Prop := ∀ name, f.links.lookup (dir ++ [name]) = none

namespace Locks

theorem leads_path_unlinked {f : Files} {dir key : String} (unlinked : f.Unlinked (f.leads dir))
    (plain : '/' ∉ key.toList) : f.leads (path dir key) = f.leads dir ++ [key ++ ".lock"] := by
  rw [leads_path f plain, Files.target, unlinked]
  rfl

/-- The directory can be made and the file of the key opened. -/
def Opens (f : Files) (dir key : String) : Prop := ∃ made found,
  f.createAll dir = .ok made ∧ made.openToWrite (path dir key) = .ok found

theorem acquire_files {s s' : Locks} {dir key : String} {pid : UInt32}
    {answer : Except SystemError (Option Place)} (h : s.acquire dir key pid = (answer, s')) :
    (∃ place made, answer = .ok (some place) ∧ place ≠ [] ∧ s.files.Extends made ∧
      s'.files = made.put place (.file (record pid))) ∨
    (answer = .ok none ∧ s.files.leads (path dir key) ∈ s.held ∧ s.files.Extends s'.files) ∨
    ((∃ e, answer = .error e) ∧ ¬ Opens s.files dir key ∧ s.files.Extends s'.files) := by
  unfold acquire at h
  split at h
  · rename_i e fails
    cases h
    refine .inr (.inr ⟨⟨e, rfl⟩, ?_, .refl _⟩)
    rintro ⟨made, found, makes, -⟩
    rw [fails] at makes
    cases makes
  · rename_i made makes
    have grown := Files.extends_createAll makes
    split at h
    · rename_i e fails
      cases h
      refine .inr (.inr ⟨⟨e, rfl⟩, ?_, grown⟩)
      rintro ⟨made', found, makes', opens⟩
      obtain rfl := Except.ok.inj (makes.symm.trans makes')
      rw [fails] at opens
      cases opens
    · rename_i p files opens
      obtain ⟨rfl, -⟩ := Files.openToWrite_eq opens
      obtain ⟨further, inside, -⟩ := Files.extends_openToWrite opens
      rw [(Files.sameWays_createAll makes).leads]
      unfold take at h
      simp only at h
      split at h
      · rename_i taken
        cases h
        exact .inr (.inl ⟨rfl, by simpa using taken, grown.trans further⟩)
      · cases h
        exact .inl ⟨_, files, rfl, inside, grown.trans further, rfl⟩

end Locks

namespace Guards

variable {ι : Type} {dir key : String} {pid : ι → UInt32} {start : Files} {g g' : Guards ι} {i : ι}

structure Signed (start : Files) (dir : String) (pid : ι → UInt32) (g : Guards ι) : Prop where
  sole : g.Sole dir
  ways : start.SameWays g.locks.files
  once : ∀ i, ((g.own i).map Prod.fst).Nodup
  plain : ∀ {i key place}, (key, place) ∈ g.own i → '/' ∉ key.toList
  signed : ∀ {i key place}, (key, place) ∈ g.own i →
    g.locks.files.node? place = some (.file (Locks.record (pid i)))

theorem signed_free (start : Files) (dir : String) (pid : ι → UInt32) :
    Signed start dir pid ⟨⟨start, []⟩, fun _ => []⟩ :=
  ⟨sole_free start, ⟨rfl, rfl⟩, by simp, by simp, by simp⟩

theorem Signed.held_iff (h : g.Signed start dir pid) (unlinked : start.Unlinked (start.leads dir))
    (plain : '/' ∉ key.toList) : g.locks.files.leads (Locks.path dir key) ∈ g.locks.held ↔
      ∃ i place, (key, place) ∈ g.own i := by
  rw [h.sole.held_iff]
  constructor
  · rintro ⟨i, k, among⟩
    have same := h.sole.placed among
    rw [← h.ways.leads, Locks.leads_path_unlinked unlinked plain,
      Locks.leads_path_unlinked unlinked (h.plain among)] at same
    obtain rfl : key = k := by simpa using same
    exact ⟨i, _, among⟩
  · rintro ⟨i, place, among⟩
    exact ⟨i, key, h.sole.placed among ▸ among⟩

variable [DecidableEq ι]

theorem attempt_cases {pid : UInt32} {x : Except SystemError Bool}
    (locked : g.lock dir pid i key = (x, g')) :
    (x = .ok true ∧ ∃ place made, place = g.locks.files.leads (Locks.path dir key) ∧ place ≠ [] ∧
      place ∉ g.locks.held ∧ g.locks.files.Extends made ∧
      g'.locks.files = made.put place (.file (Locks.record pid)) ∧
      g'.own = Function.update g.own i ((key, place) :: g.own i)) ∨
    (x = .ok false ∧ g.locks.files.leads (Locks.path dir key) ∈ g.locks.held ∧
      g.locks.files.Extends g'.locks.files ∧ g'.own = g.own) ∨
    (¬ Locks.Opens g.locks.files dir key ∧ g.locks.files.Extends g'.locks.files ∧
      g'.own = g.own) := by
  unfold lock at locked
  split at locked
  all_goals
    rename_i acquired
    obtain ⟨-, taken⟩ := Locks.acquire_cases acquired
    have files := Locks.acquire_files acquired
    cases locked
  · obtain ⟨place, made, same, inside, grown, written⟩ | ⟨other, -⟩ | ⟨⟨e, other⟩, -⟩ := files
    · cases same
      obtain ⟨_, same, led, free, -⟩ | ⟨none, -⟩ := taken
      · cases same
        exact .inl ⟨rfl, _, made, led, inside, free, grown, written, rfl⟩
      · exact absurd rfl (none _)
    · cases other
    · cases other
  · obtain ⟨_, _, other, -⟩ | ⟨-, held, grown⟩ | ⟨⟨e, other⟩, -⟩ := files
    · cases other
    · exact .inr (.inl ⟨rfl, held, grown, rfl⟩)
    · cases other
  · obtain ⟨_, _, other, -⟩ | ⟨other, -⟩ | ⟨-, shut, grown⟩ := files
    · cases other
    · cases other
    · exact .inr (.inr ⟨shut, grown, rfl⟩)

/-- A party attempts to get the lock of a plain key, or drops a guard it has. -/
inductive Turn (dir : String) (pid : ι → UInt32) : Guards ι → Guards ι → Prop
  | attempt (g : Guards ι) (i : ι) {key : String} (plain : '/' ∉ key.toList) :
    Turn dir pid g (g.lock dir (pid i) i key).2
  | drop (g : Guards ι) {i : ι} {key : String} {place : Place} (mine : (key, place) ∈ g.own i) :
    Turn dir pid g (g.unlock i key)

theorem own_unlock_sublist (g : Guards ι) (i j : ι) (key : String) :
    ((g.unlock i key).own j).Sublist (g.own j) := by
  unfold Guards.unlock
  split
  · by_cases e : j = i
    · subst e
      simp [List.filter_sublist]
    · simp [Function.update_of_ne e]
  · exact .refl _

theorem files_unlock (g : Guards ι) (i : ι) (key : String) :
    (g.unlock i key).locks.files = g.locks.files := by
  unfold Guards.unlock
  split <;> rfl

theorem Signed.attempt (h : g.Signed start dir pid) (i : ι) (plain : '/' ∉ key.toList) :
    (g.lock dir (pid i) i key).2.Signed start dir pid := by
  generalize locked : g.lock dir (pid i) i key = answer
  obtain ⟨x, g'⟩ := answer
  have ways := h.ways.trans (lock_cases locked).1
  have sole := h.sole.lock locked
  obtain ⟨-, place, made, led, inside, free, grown, written, own⟩ | ⟨-, -, grown, own⟩ |
    ⟨-, grown, own⟩ := attempt_cases locked
  · have unheld : ∀ {j k}, (k, place) ∉ g.own j := fun {j k} among =>
      free ((h.sole.held_iff place).2 ⟨j, k, among⟩)
    refine ⟨sole, ways, fun j => ?_, fun {j k p} among => ?_, fun {j k p} among => ?_⟩
    · rw [own]
      by_cases e : j = i
      · subst e
        have fresh : key ∉ (g.own j).map Prod.fst := by
          intro held
          obtain ⟨⟨k, p⟩, mine, rfl⟩ := List.mem_map.1 held
          obtain rfl : p = place := (h.sole.placed mine).trans led.symm
          exact unheld mine
        simpa [fresh] using h.once j
      · simpa [Function.update_of_ne e] using h.once j
    · rw [own, mem_own_cons] at among
      obtain ⟨-, rfl, -⟩ | among := among
      · exact plain
      · exact h.plain among
    · rw [own, mem_own_cons] at among
      obtain ⟨rfl, rfl, rfl⟩ | among := among
      · rw [written, Files.node?_put_self _ inside]
      · have other : p ≠ place := by
          rintro rfl
          exact unheld among
        rw [written, Files.node?_put_of_ne _ other, grown.node? (h.signed among)]
  all_goals
    refine ⟨sole, ways, own ▸ h.once, fun among => h.plain (own ▸ among), fun among => ?_⟩
    exact grown.node? (h.signed (own ▸ among))

theorem Signed.unlock (h : g.Signed start dir pid) (i : ι) (key : String) :
    (g.unlock i key).Signed start dir pid := by
  have files := files_unlock g i key
  have left : ∀ {j k p}, (k, p) ∈ (g.unlock i key).own j → (k, p) ∈ g.own j :=
    fun {j k p} among => (own_unlock_sublist g i j key).subset among
  refine ⟨h.sole.unlock i key, ?_, fun j => ?_, fun among => h.plain (left among), fun among => ?_⟩
  · rw [files]
    exact h.ways
  · exact (h.once j).sublist ((own_unlock_sublist g i j key).map Prod.fst)
  · rw [files]
    exact h.signed (left among)

theorem Signed.turn (h : g.Signed start dir pid) (turn : Turn dir pid g g') :
    g'.Signed start dir pid := by
  cases turn with
  | attempt i plain => exact h.attempt i plain
  | drop mine => exact h.unlock _ _

theorem signed_of_turns (turns : Relation.ReflTransGen (Turn dir pid) ⟨⟨start, []⟩, fun _ => []⟩ g) :
    g.Signed start dir pid := by
  induction turns with
  | refl => exact signed_free start dir pid
  | tail _ turn ih => exact ih.turn turn

theorem isFile_of_turn (turn : Turn dir pid g g') {place : Place}
    (file : g.locks.files.IsFile place) : g'.locks.files.IsFile place := by
  obtain ⟨text, runnable, there⟩ := file
  cases turn with
  | attempt i plain =>
    generalize locked : g.lock dir (pid i) i _ = answer
    obtain ⟨x, g'⟩ := answer
    obtain ⟨-, p, made, -, inside, -, grown, written, -⟩ | ⟨-, -, grown, -⟩ | ⟨-, grown, -⟩ :=
      attempt_cases locked
    · by_cases e : place = p
      · subst e
        exact ⟨_, _, by rw [written, Files.node?_put_self _ inside]⟩
      · exact ⟨text, runnable, by rw [written, Files.node?_put_of_ne _ e, grown.node? there]⟩
    · exact ⟨text, runnable, grown.node? there⟩
    · exact ⟨text, runnable, grown.node? there⟩
  | drop mine =>
    rw [files_unlock]
    exact ⟨text, runnable, there⟩

theorem isFile_of_turns (turns : Relation.ReflTransGen (Turn dir pid) g g') {place : Place}
    (file : g.locks.files.IsFile place) : g'.locks.files.IsFile place := by
  induction turns with
  | refl => exact file
  | tail _ turn ih => exact isFile_of_turn turn ih

/-- At every moment of every sequence of attempts and drops: each key has one guard at most; an
attempt on a file that opens gets the lock if its key has no guard, and else changes neither guards
nor texts; a file whose lock is held names the holder; and files stay where they are, so that a key
leads to one file for ever, and different ports to different ones. -/
theorem guards_follow_keys (unlinked : start.Unlinked (start.leads dir))
    (before : Relation.ReflTransGen (Turn dir pid) ⟨⟨start, []⟩, fun _ => []⟩ g)
    (after : Relation.ReflTransGen (Turn dir pid) g g') :
    (∀ i, ((g.own i).map Prod.fst).Nodup) ∧
    (∀ i j key p q, (key, p) ∈ g.own i → (key, q) ∈ g.own j → i = j ∧ p = q) ∧
    (∀ i key, '/' ∉ key.toList → Locks.Opens g.locks.files dir key →
      ((g.lock dir (pid i) i key).1 = .ok true ∧ (∀ j p, (key, p) ∉ g.own j) ∧
        ∃ p, (g.lock dir (pid i) i key).2.own = Function.update g.own i ((key, p) :: g.own i)) ∨
      ((g.lock dir (pid i) i key).1 = .ok false ∧ (∃ j p, (key, p) ∈ g.own j) ∧
        (g.lock dir (pid i) i key).2.own = g.own ∧
        ∀ p, (g.lock dir (pid i) i key).2.locks.files.textAt p = g.locks.files.textAt p)) ∧
    (∀ i key p, (key, p) ∈ g.own i → p = start.leads (Locks.path dir key) ∧
      g.locks.files.textAt p = Locks.record (pid i)) ∧
    (∀ p, g.locks.files.IsFile p → g'.locks.files.IsFile p) ∧
    (∀ key made p files, g'.locks.files.createAll dir = .ok made →
      made.openToWrite (Locks.path dir key) = .ok (p, files) →
      p = start.leads (Locks.path dir key) ∧ (g.locks.files.IsFile p → files = made)) ∧
    (∀ a b, Locks.path dir (Port.lockKey a) = Locks.path dir (Port.lockKey b) ∨
      start.leads (Locks.path dir (Port.lockKey a)) =
        start.leads (Locks.path dir (Port.lockKey b)) → a = b) := by
  have stands := signed_of_turns before
  have later := signed_of_turns (before.trans after)
  refine ⟨stands.once, fun i j key p q mine yours => ?_, fun i key plain opens => ?_,
    fun i key p mine => ?_, fun p => isFile_of_turns after, fun key made p files makes opened => ?_,
    fun a b same => ?_⟩
  · exact ⟨stands.sole.eq_of_key mine yours,
      (stands.sole.placed mine).trans (stands.sole.placed yours).symm⟩
  · generalize locked : g.lock dir (pid i) i key = answer
    obtain ⟨x, g₁⟩ := answer
    obtain ⟨granted, p, made, led, -, free, -, -, own⟩ | ⟨refused, held, grown, own⟩ | ⟨shut, -⟩ :=
      attempt_cases locked
    · rw [led, stands.held_iff unlinked plain] at free
      exact .inl ⟨granted, fun j q mine => free ⟨j, q, mine⟩, p, own⟩
    · rw [stands.held_iff unlinked plain] at held
      exact .inr ⟨refused, held, own, grown.textAt⟩
    · exact absurd opens shut
  · rw [stands.ways.leads]
    exact ⟨stands.sole.placed mine, by simp [Files.textAt, stands.signed mine, Node.text]⟩
  · have grown := Files.extends_createAll makes
    have led := (Files.openToWrite_eq opened).1
    rw [← (later.ways.trans (Files.sameWays_createAll makes)).leads] at led
    refine ⟨led, fun file => ?_⟩
    obtain ⟨text, runnable, there⟩ := isFile_of_turns after file
    refine (Files.extends_openToWrite opened).2.2 ?_
    rw [grown.node? there]
    nofun
  · have plain := Port.plain_lockKey
    obtain same | same := same
    · exact Port.lockKey_injective (Locks.path_injective (plain a) (plain b) same)
    · rw [Locks.leads_path_unlinked unlinked (plain a),
        Locks.leads_path_unlinked unlinked (plain b)] at same
      exact Port.lockKey_injective (by simpa using same)

def oneLock (text : String) : Files :=
  (Files.put {} ["locks"] .directory).put ["locks", "port_lock_8085.lock"] (.file text)

theorem opens_empty : Locks.Opens {} "locks" "port_lock_8085" := by
  unfold Locks.Opens
  simp only [Locks.path_onePort, Files.createAll, Files.openToWrite, Files.slot,
    Locks.check_onePort.1, Locks.check_onePort.2.1]
  exact ⟨_, _, rfl, rfl⟩

theorem opens_oneLock (text : String) : Locks.Opens (oneLock text) "locks" "port_lock_8085" := by
  unfold Locks.Opens
  simp only [Locks.path_onePort, Files.createAll, Files.openToWrite, Files.slot,
    Locks.check_onePort.1, Locks.check_onePort.2.1]
  exact ⟨_, _, rfl, rfl⟩

theorem lock_empty (pid : UInt32) (i : ι) :
    (lock ⟨⟨{}, []⟩, fun _ => []⟩ "locks" pid i "port_lock_8085").2.locks.files =
      oneLock (Locks.record pid) := by
  have opened : (Files.put {} ["locks"] .directory).openToWrite "locks/port_lock_8085.lock" =
      .ok (["locks", "port_lock_8085.lock"], oneLock "") := by
    simp only [Files.openToWrite, Files.slot, Locks.check_onePort.2.1]
    rfl
  simp only [lock, Locks.acquire, Locks.createAll_onePort, Locks.path_onePort, opened, Locks.take]
  rfl

theorem guards_follow_keys_twoParties : ∃ g : Guards Bool,
    Files.Unlinked {} (Files.leads {} "locks") ∧
    Relation.ReflTransGen (Turn "locks" fun i => if i then 7 else 9) ⟨⟨{}, []⟩, fun _ => []⟩ g ∧
    Locks.Opens g.locks.files "locks" "port_lock_8085" ∧
    (g.lock "locks" 9 false "port_lock_8085").1 = .ok false ∧
    ∃ p, ("port_lock_8085", p) ∈ g.own true ∧ g.locks.files.textAt p = "7\n" := by
  have unlinked : Files.Unlinked {} (Files.leads {} "locks") := fun _ => rfl
  have plain : '/' ∉ "port_lock_8085".toList := by decide
  have turn : Turn "locks" (fun i => if i then 7 else 9) (⟨⟨{}, []⟩, fun _ => []⟩ : Guards Bool)
      _ := .attempt _ true plain
  have opens := opens_oneLock (Locks.record 7)
  rw [← lock_empty 7 true] at opens
  obtain ⟨-, -, first, -⟩ := guards_follow_keys unlinked .refl (.single turn)
  obtain ⟨-, -, second, texts, -⟩ := guards_follow_keys unlinked (.single turn) .refl
  refine ⟨_, unlinked, .single turn, opens, ?_⟩
  obtain ⟨-, -, p, own⟩ | ⟨-, ⟨j, p, none⟩, -⟩ := first true _ plain opens_empty
  · have mine : ("port_lock_8085", p) ∈ (lock ⟨⟨{}, []⟩, fun _ => []⟩ "locks" 7 true
        "port_lock_8085").2.own true := by
      have one := congrFun own true
      rw [Function.update_self] at one
      exact one ▸ List.mem_singleton_self _
    obtain ⟨-, free, -⟩ | ⟨refused, -⟩ := second false _ plain opens
    · exact absurd mine (free true p)
    · have record : Locks.record 7 = "7\n" := by decide +kernel
      exact ⟨refused, p, mine, record ▸ (texts true _ p mine).2⟩
  · cases none

end Guards

end TestRig
