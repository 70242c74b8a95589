import Mathlib.Tactic
import TestRig.Engine.Memory
import TestRig.Sandbox.Lifecycle

/-!
What the engine kept in memory holds after a call. A launch, a stop, a kill and a removal touch the
container of their own name and no other; every other call leaves the containers as they are, and so
does every call that fails. The exact filter finds a name if and only if the store has it.
-/

namespace TestRig.Engine

theorem nameMatches_exactly (name other : String) :
    nameMatches (Sandbox.exactly name).toList other.toList = (other == name) := by
  have shape : (Sandbox.exactly name).toList = '^' :: (name.toList ++ ['$']) := by
    simp [Sandbox.exactly, String.toList_append]
  have start : Text.after? ['^'] ('^' :: (name.toList ++ ['$'])) = some (name.toList ++ ['$']) :=
    Text.after?_eq_some_iff.2 rfl
  have whole : Text.before? ['$'] ('^' :: (name.toList ++ ['$'])) = some ('^' :: name.toList) :=
    Text.before?_eq_some_iff.2 rfl
  have ending : Text.before? ['$'] (name.toList ++ ['$']) = some name.toList :=
    Text.before?_eq_some_iff.2 rfl
  unfold nameMatches
  rw [shape, start, whole]
  simp only [ending]
  rw [Bool.eq_iff_iff, beq_iff_eq, beq_iff_eq, Option.some_inj, String.toList_inj]
  exact eq_comm

namespace Container

theorem mem_insertInto_self (c : Container) (items : List Container) : c ∈ c.insertInto items := by
  induction items with
  | nil => simp [insertInto]
  | cons d rest ih =>
    unfold insertInto
    split_ifs <;> simp [ih]

theorem mem_insertInto_of_ne {c d : Container} {items : List Container} (h : d ∈ items)
    (ne : d.name ≠ c.name) : d ∈ c.insertInto items := by
  induction items with
  | nil => cases h
  | cons e rest ih =>
    unfold insertInto
    split_ifs with lt eq
    · exact List.mem_cons_of_mem _ h
    · obtain rfl | h := List.mem_cons.1 h
      · exact absurd eq.symm ne
      · exact List.mem_cons_of_mem _ h
    · obtain rfl | h := List.mem_cons.1 h
      · exact List.mem_cons_self
      · exact List.mem_cons_of_mem _ (ih h)

theorem filter_insertInto (c : Container) (items : List Container) :
    (c.insertInto items).filter (·.name != c.name) = items.filter (·.name != c.name) := by
  induction items with
  | nil => simp [insertInto]
  | cons d rest ih =>
    unfold insertInto
    split_ifs with lt eq
    · simp
    · simp [eq]
    · simp [List.filter_cons, ih]

end Container

namespace Store

variable {s t : Store} {c d : Container} {name other : String} {port : Port.Number}

theorem eq_of_items (h : s.items = t.items) : s = t := by
  cases s
  cases t
  simpa using h

theorem contains_iff : s.contains name = true ↔ ∃ c ∈ s.items, c.name = name := by
  simp [contains]

theorem publishes_iff :
    s.publishes port = true ↔ ∃ c ∈ s.items, c.running = true ∧ c.port = port := by
  simp [publishes]

theorem name_ne (absent : s.contains name = false) (there : c ∈ s.items) : c.name ≠ name := by
  intro same
  have present : s.contains name = true := contains_iff.2 ⟨c, there, same⟩
  simp [absent] at present

theorem port_ne (unpublished : s.publishes port = false) (there : c ∈ s.items)
    (up : c.running = true) : c.port ≠ port := by
  intro same
  have published : s.publishes port = true := publishes_iff.2 ⟨c, there, up, same⟩
  simp [unpublished] at published

theorem mem_insert (absent : s.contains c.name = false) :
    d ∈ (s.insert c).items ↔ d = c ∨ d ∈ s.items := by
  refine ⟨Container.mem_insertInto, ?_⟩
  rintro (rfl | h)
  · exact Container.mem_insertInto_self _ _
  · exact Container.mem_insertInto_of_ne h (name_ne absent h)

theorem contains_insert (absent : s.contains c.name = false) :
    (s.insert c).contains other = true ↔ c.name = other ∨ s.contains other = true := by
  simp only [contains_iff, mem_insert absent]
  constructor
  · rintro ⟨d, rfl | there, same⟩
    · exact .inl same
    · exact .inr ⟨d, there, same⟩
  · rintro (same | ⟨d, there, same⟩)
    · exact ⟨c, .inl rfl, same⟩
    · exact ⟨d, .inr there, same⟩

theorem unpublished_insert (absent : s.contains c.name = false)
    (unpublished : s.publishes port = false) (ne : c.port ≠ port) :
    (s.insert c).publishes port = false := by
  rw [← Bool.not_eq_true, publishes_iff]
  rintro ⟨d, there, up, same⟩
  obtain rfl | there := (mem_insert absent).1 there
  · exact ne same
  · exact port_ne unpublished there up same

theorem mem_erase : d ∈ (s.erase name).items ↔ d ∈ s.items ∧ d.name ≠ name := by
  simp [erase]

theorem contains_erase_self : (s.erase name).contains name = false := by
  simp [contains, erase]

theorem contains_erase_of_ne (ne : other ≠ name) :
    (s.erase name).contains other = s.contains other := by
  rw [Bool.eq_iff_iff, contains_iff, contains_iff]
  simp only [mem_erase]
  constructor
  · rintro ⟨c, ⟨there, -⟩, same⟩
    exact ⟨c, there, same⟩
  · rintro ⟨c, there, rfl⟩
    exact ⟨c, ⟨there, ne⟩, rfl⟩

@[simp] theorem contains_halt : (s.halt name).contains other = s.contains other := by
  simp only [contains, halt, List.any_map, Function.comp_def, halted_name]

theorem erase_of_absent (absent : s.contains name = false) : s.erase name = s := by
  refine eq_of_items (List.filter_eq_self.2 fun c there => ?_)
  simpa using name_ne absent there

theorem erase_insert (s : Store) (c : Container) : (s.insert c).erase c.name = s.erase c.name :=
  eq_of_items (Container.filter_insertInto c s.items)

theorem erase_erase (s : Store) (name : String) : (s.erase name).erase name = s.erase name :=
  erase_of_absent contains_erase_self

theorem erase_halt (s : Store) (name : String) : (s.halt name).erase name = s.erase name := by
  refine eq_of_items ?_
  have others : ((fun c : Container => c.name != name) ∘
      fun c => if c.name = name then { c with running := false } else c) =
      fun c => c.name != name := by
    funext c
    simp only [Function.comp, halted_name]
  simp only [halt, erase, List.filter_map, others]
  conv_rhs => rw [← List.map_id (s.items.filter _)]
  refine List.map_congr_left fun c there => ?_
  have ne : c.name ≠ name := by simpa using (List.mem_filter.1 there).2
  simp [ne]

theorem contains_namesMatching (s : Store) (name : String) :
    (s.namesMatching (Sandbox.exactly name) true).contains name = s.contains name := by
  rw [Bool.eq_iff_iff, contains_iff, List.contains_iff_mem]
  simp only [namesMatching, nameMatches_exactly, Bool.true_or, Bool.true_and, List.mem_map,
    List.mem_filter, beq_iff_eq]
  constructor
  · rintro ⟨c, ⟨there, -⟩, same⟩
    exact ⟨c, there, same⟩
  · rintro ⟨c, there, same⟩
    exact ⟨c, ⟨there, same⟩, same⟩

theorem namesPublishing_isEmpty (s : Store) (port : Port.Number) :
    (s.namesPublishing port).isEmpty = !s.publishes port := by
  rw [Bool.eq_iff_iff, Bool.not_eq_true', ← Bool.not_eq_true, publishes_iff]
  simp [namesPublishing, List.filter_eq_nil_iff]

/-- Every container of the second store is one of the first, perhaps stopped since. -/
def Fades (s t : Store) : Prop :=
  ∀ c ∈ t.items, ∃ d ∈ s.items, d.name = c.name ∧ d.port = c.port ∧ (c.running = true → d = c)

theorem fades_refl (s : Store) : s.Fades s := fun c there => ⟨c, there, rfl, rfl, fun _ => rfl⟩

theorem Fades.trans {u : Store} (h : s.Fades t) (h' : t.Fades u) : s.Fades u := by
  intro c there
  obtain ⟨d, between, named, published, kept⟩ := h' c there
  obtain ⟨e, before, named', published', kept'⟩ := h d between
  refine ⟨e, before, named'.trans named, published'.trans published, fun running => ?_⟩
  obtain rfl := kept running
  exact kept' running

theorem fades_halt (s : Store) (name : String) : s.Fades (s.halt name) := by
  intro c after
  obtain ⟨d, before, rfl⟩ := List.mem_map.1 after
  refine ⟨d, before, ?_⟩
  split_ifs <;> simp

theorem fades_erase (s : Store) (name : String) : s.Fades (s.erase name) :=
  fun c there => ⟨c, (mem_erase.1 there).1, rfl, rfl, fun _ => rfl⟩

theorem Fades.contains (h : s.Fades t) (present : t.contains name = true) :
    s.contains name = true := by
  obtain ⟨c, after, rfl⟩ := contains_iff.1 present
  obtain ⟨d, before, same, -⟩ := h c after
  exact contains_iff.2 ⟨d, before, same⟩

theorem Fades.absent (h : s.Fades t) (absent : s.contains name = false) :
    t.contains name = false := by
  rw [← Bool.not_eq_true] at absent ⊢
  exact fun present => absent (h.contains present)

theorem Fades.unpublished (h : s.Fades t) (none : s.publishes port = false) :
    t.publishes port = false := by
  rw [← Bool.not_eq_true] at none ⊢
  intro published
  obtain ⟨c, after, running, same⟩ := publishes_iff.1 published
  obtain ⟨d, before, -, -, kept⟩ := h c after
  obtain rfl := kept running
  exact none (publishes_iff.2 ⟨d, before, running, same⟩)

end Store

def Call.About (name : String) : Call → Prop
  | run spec => spec.name = name
  | publishing _ => False
  | matching _ _ => True
  | logs other => other = name
  | stop other _ => other = name
  | kill other => other = name
  | remove other => other = name
  | pruneNetworks => True
  | pruneVolumes => True

def Call.Looks : Call → Prop
  | publishing _ => True
  | matching _ _ => True
  | logs _ => True
  | _ => False

def Call.Removes (name : String) : Call → Prop
  | matching pattern stopped => pattern = Sandbox.exactly name ∧ stopped = true
  | stop other _ => other = name
  | kill other => other = name
  | remove other => other = name
  | _ => False

/-- Calls that launch nothing, and stop, kill or remove no containers but these. -/
def Call.Reaps (P : String → Prop) : Call → Prop
  | run _ => False
  | stop name _ => P name
  | kill name => P name
  | remove name => P name
  | _ => True

def Call.Prunes (c : Call) : Prop := c = .pruneNetworks ∨ c = .pruneVolumes

theorem Call.not_prunes_of_removes {name : String} {c : Call} (h : c.Removes name) :
    ¬ c.Prunes := by
  rintro (rfl | rfl)
  all_goals exact h

theorem Call.about_of_removes {name : String} {c : Call} (h : c.Removes name) : c.About name := by
  cases c
  case matching => trivial
  case stop | kill | remove => exact h
  all_goals exact h.elim

theorem Call.ne_run_of_reaps {P : String → Prop} {c : Call} (h : c.Reaps P) (spec : Spec) :
    c ≠ run spec := by
  rintro rfl
  exact h

theorem Call.reaps_of_removes {P : String → Prop} {name : String} (among : P name) {c : Call}
    (h : c.Removes name) : c.Reaps P := by
  cases c
  case stop | kill | remove =>
    obtain rfl := h
    exact among
  case run => exact h
  all_goals trivial

theorem Call.reaps_mono {P P' : String → Prop} (h : ∀ name, P name → P' name) {c : Call}
    (reaps : c.Reaps P) : c.Reaps P' := by
  cases c
  case stop | kill | remove => exact h _ reaps
  case run => exact reaps
  all_goals trivial

namespace Memory

variable {m m' : Memory} {c : Call} {x : Except Error c.Answer} {fault : Option Error}
  {name : String}

theorem launch_cases {m m' : Memory} {spec : Spec} {x : Except Error Unit}
    (h : m.launch spec = (x, m')) :
    (x = .ok () ∧ m.store.contains spec.name = false ∧ m.store.publishes spec.hostPort = false ∧
      m' = { m with store := m.store.insert ⟨spec.name, spec.hostPort, true⟩ }) ∨
    (x ≠ .ok () ∧ m'.store = m.store) := by
  unfold launch at h
  split_ifs at h with refuse taken published
  all_goals cases h
  · exact .inr ⟨by simp, rfl⟩
  · exact .inr ⟨by simp, rfl⟩
  · exact .inr ⟨by simp, rfl⟩
  · exact .inl ⟨rfl, by simpa using taken, by simpa using published, rfl⟩

def allocated (spec : Spec) : Error :=
  refusal (.run spec) ("port " ++ toString spec.hostPort.toNat ++ " is already allocated")

theorem launch_ne_allocated {spec : Spec} (unpublished : m.store.publishes spec.hostPort = false) :
    (m.launch spec).1 ≠ .error (allocated spec) := by
  -- the refusals begin with different letters
  have worded : ∀ {text : String}, text.toList.head? ≠ some 'p' →
      (.error (refusal (.run spec) text) : Except Error Unit) ≠ .error (allocated spec) := by
    intro text other same
    simp only [allocated, refusal, Except.error.injEq, Error.failed.injEq, true_and] at same
    simp [same, String.toList_append] at other
  unfold launch
  split_ifs with refuse taken published
  · exact worded (by decide)
  · exact worded (by simp [String.toList_append])
  · simp [unpublished] at published
  · simp

theorem serve_some {e : Error} (h : m.serve (some e) c = (x, m')) : x = .error e ∧ m' = m := by
  cases h
  exact ⟨rfl, rfl⟩

theorem serve_run_of_free {spec : Spec} (willing : m.refuseRuns = false)
    (absent : m.store.contains spec.name = false)
    (unpublished : m.store.publishes spec.hostPort = false) :
    ∃ m', m.serve none (.run spec) = (.ok (), m') ∧
      m'.store = m.store.insert ⟨spec.name, spec.hostPort, true⟩ ∧ m'.refuseRuns = false := by
  refine ⟨{ m with
    store := m.store.insert ⟨spec.name, spec.hostPort, true⟩
    served := (Call.run spec).title :: m.served }, ?_, rfl, willing⟩
  show launch { m with served := (Call.run spec).title :: m.served } spec = _
  rw [launch, if_neg (by simp [willing]), if_neg (by simp [absent]), if_neg (by simp [unpublished])]
  rfl

theorem serve_of_sure {MayFail : Prop} (sure : ¬ MayFail) (may : fault.isSome → MayFail)
    (served : m.serve fault c = (x, m')) : m.serve none c = (x, m') := by
  cases fault with
  | some e => exact absurd (may rfl) sure
  | none => exact served

theorem erase_serve (about : c.About name) (served : m.serve fault c = (x, m')) :
    m'.store.erase name = m.store.erase name := by
  cases fault with
  | some e => rw [(serve_some served).2]
  | none =>
    cases c
    case run spec =>
      obtain rfl : spec.name = name := about
      obtain ⟨-, -, -, rfl⟩ | ⟨-, store⟩ := launch_cases served
      · exact Store.erase_insert _ _
      · rw [store]
    case stop other grace =>
      obtain rfl : other = name := about
      simp only [serve, perform] at served
      split_ifs at served <;> cases served
      · rfl
      · exact Store.erase_halt _ _
    case kill other =>
      obtain rfl : other = name := about
      cases served
      exact Store.erase_halt _ _
    case remove other =>
      obtain rfl : other = name := about
      cases served
      exact Store.erase_erase _ _
    all_goals
      cases served
      rfl

theorem store_serve_of_prunes (prunes : c.Prunes) (served : m.serve fault c = (x, m')) :
    m'.store = m.store := by
  cases fault with
  | some e => rw [(serve_some served).2]
  | none =>
    obtain rfl | rfl := prunes
    all_goals
      cases served
      rfl

def pruneCounts (m : Memory) : Nat × Nat := (m.networkPrunes, m.volumePrunes)

theorem pruneCounts_launch (m : Memory) (spec : Spec) :
    (m.launch spec).2.pruneCounts = m.pruneCounts := by
  unfold launch
  split_ifs <;> rfl

theorem pruneCounts_serve (spares : ¬ c.Prunes) (served : m.serve fault c = (x, m')) :
    m'.pruneCounts = m.pruneCounts := by
  cases fault with
  | some e => rw [(serve_some served).2]
  | none =>
    cases c
    case run spec =>
      obtain rfl : _ = m' := congrArg Prod.snd served
      exact pruneCounts_launch _ spec
    case stop name grace =>
      simp only [serve, perform] at served
      split_ifs at served <;> cases served <;> rfl
    case pruneNetworks => exact absurd (.inl rfl) spares
    case pruneVolumes => exact absurd (.inr rfl) spares
    all_goals
      cases served
      rfl

theorem store_serve_of_looks (looks : c.Looks) (served : m.serve fault c = (x, m')) :
    m'.store = m.store := by
  cases fault with
  | some e => rw [(serve_some served).2]
  | none =>
    cases c
    case publishing | matching | logs =>
      cases served
      rfl
    all_goals exact looks.elim

theorem items_serve {P : String → Prop} {d : Container} (reaps : c.Reaps P) (spared : ¬ P d.name)
    (served : m.serve fault c = (x, m')) : d ∈ m'.store.items ↔ d ∈ m.store.items := by
  have apart : ∀ {name}, P name → c.About name → (d ∈ m'.store.items ↔ d ∈ m.store.items) := by
    intro name hit about
    have ne : d.name ≠ name := fun same => spared (same ▸ hit)
    have same := erase_serve about served
    calc d ∈ m'.store.items
        ↔ d ∈ (m'.store.erase name).items := (Store.mem_erase.trans (and_iff_left ne)).symm
      _ ↔ d ∈ (m.store.erase name).items := by rw [same]
      _ ↔ d ∈ m.store.items := Store.mem_erase.trans (and_iff_left ne)
  cases c
  case run => exact reaps.elim
  case stop | kill | remove => exact apart reaps rfl
  case publishing | matching | logs => rw [store_serve_of_looks (by trivial) served]
  case pruneNetworks => rw [store_serve_of_prunes (.inl rfl) served]
  case pruneVolumes => rw [store_serve_of_prunes (.inr rfl) served]

theorem contains_serve (present : m.store.contains name = true) (kept : c ≠ .remove name)
    (served : m.serve fault c = (x, m')) : m'.store.contains name = true := by
  cases fault with
  | some e => rwa [(serve_some served).2]
  | none =>
    cases c
    case run spec =>
      obtain ⟨-, absent, -, rfl⟩ | ⟨-, store⟩ := launch_cases served
      · exact (Store.contains_insert absent).2 (.inr present)
      · rwa [store]
    case stop other grace =>
      simp only [serve, perform] at served
      split_ifs at served <;> cases served
      · exact present
      · exact Store.contains_halt.trans present
    case kill other =>
      cases served
      exact Store.contains_halt.trans present
    case remove other =>
      cases served
      have ne : name ≠ other := fun same => kept (same ▸ rfl)
      exact (Store.contains_erase_of_ne ne).trans present
    all_goals
      cases served
      exact present

/-- Only a launch puts a container into the store or sets one running. -/
theorem fades_serve (h : ∀ spec, c ≠ .run spec) (served : m.serve fault c = (x, m')) :
    m.store.Fades m'.store := by
  cases fault with
  | some e =>
    rw [(serve_some served).2]
    exact Store.fades_refl _
  | none =>
    cases c
    case run spec => exact absurd rfl (h spec)
    case stop name grace =>
      simp only [serve, perform] at served
      split_ifs at served <;> cases served
      · exact Store.fades_refl _
      · exact Store.fades_halt _ _
    case kill name =>
      cases served
      exact Store.fades_halt _ _
    case remove name =>
      cases served
      exact Store.fades_erase _ _
    all_goals
      cases served
      exact Store.fades_refl _

end Memory

end TestRig.Engine
