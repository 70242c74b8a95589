import Mathlib.Tactic
import Mathlib.Logic.Relation
import TestRig.Proofs.PipelineCourse
import TestRig.Proofs.Site

/-!
Any number of pipelines that lease their ports, on one engine and one lock directory, one question
at a time in any order; each may die between two questions, which gives back its locks and leaves
its sandbox behind. `Orderly` ties what every pipeline knows of its port to the locks and the store:
a port known to be unpublished stays so, because whoever launches on it must hold its lock.

Nobody else launches, look-ups of a port do not fail, and a name is launched once at most.
-/

namespace TestRig.Sandbox

open Host (Routine)
open Engine (Call)
open Port (lockKey)

/-- Pipelines with what is left of each, nothing for one that has died, and who launched what. -/
structure Fleet (ι : Type) where
  site : Site ι
  rest : ι → Option (Routine Int)
  launched : List (ι × Engine.Spec)

namespace Fleet

variable {ι : Type}

def opening (p : ι → Pipeline) (i : ι → Invocation) (memory : Engine.Memory) (files : Files) :
    Fleet ι where
  site := ⟨memory, ⟨⟨files, []⟩, fun _ => []⟩⟩
  rest j := some ((p j).run (i j))
  launched := []

def record (j : ι) (launched : List (ι × Engine.Spec)) :
    (q : Host.Ask) → q.Answer → List (ι × Engine.Spec)
  | .engine (.run spec), x => match x with
    | .ok _ => (j, spec) :: launched
    | .error _ => launched
  | _, _ => launched

theorem record_of_ne {j : ι} {launched : List (ι × Engine.Spec)} {q : Host.Ask} {x : q.Answer}
    (h : ∀ spec, q ≠ .engine (.run spec)) : record j launched q x = launched := by
  cases q
  case engine c =>
    cases c
    case run spec => exact absurd rfl (h spec)
    all_goals rfl
  all_goals rfl

/-- The pipelines lease their ports and look them up in the engine, which answers such look-ups. -/
structure Leasing (p : ι → Pipeline) (mayFail : Call → Prop) : Prop where
  channel : ∀ j, (p j).channel = none
  engine : ∀ j, (p j).allocator.registry = .engine
  lookUps : ∀ port, ¬ mayFail (.publishing port)

/-- One pipeline has one question answered, or dies. A launch is under a name not launched yet. -/
inductive Step [DecidableEq ι] (p : ι → Pipeline) (mayFail : Call → Prop) (dir : String)
    (s : Fleet ι) : Fleet ι → Prop
  | ask {j : ι} {q : Host.Ask} {next : q.Answer → Routine Int} {x : q.Answer} {site : Site ι}
      (left : s.rest j = some (.ask q next))
      (answered : (Site.world mayFail dir (fun j => (p j).allocator.pid) j).Answers q s.site x site)
      (new : ∀ spec, q = .engine (.run spec) → ∀ entry ∈ s.launched, entry.2.name ≠ spec.name) :
      Step p mayFail dir s ⟨site, Function.update s.rest j (some (next x)), record j s.launched q x⟩
  | die (j : ι) : Step p mayFail dir s
      ⟨{ s.site with guards := s.site.guards.quit j }, Function.update s.rest j none, s.launched⟩

/-- The store is as the pipelines think; what was launched is as it was launched, and alone on its
port while it runs. -/
structure Stocked (strict : Prop) (s : Fleet ι) (st : ι → Standing) : Prop where
  clear : ∀ {j port}, st j = .clear port → s.site.memory.store.publishes port = false
  serving : strict → ∀ {j spec}, (j, spec) ∈ s.launched → s.rest j ≠ none →
    s.site.memory.store.contains spec.name = true → st j = .serving spec.hostPort spec.name
  ports : ∀ {j spec}, (j, spec) ∈ s.launched → ∀ c ∈ s.site.memory.store.items,
    c.name = spec.name → c.port = spec.hostPort
  single : ∀ {j spec}, (j, spec) ∈ s.launched → ∀ c ∈ s.site.memory.store.items,
    ∀ d ∈ s.site.memory.store.items, c.name = spec.name → c.running = true → d.running = true →
    c.port = d.port → c = d

/-- Every pipeline stands where it thinks, and goes on as its standing allows. -/
structure Orderly (strict : Prop) (dir : String) (s : Fleet ι) (st : ι → Standing) : Prop
    extends Stocked strict s st where
  sole : s.site.guards.Sole dir
  keys : ∀ j, (s.site.guards.own j).map Prod.fst = (st j).key?.toList
  course : ∀ {j rest}, s.rest j = some rest →
    (Standing.course strict).Keeps (fun _ => True) rest (fun _ st => st = .free) (st j)

variable {p : ι → Pipeline} {i : ι → Invocation} {mayFail : Call → Prop} {dir : String}
  {strict : Prop} {memory : Engine.Memory} {files : Files} {s t : Fleet ι} {st : ι → Standing}

theorem orderly_opening (leasing : Leasing p mayFail) :
    Orderly strict dir (opening p i memory files) fun _ => .free where
  sole := Guards.sole_free files
  keys _ := rfl
  course := by
    rintro j _ ⟨⟩
    exact (p j).keeps_course (i j) (leasing.channel j) (leasing.engine j)
  clear := nofun
  serving := by
    intro _ j spec there
    cases there
  ports := by
    intro j spec there
    cases there
  single := by
    intro j spec there
    cases there

theorem Orderly.eq_of_key (h : Orderly strict dir s st) {j k : ι} {key : String}
    (hj : (st j).key? = some key) (hk : (st k).key? = some key) : j = k := by
  have mine : ∀ {j}, (st j).key? = some key → ∃ place, (key, place) ∈ s.site.guards.own j := by
    intro j hj
    have keys := h.keys j
    rw [hj] at keys
    have listed : key ∈ (s.site.guards.own j).map Prod.fst := by simp [keys]
    obtain ⟨⟨_, place⟩, there, same⟩ := List.mem_map.1 listed
    exact ⟨place, same ▸ there⟩
  obtain ⟨_, there⟩ := mine hj
  obtain ⟨_, there'⟩ := mine hk
  exact h.sole.eq_of_key there there'

variable [DecidableEq ι]

theorem keys_after {pid : ι → UInt32} {j : ι} {g g' : Guards ι} {q : Host.Ask} {x : q.Answer}
    {st : Standing} (keys : (g.own j).map Prod.fst = st.key?.toList)
    (allowed : (Standing.course strict).Allows q st)
    (answered : (Guards.world dir pid j).Answers q g x g') :
    (g'.own j).map Prod.fst = (st.after q x).key?.toList := by
  cases q
  case lock key =>
    obtain rfl : st = .free := allowed
    have none : g.own j = [] := List.map_eq_nil_iff.1 keys
    obtain locked | ⟨⟨e, rfl⟩, rfl⟩ := answered
    · obtain ⟨-, ⟨place, rfl, -, -, -, own⟩ | ⟨refused, -, own⟩⟩ := Guards.lock_cases locked
      · rw [own, Function.update_self, none]
        rfl
      · rw [own, none]
        match x with
        | .error e => rfl
        | .ok false => rfl
        | .ok true => exact absurd rfl refused
    · exact keys
  case unlock key =>
    obtain rfl : g' = g.unlock j key := answered
    rw [allowed.1] at keys
    obtain ⟨⟨_, place⟩, own, rfl⟩ := List.map_eq_singleton_iff.1 keys
    rw [Guards.own_unlock_self g j own]
    rfl
  case engine c =>
    obtain rfl : g' = g := answered
    rw [keys]
    exact congrArg Option.toList (Standing.key?_afterCall allowed x).symm
  all_goals
    obtain rfl : g' = g := answered
    exact keys

/-- Look-ups by name and removals do not fail. -/
structure Sure (mayFail : Call → Prop) : Prop where
  matching : ∀ pattern stopped, ¬ mayFail (.matching pattern stopped)
  remove : ∀ name, ¬ mayFail (.remove name)

section Answers

variable {pid : ι → UInt32} {j : ι} {site site' : Site ι} {q : Host.Ask} {x : q.Answer}

theorem lawful_of_answers (lookUps : ∀ port, ¬ mayFail (.publishing port))
    (answered : (Site.world mayFail dir pid j).Answers q site x site') :
    Standing.Lawful (Sure mayFail) q x := by
  cases q
  case engine c =>
    obtain ⟨-, fault, may, served⟩ := answered
    cases c
    case publishing port =>
      rintro e rfl
      have same := Engine.Memory.serve_of_sure (lookUps port) may served
      cases same
    case matching pattern stopped =>
      rintro sure e rfl
      have same := Engine.Memory.serve_of_sure (sure.matching pattern stopped) may served
      cases same
    case remove name =>
      rintro sure e rfl
      have same := Engine.Memory.serve_of_sure (sure.remove name) may served
      cases same
    all_goals trivial
  all_goals trivial

theorem unpublished_of_clears {port : Port.Number} (clears : Standing.Clears port q x)
    (answered : (Site.world mayFail dir pid j).Answers q site x site') :
    site'.memory.store.publishes port = false := by
  cases q
  case engine c =>
    cases c
    case publishing other =>
      obtain ⟨rfl, rfl⟩ := clears
      obtain ⟨-, fault, -, served⟩ := answered
      cases fault with
      | some e => cases served
      | none =>
        obtain ⟨listed, memory⟩ := Prod.mk.inj served
        have empty : site.memory.store.namesPublishing other = [] := Except.ok.inj listed
        have none := Engine.Store.namesPublishing_isEmpty site.memory.store other
        rw [empty, List.isEmpty_nil] at none
        rw [← memory]
        simpa using none.symm
    all_goals exact clears.elim
  all_goals exact clears.elim

theorem absent_of_dismisses {name : String} (dismisses : Standing.Dismisses name q x)
    (answered : (Site.world mayFail dir pid j).Answers q site x site') :
    site'.memory.store.contains name = false := by
  cases q
  case engine c =>
    obtain ⟨-, fault, -, served⟩ := answered
    cases c
    case matching pattern stopped =>
      obtain ⟨rfl, rfl, names, rfl, absent⟩ := dismisses
      cases fault with
      | some e => cases served
      | none =>
        obtain ⟨listed, memory⟩ := Prod.mk.inj served
        obtain rfl : site.memory.store.namesMatching (exactly name) true = names :=
          Except.ok.inj listed
        rw [Engine.Store.contains_namesMatching] at absent
        rw [← memory]
        exact absent
    case remove other =>
      obtain ⟨rfl, rfl⟩ := dismisses
      cases fault with
      | some e => cases served
      | none =>
        obtain ⟨-, memory⟩ := Prod.mk.inj served
        rw [← memory]
        exact Engine.Store.contains_erase_self
    all_goals exact dismisses.elim
  all_goals exact dismisses.elim

theorem launch_or_fades (standing : Standing) (launched : List (ι × Engine.Spec))
    (answered : (Site.world mayFail dir pid j).Answers q site x site') :
    (∃ spec, q = .engine (.run spec) ∧ record j launched q x = (j, spec) :: launched ∧
      standing.after q x = .serving spec.hostPort spec.name ∧
      site.memory.store.contains spec.name = false ∧
      site.memory.store.publishes spec.hostPort = false ∧
      site'.memory.store = site.memory.store.insert ⟨spec.name, spec.hostPort, true⟩) ∨
    (record j launched q x = launched ∧ site.memory.store.Fades site'.memory.store) := by
  have still : site'.memory = site.memory → site.memory.store.Fades site'.memory.store := by
    intro same
    rw [same]
    exact Engine.Store.fades_refl _
  cases q
  case engine c =>
    obtain ⟨-, fault, -, served⟩ := answered
    cases c
    case run spec =>
      cases fault with
      | some e =>
        obtain ⟨rfl, memory⟩ := Engine.Memory.serve_some served
        exact .inr ⟨rfl, still memory⟩
      | none =>
        obtain ⟨rfl, absent, unpublished, launched⟩ | ⟨refused, store⟩ :=
          Engine.Memory.launch_cases served
        · exact .inl ⟨spec, rfl, rfl, rfl, absent, unpublished, by rw [launched]⟩
        · refine .inr ⟨?_, ?_⟩
          · cases x with
            | error e => rfl
            | ok _ => exact absurd rfl refused
          · rw [store]
            exact Engine.Store.fades_refl _
    all_goals exact .inr ⟨rfl, Engine.Memory.fades_serve (fun _ => by simp) served⟩
  all_goals exact .inr ⟨rfl, still answered.1⟩

end Answers

section Ask

variable {j : ι} {q : Host.Ask} {next : q.Answer → Routine Int} {x : q.Answer} {site : Site ι}

theorem Orderly.fade {pid : ι → UInt32} (h : Orderly (Sure mayFail) dir s st)
    (left : s.rest j = some (.ask q next))
    (answered : (Site.world mayFail dir pid j).Answers q s.site x site)
    (fades : s.site.memory.store.Fades site.memory.store) :
    Stocked (Sure mayFail) ⟨site, Function.update s.rest j (some (next x)), s.launched⟩
      (Function.update st j ((st j).after q x)) where
  clear := by
    intro k port stands
    by_cases e : k = j
    · subst e
      rw [Function.update_self] at stands
      obtain stood | clears := Standing.clear_of_after (h.course left).1 stands
      · exact fades.unpublished (h.clear stood)
      · exact unpublished_of_clears clears answered
    · rw [Function.update_of_ne e] at stands
      exact fades.unpublished (h.clear stands)
  serving := by
    intro sure k spec there alive present
    have before := fades.contains present
    by_cases e : k = j
    · subst e
      have stood := h.serving sure there (by simp [left]) before
      have allowed := (h.course left).1
      rw [Function.update_self, stood]
      rw [stood] at allowed
      obtain stays | dismisses := Standing.after_of_serving (x := x) sure allowed
      · exact stays
      · simp [absent_of_dismisses dismisses answered] at present
    · simp only [Function.update_of_ne e] at alive ⊢
      exact h.serving sure there alive before
  ports := by
    intro k spec there c after named
    obtain ⟨d, before, name, port, -⟩ := fades c after
    rw [← port]
    exact h.ports there d before (name.trans named)
  single := by
    intro k spec there c hc d hd named up up' same
    obtain ⟨c', hc', -, -, keptC⟩ := fades c hc
    obtain ⟨d', hd', -, -, keptD⟩ := fades d hd
    obtain rfl := keptC up
    obtain rfl := keptD up'
    exact h.single there c' hc' d' hd' named up up' same

theorem Orderly.launch {spec : Engine.Spec} {rest : ι → Option (Routine Int)}
    (h : Orderly (Sure mayFail) dir s st) (alive : s.rest j ≠ none)
    (others : ∀ k, k ≠ j → rest k = s.rest k) (stood : st j = .clear spec.hostPort)
    (absent : s.site.memory.store.contains spec.name = false)
    (unpublished : s.site.memory.store.publishes spec.hostPort = false)
    (store : site.memory.store = s.site.memory.store.insert ⟨spec.name, spec.hostPort, true⟩)
    (new : ∀ entry ∈ s.launched, entry.2.name ≠ spec.name) :
    Stocked (Sure mayFail) ⟨site, rest, (j, spec) :: s.launched⟩
      (Function.update st j (.serving spec.hostPort spec.name)) where
  clear := by
    intro k port stands
    have e : k ≠ j := by
      rintro rfl
      rw [Function.update_self] at stands
      cases stands
    rw [Function.update_of_ne e] at stands
    rw [store]
    -- a port that two pipelines know to be clear would be locked by both
    refine Engine.Store.unpublished_insert absent (h.clear stands) fun same => e ?_
    obtain rfl : spec.hostPort = port := same
    exact h.eq_of_key (by rw [stands]; rfl) (by rw [stood]; rfl)
  serving := by
    intro sure k other noted alive' present
    rw [store, Engine.Store.contains_insert absent] at present
    obtain same | there := List.mem_cons.1 noted
    · cases same
      rw [Function.update_self]
    · have before := present.resolve_left fun same => new _ there same.symm
      by_cases e : k = j
      · subst e
        have serving := h.serving sure there alive before
        rw [stood] at serving
        cases serving
      · simp only [others k e] at alive'
        rw [Function.update_of_ne e]
        exact h.serving sure there alive' before
  ports := by
    intro k other noted c held named
    rw [store, Engine.Store.mem_insert absent] at held
    obtain same | there := List.mem_cons.1 noted
    · cases same
      obtain rfl | held := held
      · rfl
      · exact absurd named (Engine.Store.name_ne absent held)
    · obtain rfl | held := held
      · exact absurd named.symm (new _ there)
      · exact h.ports there c held named
  single := by
    intro k other noted c hc d hd named up up' same
    rw [store, Engine.Store.mem_insert absent] at hc hd
    obtain rfl | hc := hc <;> obtain rfl | hd := hd
    · rfl
    · exact absurd same.symm (Engine.Store.port_ne unpublished hd up')
    · exact absurd same (Engine.Store.port_ne unpublished hc up)
    · obtain e | there := List.mem_cons.1 noted
      · cases e
        exact absurd named (Engine.Store.name_ne absent hc)
      · exact h.single there c hc d hd named up up' same

theorem Orderly.ask (leasing : Leasing p mayFail) (h : Orderly (Sure mayFail) dir s st)
    (left : s.rest j = some (.ask q next))
    (answered : (Site.world mayFail dir (fun j => (p j).allocator.pid) j).Answers q s.site x site)
    (new : ∀ spec, q = .engine (.run spec) → ∀ entry ∈ s.launched, entry.2.name ≠ spec.name) :
    Orderly (Sure mayFail) dir
      ⟨site, Function.update s.rest j (some (next x)), record j s.launched q x⟩
      (Function.update st j ((st j).after q x)) where
  toStocked := by
    obtain ⟨spec, rfl, recorded, serves, absent, unpublished, store⟩ | ⟨recorded, fades⟩ :=
      launch_or_fades (st j) s.launched answered
    · rw [recorded, serves]
      exact h.launch (by simp [left]) (fun k e => Function.update_of_ne e _ _) (h.course left).1
        absent unpublished store (new spec rfl)
    · rw [recorded]
      exact h.fade left answered fades
  sole := h.sole.world (Site.guards_world answered)
  keys := by
    intro k
    have guarded := Site.guards_world answered
    by_cases e : k = j
    · subst e
      rw [Function.update_self]
      exact keys_after (h.keys k) (h.course left).1 guarded
    · rw [Function.update_of_ne e, Guards.own_world_of_ne e guarded]
      exact h.keys k
  course := by
    intro k rest there
    by_cases e : k = j
    · subst e
      simp only [Function.update_self] at there ⊢
      cases there
      have lawful := lawful_of_answers leasing.lookUps answered
      exact ((h.course left).2 x _ ⟨lawful, rfl⟩).2
    · simp only [Function.update_of_ne e] at there ⊢
      exact h.course there

end Ask

theorem Orderly.die (h : Orderly strict dir s st) (j : ι) : Orderly strict dir
    ⟨{ s.site with guards := s.site.guards.quit j }, Function.update s.rest j none, s.launched⟩
    (Function.update st j .free) where
  clear := by
    intro k port stands
    by_cases e : k = j
    · subst e
      rw [Function.update_self] at stands
      cases stands
    · rw [Function.update_of_ne e] at stands
      exact h.clear stands
  serving := by
    intro sure k spec there alive present
    by_cases e : k = j
    · subst e
      exact absurd (Function.update_self ..) alive
    · simp only [Function.update_of_ne e] at alive ⊢
      exact h.serving sure there alive present
  ports := h.ports
  single := h.single
  sole := h.sole.quit j
  keys := by
    intro k
    by_cases e : k = j
    · subst e
      simp [Guards.quit, Standing.key?]
    · simp only [Guards.quit, Function.update_of_ne e]
      exact h.keys k
  course := by
    intro k rest there
    by_cases e : k = j
    · subst e
      simp at there
    · simp only [Function.update_of_ne e] at there ⊢
      exact h.course there

theorem orderly_of_steps (leasing : Leasing p mayFail)
    (path : Relation.ReflTransGen (Step p mayFail dir) (opening p i memory files) s) :
    ∃ st, Orderly (Sure mayFail) dir s st := by
  induction path with
  | refl => exact ⟨_, orderly_opening leasing⟩
  | tail _ step ih =>
    obtain ⟨st, orderly⟩ := ih
    cases step with
    | ask left answered new => exact ⟨_, orderly.ask leasing left answered new⟩
    | die j => exact ⟨_, orderly.die j⟩

/-- At every moment of every interleaving: whoever is about to launch finds the port unpublished and
is not refused for it; a running container that a pipeline launched is the only one running on its
port; and where look-ups by name and removals do not fail, a pipeline that has not died holds the
lock of the port of its container for as long as that exists. -/
theorem ports_exclusive (leasing : Leasing p mayFail)
    (path : Relation.ReflTransGen (Step p mayFail dir) (opening p i memory files) s) :
    (∀ j spec next, s.rest j = some (.ask (.engine (.run spec)) next) →
      s.site.memory.store.publishes spec.hostPort = false ∧
      (s.site.memory.serve none (.run spec)).1 ≠ .error (Engine.Memory.allocated spec)) ∧
    (∀ j spec, (j, spec) ∈ s.launched → ∀ c ∈ s.site.memory.store.items,
      ∀ d ∈ s.site.memory.store.items, c.name = spec.name → c.running = true → d.running = true →
      c.port = d.port → c = d) ∧
    (Sure mayFail → ∀ j spec, (j, spec) ∈ s.launched → s.rest j ≠ none →
      ∀ c ∈ s.site.memory.store.items, c.name = spec.name → c.port = spec.hostPort ∧
      ∃ place ∈ s.site.guards.locks.held, (lockKey c.port, place) ∈ s.site.guards.own j) := by
  obtain ⟨st, orderly⟩ := orderly_of_steps leasing path
  refine ⟨fun j spec next left => ?_, fun j spec there => orderly.single there,
    fun sure j spec there alive c held named => ?_⟩
  · have unpublished := orderly.clear (orderly.course left).1
    exact ⟨unpublished, Engine.Memory.launch_ne_allocated unpublished⟩
  have port := orderly.ports there c held named
  have present := Engine.Store.contains_iff.2 ⟨c, held, named⟩
  have serving := orderly.serving sure there alive present
  have keys := orderly.keys j
  rw [serving] at keys
  obtain ⟨⟨_, place⟩, own, rfl⟩ := List.map_eq_singleton_iff.1 keys
  have mine : (lockKey spec.hostPort, place) ∈ s.site.guards.own j := by
    rw [own]
    exact List.mem_singleton_self _
  rw [port]
  exact ⟨rfl, place, (orderly.sole.held_iff place).2 ⟨j, _, mine⟩, mine⟩

theorem steps_of_steps {j : ι} {r r' : Routine Int} {site : Site ι}
    {trace : List (Event Host.interface)} (left : s.rest j = some r)
    (path : (Site.world mayFail dir (fun j => (p j).allocator.pid) j).Steps r s.site trace r' site)
    (quiet : ∀ e ∈ trace, ∀ spec, e.question ≠ .engine (.run spec)) :
    Relation.ReflTransGen (Step p mayFail dir) s
      ⟨site, Function.update s.rest j (some r'), s.launched⟩ := by
  generalize start : s.site = site₀ at path
  induction path generalizing s with
  | refl =>
    subst start
    rw [← left, Function.update_eq_self]
  | @ask q next _ site' _ x _ _ answered _ ih =>
    subst start
    obtain ⟨unlaunched, quiet⟩ := List.forall_mem_cons.1 quiet
    have recorded : record j s.launched q x = s.launched := record_of_ne unlaunched
    have step := Step.ask (p := p) left answered fun spec e => absurd e (unlaunched spec)
    rw [recorded] at step
    have after := ih (s := ⟨site', Function.update s.rest j (some (next x)), s.launched⟩)
      (Function.update_self ..) quiet rfl
    rw [Function.update_idem] at after
    exact .head step after

def twoPorts : Pipeline :=
  { Pipeline.onePort with allocator := { range := ⟨8085, 2, 1⟩, registry := .engine, pid := 7 } }

theorem leasing_twoPorts : Leasing (fun _ : Bool => twoPorts) fun _ => False :=
  ⟨fun _ => rfl, fun _ => rfl, fun _ => id⟩

def leased : Except Port.LeaseError Port.Lease → Routine Int
  | .error _ => pure Host.failureExit
  | .ok lease => twoPorts.runOn Pipeline.smoke lease.port >>= fun code =>
    lease.release >>= fun _ => pure code

def wanting (left : Nat) (port : Port.Number) : Routine Int :=
  Host.lock (lockKey port) >>= fun x => twoPorts.allocator.afterLock left port x >>= leased

def locked (left : Nat) (port : Port.Number) : Routine Int :=
  twoPorts.allocator.afterLock left port (.ok true) >>= leased

def spec (port : Port.Number) (random : Nat) : Engine.Spec :=
  twoPorts.settings.spec port (Name.text ⟨port, 7, 0, .ofNat (1000 + random)⟩)

structure At (site : Site Bool) (store : Engine.Store) (g : Guards Bool) : Prop where
  store : site.memory.store = store
  guards : site.guards = g
  willing : site.memory.refuseRuns = false

def Goes (i : Bool) (r : Routine Int) (site : Site Bool) (r' : Routine Int) (site' : Site Bool) :
    Prop :=
  ∃ t, (Site.world (fun _ => False) "locks" (fun _ => 7) i).Steps r site t r' site' ∧
    ∀ e ∈ t, ∀ spec, e.question ≠ .engine (.run spec)

section Parties

variable (i : Bool) (left : Nat) {port : Port.Number} {store : Engine.Store} {g g' : Guards Bool}
  {site : Site Bool}

theorem answers_publishing (here : At site store g) (free : store.publishes port = false) :
    ∃ site', (Site.world (fun _ => False) "locks" (fun _ => 7) i).Answers
      (.engine (.publishing port)) site (.ok []) site' ∧ At site' store g := by
  have unlisted := Engine.Store.namesPublishing_isEmpty site.memory.store port
  rw [here.store, free, Bool.not_false, List.isEmpty_iff, ← here.store] at unlisted
  exact ⟨⟨(site.memory.serve none (.publishing port)).2, site.guards⟩,
    ⟨rfl, none, nofun, Prod.ext (congrArg Except.ok unlisted) rfl⟩,
    here.store, here.guards, here.willing⟩

theorem goes_search (here : At site store g) (free : store.publishes port = false) :
    ∃ site', Goes i (twoPorts.allocator.search (left + 1) port >>= leased) site
      (wanting left port) site' ∧ At site' store g := by
  obtain ⟨site', looked, here'⟩ := answers_publishing i here free
  refine ⟨site', ⟨[⟨.bindable port, true⟩, ⟨.engine (.publishing port), .ok []⟩], ?_, by simp⟩,
    here'⟩
  rw [Port.Allocator.search_succ]
  exact .ask ⟨rfl, rfl⟩ (.ask looked (.refl _ _))

theorem goes_opening (here : At site store g) (free : store.publishes 8085 = false) :
    ∃ site', Goes i (twoPorts.run Pipeline.smoke) site (wanting 199 8085) site' ∧
      At site' store g := by
  obtain ⟨site', ⟨t, path, quiet⟩, here'⟩ := goes_search i 199 here free
  exact ⟨site', ⟨⟨.clock, (0 : Nat)⟩ :: ⟨.draw 1, (0 : Nat)⟩ :: t,
    .ask ⟨rfl, rfl⟩ (.ask ⟨rfl, rfl⟩ path), by simpa using quiet⟩, here'⟩

theorem goes_granted (here : At site store g)
    (granted : g.lock "locks" 7 i (lockKey port) = (.ok true, g')) :
    ∃ site', Goes i (wanting left port) site (locked left port) site' ∧ At site' store g' := by
  have answered : (Site.world (fun _ => False) "locks" (fun _ => 7) i).Answers
      (.lock (lockKey port)) site (.ok true) ⟨site.memory, g'⟩ :=
    ⟨rfl, .inl (by rw [here.guards]; exact granted)⟩
  exact ⟨_, ⟨_, .ask answered (.refl _ _), by simp⟩, here.store, rfl, here.willing⟩

theorem goes_refused (here : At site store g) (free : store.publishes 8086 = false)
    (refused : g.lock "locks" 7 i (lockKey 8085) = (.ok false, g')) :
    ∃ site', Goes i (wanting 199 8085) site (wanting 198 8086) site' ∧ At site' store g' := by
  have answered : (Site.world (fun _ => False) "locks" (fun _ => 7) i).Answers
      (.lock (lockKey 8085)) site (.ok false) ⟨site.memory, g'⟩ :=
    ⟨rfl, .inl (by rw [here.guards]; exact refused)⟩
  have there : At ⟨site.memory, g'⟩ store g' := ⟨here.store, rfl, here.willing⟩
  obtain ⟨site', ⟨t, path, quiet⟩, here'⟩ := goes_search i 198 there free
  have drawn : (Site.world (fun _ => False) "locks" (fun _ => 7) i).Answers (.draw 1)
      ⟨site.memory, g'⟩ (0 : Nat) ⟨site.memory, g'⟩ := ⟨rfl, rfl⟩
  exact ⟨site', ⟨_, .ask answered (.ask drawn path), by simpa using quiet⟩, here'⟩

theorem goes_locked (here : At site store g) (free : store.publishes port = false) (random : Nat) :
    ∃ site', ∃ next : Except Engine.Error Unit → Routine Int,
      Goes i (locked left port) site (.ask (.engine (.run (spec port random))) next) site' ∧
      At site' store g := by
  obtain ⟨site', looked, here'⟩ := answers_publishing i here free
  refine ⟨site', ?_⟩
  apply Exists.intro
  refine ⟨⟨[⟨.engine (.publishing port), .ok []⟩, ⟨.clock, (0 : Nat)⟩, ⟨.clock, (0 : Nat)⟩,
    ⟨.draw 9000, random⟩, ⟨.interrupted, false⟩], ?_, by simp⟩, here'⟩
  exact .ask looked (.ask ⟨rfl, rfl⟩ (.ask ⟨rfl, rfl⟩ (.ask ⟨rfl, rfl⟩
    (.ask ⟨rfl, rfl⟩ (.refl _ _)))))

end Parties

section Fleets

variable {s : Fleet Bool} {j : Bool} {left : Nat} {port : Port.Number} {store : Engine.Store}
  {g : Guards Bool}

theorem steps_of_goes {r r' : Routine Int} {site : Site Bool} (there : s.rest j = some r)
    (goes : Goes j r s.site r' site) :
    Relation.ReflTransGen (Step (fun _ => twoPorts) (fun _ => False) "locks") s
      ⟨site, Function.update s.rest j (some r'), s.launched⟩ := by
  obtain ⟨t, path, quiet⟩ := goes
  exact steps_of_steps (p := fun _ => twoPorts) there path quiet

theorem steps_launched (here : At s.site store g) (there : s.rest j = some (locked left port))
    (free : store.publishes port = false) (random : Nat)
    (absent : store.contains (spec port random).name = false)
    (new : ∀ entry ∈ s.launched, entry.2.name ≠ (spec port random).name) :
    ∃ t : Fleet Bool, Relation.ReflTransGen
        (Step (fun _ => twoPorts) (fun _ => False) "locks") s t ∧
      At t.site (store.insert ⟨(spec port random).name, port, true⟩) g ∧
      (∃ rest, t.rest = Function.update s.rest j (some rest)) ∧
      t.launched = (j, spec port random) :: s.launched := by
  obtain ⟨site, next, goes, here'⟩ := goes_locked j left here free random
  rw [← here'.store] at free absent
  obtain ⟨memory, served, inserted, willing⟩ :=
    Engine.Memory.serve_run_of_free here'.willing absent free
  have answered : (Site.world (fun _ => False) "locks" (fun _ : Bool => 7) j).Answers
      (.engine (.run (spec port random))) site (.ok ()) ⟨memory, site.guards⟩ :=
    ⟨rfl, none, nofun, served⟩
  have unused : ∀ other, Host.Ask.engine (.run (spec port random)) = .engine (.run other) →
      ∀ entry ∈ s.launched, entry.2.name ≠ other.name := by
    rintro _ ⟨⟩
    exact new
  refine ⟨_, (steps_of_goes there goes).tail (.ask (Function.update_self ..) answered unused),
    ⟨?_, here'.guards, willing⟩, ⟨_, Function.update_idem ..⟩, rfl⟩
  rw [inserted, here'.store]
  rfl

theorem steps_facing (granted : Guards.lock ⟨⟨{}, []⟩, fun _ => []⟩ "locks" 7 true (lockKey 8085) =
    (.ok true, g)) : ∃ s : Fleet Bool,
      Relation.ReflTransGen (Step (fun _ => twoPorts) (fun _ => False) "locks")
        (opening (fun _ => twoPorts) (fun _ => Pipeline.smoke) {} {}) s ∧
      At s.site .empty g ∧ s.rest true = some (locked 199 8085) ∧
      s.rest false = some (wanting 199 8085) ∧ s.launched = [] := by
  have start : At (⟨{}, ⟨⟨{}, []⟩, fun _ => []⟩⟩ : Site Bool) .empty ⟨⟨{}, []⟩, fun _ => []⟩ :=
    ⟨rfl, rfl, rfl⟩
  obtain ⟨site₁, opens, here₁⟩ := goes_opening true start rfl
  obtain ⟨site₂, locks, here₂⟩ := goes_granted true 199 here₁ granted
  obtain ⟨site₃, follows, here₃⟩ := goes_opening false here₂ rfl
  have first := steps_of_goes (s := opening (fun _ => twoPorts) (fun _ => Pipeline.smoke) {} {})
    rfl opens
  have second := first.trans (steps_of_goes (Function.update_self ..) locks)
  exact ⟨_, second.trans (steps_of_goes rfl follows), here₃, rfl, rfl, rfl⟩

theorem steps_turned {g' g'' : Guards Bool} (here : At s.site .empty g)
    (yours : s.rest false = some (wanting 199 8085))
    (refused : g.lock "locks" 7 false (lockKey 8085) = (.ok false, g'))
    (granted : g'.lock "locks" 7 false (lockKey 8086) = (.ok true, g'')) :
    ∃ t : Fleet Bool,
      Relation.ReflTransGen (Step (fun _ => twoPorts) (fun _ => False) "locks") s t ∧
      At t.site .empty g'' ∧ t.rest = Function.update s.rest false (some (locked 198 8086)) ∧
      t.launched = s.launched := by
  obtain ⟨site₁, turns, here₁⟩ := goes_refused false here rfl refused
  obtain ⟨site₂, locks, here₂⟩ := goes_granted false 198 here₁ granted
  exact ⟨_, (steps_of_goes yours turns).trans (steps_of_goes (Function.update_self ..) locks),
    here₂, Function.update_idem .., rfl⟩

end Fleets

/-- The run that is refused the lock launches its sandbox first, on the next port. -/
theorem ports_exclusive_twoPorts : ∃ s t : Fleet Bool,
    Relation.ReflTransGen (Step (fun _ => twoPorts) (fun _ => False) "locks")
      (opening (fun _ => twoPorts) (fun _ => Pipeline.smoke) {} {}) s ∧
    s.rest false = some (wanting 199 8085) ∧
    (s.site.guards.lock "locks" 7 false (lockKey 8085)).1 = .ok false ∧
    Relation.ReflTransGen (Step (fun _ => twoPorts) (fun _ => False) "locks") s t ∧
    (∃ c ∈ t.site.memory.store.items, c.running = true ∧ c.port = 8085 ∧
      ∃ place ∈ t.site.guards.locks.held, (lockKey c.port, place) ∈ t.site.guards.own true) ∧
    ∃ c ∈ t.site.memory.store.items, c.running = true ∧ c.port = 8086 ∧
      ∃ place ∈ t.site.guards.locks.held, (lockKey c.port, place) ∈ t.site.guards.own false := by
  obtain ⟨g₁, g₂, g₃, first, refused, granted⟩ := Guards.lock_contended
  obtain ⟨s, facing, here, mine, yours, launched⟩ := steps_facing first
  obtain ⟨u, turned, here₁, left₁, launched₁⟩ := steps_turned here yours refused granted
  obtain ⟨v, launches, here₂, ⟨_, left₂⟩, launched₂⟩ := steps_launched here₁
    (by rw [left₁, Function.update_self]) rfl 1 rfl (by simp [launched₁, launched])
  have waits : v.rest true = some (locked 199 8085) := by simp [left₂, left₁, mine]
  have absent : (Engine.Store.insert .empty ⟨(spec 8086 1).name, 8086, true⟩).contains
      (spec 8085 0).name = false := by decide +kernel
  have other : (spec 8086 1).name ≠ (spec 8085 0).name := by decide +kernel
  obtain ⟨t, follows, here₃, ⟨_, left₃⟩, launched₃⟩ := steps_launched here₂ waits rfl 0 absent
    (by simpa [launched₂, launched₁, launched] using other)
  have path := (turned.trans launches).trans follows
  have held := (ports_exclusive leasing_twoPorts (facing.trans path)).2.2
    ⟨fun _ _ => id, fun _ => id⟩
  have one : ⟨(spec 8085 0).name, 8085, true⟩ ∈ t.site.memory.store.items := by
    rw [here₃.store, Engine.Store.mem_insert absent]
    exact .inl rfl
  have two : ⟨(spec 8086 1).name, 8086, true⟩ ∈ t.site.memory.store.items := by
    rw [here₃.store, Engine.Store.mem_insert absent]
    exact .inr (List.mem_singleton_self _)
  refine ⟨s, t, facing, yours, by rw [here.guards, refused], path,
    ⟨_, one, rfl, rfl, ?_⟩, ⟨_, two, rfl, rfl, ?_⟩⟩
  · exact (held true (spec 8085 0) (by simp [launched₃]) (by simp [left₃]) _ one rfl).2
  · exact (held false (spec 8086 1) (by simp [launched₃, launched₂]) (by simp [left₃, left₂]) _
      two rfl).2

end Fleet

end TestRig.Sandbox
