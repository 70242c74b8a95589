import Mathlib.Tactic
import TestRig.Proofs.Site
import TestRig.Proofs.StopCalls

/-!
What the run of one case leaves behind: the containers and the locks as they were, whatever failed
on the way and wherever an interrupt came. Until its end a run differs from its start in one
container, the one of its own name, and the clean-up that always follows takes that one away.

A look-up by name or a removal that fails may leave the container, so both are taken to succeed.
-/

namespace TestRig.Sandbox.Pipeline

open Host.Ask (Within)
open Engine (Call)

variable {ι : Type} [DecidableEq ι] {mayFail : Call → Prop} {dir : String} {pid : ι → UInt32}
  {me : ι} {p : Pipeline} {i : Invocation} {port : Port.Number} {name : String} {owned : Bool}
  {s₀ s s' : Site ι} {t : List (Event Host.interface)} {code : Int}

structure Untouched (s₀ s : Site ι) : Prop where
  store : s.memory.store = s₀.memory.store
  own : s.guards.own = s₀.guards.own
  held : s.guards.locks.held = s₀.guards.locks.held

/-- The containers are those of the start, and this party has locked one port on top of what was
locked then. -/
structure Locked (me : ι) (s₀ : Site ι) (port : Port.Number) (s : Site ι) : Prop where
  store : s.memory.store = s₀.memory.store
  taken : ∃ place, place ∉ s₀.guards.locks.held ∧
    s.guards.own = Function.update s₀.guards.own me [(Port.lockKey port, place)] ∧
    s.guards.locks.held = place :: s₀.guards.locks.held

theorem untouched_of_looks {q : Host.Ask} {x : q.Answer} (h : Untouched s₀ s)
    (looks : q.Within Call.Looks) (answered : (Site.world mayFail dir pid me).Answers q s x s') :
    Untouched s₀ s' := by
  have guards := Site.guards_of_within looks answered
  exact ⟨(Site.store_of_looks looks answered).trans h.store, by rw [guards, h.own],
    by rw [guards, h.held]⟩

theorem locked_of_looks {q : Host.Ask} {x : q.Answer} (h : Locked me s₀ port s)
    (looks : q.Within Call.Looks) (answered : (Site.world mayFail dir pid me).Answers q s x s') :
    Locked me s₀ port s' := by
  refine ⟨(Site.store_of_looks looks answered).trans h.store, ?_⟩
  rw [Site.guards_of_within looks answered]
  exact h.taken

theorem untouched_of_unlock (none : s₀.guards.own me = []) (h : Locked me s₀ port s)
    {x : (Host.Ask.unlock (Port.lockKey port)).Answer}
    (answered : (Site.world mayFail dir pid me).Answers (.unlock (Port.lockKey port)) s x s') :
    Untouched s₀ s' := by
  obtain ⟨place, free, own, held⟩ := h.taken
  obtain ⟨memory, guards⟩ := answered
  have mine : s.guards.own me = [(Port.lockKey port, place)] := by
    rw [own, Function.update_self]
  have back : s'.guards = ⟨s.guards.locks.release place, Function.update s.guards.own me []⟩ := by
    rw [guards, Guards.unlock, mine]
    simp
  refine ⟨by rw [memory, h.store], ?_, ?_⟩
  · rw [back, own, Function.update_idem, ← none, Function.update_eq_self]
  · have others : s₀.guards.locks.held.filter (· ≠ place) = s₀.guards.locks.held :=
      List.filter_eq_self.2 fun other there => by
        simp only [ne_eq, decide_not, Bool.not_eq_true', decide_eq_false_iff_not]
        exact fun same => free (same ▸ there)
    rw [back]
    simp only [Locks.release, held, List.filter_cons_of_neg, ne_eq, not_true_eq_false,
      decide_false, Bool.false_eq_true, not_false_eq_true]
    exact others

theorem stages (none : s₀.guards.own me = []) : Port.Stages (Site.world mayFail dir pid me)
    (Untouched s₀) (Locked me s₀) (Locked me s₀) where
  look h looks := ⟨trivial, fun _ _ answered => untouched_of_looks h looks answered⟩
  lock := by
    intro port s h
    refine ⟨trivial, fun x s' answered => ?_⟩
    obtain ⟨memory, locked | ⟨⟨e, rfl⟩, guards⟩⟩ := answered
    · obtain ⟨-, ⟨place, rfl, -, free, held, own⟩ | ⟨refused, held, own⟩⟩ :=
        Guards.lock_cases locked
      · refine ⟨fun _ => ⟨by rw [memory, h.store], place, ?_, ?_, ?_⟩, fun ne => absurd rfl ne⟩
        · rw [← h.held]
          exact free
        · rw [own, h.own, none]
        · rw [held, h.held]
      · refine ⟨fun e => absurd e refused, fun _ => ⟨by rw [memory, h.store], ?_, ?_⟩⟩
        · rw [own, h.own]
        · rw [held, h.held]
    · refine ⟨nofun, fun _ => ⟨by rw [memory, h.store], ?_, ?_⟩⟩
      · rw [guards, h.own]
      · rw [guards, h.held]
  again := by
    intro port s h
    refine ⟨trivial, fun x s' answered => ?_⟩
    have still := locked_of_looks (q := .engine (.publishing port)) h trivial answered
    exact ⟨fun _ => still, fun _ => still⟩
  unlock h := ⟨trivial, fun _ _ answered => untouched_of_unlock none h answered⟩
  hold h apart := ⟨trivial, fun _ _ answered =>
    locked_of_looks h (Host.Ask.within_mono (fun _ => False.elim) apart) answered⟩

theorem removal (matching : ∀ pattern stopped, ¬ mayFail (.matching pattern stopped))
    (remove : ∀ name, ¬ mayFail (.remove name)) (name : String) :
    Removal (Site.world mayFail dir pid me).engine name (fun _ => True) (fun _ => True)
      (fun s => s.memory.store.contains name = false) := by
  have removes : Removal (Engine.Memory.among Eq mayFail fun _ => True) name _ _ _ :=
    removal_among matching remove name
  refine removes.view Site.memory (fun _ _ _ => trivial) ?_
  rintro c s x s' ⟨-, fault, may, served⟩
  exact ⟨s.memory, fault, rfl, may, served⟩

theorem absent_of_use (matching : ∀ pattern stopped, ¬ mayFail (.matching pattern stopped))
    (remove : ∀ name, ¬ mayFail (.remove name))
    (run : (Site.world mayFail dir pid me).Runs (p.use i port name true) s t code s') :
    s'.memory.store.contains name = false := by
  obtain ⟨_, cut, s₁, t₂, -, cleaned, rfl⟩ := World.runs_bind.1 run
  have cleanup : (Site.world mayFail dir pid me).Keeps (fun _ => True)
      (Host.ofEngine (p.cleaner.cleanup (.one name)))
      (fun _ s => s.memory.store.contains name = false) s₁ := by
    refine World.keeps_ofEngine.2 ((removal matching remove name).keeps_cleanup _ ?_ trivial)
    intro s gone call prunes
    refine ⟨trivial, fun x s' answered => ⟨trivial, ?_⟩⟩
    obtain ⟨-, fault, -, served⟩ := answered
    rw [Engine.Memory.store_serve_of_prunes prunes served]
    exact gone
  obtain ⟨_, _, s₂, _, removed, ended, -⟩ := World.runs_bind.1 cleaned
  obtain ⟨-, -, rfl⟩ := World.runs_done.1 ended
  exact cleanup.runs removed

theorem store_of_use (matching : ∀ pattern stopped, ¬ mayFail (.matching pattern stopped))
    (remove : ∀ name, ¬ mayFail (.remove name))
    (unused : owned = true → s.memory.store.contains name = false)
    (run : (Site.world mayFail dir pid me).Runs (p.use i port name owned) s t code s') :
    s'.memory.store = s.memory.store := by
  cases owned with
  | false =>
    exact run.preserves (J := fun s' => s'.memory.store = s.memory.store)
      (run.asks (p.asks_use_reused i port name)) rfl
      fun _ _ _ _ looks same answered => (Site.store_of_looks looks answered).trans same
  | true =>
    have erased : s'.memory.store.erase name = s.memory.store.erase name :=
      run.preserves (J := fun s' => s'.memory.store.erase name = s.memory.store.erase name)
        (run.asks (p.asks_use i port name true)) rfl
        fun _ _ _ _ about same answered => (Site.erase_of_about about answered).trans same
    calc s'.memory.store
        = s'.memory.store.erase name :=
          (Engine.Store.erase_of_absent (absent_of_use matching remove run)).symm
      _ = s.memory.store.erase name := erased
      _ = s.memory.store := Engine.Store.erase_of_absent (unused rfl)

theorem guards_of_use
    (run : (Site.world mayFail dir pid me).Runs (p.use i port name owned) s t code s') :
    s'.guards = s.guards :=
  run.preserves (J := fun s' => s'.guards = s.guards)
    (run.asks (p.asks_use i port name owned)) rfl
    fun _ _ _ _ about same answered => (Site.guards_of_within about answered).trans same

theorem Untouched.use (matching : ∀ pattern stopped, ¬ mayFail (.matching pattern stopped))
    (remove : ∀ name, ¬ mayFail (.remove name)) (h : Untouched s₀ s)
    (unused : owned = true → s.memory.store.contains name = false)
    (run : (Site.world mayFail dir pid me).Runs (p.use i port name owned) s t code s') :
    Untouched s₀ s' := by
  have store := store_of_use matching remove unused run
  have guards := guards_of_use run
  exact ⟨store.trans h.store, by rw [guards, h.own], by rw [guards, h.held]⟩

theorem Locked.use (matching : ∀ pattern stopped, ¬ mayFail (.matching pattern stopped))
    (remove : ∀ name, ¬ mayFail (.remove name)) {leased : Port.Number} (h : Locked me s₀ leased s)
    (unused : owned = true → s.memory.store.contains name = false)
    (run : (Site.world mayFail dir pid me).Runs (p.use i port name owned) s t code s') :
    Locked me s₀ leased s' := by
  have store := store_of_use matching remove unused run
  have guards := guards_of_use run
  refine ⟨store.trans h.store, ?_⟩
  rw [guards]
  exact h.taken

theorem leased_run_leaves (matching : ∀ pattern stopped, ¬ mayFail (.matching pattern stopped))
    (remove : ∀ name, ¬ mayFail (.remove name)) (engine : p.allocator.registry = .engine)
    (unlocked : s.guards.own me = []) (channel : p.channel = none)
    (unused : ∀ t₁ port name s₁, t₁ <+: t →
      (Site.world mayFail dir pid me).Runs p.settle s t₁ (some (port, name, true)) s₁ →
      s₁.memory.store.contains name = false)
    (run : (Site.world mayFail dir pid me).Runs (p.settle >>= p.carryOut i) s t code s') :
    Untouched s s' := by
  obtain ⟨t₁, settled, s₁, t₂, first, second, rfl⟩ := World.runs_bind.1 run
  have ended := (keeps_settle (stages unlocked) channel engine ⟨rfl, rfl, rfl⟩).runs first
  obtain ⟨rfl, same⟩ | ⟨port, name, rfl, held⟩ := ended
  · obtain ⟨-, -, rfl⟩ := World.runs_done.1 second
    exact same
  · have fresh := unused t₁ port name s₁ (List.prefix_append _ _) first
    obtain ⟨t₃, result, s₂, t₄, used, rest, rfl⟩ := World.runs_bind.1 second
    obtain ⟨t₅, _, s₃, t₆, back, ended, rfl⟩ := World.runs_bind.1 rest
    obtain ⟨-, -, rfl⟩ := World.runs_done.1 ended
    rw [giveBack, channel] at back
    have kept := held.use matching remove (fun _ => fresh) used
    cases back with
    | ask answered rest =>
      obtain ⟨-, -, rfl⟩ := World.runs_done.1 rest
      exact untouched_of_unlock unlocked kept answered

theorem runs_carryOut_channel (channel : p.channel = some port)
    (run : (Site.world mayFail dir pid me).Runs (p.carryOut i (some (port, name, owned))) s t code
      s') : (Site.world mayFail dir pid me).Runs (p.use i port name owned) s t code s' := by
  obtain ⟨t₁, result, s₁, t₂, used, rest, rfl⟩ := World.runs_bind.1 run
  rw [giveBack, channel] at rest
  obtain ⟨rfl, rfl, rfl⟩ := World.runs_done.1 rest
  rw [List.append_nil]
  exact used

/-- However the run of a case goes and ends, the containers are those it found, and so are the
locks. On a port from outside it never locks, and a sandbox found there is only looked at. -/
theorem run_leaves_site (matching : ∀ pattern stopped, ¬ mayFail (.matching pattern stopped))
    (remove : ∀ name, ¬ mayFail (.remove name)) (engine : p.allocator.registry = .engine)
    (none : s.guards.own me = [])
    (unused : ∀ t₁ port name s₁, t₁ <+: t →
      (Site.world mayFail dir pid me).Runs p.settle s t₁ (some (port, name, true)) s₁ →
      s₁.memory.store.contains name = false)
    (run : (Site.world mayFail dir pid me).Runs (p.run i) s t code s') :
    (s'.memory.store = s.memory.store ∧ s'.guards.own = s.guards.own ∧
      s'.guards.locks.held = s.guards.locks.held) ∧
    ∀ port, p.channel = some port → (∀ e ∈ t, e.question.LeavesLocks) ∧
      ∀ (name : String) (names : List String),
        (⟨.engine (.publishing port), .ok (name :: names)⟩ : Event Host.interface) ∈ t →
        ∀ e ∈ t, e.question.Within Call.Looks := by
  rw [run_eq] at run
  cases channel : p.channel with
  | none =>
    have left := leased_run_leaves matching remove engine none channel unused run
    exact ⟨⟨left.store, left.own, left.held⟩, nofun⟩
  | some port =>
    obtain ⟨t₁, settled, s₁, t₂, first, second, rfl⟩ := World.runs_bind.1 run
    have looked : Untouched s s₁ :=
      first.preserves (first.asks (p.asks_settle channel)) ⟨rfl, rfl, rfl⟩
      fun _ _ _ _ looks same answered => untouched_of_looks same looks answered
    have fresh := fun name => unused t₁ port name s₁ (List.prefix_append _ _)
    have leaves : ∀ {P : Call → Prop} {q : Host.Ask}, q.Within P → q.LeavesLocks :=
      Host.Ask.within_mono fun _ _ => trivial
    obtain ⟨x, t₁, rfl, found⟩ := runs_settle_channel channel first
    obtain ⟨name, others, rfl, rfl, rfl⟩ | ⟨absent, ⟨name, rfl⟩, apart⟩ := found
    · have used := runs_carryOut_channel channel second
      have left := looked.use matching remove (by simp) used
      have looks : ∀ e ∈ t₂, e.question.Within Call.Looks :=
        used.asks (p.asks_use_reused i port name)
      refine ⟨⟨left.store, left.own, left.held⟩, ?_⟩
      rintro _ ⟨⟩
      simp only [List.cons_append, List.nil_append, List.forall_mem_cons]
      exact ⟨⟨trivial, fun e there => leaves (looks e there)⟩, fun _ _ _ => ⟨trivial, looks⟩⟩
    · have used := runs_carryOut_channel channel second
      have left := looked.use matching remove (fun _ => fresh name first) used
      have about : ∀ e ∈ t₂, e.question.Within (Call.About name) :=
        used.asks (p.asks_use i port name true)
      refine ⟨⟨left.store, left.own, left.held⟩, ?_⟩
      rintro _ ⟨⟩
      simp only [List.cons_append, List.mem_cons, List.mem_append]
      refine ⟨?_, fun name names found => ?_⟩
      · rintro e (rfl | there | there)
        · trivial
        · exact leaves (apart e there)
        · exact leaves (about e there)
      -- the look-up that found something is none of the questions asked
      obtain same | there | there := found
      · cases same
        exact absurd rfl (absent name names)
      · exact (apart _ there).elim
      · exact (about _ there).elim

theorem run_leaves_site_onePort : ∃ t code s',
    (Site.world (fun _ => False) "locks" (fun _ => 7) ()).Runs (onePort.run smoke)
      ⟨{}, ⟨⟨{}, []⟩, fun _ => []⟩⟩ t code s' ∧
    s'.memory.store = .empty ∧ s'.guards.locks.held = [] := by
  have run := Machine.runs_of_answers (w := Site.world (fun _ => False) "locks" (fun _ => 7) ())
    Site.answers_smooth (onePort.run smoke) ⟨{}, ⟨⟨{}, []⟩, fun _ => []⟩⟩
  refine ⟨_, _, _, run, ?_⟩
  have left := run_leaves_site (fun _ _ => id) (fun _ => id) rfl rfl ?_ run
  · exact ⟨left.1.1, left.1.2.2⟩
  · intro t₁ port name s₁ _ settled
    have ended := (keeps_settle (stages rfl) rfl rfl ⟨rfl, rfl, rfl⟩).runs settled
    obtain ⟨none, -⟩ | ⟨_, _, -, held⟩ := ended
    · cases none
    · rw [held.store]
      rfl

end TestRig.Sandbox.Pipeline
