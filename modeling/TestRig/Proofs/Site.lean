import TestRig.Proofs.EngineMemory
import TestRig.Proofs.Guards

/-!
A host with an engine kept in memory and the locks of one directory, both shared by several parties.
A call of the engine that may fail does so with any error and without effect; the other questions,
locks apart, may be answered in any way.
-/

namespace TestRig

namespace Engine.Memory

/-- A host whose engine is kept in memory and may fail some calls, without effect. -/
def host (mayFail : Call → Prop) : World Host.interface Memory where
  Answers
    | .engine c, m, x, m' => ∃ fault : Option Error, (fault.isSome → mayFail c) ∧
        m.serve fault c = (x, m')
    | _, m, _, m' => m' = m

variable {mayFail : Call → Prop} {m m' : Memory} {q : Host.Ask} {x : q.Answer}

theorem store_host_of_looks (within : q.Within Call.Looks)
    (answered : (host mayFail).Answers q m x m') : m'.store = m.store := by
  cases q
  case engine c =>
    obtain ⟨fault, -, served⟩ := answered
    exact store_serve_of_looks within served
  all_goals rw [show m' = m from answered]

theorem erase_host_of_about {name : String} (within : q.Within (Call.About name))
    (answered : (host mayFail).Answers q m x m') : m'.store.erase name = m.store.erase name := by
  cases q
  case engine c =>
    obtain ⟨fault, -, served⟩ := answered
    exact erase_serve within served
  all_goals rw [show m' = m from answered]

end Engine.Memory

structure Site (ι : Type) where
  memory : Engine.Memory
  guards : Guards ι

namespace Site

variable {ι : Type} [DecidableEq ι]

def world (mayFail : Engine.Call → Prop) (dir : String) (pid : ι → UInt32) (i : ι) :
    World Host.interface (Site ι) where
  Answers
    | .engine c, s, x, s' => s'.guards = s.guards ∧ ∃ fault : Option Engine.Error,
        (fault.isSome → mayFail c) ∧ s.memory.serve fault c = (x, s'.memory)
    | q, s, x, s' => s'.memory = s.memory ∧ (Guards.world dir pid i).Answers q s.guards x s'.guards

variable {mayFail : Engine.Call → Prop} {dir : String} {pid : ι → UInt32} {i : ι} {s s' : Site ι}
  {q : Host.Ask} {x : q.Answer} {name : String}

theorem guards_world (answered : (world mayFail dir pid i).Answers q s x s') :
    (Guards.world dir pid i).Answers q s.guards x s'.guards := by
  cases q
  case engine c => exact answered.1
  all_goals exact answered.2

theorem guards_of_within {P : Engine.Call → Prop} (within : q.Within P)
    (answered : (world mayFail dir pid i).Answers q s x s') : s'.guards = s.guards :=
  Guards.world_of_leavesLocks (Host.Ask.within_mono (fun _ _ => trivial) within)
    (guards_world answered)

theorem host_of_answers (answered : (world mayFail dir pid i).Answers q s x s') :
    (Engine.Memory.host mayFail).Answers q s.memory x s'.memory := by
  cases q
  case engine c => exact answered.2
  all_goals exact answered.1

theorem store_of_looks (within : q.Within Engine.Call.Looks)
    (answered : (world mayFail dir pid i).Answers q s x s') :
    s'.memory.store = s.memory.store :=
  Engine.Memory.store_host_of_looks within (host_of_answers answered)

theorem erase_of_about (within : q.Within (Engine.Call.About name))
    (answered : (world mayFail dir pid i).Answers q s x s') :
    s'.memory.store.erase name = s.memory.store.erase name :=
  Engine.Memory.erase_host_of_about within (host_of_answers answered)

def smooth (dir : String) (pid : ι → UInt32) (i : ι) : Machine Host.interface (Site ι) where
  answer
    | .engine c, s => let (x, memory) := s.memory.serve none c; (x, { s with memory })
    | .probe _, s => (.healthy, s)
    | .pause _, s => ((), s)
    | .say _ _, s => ((), s)
    | .clock, s => ((0 : Nat), s)
    | .draw _, s => ((0 : Nat), s)
    | .bindable _, s => (true, s)
    | .lock key, s => let (x, guards) := s.guards.lock dir (pid i) i key; (x, { s with guards })
    | .unlock key, s => ((), { s with guards := s.guards.unlock i key })
    | .list _, s => (.ok ⟨"", ""⟩, s)
    | .test _ _, s => (.ok (some 0), s)
    | .launch _ _, s => ((), s)
    | .completion true, s => (none, s)
    | .completion false, s => ((0, ⟨⟨"", ""⟩, "", none⟩), s)
    | .interrupted, s => (false, s)
    | .cancelRequested, s => (false, s)
    | .write _ _ _, s => (.ok (), s)

theorem answers_smooth (q : Host.Ask) (s : Site ι) : (world mayFail dir pid i).Answers q s
    ((smooth dir pid i).answer q s).1 ((smooth dir pid i).answer q s).2 := by
  cases q
  case engine c => exact ⟨rfl, none, nofun, rfl⟩
  case lock key => exact ⟨rfl, .inl rfl⟩
  case completion watching => cases watching <;> exact ⟨rfl, rfl⟩
  all_goals exact ⟨rfl, rfl⟩

end Site

end TestRig
