import Mathlib.Tactic
import TestRig.Command.Config
import TestRig.Suite.Launcher
import TestRig.Proofs.CleanupTargets
import TestRig.Proofs.NameGrammar
import TestRig.Proofs.World

/-!
Who owns a sandbox, across processes. A run hands its pid to each worker in a variable; the worker
reads it back, writes it into the names of its sandboxes, and the clean-up of the run reads it out of
the names it is shown. Each writing here is undone by the reading after it, so the run reclaims what
its workers made and nothing that another run made.
-/

namespace TestRig

namespace Sandbox

namespace Name

theorem ownedBy_text (owner : UInt32) (n : Name) : ownedBy owner n.text = (n.owner == owner) := by
  rw [ownedBy, ofText?_text]
  rfl

end Name

theorem ends_freshName {port : Port.Number} {owner : UInt32} {text : String} :
    (freshName port owner).Ends text ↔
      ∃ second random, text = (⟨port, owner, second, random⟩ : Name).text := by
  constructor
  · rintro ⟨millis, random, same⟩
    exact ⟨_, _, same.symm⟩
  · rintro ⟨second, random, rfl⟩
    refine ⟨second.toNat * 1000, random.toNat + 64536, ?_⟩
    have whole : second.toNat * 1000 / 1000 = second.toNat := Nat.mul_div_cancel _ (by decide)
    have turned : UInt16.ofNat (1000 + (random.toNat + 64536)) = random := by
      apply UInt16.toNat_inj.1
      have small := random.toNat_lt
      rw [UInt16.toNat_ofNat']
      omega
    change Name.text ⟨port, owner, .ofNat (second.toNat * 1000 / 1000),
      .ofNat (1000 + (random.toNat + 64536))⟩ = _
    rw [whole, turned, UInt64.ofNat_toNat]

namespace Cleaner

variable {c : Cleaner} {n : Name}

theorem not_mem_targets {selected : List String} {errors : List String}
    (shared : c.environment = .sharedRunner) (other : n.owner ≠ c.owner)
    (ends : (c.targets .run).Ends (selected, errors)) : n.text ∉ selected := by
  obtain ⟨listing, ends⟩ := ends
  change Except Engine.Error (List String) at listing
  cases listing with
  | error e =>
    cases ends
    exact List.not_mem_nil
  | ok names =>
    cases ends
    rw [mayRemove, shared]
    intro among
    have owned := List.of_mem_filter among
    rw [Name.ownedBy_text, beq_iff_eq] at owned
    exact other owned

theorem mem_targets (shared : c.environment = .sharedRunner) (own : n.owner = c.owner)
    {m : Engine.Memory} (there : m.store.contains n.text = true) :
    n.text ∈ (Engine.Memory.machine.run (c.targets .run) m).1.1 := by
  have target : c.Target .run n.text := by
    rw [Target, shared]
    show (Name.ofText? n.text).map Name.owner = some c.owner
    rw [Name.ofText?_text, ← own]
    rfl
  have selects : (Engine.Memory.machine.run (c.targets .run) m).1.1 =
      c.mayRemove (m.store.namesMatching ("^" ++ nameStart) true) := rfl
  rw [selects, mayRemove_listing]
  exact mem_found target there

end Cleaner

end Sandbox

namespace Command.Config

variable {lookup lookup' : Lookup} {key : String}

theorem filled_congr (same : lookup key = lookup' key) : filled lookup key = filled lookup' key := by
  rw [filled, filled, same]

theorem number_toString {bound n : Nat} (fits : n ≤ bound) : number bound (toString n) = .ok n := by
  rw [number, Text.Decimal.toString_eq_text, Text.Decimal.text, String.toList_ofList,
    Text.Decimal.trim_render, Text.Decimal.read_render fits]

theorem filled_toString {n : Nat} (given : lookup key = some (toString n)) :
    filled lookup key = some (toString n) := by
  rw [filled, given, Text.Decimal.toString_eq_text, Option.filter_some, Text.Decimal.text,
    String.toList_ofList, Text.Decimal.allBlank_render]
  rfl

theorem readOwner_toString {owner : UInt32} (pid : UInt32)
    (given : lookup Variable.ownerPid = some (toString owner.toNat)) :
    readOwner lookup pid = owner := by
  have small : owner.toNat ≤ largestPid := Nat.le_of_lt_succ owner.toNat_lt
  rw [readOwner, filled_toString given, Option.bind_some, number_toString small]
  exact UInt32.ofNat_toNat

theorem readChannel_removed (removed : lookup Variable.port = none) :
    readChannel lookup = .ok none := by
  rw [readChannel, filled, removed]
  rfl

theorem readConcurrency_congr
    (same : lookup Variable.maxConcurrency = lookup' Variable.maxConcurrency) :
    readConcurrency lookup = readConcurrency lookup' := by
  rw [readConcurrency, readConcurrency, filled_congr same]

theorem ofLookup_handed_on {around around' : Surroundings} {config : Config} {owner : UInt32}
    (loaded : ofLookup around lookup = .ok config)
    (same : lookup' Variable.maxConcurrency = lookup Variable.maxConcurrency)
    (removed : lookup' Variable.port = none)
    (given : lookup' Variable.ownerPid = some (toString owner.toNat)) :
    ∃ config', ofLookup around' lookup' = .ok config' ∧ config'.owner = owner ∧
      config'.channel = none := by
  rw [ofLookup, ← readConcurrency_congr same] at loaded
  rw [ofLookup, readChannel_removed removed]
  cases concurrency : readConcurrency lookup' with
  | error e =>
    rw [concurrency] at loaded
    cases loaded
  | ok most => exact ⟨_, rfl, readOwner_toString _ given, rfl⟩

end Command.Config

namespace Suite.Launcher

open Command (Config Lookup Surroundings)
open Sandbox (Cleaner freshName)

variable (l : Launcher) (c : Case) (outside : Lookup)

theorem setting?_port : (l.command c).setting? outside Variable.port = none := rfl

theorem setting?_ownerPid :
    (l.command c).setting? outside Variable.ownerPid = some (toString l.owner.toNat) := rfl

theorem setting?_maxConcurrency : (l.command c).setting? outside Variable.maxConcurrency =
    outside Variable.maxConcurrency := rfl

/-- Whatever environment the run could read its settings from, the one it gives to a worker can be
read too: it names the run's pid as owner and hands no port down. Whatever port, second and number
the worker puts into the name of a sandbox, on a shared runner the clean-up of the run selects that
name, and it selects none that carries another owner. -/
theorem sandboxes_follow_owner (around' : Surroundings) {around : Surroundings} {lookup : Lookup}
    {config : Config} (loaded : Config.ofLookup around lookup = .ok config) :
    ∃ config', Config.ofLookup around' ((l.command c).setting? lookup) = .ok config' ∧
      config'.owner = l.owner ∧ config'.channel = none ∧
      ∀ cleaner : Cleaner, cleaner.environment = .sharedRunner → cleaner.owner = l.owner →
        (∀ port text, (freshName port config'.owner).Ends text →
          ∀ m : Engine.Memory, m.store.contains text = true →
            text ∈ (Engine.Memory.machine.run (cleaner.targets .run) m).1.1) ∧
        ∀ port owner text selected errors, owner ≠ l.owner → (freshName port owner).Ends text →
          (cleaner.targets .run).Ends (selected, errors) → text ∉ selected := by
  obtain ⟨config', read, own, channel⟩ := Config.ofLookup_handed_on loaded
    (setting?_maxConcurrency l c lookup) (setting?_port l c lookup) (setting?_ownerPid l c lookup)
  refine ⟨config', read, own, channel, fun cleaner shared same => ⟨?_, ?_⟩⟩
  · intro port text named m there
    obtain ⟨second, random, rfl⟩ := Sandbox.ends_freshName.1 named
    exact Cleaner.mem_targets shared (own.trans same.symm) there
  · intro port owner text selected errors other named ends
    obtain ⟨second, random, rfl⟩ := Sandbox.ends_freshName.1 named
    exact Cleaner.not_mem_targets shared (fun equal => other (equal.trans same)) ends

def rig : Launcher := ⟨"simrig", { package := "rust-interact", target := "port_range" }, 4242⟩

def crowded : Engine.Memory where
  store := .ofList [⟨"chain-sim-4242-9100-4242-4242", 4242, true⟩,
    ⟨"chain-sim-9100-4242-17-1234", 9100, true⟩]

theorem sandboxes_follow_owner_crowded : ∃ config',
    Config.ofLookup ⟨"/work", "/tmp", 7⟩ ((rig.command ⟨"port_range", "smoke"⟩).setting?
      fun _ => none) = .ok config' ∧ config'.owner = 4242 ∧
    "chain-sim-9100-4242-17-1234" ∈
      (Engine.Memory.machine.run (Cleaner.targets ⟨.sharedRunner, 4242, ⟨0⟩⟩ .run) crowded).1.1 ∧
    "chain-sim-4242-9100-4242-4242" ∉
      (Engine.Memory.machine.run (Cleaner.targets ⟨.sharedRunner, 4242, ⟨0⟩⟩ .run) crowded).1.1 := by
  obtain ⟨config, loaded⟩ : ∃ config, Config.ofLookup ⟨"/work", "/tmp", 4242⟩ (fun _ => none) =
    .ok config := ⟨_, rfl⟩
  obtain ⟨config', read, own, -, selects⟩ :=
    sandboxes_follow_owner rig ⟨"port_range", "smoke"⟩ ⟨"/work", "/tmp", 7⟩ loaded
  obtain ⟨mine, others⟩ := selects ⟨.sharedRunner, 4242, ⟨0⟩⟩ rfl rfl
  refine ⟨config', read, own, ?_, ?_⟩
  · refine mine 9100 _ ?_ crowded (by decide +kernel)
    rw [own]
    exact Sandbox.ends_freshName.2 ⟨17, 1234, by decide +kernel⟩
  · refine others 4242 9100 _ _ [] (by decide) ?_ ⟨.ok (crowded.store.namesMatching _ true), rfl⟩
    exact Sandbox.ends_freshName.2 ⟨4242, 4242, by decide +kernel⟩

end Suite.Launcher

end TestRig
