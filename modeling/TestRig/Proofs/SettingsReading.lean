import Mathlib.Tactic
import TestRig.Proofs.Ownership

/-!
Reading the settings of a run. Only two variables can be refused, those that hold numbers, and only
for what they hold. Everything else about the environment is settled by the texts of thirteen
variables, where a blank text and no text are the same, whatever each variable is then used for.
-/

namespace TestRig.Command.Config

open Text.Decimal (Numeral Fault)

variable {lookup lookup' : Lookup} {key raw : String} {bound n : Nat} {e : ConfigError}

def keys : List String :=
  [Variable.maxConcurrency, Variable.package, Variable.workspaceRoot, Variable.githubActions,
   Variable.stepSummary, Variable.port, Variable.ownerPid, Variable.workerCase, Variable.image,
   Variable.memoryLimit, Variable.lockDir, Variable.preflight, Variable.logJson]

theorem filled_eq_some_iff :
    filled lookup key = some raw ↔ lookup key = some raw ∧ Text.allBlank raw.toList = false := by
  simp [filled, Option.filter_eq_some_iff]

theorem filled_eq_none_iff : filled lookup key = none ↔
    ∀ raw, lookup key = some raw → Text.allBlank raw.toList = true := by
  simp [filled, Option.filter_eq_none_iff]

theorem apply_filled {α : Type} {f : Option String → α}
    (silent : ∀ raw : String, Text.allBlank raw.toList = true → f (some raw) = f none)
    (lookup : Lookup) (key : String) : f (filled lookup key) = f (lookup key) := by
  rw [filled]
  cases found : lookup key with
  | none => rfl
  | some raw =>
    cases blank : Text.allBlank raw.toList with
    | false => rw [Option.filter_some, blank, Bool.not_false, if_pos rfl]
    | true =>
      rw [Option.filter_some, blank, Bool.not_true, if_neg Bool.false_ne_true, silent raw blank]

theorem isOn_of_blank (blank : Text.allBlank raw.toList = true) : isOn (some raw) = isOn none := by
  have unlike (text : String) (solid : Text.allBlank text.toList = false) : raw ≠ text := by
    rintro rfl
    rw [solid] at blank
    cases blank
  have one : raw ≠ "1" := unlike "1" rfl
  have yes : raw ≠ "true" := unlike "true" rfl
  simp [isOn, one, yes]

theorem toLower_of_isBlank {c : Char} (blank : Text.isBlank c = true) : c.toLower = c := by
  refine dif_neg fun upper => ?_
  have least : 65 ≤ c.toNat := upper.1
  have most : c.toNat ≤ 90 := upper.2
  simp only [Text.isBlank, Bool.or_eq_true, Bool.and_eq_true, decide_eq_true_eq, beq_iff_eq] at blank
  omega

theorem detect_of_blank (blank : Text.allBlank raw.toList = true) :
    Sandbox.Environment.detect (some raw) = Sandbox.Environment.detect none := by
  have kept : raw.toList.map Char.toLower = raw.toList := by
    refine List.map_congr_left (g := id) ?_ |>.trans (List.map_id _)
    exact fun c among => toLower_of_isBlank (List.all_eq_true.1 blank c among)
  have unlike : raw.toList.map Char.toLower ≠ ['t', 'r', 'u', 'e'] := by
    intro same
    rw [← kept, same] at blank
    cases blank
  exact if_neg unlike

/-- What is read depends on the texts of the named variables alone, and not on blank ones. -/
theorem ofLookup_congr (around : Surroundings)
    (same : ∀ key ∈ keys, filled lookup key = filled lookup' key) :
    ofLookup around lookup = ofLookup around lookup' := by
  simp only [keys, List.forall_mem_cons] at same
  obtain ⟨concurrency, package, root, actions, summary, port, owner, case, image, memory, locks,
    preflight, log, -⟩ := same
  have environment : Sandbox.Environment.detect (lookup Variable.githubActions) =
      Sandbox.Environment.detect (lookup' Variable.githubActions) := by
    rw [← apply_filled (fun _ => detect_of_blank) lookup, actions,
      apply_filled (fun _ => detect_of_blank) lookup']
  have json : isOn (lookup Variable.logJson) = isOn (lookup' Variable.logJson) := by
    rw [← apply_filled (fun _ => isOn_of_blank) lookup, log,
      apply_filled (fun _ => isOn_of_blank) lookup']
  simp only [ofLookup, readConcurrency, readChannel, readOwner, concurrency, package, root, summary,
    port, owner, case, image, memory, locks, preflight, environment, json]

def without (lookup : Lookup) (removed : String → Bool) : Lookup :=
  fun key => if removed key then none else lookup key

theorem filled_without {removed : String → Bool}
    (blank : ∀ key raw, removed key = true → lookup key = some raw →
      Text.allBlank raw.toList = true) (key : String) :
    filled (without lookup removed) key = filled lookup key := by
  cases gone : removed key with
  | false => simp [filled, without, gone]
  | true =>
    have none : filled lookup key = none := filled_eq_none_iff.2 fun raw => blank key raw gone
    rw [none, filled, without, gone]
    rfl

section Numbers

variable {α : Type} {standard : α} {ofNat : Nat → α} {refuse : String → Fault → ConfigError}

def readNumber (lookup : Lookup) (key : String) (bound : Nat) (standard : α) (ofNat : Nat → α)
    (refuse : String → Fault → ConfigError) : Except ConfigError α :=
  match filled lookup key with
  | none => .ok standard
  | some raw =>
    match number bound raw with
    | .ok n => .ok (ofNat n)
    | .error fault => .error (refuse raw fault)

theorem readConcurrency_eq (lookup : Lookup) : readConcurrency lookup =
    readNumber lookup Variable.maxConcurrency Key.largestCount standardConcurrency (max · 1)
      .concurrency :=
  rfl

theorem readChannel_eq (lookup : Lookup) : readChannel lookup =
    readNumber lookup Variable.port Port.highestAllowed none (fun n => some (.ofNat n)) .channel :=
  rfl

theorem readNumber_eq_ok_iff {a : α} :
    readNumber lookup key bound standard ofNat refuse = .ok a ↔
      filled lookup key = none ∧ a = standard ∨
      ∃ raw n, filled lookup key = some raw ∧ number bound raw = .ok n ∧ a = ofNat n := by
  rw [readNumber]
  cases filled lookup key with
  | none => simp [eq_comm]
  | some raw =>
    cases read : number bound raw with
    | ok n => simp [read, eq_comm]
    | error fault => simp [read]

theorem readNumber_eq_error_iff :
    readNumber lookup key bound standard ofNat refuse = .error e ↔
      ∃ raw fault, filled lookup key = some raw ∧ number bound raw = .error fault ∧
        e = refuse raw fault := by
  rw [readNumber]
  cases filled lookup key with
  | none => simp
  | some raw =>
    cases read : number bound raw with
    | ok n => simp [read]
    | error fault => simp [read, eq_comm]

theorem number_eq_ok_iff :
    number bound raw = .ok n ↔ Numeral (Text.trim raw.toList) n ∧ n ≤ bound :=
  Text.Decimal.read_eq_ok_iff

/-- The variable holds this text and, blanks around it apart, it is no number within the bound. -/
def Unreadable (lookup : Lookup) (key : String) (bound : Nat) (raw : String) : Prop :=
  lookup key = some raw ∧ Text.allBlank raw.toList = false ∧
    ¬ ∃ n, Numeral (Text.trim raw.toList) n ∧ n ≤ bound

theorem unreadable_iff : Unreadable lookup key bound raw ↔
    filled lookup key = some raw ∧ ∃ fault, number bound raw = .error fault := by
  simp only [Unreadable, filled_eq_some_iff, ← number_eq_ok_iff, and_assoc]
  cases number bound raw <;> simp

theorem exists_error_iff :
    (∃ e, readNumber lookup key bound standard ofNat refuse = .error e) ↔
      ∃ raw, Unreadable lookup key bound raw := by
  simp only [readNumber_eq_error_iff, unreadable_iff]
  constructor
  · rintro ⟨_, raw, fault, held, read, -⟩
    exact ⟨raw, held, fault, read⟩
  · rintro ⟨raw, held, fault, read⟩
    exact ⟨_, raw, fault, held, read, rfl⟩

theorem error_of_unreadable (unreadable : Unreadable lookup key bound raw) :
    ∃ fault, readNumber lookup key bound standard ofNat refuse = .error (refuse raw fault) := by
  obtain ⟨held, fault, read⟩ := unreadable_iff.1 unreadable
  exact ⟨fault, readNumber_eq_error_iff.2 ⟨raw, fault, held, read, rfl⟩⟩

end Numbers

section Loading

variable {around : Surroundings} {config : Config}

theorem concurrency_error
    (unreadable : Unreadable lookup Variable.maxConcurrency Key.largestCount raw) :
    ∃ fault, readConcurrency lookup = .error (.concurrency raw fault) := by
  rw [readConcurrency_eq]
  exact error_of_unreadable unreadable

theorem channel_error (unreadable : Unreadable lookup Variable.port Port.highestAllowed raw) :
    ∃ fault, readChannel lookup = .error (.channel raw fault) := by
  rw [readChannel_eq]
  exact error_of_unreadable unreadable

theorem ofLookup_eq_error_iff : ofLookup around lookup = .error e ↔
    readConcurrency lookup = .error e ∨
      (¬ ∃ e, readConcurrency lookup = .error e) ∧ readChannel lookup = .error e := by
  rw [ofLookup]
  cases readConcurrency lookup with
  | error e => simp
  | ok most => cases readChannel lookup <;> simp

theorem maxConcurrency_of_loaded (loaded : ofLookup around lookup = .ok config) :
    readConcurrency lookup = .ok config.maxConcurrency := by
  rw [ofLookup] at loaded
  cases most : readConcurrency lookup with
  | error e => simp only [most, reduceCtorEq] at loaded
  | ok most' =>
    cases channel : readChannel lookup with
    | error e => simp only [most, channel, reduceCtorEq] at loaded
    | ok channel' =>
      simp only [most, channel, Except.ok.injEq] at loaded
      rw [← loaded]

theorem maxConcurrency_cases (loaded : ofLookup around lookup = .ok config) :
    (∀ raw, lookup Variable.maxConcurrency = some raw → Text.allBlank raw.toList = true) ∧
      config.maxConcurrency = 4 ∨
    ∃ raw n, lookup Variable.maxConcurrency = some raw ∧ Text.allBlank raw.toList = false ∧
      Numeral (Text.trim raw.toList) n ∧ config.maxConcurrency = max n 1 := by
  have read := maxConcurrency_of_loaded loaded
  rw [readConcurrency_eq, readNumber_eq_ok_iff, filled_eq_none_iff] at read
  refine read.imp_right ?_
  rintro ⟨raw, n, held, number, most⟩
  obtain ⟨given, filled⟩ := filled_eq_some_iff.1 held
  exact ⟨raw, n, given, filled, (number_eq_ok_iff.1 number).1, most⟩

end Loading

/-- Settings cannot be read exactly if the number of workers or the port handed down is given, not
blank, and no number that fits; the error names the first of the two that is so. Otherwise there are
four workers or as many as are asked for, at least one. Blank variables may be taken away, any of
them, and variables that are not among the named ones may be anything: what comes out is the same,
settings or error. -/
theorem refused_iff_unreadable (around : Surroundings) (lookup : Lookup) :
    ((∃ e, ofLookup around lookup = .error e) ↔
      (∃ raw, Unreadable lookup "MAX_TEST_CONCURRENCY" 18446744073709551615 raw) ∨
        ∃ raw, Unreadable lookup "CHAIN_SIMULATOR_PORT" 65535 raw) ∧
    (∀ raw, Unreadable lookup "MAX_TEST_CONCURRENCY" 18446744073709551615 raw →
      ∃ e, ofLookup around lookup = .error e ∧
        e.summary = "MAX_TEST_CONCURRENCY must be a number, got " ++ Text.Quoted.value raw) ∧
    (∀ raw, Unreadable lookup "CHAIN_SIMULATOR_PORT" 65535 raw →
      (¬ ∃ raw, Unreadable lookup "MAX_TEST_CONCURRENCY" 18446744073709551615 raw) →
      ∃ e, ofLookup around lookup = .error e ∧
        e.summary = "CHAIN_SIMULATOR_PORT must be a port number, got " ++ Text.Quoted.value raw) ∧
    (∀ config, ofLookup around lookup = .ok config → 1 ≤ config.maxConcurrency ∧
      ((∀ raw, lookup "MAX_TEST_CONCURRENCY" = some raw → Text.allBlank raw.toList = true) ∧
          config.maxConcurrency = 4 ∨
        ∃ raw n, lookup "MAX_TEST_CONCURRENCY" = some raw ∧ Text.allBlank raw.toList = false ∧
          Numeral (Text.trim raw.toList) n ∧ config.maxConcurrency = max n 1)) ∧
    (∀ removed : String → Bool, (∀ key raw, removed key = true → lookup key = some raw →
        Text.allBlank raw.toList = true) →
      ofLookup around (without lookup removed) = ofLookup around lookup) ∧
    ∀ lookup' : Lookup, (∀ key ∈ keys, lookup' key = lookup key) →
      ofLookup around lookup' = ofLookup around lookup := by
  have most : (∃ e, readConcurrency lookup = .error e) ↔
      ∃ raw, Unreadable lookup "MAX_TEST_CONCURRENCY" 18446744073709551615 raw := exists_error_iff
  have port : (∃ e, readChannel lookup = .error e) ↔
      ∃ raw, Unreadable lookup "CHAIN_SIMULATOR_PORT" 65535 raw := exists_error_iff
  refine ⟨?_, fun raw bad => ?_, fun raw bad good => ?_, fun config loaded => ?_,
    fun removed blank => ?_, fun lookup' same => ?_⟩
  · simp only [ofLookup_eq_error_iff]
    rw [← most, ← port, exists_or, exists_and_left]
    tauto
  · obtain ⟨fault, read⟩ := concurrency_error bad
    exact ⟨_, ofLookup_eq_error_iff.2 (.inl read), rfl⟩
  · obtain ⟨fault, read⟩ := channel_error bad
    exact ⟨_, ofLookup_eq_error_iff.2 (.inr ⟨mt most.1 good, read⟩), rfl⟩
  · have cases := maxConcurrency_cases loaded
    refine ⟨?_, cases⟩
    obtain ⟨-, four⟩ | ⟨_, n, -, -, -, asked⟩ := cases <;> omega
  · exact ofLookup_congr around fun key _ => filled_without blank key
  · exact ofLookup_congr around fun key among => filled_congr (same key among)

def cluttered : Lookup := fun key =>
  [("MAX_TEST_CONCURRENCY", "\u2003+00\t"), ("CHAIN_SIMULATOR_PORT", "\n"),
    ("GITHUB_ACTIONS", " "), ("HOME", "/root")].lookup key

def garbled : Lookup := fun key =>
  [("CHAIN_SIMULATOR_PORT", "65536"), ("MAX_TEST_CONCURRENCY", "-1")].lookup key

def misdirected : Lookup := without garbled (· == "MAX_TEST_CONCURRENCY")

theorem refused_iff_unreadable_cluttered :
    (∃ config, ofLookup ⟨"/work", "/tmp", 7⟩ cluttered = .ok config ∧ 1 ≤ config.maxConcurrency ∧
      ofLookup ⟨"/work", "/tmp", 7⟩
        (without cluttered fun key => key == "GITHUB_ACTIONS" || key == "CHAIN_SIMULATOR_PORT") =
          .ok config ∧
      ofLookup ⟨"/work", "/tmp", 7⟩ (without cluttered (· == "HOME")) = .ok config) ∧
    (∃ e, ofLookup ⟨"/work", "/tmp", 7⟩ garbled = .error e ∧
      e.summary = "MAX_TEST_CONCURRENCY must be a number, got " ++ Text.Quoted.value "-1") ∧
    ∃ e, ofLookup ⟨"/work", "/tmp", 7⟩ misdirected = .error e ∧
      e.summary = "CHAIN_SIMULATOR_PORT must be a port number, got " ++ Text.Quoted.value "65536" := by
  obtain ⟨-, -, -, loads, clears, ignores⟩ := refused_iff_unreadable ⟨"/work", "/tmp", 7⟩ cluttered
  obtain ⟨-, garbles, -⟩ := refused_iff_unreadable ⟨"/work", "/tmp", 7⟩ garbled
  obtain ⟨-, -, misdirects, -⟩ := refused_iff_unreadable ⟨"/work", "/tmp", 7⟩ misdirected
  obtain ⟨config, loaded⟩ : ∃ config, ofLookup ⟨"/work", "/tmp", 7⟩ cluttered = .ok config :=
    ⟨_, rfl⟩
  refine ⟨⟨config, loaded, (loads config loaded).1, (clears _ ?_).trans loaded,
    (ignores _ ?_).trans loaded⟩, garbles "-1" (unreadable_iff.2 ⟨rfl, _, rfl⟩),
    misdirects "65536" (unreadable_iff.2 ⟨rfl, _, rfl⟩) ?_⟩
  · intro key raw gone held
    simp only [Bool.or_eq_true, beq_iff_eq] at gone
    obtain rfl | rfl := gone <;> cases held <;> rfl
  · decide +kernel
  · rintro ⟨raw, held, -⟩
    cases held

end TestRig.Command.Config
