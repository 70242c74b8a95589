import Mathlib.Tactic
import TestRig.Command.Execution

/-!
What a launcher writes on a worker's command line, the worker reads. The arguments of a reader are
taken one piece at a time: what a piece adds to the values is said of any reading before it, so the
pieces are put together without a look at how the reader keeps an open key.
-/

namespace TestRig.Command

namespace Key

theorem shape_word (k : Key) :
    Shape.of ("--" ++ k.word).toList = .long k.word.toList none := by
  cases k <;> decide +kernel

theorem word_injective {k k' : Key} (same : k.word.toList = k'.word.toList) : k = k' := by
  cases k <;> cases k' <;> first | rfl | exact absurd same (by decide +kernel)

end Key

namespace Reading

variable {r r' : Reading} {k : Key} {value : String}

def adding (r : Reading) (k : Key) (value : String) : Reading :=
  { r with values := r.values ++ [(k, value)] }

theorem record_of_new (new : r.has k = false) (accepted : k.accepts value = true) :
    r.record k value = .ok (r.adding k value) := by
  simp [record, new, accepted, adding]

theorem open_of_record (recorded : r.record k value = .ok r') : r'.open? = r.open? := by
  unfold record at recorded
  split_ifs at recorded
  cases recorded
  rfl

theorem open_of_settle (settled : r.settle = .ok r') : r'.open? = none := by
  unfold settle at settled
  split at settled
  · cases settled
    assumption
  · cases settled
  · exact open_of_record settled

theorem settle_of_closed (closed : r.open? = none) : r.settle = .ok r := by
  rw [settle, closed]

end Reading

namespace Grammar

variable {g : Grammar} {k : Key} {value : String} {args args' : List String}
  {r r' r'' : Reading}

theorem ofWord?_word (known : k ∈ g.keys) : g.ofWord? k.word.toList = some k := by
  have found : (g.ofWord? k.word.toList).isSome :=
    List.find?_isSome.2 ⟨k, known, beq_self_eq_true _⟩
  obtain ⟨k', named⟩ := Option.isSome_iff_exists.1 found
  have same : k'.word.toList == k.word.toList :=
    List.find?_some (p := fun k' : Key => k'.word.toList == k.word.toList) named
  rw [named, Key.word_injective (eq_of_beq same)]

/-- After these arguments, whatever stands for the first reading stands for the second. -/
def Adds (g : Grammar) (args : List String) (r r' : Reading) : Prop :=
  ∀ s : Reading, s.settle = .ok r → ∃ s' : Reading, s'.settle = .ok r' ∧
    ∀ rest, g.readFrom s (args ++ rest) = g.readFrom s' rest

theorem Adds.refl (r : Reading) : g.Adds [] r r := fun s settled => ⟨s, settled, fun _ => rfl⟩

theorem Adds.trans (h : g.Adds args r r') (h' : g.Adds args' r' r'') :
    g.Adds (args ++ args') r r'' := by
  intro s settled
  obtain ⟨s', settled', first⟩ := h s settled
  obtain ⟨s'', settled'', second⟩ := h' s' settled'
  refine ⟨s'', settled'', fun rest => ?_⟩
  rw [List.append_assoc, first, second]

theorem readFrom_key (known : k ∈ g.keys) (rest : List String) :
    g.readFrom r (("--" ++ k.word) :: rest) = r.key k none >>= fun r' => g.readFrom r' rest := by
  have long : Shape.of ("--" ++ k.word).toList ≠ .escape := by
    rw [k.shape_word]
    nofun
  rw [readFrom, if_neg long, take, k.shape_word]
  simp only [ofWord?_word known, Option.map_none]

theorem adds_option (known : k ∈ g.keys) (takes : k.takesValue = true)
    (plain : value.toList.head? ≠ some '-') (accepted : k.accepts value = true)
    (new : r.has k = false) : g.Adds ["--" ++ k.word, value] r (r.adding k value) := by
  intro s settled
  have closed := Reading.open_of_settle settled
  refine ⟨{ r with open? := some (k, some value) }, ?_, fun rest => ?_⟩
  · have emptied : { r with open? := none } = r := by rw [← closed]
    rw [← Reading.record_of_new new accepted]
    show Reading.record { r with open? := none } k value = _
    rw [emptied]
  · have opened : s.key k none = .ok { r with open? := some (k, none) } := by
      simp only [Reading.key, takes, settled]
      rfl
    rw [List.cons_append, readFrom_key known, opened]
    show g.readFrom _ (value :: rest) = _
    rw [readFrom, if_neg (by simp [Shape.of_eq_plain plain]), take, Shape.of_eq_plain plain]
    rfl

theorem adds_flag (known : k ∈ g.keys) (bare : k.takesValue = false) (silent : k ≠ .help)
    (accepted : k.accepts "" = true) (new : r.has k = false) :
    g.Adds ["--" ++ k.word] r (r.adding k "") := by
  intro s settled
  have closed := Reading.open_of_settle settled
  refine ⟨r.adding k "", Reading.settle_of_closed closed, fun rest => ?_⟩
  have kept : s.key k none = .ok (r.adding k "") := by
    simp only [Reading.key, bare, settled]
    show (if k = .help then _ else r.record k "") = _
    rw [if_neg silent, Reading.record_of_new new accepted]
  rw [List.cons_append, readFrom_key known, kept]
  rfl

theorem read_of_adds (h : g.Adds args {} r) (trailing : g.trailing = true)
    (bare : r.trailing = []) (extra : List String) :
    g.read (args ++ if extra.isEmpty then [] else "--" :: extra) =
      .ok { r with trailing := extra } := by
  obtain ⟨s, settled, goesOn⟩ := h {} rfl
  rw [read, goesOn]
  cases extra with
  | nil =>
    show s.settle = _
    rw [settled, ← bare]
  | cons first rest =>
    show g.takeTrailing s (first :: rest) = _
    rw [takeTrailing, if_pos (.inr trailing), settled]
    rfl

end Grammar

namespace Arguments

open Suite (Launcher)

theorem adds_features (g : Grammar) (r : Reading) (known : Key.someFeatures ∈ g.keys)
    (new : r.has .someFeatures = false) (all : Bool) :
    g.Adds (if all then [] else ["--no-all-features"]) r
      (if all then r else r.adding .someFeatures "") := by
  cases all with
  | true => exact .refl r
  | false => exact Grammar.adds_flag known rfl nofun rfl new

theorem read_argumentsOf {package target name : String}
    (plainPackage : package.toList.head? ≠ some '-') (plainTarget : target.toList.head? ≠ some '-')
    (plainName : name.toList.head? ≠ some '-') (allFeatures : Bool) (extra : List String) :
    Arguments.read (Launcher.argumentsOf ⟨package, target, some name, allFeatures, extra⟩) =
      .ok (.worker ⟨target, some package, some name, !allFeatures, extra⟩) := by
  let packaged : Reading := .adding {} .package package
  let targeted := packaged.adding .target target
  let named := targeted.adding .case name
  have first : workerGrammar.Adds ["--package", package] {} packaged :=
    Grammar.adds_option (by decide) rfl plainPackage rfl rfl
  have second : workerGrammar.Adds ["--test", target] packaged targeted :=
    Grammar.adds_option (by decide) rfl plainTarget rfl rfl
  have third : workerGrammar.Adds ["--case", name] targeted named :=
    Grammar.adds_option (by decide) rfl plainName rfl rfl
  have last := adds_features workerGrammar named (by decide) rfl allFeatures
  have read := Grammar.read_of_adds (first.trans (second.trans (third.trans last))) rfl
    (by cases allFeatures <;> rfl) extra
  show readWorker (["--package", package] ++ (["--test", target] ++ (["--case", name] ++
    (if allFeatures then [] else ["--no-all-features"]))) ++
      if extra.isEmpty then [] else "--" :: extra) = _
  rw [readWorker, read]
  cases allFeatures <;> rfl

end Arguments

theorem run_worker {around : Surroundings} {lookup : Lookup} {config : Config}
    {args : List String} {o : WorkerOptions} {i : Invocation}
    (read : Arguments.read args = .ok (.worker o))
    (settled : Config.ofLookup around lookup = .ok config) (given : o.invocation config = .ok i) :
    run around lookup args = (config.pipeline around.pid).run i := by
  have worked : Process.worker ⟨config, around.pid, forcesStyles lookup⟩ o =
      (config.pipeline around.pid).run i >>= fun code => pure (.ok code) := by
    rw [Process.worker, given]
  simp only [run, read, settled, Process.perform, Process.execute, worked, bind_assoc, pure_bind,
    bind_pure]

end TestRig.Command

namespace TestRig.Suite.Launcher

open Command (Arguments Config)

/-- From the arguments for a case a worker gets the invocation narrowed to that case, whatever its
settings name for the package and the case, and the pipeline on that invocation is all it runs. -/
theorem worker_reads_case (l : Launcher) (c : Case)
    (package : l.invocation.package.toList.head? ≠ some '-')
    (target : c.target.toList.head? ≠ some '-') (name : c.name.toList.head? ≠ some '-') :
    ∃ o, Arguments.read (l.arguments c) = .ok (.worker o) ∧
      (∀ config, o.invocation config = .ok (l.invocation.forCase c) ∧
        ∀ i, o.invocation config = .ok i → i.runArgs = (l.invocation.forCase c).runArgs ∧
          i.identifier = (l.invocation.forCase c).identifier) ∧
      ∀ around lookup config, Config.ofLookup around lookup = .ok config →
        Command.run around lookup (l.arguments c) =
          (config.pipeline around.pid).run (l.invocation.forCase c) := by
  have read := Arguments.read_argumentsOf package target name l.invocation.allFeatures
    l.invocation.extra
  have given : ∀ config, Command.WorkerOptions.invocation config
      ⟨c.target, some l.invocation.package, some c.name, !l.invocation.allFeatures,
        l.invocation.extra⟩ = .ok (l.invocation.forCase c) := by
    intro config
    simp [Command.WorkerOptions.invocation, Invocation.forCase]
  refine ⟨_, read, fun config => ⟨given config, fun i built => ?_⟩, fun around lookup config settled =>
    Command.run_worker read settled (given config)⟩
  rw [given config] at built
  cases built
  exact ⟨rfl, rfl⟩

def dashing : Launcher :=
  ⟨"simrig", ⟨"rig", "all", none, false, ["--case", "", "--", "--no-all-features"]⟩, 7⟩

theorem worker_reads_case_dashing : ∃ o,
    Arguments.read (dashing.arguments ⟨"smoke", "smoke::starts"⟩) = .ok (.worker o) ∧
    ∀ config, o.invocation config = .ok ⟨"rig", "smoke", some "smoke::starts", false,
      ["--case", "", "--", "--no-all-features"]⟩ := by
  obtain ⟨o, read, given, -⟩ := dashing.worker_reads_case ⟨"smoke", "smoke::starts"⟩ (by decide)
    (by decide) (by decide)
  exact ⟨o, read, fun config => (given config).1⟩

end TestRig.Suite.Launcher
