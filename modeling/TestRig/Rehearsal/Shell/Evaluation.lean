import TestRig.Rehearsal.Shell.Builtins

/-!
Running commands. A command knows whether it is the last thing the shell does, in which case another
program takes the place of the shell, and whether its status is tested, in which case it may fail. The
fuel bounds how deep commands lie in one another and how often loops go round.
-/

namespace TestRig.Rehearsal.Shell.Evaluation

open Act Expansion Builtin
open Kernel (Descriptor Pid Signal)

/-- How a command is run. -/
structure Place where
  last : Bool := false
  tested : Bool := false

def Place.within (p : Place) : Place := { p with last := false }

def finish {α : Type} : Act α := do
  let e : Empty ← ask (.finish (← get).status)
  return e.elim

def becomeChild (background alone : Bool) : Act Unit := do
  for (n, action) in (← get).traps do
    if n ≠ 0 && !action.isEmpty then ask (.arrange n .standard)
  modify fun s => { s with
    traps := s.traps.filter fun (_, action) => action.isEmpty
    jobs := [], interruptedStatus := none, out := "" }
  if background then
    ask (.arrange Signal.interrupt .ignored)
    ask (.arrange Signal.quit .ignored)
    if alone then
      close 0
      let _ ← ask (.openFile "/dev/null" .read)

def announce : Kernel.Ending → Act Unit
  | .exited _ => return ()
  | .killed n => do
    if n ≠ Signal.interrupt && n ≠ Signal.pipe then
      let _ ← write 2 (Signal.description n ++ "\n")

def addJob (members : List Pid) : Act Unit :=
  modify fun s => { s with jobs := ⟨members.map (·, none)⟩ :: s.jobs }

def record (pid : Pid) (how : Kernel.Ending) : Act Unit :=
  modify fun s => { s with jobs := s.jobs.map (·.record pid how) }

def awaitJob (leader : Pid) : Act Nat := go enough
where
  go : (fuel : Nat) → Act Nat
    | 0 => return 127
    | fuel + 1 => do
      match (← get).job? leader with
      | none => return 127
      | some job =>
        if job.isDone then
          modify fun s => { s with jobs := s.jobs.filter (·.leader ≠ some leader) }
          return job.status
        match ← ask (.await false) with
        | .ended pid how => do
          record pid how
          if job.members.any (·.1 == pid) then announce how
          go fuel
        | _ => return 127

def awaitSome (leader : Option Pid) : Act Bool := go enough
where
  go : (fuel : Nat) → Act Bool
    | 0 => return false
    | fuel + 1 => do
      let s ← get
      let jobs := match leader with
        | some pid => (s.job? pid).toList
        | none => s.jobs
      if jobs.all (·.isDone) then return true
      match ← ask (.await true) with
      | .ended pid how => do
        record pid how
        if leader.isSome && jobs.any (·.members.any (·.1 == pid)) then announce how
        go fuel
      | .interrupted => return false
      | .childless => return true

def reasonToRun (e : SystemError) : String :=
  if e = .notFound || e = .notADirectory then "not found" else e.reason

def execute {α : Type} (arguments : List String) : Act α := do
  let name := arguments.headD ""
  let s ← get
  let e ← try' s (pathsOf s name) .notFound
  warn (name ++ ": " ++ reasonToRun e)
  let absent := [SystemError.notFound, .notADirectory, .nameTooLong].contains e
  setStatus (if absent then 127 else 126)
  throw .leave
where
  try' (s : State) : List String → SystemError → Act SystemError
    | [], cause => return cause
    | path :: rest, cause => do
      let e : SystemError ← ask (.become path arguments s.environment)
      try' s rest (if e = .notFound || e = .notADirectory then cause else e)

structure Saved where
  stream : Descriptor
  kept : Option Descriptor

def keptFrom : Descriptor := 10

def keep (stream : Descriptor) : Act Saved := do
  match ← ask (.copyAbove stream keptFrom) with
  | .ok (d : Descriptor) => return ⟨stream, some d⟩
  | .error (_ : SystemError) => return ⟨stream, none⟩

def Saved.restore (s : Saved) : Act Unit := do
  match s.kept with
  | some d =>
    let _ ← ask (.copy d s.stream)
    close d
  | none => close s.stream

def settle (opened stream : Descriptor) : Act Unit := do
  if opened ≠ stream then
    let _ ← ask (.copy opened stream)
    close opened

inductive Target
  | file (path : String) (direction : Direction)
  | document (text : String)
  | copy (source : Option Descriptor)

def redirect (stream : Descriptor) : Target → Act Unit
  | .file path direction => do
    let (how, verb, missing) := match direction with
      | .input => (Kernel.Opening.read, "open ", "No such file")
      | .append => (.append, "create ", "Directory nonexistent")
      | _ => (.replace, "create ", "Directory nonexistent")
    match ← ask (.openFile path how) with
    | .ok (d : Descriptor) => settle d stream
    | .error (e : SystemError) =>
      let reason := if e = .notFound || e = .notADirectory then missing else e.reason
      fail ("cannot " ++ verb ++ path ++ ": " ++ reason)
  | .document text => do
    let (source, target) : Descriptor × Descriptor ← ask .pipe
    let _ ← write target text
    close target
    settle source stream
  | .copy none => close stream
  | .copy (some source) => do
    if source ≠ stream then
      match ← ask (.copy source stream) with
      | .ok () => pure ()
      | .error (e : SystemError) => fail (toString source ++ ": " ++ e.reason)

def guarded (a : Act Nat) : Act (Nat × Bool) :=
  tryCatch (do return (← a, false)) fun j =>
    match j with
    | .failure => do return ((← get).status, true)
    | j => throw j

def flush (name : String) (status : Nat) : Act Nat := do
  let text := (← get).out
  modify fun s => { s with out := "" }
  match ← write 1 text with
  | .ok () => return status
  | .error _ => do
    warn (name ++ ": I/O error")
    return status ||| 1

def breakTo (jump : Nat → Jump) (words : List String) : Act Nat := do
  let n ← (words.head?.map number).getD (return 1)
  if n = 0 then illegalNumber "0"
  let loops := (← get).loops
  if loops = 0 then return 0
  setStatus 0
  throw (jump (min n loops))

def trap : List String → Act Nat
  | [] => return 0
  | first :: rest => do
    let bare := rest.isEmpty
    arrange (if bare then [first] else rest) (if bare || first = "-" then none else some first)
where
  arrange : List String → Option String → Act Nat
    | [], _ => return 0
    | word :: rest, action => do
      match signal? word with
      | none => do
        let _ ← write 2 ("trap: " ++ word ++ ": bad trap\n")
        return 1
      | some n => do
        modify fun s => { s with
          traps := (action.map (n, ·)).toList ++ s.traps.filter (·.1 ≠ n) }
        if n ≠ 0 then
          ask (.arrange n (match action with
            | none => .standard
            | some "" => .ignored
            | some _ => .caught))
        arrange rest action

def wait (words : List String) : Act Nat := do
  if !words.isEmpty then each words 127
  else if ← awaitSome none then return 0
  else interrupted
where
  interrupted : Act Nat := do
    let signals : List Signal ← ask .arrived
    -- The signals are still to be acted upon.
    for n in signals do
      let _ ← ask (.signal (← get).pid n)
    return 128 + signals.getLastD 0
  each : List String → Nat → Act Nat
    | [], status => return status
    | word :: rest, _ => do
      let pid ← number word
      if ((← get).job? pid).isNone then each rest 127
      else if ← awaitSome (some pid) then each rest ((((← get).job? pid).map Job.status).getD 127)
      else interrupted

mutual

def attend : (fuel : Nat) → Act Unit
  | 0 => return ()
  | fuel + 1 => do
    let arrived : List Signal ← ask .arrived
    actOn fuel arrived

def actOn : (fuel : Nat) → List Signal → Act Unit
  | 0, _ => return ()
  | _, [] => return ()
  | fuel + 1, n :: rest => do
    let s ← get
    match s.traps.lookup n with
    | none => actOn fuel rest
    | some action => do
      let status := s.interruptedStatus.getD s.status
      modify fun s => { s with interruptedStatus := some status }
      let _ ← runText fuel action {}
      modify fun s => { s with status, interruptedStatus := none }
      actOn fuel rest

def runText : (fuel : Nat) → String → Place → Act Nat
  | 0, _, _ => return 0
  | fuel + 1, text, p => do
    runLines fuel { rest := text.toList, nextDocument := (← get).nextDocument } p 0

def runLines : (fuel : Nat) → Reader → Place → (status : Nat) → Act Nat
  | 0, _, _, status => return status
  | fuel + 1, r, p, status => do
    match r.readLine with
    | .error f => do
      modify fun s => { s with line := f.line }
      fail f.message
    | .ok (c, r) => do
      modify fun s => { s with
        documents := r.documents ++ s.documents, nextDocument := r.nextDocument }
      let r := { r with documents := [] }
      let atEnd := r.pushed matches some .finish
      let status ← match c with
        | some c => run fuel c ⟨p.last && atEnd, p.tested⟩
        | none => pure status
      if atEnd || r.rest.isEmpty then return status
      runLines fuel r p status

def leave {α : Type} : (fuel : Nat) → Act α
  | 0 => finish
  | fuel + 1 => do
    let s ← get
    match s.traps.lookup 0 with
    | none => finish
    | some action => do
      modify fun s => { s with
        traps := s.traps.filter (·.1 ≠ 0), interruptedStatus := some s.status }
      let ended ← tryCatch (do
          let _ ← runText fuel action {}
          return true) fun _ => return false
      if ended then setStatus s.status
      finish

def runOut {α : Type} : (fuel : Nat) → Act Unit → Act α
  | 0, _ => finish
  | fuel + 1, a => do
    tryCatch a fun _ => return ()
    leave fuel

def double : (fuel : Nat) → (background alone : Bool) → Act Unit → Act Pid
  | 0, _, _, _ => return 0
  | fuel + 1, background, alone, a => do
    match ← ask .double with
    | some (pid : Pid) => return pid
    | none => runOut fuel do
      becomeChild background alone
      a

def runApart : (fuel : Nat) → Act Unit → Act Nat
  | 0, _ => return 0
  | fuel + 1, a => do
    let pid ← double fuel false false a
    addJob [pid]
    awaitJob pid

def outputOf : (fuel : Nat) → Option Command → Act String
  | 0, _ => return ""
  | _, none => do
    modify fun s => { s with outputStatus := 0 }
    return ""
  | fuel + 1, some c => do
    let (source, target) : Descriptor × Descriptor ← ask .pipe
    let pid ← double fuel false false do
      close source
      settle target 1
      let _ ← run fuel c ⟨true, false⟩
    close target
    let text ← readAll source
    close source
    addJob [pid]
    let status ← awaitJob pid
    modify fun s => { s with outputStatus := status }
    return String.ofList (text.toList.filter (· ≠ '\x00'))

def targets : (fuel : Nat) → List Redirection → Act (List (Descriptor × Target))
  | 0, _ => return []
  | _, [] => return []
  | fuel + 1, r :: rest => do
    let t ← match r with
      | .document stream number => do
        let body := ((← get).documents.lookup number).getD []
        pure (stream, Target.document (← oneText (outputOf fuel) body))
      | .file stream direction word => do
        let value ← oneText (outputOf fuel) word
        if direction == .copyIn || direction == .copyOut then
          if value = "-" then pure (stream, Target.copy none)
          else match value.toNat? with
            | some d => pure (stream, Target.copy (some d))
            | none => fail "Syntax error: Bad fd number"
        else pure (stream, Target.file value direction)
    return t :: (← targets fuel rest)

/-- Run something with redirections made, and whether they could not be made; they stay if they are
to be kept. -/
def redirected : (fuel : Nat) → List Redirection → (keeps : Bool) → Act Nat → Act (Nat × Bool)
  | 0, _, _, _ => return (0, false)
  | fuel + 1, redirections, keeps, a => do
    let all ← targets fuel redirections
    let saved ← if keeps then pure [] else (all.map Prod.fst).eraseDups.mapM keep
    let (status, failed) ← guarded do
      for (stream, t) in all do
        redirect stream t
      return 0
    if failed then
      saved.forM Saved.restore
      return (status, true)
    return (← finally' a (saved.forM Saved.restore), false)

def redirectFully : (fuel : Nat) → List Redirection → Act Unit
  | 0, _ => return ()
  | fuel + 1, redirections => do
    for (stream, t) in ← targets fuel redirections do
      redirect stream t

def run : (fuel : Nat) → Command → Place → Act Nat
  | 0, _, _ => return 0
  | fuel + 1, c, p => do
    attend fuel
    let status ← match c with
      | .simple line settings words redirections => runSimple fuel line settings words redirections p
      | .pipeline commands background => runPipeline fuel commands background p
      | .sequence first second => do
        let _ ← run fuel first p.within
        run fuel second p
      | .both first second => do
        let status ← run fuel first ⟨false, true⟩
        if status = 0 then run fuel second p else pure status
      | .either first second => do
        let status ← run fuel first ⟨false, true⟩
        if status = 0 then pure status else run fuel second p
      | .negated body => do
        let status ← run fuel body ⟨false, true⟩
        pure (if status = 0 then 1 else 0)
      | .background line body redirections => do
        modify fun s => { s with line }
        let pid ← double fuel true true do
          redirectFully fuel redirections
          let _ ← run fuel body ⟨true, false⟩
        addJob [pid]
        modify fun s => { s with lastBackground := some pid }
        pure 0
      | .subshell line body redirections => do
        modify fun s => { s with line }
        let inside : Act Unit := do
          redirectFully fuel redirections
          let _ ← run fuel body ⟨true, p.tested⟩
        if p.last && !(← get).hasTraps then do
          inside
          throw .leave
        else runApart fuel inside
      | .group line body redirections => do
        modify fun s => { s with line }
        let (status, failed) ← redirected fuel redirections false (run fuel body p.within)
        if failed && !p.tested && (← get).hasOption 'e' then
          setStatus status
          throw .leave
        pure status
      | .choice condition yes no => do
        let status ← run fuel condition ⟨false, true⟩
        if status = 0 then run fuel yes p
        else match no with
          | some no => run fuel no p
          | none => pure 0
      | .loop verdict condition body =>
        inLoop (repeatLoop fuel verdict condition body p.within 0)
      | .each line name items body => do
        modify fun s => { s with line }
        let all ← items.mapM (fields (outputOf fuel))
        inLoop (repeatEach fuel name all.flatten body p.within 0)
      | .select line subject branches => do
        modify fun s => { s with line }
        runBranch fuel (← oneText (outputOf fuel) subject).toList branches p
      | .define name body => do
        modify fun s => { s with functions := (name, body) :: s.functions.filter (·.1 ≠ name) }
        pure 0
    setStatus status
    let counts := match c with
      | .simple _ _ _ _ => true
      | .pipeline _ _ => true
      | .subshell _ _ _ => true
      | _ => false
    if counts && status ≠ 0 && !p.tested && (← get).hasOption 'e' then throw .leave
    attend fuel
    if p.last then throw .leave
    return (← get).status
where
  inLoop (a : Act Nat) : Act Nat := do
    modify fun s => { s with loops := s.loops + 1 }
    finally' a (modify fun s => { s with loops := s.loops - 1 })

/-- One round of a loop, or its condition: the status, whether the loop was left, and whether the
round was cut short. -/
def runRound : (fuel : Nat) → Command → Place → Act (Nat × Bool × Bool)
  | 0, _, _ => return (0, true, false)
  | fuel + 1, body, p =>
    tryCatch (do return (← run fuel body p, false, false)) fun j =>
      match j with
      | .stopLoops (n + 2) => throw (.stopLoops (n + 1))
      | .stopLoops _ => return (0, true, false)
      | .nextRound (n + 2) => throw (.nextRound (n + 1))
      | .nextRound _ => return (0, false, true)
      | j => throw j

def repeatLoop : (fuel : Nat) → (verdict : Bool) → (condition body : Command) → Place →
    (status : Nat) → Act Nat
  | 0, _, _, _, _, status => return status
  | fuel + 1, verdict, condition, body, p, status => do
    let (answer, left, short) ← runRound fuel condition ⟨false, true⟩
    if left || !short && (answer = 0) ≠ verdict then return status
    let (status, left, _) ← runRound fuel body p
    if left then return status else repeatLoop fuel verdict condition body p status

def repeatEach : (fuel : Nat) → (name : String) → List String → (body : Command) → Place →
    (status : Nat) → Act Nat
  | 0, _, _, _, _, status => return status
  | _, _, [], _, _, status => return status
  | fuel + 1, name, item :: rest, body, p, _ => do
    assign name item
    let (status, left, _) ← runRound fuel body p
    if left then return status else repeatEach fuel name rest body p status

def runBranch : (fuel : Nat) → List Char → List (List Word × Option Command) → Place → Act Nat
  | 0, _, _, _ => return 0
  | _, _, [], _ => return 0
  | fuel + 1, value, (patterns, body) :: rest, p => do
    let fitting ← patterns.filterM fun word => do
      return Pattern.fits (← pattern (outputOf fuel) word) value
    match fitting, body with
    | [], _ => runBranch fuel value rest p
    | _, some body => run fuel body p
    | _, none => return 0

def runPipeline : (fuel : Nat) → List Command → (background : Bool) → Place → Act Nat
  | 0, _, _, _ => return 0
  | fuel + 1, commands, background, p => do
    let pids ← startPipeline fuel commands none background true p.tested
    addJob pids
    let leader := pids.getLastD 0
    if background then do
      modify fun s => { s with lastBackground := some leader }
      return 0
    else awaitJob leader

def startPipeline : (fuel : Nat) → List Command → (source : Option Descriptor) →
    (background first tested : Bool) → Act (List Pid)
  | 0, _, _, _, _, _ => return []
  | _, [], _, _, _, _ => return []
  | fuel + 1, c :: rest, source, background, first, tested => do
    let ends : Option (Descriptor × Descriptor) ← if rest.isEmpty then pure none
      else do pure (some (← ask .pipe))
    let pid ← double fuel background first do
      ends.forM fun (next, _) => close next
      source.forM fun d => settle d 0
      ends.forM fun (_, target) => settle target 1
      let _ ← run fuel c ⟨true, tested⟩
    source.forM close
    ends.forM fun (_, target) => close target
    return pid :: (← startPipeline fuel rest (ends.map Prod.fst) background false tested)

def expandWords : (fuel : Nat) → List Word → (done : List String) → Act (List String)
  | 0, _, done => return done
  | _, [], done => return done
  | fuel + 1, word :: rest, done => do
    let more ← match done.head? == some "export", word.assignment? with
      | true, some (name, value) => do pure [name ++ "=" ++ (← oneText (outputOf fuel) value)]
      | _, _ => fields (outputOf fuel) word
    expandWords fuel rest (done ++ more)

def runSimple : (fuel : Nat) → (line : Nat) → (settings words : List Word) → List Redirection →
    Place → Act Nat
  | 0, _, _, _, _, _ => return 0
  | fuel + 1, line, settings, words, redirections, p => do
    modify fun s => { s with line, outputStatus := 0 }
    match ← expandWords fuel words [] with
    | [] => do
      let (status, _) ← redirected fuel redirections false do
        let _ ← assignAll fuel settings false
        return (← get).outputStatus
      return status
    | name :: arguments => do
      let found ← find name
      let special := specialNames.contains name
      let (status, failed) ← redirected fuel redirections (name = "exec") do
        let before := (← get).values
        let names ← assignAll fuel settings !special
        if (← get).hasOption 'x' then
          let _ ← write 2 ("+ " ++ " ".intercalate (name :: arguments) ++ "\n")
        let hidden := if special then [] else names
        finally' (perform fuel found name arguments p special) do
          for n in hidden do
            modify fun s => s.putValue n (before.lookup n)
      if failed then
        setStatus status
        if special then throw .failure
      return status

def assignAll : (fuel : Nat) → List Word → (exported : Bool) → Act (List String)
  | 0, _, _ => return []
  | _, [], _ => return []
  | fuel + 1, word :: rest, exported => do
    match word.assignment? with
    | none => assignAll fuel rest exported
    | some (name, value) => do
      assign name (← oneText (outputOf fuel) value) exported
      return name :: (← assignAll fuel rest exported)

def perform : (fuel : Nat) → Found → (name : String) → (arguments : List String) → Place →
    (special : Bool) → Act Nat
  | 0, _, _, _, _, _ => return 0
  | fuel + 1, found, name, arguments, p, special => do
    match found with
    | .missing e => do
      warn (name ++ ": " ++ reasonToRun e)
      return if e = .notFound then 127 else 126
    | .function body => runFunction fuel body arguments p
    | .builtin => runBuiltin fuel name arguments p special
    | .program =>
      if p.last && !(← get).hasTraps then execute (name :: arguments)
      else runApart fuel (execute (name :: arguments))

def runFunction : (fuel : Nat) → Command → List String → Place → Act Nat
  | 0, _, _, _ => return 0
  | fuel + 1, body, words, p => do
    let s ← get
    set { s with positional := words, loops := 0 }
    finally' (tryCatch (run fuel body ⟨false, p.tested⟩) fun j =>
      match j with
      | .goBack => do return (← get).status
      | j => throw j)
      (modify fun t => { t with positional := s.positional, loops := s.loops })

def runBuiltin : (fuel : Nat) → (name : String) → (arguments : List String) → Place →
    (special : Bool) → Act Nat
  | 0, _, _, _, _ => return 0
  | fuel + 1, name, arguments, p, special => do
    let outer := (← get).running
    modify fun s => { s with running := some name, out := "" }
    let act := match table.lookup name with
      | some command => command arguments
      | none => control fuel name arguments p
    let result ← tryCatch (Except.ok <$> act) fun j => return Except.error j
    let status ← flush name (result.toOption.getD 0)
    modify fun s => { s with running := outer }
    match result with
    | .ok _ => return status
    | .error j => if j = .failure && !special then return (← get).status else throw j

def control : (fuel : Nat) → (name : String) → List String → Place → Act Nat
  | 0, _, _, _ => return 0
  | fuel + 1, name, words, p => do
    match name with
    | "break" => breakTo .stopLoops words
    | "continue" => breakTo .nextRound words
    | "return" => do
      if let some word := words.head? then setStatus (← number word)
      throw .goBack
    | "exit" => do
      match words with
      | [] => modify fun s => { s with status := s.interruptedStatus.getD s.status }
      | word :: _ => setStatus (← number word)
      throw .leave
    | "eval" => runText fuel (" ".intercalate words) p.within
    | "exec" => if words.isEmpty then return 0 else execute words
    | "trap" => trap words
    | _ => wait words

end

end TestRig.Rehearsal.Shell.Evaluation
