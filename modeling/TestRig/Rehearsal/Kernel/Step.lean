import TestRig.Rehearsal.Disk
import TestRig.Rehearsal.Kernel.State

/-!
How a system answers its processes, one question at a time. The process that is due first goes on;
what it asked takes a little time. A question that cannot be answered yet leaves the process waiting
until something has changed.
-/

namespace TestRig.Rehearsal.Kernel

def pipeCapacity : Nat := 65536

def deviceBlock : Nat := 65536

def change (k : Kernel) (path : String) (f : Files → String → Except SystemError Files) :
    Except SystemError Unit × Kernel :=
  match f k.files (Bytes.toText path) with
  | .ok files => (.ok (), { k with files })
  | .error e => (.error e, k)

def overwrite (text : String) (offset : Nat) (piece : String) : String :=
  let old := text.toList
  let gap := List.replicate (offset - old.length) '\u0000'
  let after := old.drop (offset + piece.length)
  String.ofList (old.take offset ++ gap ++ piece.toList ++ after)

def writeAt (k : Kernel) (id : Nat) (f : OpenFile) (place : Place) (text : String) :
    Except SystemError Nat × Kernel :=
  let length := text.length
  let old := k.files.textAt place
  let new := if f.appends then old ++ text else overwrite old f.offset text
  match k.files.setText place new with
  | .error e => (.error e, k)
  | .ok files => (.ok length, { k with files }.setOpenFile id { f with offset := f.offset + length })

/-- So much is written to a pipe in one go or not at all. -/
def pipeUnit : Nat := 4096

def putPipe (k : Kernel) (id : Nat) (pipe : Pipe) : Kernel :=
  { k with pipes := k.pipes.map fun (i, q) => if i = id then (i, pipe) else (i, q) }

/-- Write to a pipe; without readers that is deadly, or at least in vain. -/
def writePipe (k : Kernel) (p : Process) (id : Nat) (text : String) :
    Option (Except SystemError Nat × Kernel) :=
  if !k.isRead (.pipe id) then some (.error .brokenPipe, k.hit p Signal.pipe)
  else
    let pipe := (k.pipes.lookup id).getD {}
    let room := pipeCapacity - pipe.size
    if text.isEmpty then some (.ok 0, k)
    else if room < min pipeUnit text.length then none
    else
      let piece := text.toList.take room
      some (.ok piece.length, k.putPipe id (pipe.push piece))

def write (k : Kernel) (p : Process) (d : Descriptor) (text : String) :
    Option (Except SystemError Nat × Kernel) :=
  match p.openFile? k d with
  | none => some (.error .badDescriptor, k)
  | some (id, f) =>
    if !f.writes then some (.error .badDescriptor, k)
    else match f.stream with
      | .place place => some (k.writeAt id f place text)
      | .pipe pipe => k.writePipe p pipe text
      | .outside owner channel =>
        some (.ok text.length, { k with pieces := ⟨owner, channel, text⟩ :: k.pieces })

def cutLine : (most : Nat) → (done : List Char) → List Char → List Char × List Char
  | 0, done, s => (done.reverse, s)
  | _, done, [] => (done.reverse, [])
  | most + 1, done, c :: rest =>
    if c = '\n' then ((c :: done).reverse, rest) else cutLine most (c :: done) rest

def cut (most : Nat) (line : Bool) (held : List Char) : List Char × List Char :=
  if line then cutLine most [] held else (held.take most, held.drop most)

def readPipe (k : Kernel) (p : Process) (id most : Nat) (line : Bool) :
    Option (Except SystemError String × Kernel) :=
  let pipe := (k.pipes.lookup id).getD {}
  if pipe.size = 0 then
    if !k.isWritten (.pipe id) then some (.ok "", k)
    else if p.arrived.isEmpty then none
    else some (.error .interruptedCall, k)
  else
    let lacks (piece : List Char) : Bool :=
      if line then piece.getLast? != some '\n' else piece.length < most
    let (piece, pipe) := pipe.take (cut most line) lacks
    some (.ok (String.ofList piece), k.putPipe id pipe)

def readAt (k : Kernel) (id : Nat) (f : OpenFile) (place : Place) (most : Nat) (line : Bool) :
    Except SystemError String × Kernel :=
  match k.files.node? place with
  | some (.directory _) => (.error .isADirectory, k)
  | some (.device .null) => (.ok "", k)
  | some (.device _) => (.ok ("".pushn '\u0000' (min most deviceBlock)), k)
  | _ =>
    let (piece, _) := cut most line ((k.files.textAt place).toList.drop f.offset)
    (.ok (String.ofList piece), k.setOpenFile id { f with offset := f.offset + piece.length })

def read (k : Kernel) (p : Process) (d : Descriptor) (most : Nat) (line : Bool) :
    Option (Except SystemError String × Kernel) :=
  match p.openFile? k d with
  | none => some (.error .badDescriptor, k)
  | some (id, f) =>
    if !f.reads then some (.error .badDescriptor, k)
    else match f.stream with
      | .place place => some (k.readAt id f place most line)
      | .pipe pipe => k.readPipe p pipe most line
      | .outside _ _ => some (.error .badDescriptor, k)

def openPlace (f : Files) (path : String) : Opening → Except SystemError (Place × Files)
  | .read => do return (← f.locate path, f)
  | .replace => do
    let (p, f) ← f.openToWrite path
    return (p, ← f.setText p "")
  | .append => f.openToWrite path

def openFile (k : Kernel) (p : Process) (path : String) (how : Opening) :
    Except SystemError Descriptor × Kernel :=
  match openPlace k.files (Bytes.toText path) how with
  | .error e => (.error e, k)
  | .ok (place, files) =>
    let (d, _, k) := { k with files }.install p
      ⟨.place place, how == Opening.read, how != Opening.read, how == Opening.append, 0⟩
    (.ok d, k)

def close (k : Kernel) (p : Process) (d : Descriptor) : Except SystemError Unit × Kernel :=
  if (p.descriptors.lookup d).isNone then (.error .badDescriptor, k)
  else (.ok (), (k.put { p with descriptors := p.descriptors.filter (·.1 ≠ d) }).sweep)

def copy (k : Kernel) (p : Process) (source target : Descriptor) :
    Except SystemError Unit × Kernel :=
  match p.descriptors.lookup source with
  | none => (.error .badDescriptor, k)
  | some id => (.ok (), (k.put (p.withDescriptor target id)).sweep)

def copyAbove (k : Kernel) (p : Process) (source least : Descriptor) :
    Except SystemError Descriptor × Kernel :=
  match p.descriptors.lookup source with
  | none => (.error .badDescriptor, k)
  | some id =>
    let d := p.freeFrom least
    (.ok d, k.put (p.withDescriptor d id))

def makePipe (k : Kernel) (p : Process) : (Descriptor × Descriptor) × Kernel :=
  let id := k.nextId
  let k := { k with pipes := (id, {}) :: k.pipes, nextId := id + 1 }
  let (source, p, k) := k.install p ⟨.pipe id, true, false, false, 0⟩
  let (target, _, k) := k.install p ⟨.pipe id, false, true, false, 0⟩
  ((source, target), k)

def await (k : Kernel) (p : Process) (untilSignal : Bool) : Option (Awaited × Kernel) :=
  let children := k.processes.filter (·.parent == p.pid)
  match children.findSome? fun q => q.ending.map (q.pid, ·) with
  | some (pid, how) =>
    some (.ended pid how, { k with processes := k.processes.filter (·.pid ≠ pid) })
  | none =>
    if children.isEmpty then some (.childless, k)
    else if untilSignal && !p.arrived.isEmpty then some (.interrupted, k)
    else none

def examine (k : Kernel) (path : String) : Except SystemError Node := do
  match k.files.node? (← k.files.locate (Bytes.toText path)) with
  | some node => return node
  | none => throw .notFound

def names (k : Kernel) (path : String) : Except SystemError (List String) := do
  let place ← k.files.locateDirectory (Bytes.toText path)
  return (k.files.namesIn place).map Bytes.ofText

/-- The answer to a question, if there is one yet. -/
def serve (k : Kernel) (p : Process) : (q : Ask) → Option (q.Answer × Kernel)
  | .write d text => k.write p d text
  | .read d most line => k.read p d most line
  | .openFile path how => some (k.openFile p path how)
  | .close d => some (k.close p d)
  | .copy source target => some (k.copy p source target)
  | .copyAbove source least => some (k.copyAbove p source least)
  | .pipe => some (k.makePipe p)
  | .double => some ((none : Option Pid), k)
  | .become _ _ _ => some ((.notFound : SystemError), k)
  | .finish _ => none
  | .await untilSignal => k.await p untilSignal
  | .signal process n => some (k.deliver process n)
  | .arrange n how =>
    some ((), k.put { p with arrangements := (n, how) :: p.arrangements.filter (·.1 ≠ n) })
  | .arrived => some ((p.arrived.mergeSort (· ≤ ·) : List Signal),
      if p.arrived.isEmpty then k else k.put { p with arrived := [] })
  | .pause _ => some ((), k)
  | .identity => some ((p.pid : Pid), k)
  | .examine path => some (k.examine path, k)
  | .names path => some (k.names path, k)
  | .makeDirectory path => some (k.change path Disk.makeDirectory)
  | .remove path => some (k.change path Disk.remove)

def cost : Ask → Moment
  | .double => 200
  | .become _ _ _ => 500
  | .arrived => 10
  | .pause length => length
  | _ => 2

/-- Questions whose answers may let somebody else go on. -/
def stirs : Ask → Bool
  | .write _ _ => true
  | .read _ _ _ => true
  | .close _ => true
  | .copy _ _ => true
  | .signal _ _ => true
  | _ => false

/-- Descriptors from here on are not handed to another program. -/
def privateDescriptors : Descriptor := 10

abbrev Loader := String → List String → Variables → Option (Routine Nat)

def program (load : Loader) (f : Files) (path : String) (arguments : List String)
    (environment : Variables) : Except SystemError (Routine Nat) := do
  match f.node? (← f.locate (Bytes.toText path)) with
  | some (.program name) =>
    match load name arguments environment with
    | some routine => return routine
    | none => throw .notRunnable
  | some _ => throw .permissionDenied
  | none => throw .notFound

def due? (k : Kernel) : Option (Moment × Process) :=
  k.processes.foldl (fun best p =>
    match p.wake with
    | some time =>
      if p.halted then best
      else match best with
        | some (t, q) => if time < t then some (time, p) else some (t, q)
        | none => some (time, p)
    | none => best) none

def goOn (k : Kernel) (pid : Pid) (rest : Routine Nat) (time : Moment) : Kernel :=
  { k with processes := k.processes.map fun p =>
      if p.pid = pid && p.ending.isNone then { p with rest, wake := some time } else p }

def double (k : Kernel) (p : Process) (next : Option Pid → Routine Nat) : Kernel :=
  let pid := k.nextPid
  let q : Process :=
    { p with pid, parent := p.pid, rest := next none, wake := some (k.now + 300), arrived := [] }
  let k := { k with processes := k.processes ++ [q], nextPid := pid + 1 }
  k.goOn p.pid (next (some pid)) (k.now + cost .double)

def replaceProgram (k : Kernel) (p : Process) (routine : Routine Nat) (time : Moment) : Kernel :=
  (k.put { p with
    rest := routine
    wake := some time
    descriptors := p.descriptors.filter (·.1 < privateDescriptors)
    arrangements := p.arrangements.filter (·.2 == .ignored)
    arrived := [] }).sweep.stir

def step (load : Loader) (k : Kernel) : Option Kernel :=
  match k.due? with
  | none => none
  | some (time, p) =>
    let k := { k with now := max k.now time }
    match p.rest with
    | .done code => some (k.bury p.pid (.exited (code % 256)))
    | .ask (.finish code) _ => some (k.bury p.pid (.exited (code % 256)))
    | .ask .double next => some (k.double p next)
    | .ask (.become path arguments environment) next =>
      let time := k.now + cost (.become path arguments environment)
      match program load k.files path arguments environment with
      | .ok routine => some (k.replaceProgram p routine time)
      | .error e => some (k.goOn p.pid (next e) time)
    | .ask q next =>
      match k.serve p q with
      | none => some (k.put { p with wake := none })
      | some (answer, after) =>
        let after := if stirs q then after.stir else after
        some (after.goOn p.pid (next answer) (k.now + cost q))

end TestRig.Rehearsal.Kernel
