import TestRig.Host
import TestRig.Rehearsal.Bytes
import TestRig.Rehearsal.Kernel.Call

/-!
The state of a system: its files, its processes, the files they hold open, and the pipes between them.
What is written to the streams of a worker is kept in pieces, each with the time it came.
-/

namespace TestRig.Rehearsal

namespace Kernel

inductive Stream
  | place (p : Place)
  | pipe (id : Nat)
  | outside (owner : Nat) (channel : Host.Channel)
deriving DecidableEq, Repr

structure OpenFile where
  stream : Stream
  reads : Bool
  writes : Bool
  appends : Bool := false
  offset : Nat := 0
deriving DecidableEq, Repr

/-- What was written to a pipe and not read yet: the front, and pieces behind it, newest first. -/
structure Pipe where
  front : List Char := []
  back : List (List Char) := []
  size : Nat := 0
deriving Repr

namespace Pipe

def contents (p : Pipe) : List Char := p.front ++ p.back.reverse.flatten

def push (p : Pipe) (piece : List Char) : Pipe :=
  { p with back := piece :: p.back, size := p.size + piece.length }

def take (p : Pipe) (cut : List Char → List Char × List Char) (lacks : List Char → Bool) :
    List Char × Pipe :=
  let (piece, rest) := cut p.front
  if lacks piece && !p.back.isEmpty then
    let (piece, rest) := cut p.contents
    (piece, ⟨rest, [], p.size - piece.length⟩)
  else (piece, { p with front := rest, size := p.size - piece.length })

end Pipe

def outsider : Pid := 1

def orphanage : Pid := 0

structure Process where
  pid : Pid
  parent : Pid
  rest : Routine Nat
  /-- When it goes on; a process that waits for something does not say when. -/
  wake : Option Moment
  descriptors : List (Descriptor × Nat) := []
  arrangements : List (Signal × Disposition) := []
  arrived : List Signal := []
  halted : Bool := false
  ending : Option Ending := none

structure Piece where
  owner : Nat
  channel : Host.Channel
  text : String
deriving DecidableEq, Repr

end Kernel

open Kernel in
structure Kernel where
  files : Files := {}
  now : Moment := 0
  processes : List Process := []
  openFiles : List (Nat × OpenFile) := []
  pipes : List (Nat × Pipe) := []
  pieces : List Piece := []
  nextPid : Pid := 4100
  nextId : Nat := 0

namespace Kernel

def process? (k : Kernel) (pid : Pid) : Option Process := k.processes.find? (·.pid == pid)

def put (k : Kernel) (p : Process) : Kernel :=
  { k with processes := k.processes.map fun q => if q.pid = p.pid then p else q }

def stir (k : Kernel) : Kernel :=
  { k with processes := k.processes.map fun p =>
      if p.wake.isNone && p.ending.isNone then { p with wake := some k.now } else p }

def Process.arrangement (p : Process) (n : Signal) : Disposition :=
  if n.isUnstoppable then .standard else (p.arrangements.lookup n).getD .standard

def Process.openFile? (k : Kernel) (p : Process) (d : Descriptor) : Option (Nat × OpenFile) := do
  let id ← p.descriptors.lookup d
  let file ← k.openFiles.lookup id
  return (id, file)

def heldFiles (k : Kernel) : List OpenFile :=
  k.processes.flatMap fun p => p.descriptors.filterMap fun (_, id) => k.openFiles.lookup id

def isWritten (k : Kernel) (s : Stream) : Bool :=
  k.heldFiles.any fun f => f.stream == s && f.writes

def isRead (k : Kernel) (s : Stream) : Bool :=
  k.heldFiles.any fun f => f.stream == s && f.reads

def setOpenFile (k : Kernel) (id : Nat) (f : OpenFile) : Kernel :=
  { k with openFiles := k.openFiles.map fun (i, g) => if i = id then (i, f) else (i, g) }

def sweep (k : Kernel) : Kernel :=
  let held := k.processes.flatMap fun p => p.descriptors.map Prod.snd
  { k with openFiles := k.openFiles.filter fun (id, _) => held.contains id }

def Process.freeFrom (p : Process) (least : Descriptor) : Descriptor :=
  let taken := p.descriptors.map Prod.fst
  ((List.range (taken.length + 1)).map (least + ·) |>.find? (!taken.contains ·)).getD least

def Process.withDescriptor (p : Process) (d : Descriptor) (id : Nat) : Process :=
  { p with descriptors := (d, id) :: p.descriptors.filter (·.1 ≠ d) }

def install (k : Kernel) (p : Process) (f : OpenFile) : Descriptor × Process × Kernel :=
  let d := p.freeFrom 0
  let p := p.withDescriptor d k.nextId
  (d, p, { k with openFiles := (k.nextId, f) :: k.openFiles, nextId := k.nextId + 1 }.put p)

def Process.ended (p : Process) (how : Ending) : Option Process :=
  if p.parent = orphanage then none
  else some ({ p with ending := some how, descriptors := [], wake := none })

def Process.orphaned (p : Process) : Option Process :=
  if p.ending.isSome then none else some ({ p with parent := orphanage })

/-- The end of a process: what it held is let go, its children are orphans, and it stays only until
its parent has learnt of it. -/
def bury (k : Kernel) (pid : Pid) (how : Ending) : Kernel :=
  let rest := k.processes.filterMap fun p =>
    if p.pid = pid then p.ended how else if p.parent = pid then p.orphaned else some p
  { k with processes := rest }.sweep.stir

/-- How long it takes a process that waits to go on after a signal. -/
def wakingTime : Moment := 200

def hit (k : Kernel) (p : Process) (n : Signal) : Kernel :=
  if n = Signal.kill then k.bury p.pid (.killed n)
  else
    let p : Process := { p with halted := p.halted && n != Signal.resume }
    match p.arrangement n with
    | .ignored => k.put p
    | .caught =>
      k.put { p with
        arrived := if p.arrived.contains n then p.arrived else p.arrived ++ [n]
        wake := some (p.wake.getD (k.now + wakingTime)) }
    | .standard =>
      if n.isHarmless then k.put p
      else if n.halts then k.put { p with halted := true }
      else k.bury p.pid (.killed n)

def deliver (k : Kernel) (pid : Pid) (n : Signal) : Except SystemError Unit × Kernel :=
  match k.process? pid with
  | none => (.error (.os 3), k)
  | some p =>
    if Signal.bound ≤ n then (.error .invalidArgument, k)
    else if n = 0 || p.ending.isSome then (.ok (), k)
    else (.ok (), k.hit p n)

def launch (k : Kernel) (owner : Nat) (routine : Routine Nat) (delay : Moment) : Pid × Kernel :=
  let pid := k.nextPid
  let id := k.nextId
  let files := [(id, ⟨.place ["dev", "null"], true, true, false, 0⟩),
    (id + 1, ⟨.outside owner .out, false, true, false, 0⟩),
    (id + 2, ⟨.outside owner .err, false, true, false, 0⟩)]
  let p : Process :=
    { pid, parent := outsider, rest := routine, wake := some (k.now + delay)
      descriptors := [(0, id), (1, id + 1), (2, id + 2)] }
  (pid, { k with
    processes := k.processes ++ [p]
    openFiles := k.openFiles ++ files
    nextPid := pid + 1
    nextId := id + 3 })

def ending? (k : Kernel) (pid : Pid) : Option Ending := (k.process? pid).bind (·.ending)

def isOpen (k : Kernel) (owner : Nat) (channel : Host.Channel) : Bool :=
  k.isWritten (.outside owner channel)

def chunks (k : Kernel) (owner : Nat) : List Host.Chunk :=
  k.pieces.reverse.filterMap fun piece =>
    if piece.owner = owner then some ⟨piece.channel, Bytes.toBytes piece.text⟩ else none

end Kernel

end TestRig.Rehearsal
