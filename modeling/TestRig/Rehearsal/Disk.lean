import TestRig.Files
import TestRig.Host

/-!
The files of the machine that rehearsals happen on: what is there from the start, and how a text
gets into a file.
-/

namespace TestRig.Rehearsal.Disk

def directories : List Place := [
  ["boot"], ["dev"], ["dev", "pts"], ["dev", "shm"], ["etc"], ["home"], ["media"], ["mnt"], ["opt"],
  ["root"], ["run"], ["srv"], ["sys"], ["tmp"], ["usr"], ["usr", "bin"], ["usr", "lib"],
  ["usr", "lib64"], ["usr", "local"], ["usr", "local", "bin"], ["usr", "local", "sbin"],
  ["usr", "sbin"], ["usr", "share"], ["var"], ["var", "lib"], ["var", "log"], ["var", "tmp"]]

def devices : List (Place × Device) :=
  [(["dev", "null"], .null), (["dev", "zero"], .zero), (["dev", "full"], .full)]

def texts : List (Place × String) := [
  (["etc", "passwd"], "root:x:0:0:root:/root:/bin/bash\n"),
  (["etc", "hosts"], "127.0.0.1\tlocalhost\n")]

/-- Names by which directories below `/usr` go at the root too. -/
def merged : List (Place × Place) :=
  [(["bin"], ["usr", "bin"]), (["sbin"], ["usr", "sbin"]), (["lib"], ["usr", "lib"]),
   (["lib64"], ["usr", "lib64"])]

def contents (programs : List String) : List (Place × Node) :=
  (directories.map fun p => (p, Node.directory)) ++ [(["proc"], Node.directory true)] ++
    (devices.map fun (p, kind) => (p, Node.device kind)) ++
    (texts.map fun (p, text) => (p, Node.file text)) ++
    (programs.map fun name => (["usr", "bin", name], Node.program name))

def equipped (programs : List String) : Files where
  nodes := (contents programs).map fun (p, n) => ((p.length, p), n)
  links := merged

/-- The same machine, seen from a directory of its own that is empty. -/
def settle (f : Files) (home : Place) : Files := { f.put home .directory with home }

def write (f : Files) (path : String) (mode : Host.Writing) (text : String) :
    Except Host.WriteError Files := do
  let (p, f) ← (f.openToWrite path).mapError .opening
  let written := match mode with
    | .replace => f.setText p text
    | .append => f.appendText p text
  written.mapError .writing

def makeDirectory (f : Files) (path : String) : Except SystemError Files := do
  match ← f.slot path with
  | (p, some name) =>
    let q := f.target p name
    if (f.node? q).isSome then throw .fileExists
    if f.admitsNew p then return f.put q .directory else throw .notFound
  | (_, none) => throw .fileExists

def remove (f : Files) (path : String) : Except SystemError Files := do
  match ← f.slot path with
  | (p, some name) =>
    let q := f.target p name
    match f.node? q with
    | none => throw .notFound
    | some (.directory _) => throw .isADirectory
    | some _ => if Files.isSlashed path then throw .notADirectory else return f.remove q
  | (_, none) => throw .isADirectory

end TestRig.Rehearsal.Disk
