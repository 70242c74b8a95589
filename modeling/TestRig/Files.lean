import TestRig.Path
import TestRig.SystemError

/-!
A tree of files and directories, addressed by path texts. A path is walked from the root or from the
directory the program works in; every step, the dots included, has to start in a directory. Where a
path ends in a name that is not there, something can be made under that name.
-/

namespace TestRig

abbrev Place := List String

inductive Device
  | null
  | zero
  | full
deriving DecidableEq, Repr

inductive Node
  /-- A text; where bytes matter, it has one character for each. -/
  | file (text : String) (runnable : Bool := false)
  | program (name : String)
  | device (kind : Device)
  /-- In a fixed directory nothing can be made. -/
  | directory (fixed : Bool := false)
deriving DecidableEq, Repr

namespace Node

def isDirectory : Node → Bool
  | directory _ => true
  | _ => false

def text : Node → String
  | file text _ => text
  | _ => ""

def withText (n : Node) (text : String) : Except SystemError Node :=
  match n with
  | file _ runnable => .ok (file text runnable)
  | device .full => if text.isEmpty then .ok n else .error .noSpace
  | n => .ok n

end Node

structure Files where
  nodes : List ((Nat × Place) × Node) := []
  links : List (Place × Place) := []
  home : Place := []
deriving DecidableEq, Repr

namespace Files

def insertNode (key : Nat × Place) (n : Node) :
    List ((Nat × Place) × Node) → List ((Nat × Place) × Node)
  | [] => [(key, n)]
  | (k, m) :: rest => if k = key then (key, n) :: rest else (k, m) :: insertNode key n rest

theorem lookup_insertNode_self (key : Nat × Place) (n : Node) (l : List ((Nat × Place) × Node)) :
    (insertNode key n l).lookup key = some n := by
  induction l with
  | nil => simp [insertNode]
  | cons first rest ih =>
    obtain ⟨k, m⟩ := first
    by_cases h : k = key
    · simp [insertNode, h]
    · have : key ≠ k := fun e => h e.symm
      simp [insertNode, h, List.lookup_cons, beq_false_of_ne this, ih]

theorem lookup_insertNode_of_ne {key other : Nat × Place} (h : other ≠ key) (n : Node)
    (l : List ((Nat × Place) × Node)) : (insertNode key n l).lookup other = l.lookup other := by
  induction l with
  | nil => simp [insertNode, List.lookup_cons, beq_false_of_ne h]
  | cons first rest ih =>
    obtain ⟨k, m⟩ := first
    by_cases hk : k = key
    · subst hk; simp [insertNode, List.lookup_cons, beq_false_of_ne h]
    · simp [insertNode, hk, List.lookup_cons, ih]

/-- The root is always a directory. -/
def node? (f : Files) (p : Place) : Option Node :=
  if p = [] then some .directory else f.nodes.lookup (p.length, p)

def put (f : Files) (p : Place) (n : Node) : Files :=
  { f with nodes := insertNode (p.length, p) n f.nodes }

theorem node?_put_self (f : Files) {p : Place} (h : p ≠ []) (n : Node) :
    (f.put p n).node? p = some n := by
  simp [node?, put, h, lookup_insertNode_self]

theorem node?_put_of_ne (f : Files) {p q : Place} (h : q ≠ p) (n : Node) :
    (f.put p n).node? q = f.node? q := by
  have : (q.length, q) ≠ (p.length, p) := fun e => h (Prod.mk.inj e).2
  simp [node?, put, lookup_insertNode_of_ne this]

def remove (f : Files) (p : Place) : Files :=
  { f with nodes := f.nodes.filter (·.1.2 ≠ p) }

def requireDirectory (f : Files) (p : Place) : Except SystemError Unit :=
  match f.node? p with
  | some (.directory _) => .ok ()
  | some _ => .error .notADirectory
  | none => .error .notFound

def longestName : Nat := 255

def longestPath : Nat := 4095

inductive Step
  | here
  | parent
  | name (text : String)
deriving DecidableEq, Repr

def steps (path : String) : List Step :=
  (Text.pieces '/' path.toList).filterMap fun piece =>
    if piece = [] then none
    else if piece = ['.'] then some .here
    else if piece = ['.', '.'] then some .parent
    else some (.name (String.ofList piece))

/-- Why a path is refused before anything is looked up. -/
def objection? (path : String) : Option SystemError :=
  if path.contains '\u0000' then some .nulInPath
  else if path.isEmpty then some .notFound
  else if longestPath < path.utf8ByteSize then some .nameTooLong
  else none

def start (f : Files) (path : String) : Place := if Path.isAbsolute path.toList then [] else f.home

def target (f : Files) (p : Place) (name : String) : Place :=
  let q := p ++ [name]
  (f.links.lookup q).getD q

def step (f : Files) (p : Place) (s : Step) : Except SystemError Place := do
  f.requireDirectory p
  match s with
  | .here => return p
  | .parent => return p.dropLast
  | .name text =>
    if longestName < text.utf8ByteSize then throw .nameTooLong
    let q := f.target p text
    if (f.node? q).isNone then throw .notFound
    return q

def walk (f : Files) : (start : Place) → List Step → Except SystemError Place
  | p, [] => .ok p
  | p, s :: rest => do f.walk (← f.step p s) rest

def isSlashed (path : String) : Bool := path.toList.getLast? == some '/'

def check (path : String) : Except SystemError Unit :=
  match objection? path with
  | some e => .error e
  | none => .ok ()

def locate (f : Files) (path : String) : Except SystemError Place := do
  check path
  let p ← f.walk (f.start path) (steps path)
  if isSlashed path then f.requireDirectory p
  return p

def locateDirectory (f : Files) (path : String) : Except SystemError Place := do
  let p ← f.locate path
  f.requireDirectory p
  return p

def read? (f : Files) (path : String) : Option String :=
  match f.locate path with
  | .ok p =>
    match f.node? p with
    | some (.directory _) => none
    | node => node.map Node.text
  | .error _ => none

/-- The directory a path ends in and the last step from there, if that is a name. -/
def slot (f : Files) (path : String) : Except SystemError (Place × Option String) := do
  check path
  let all := steps path
  let p ← f.walk (f.start path) all.dropLast
  f.requireDirectory p
  match all.getLast? with
  | some (.name text) =>
    if longestName < text.utf8ByteSize then throw .nameTooLong
    return (p, some text)
  | _ => return (p, none)

def admitsNew (f : Files) (p : Place) : Bool := f.node? p != some (.directory true)

/-- Where a file can be written, which is made if it is not there. -/
def openToWrite (f : Files) (path : String) : Except SystemError (Place × Files) := do
  match ← f.slot path with
  | (p, some name) =>
    if isSlashed path then throw .isADirectory
    let q := f.target p name
    match f.node? q with
    | some (.directory _) => throw .isADirectory
    | some _ => return (q, f)
    | none => if f.admitsNew p then return (q, f.put q (.file "")) else throw .notFound
  | (_, none) => throw .isADirectory

def textAt (f : Files) (p : Place) : String := ((f.node? p).map Node.text).getD ""

def setText (f : Files) (p : Place) (text : String) : Except SystemError Files :=
  match f.node? p with
  | none => .ok f
  | some n => do return f.put p (← n.withText text)

def appendText (f : Files) (p : Place) (text : String) : Except SystemError Files :=
  f.setText p (f.textAt p ++ text)

def replace (f : Files) (path text : String) : Except SystemError Files := do
  let (p, f) ← f.openToWrite path
  f.setText p text

/-- What lies behind a path's components when it is walked to make directories: where it has got to,
and whether a directory had to be made on the way. -/
structure Making where
  files : Files
  place : Place
  made : Bool := false

/-- One component of a path whose directories are made where they are missing. A path that closes
with a dot names its last directory twice, and that one is not made. -/
def Making.step (m : Making) (last dotted : Bool) (text : String) : Except SystemError Making := do
  if longestName < text.utf8ByteSize then throw .nameTooLong
  let q := m.files.target m.place text
  match m.files.node? q with
  | some (.directory _) => return { m with place := q }
  | some _ =>
    throw (if (m.made || last) && !(last && dotted) then .fileExists else .notADirectory)
  | none =>
    if last && dotted || !m.files.admitsNew m.place then throw .notFound
    return { files := m.files.put q .directory, place := q, made := true }

def Making.along (dotted : Bool) : Making → List Path.Component → Except SystemError Making
  | m, [] => .ok m
  | m, .name text :: rest => do
    Making.along dotted (← m.step rest.isEmpty dotted (String.ofList text)) rest
  | m, .parent :: rest => Making.along dotted { m with place := m.place.dropLast } rest
  | m, _ :: rest => Making.along dotted m rest

def createAll (f : Files) (path : String) : Except SystemError Files :=
  if path.isEmpty then .ok f
  else do
    check path
    let dotted := (steps path).getLast? == some .here
    let m ← Making.along dotted ⟨f, f.start path, false⟩ (Path.components path.toList)
    return m.files

def namesIn (f : Files) (dir : Place) : List String :=
  let names := (f.nodes.map (·.1.2) ++ f.links.map Prod.fst).filterMap fun p =>
    match p.getLast? with
    | some name => if p.dropLast = dir then some name else none
    | none => none
  names.mergeSort fun a b => a ≤ b

end Files

end TestRig
