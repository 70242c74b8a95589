import TestRig.Rehearsal.Shell.Sum

/-!
Text made by a format: escapes, and conversions that take one argument each. The format is used over
and over until all arguments have been taken.
-/

namespace TestRig.Rehearsal.Shell.Format

open Shell.Sum (isSpace number readNumber)

def isOctal (c : Char) : Bool := '0' ≤ c && c ≤ '7'

def simpleEscapes : List (Char × Char) :=
  [('\\', '\\'), ('a', '\x07'), ('b', '\x08'), ('f', '\x0c'), ('n', '\n'), ('r', '\r'),
   ('t', '\t'), ('v', '\x0b')]

def escape (s : List Char) : Char × List Char :=
  match s.head?.bind fun c => simpleEscapes.lookup c with
  | some d => (d, s.drop 1)
  | none =>
    let code := (s.take 3).takeWhile isOctal
    if code.isEmpty then ('\\', s) else (Char.ofNat (number 8 code % 256), s.drop code.length)

def unescape : (fuel : Nat) → List Char → List Char → List Char × Bool
  | 0, _, done => (done.reverse, false)
  | _, [], done => (done.reverse, false)
  | _, '\\' :: 'c' :: _, done => (done.reverse, true)
  | fuel + 1, '\\' :: '0' :: d :: tail, done =>
    let (e, more) := escape (if isOctal d then d :: tail else '0' :: d :: tail)
    unescape fuel more (e :: done)
  | fuel + 1, '\\' :: rest, done =>
    let (e, more) := escape rest
    unescape fuel more (e :: done)
  | fuel + 1, c :: rest, done => unescape fuel rest (c :: done)

def unescaped (s : String) : String × Bool :=
  let (text, ends) := unescape (s.length + 1) s.toList []
  (String.ofList text, ends)

structure Layout where
  flags : List Char := []
  width : Nat := 0
  precision : Option Nat := none
deriving Repr

namespace Layout

def pad (l : Layout) (text : String) : String :=
  let missing := l.width - text.length
  if l.flags.contains '-' then text.pushn ' ' missing else "".pushn ' ' missing ++ text

def cut (l : Layout) (text : String) : String :=
  match l.precision with
  | some n => String.ofList (text.toList.take n)
  | none => text

def signOf (l : Layout) (negative : Bool) : String :=
  if negative then "-" else if l.flags.contains '+' then "+"
  else if l.flags.contains ' ' then " " else ""

def whole (l : Layout) (conversion : Char) (value : Int) : String :=
  let signed := conversion = 'd' || conversion = 'i'
  let magnitude := if signed then value.natAbs else Sum.bits value
  let body := match conversion with
    | 'o' => String.ofList (Nat.toDigits 8 magnitude)
    | 'x' => String.ofList (Nat.toDigits 16 magnitude)
    | 'X' => (String.ofList (Nat.toDigits 16 magnitude)).map Char.toUpper
    | _ => toString magnitude
  let body := "".pushn '0' ((l.precision.getD 0) - body.length) ++ body
  let sign := if signed then l.signOf (value < 0) else ""
  if l.flags.contains '0' && l.precision.isNone && !l.flags.contains '-' then
    sign ++ "".pushn '0' (l.width - sign.length - body.length) ++ body
  else l.pad (sign ++ body)

end Layout

structure State where
  pieces : List String := []
  warnings : List String := []
  arguments : List String
  asked : Bool := false
  ended : Bool := false

namespace State

def put (s : State) (text : String) : State := { s with pieces := text :: s.pieces }

def argument (s : State) : String × State :=
  (s.arguments.headD "", { s with arguments := s.arguments.drop 1, asked := true })

def integer (s : State) : Int × State :=
  let (text, s) := s.argument
  let warn (complaint : String) : State :=
    { s with warnings := s.warnings ++ [text ++ ": " ++ complaint] }
  match text.toList with
  | [] => (0, s)
  | q :: tail =>
    if q = '"' || q = '\'' then ((tail.head?.map Char.toNat).getD 0, s)
    else
      let (negative, body) := Sum.sign ((q :: tail).dropWhile isSpace)
      let (n, left) := readNumber body
      if left.length = body.length then (0, warn "expected numeric value")
      else
        let value := Sum.clamp (if negative then -(n : Int) else n)
        (value, if left.isEmpty then s else warn "not completely converted")

end State

def convert (s : State) (text : List Char) : Except String (State × List Char) :=
  let flags := text.takeWhile "-+ #0".toList.contains
  let rest := text.drop flags.length
  let width := rest.takeWhile Char.isDigit
  let rest := rest.drop width.length
  let (precision, rest) := match rest with
    | '.' :: more =>
      (some (number 10 (more.takeWhile Char.isDigit)), more.dropWhile Char.isDigit)
    | rest => (none, rest)
  let l : Layout := { flags, width := number 10 width, precision }
  match rest with
  | [] => .error "missing format character"
  | 's' :: rest =>
    let (a, s) := s.argument
    .ok (s.put (l.pad (l.cut a)), rest)
  | 'b' :: rest =>
    let (a, s) := s.argument
    let (t, ends) := unescaped a
    .ok ({ s.put (l.pad (l.cut t)) with ended := ends }, rest)
  | 'c' :: rest =>
    let (a, s) := s.argument
    .ok (s.put (l.pad (String.singleton (a.toList.headD '\u0000'))), rest)
  | c :: rest =>
    if "dioxXu".toList.contains c then
      let (n, s) := s.integer
      .ok (s.put (l.whole c n), rest)
    else
      .error ("%" ++ String.ofList (text.take (text.length - rest.length)) ++ ": invalid directive")

def pass : (fuel : Nat) → List Char → State → Except String State
  | 0, _, s => .ok s
  | _, [], s => .ok s
  | fuel + 1, c :: rest, s => do
    if s.ended then return s
    match c, rest with
    | '\\', rest =>
      let (d, rest) := escape rest
      pass fuel rest (s.put (String.singleton d))
    | '%', '%' :: rest => pass fuel rest (s.put "%")
    | '%', rest => do
      let (s, rest) ← convert s rest
      pass fuel rest s
    | c, rest => pass fuel rest (s.put (String.singleton c))

def passes (format : List Char) : (fuel : Nat) → State → Except String State
  | 0, s => .ok s
  | fuel + 1, s => do
    let t ← pass (format.length + 1) format { s with asked := false }
    if t.ended || t.arguments.isEmpty || !t.asked then return t else passes format fuel t

/-- What a format makes of its arguments: the text, and complaints about the arguments; or why it is
no format. -/
def apply (format : String) (arguments : List String) :
    Except String (String × List String) :=
  (passes format.toList (arguments.length + 1) { arguments }).map fun s =>
    (String.join s.pieces.reverse, s.warnings)

end TestRig.Rehearsal.Shell.Format
