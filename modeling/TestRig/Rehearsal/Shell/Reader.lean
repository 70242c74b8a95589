import TestRig.Text.Lines
import TestRig.Rehearsal.Shell.Command

/-!
Reading commands of a shell from their text, one complete line at a time. What cannot be read is a
fault with the number of its line.
-/

namespace TestRig.Rehearsal.Shell

inductive Sign
  | direction (d : Direction)
  | document (dropTabs : Bool)
deriving DecidableEq, Repr

inductive Token
  | finish
  | newline
  | semicolon
  | ampersand
  | andAnd
  | orOr
  | bar
  | left
  | right
  | endCase
  | redirect (stream : Nat) (sign : Sign)
  | word (w : Word)
  | keyword (name : String)

namespace Token

def title : Token → String
  | finish => "end of file"
  | newline => "newline"
  | semicolon => "\";\""
  | ampersand => "\"&\""
  | andAnd => "\"&&\""
  | orOr => "\"||\""
  | bar => "\"|\""
  | left => "\"(\""
  | right => "\")\""
  | endCase => "\";;\""
  | redirect _ _ => "redirection"
  | word _ => "word"
  | keyword name => "\"" ++ name ++ "\""

def closes : Token → Bool
  | finish => true
  | right => true
  | endCase => true
  | keyword name =>
    ["do", "done", "elif", "else", "esac", "fi", "then", "\x7d"].contains name
  | _ => false

def is (t : Token) (name : String) : Bool :=
  match t with
  | keyword k => k == name
  | _ => false

end Token

def keywords : List String :=
  ["!", "case", "do", "done", "elif", "else", "esac", "fi", "for", "if", "in", "then", "until",
   "while", "\x7b", "\x7d"]

def specialNames : List String :=
  [":", "break", "continue", "eval", "exec", "exit", "export", "return", "set", "shift", "trap",
   "unset"]

def Token.asKeyword (t : Token) : Token :=
  match t with
  | .word w =>
    match w.plain? with
    | some text =>
      let name := String.ofList text
      if keywords.contains name then .keyword name else t
    | none => t
  | t => t

structure Fault where
  line : Nat
  message : String
deriving DecidableEq, Repr

structure Pending where
  number : Nat
  delimiter : List Char
  literal : Bool
  dropTabs : Bool
deriving DecidableEq, Repr

structure Reader where
  rest : List Char
  line : Nat := 1
  pushed : Option Token := none
  last : Token := .finish
  pending : List Pending := []
  documents : List (Nat × Word) := []
  nextDocument : Nat := 0

abbrev Reading := StateT Reader (Except Fault)

namespace Reader

def fault {α : Type} (message : String) : Reading α := do
  throw ⟨(← get).line, "Syntax error: " ++ message⟩

def unexpected {α : Type} (expected : Option Token := none) : Reading α := do
  let tail := match expected with
    | some t => " (expecting " ++ t.title ++ ")"
    | none => ""
  fault ((← get).last.title ++ " unexpected" ++ tail)

/-- Drop joints, which are line ends behind a backslash. -/
def dropJoints : List Char → Nat → List Char × Nat
  | '\\' :: '\n' :: rest, line => dropJoints rest (line + 1)
  | s, line => (s, line)

def peek : Reading (Option Char) :=
  modifyGet fun r =>
    let (rest, line) := dropJoints r.rest r.line
    (rest.head?, { r with rest, line })

def take : Reading (Option Char) :=
  modifyGet fun r =>
    match r.rest with
    | [] => (none, r)
    | c :: rest => (some c, { r with rest, line := if c = '\n' then r.line + 1 else r.line })

def next : Reading (Option Char) := do
  let _ ← peek
  take

def skip (c : Char) : Reading Bool := do
  if (← peek) = some c then
    let _ ← take
    return true
  return false

def push (t : Token) : Reading Unit := modify fun r => { r with pushed := some t }

def isMeta (c : Char) : Bool := " \t\n;&|()<>".toList.contains c

def isBlank (c : Char) : Bool := c == ' ' || c == '\t'

def isSpecial (c : Char) : Bool := c.isDigit || "!#$*-?@".toList.contains c

/-- Where pieces of a word are read. -/
inductive Context
  | bare
  | braced
  | double
  | bracedDouble
  | sum
  | document
deriving DecidableEq, Repr

def Context.quotes : Context → Bool
  | bare => false
  | braced => false
  | _ => true

def Context.escapes (x : Context) (c : Char) : Bool :=
  match x with
  | .bare => true
  | .braced => true
  | .double => "\\`$\"".toList.contains c
  | .bracedDouble => "\\`$\"\x7d".toList.contains c
  | .sum => "\\`$\"".toList.contains c
  | .document => "\\`$".toList.contains c

def readQuote : (fuel : Nat) → Word → Reading Word
  | 0, _ => fault "Unterminated quoted string"
  | fuel + 1, done => do
    match ← take with
    | none => fault "Unterminated quoted string"
    | some '\'' => return done
    | some c => readQuote fuel (.char c true :: done)

def readBackquoted (inDouble : Bool) : (fuel : Nat) → List Char → Reading (List Char)
  | 0, _ => fault "EOF in backquote substitution"
  | fuel + 1, done => do
    match ← next with
    | none => fault "EOF in backquote substitution"
    | some '`' => return done.reverse
    | some '\\' =>
      match ← take with
      | none => readBackquoted inDouble fuel ('\\' :: done)
      | some c =>
        if "\\`$".toList.contains c || (inDouble && c == '"') then
          readBackquoted inDouble fuel (c :: done)
        else readBackquoted inDouble fuel (c :: '\\' :: done)
    | some c => readBackquoted inDouble fuel (c :: done)

def readName (ok : Char → Bool) : (fuel : Nat) → List Char → Reading (List Char)
  | 0, done => return done.reverse
  | fuel + 1, done => do
    match ← peek with
    | some c =>
      if ok c then
        let _ ← take
        readName ok fuel (c :: done)
      else return done.reverse
    | none => return done.reverse

def readUsage : Reading (Option Usage) := do
  let colon ← skip ':'
  match ← peek with
  | some '-' => let _ ← take; return some (.otherwise colon)
  | some '+' => let _ ← take; return some (.instead colon)
  | some '=' => let _ ← take; return some (.assign colon)
  | some '?' => let _ ← take; return some (.complain colon)
  | some '\x7d' => do
    let _ ← take
    return if colon then some .plain else none
  | some '#' =>
    if colon then return some .bad
    let _ ← take
    return some (.trim true (← skip '#'))
  | some '%' =>
    if colon then return some .bad
    let _ ← take
    return some (.trim false (← skip '%'))
  | _ => return some .bad

def skipBlanks : (fuel : Nat) → Reading Unit
  | 0 => return ()
  | fuel + 1 => do
    match ← peek with
    | some '#' =>
      modify fun r => { r with rest := r.rest.dropWhile (· ≠ '\n') }
    | some c =>
      if isBlank c then
        let _ ← take
        skipBlanks fuel
    | none => return ()

def readSign (first : Char) : Reading (Nat × Sign) := do
  if first = '>' then
    if ← skip '>' then return (1, .direction .append)
    if ← skip '&' then return (1, .direction .copyOut)
    return (1, .direction .output)
  else
    if ← skip '<' then return (0, .document (← skip '-'))
    if ← skip '&' then return (0, .direction .copyIn)
    return (0, .direction .input)

def documentLines (p : Pending) : (fuel : Nat) → List Char → List (List Char) →
    List (List Char) × List Char
  | 0, s, done => (done.reverse, s)
  | _, [], done => (done.reverse, [])
  | fuel + 1, s, done =>
    let line := s.takeWhile (· ≠ '\n')
    let rest := s.drop line.length
    let shown := if p.dropTabs then line.dropWhile (· = '\t') else line
    if shown = p.delimiter then (done.reverse, rest.drop 1)
    else documentLines p fuel (rest.drop 1) ((shown ++ rest.take 1) :: done)

mutual

def readPieces : (fuel : Nat) → Context → (depth : Nat) → Word → Reading Word
  | 0, _, _, done => return done
  | fuel + 1, x, depth, done => do
    match ← peek with
    | none =>
      match x with
      | .bare => return done
      | .document => return done
      | .double => fault "Unterminated quoted string"
      | .sum => fault "Missing '))'"
      | _ => fault "Missing '\x7d'"
    | some c =>
      if x = .bare && isMeta c then return done
      let _ ← take
      match c with
      | '\\' =>
        match ← take with
        | none => readPieces fuel x depth (.char '\\' true :: done)
        | some d =>
          if x.escapes d then readPieces fuel x depth (.char d true :: .mark :: done)
          else readPieces fuel x depth (.char d true :: .char '\\' true :: done)
      | '\'' =>
        if x = .bare || x = .braced then
          readPieces fuel x depth (← readQuote fuel (.mark :: done))
        else readPieces fuel x depth (.char c true :: done)
      | '"' =>
        match x with
        | .double => return done
        | .document => readPieces fuel x depth (.char c true :: done)
        | .sum => readPieces fuel x depth (.char c true :: done)
        | _ =>
          let inner ← readPieces fuel .double 0 []
          readPieces fuel x depth (inner ++ .mark :: done)
      | '`' =>
        let quoted := x.quotes
        let text ← readBackquoted quoted fuel []
        let commands ← readInner fuel text
        readPieces fuel x depth (.output commands quoted :: done)
      | '$' => readPieces fuel x depth ((← readDollar fuel x) ++ done)
      | '\x7d' =>
        if x = .braced || x = .bracedDouble then return done
        else readPieces fuel x depth (.char c x.quotes :: done)
      | '(' => readPieces fuel x (depth + 1) (.char c x.quotes :: done)
      | ')' =>
        if x = .sum then
          if depth = 0 then
            if ← skip ')' then return done
            else readPieces fuel x depth (.char c true :: done)
          else readPieces fuel x (depth - 1) (.char c true :: done)
        else readPieces fuel x depth (.char c x.quotes :: done)
      | c => readPieces fuel x depth (.char c x.quotes :: done)

def readDollar : (fuel : Nat) → Context → Reading Word
  | 0, _ => return []
  | fuel + 1, x => do
    let quoted := x.quotes
    match ← peek with
    | some '(' =>
      let _ ← take
      if ← skip '(' then
        return [.sum (← readPieces fuel .sum 0 []).reverse quoted]
      else
        let r ← get
        set { r with pending := [] }
        let commands ← readList fuel 2
        match ← readToken fuel false false with
        | .right => pure ()
        | _ => unexpected (some .right)
        modify fun s => { s with pending := r.pending }
        return [.output commands quoted]
    | some '\x7b' =>
      let _ ← take
      readBraces fuel x
    | some c =>
      if isNameStart c then
        return [.parameter (String.ofList (← readName isNameChar fuel [])) .plain [] quoted]
      else if isSpecial c then
        let _ ← take
        return [.parameter (String.singleton c) .plain [] quoted]
      else return [.char '$' quoted]
    | none => return [.char '$' quoted]

def readBraces : (fuel : Nat) → Context → Reading Word
  | 0, _ => return []
  | fuel + 1, x => do
    let quoted := x.quotes
    let inner := if quoted then Context.bracedDouble else .braced
    let finish (name : List Char) : Reading Word := do
      match ← readUsage with
      | none => return [.parameter (String.ofList name) .plain [] quoted]
      | some usage =>
        let context := match usage with
          | .trim _ _ => Context.braced
          | _ => inner
        let word := (← readPieces fuel context 0 []).reverse
        return [.parameter (String.ofList name) usage word quoted]
    let bad : Reading Word := do
      let _ ← readPieces fuel inner 0 []
      return [.parameter "" .bad [] quoted]
    match ← peek with
    | none => fault "Missing '\x7d'"
    | some '#' =>
      let _ ← take
      match ← peek with
      | some '\x7d' => let _ ← take; return [.parameter "#" .plain [] quoted]
      | some c =>
        if isNameStart c || c.isDigit then
          let name ← if isNameStart c then readName isNameChar fuel [] else readName Char.isDigit fuel []
          if ← skip '\x7d' then return [.parameter (String.ofList name) .length [] quoted]
          else bad
        else
          let r ← get
          let _ ← take
          if isSpecial c && (← peek) = some '\x7d' then
            let _ ← take
            return [.parameter (String.singleton c) .length [] quoted]
          else
            set r
            finish ['#']
      | none => fault "Missing '\x7d'"
    | some c =>
      if isNameStart c then finish (← readName isNameChar fuel [])
      else if c.isDigit then finish (← readName Char.isDigit fuel [])
      else if isSpecial c then
        let _ ← take
        finish [c]
      else bad

def readInner : (fuel : Nat) → List Char → Reading (Option Command)
  | 0, _ => return none
  | fuel + 1, text => do
    let r ← get
    set { r with rest := text, line := 1, pushed := none, pending := [] }
    let commands ← readList fuel 2
    modify fun s => { s with rest := r.rest, line := r.line, pushed := none, pending := r.pending }
    return commands

def readDocuments : (fuel : Nat) → Reading Unit
  | 0 => return ()
  | fuel + 1 => do
    let r ← get
    match r.pending with
    | [] => return ()
    | p :: others =>
      let (lines, rest) := documentLines p fuel r.rest []
      let text := lines.flatten
      let line := r.line + (r.rest.length - rest.length |> fun n => (r.rest.take n).count '\n')
      let body ← if p.literal then pure (text.map fun c => Piece.char c true) else do
        set { r with rest := text, pushed := none, pending := [] }
        let pieces ← readPieces fuel .document 0 []
        pure pieces.reverse
      modify fun s => { s with
        rest, line, pushed := none, last := r.last, pending := others
        documents := (p.number, body) :: s.documents }
      readDocuments fuel

def readRaw : (fuel : Nat) → Reading Token
  | 0 => return .finish
  | fuel + 1 => do
    skipBlanks fuel
    match ← peek with
    | none => return .finish
    | some c =>
      match c with
      | '\n' => let _ ← take; return .newline
      | '&' => let _ ← take; if ← skip '&' then return .andAnd else return .ampersand
      | '|' => let _ ← take; if ← skip '|' then return .orOr else return .bar
      | ';' => let _ ← take; if ← skip ';' then return .endCase else return .semicolon
      | '(' => let _ ← take; return .left
      | ')' => let _ ← take; return .right
      | _ =>
        let w := (← readPieces fuel .bare 0 []).reverse
        match ← peek, w with
        | some '>', [] => readRedirect none
        | some '<', [] => readRedirect none
        | some '>', [.char d false] => if d.isDigit then readRedirect (some d) else return .word w
        | some '<', [.char d false] => if d.isDigit then readRedirect (some d) else return .word w
        | _, _ => return .word w
where
  readRedirect (digit : Option Char) : Reading Token := do
    let (standard, sign) ← readSign ((← take).getD '>')
    return .redirect ((digit.map fun d => d.toNat - '0'.toNat).getD standard) sign

def readToken : (fuel : Nat) → (overLines words : Bool) → Reading Token
  | 0, _, _ => return .finish
  | fuel + 1, overLines, words => do
    let r ← get
    let t ← match r.pushed with
      | some t => do
        set { r with pushed := none }
        pure t
      | none => readRaw fuel
    let t := if words then t.asKeyword else t
    match t, overLines with
    | .newline, true => do
      readDocuments fuel
      readToken fuel overLines words
    | t, _ => do
      modify fun s => { s with last := t }
      return t

/-- A list of commands. Of the kinds, 1 is a line of its own, 0 has to hold something, and 2 may hold
nothing. -/
def readList : (fuel : Nat) → (kind : Nat) → Reading (Option Command)
  | 0, _ => return none
  | fuel + 1, kind => readListFrom fuel kind none

def readListFrom : (fuel : Nat) → (kind : Nat) → Option Command → Reading (Option Command)
  | 0, _, done => return done
  | fuel + 1, kind, done => do
    let overLines := kind != 1
    let t ← readToken fuel overLines true
    match t with
    | .newline => do
      readDocuments fuel
      return done
    | .finish => do
      readDocuments fuel
      push .finish
      return done
    | t =>
      push t
      if (kind = 2 || done.isSome) && overLines && t.closes then return done
      let line := (← get).line
      let c ← readConditions fuel (← readPipeline fuel false)
      let t ← readToken fuel false false
      let c := match t, c with
        | .ampersand, .pipeline commands _ => .pipeline commands true
        | .ampersand, .group line body redirections => .background line body redirections
        | .ampersand, c => .background line c []
        | _, c => c
      let all := match done with
        | some d => .sequence d c
        | none => c
      match t with
      | .finish => do
        readDocuments fuel
        push .finish
        return some all
      | .newline => do
        push .newline
        readListFrom fuel kind (some all)
      | .ampersand => readListFrom fuel kind (some all)
      | .semicolon => readListFrom fuel kind (some all)
      | t => do
        if !overLines then unexpected
        push t
        return some all

def readConditions : (fuel : Nat) → Command → Reading Command
  | 0, c => return c
  | fuel + 1, c => do
    match ← readToken fuel false false with
    | .andAnd => do
      let d ← readPipeline fuel true
      readConditions fuel (.both c d)
    | .orOr => do
      let d ← readPipeline fuel true
      readConditions fuel (.either c d)
    | t => do
      push t
      return c

def readPipeline : (fuel : Nat) → (overLines : Bool) → Reading Command
  | 0, _ => unexpected
  | fuel + 1, overLines => do
    let t ← readToken fuel overLines true
    let negated := t.is "!"
    if !negated then push t
    let first ← readCommand fuel false
    let all ← readPipes fuel [first]
    let c := match all with
      | [only] => only
      | several => .pipeline several.reverse false
    return if negated then .negated c else c

def readPipes : (fuel : Nat) → List Command → Reading (List Command)
  | 0, done => return done
  | fuel + 1, done => do
    match ← readToken fuel false false with
    | .bar => do
      let c ← readCommand fuel true
      readPipes fuel (c :: done)
    | t => do
      push t
      return done

/-- A list that has to hold something; where the text ends, that is a fault of what follows. -/
def readBody : (fuel : Nat) → Reading Command
  | 0 => unexpected
  | fuel + 1 => do return (← readList fuel 0).getD (.simple 0 [] [] [])

def expect : (fuel : Nat) → Token → Reading Unit
  | 0, _ => unexpected
  | fuel + 1, wanted => do
    let t ← readToken fuel false true
    match t, wanted with
    | .right, .right => return ()
    | .keyword a, .keyword b => if a = b then return () else unexpected (some wanted)
    | _, _ => unexpected (some wanted)

def readCommand : (fuel : Nat) → (overLines : Bool) → Reading Command
  | 0, _ => unexpected
  | fuel + 1, overLines => do
    let line := (← get).line
    let t ← readToken fuel overLines true
    match t with
    | .keyword "if" => readChoice fuel >>= withRedirections fuel line
    | .keyword "while" => readLoop fuel true >>= withRedirections fuel line
    | .keyword "until" => readLoop fuel false >>= withRedirections fuel line
    | .keyword "for" => readEach fuel line >>= withRedirections fuel line
    | .keyword "case" => readSelect fuel line >>= withRedirections fuel line
    | .left => do
      let body ← readBody fuel
      expect fuel .right
      withRedirections fuel line (.subshell line body [])
    | .keyword "\x7b" => do
      let body ← readBody fuel
      expect fuel (.keyword "\x7d")
      withRedirections fuel line body
    | .word w => do
      push (.word w)
      readSimple fuel (← get).line [] [] []
    | .redirect n s => do
      push (.redirect n s)
      readSimple fuel (← get).line [] [] []
    | _ => unexpected

def withRedirections : (fuel : Nat) → (line : Nat) → Command → Reading Command
  | 0, _, c => return c
  | fuel + 1, line, c => do
    match ← readRedirections fuel [], c with
    | [], c => return c
    | redirections, .subshell l body _ => return .subshell l body redirections
    | redirections, c => return .group line c redirections

def readRedirections : (fuel : Nat) → List Redirection → Reading (List Redirection)
  | 0, done => return done.reverse
  | fuel + 1, done => do
    match ← readToken fuel false true with
    | .redirect stream sign => do
      let r ← readTarget fuel stream sign
      readRedirections fuel (r :: done)
    | t => do
      push t
      return done.reverse

def readTarget : (fuel : Nat) → (stream : Nat) → Sign → Reading Redirection
  | 0, stream, _ => return .document stream 0
  | fuel + 1, stream, sign => do
    match ← readToken fuel false false, sign with
    | .word w, .direction d => return .file stream d w
    | .word w, .document dropTabs => do
      let number := (← get).nextDocument
      modify fun r => { r with
        nextDocument := number + 1
        pending := r.pending ++ [⟨number, w.text.toList, w.isQuoted, dropTabs⟩] }
      return .document stream number
    | _, _ => unexpected

def readSimple : (fuel : Nat) → (line : Nat) → (settings words : List Word) → List Redirection →
    Reading Command
  | 0, line, settings, words, redirections =>
    return .simple line settings.reverse words.reverse redirections.reverse
  | fuel + 1, line, settings, words, redirections => do
    match ← readToken fuel false false with
    | .word w =>
      if words.isEmpty && w.assignment?.isSome then
        readSimple fuel line (w :: settings) words redirections
      else readSimple fuel line settings (w :: words) redirections
    | .redirect stream sign => do
      let r ← readTarget fuel stream sign
      readSimple fuel line settings words (r :: redirections)
    | .left =>
      match settings, words, redirections with
      | [], [w], [] => do
        match ← readToken fuel false false with
        | .right => pure ()
        | _ => unexpected (some .right)
        match w.plain? with
        | some text =>
          if !isName text || specialNames.contains (String.ofList text) then
            fault "Bad function name"
          return .define (String.ofList text) (← readCommand fuel true)
        | none => fault "Bad function name"
      | _, _, _ => do
        push .left
        return .simple line settings.reverse words.reverse redirections.reverse
    | t => do
      push t
      return .simple line settings.reverse words.reverse redirections.reverse

def readLoop : (fuel : Nat) → (verdict : Bool) → Reading Command
  | 0, _ => unexpected
  | fuel + 1, verdict => do
    let condition ← readBody fuel
    expect fuel (.keyword "do")
    let body ← readBody fuel
    expect fuel (.keyword "done")
    return .loop verdict condition body

def readChoice : (fuel : Nat) → Reading Command
  | 0 => unexpected
  | fuel + 1 => do
    let condition ← readBody fuel
    expect fuel (.keyword "then")
    let yes ← readBody fuel
    match ← readToken fuel false true with
    | .keyword "elif" => return .choice condition yes (some (← readChoice fuel))
    | .keyword "else" => do
      let no ← readBody fuel
      expect fuel (.keyword "fi")
      return .choice condition yes (some no)
    | t => do
      push t
      expect fuel (.keyword "fi")
      return .choice condition yes none

def readItems : (fuel : Nat) → List Word → Reading (List Word × Token)
  | 0, done => return (done, .finish)
  | fuel + 1, done => do
    match ← readToken fuel false false with
    | .word w => readItems fuel (w :: done)
    | t => return (done, t)

def readEach : (fuel : Nat) → (line : Nat) → Reading Command
  | 0, _ => unexpected
  | fuel + 1, line => do
    match ← readToken fuel false false with
    | .word w =>
      match w.plain? with
      | some text =>
        if !isName text then fault "Bad for loop variable"
        let t ← readToken fuel true true
        let items ← if t.is "in" then do
            let (items, t) ← readItems fuel []
            match t with
            | .newline => pure ()
            | .semicolon => pure ()
            | _ => unexpected
            pure items.reverse
          else do
            match t with
            | .semicolon => pure ()
            | t => push t
            pure [[.parameter "@" .plain [] true]]
        match ← readToken fuel true true with
        | .keyword "do" => pure ()
        | _ => unexpected (some (.keyword "do"))
        let body ← readBody fuel
        expect fuel (.keyword "done")
        return .each line (String.ofList text) items body
      | none => fault "Bad for loop variable"
    | _ => fault "Bad for loop variable"

def readSelect : (fuel : Nat) → (line : Nat) → Reading Command
  | 0, _ => unexpected
  | fuel + 1, line => do
    match ← readToken fuel false false with
    | .word subject =>
      match ← readToken fuel true true with
      | .keyword "in" => pure ()
      | _ => unexpected (some (.keyword "in"))
      return .select line subject (← readBranches fuel [])
    | _ => unexpected (some (.word []))

def readBranches : (fuel : Nat) → List (List Word × Option Command) →
    Reading (List (List Word × Option Command))
  | 0, done => return done.reverse
  | fuel + 1, done => do
    match ← readToken fuel true true with
    | .keyword "esac" => return done.reverse
    | t => do
      match t with
      | .left => pure ()
      | t => push t
      let patterns ← readPatterns fuel []
      let body ← readList fuel 2
      match ← readToken fuel true true with
      | .keyword "esac" => return ((patterns, body) :: done).reverse
      | .endCase => readBranches fuel ((patterns, body) :: done)
      | _ => unexpected (some .endCase)

def readPatterns : (fuel : Nat) → List Word → Reading (List Word)
  | 0, done => return done.reverse
  | fuel + 1, done => do
    match ← readToken fuel false false with
    | .word w => do
      match ← readToken fuel false false with
      | .bar => readPatterns fuel (w :: done)
      | .right => return (w :: done).reverse
      | _ => unexpected (some .right)
    | .keyword name => do
      match ← readToken fuel false false with
      | .bar => readPatterns fuel (name.toList.map (Piece.char · false) :: done)
      | .right => return ((name.toList.map (Piece.char · false)) :: done).reverse
      | _ => unexpected (some .right)
    | _ => unexpected (some .right)

end

def readLine (r : Reader) : Except Fault (Option Command × Reader) :=
  (readList (10 * r.rest.length + 64) 1).run { r with pushed := none }

end Reader

end TestRig.Rehearsal.Shell
