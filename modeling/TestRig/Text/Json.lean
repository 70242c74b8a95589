/-!
Strings and pretty-printed documents of JSON: two spaces per level, members in the order given, and
an empty list on one line. Only quotes, backslashes and ASCII control characters are escaped.
-/

namespace TestRig.Text.Json

inductive Value
  | string (s : String)
  | number (n : Nat)
  | list (items : List Value)
  | object (members : List (String × Value))

def escape (c : Char) : List Char :=
  if c = '"' ∨ c = '\\' then ['\\', c]
  else if c = '\u0008' then ['\\', 'b']
  else if c = '\t' then ['\\', 't']
  else if c = '\n' then ['\\', 'n']
  else if c = '\u000c' then ['\\', 'f']
  else if c = '\r' then ['\\', 'r']
  else if c.toNat < 0x20 then
    ['\\', 'u', '0', '0', Nat.digitChar (c.toNat / 16), Nat.digitChar (c.toNat % 16)]
  else [c]

def quote (s : String) : String := String.ofList ('"' :: s.toList.flatMap escape ++ ['"'])

def indent (depth : Nat) : String := String.ofList (List.replicate (2 * depth) ' ')

def block (depth : Nat) (opening closing : String) (entries : List String) : String :=
  if entries.isEmpty then opening ++ closing
  else opening ++ "\n" ++ ",\n".intercalate (entries.map (indent (depth + 1) ++ ·)) ++ "\n" ++
    indent depth ++ closing

mutual

def Value.render (depth : Nat) : Value → String
  | .string s => quote s
  | .number n => toString n
  | .list items => block depth "[" "]" (renderItems (depth + 1) items)
  | .object members => block depth "\x7b" "\x7d" (renderMembers (depth + 1) members)

def renderItems (depth : Nat) : List Value → List String
  | [] => []
  | v :: rest => v.render depth :: renderItems depth rest

def renderMembers (depth : Nat) : List (String × Value) → List String
  | [] => []
  | (key, v) :: rest => (quote key ++ ": " ++ v.render depth) :: renderMembers depth rest

end

end TestRig.Text.Json
