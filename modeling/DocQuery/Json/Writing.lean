import DocQuery.Json.Basic

/-!
JSON documents as text, on one line or with each item on a line of its own.
-/

namespace DocQuery.Json

def escapeChar (c : Char) : List Char :=
  match c with
  | '"' => ['\\', '"']
  | '\\' => ['\\', '\\']
  | '\n' => ['\\', 'n']
  | '\r' => ['\\', 'r']
  | '\t' => ['\\', 't']
  | '\x08' => ['\\', 'b']
  | '\x0c' => ['\\', 'f']
  | c =>
      if c.toNat < 0x20 then
        ['\\', 'u', '0', '0', Nat.digitChar (c.toNat / 16), Nat.digitChar (c.toNat % 16)]
      else [c]

def quote (text : String) : String :=
  String.ofList ('"' :: (text.toList.flatMap escapeChar ++ ['"']))

mutual

def compact : Json → String
  | .null => "null"
  | .bool value => if value then "true" else "false"
  | .number value => value.write
  | .text value => quote value
  | .array items => "[" ++ compactItems items ++ "]"
  | .object fields => "\x7b" ++ compactFields fields ++ "\x7d"

def compactItems : List Json → String
  | [] => ""
  | [item] => item.compact
  | item :: rest => item.compact ++ "," ++ compactItems rest

def compactFields : List (String × Json) → String
  | [] => ""
  | [(key, value)] => quote key ++ ":" ++ value.compact
  | (key, value) :: rest => quote key ++ ":" ++ value.compact ++ "," ++ compactFields rest

end

def newLine (depth : Nat) : String :=
  String.ofList ('\n' :: List.replicate (2 * depth) ' ')

mutual

def prettyAt (depth : Nat) : Json → String
  | .array [] => "[]"
  | .object [] => "\x7b\x7d"
  | .array items => "[" ++ prettyItems (depth + 1) items ++ newLine depth ++ "]"
  | .object fields => "\x7b" ++ prettyFields (depth + 1) fields ++ newLine depth ++ "\x7d"
  | .null => "null"
  | .bool value => if value then "true" else "false"
  | .number value => value.write
  | .text value => quote value

def prettyItems (depth : Nat) : List Json → String
  | [] => ""
  | [item] => newLine depth ++ item.prettyAt depth
  | item :: rest => newLine depth ++ item.prettyAt depth ++ "," ++ prettyItems depth rest

def prettyFields (depth : Nat) : List (String × Json) → String
  | [] => ""
  | [(key, value)] => newLine depth ++ quote key ++ ": " ++ value.prettyAt depth
  | (key, value) :: rest =>
      newLine depth ++ quote key ++ ": " ++ value.prettyAt depth ++ "," ++ prettyFields depth rest

end

def pretty (document : Json) : String := document.prettyAt 0

end DocQuery.Json
