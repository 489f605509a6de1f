import SchemaQuery.Json.Basic
import SchemaQuery.Number.Decimal

/-!
# Compact JSON text

A value is written without blanks. In a string only the quote, the backslash and the characters
below the blank are escaped; everything else, non-ASCII characters included, stands for itself.
-/

namespace SchemaQuery.Json

/-- A character of a string literal. -/
def escape (c : Char) : List Char :=
  if c = '"' then ['\\', '"']
  else if c = '\\' then ['\\', '\\']
  else if c = '\x08' then ['\\', 'b']
  else if c = '\x0c' then ['\\', 'f']
  else if c = '\n' then ['\\', 'n']
  else if c = '\r' then ['\\', 'r']
  else if c = '\t' then ['\\', 't']
  else if c.toNat < 0x20 then
    ['\\', 'u', '0', '0', Nat.digitChar (c.toNat / 16), Nat.digitChar (c.toNat % 16)]
  else [c]

/-- The string literal of a text. -/
def quote (s : String) : String := String.ofList ('"' :: s.toList.flatMap escape ++ ['"'])

mutual

/-- The compact text of a value. -/
def render : Json → String
  | .null => "null"
  | .bool true => "true"
  | .bool false => "false"
  | .num n => n.render
  | .str s => quote s
  | .arr [] => "[]"
  | .arr (item :: rest) => "[" ++ render item ++ renderItems rest ++ "]"
  | .obj [] => "\x7b\x7d"
  | .obj ((key, value) :: rest) =>
    "\x7b" ++ quote key ++ ":" ++ render value ++ renderEntries rest ++ "\x7d"

/-- The items after the first, each with the comma before it. -/
def renderItems : List Json → String
  | [] => ""
  | item :: rest => "," ++ render item ++ renderItems rest

/-- The entries after the first, each with the comma before it. -/
def renderEntries : List (String × Json) → String
  | [] => ""
  | (key, value) :: rest => "," ++ quote key ++ ":" ++ render value ++ renderEntries rest

end

end SchemaQuery.Json
