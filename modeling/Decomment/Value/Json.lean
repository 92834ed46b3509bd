import Decomment.Value

/-!
# Trees of data on one line

A tree written as JSON without any space. Only quotes, backslashes and control characters are
escaped.
-/

namespace Decomment.Value

/-- A hexadecimal digit in lower case. -/
def hexDigit (n : Nat) : Char :=
  if n < 10 then Char.ofNat ('0'.toNat + n) else Char.ofNat ('a'.toNat + (n - 10))

/-- A character inside a JSON string. -/
def escapeJson (c : Char) : List Char :=
  if c = '"' then ['\\', '"']
  else if c = '\\' then ['\\', '\\']
  else if c = '\x08' then ['\\', 'b']
  else if c = '\x0c' then ['\\', 'f']
  else if c = '\n' then ['\\', 'n']
  else if c = '\r' then ['\\', 'r']
  else if c = '\t' then ['\\', 't']
  else if c.toNat < 0x20 then ['\\', 'u', '0', '0', hexDigit (c.toNat / 16), hexDigit (c.toNat % 16)]
  else [c]

/-- A text as a JSON string. -/
def quoteJson (text : String) : List Char :=
  ['"'] ++ text.toList.flatMap escapeJson ++ ['"']

mutual

/-- A tree as JSON. Points in time are written as strings. -/
def toJson : Value → List Char
  | .null => "null".toList
  | .bool b => if b then "true".toList else "false".toList
  | .number text => text.toList
  | .moment text => quoteJson text
  | .string text => quoteJson text
  | .array items => ['['] ++ List.intercalate [','] (itemsToJson items) ++ [']']
  | .table fields => ['\x7b'] ++ List.intercalate [','] (fieldsToJson fields) ++ ['\x7d']

/-- The items of a list as JSON. -/
def itemsToJson : List Value → List (List Char)
  | [] => []
  | item :: items => item.toJson :: itemsToJson items

/-- The fields of a table as JSON. -/
def fieldsToJson : List (String × Value) → List (List Char)
  | [] => []
  | (key, value) :: fields => (quoteJson key ++ [':'] ++ value.toJson) :: fieldsToJson fields

end

end Decomment.Value
