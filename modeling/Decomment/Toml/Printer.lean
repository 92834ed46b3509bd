import Decomment.Toml.Parser

/-!
# Writing the settings format

`print` writes a table: its pairs, one on a line, and then its inner tables, each after a blank line
and a header. A list of two or more items has each on a line of its own.
-/

namespace Decomment.Toml

/-- A key as it is written: without quotes if it can be. -/
def writeKey (key : String) : List Char :=
  if !key.isEmpty && key.toList.all isBareChar then key.toList else Quoted.write key.toList

/-- A key with its parts. -/
def writePath (path : List String) : List Char :=
  List.intercalate ['.'] (path.map writeKey)

/-- A list whose items are written: on one line if there is one item at most. -/
def writeItems : List (List Char) → List Char
  | [] => ['[', ']']
  | [item] => ['['] ++ item ++ [']']
  | items => ['[', '\n'] ++ items.flatMap (fun item => "    ".toList ++ item ++ [',', '\n']) ++ [']']

mutual

/-- A value as it is written after a key. -/
def writeValue : Value → List Char
  | .null => []
  | .bool b => if b then "true".toList else "false".toList
  | .number text => text.toList
  | .moment text => text.toList
  | .string text => Quoted.write text.toList
  | .array items => writeItems (writeValues items)
  | .table fields => ['\x7b', ' '] ++ List.intercalate [',', ' '] (writeFields fields) ++ [' ', '\x7d']

/-- The items of a list as they are written. -/
def writeValues : List Value → List (List Char)
  | [] => []
  | item :: items => writeValue item :: writeValues items

/-- The fields of an inline table as they are written. -/
def writeFields : Fields → List (List Char)
  | [] => []
  | (key, value) :: fields => (writeKey key ++ " = ".toList ++ writeValue value) :: writeFields fields

end

/-- A statement as it is written; a blank line stands before a header. -/
def writeStatement : Statement → List Char
  | .pair path value => writePath path ++ " = ".toList ++ writeValue value ++ ['\n']
  | .header path => ['\n', '['] ++ writePath path ++ [']', '\n']
  | .arrayHeader path => ['\n', '[', '['] ++ writePath path ++ [']', ']', '\n']

/-- A table as it is written. -/
def print (fields : Fields) : List Char :=
  (statements fields).flatMap writeStatement

end Decomment.Toml
