/-!
# Trees of data

Settings and descriptions of languages are exchanged as trees of strings, truth values, lists and
tables. Numbers and points in time have no use in them and are kept as they were written.
-/

namespace Decomment

/-- A tree of data. -/
inductive Value
  | null
  | bool (b : Bool)
  | number (text : String)
  | moment (text : String)
  | string (text : String)
  | array (items : List Value)
  | table (fields : List (String × Value))
deriving Repr, Inhabited

/-- The fields of a table, in order. -/
abbrev Fields := List (String × Value)

namespace Value

/-- The text of a string. -/
def string? : Value → Option String
  | string text => some text
  | _ => none

/-- A truth value. -/
def bool? : Value → Option Bool
  | bool b => some b
  | _ => none

/-- The character of a string of one character. -/
def char? : Value → Option Char
  | string text =>
    match text.toList with
    | [c] => some c
    | _ => none
  | _ => none

/-- A character, or nothing. -/
def optionalChar? : Value → Option (Option Char)
  | null => some none
  | value => value.char?.map some

/-- A list, each item read by `read`. -/
def list? {α : Type} (read : Value → Option α) : Value → Option (List α)
  | array items => items.mapM read
  | _ => none

/-- The string of one character. -/
def ofChar (c : Char) : Value :=
  string (String.singleton c)

/-- A list of strings. -/
def ofStrings (texts : List String) : Value :=
  array (texts.map string)

end Value

namespace Fields

/-- Reads the field with a key. -/
def read? {α : Type} (fields : Fields) (key : String) (read : Value → Option α) : Option α :=
  (fields.lookup key).bind read

/-- Reads the field with a key; a field that is not there has the value `default`. -/
def readD {α : Type} (fields : Fields) (key : String) (read : Value → Option α) (default : α) :
    Option α :=
  match fields.lookup key with
  | some value => read value
  | none => some default

end Fields

/-- Reads the next item of a list by position; an item that is not there has the value `default`. -/
def Value.nextD {α : Type} (read : Value → Option α) (default : α) :
    List Value → Option (α × List Value)
  | [] => some (default, [])
  | item :: items => (read item).map (·, items)

end Decomment
