import Decomment.Tidy
import Decomment.Value

/-!
# Clean-ups as data

The clean-ups to apply are a table of truth values, or a list of them by position.
-/

namespace Decomment.Tidy

/-- Reads clean-ups by position; items beyond the third are passed over. -/
def ofItems? (items : List Value) : Option Tidy := do
  let (squeezeBlankLines, items) ← Value.nextD Value.bool? false items
  let (trimTrailing, items) ← Value.nextD Value.bool? false items
  let (finalNewline, _) ← Value.nextD Value.bool? false items
  some { squeezeBlankLines, trimTrailing, finalNewline }

/-- Reads clean-ups from the fields of a table; other fields are passed over. -/
def ofFields? (fields : Fields) : Option Tidy := do
  let squeezeBlankLines ← fields.readD "squeeze_blank_lines" Value.bool? false
  let trimTrailing ← fields.readD "trim_trailing_whitespace" Value.bool? false
  let finalNewline ← fields.readD "final_newline" Value.bool? false
  some { squeezeBlankLines, trimTrailing, finalNewline }

/-- Reads clean-ups from a table or from a list of at most three items. -/
def ofValue? : Value → Option Tidy
  | .table fields => ofFields? fields
  | .array items => if items.length ≤ 3 then ofItems? items else none
  | _ => none

/-- Writes clean-ups as a table. -/
def toValue (options : Tidy) : Value :=
  .table [
    ("squeeze_blank_lines", .bool options.squeezeBlankLines),
    ("trim_trailing_whitespace", .bool options.trimTrailing),
    ("final_newline", .bool options.finalNewline)]

end Decomment.Tidy
