import Decomment.Toml.Printer

/-!
# Writers and readers of the settings format

The program relies on a writer and a reader of the format and on no more than that they belong
together. `codec` is the pair of this project.
-/

namespace Decomment.Toml

/-- A writer and a reader of the settings format. -/
structure Codec where
  /-- The text of a table, if it has one. Fields that are nothing are left out. -/
  print? : Fields → Option (List Char)
  /-- The table that a text holds, if it is well-formed. -/
  parse? : List Char → Option Fields

/-- The writer and the reader that are built in. -/
def codec : Codec where
  print? fields := some (print fields)
  parse? := parse?

end Decomment.Toml
