import Decomment.CommandLine
import Decomment.Toml.Codec
import Decomment.Value.Json

/-!
# What the program takes from libraries

Command lines are read, settings are written and read, and data is printed by libraries. Nothing in
the commands depends on how they do it; `Libraries.own` are the ones of this project.
-/

namespace Decomment

/-- What the program takes from libraries. -/
structure Libraries where
  /-- What the arguments after the program's name come to. -/
  readArgs : List String → Reading
  /-- The format of settings. -/
  toml : Toml.Codec
  /-- The text of a tree of data on one line. -/
  json : Value → List Char

/-- The libraries of this project. -/
def Libraries.own : Libraries where
  readArgs := CommandLine.read
  toml := Toml.codec
  json := Value.toJson

end Decomment
