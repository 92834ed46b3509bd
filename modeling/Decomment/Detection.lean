import Decomment.Path
import Decomment.Registry
import Decomment.Shebang

/-!
# Detection of a file's language

The extension of a file decides if a language has it; otherwise the interpreter that the first line
of its content names does.
-/

namespace Decomment

/-- How the language of a file was found, if it was. -/
inductive Detection
  | byExtension (id : String)
  | byShebang (id : String)
  | unknown
deriving DecidableEq, Repr, Inhabited

namespace Detection

/-- The name of the language found. -/
def language? : Detection → Option String
  | byExtension id => some id
  | byShebang id => some id
  | unknown => none

/-- The way a language was found, in one word. -/
def method : Detection → String
  | byExtension _ => "extension"
  | byShebang _ => "shebang"
  | unknown => "unknown"

/-- The detection in words. -/
def describe : Detection → String
  | byExtension id => s!"{id} (by extension)"
  | byShebang id => s!"{id} (by #! line)"
  | unknown => "unknown"

end Detection

/-- The language of the file at `path`, whose content is known or not. -/
def Registry.detect (r : Registry) (path : String) (content : Option (List Char)) : Detection :=
  match (Path.extension? path).bind r.byExtension? with
  | some language => .byExtension language.id
  | none =>
    match (content.bind Shebang.interpreter?).bind fun name => r.byInterpreter? (String.ofList name)
    with
    | some language => .byShebang language.id
    | none => .unknown

end Decomment
