import Decomment.Language
import Decomment.Lexis.Shape

/-!
# Languages as data

A language is a table in which its lexical rules stand beside its name.
-/

namespace Decomment.Language

/-- Reads a language from a table; only its name has to be there. -/
def ofValue? : Value → Option Language
  | .table fields => do
    let id ← Fields.read? fields "id" Value.string?
    let extensions ← Fields.readD fields "extensions" (Value.list? Value.string?) []
    let interpreters ← Fields.readD fields "interpreters" (Value.list? Value.string?) []
    let lexis ← Lexis.ofFields? fields
    some { id, extensions, interpreters, lexis }
  | _ => none

/-- Writes a language as a table. -/
def toValue (language : Language) : Value :=
  .table <|
    [("id", .string language.id),
      ("extensions", Value.ofStrings language.extensions),
      ("interpreters", Value.ofStrings language.interpreters)]
      ++ language.lexis.toFields

end Decomment.Language
