import Decomment.Lexis
import Decomment.Text.LetterCase

/-!
# Languages

A language is a name, the ways to recognise its files, and its lexical rules.
-/

namespace Decomment

/-- A language that comments can be removed from. -/
structure Language where
  /-- The name it is called by. -/
  id : String
  /-- The extensions of its files. -/
  extensions : List String := []
  /-- The programs that run its scripts. -/
  interpreters : List String := []
  /-- Its lexical rules. -/
  lexis : Lexis := {}
deriving DecidableEq, Repr, Inhabited

namespace Language

/-- An extension in lower case and with its dot. -/
def dotted (ext : String) : String :=
  let lowered := Text.lower ext
  if lowered.toList.head? = some '.' then lowered else "." ++ lowered

/-- The form in which a language is kept: dotted extensions, and longest tokens first. -/
def normalize (language : Language) : Language :=
  { language with
    extensions := language.extensions.map dotted
    lexis := language.lexis.longestFirst }

@[simp] theorem id_normalize (language : Language) : language.normalize.id = language.id := rfl

/-- An extension begins with a dot once it is dotted. -/
theorem head?_dotted (ext : String) : (dotted ext).toList.head? = some '.' := by
  rw [dotted]
  split
  · assumption
  · simp

end Language

end Decomment
