import Decomment.Error
import Decomment.Language

/-!
# Registry of languages

Languages by their names, in the order in which the names were first registered. A language under a
known name takes the place of the former one. Of several languages with the same extension or
interpreter, the last one in the registry is found.
-/

namespace Decomment

/-- Checks the rules of a language: the first flaw in them is an error. -/
def Lexis.check (lexis : Lexis) (language : String) : Except Error Unit :=
  match lexis.flaw? with
  | some flaw => .error (.invalidLexis language flaw)
  | none => .ok ()

/-- The languages known, in order. -/
structure Registry where
  languages : List Language := []
deriving DecidableEq, Repr, Inhabited

namespace Registry

/-- The registry that knows no language. -/
def empty : Registry := {}

/-- The names of the languages, in order. -/
def ids (r : Registry) : List String :=
  r.languages.map Language.id

/-- The number of languages. -/
def size (r : Registry) : Nat :=
  r.languages.length

/-- Whether no language is known. -/
def isEmpty (r : Registry) : Bool :=
  r.languages.isEmpty

/-- Puts a language in the place of the first one with the same name, or else at the end. -/
def put (language : Language) : List Language → List Language
  | [] => [language]
  | l :: ls => if l.id = language.id then language :: ls else l :: put language ls

/-- Registers a language whose lexical rules have no flaw, in the form in which it is kept. -/
def insert (r : Registry) (language : Language) : Except Error Registry :=
  match language.lexis.flaw? with
  | some flaw => .error (.invalidLexis language.id flaw)
  | none => .ok ⟨put language.normalize r.languages⟩

/-- Registers languages one after the other, up to the first that fails. -/
def insertAll (r : Registry) (languages : List Language) : Except Error Registry :=
  languages.foldlM insert r

/-- The language with a name. -/
def get? (r : Registry) (id : String) : Option Language :=
  r.languages.find? (·.id == id)

/-- The language with a name, which has to be known. -/
def get (r : Registry) (id : String) : Except Error Language :=
  match r.get? id with
  | some language => .ok language
  | none => .error (.unknownLanguage id)

/-- The lexical rules of the language with a name, which has to be known. -/
def lookup (r : Registry) (id : String) : Except Error Lexis :=
  (r.get id).map Language.lexis

/-- The last language that has an extension, given in any case and with or without its dot. -/
def byExtension? (r : Registry) (ext : String) : Option Language :=
  r.languages.reverse.find? (·.extensions.contains (Language.dotted ext))

/-- The last language that an interpreter runs. -/
def byInterpreter? (r : Registry) (name : String) : Option Language :=
  r.languages.reverse.find? (·.interpreters.contains name)

/-! ## What registering does to the names and the look-up -/

/-- The rules are checked as they are given, and then put into the form in which they are kept. -/
theorem insert_eq_check (r : Registry) (language : Language) :
    r.insert language =
      (language.lexis.check language.id).map fun _ => ⟨put language.normalize r.languages⟩ := by
  rw [insert, Lexis.check]
  cases language.lexis.flaw? <;> rfl

@[simp] theorem ids_empty : empty.ids = [] := rfl

/-- The names after a language was put in: a new name goes to the end. -/
theorem map_id_put (language : Language) (ls : List Language) :
    (put language ls).map Language.id =
      if language.id ∈ ls.map Language.id then ls.map Language.id
      else ls.map Language.id ++ [language.id] := by
  induction ls with
  | nil => simp [put]
  | cons l ls ih =>
    by_cases h : l.id = language.id
    · simp [put, h]
    · have h' : ¬ language.id = l.id := fun e => h e.symm
      simp only [put, if_neg h, List.map_cons, List.mem_cons, h', false_or, ih]
      split <;> simp

/-- Putting in a language changes what is found under its own name and under no other. -/
theorem find?_put (language : Language) (ls : List Language) (id : String) :
    (put language ls).find? (·.id == id) =
      if language.id = id then some language else ls.find? (·.id == id) := by
  induction ls with
  | nil => simp [put, List.find?_cons]; split <;> simp_all
  | cons l ls ih =>
    by_cases h : l.id = language.id
    · by_cases h' : language.id = id <;> simp [put, h, h']
    · rw [put, if_neg h, List.find?_cons, List.find?_cons]
      by_cases h' : l.id = id
      · have : ¬ language.id = id := fun e => h (h'.trans e.symm)
        simp [h', this]
      · have : (l.id == id) = false := by simpa using h'
        simp [this, ih]

end Registry

end Decomment
