import Decomment.Language.Shape
import Decomment.Registry.Builtin
import Decomment.Tidy.Shape

/-!
# Settings

What a user may fix for all commands: the language of files whose language is not found, whether an
edited file is backed up, the clean-ups to apply, and languages of the user's own.
-/

namespace Decomment

/-- The settings of the program. -/
structure Settings where
  /-- The language of files whose language is not found. -/
  fallbackLanguage : String := "c_style"
  /-- Whether a file that is edited in place is backed up. -/
  backup : Bool := true
  /-- The clean-ups to apply to every result. -/
  tidy : Tidy := {}
  /-- Languages to register after those known from the start. -/
  languages : List Language := []
deriving DecidableEq, Repr, Inhabited

namespace Settings

/-- The languages known from the start, and then those of the settings. -/
def registry (settings : Settings) : Except Error Registry :=
  Registry.builtin.insertAll settings.languages

/-! ## Settings as data -/

/-- Reads the clean-ups of settings: a list may be too long, and a point in time is a table without
any field that matters. -/
def tidyOfValue? : Value → Option Tidy
  | .array items => Tidy.ofItems? items
  | .moment _ => some {}
  | value => Tidy.ofValue? value

/-- Reads settings from the fields of a table; other fields are passed over. -/
def ofFields? (fields : Fields) : Option Settings := do
  let fallbackLanguage ← fields.readD "fallback_language" Value.string? "c_style"
  let backup ← fields.readD "backup" Value.bool? true
  let tidy ← fields.readD "tidy" tidyOfValue? {}
  let languages ← fields.readD "languages" (Value.list? Language.ofValue?) []
  some { fallbackLanguage, backup, tidy, languages }

/-- Writes settings as fields of a table; an empty list of languages is left out. -/
def toFields (settings : Settings) : Fields :=
  [("fallback_language", .string settings.fallbackLanguage),
    ("backup", .bool settings.backup),
    ("tidy", settings.tidy.toValue)]
    ++ (if settings.languages.isEmpty then []
      else [("languages", .array (settings.languages.map Language.toValue))])

/-! ## Single settings -/

/-- A truth value, as words of any case give it. -/
def parseBool? (word : String) : Option Bool :=
  let lowered := Text.lower word
  if ["true", "1", "yes", "on"].contains lowered then some true
  else if ["false", "0", "no", "off"].contains lowered then some false
  else none

/-- The names of the settings that can be read and changed one by one. -/
inductive Key
  | fallbackLanguage
  | backup
  | squeezeBlankLines
  | trimTrailing
  | finalNewline
deriving DecidableEq, Repr, Inhabited

/-- The setting that a name stands for. -/
def Key.ofName? : String → Option Key
  | "fallback_language" => some .fallbackLanguage
  | "backup" => some .backup
  | "tidy.squeeze_blank_lines" => some .squeezeBlankLines
  | "tidy.trim_trailing_whitespace" => some .trimTrailing
  | "tidy.final_newline" => some .finalNewline
  | _ => none

/-- A truth value in words. -/
def boolText (b : Bool) : String :=
  if b then "true" else "false"

/-- The text of one setting. -/
def get (settings : Settings) : Key → String
  | .fallbackLanguage => settings.fallbackLanguage
  | .backup => boolText settings.backup
  | .squeezeBlankLines => boolText settings.tidy.squeezeBlankLines
  | .trimTrailing => boolText settings.tidy.trimTrailing
  | .finalNewline => boolText settings.tidy.finalNewline

/-- A truth value given as a word, which has to be one of the known words. -/
def parseBool (word : String) : Except Error Bool :=
  match parseBool? word with
  | some b => .ok b
  | none => .error (.invalidValue word)

/-- The settings with one setting changed. The fallback has to be a language of the settings. -/
def set (settings : Settings) (key : Key) (value : String) : Except Error Settings :=
  match key with
  | .fallbackLanguage => do
    let registry ← settings.registry
    let _ ← registry.get value
    return { settings with fallbackLanguage := value }
  | .backup => do
    let b ← parseBool value
    return { settings with backup := b }
  | .squeezeBlankLines => do
    let b ← parseBool value
    return { settings with tidy.squeezeBlankLines := b }
  | .trimTrailing => do
    let b ← parseBool value
    return { settings with tidy.trimTrailing := b }
  | .finalNewline => do
    let b ← parseBool value
    return { settings with tidy.finalNewline := b }

end Settings

end Decomment
