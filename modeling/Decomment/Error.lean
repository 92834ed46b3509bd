import Decomment.Lexis

/-!
# Errors

Everything that can end a command, by its cause. `Error.message` is the one place where causes are
put into words.
-/

namespace Decomment

/-- Why something on the disk could not be read or written. -/
inductive DiskError
  | notFound
  | isDirectory
  | notDirectory
  | alreadyExists
  /-- A name, or the path as a whole, is longer than a disk takes it. -/
  | nameTooLong
  /-- The path has a character in it that ends a path. -/
  | malformedPath
  /-- The content is no UTF-8 text. -/
  | notText
deriving DecidableEq, Repr, Inhabited

/-- The cause in words. -/
def DiskError.message : DiskError → String
  | notFound => "no such file or directory"
  | isDirectory => "is a directory"
  | notDirectory => "not a directory"
  | alreadyExists => "file exists"
  | nameTooLong => "file name too long"
  | malformedPath => "file name contained an unexpected NUL byte"
  | notText => "stream did not contain valid UTF-8"

/-- Why standard output did not take all of a text. -/
inductive OutputError
  /-- Nobody reads it any more. -/
  | closed
  /-- There is no room left for it. -/
  | full
  | broken
deriving DecidableEq, Repr, Inhabited

/-- The cause in words. -/
def OutputError.message : OutputError → String
  | closed => "broken pipe"
  | full => "no space left on device"
  | broken => "input/output error"

/-- Why the arguments of a command line make no request. -/
inductive UsageError
  /-- Help is asked for. -/
  | displayHelp
  /-- The version is asked for. -/
  | displayVersion
  /-- Nothing is given where a command is expected, so that help is in place. -/
  | nothingGiven
  /-- Options are given, but no command. -/
  | missingCommand
  | invalidCommand
  | unknownArgument
  | missingArgument
  | invalidValue
  | repeatedArgument
  | unexpectedValue
deriving DecidableEq, Repr, Inhabited

/-- The cause in words. -/
def UsageError.message : UsageError → String
  | displayHelp => "help requested"
  | displayVersion => "version requested"
  | nothingGiven => "no command given"
  | missingCommand => "a command is required but none was given"
  | invalidCommand => "unrecognized command"
  | unknownArgument => "unexpected argument"
  | missingArgument => "a required argument is missing"
  | invalidValue => "invalid value for an argument"
  | repeatedArgument => "an argument cannot be used several times"
  | unexpectedValue => "unexpected value for a flag"

/-- Why a command fails. -/
inductive Error
  | unknownLanguage (id : String)
  | invalidLexis (language : String) (flaw : Lexis.Flaw)
  | inputNotFound (path : String)
  | conflictingOutputs
  | inPlaceStdin
  | unknownSetting (key : String)
  | invalidValue (value : String)
  /-- There is no home directory to keep settings in. -/
  | noHome
  | disk (cause : DiskError)
  /-- The result could not be printed. -/
  | output (cause : OutputError)
  /-- The text of the settings is malformed, or a value in it has the wrong shape. -/
  | malformedSettings
  /-- The settings have no text. -/
  | unwritableSettings
  | usage (cause : UsageError)
deriving DecidableEq, Repr, Inhabited

/-- The error in words. -/
def Error.message : Error → String
  | unknownLanguage id =>
    s!"unknown language: {id}\nRun `comment-remover languages` to see supported languages"
  | invalidLexis language flaw => s!"invalid syntax for {language}: {flaw.reason}"
  | inputNotFound path => s!"input file not found: {path}"
  | conflictingOutputs => "cannot use --in-place (-i) and --output (-o) together"
  | inPlaceStdin => "--in-place requires an input file, not stdin"
  | unknownSetting key =>
    s!"unknown setting: {key}\nValid options: fallback_language, backup, "
      ++ "tidy.squeeze_blank_lines, tidy.trim_trailing_whitespace, tidy.final_newline"
  | invalidValue value => s!"invalid value: {value}"
  | noHome => "config error: could not determine home directory"
  | disk cause => cause.message
  | output cause => cause.message
  | malformedSettings => "malformed settings"
  | unwritableSettings => "settings that cannot be written"
  | usage cause => cause.message

/-- Steps one after the other give a result only if each of them does. -/
theorem bind_eq_ok {ε α β : Type} {x : Except ε α} {f : α → Except ε β} {b : β}
    (h : x >>= f = .ok b) : ∃ a, x = .ok a ∧ f a = .ok b := by
  cases x with
  | error e => cases h
  | ok a => exact ⟨a, rfl, h⟩

/-- Steps one after the other fail only if one of them does. -/
theorem bind_eq_error {ε α β : Type} {x : Except ε α} {f : α → Except ε β} {e : ε}
    (h : x >>= f = .error e) : x = .error e ∨ ∃ a, x = .ok a ∧ f a = .error e := by
  cases x with
  | error e' =>
    cases h
    exact .inl rfl
  | ok a => exact .inr ⟨a, rfl, h⟩

end Decomment
