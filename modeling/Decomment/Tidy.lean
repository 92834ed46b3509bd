import Decomment.Text.Lines
import Decomment.Text.Split

/-!
# Tidying

Clean-ups of a text whose comments were removed: runs of blank lines become one, blanks at the ends
of lines go, and the text ends in one line feed. Each can be had without the others.
-/

namespace Decomment

/-- Which clean-ups to apply. -/
structure Tidy where
  /-- Make one empty line of every run of blank lines. -/
  squeezeBlankLines : Bool := false
  /-- Remove spaces and tabs from the end of every line. -/
  trimTrailing : Bool := false
  /-- End a text that is not empty with exactly one line feed. -/
  finalNewline : Bool := false
deriving DecidableEq, Repr, Inhabited

namespace Tidy

/-- Whether no clean-up is asked for. -/
def isNoop (options : Tidy) : Bool :=
  !(options.squeezeBlankLines || options.trimTrailing || options.finalNewline)

/-- Every clean-up that one side or the other asks for. -/
def merge (a b : Tidy) : Tidy where
  squeezeBlankLines := a.squeezeBlankLines || b.squeezeBlankLines
  trimTrailing := a.trimTrailing || b.trimTrailing
  finalNewline := a.finalNewline || b.finalNewline

/-- Whether a line holds nothing but white space. -/
def isBlankLine (line : Text.Line) : Bool :=
  line.body.all Text.isBlank

/-- Empties the first line of every run of blank lines and drops the others. `previousBlank` says
whether the line before was blank. -/
def squeeze (previousBlank : Bool) : List Text.Line → List Text.Line
  | [] => []
  | line :: lines =>
    if isBlankLine line then
      if previousBlank then squeeze true lines else { line with body := [] } :: squeeze true lines
    else line :: squeeze false lines

/-- A line without spaces and tabs at the end of its body. -/
def trimLine (line : Text.Line) : Text.Line :=
  { line with body := Text.trimEnd (fun c => c == ' ' || c == '\t') line.body }

/-- A text with exactly one line feed at its end; a text of nothing but line ends stays as it is. -/
def endWithNewline (text : List Char) : List Char :=
  match Text.trimEnd (fun c => c == '\n' || c == '\r') text with
  | [] => text
  | trimmed => trimmed ++ ['\n']

/-- Tidies a text. -/
def apply (options : Tidy) (text : List Char) : List Char :=
  if options.isNoop then text
  else
    let lines := Text.splitLines text
    let lines := if options.squeezeBlankLines then squeeze false lines else lines
    let lines := if options.trimTrailing then lines.map trimLine else lines
    let tidied := Text.joinLines lines
    if options.finalNewline then endWithNewline tidied else tidied

@[simp] theorem isNoop_default : isNoop {} = true := rfl

@[simp] theorem apply_default (text : List Char) : apply {} text = text := rfl

@[simp] theorem merge_default (options : Tidy) : options.merge {} = options := by
  simp [merge]

end Tidy

end Decomment
