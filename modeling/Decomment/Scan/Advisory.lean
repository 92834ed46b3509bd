/-!
# Advisories

A scan never fails. What it finds unclosed it reports as an advisory, with the line on which the
unclosed construct begins.
-/

namespace Decomment

/-- Something left open in a text, and the number of the line where it begins. -/
inductive Advisory
  /-- A string literal that its delimiter does not close. -/
  | unterminatedString (delimiter : String) (line : Nat)
  /-- A block comment that its closing marker does not close. -/
  | unterminatedBlock (start : String) (line : Nat)
deriving DecidableEq, Repr, Inhabited

namespace Advisory

/-- The line where the open construct begins, counted from one. -/
def line : Advisory → Nat
  | unterminatedString _ line => line
  | unterminatedBlock _ line => line

/-- The same advisory a number of lines further down. -/
def shift (lines : Nat) : Advisory → Advisory
  | unterminatedString delimiter line => unterminatedString delimiter (lines + line)
  | unterminatedBlock start line => unterminatedBlock start (lines + line)

/-- The advisory in words. -/
def message : Advisory → String
  | unterminatedString delimiter line =>
    s!"line {line}: unterminated string opened with {delimiter}; kept as-is"
  | unterminatedBlock start line =>
    s!"line {line}: unterminated block comment opened with {start}; rest of input removed"

@[simp] theorem line_shift (lines : Nat) (a : Advisory) : (a.shift lines).line = lines + a.line := by
  cases a <;> rfl

end Advisory

end Decomment
