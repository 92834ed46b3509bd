import Decomment.Scan.Advisory
import Decomment.Scan.Opening
import Decomment.Text.Lines

/-!
# One step of a scan

A scan reads a text from left to right. Its state holds what was read, what is left, what was kept,
and the construct that the place belongs to. `State.step` reads one piece: it opens a construct,
closes it, or passes over one or more characters of it. The text read and the text left always make
up the input (`State.input_step`).
-/

namespace Decomment.Scan

/-- The construct that the next character belongs to. -/
inductive Mode
  | code
  /-- Inside a string literal that was opened on the given line. -/
  | literal (quote : Quote) (raw : Bool) (line : Nat)
  /-- Inside a comment to the end of the line. -/
  | lineComment
  /-- Inside a block comment that was opened on the given line; `depth` counts the levels opened
  inside the outermost one. -/
  | block (pair : BlockPair) (depth : Nat) (line : Nat)
deriving DecidableEq, Repr, Inhabited

/-- The advisory for what is still open at the end of the text. -/
def Mode.leftOpen? : Mode → Option Advisory
  | .literal quote _ line => some (.unterminatedString quote.delimiter line)
  | .block pair _ line => some (.unterminatedBlock pair.start line)
  | .code | .lineComment => none

/-- A scan that has come to some place of its input. -/
structure State where
  /-- The construct that the next character belongs to. -/
  mode : Mode := .code
  /-- The characters read, last one first. -/
  read : List Char := []
  /-- The characters left to read. -/
  rest : List Char
  /-- The characters kept, last one first. -/
  kept : List Char := []
  /-- Whether only white space was kept since the last line feed kept. -/
  lineBlank : Bool := true
  /-- The number of the line that the next character is on. -/
  line : Nat := 1
  /-- The advisories raised, last one first. -/
  advisories : List Advisory := []
deriving DecidableEq, Repr, Inhabited

/-- Whether a line is still blank when a character follows on it. -/
def blankAfter (lineBlank : Bool) (c : Char) : Bool :=
  c == '\n' || (lineBlank && Text.isBlank c)

namespace State

/-- The scan at the start of a text. -/
def start (text : List Char) : State :=
  { rest := text }

/-- The input as a whole. -/
def input (s : State) : List Char :=
  s.read.reverse ++ s.rest

/-- Reads `n` characters and drops them. -/
def skip (s : State) (n : Nat) : State :=
  let taken := s.rest.take n
  { s with
    read := taken.reverseAux s.read
    rest := s.rest.drop n
    line := s.line + Text.countBreaks taken }

/-- Reads `n` characters and keeps them. -/
def keep (s : State) (n : Nat) : State :=
  let taken := s.rest.take n
  { s.skip n with
    kept := taken.reverseAux s.kept
    lineBlank := taken.foldl blankAfter s.lineBlank }

/-- Goes on in another mode. -/
def enter (s : State) (mode : Mode) : State :=
  { s with mode }

/-- Raises an advisory. -/
def advise (s : State) (advisory : Advisory) : State :=
  { s with advisories := advisory :: s.advisories }

/-- A step in code: opens what begins here, or keeps one character. -/
def stepCode (s : State) (lexis : Lexis) : State :=
  match lexis.opening? s.lineBlank s.read.head? s.rest with
  | some (.block pair) => (s.skip pair.start.length).enter (.block pair 0 s.line)
  | some (.literal quote raw) => (s.keep quote.delimiter.length).enter (.literal quote raw s.line)
  | some (.line marker) => (s.skip marker.marker.length).enter .lineComment
  | none => s.keep 1

/-- Whether the rest begins with an escape character and one that it escapes. -/
def escapesNext (escape : Option Char) : List Char → Bool
  | c :: _ :: _ => escape == some c
  | _ => false

/-- A step in a string literal: an escaped character is passed over, the delimiter closes the
literal, and so does, with an advisory, a line break in a literal of one line. -/
def stepLiteral (s : State) (lexis : Lexis) (quote : Quote) (raw : Bool) (line : Nat) : State :=
  if !raw && escapesNext lexis.escape s.rest then s.keep 2
  else if Text.startsWith s.rest quote.delimiter then
    (s.keep quote.delimiter.length).enter .code
  else if !quote.multiline && Text.startsWithBreak s.rest then
    (s.advise (.unterminatedString quote.delimiter line)).enter .code
  else s.keep 1

/-- A step in a line comment: drops everything up to the line break. -/
def stepLine (s : State) : State :=
  (s.skip (Text.lineLength s.rest)).enter .code

/-- A step in a block comment that does not nest: drops everything up to and with the closing
marker. -/
def stepFlatBlock (s : State) (pair : BlockPair) : State :=
  match Text.indexOf? pair.stop s.rest with
  | some n => (s.skip (n + pair.stop.length)).enter .code
  | none => s.skip s.rest.length

/-- A step in a block comment that nests: a closing marker closes the innermost level, a start marker
opens one, and any other character is dropped. -/
def stepNestedBlock (s : State) (pair : BlockPair) (depth line : Nat) : State :=
  if Text.startsWith s.rest pair.stop then
    (s.skip pair.stop.length).enter <|
      match depth with
      | 0 => .code
      | depth + 1 => .block pair depth line
  else if Text.startsWith s.rest pair.start then
    (s.skip pair.start.length).enter (.block pair (depth + 1) line)
  else s.skip 1

/-- One step of a scan. -/
def step (lexis : Lexis) (s : State) : State :=
  match s.mode with
  | .code => s.stepCode lexis
  | .literal quote raw line => s.stepLiteral lexis quote raw line
  | .lineComment => s.stepLine
  | .block pair depth line =>
    if pair.nestable then s.stepNestedBlock pair depth line else s.stepFlatBlock pair

/-- At most `fuel` steps, fewer if the text ends before. -/
def run (lexis : Lexis) : (fuel : Nat) → State → State
  | 0, s => s
  | fuel + 1, s => if s.rest.isEmpty then s else run lexis fuel (s.step lexis)

/-! ## Nothing is lost -/

@[simp] theorem input_start (text : List Char) : (start text).input = text := rfl

@[simp] theorem input_skip (s : State) (n : Nat) : (s.skip n).input = s.input := by
  simp [input, skip, List.reverseAux_eq]

@[simp] theorem input_keep (s : State) (n : Nat) : (s.keep n).input = s.input :=
  input_skip s n

@[simp] theorem input_enter (s : State) (mode : Mode) : (s.enter mode).input = s.input := rfl

@[simp] theorem input_advise (s : State) (a : Advisory) : (s.advise a).input = s.input := rfl

/-- A step changes neither what was given nor its order. -/
@[simp] theorem input_step (lexis : Lexis) (s : State) : (s.step lexis).input = s.input := by
  simp only [step, stepCode, stepLiteral, stepLine, stepFlatBlock, stepNestedBlock]
  repeat' split
  all_goals simp

/-- A run changes neither what was given nor its order. -/
theorem input_run (lexis : Lexis) (fuel : Nat) (s : State) :
    (s.run lexis fuel).input = s.input := by
  induction fuel generalizing s with
  | zero => rfl
  | succ fuel ih =>
    rw [run]
    split
    · rfl
    · rw [ih, input_step]

end State

end Decomment.Scan
