/-!
# Lines of a text

A line break is a line feed, alone or with a carriage return directly before it. A line is a body
and the ending that closes it; only the last line of a text may have no ending. `joinLines` puts the
lines of a text together again (`joinLines_splitLines`).
-/

namespace Decomment.Text

/-- What closes a line. -/
inductive Ending
  | none
  | lf
  | crlf
deriving DecidableEq, Repr, Inhabited

/-- The characters of a line ending. -/
def Ending.chars : Ending → List Char
  | .none => []
  | .lf => ['\n']
  | .crlf => ['\r', '\n']

/-- A line: its body and what closes it. -/
structure Line where
  body : List Char
  ending : Ending
deriving DecidableEq, Repr, Inhabited

/-- The characters of a line. -/
def Line.chars (line : Line) : List Char :=
  line.body ++ line.ending.chars

/-- A line that a line feed closes: a carriage return at the end of what stands before the line feed
belongs to the ending. -/
def Line.closed (upToBreak : List Char) : Line :=
  if upToBreak.getLast? = some '\r' then ⟨upToBreak.dropLast, .crlf⟩ else ⟨upToBreak, .lf⟩

/-- The lines of a text that goes on after `read`, the part of its first line that was read, last
character first. -/
def linesFrom (read : List Char) : List Char → List Line
  | [] => if read.isEmpty then [] else [⟨read.reverse, .none⟩]
  | c :: rest =>
    if c = '\n' then Line.closed read.reverse :: linesFrom [] rest else linesFrom (c :: read) rest

/-- The lines of a text. A text that ends in a line feed has no further line after it. -/
def splitLines (text : List Char) : List Line :=
  linesFrom [] text

/-- The text that a list of lines makes up. -/
def joinLines (lines : List Line) : List Char :=
  lines.flatMap Line.chars

@[simp] theorem Line.chars_closed (upToBreak : List Char) :
    (Line.closed upToBreak).chars = upToBreak ++ ['\n'] := by
  by_cases h : upToBreak.getLast? = some '\r'
  · obtain ⟨body, rfl⟩ := List.getLast?_eq_some_iff.1 h
    simp [Line.closed, Line.chars, Ending.chars]
  · simp [Line.closed, Line.chars, Ending.chars, h]

/-- Lines that are read on make up what was read before and the text. -/
theorem joinLines_linesFrom (read text : List Char) :
    joinLines (linesFrom read text) = read.reverse ++ text := by
  induction text generalizing read with
  | nil => cases read <;> simp [linesFrom, joinLines, Line.chars, Ending.chars]
  | cons c rest ih =>
    rw [linesFrom]
    split
    · next h =>
      subst h
      rw [joinLines, List.flatMap_cons, Line.chars_closed, ← joinLines, ih]
      simp
    · rw [ih]
      simp

/-- The lines of a text make up the text. -/
theorem joinLines_splitLines (text : List Char) : joinLines (splitLines text) = text :=
  joinLines_linesFrom [] text

/-- The number of characters before the first line break, or before the end if there is none. -/
def lineLength (text : List Char) : Nat :=
  let upToBreak := text.takeWhile (· != '\n')
  if upToBreak.getLast? = some '\r' && !(text.dropWhile (· != '\n')).isEmpty then
    upToBreak.length - 1
  else upToBreak.length

/-- Whether a text begins with a line break. -/
def startsWithBreak : List Char → Bool
  | '\n' :: _ => true
  | '\r' :: '\n' :: _ => true
  | _ => false

/-- The number of line feeds in a text. -/
def countBreaks (text : List Char) : Nat :=
  text.count '\n'

end Decomment.Text
