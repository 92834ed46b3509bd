import Decomment.Scan.State

/-!
# Removal of comments

`scan` gives a text without its comments, and an advisory for each construct that was left open.
Everything that is not part of a comment is kept as it is.
-/

namespace Decomment

/-- What a scan gives. -/
structure Stripped where
  /-- The text without its comments. -/
  text : List Char
  /-- What was left open, in the order of the text. -/
  advisories : List Advisory
deriving DecidableEq, Repr, Inhabited

namespace Stripped

/-- Whether nothing was left open. -/
def isClean (result : Stripped) : Bool :=
  result.advisories.isEmpty

/-- What a finished scan has kept and raised, with an advisory for what is still open. -/
def ofState (s : Scan.State) : Stripped where
  text := s.kept.reverse
  advisories := s.advisories.reverse ++ s.mode.leftOpen?.toList

end Stripped

/-- Removes the comments from a text. A place of the text is the scene of three steps at most: one
closes a construct there, one opens the next, and one goes on. -/
def scan (lexis : Lexis) (text : List Char) : Stripped :=
  .ofState ((Scan.State.start text).run lexis (3 * text.length))

/-- A text without its comments. -/
def removeComments (lexis : Lexis) (text : List Char) : List Char :=
  (scan lexis text).text

end Decomment
