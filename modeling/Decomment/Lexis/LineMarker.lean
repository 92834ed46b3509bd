import Decomment.Text.Blank
import Decomment.Text.Search
import Decomment.Text.Word

/-!
# Line markers

A line marker opens a comment that runs to the end of its line. Two conditions can keep it from
doing so: the character directly before it, and, for a marker that has to stand alone, the words
around it.
-/

namespace Decomment

/-- A marker that opens a comment to the end of the line. -/
structure LineMarker where
  /-- The text of the marker. -/
  marker : String
  /-- Characters directly before the marker that keep it from opening a comment. -/
  notAfter : List Char := []
  /-- Whether the marker opens a comment only as a word of its own. -/
  standalone : Bool := false
deriving DecidableEq, Repr, Inhabited

namespace LineMarker

/-- Characters other than white space that end the word before a marker. -/
def wordBreaks : List Char := [';', '&', '|', '(', ')', '@']

/-- Whether a word may start after the character `before`, or at the start of the text. -/
def startsWord (before : Option Char) : Bool :=
  before.all fun c => Text.isBlank c || wordBreaks.contains c

/-- Whether the marker is a whole word when `after` follows it: it does not end in a word character,
or none follows. -/
def endsWord (m : LineMarker) (after : List Char) : Bool :=
  !(m.marker.toList.getLast?.any Text.isWordChar && after.head?.any Text.isWordChar)

/-- Whether the marker opens a comment at the start of `rest`, when `before` is the character
directly before it. -/
def opensAt (m : LineMarker) (rest : List Char) (before : Option Char) : Bool :=
  Text.startsWith rest m.marker
    && !before.any m.notAfter.contains
    && (!m.standalone || (startsWord before && m.endsWord (rest.drop m.marker.length)))

/-- A marker opens a comment only where its text stands. -/
theorem startsWith_of_opensAt {m : LineMarker} {rest : List Char} {before : Option Char}
    (h : m.opensAt rest before = true) : Text.startsWith rest m.marker = true := by
  simp only [opensAt, Bool.and_eq_true] at h
  exact h.1.1

end LineMarker

end Decomment
