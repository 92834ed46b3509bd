import Decomment.Text.Blank

/-!
# Parts of a text

Words between white space, parts between separators, and what stands at the end of a text.
-/

namespace Decomment.Text

/-- The words of a text that goes on after `read`, the part of its first word that was read, last
character first. -/
def wordsFrom (read : List Char) : List Char → List (List Char)
  | [] => if read.isEmpty then [] else [read.reverse]
  | c :: rest =>
    if isBlank c then
      if read.isEmpty then wordsFrom [] rest else read.reverse :: wordsFrom [] rest
    else wordsFrom (c :: read) rest

/-- The words of a text: the longest runs of characters that are not white space. -/
def words (text : List Char) : List (List Char) :=
  wordsFrom [] text

/-- The parts of a text between the separators `sep`; one more than there are separators. -/
def splitAt (sep : Char) : List Char → List (List Char)
  | [] => [[]]
  | c :: rest =>
    if c = sep then [] :: splitAt sep rest
    else match splitAt sep rest with
      | [] => [[c]]
      | part :: parts => (c :: part) :: parts

/-- A text without the characters at its end that pass a test. -/
def trimEnd (p : Char → Bool) (text : List Char) : List Char :=
  (text.reverse.dropWhile p).reverse

/-- What follows the last `sep` of a text; the whole text if it has none. -/
def afterLast (sep : Char) (text : List Char) : List Char :=
  (text.reverse.takeWhile (· != sep)).reverse

/-- What stands before the last `sep` of a text, and what follows it. -/
def splitLast? (sep : Char) (text : List Char) : Option (List Char × List Char) :=
  match text.reverse.dropWhile (· != sep) with
  | [] => none
  | _ :: before => some (before.reverse, afterLast sep text)

end Decomment.Text
