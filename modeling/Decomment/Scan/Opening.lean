import Decomment.Lexis

/-!
# What opens at a place

`Lexis.opening?` says what begins at a place in code: a block comment, a string literal or a line
comment. It looks at nothing but the rest of the text, the character directly before it, and whether
the output line is blank so far.
-/

namespace Decomment

/-- A construct that begins at a place in code. -/
inductive Opening
  | block (pair : BlockPair)
  | literal (quote : Quote) (raw : Bool)
  | line (marker : LineMarker)
deriving DecidableEq, Repr, Inhabited

/-- The token that an opening begins with. -/
def Opening.token : Opening → String
  | block pair => pair.start
  | literal quote _ => quote.delimiter
  | line marker => marker.marker

namespace Lexis

/-- The first block pair in the list, among those tied to the start of a line or among the others,
whose start marker stands here. -/
def blockAt? (lexis : Lexis) (lineStart : Bool) (rest : List Char) : Option BlockPair :=
  lexis.blocks.find? fun pair => pair.lineStart == lineStart && Text.startsWith rest pair.start

/-- All delimiters, each with whether it is raw, raw ones last. -/
def delimiters (lexis : Lexis) : List (Quote × Bool) :=
  lexis.quotes.map (·, false) ++ lexis.rawQuotes.map (·, true)

/-- Of two delimiters the one with the longer text in UTF-8, the first if they are equally long. -/
def longer (best candidate : Quote × Bool) : Quote × Bool :=
  if best.1.delimiter.utf8ByteSize < candidate.1.delimiter.utf8ByteSize then candidate else best

/-- The longest delimiter that stands here, the first of several equally long ones. -/
def quoteAt? (lexis : Lexis) (rest : List Char) : Option (Quote × Bool) :=
  match lexis.delimiters.filter fun candidate => Text.startsWith rest candidate.1.delimiter with
  | [] => none
  | first :: others => some (others.foldl longer first)

/-- The first line marker in the list that opens a comment here. -/
def lineMarkerAt? (lexis : Lexis) (rest : List Char) (before : Option Char) : Option LineMarker :=
  lexis.lineMarkers.find? (·.opensAt rest before)

/-- What begins at the start of `rest`: a block comment tied to the start of a line if the line is
blank so far, else a string literal, else another block comment, else a line comment. -/
def opening? (lexis : Lexis) (lineBlank : Bool) (before : Option Char) (rest : List Char) :
    Option Opening :=
  ((if lineBlank then lexis.blockAt? true rest else none).map .block)
    <|> (lexis.quoteAt? rest).map (fun found => .literal found.1 found.2)
    <|> (lexis.blockAt? false rest).map .block
    <|> (lexis.lineMarkerAt? rest before).map .line

end Lexis

end Decomment
