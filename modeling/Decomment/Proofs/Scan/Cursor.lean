import Decomment.Proofs.Text.Bytes
import Decomment.Scan

/-!
# A scan by offsets

`Cursor` is a scan that holds its place as a number of bytes and looks at the text through slices. A
slice whose ends are not places of the text, in their order, gives nothing, and so does a number
that would fall below zero; then the whole step gives nothing. The number of a line is counted only
when an advisory needs it, from the last line that was asked for.
-/

namespace Decomment.Scan

/-- One less than a number, which has to be positive. -/
def decrease? : Nat → Option Nat
  | 0 => none
  | n + 1 => some n

/-- Whether a marker opens a comment at the start of `rest`. The text behind the marker is looked at
only for a marker that stands alone and ends in a word character. -/
def opensAt? (m : LineMarker) (rest : List Char) (before : Option Char) : Option Bool :=
  if !Text.startsWith rest m.marker then some false
  else if before.any m.notAfter.contains then some false
  else if !m.standalone then some true
  else if m.marker.toList.getLast?.any Text.isWordChar then
    (Text.from? m.marker.utf8ByteSize rest).map fun after =>
      LineMarker.startsWord before && !after.head?.any Text.isWordChar
  else some (LineMarker.startsWord before)

/-- The first line marker that opens a comment. -/
def findOpening? (rest : List Char) (before : Option Char) :
    List LineMarker → Option (Option LineMarker)
  | [] => some none
  | m :: markers =>
    (opensAt? m rest before).bind fun opens =>
      if opens then some (some m) else findOpening? rest before markers

/-- The offset of the first occurrence of a pattern. -/
def offsetOf? (pattern : String) (text : List Char) : Option Nat :=
  (Text.indexOf? pattern text).map fun n => Text.size (text.take n)

/-- The construct that the next character belongs to, with the offset where it was opened. -/
inductive Cursor.Mode
  | code
  | literal (quote : Quote) (raw : Bool) (openedAt : Nat)
  | lineComment
  | block (pair : BlockPair) (depth : Nat) (openedAt : Nat)
deriving DecidableEq

/-- A scan that has come to an offset of its text. -/
structure Cursor where
  mode : Cursor.Mode := .code
  /-- The number of bytes read. -/
  offset : Nat := 0
  /-- The characters kept. -/
  kept : List Char := []
  /-- Whether only white space was kept since the last line feed kept. -/
  lineBlank : Bool := true
  /-- The last offset whose line was asked for, and that line. -/
  mark : Nat × Nat := (0, 1)
  advisories : List Advisory := []
deriving DecidableEq

namespace Cursor

/-- Keeps a text. -/
def emit (c : Cursor) (text : List Char) : Cursor :=
  { c with
    kept := c.kept ++ text
    lineBlank := text.foldl blankAfter c.lineBlank }

/-- Goes on a number of bytes further, in another mode. -/
def move (c : Cursor) (bytes : Nat) (mode : Mode) : Cursor :=
  { c with mode, offset := c.offset + bytes }

/-- Keeps the next character of the rest. -/
def emitChar (c : Cursor) (rest : List Char) : Option Cursor :=
  let bytes := rest.head?.elim 1 Char.utf8Size
  (Text.upTo? bytes rest).map fun taken => (c.emit taken).move bytes c.mode

/-- The line of an offset, counted on from the mark if that is not behind the offset. -/
def lineOf? (c : Cursor) (text : List Char) (offset : Nat) : Option (Nat × Cursor) :=
  let (start, line) := if c.mark.1 ≤ offset then c.mark else (0, 1)
  (Text.bytesBetween? start offset text).map fun between =>
    let line := line + between.count 10
    (line, { c with mark := (offset, line) })

/-- Raises an advisory for what was opened at an offset. -/
def advise? (c : Cursor) (text : List Char) (openedAt : Nat) (advisory : Nat → Advisory) :
    Option Cursor :=
  (c.lineOf? text openedAt).map fun (line, c) =>
    { c with advisories := c.advisories ++ [advisory line] }

/-- Opens a block comment. -/
def openBlock (c : Cursor) (pair : BlockPair) : Cursor :=
  c.move pair.start.utf8ByteSize (.block pair 0 c.offset)

/-- A step in code. -/
def stepCode (c : Cursor) (lexis : Lexis) (text rest : List Char) : Option Cursor :=
  match if c.lineBlank then lexis.blockAt? true rest else none with
  | some pair => some (c.openBlock pair)
  | none =>
    match lexis.quoteAt? rest with
    | some (quote, raw) =>
      some ((c.emit quote.delimiter.toList).move quote.delimiter.utf8ByteSize
        (.literal quote raw c.offset))
    | none =>
      match lexis.blockAt? false rest with
      | some pair => some (c.openBlock pair)
      | none =>
        (Text.upTo? c.offset text).bind fun before =>
          (findOpening? rest before.getLast? lexis.lineMarkers).bind fun
            | some m => some (c.move m.marker.utf8ByteSize .lineComment)
            | none => c.emitChar rest

/-- A step in a string literal. -/
def stepLiteral (c : Cursor) (lexis : Lexis) (text rest : List Char) (quote : Quote) (raw : Bool)
    (openedAt : Nat) : Option Cursor :=
  if !raw && State.escapesNext lexis.escape rest then
    let bytes := Text.size (rest.take 2)
    (Text.upTo? bytes rest).map fun taken => (c.emit taken).move bytes c.mode
  else if Text.startsWith rest quote.delimiter then
    some ((c.emit quote.delimiter.toList).move quote.delimiter.utf8ByteSize .code)
  else if !quote.multiline && Text.startsWithBreak rest then
    (c.advise? text openedAt (.unterminatedString quote.delimiter)).map (·.move 0 .code)
  else c.emitChar rest

/-- A step in a line comment. -/
def stepLine (c : Cursor) (text rest : List Char) : Option Cursor :=
  match offsetOf? "\n" rest with
  | some idx =>
    (Text.upTo? idx rest).bind fun line =>
      if line.getLast? = some '\r' then (decrease? idx).map fun bytes => c.move bytes .code
      else some (c.move idx .code)
  | none => some { c with offset := Text.size text }

/-- A step in a block comment. -/
def stepBlock (c : Cursor) (text rest : List Char) (pair : BlockPair) (depth openedAt : Nat) :
    Option Cursor :=
  if !pair.nestable then
    match offsetOf? pair.stop rest with
    | some idx => some (c.move (idx + pair.stop.utf8ByteSize) .code)
    | none => some { c with offset := Text.size text }
  else if Text.startsWith rest pair.stop then
    if depth = 0 then some (c.move pair.stop.utf8ByteSize .code)
    else (decrease? depth).map fun depth =>
      c.move pair.stop.utf8ByteSize (.block pair depth openedAt)
  else if Text.startsWith rest pair.start then
    some (c.move pair.start.utf8ByteSize (.block pair (depth + 1) openedAt))
  else some (c.move (rest.head?.elim 1 Char.utf8Size) c.mode)

/-- One step of a scan. -/
def step (lexis : Lexis) (text : List Char) (c : Cursor) : Option Cursor :=
  (Text.from? c.offset text).bind fun rest =>
    match c.mode with
    | .code => c.stepCode lexis text rest
    | .literal quote raw openedAt => c.stepLiteral lexis text rest quote raw openedAt
    | .lineComment => c.stepLine text rest
    | .block pair depth openedAt => c.stepBlock text rest pair depth openedAt

/-- The first steps of a scan, up to the given number, while there is something left to read. -/
def run (lexis : Lexis) (text : List Char) : (steps : Nat) → Cursor → Option Cursor
  | 0, c => some c
  | steps + 1, c =>
    if c.offset < Text.size text then (c.step lexis text).bind (run lexis text steps) else some c

/-- What a scan gives in the end, with an advisory for what is still open. -/
def finish (text : List Char) (c : Cursor) : Option Stripped :=
  let closed := match c.mode with
    | .literal quote _ openedAt => c.advise? text openedAt (.unterminatedString quote.delimiter)
    | .block pair _ openedAt => c.advise? text openedAt (.unterminatedBlock pair.start)
    | .code | .lineComment => some c
  closed.map fun c => ⟨c.kept, c.advisories⟩

end Cursor

end Decomment.Scan
