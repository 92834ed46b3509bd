import Decomment.Lexis
import Decomment.Value

/-!
# Lexical rules as data

How markers, pairs, delimiters and whole sets of rules are written as trees of data, and how they are
read. There is one way of writing and several of reading: a marker or delimiter may be given by its
text alone, and a pair or a set of rules by position. A field that is not there has its default.
-/

namespace Decomment

namespace LineMarker

/-- Reads a line marker from its text, or from a table. -/
def ofValue? : Value → Option LineMarker
  | .string marker => some { marker }
  | .table fields => do
    let marker ← Fields.read? fields "marker" Value.string?
    let notAfter ← Fields.readD fields "not_after" (Value.list? Value.char?) []
    let standalone ← Fields.readD fields "standalone" Value.bool? false
    some { marker, notAfter, standalone }
  | _ => none

/-- Writes a line marker as a table; an empty list of characters is left out. -/
def toValue (m : LineMarker) : Value :=
  .table <|
    [("marker", .string m.marker)]
      ++ (if m.notAfter.isEmpty then [] else [("not_after", .array (m.notAfter.map Value.ofChar))])
      ++ [("standalone", .bool m.standalone)]

end LineMarker

namespace BlockPair

/-- Reads a pair from a table, or from a list of two to four items. -/
def ofValue? : Value → Option BlockPair
  | .table fields => do
    let start ← Fields.read? fields "start" Value.string?
    let stop ← Fields.read? fields "end" Value.string?
    let nestable ← Fields.readD fields "nestable" Value.bool? false
    let lineStart ← Fields.readD fields "line_start" Value.bool? false
    some { start, stop, nestable, lineStart }
  | .array (start :: stop :: items) => do
    let start ← start.string?
    let stop ← stop.string?
    let (nestable, items) ← Value.nextD Value.bool? false items
    let (lineStart, items) ← Value.nextD Value.bool? false items
    if items.isEmpty then some { start, stop, nestable, lineStart } else none
  | _ => none

/-- Writes a pair as a table. -/
def toValue (pair : BlockPair) : Value :=
  .table [
    ("start", .string pair.start),
    ("end", .string pair.stop),
    ("nestable", .bool pair.nestable),
    ("line_start", .bool pair.lineStart)]

end BlockPair

namespace Quote

/-- Reads a delimiter from its text, or from a table. -/
def ofValue? : Value → Option Quote
  | .string delimiter => some { delimiter }
  | .table fields => do
    let delimiter ← Fields.read? fields "delimiter" Value.string?
    let multiline ← Fields.readD fields "multiline" Value.bool? true
    some { delimiter, multiline }
  | _ => none

/-- Writes a delimiter as a table. -/
def toValue (quote : Quote) : Value :=
  .table [("delimiter", .string quote.delimiter), ("multiline", .bool quote.multiline)]

end Quote

namespace Lexis

/-- Reads rules from the fields of a table; other fields are passed over. -/
def ofFields? (fields : Fields) : Option Lexis := do
  let lineMarkers ← fields.readD "single_line_markers" (Value.list? LineMarker.ofValue?) []
  let blocks ← fields.readD "block_delimiters" (Value.list? BlockPair.ofValue?) []
  let quotes ← fields.readD "string_delimiters" (Value.list? Quote.ofValue?) []
  let escape ← fields.readD "escape_char" Value.optionalChar? none
  let rawQuotes ← fields.readD "raw_string_markers" (Value.list? Quote.ofValue?) []
  some { lineMarkers, blocks, quotes, escape, rawQuotes }

/-- Reads rules from a list of at most five items. -/
def ofItems? (items : List Value) : Option Lexis := do
  let (lineMarkers, items) ← Value.nextD (Value.list? LineMarker.ofValue?) [] items
  let (blocks, items) ← Value.nextD (Value.list? BlockPair.ofValue?) [] items
  let (quotes, items) ← Value.nextD (Value.list? Quote.ofValue?) [] items
  let (escape, items) ← Value.nextD Value.optionalChar? none items
  let (rawQuotes, items) ← Value.nextD (Value.list? Quote.ofValue?) [] items
  if items.isEmpty then some { lineMarkers, blocks, quotes, escape, rawQuotes } else none

/-- Reads rules from a table or, by position, from a list. -/
def ofValue? : Value → Option Lexis
  | .table fields => ofFields? fields
  | .array items => ofItems? items
  | _ => none

/-- Writes rules as fields of a table. -/
def toFields (lexis : Lexis) : Fields := [
  ("single_line_markers", .array (lexis.lineMarkers.map LineMarker.toValue)),
  ("block_delimiters", .array (lexis.blocks.map BlockPair.toValue)),
  ("string_delimiters", .array (lexis.quotes.map Quote.toValue)),
  ("escape_char", (lexis.escape.map Value.ofChar).getD .null),
  ("raw_string_markers", .array (lexis.rawQuotes.map Quote.toValue))]

/-- Writes rules as a table. -/
def toValue (lexis : Lexis) : Value :=
  .table lexis.toFields

end Lexis

end Decomment
