import Decomment.Proofs.Text.Search
import Decomment.Scan
import Decomment.Text.Split

/-!
# Segments of a text

A text is a row of segments: characters of code, string literals, line comments and block comments.
`Segment.Fits` says where a segment may stand and how far it goes, in terms of the text before it,
what was kept of that text, and the text after it. No step of a scan is mentioned here; `Cut` asks
the same of a whole row of segments.

What goes first at a place in code is settled in `Opens`: a block pair tied to the start of a line,
if the line that was kept is blank so far, then the longest delimiter, then another block pair, then
a line marker.
-/

namespace Decomment.Scan

/-- `a` is the first of the items with a property. -/
def FirstWith {α : Type} (P : α → Prop) (items : List α) (a : α) : Prop :=
  ∃ earlier later, items = earlier ++ a :: later ∧ P a ∧ ∀ b ∈ earlier, ¬ P b

/-- Only white space was kept since the last line feed kept. -/
def BlankLine (kept : List Char) : Prop :=
  ∀ c ∈ Text.afterLast '\n' kept, Text.isBlank c = true

theorem blankLine_nil : BlankLine [] := by
  intro c hc
  cases hc

/-- A line feed begins a blank line, and white space keeps one blank. -/
theorem blankLine_concat {kept : List Char} {c : Char} :
    BlankLine (kept ++ [c]) ↔ c = '\n' ∨ (BlankLine kept ∧ Text.isBlank c = true) := by
  by_cases hc : c = '\n'
  · subst hc
    simp [BlankLine, Text.afterLast]
  · simp [BlankLine, Text.afterLast, hc, or_imp, forall_and, and_comm]

/-- A place in a text: what stands before it, and what was kept of that. -/
structure Place where
  before : List Char
  kept : List Char

/-! ## What begins at a place in code -/

section
variable (lexis : Lexis) (place : Place) (rest : List Char)

/-- No block pair tied to the start of a line begins here, or the line is not blank so far. -/
def AnchorFree : Prop :=
  BlankLine place.kept →
    ∀ pair ∈ lexis.blocks, pair.lineStart = true → ¬ pair.start.toList <+: rest

/-- No delimiter stands here. -/
def QuoteFree : Prop :=
  ∀ entry ∈ lexis.delimiters, ¬ entry.1.delimiter.toList <+: rest

/-- No block pair that may open anywhere begins here. -/
def BlockFree : Prop :=
  ∀ pair ∈ lexis.blocks, pair.lineStart = false → ¬ pair.start.toList <+: rest

/-- No line marker opens a comment here, after the character before the place. -/
def MarkerFree : Prop :=
  ∀ m ∈ lexis.lineMarkers, m.opensAt rest place.before.getLast? = false

/-- A delimiter stands here and none that is longer in UTF-8. -/
structure LongestQuote (quote : Quote) (raw : Bool) : Prop where
  mem : (quote, raw) ∈ lexis.delimiters
  begins : quote.delimiter.toList <+: rest
  longest : ∀ entry ∈ lexis.delimiters, entry.1.delimiter.toList <+: rest →
    entry.1.delimiter.utf8ByteSize ≤ quote.delimiter.utf8ByteSize

/-- A construct begins here, and nothing that goes before it does. -/
def Opens : Opening → Prop
  | .block pair =>
    FirstWith (fun p => p.lineStart = pair.lineStart ∧ p.start.toList <+: rest) lexis.blocks pair ∧
      if pair.lineStart then BlankLine place.kept
      else AnchorFree lexis place rest ∧ QuoteFree lexis rest
  | .literal quote raw => AnchorFree lexis place rest ∧ LongestQuote lexis rest quote raw
  | .line marker =>
    AnchorFree lexis place rest ∧ QuoteFree lexis rest ∧ BlockFree lexis rest ∧
      FirstWith (fun m => m.opensAt rest place.before.getLast? = true) lexis.lineMarkers marker

/-- Nothing begins here. -/
structure Quiet : Prop where
  anchors : AnchorFree lexis place rest
  quotes : QuoteFree lexis rest
  blocks : BlockFree lexis rest
  markers : MarkerFree lexis place rest

end

/-! ## How far a literal goes -/

/-- What ends a literal. -/
inductive Close
  /-- Its delimiter, which belongs to it. -/
  | delimiter
  /-- A line break, which does not. -/
  | lineBreak
  /-- The end of the text. -/
  | textEnd
deriving DecidableEq

section
variable (lexis : Lexis) (quote : Quote) (raw : Bool)

/-- No escape character takes the next character along, in a literal of this kind. -/
def Unescaped (rest : List Char) : Prop :=
  raw = true ∨ State.escapesNext lexis.escape rest = false

/-- A literal goes on with its next character: nothing escapes, and nothing ends it. -/
structure GoesOn (rest : List Char) : Prop where
  unescaped : Unescaped lexis raw rest
  no_delimiter : ¬ quote.delimiter.toList <+: rest
  no_break : quote.multiline = true ∨ Text.startsWithBreak rest = false

/-- What stands between the delimiters of a literal when `tail` follows: single characters, and
escape characters with the ones that they escape. -/
inductive LiteralBody (tail : List Char) : List Char → Prop
  | nil : LiteralBody tail []
  | escaped {c d : Char} {body : List Char} : raw = false → lexis.escape = some c →
      LiteralBody tail body → LiteralBody tail (c :: d :: body)
  | plain {c : Char} {body : List Char} : GoesOn lexis quote raw (c :: (body ++ tail)) →
      LiteralBody tail body → LiteralBody tail (c :: body)

/-- The part of a literal that ends it. -/
def Close.chars : Close → List Char
  | .delimiter => quote.delimiter.toList
  | .lineBreak | .textEnd => []

/-- A literal may end in this way before `after`. -/
def Close.Fits (after : List Char) : Close → Prop
  | .delimiter => Unescaped lexis raw (quote.delimiter.toList ++ after)
  | .lineBreak => Unescaped lexis raw after ∧ ¬ quote.delimiter.toList <+: after ∧
      quote.multiline = false ∧ Text.startsWithBreak after = true
  | .textEnd => after = []

end

/-! ## How far a block comment goes -/

/-- The inside of a block comment that nests takes its reader from one depth to another when `tail`
follows. A closing marker goes before a start marker. -/
inductive Levels (pair : BlockPair) (tail : List Char) : Nat → List Char → Nat → Prop
  | nil {depth : Nat} : Levels pair tail depth [] depth
  | close {depth last : Nat} {body : List Char} : Levels pair tail depth body last →
      Levels pair tail (depth + 1) (pair.stop.toList ++ body) last
  | nest {depth last : Nat} {body : List Char} :
      ¬ pair.stop.toList <+: pair.start.toList ++ body ++ tail →
      Levels pair tail (depth + 1) body last →
      Levels pair tail depth (pair.start.toList ++ body) last
  | plain {depth last : Nat} {c : Char} {body : List Char} :
      ¬ pair.stop.toList <+: c :: (body ++ tail) → ¬ pair.start.toList <+: c :: (body ++ tail) →
      Levels pair tail depth body last → Levels pair tail depth (c :: body) last

/-- What stands between the markers of a block comment before `after`: a comment that does not nest
goes to the first closing marker, and one that nests to the closing marker at depth zero. A comment
that is not closed goes to the end of the text. -/
def BlockBody (pair : BlockPair) (body : List Char) (closed : Bool) (after : List Char) : Prop :=
  match pair.nestable, closed with
  | false, true => Text.Avoids pair.stop body (pair.stop.toList ++ after)
  | false, false => after = [] ∧ Text.Avoids pair.stop body []
  | true, true => Levels pair (pair.stop.toList ++ after) 0 body 0
  | true, false => after = [] ∧ ∃ depth, Levels pair [] 0 body depth

/-- A block comment that is not closed goes to the end of the text. -/
theorem BlockBody.after_eq_nil {pair : BlockPair} {body after : List Char}
    (h : BlockBody pair body false after) : after = [] := by
  unfold BlockBody at h
  split at h
  · next hclosed => cases hclosed
  · exact h.1
  · next hclosed => cases hclosed
  · exact h.1

/-! ## Segments -/

/-- A piece of a text. -/
inductive Segment
  | code (c : Char)
  | literal (quote : Quote) (raw : Bool) (body : List Char) (close : Close)
  | line (marker : LineMarker) (body : List Char)
  | block (pair : BlockPair) (body : List Char) (closed : Bool)
deriving DecidableEq

namespace Segment

/-- The characters of a segment. -/
def chars : Segment → List Char
  | code c => [c]
  | literal quote _ body close => quote.delimiter.toList ++ (body ++ close.chars quote)
  | line marker body => marker.marker.toList ++ body
  | block pair body true => pair.start.toList ++ (body ++ pair.stop.toList)
  | block pair body false => pair.start.toList ++ body

/-- Whether a segment is part of the text without comments. -/
def isKept : Segment → Bool
  | code _ | literal .. => true
  | line .. | block .. => false

/-- What is kept of a segment. -/
def kept (segment : Segment) : List Char :=
  if segment.isKept then segment.chars else []

theorem kept_of_isKept {segment : Segment} (h : segment.isKept = true) :
    segment.kept = segment.chars := by
  rw [kept, if_pos h]

theorem kept_of_removed {segment : Segment} (h : segment.isKept = false) : segment.kept = [] := by
  rw [kept, h]
  rfl

/-- The advisory for a segment that begins on the given line and that nothing closes. -/
def advisory? (line : Nat) : Segment → Option Advisory
  | literal quote _ _ .lineBreak | literal quote _ _ .textEnd =>
    some (.unterminatedString quote.delimiter line)
  | block pair _ false => some (.unterminatedBlock pair.start line)
  | code _ | literal _ _ _ .delimiter | Segment.line .. | block _ _ true => none

/-- A segment may stand at a place before `after`. -/
def Fits (lexis : Lexis) (place : Place) (segment : Segment) (after : List Char) : Prop :=
  match segment with
  | code c => Quiet lexis place (c :: after)
  | literal quote raw body close =>
    Opens lexis place (segment.chars ++ after) (.literal quote raw) ∧
      LiteralBody lexis quote raw (close.chars quote ++ after) body ∧
      close.Fits lexis quote raw after
  | line marker body =>
    Opens lexis place (segment.chars ++ after) (.line marker) ∧ Text.EndsLine body after
  | block pair body closed =>
    Opens lexis place (segment.chars ++ after) (.block pair) ∧ BlockBody pair body closed after

/-- The text that segments make up. -/
def text (segments : List Segment) : List Char :=
  segments.flatMap chars

/-- What is kept of segments. -/
def keptText (segments : List Segment) : List Char :=
  segments.flatMap kept

/-- The advisories for segments of which the first begins on the given line. -/
def advisories (line : Nat) : List Segment → List Advisory
  | [] => []
  | segment :: segments =>
    (segment.advisory? line).toList ++
      advisories (line + Text.countBreaks segment.chars) segments

@[simp] theorem text_nil : text [] = [] := rfl

@[simp] theorem text_cons (segment : Segment) (segments : List Segment) :
    text (segment :: segments) = segment.chars ++ text segments := rfl

@[simp] theorem text_append (segments others : List Segment) :
    text (segments ++ others) = text segments ++ text others :=
  List.flatMap_append

@[simp] theorem keptText_nil : keptText [] = [] := rfl

@[simp] theorem keptText_cons (segment : Segment) (segments : List Segment) :
    keptText (segment :: segments) = segment.kept ++ keptText segments := rfl

@[simp] theorem keptText_append (segments others : List Segment) :
    keptText (segments ++ others) = keptText segments ++ keptText others :=
  List.flatMap_append

/-- What is kept is the text of the segments that are kept. -/
theorem keptText_eq_text_filter (segments : List Segment) :
    keptText segments = text (segments.filter isKept) := by
  induction segments with
  | nil => rfl
  | cons segment segments ih =>
    rw [keptText_cons, List.filter_cons, kept, ih]
    split <;> rfl

/-- Of segments that are all kept, everything is kept. -/
theorem keptText_eq_text {segments : List Segment} (h : ∀ segment ∈ segments, segment.isKept) :
    keptText segments = text segments := by
  rw [keptText_eq_text_filter, List.filter_eq_self.2 h]

end Segment

/-- The place after a segment. -/
def Place.after (place : Place) (segment : Segment) : Place :=
  ⟨place.before ++ segment.chars, place.kept ++ segment.kept⟩

/-- The place after a row of segments. -/
def Place.afterAll (place : Place) (segments : List Segment) : Place :=
  ⟨place.before ++ Segment.text segments, place.kept ++ Segment.keptText segments⟩

@[simp] theorem Place.afterAll_nil (place : Place) : place.afterAll [] = place := by
  simp [Place.afterAll]

@[simp] theorem Place.afterAll_cons (place : Place) (segment : Segment) (segments : List Segment) :
    place.afterAll (segment :: segments) = (place.after segment).afterAll segments := by
  simp [Place.afterAll, Place.after]

/-- Segments that follow each other from a place on, each where it may stand. -/
def Cut (lexis : Lexis) (place : Place) : List Segment → Prop
  | [] => True
  | segment :: segments =>
    segment.Fits lexis place (Segment.text segments) ∧ Cut lexis (place.after segment) segments

/-- The rest of a cut is one from the place after the segments before it. -/
theorem Cut.drop {lexis : Lexis} {place : Place} {earlier later : List Segment}
    (h : Cut lexis place (earlier ++ later)) : Cut lexis (place.afterAll earlier) later := by
  induction earlier generalizing place with
  | nil =>
    rw [Place.afterAll_nil]
    exact h
  | cons first earlier ih =>
    rw [Place.afterAll_cons]
    exact ih h.2

/-- Each segment of a cut stands after the text of the ones before it. -/
theorem Cut.fits {lexis : Lexis} {place : Place} {earlier later : List Segment} {segment : Segment}
    (h : Cut lexis place (earlier ++ segment :: later)) :
    segment.Fits lexis (place.afterAll earlier) (Segment.text later) :=
  h.drop.1

end Decomment.Scan
