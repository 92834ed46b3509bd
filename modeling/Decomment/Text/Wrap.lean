import Decomment.Text.LineBreak
import Decomment.Text.Split
import Decomment.Text.Width
import Decomment.Text.Word

/-!
# Lines of limited width

`wrap` sets a text in lines of so many columns. A line is broken where the text allows it (`breaks`),
after a hyphen between letters or digits, and anywhere in a word that is wider than a line. Of all
ways to break the lines the cheapest is taken, by a cost that counts lines, the room that is left on
them, and what stands out over their end (`lineCost`).
-/

namespace Decomment.Text

/-! ## What is drawn -/

/-- A character, or a sequence of characters that controls a terminal and is not drawn. -/
inductive Glyph
  | char (c : Char)
  | control (sequence : List Char)
deriving DecidableEq, Repr, Inhabited

/-- The characters that a glyph is written with. -/
def Glyph.chars : Glyph → List Char
  | char c => [c]
  | control sequence => sequence

/-- The number of columns that a glyph takes up. -/
def Glyph.width : Glyph → Nat
  | char c => charWidth c
  | control _ => 0

/-- The character that starts a control sequence. -/
def escape : Char := '\x1b'

/-- Where a control sequence ends. -/
inductive ControlMode
  /-- After the character that follows the escape, unless that tells otherwise. -/
  | opened
  /-- After a letter or one of a few signs. -/
  | short
  /-- After a bell, or after an escape and a backslash. -/
  | long (last : Char)
deriving DecidableEq, Repr, Inhabited

/-- How a control sequence goes on after a character; `none` if that was its last. -/
def ControlMode.next? : ControlMode → Char → Option ControlMode
  | opened, c => if c = '[' then some short else if c = ']' then some (long c) else none
  | short, c => if '@' ≤ c && c ≤ '~' then none else some short
  | long last, c => if c = '\x07' || (c = '\\' && last = escape) then none else some (long c)

/-- The glyphs of a text that goes on inside a control sequence, of which `read` was read, last
character first, or outside of one. -/
def glyphsFrom : Option (ControlMode × List Char) → List Char → List Glyph
  | none, [] => []
  | some (_, read), [] => [.control read.reverse]
  | none, c :: rest =>
    if c = escape then glyphsFrom (some (.opened, [c])) rest else .char c :: glyphsFrom none rest
  | some (mode, read), c :: rest =>
    match mode.next? c with
    | some mode => glyphsFrom (some (mode, c :: read)) rest
    | none => .control (c :: read).reverse :: glyphsFrom none rest

/-- The glyphs of a text. -/
def glyphs (text : List Char) : List Glyph :=
  glyphsFrom none text

/-- The characters of glyphs that are drawn. -/
def shown (line : List Glyph) : List Char :=
  line.filterMap fun
    | .char c => some c
    | .control _ => none

/-- The number of columns that glyphs take up. -/
def widthOf (line : List Glyph) : Nat :=
  line.foldr (·.width + ·) 0

/-! ## Pieces that stay on one line -/

/-- The soft hyphen, which is not drawn unless a line is broken after it. -/
def softHyphen : Char := Char.ofNat 0xAD

/-- Whether a character is a hyphen, after which a break is not left to the text alone. -/
def isHyphen (c : Char) : Bool :=
  c == '-' || c == softHyphen

/-- Takes back the breaks before characters that follow a hyphen. -/
def withoutHyphens : (last : Option Char) → List Char → List Bool → List Bool
  | last, c :: rest, b :: bs => (b && !last.any isHyphen) :: withoutHyphens (some c) rest bs
  | _, _, _ => []

/-- Takes back the first break. -/
def withoutFirst : List Bool → List Bool
  | [] => []
  | true :: bs => false :: bs
  | false :: bs => false :: withoutFirst bs

/-- Whether a new piece starts at each of the characters of a text. The end of the text counts as a
break that is taken back with the last one, so that a text that ends in a hyphen loses one more. -/
def pieceStarts (text : List Char) : List Bool :=
  let starts := withoutHyphens none text (breaks text)
  if text.getLast?.any isHyphen then (withoutFirst starts.reverse).reverse else starts

/-- Cuts glyphs where new pieces start. A control sequence goes with the character after it. The
characters of the first piece that were read are given last first, and so are those of the control
sequences after them. -/
def cutFrom (read controls : List Char) : List Glyph → List Bool → List (List Char)
  | [], _ => [(controls ++ read).reverse]
  | .control sequence :: rest, starts => cutFrom read (sequence.reverse ++ controls) rest starts
  | .char c :: rest, starts =>
    if starts.head? = some true then
      read.reverse :: cutFrom (c :: controls) [] rest starts.tail
    else cutFrom (c :: (controls ++ read)) [] rest starts.tail

/-- A part of a line that is not broken, and the spaces after it. -/
structure Piece where
  chars : List Char
  /-- The number of spaces that follow, unless the line ends here. -/
  spaces : Nat := 0
deriving DecidableEq, Repr, Inhabited

namespace Piece

/-- The number of columns that a piece takes up. Where a control sequence was cut, its rest counts as
drawn. -/
def width (piece : Piece) : Nat :=
  widthOf (glyphs piece.chars)

/-- The piece that characters make up: spaces at their end follow it. -/
def ofChars (chars : List Char) : Piece where
  chars := (chars.reverse.dropWhile (· == ' ')).reverse
  spaces := (chars.reverse.takeWhile (· == ' ')).length

/-- The pieces that a piece is cut into, given its parts. Its spaces follow the last one. -/
def spread (spaces : Nat) : List (List Char) → List Piece
  | [] => []
  | [part] => [{ chars := part, spaces }]
  | part :: parts => { chars := part } :: spread spaces parts

end Piece

/-- A text cut after each hyphen between letters or digits, which may be those of control sequences.
The characters of the first part that were read are given last first. -/
def cutHyphens (read : List Char) : List Char → List (List Char)
  | [] => [read.reverse]
  | c :: rest =>
    if c = '-' && read.head?.any isAlphanumeric && rest.head?.any isAlphanumeric then
      (c :: read).reverse :: cutHyphens [] rest
    else cutHyphens (c :: read) rest

/-- Glyphs cut into parts of so many columns. The characters of the first part that were read are given
last first, with the columns that they take up. -/
def cutWidth (columns : Nat) (read : List Char) (width : Nat) : List Glyph → List (List Char)
  | [] => if read.isEmpty then [] else [read.reverse]
  | g :: rest =>
    if 0 < g.width && 0 < width && columns < width + g.width then
      read.reverse :: cutWidth columns g.chars.reverse g.width rest
    else cutWidth columns (g.chars.reverse ++ read) (width + g.width) rest

/-- The pieces that a piece is cut into so that each fits on a line. -/
def Piece.fitting (columns : Nat) (piece : Piece) : List Piece :=
  if columns < piece.width then
    Piece.spread piece.spaces (cutWidth columns [] 0 (glyphs piece.chars))
  else [piece]

/-- The pieces of a text without line breaks. -/
def pieces (columns : Nat) (text : List Char) : List Piece :=
  if text.isEmpty then []
  else
    let line := glyphs text
    (cutFrom [] [] line (pieceStarts (shown line))).flatMap fun part =>
      let piece := Piece.ofChars part
      (Piece.spread piece.spaces (cutHyphens [] piece.chars)).flatMap (Piece.fitting columns)

/-! ## The cheapest lines -/

/-- What a line costs that takes up `width` columns: a fixed sum, and more if it is too wide, if it
leaves room and is not the last one, or if it is the last one, short and of one piece only. -/
def lineCost (columns width : Nat) (last single : Bool) : Nat :=
  1000 +
    if columns < width then 2500 * (width - columns)
    else if !last then (columns - width) * (columns - width)
    else if single && 4 * width < columns then 25
    else 0

/-- A text on its way to being set in lines. -/
structure Draft where
  /-- The cost of the lines that are complete. -/
  cost : Nat := 0
  /-- The lines that are complete, last one first. -/
  lines : List (List Piece) := []
  /-- The pieces of the line that is open, last one first. -/
  line : List Piece := []
  /-- The columns that these take up, without the spaces after the last one. -/
  width : Nat := 0
deriving Inhabited

namespace Draft

/-- Sets one more piece, which takes up `width` columns, on the open line. -/
def push (piece : Piece) (width : Nat) (draft : Draft) : Draft :=
  let spaces := (draft.line.head?.map Piece.spaces).getD 0
  { draft with line := piece :: draft.line, width := draft.width + spaces + width }

/-- The cost if the open line is complete. -/
def closedCost (columns : Nat) (last : Bool) (draft : Draft) : Nat :=
  draft.cost + lineCost columns draft.width last draft.line.tail.isEmpty

/-- Completes the open line. -/
def close (columns : Nat) (last : Bool) (draft : Draft) : Draft where
  cost := draft.closedCost columns last
  lines := draft.line.reverse :: draft.lines

/-- The draft that is cheapest when its open line is complete, the first one of several. -/
def cheapest (columns : Nat) (last : Bool) (draft : Draft) (others : List Draft) : Draft :=
  others.foldl (fun best other =>
    if other.closedCost columns last < best.closedCost columns last then other else best) draft

end Draft

/-- The cheapest draft of all pieces. For each piece that the open line may start with, there is one
draft of the pieces before it: the cheapest. -/
def setLines (columns : Nat) (draft : Draft) (others : List Draft) : List Piece → Draft
  | [] => others.getLast?.getD draft
  | piece :: rest =>
    let width := piece.width
    let draft := draft.push piece width
    let others := others.map (·.push piece width)
    let best := draft.cheapest columns rest.isEmpty others
    setLines columns draft (others ++ [best.close columns rest.isEmpty]) rest

/-- The characters of a line. Spaces after its last piece are left out. -/
def lineChars : List Piece → List Char
  | [] => []
  | [piece] => piece.chars
  | piece :: rest =>
    piece.chars ++ List.replicate piece.spaces ' ' ++ lineChars rest

/-- A text without line breaks in lines of so many columns. An empty piece at the start allows the
first line to stay empty. -/
def wrapLine (columns : Nat) (text : List Char) : List (List Char) :=
  (setLines columns {} [] ({ chars := [] } :: pieces columns text)).lines.reverse.map lineChars

/-- A text in lines of so many columns. -/
def wrap (columns : Nat) (text : List Char) : List (List Char) :=
  (splitAt '\n' text).flatMap (wrapLine columns)

/-- The scripts of a text that `wrap` finds no words in, in order. -/
def undivided (text : List Char) : List LineClass :=
  (splitAt '\n' text).flatMap fun line => undividedScripts (shown (glyphs line))

end Decomment.Text
