import Decomment.Text.LineBreak.Classes

/-!
# Where a line may be broken

`breaks` says of each character of a text whether a line may be broken before it. The rules are those
of the Unicode line breaking algorithm. They look at the class of a character, at that of the
character before it, marks and spaces left out, at that of the character after it, marks left out,
and at little else (`BreakContext`). In scripts that are written without spaces there are no breaks
between words, as these would take a dictionary; there is one where such a script meets another.
`undividedScripts` lists the scripts for which that is so.
-/

namespace Decomment.Text

/-- What the text before a character says about a break in front of it. -/
structure BreakContext where
  /-- The class of the last character that is no space, and no mark that belongs to another. -/
  base : LineClass
  /-- Whether spaces follow that character. -/
  spaced : Bool := false
  /-- Whether marks follow that character. -/
  marked : Bool := false
  /-- Whether the last character is a joiner. -/
  joined : Bool := false
  /-- Whether the text ends in an odd number of regional indicators. -/
  halfFlag : Bool := false
  /-- Whether the base is a hyphen or the like after a Hebrew letter. -/
  hebrewHyphen : Bool := false
  /-- Whether the base is an initial quotation mark at the start of what it stands before. -/
  opensQuote : Bool := false
  /-- Whether the base is a virama after a letter. -/
  conjoins : Bool := false
deriving DecidableEq, Repr, Inhabited

namespace LineClass

/-- Whether a break has to follow. -/
def endsLine : LineClass → Bool
  | mandatory | carriageReturn | lineFeed | nextLine => true
  | _ => false

/-- Whether marks that follow stand on their own. -/
def takesNoMark (c : LineClass) : Bool :=
  c.endsLine || c == space || c == zeroWidthSpace

/-- Marks that belong to the character before them. -/
def isMark : LineClass → Bool
  | combining | joiner => true
  | _ => false

/-- Letters of scripts that are written without spaces between words. -/
def isUnspaced : LineClass → Bool
  | thai | lao | burmese | khmer | unspaced => true
  | _ => false

/-- Letters of scripts with words. -/
def isLetter (c : LineClass) : Bool :=
  c == alphabetic || c == hebrew || c == dottedCircle || c.isUnspaced

/-- Parts of Hangul syllables, and whole ones. -/
def isHangul : LineClass → Bool
  | hangulL | hangulV | hangulT | hangulLV | hangulLVT => true
  | _ => false

/-- Ideographs and pictures. -/
def isIdeograph : LineClass → Bool
  | ideographic | reservedPicture | emojiBase | emojiModifier => true
  | _ => false

/-- What opens. -/
def isOpening : LineClass → Bool
  | opening | wideOpening => true
  | _ => false

/-- Quotation marks of all kinds. -/
def isQuotation : LineClass → Bool
  | quotation | initialQuotation | finalQuotation => true
  | _ => false

/-- What may be the first letter of an orthographic syllable. -/
def startsAksara : LineClass → Bool
  | aksara | aksaraStart | dottedCircle => true
  | _ => false

/-- Whether no break comes before a character of this class, whatever stands before it. -/
def staysBehind : LineClass → Bool
  | wordJoiner | closing | closingParenthesis | exclamation | separator | slash => true
  | _ => false

/-- Whether a quotation mark that may close does so, given what follows it. -/
def closesQuote : Option LineClass → Bool
  | none => true
  | some next =>
    next == space || next == glue || next == zeroWidthSpace || next.isQuotation || next.endsLine
      || next.staysBehind

/-- Whether two characters without spaces between them belong to one Hangul syllable. -/
def sameSyllable : LineClass → LineClass → Bool
  | hangulL, next => next == hangulL || next == hangulV || next == hangulLV || next == hangulLVT
  | hangulV, next | hangulLV, next => next == hangulV || next == hangulT
  | hangulT, next | hangulLVT, next => next == hangulT
  | _, _ => false

/-- Whether two characters without spaces between them belong to one orthographic syllable,
whatever stands around them. -/
def sameAksara (last next : LineClass) : Bool :=
  (last == beforeAksara && next.startsAksara)
    || (last.startsAksara && (next == virama || next == finalVirama))

/-- Whether two characters without spaces between them belong to one number. -/
def sameNumber : LineClass → LineClass → Bool
  | closing, next | closingParenthesis, next => next == afterNumber || next == beforeNumber
  | numeric, next => next == numeric || next == afterNumber || next == beforeNumber
  | afterNumber, next | beforeNumber, next => next.isOpening || next == numeric
  | hyphen, next | separator, next | slash, next => next == numeric
  | _, _ => false

/-- Whether two characters without spaces between them belong to one word. -/
def sameWord (last next : LineClass) : Bool :=
  (last.isLetter && (next.isLetter || next == numeric || next == opening
      || next == beforeNumber || next == afterNumber))
    || (last == numeric && (next.isLetter || next == opening))
    || ((last == beforeNumber || last == afterNumber) && next.isLetter)
    || (last == beforeNumber && (next.isIdeograph || next.isHangul))
    || ((last.isIdeograph || last.isHangul) && next == afterNumber)
    || (last == separator && next.isLetter)
    || (last == closingParenthesis && (next.isLetter || next == numeric))

/-- Whether a break may come between two characters without spaces between them. -/
def apart (last next : LineClass) : Bool :=
  if next.isQuotation || last.isQuotation then false
  else if next == contingent || last == contingent then true
  else if next == after || next == hyphen || next == nonStarter || last == before then false
  else if (last == slash && next == hebrew) || next == inseparable then false
  else
    !(last.sameWord next || last.sameNumber next || last.sameSyllable next || last.sameAksara next
      || ((last == emojiBase || last == reservedPicture) && next == emojiModifier))

end LineClass

namespace BreakContext

open LineClass

/-- The context at the start of a line. -/
def start : BreakContext := { base := .lineFeed }

/-- Whether a mark that comes next belongs to the last character. -/
def takesMark (ctx : BreakContext) : Bool :=
  !ctx.spaced && !ctx.base.takesNoMark

/-- Whether a quotation mark that comes next stands before what it belongs to. -/
def startsQuote (ctx : BreakContext) : Bool :=
  ctx.spaced || ctx.base.takesNoMark || ctx.base.isOpening || ctx.base.isQuotation || ctx.base == glue

/-- Whether a letter that comes next is of another script than the last character, both being of
scripts that are written without spaces. -/
def changesScript (ctx : BreakContext) (next : LineClass) : Bool :=
  !ctx.spaced && !ctx.marked && ctx.base.isUnspaced && next.isUnspaced && ctx.base != next

/-- Whether a letter that comes next belongs to the orthographic syllable of the last one, by a virama
between them or one after them. -/
def goesOn (ctx : BreakContext) (next : LineClass) (following : Option LineClass) : Bool :=
  (ctx.conjoins && (next == aksara || next == dottedCircle))
    || (ctx.base.startsAksara && next.startsAksara && following == some finalVirama)

/-- Whether a break may come before a character other than a mark that belongs to the one before it. -/
def breaksBeforeBase (ctx : BreakContext) (next : LineClass) (following : Option LineClass) : Bool :=
  if next.staysBehind then false
  else if !ctx.spaced && (ctx.base == wordJoiner || ctx.base == glue) then false
  else if next == glue && !ctx.spaced && ctx.base != after && ctx.base != hyphen then false
  else if ctx.base.isOpening || ctx.opensQuote then false
  else if next == finalQuotation && closesQuote following then false
  else if (ctx.base == closing || ctx.base == closingParenthesis) && next == nonStarter then false
  else if ctx.base == around && next == around then false
  else if ctx.spaced || ctx.changesScript next then true
  else if ctx.hebrewHyphen && next != contingent then false
  else if ctx.halfFlag && next == regionalIndicator then false
  else if ctx.goesOn next following then false
  else ctx.base.apart next

/-- Whether a break may come before a character, given the class of the one that follows it. -/
def breaksBefore (ctx : BreakContext) (next : LineClass) (following : Option LineClass) : Bool :=
  if ctx.base.endsLine then !(ctx.base == carriageReturn && next == lineFeed)
  else if next.endsLine || next == space || next == zeroWidthSpace then false
  else if ctx.base == zeroWidthSpace then true
  else if ctx.joined then false
  else if next.isMark then !ctx.takesMark && ctx.breaksBeforeBase alphabetic following
  else ctx.breaksBeforeBase next following

/-- The context after one more character. -/
def push (ctx : BreakContext) (next : LineClass) : BreakContext :=
  match next with
  | .space =>
    if ctx.base.endsLine then { base := .space, spaced := true }
    else { base := ctx.base, spaced := true, opensQuote := ctx.opensQuote }
  | .combining | .joiner =>
    let joined := next == joiner
    if ctx.takesMark then { ctx with marked := true, joined } else { base := .alphabetic, joined }
  | .regionalIndicator => { base := next, halfFlag := !ctx.halfFlag }
  | .hyphen | .after => { base := next, hebrewHyphen := ctx.base == hebrew && !ctx.spaced }
  | .initialQuotation => { base := next, opensQuote := ctx.startsQuote }
  | .virama => { base := next, conjoins := ctx.base.startsAksara && !ctx.spaced }
  | _ => { base := next }

end BreakContext

/-- Whether a line may be broken before each of the characters of a text that goes on, given their
classes. -/
def breaksFrom (ctx : BreakContext) : List LineClass → List Bool
  | [] => []
  | next :: rest =>
    ctx.breaksBefore next (rest.find? (!·.isMark)) :: breaksFrom (ctx.push next) rest

/-- Whether a line may be broken before each of the characters of a text. Not before the first one. -/
def breaks (text : List Char) : List Bool :=
  match text.map lineClass with
  | [] => []
  | first :: rest => false :: breaksFrom (BreakContext.start.push first) rest

/-- The scripts of the runs of letters that are written without spaces, in order, where there are two
or more of them side by side. A dictionary of these scripts would tell more breaks. -/
def undividedScripts (text : List Char) : List LineClass :=
  let runs := (text.map lineClass).splitBy fun last next => last.isUnspaced && next.isUnspaced
  (runs.filter (1 < ·.length)).flatMap fun run => (run.splitBy (· == ·)).filterMap List.head?

theorem length_breaksFrom (ctx : BreakContext) (classes : List LineClass) :
    (breaksFrom ctx classes).length = classes.length := by
  induction classes generalizing ctx with
  | nil => rfl
  | cons next rest ih => simp [breaksFrom, ih]

/-- There is one answer for each character. -/
@[simp] theorem length_breaks (text : List Char) : (breaks text).length = text.length := by
  cases text with
  | nil => rfl
  | cons c rest => simp [breaks, length_breaksFrom]

end Decomment.Text
