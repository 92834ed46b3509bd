import Decomment.Lexis.LineMarker

/-!
# Lexical rules of a language

What opens a comment in a language, what opens and closes a string literal, and which character
escapes the next one inside a literal. `Lexis.flaw?` finds what makes rules ambiguous or empty, and
`Lexis.longestFirst` puts every list in the order in which a first hit is a longest one.
-/

namespace Decomment

/-- The two markers that bound a block comment. -/
structure BlockPair where
  /-- The marker that opens the comment. -/
  start : String
  /-- The marker that closes it. -/
  stop : String
  /-- Whether a start marker inside the comment opens a further level, to be closed first. -/
  nestable : Bool := false
  /-- Whether the comment opens only where its line holds nothing but white space before it. Such a
  pair goes before every string delimiter. -/
  lineStart : Bool := false
deriving DecidableEq, Repr, Inhabited

/-- A delimiter that opens a string literal and closes it where it occurs again. -/
structure Quote where
  /-- The text of the delimiter. -/
  delimiter : String
  /-- Whether the literal goes on after a line break. -/
  multiline : Bool := true
deriving DecidableEq, Repr, Inhabited

/-- The lexical rules of one language. -/
structure Lexis where
  /-- Markers of comments to the end of the line. -/
  lineMarkers : List LineMarker := []
  /-- Pairs of markers of block comments. -/
  blocks : List BlockPair := []
  /-- Delimiters of literals in which the escape character counts. -/
  quotes : List Quote := []
  /-- The character that takes the meaning from the next one in a literal. -/
  escape : Option Char := none
  /-- Delimiters of literals in which the escape character has no meaning. -/
  rawQuotes : List Quote := []
deriving DecidableEq, Repr, Inhabited

namespace Lexis

/-- Whether there is no marker and no delimiter at all. -/
def isPlain (lexis : Lexis) : Bool :=
  lexis.lineMarkers.isEmpty && lexis.blocks.isEmpty && lexis.quotes.isEmpty
    && lexis.rawQuotes.isEmpty

/-! ## Order -/

/-- Puts an item before the first one whose token is not longer in UTF-8. -/
def place {α : Type} (token : α → String) (item : α) : List α → List α
  | [] => [item]
  | other :: items =>
    if (token other).utf8ByteSize ≤ (token item).utf8ByteSize then item :: other :: items
    else other :: place token item items

/-- Items in the order of falling length of their tokens; items of equal length keep their order. -/
def byLength {α : Type} (token : α → String) (items : List α) : List α :=
  items.foldr (place token) []

/-- The same rules with every list ordered longest token first. -/
def longestFirst (lexis : Lexis) : Lexis where
  lineMarkers := byLength LineMarker.marker lexis.lineMarkers
  blocks := byLength BlockPair.start lexis.blocks
  quotes := byLength Quote.delimiter lexis.quotes
  escape := lexis.escape
  rawQuotes := byLength Quote.delimiter lexis.rawQuotes

theorem place_perm {α : Type} (token : α → String) (item : α) (items : List α) :
    (place token item items).Perm (item :: items) := by
  induction items with
  | nil => exact .refl _
  | cons other items ih =>
    rw [place]
    split
    · exact .refl _
    · exact (ih.cons other).trans (.swap item other items)

/-- Ordering by length neither adds nor drops an item. -/
theorem byLength_perm {α : Type} (token : α → String) (items : List α) :
    (byLength token items).Perm items := by
  induction items with
  | nil => exact .refl _
  | cons item items ih => exact (place_perm token item _).trans (ih.cons item)

/-! ## Soundness of the rules -/

/-- What a token is for. -/
inductive Role
  | lineMarker
  | blockStart
  | quote
deriving DecidableEq, Repr, Inhabited

/-- The name of a role in messages. -/
def Role.name : Role → String
  | .lineMarker => "single-line marker"
  | .blockStart => "block start"
  | .quote => "string delimiter"

/-- What is wrong with lexical rules. -/
inductive Flaw
  /-- A block comment that opens with `start` has no closing marker. -/
  | emptyStop (start : String)
  /-- A block pair tied to the start of a line has no opening marker. -/
  | emptyLineStart
  /-- A token of the given role is empty. -/
  | emptyToken (role : Role)
  /-- A token is used for two things between which nothing decides. -/
  | ambiguous (token : String) (first second : Role)
deriving DecidableEq, Repr, Inhabited

/-- The flaw in words. -/
def Flaw.reason : Flaw → String
  | .emptyStop start => s!"block '{start}' has an empty end marker"
  | .emptyLineStart => "empty block start marker"
  | .emptyToken role => s!"empty {role.name}"
  | .ambiguous token first second =>
    s!"'{token}' is registered as both {first.name} and {second.name}"

/-- The tokens that are tried at one and the same place, with their roles: line markers, starts of
block pairs that are not tied to the start of a line, delimiters. -/
def tokens (lexis : Lexis) : List (String × Role) :=
  lexis.lineMarkers.map (·.marker, .lineMarker)
    ++ (lexis.blocks.filter (!·.lineStart)).map (·.start, .blockStart)
    ++ (lexis.quotes ++ lexis.rawQuotes).map (·.delimiter, .quote)

/-- What is wrong with a block pair by itself. -/
def blockFlaw? (pair : BlockPair) : Option Flaw :=
  if pair.stop.isEmpty then some (.emptyStop pair.start)
  else if pair.lineStart && pair.start.isEmpty then some .emptyLineStart
  else none

/-- The first token that is empty or repeats one of the tokens `earlier`. -/
def tokenFlaw? (earlier : List (String × Role)) : List (String × Role) → Option Flaw
  | [] => none
  | (token, role) :: later =>
    if token.isEmpty then some (.emptyToken role)
    else match earlier.find? (·.1 == token) with
      | some (_, first) => some (.ambiguous token first role)
      | none => tokenFlaw? (earlier ++ [(token, role)]) later

/-- The first thing that is wrong with lexical rules: block pairs are looked at first. -/
def flaw? (lexis : Lexis) : Option Flaw :=
  match lexis.blocks.findSome? blockFlaw? with
  | some flaw => some flaw
  | none => tokenFlaw? [] lexis.tokens

/-- Rules that the scanner resolves without doubt at every place. -/
def Sound (lexis : Lexis) : Prop :=
  lexis.flaw? = none

instance (lexis : Lexis) : Decidable lexis.Sound :=
  inferInstanceAs (Decidable (lexis.flaw? = none))

end Lexis

end Decomment
