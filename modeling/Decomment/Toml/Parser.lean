import Decomment.Toml.Document
import Decomment.Toml.Quoted
import Decomment.Toml.Scalar

/-!
# Reading the settings format

`parse?` reads a text of settings: it splits the text into statements and makes a table of them.
Lists and inline tables may stand inside each other up to a depth of `nestingLimit`.
-/

namespace Decomment.Toml

/-- A reader gives what it has read and the rest of the text, or fails. -/
abbrev Reader (α : Type) := List Char → Option (α × List Char)

/-- How deep lists and inline tables may stand inside each other, and how many parts a dotted key may
fall short of. -/
def nestingLimit : Nat := 80

/-! ## Space between the parts -/

/-- The text without blanks at its start. -/
def skipSpaces (text : List Char) : List Char :=
  text.dropWhile isSpace

/-- The text from the end of a comment on: a line break or nothing. -/
def skipComment? : List Char → Option (List Char)
  | [] => some []
  | '\n' :: rest => some ('\n' :: rest)
  | '\r' :: '\n' :: rest => some ('\r' :: '\n' :: rest)
  | c :: rest => if isPrintable c then skipComment? rest else none

/-- The text after what may follow a statement on its line: blanks, a comment, a line break. -/
def lineEnd? (text : List Char) : Option (List Char) := do
  let text ←
    match skipSpaces text with
    | '#' :: rest => skipComment? rest
    | rest => some rest
  match text with
  | [] => some []
  | '\n' :: rest => some rest
  | '\r' :: '\n' :: rest => some rest
  | _ => none

/-- The text after blanks, line breaks and comments, as they may stand in a list. -/
def skipGap? : (inComment : Bool) → List Char → Option (List Char)
  | false, [] => some []
  | true, [] => none
  | _, '\n' :: rest => skipGap? false rest
  | _, '\r' :: '\n' :: rest => skipGap? false rest
  | false, c :: rest =>
    if isSpace c then skipGap? false rest
    else if c = '#' then skipGap? true rest
    else some (c :: rest)
  | true, c :: rest => if isPrintable c then skipGap? true rest else none

/-! ## Keys -/

/-- Whether a character may stand in a key without quotes. -/
def isBareChar (c : Char) : Bool :=
  c.isAlphanum || c == '_' || c == '-'

/-- Reads a key that is not dotted. -/
def key? (text : List Char) : Option (String × List Char) :=
  match text.takeWhile isBareChar with
  | [] => (Quoted.line? text).map fun (key, rest) => (String.ofList key, rest)
  | bare => some (String.ofList bare, text.dropWhile isBareChar)

/-- Reads the parts of a key, with blanks around the dots. -/
def keyParts? : (fuel : Nat) → Reader (List String)
  | 0, _ => none
  | fuel + 1, text => do
    let (key, text) ← key? (skipSpaces text)
    match skipSpaces text with
    | '.' :: rest => do
      let (keys, rest) ← keyParts? fuel rest
      some (key :: keys, rest)
    | rest => some ([key], rest)

/-- Reads a key, dotted or not. -/
def keyPath? (text : List Char) : Option (List String × List Char) :=
  (keyParts? text.length text).filter (·.1.length < nestingLimit)

/-! ## Values -/

/-- Reads the items of a list up to its closing bracket. A comma may follow the last one. -/
def items? (item? : Reader Value) : (fuel : Nat) → Reader (List Value)
  | 0, _ => none
  | fuel + 1, text => do
    match ← skipGap? false text with
    | ']' :: rest => some ([], rest)
    | text => do
      let (item, text) ← item? text
      match ← skipGap? false text with
      | ']' :: rest => some ([item], rest)
      | ',' :: rest => do
        let (items, rest) ← items? item? fuel rest
        some (item :: items, rest)
      | _ => none

/-- Reads a key, the sign after it, and its value. -/
def keyValue? (value? : Reader Value) (text : List Char) :
    Option ((List String × Value) × List Char) := do
  let (path, text) ← keyPath? text
  let text ← expect? '=' text
  let (value, text) ← value? (skipSpaces text)
  some ((path, value), text)

/-- Reads the pairs of an inline table up to its closing brace. They stand on one line, and no comma
follows the last one. -/
def inlinePairs? (value? : Reader Value) : (fuel : Nat) → Reader (List (List String × Value))
  | 0, _ => none
  | fuel + 1, text => do
    let (pair, text) ← keyValue? value? text
    match skipSpaces text with
    | '\x7d' :: rest => some ([pair], rest)
    | ',' :: rest => do
      let (pairs, rest) ← inlinePairs? value? fuel rest
      some (pair :: pairs, rest)
    | _ => none

/-- Reads an inline table after its opening brace. -/
def inlineTable? (value? : Reader Value) (text : List Char) : Option (Value × List Char) :=
  match skipSpaces text with
  | '\x7d' :: rest => some (.table [], rest)
  | text => do
    let (pairs, rest) ← inlinePairs? value? text.length text
    let fields ← inlineFields? pairs
    some (.table fields, rest)

/-- Reads a value in which lists and inline tables stand inside each other up to a depth. -/
def value? : (depth : Nat) → Reader Value
  | depth, '[' :: rest =>
    match depth with
    | 0 => none
    | depth + 1 => (items? (value? depth) (rest.length + 1) rest).map fun (items, rest) =>
      (.array items, rest)
  | depth, '\x7b' :: rest =>
    match depth with
    | 0 => none
    | depth + 1 => inlineTable? (value? depth) rest
  | _, '"' :: rest => stringValue? ('"' :: rest)
  | _, '\'' :: rest => stringValue? ('\'' :: rest)
  | _, text => do
    let token := scalarText text
    let value ← scalar? token
    some (value, text.drop token.length)
where
  /-- Reads a string. -/
  stringValue? (text : List Char) : Option (Value × List Char) :=
    (Quoted.read? text).map fun (content, rest) => (.string (String.ofList content), rest)

/-! ## Statements -/

/-- Reads a statement, which the text begins with, and the end of its line. -/
def statement? (text : List Char) : Option (Statement × List Char) :=
  match text with
  | '[' :: '[' :: rest => do
    let (path, rest) ← keyPath? rest
    let rest ← expect? ']' rest
    let rest ← expect? ']' rest
    let rest ← lineEnd? rest
    some (.arrayHeader path, rest)
  | '[' :: rest => do
    let (path, rest) ← keyPath? rest
    let rest ← expect? ']' rest
    let rest ← lineEnd? rest
    some (.header path, rest)
  | _ => do
    let ((path, value), rest) ← keyValue? (value? (nestingLimit - 1)) text
    let rest ← lineEnd? rest
    some (.pair path value, rest)

/-- Reads statements to the end of the text, with blank lines and comments between them. -/
def statements? : (fuel : Nat) → List Char → Option (List Statement)
  | 0, _ => none
  | fuel + 1, text =>
    match skipSpaces text with
    | [] => some []
    | '\n' :: rest => statements? fuel rest
    | '\r' :: '\n' :: rest => statements? fuel rest
    | '#' :: rest => do
      let rest ← skipComment? rest
      statements? fuel (dropBreak rest)
    | text => do
      let (first, rest) ← statement? text
      let others ← statements? fuel rest
      some (first :: others)

/-- The text without a byte order mark at its start. -/
def dropMark : List Char → List Char
  | '\uFEFF' :: rest => rest
  | text => text

/-- The table that a text of settings holds. -/
def parse? (text : List Char) : Option Fields := do
  let statements ← statements? (text.length + 1) (dropMark text)
  Document.ofStatements? statements

end Decomment.Toml
