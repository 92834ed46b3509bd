import Decomment.Text.Lines

/-!
# Quoted strings of the settings format

A string stands between double quotes, where a backslash escapes, or between apostrophes, where
nothing does; three quotes in place of one let it go over several lines. `read?` reads all four
forms. `write` takes the first form in which the string can stand as it is, and escapes where none
does.
-/

namespace Decomment.Toml

/-- Whether a character may stand in a line as it is: everything but the control characters, of which
only the tab may. -/
def isPrintable (c : Char) : Bool :=
  c == '\t' || !(c.toNat < 0x20 || c.toNat == 0x7F)

/-- Whether a character is a blank inside a line. -/
def isSpace (c : Char) : Bool :=
  c == ' ' || c == '\t'

/-- The text without a line break at its start. -/
def dropBreak : List Char → List Char
  | '\n' :: rest => rest
  | '\r' :: '\n' :: rest => rest
  | text => text

namespace Quoted

/-! ## Reading -/

/-- The value of a hexadecimal digit. -/
def hexValue? (c : Char) : Option Nat :=
  if '0' ≤ c ∧ c ≤ '9' then some (c.toNat - '0'.toNat)
  else if 'a' ≤ c ∧ c ≤ 'f' then some (c.toNat - 'a'.toNat + 10)
  else if 'A' ≤ c ∧ c ≤ 'F' then some (c.toNat - 'A'.toNat + 10)
  else none

/-- The character whose code point hexadecimal digits give. -/
def codePoint? (digits : List Char) : Option Char := do
  let values ← digits.mapM hexValue?
  let code := values.foldl (fun n d => 16 * n + d) 0
  if code.isValidChar then some (Char.ofNat code) else none

/-- The character that a letter after a backslash stands for. -/
def escaped? : Char → Option Char
  | 'b' => some '\x08'
  | 't' => some '\t'
  | 'n' => some '\n'
  | 'f' => some '\x0c'
  | 'r' => some '\r'
  | '"' => some '"'
  | '\\' => some '\\'
  | _ => none

/-- Puts characters before the content of what was read. -/
def before (chars : List Char) (result : Option (List Char × List Char)) :
    Option (List Char × List Char) :=
  result.map fun (content, rest) => (chars ++ content, rest)

/-- Reads on to the double quote that ends a string of one line. -/
def basic? : List Char → Option (List Char × List Char)
  | [] => none
  | '"' :: rest => some ([], rest)
  | '\\' :: 'u' :: a :: b :: c :: d :: rest => do
    let char ← codePoint? [a, b, c, d]
    before [char] (basic? rest)
  | '\\' :: 'U' :: a :: b :: c :: d :: e :: f :: g :: h :: rest => do
    let char ← codePoint? [a, b, c, d, e, f, g, h]
    before [char] (basic? rest)
  | '\\' :: letter :: rest => do
    let char ← escaped? letter
    before [char] (basic? rest)
  | c :: rest => if isPrintable c && c != '\\' then before [c] (basic? rest) else none

/-- Reads on to the apostrophe that ends a literal string of one line. -/
def literal? : List Char → Option (List Char × List Char)
  | [] => none
  | '\'' :: rest => some ([], rest)
  | c :: rest => if isPrintable c then before [c] (literal? rest) else none

/-- Reads on to the three double quotes that end a string of several lines. One or two more quotes
before them belong to the string. While `skipping`, blanks and line breaks are passed over: so they
are after a backslash at the end of a line. -/
def multiBasic? : (skipping : Bool) → List Char → Option (List Char × List Char)
  | _, [] => none
  | _, '"' :: '"' :: '"' :: '"' :: '"' :: rest => some (['"', '"'], rest)
  | _, '"' :: '"' :: '"' :: '"' :: rest => some (['"'], rest)
  | _, '"' :: '"' :: '"' :: rest => some ([], rest)
  | skipping, '\r' :: '\n' :: rest =>
    if skipping then multiBasic? true rest else before ['\n'] (multiBasic? false rest)
  | skipping, '\n' :: rest =>
    if skipping then multiBasic? true rest else before ['\n'] (multiBasic? false rest)
  | _, '\\' :: 'u' :: a :: b :: c :: d :: rest => do
    let char ← codePoint? [a, b, c, d]
    before [char] (multiBasic? false rest)
  | _, '\\' :: 'U' :: a :: b :: c :: d :: e :: f :: g :: h :: rest => do
    let char ← codePoint? [a, b, c, d, e, f, g, h]
    before [char] (multiBasic? false rest)
  | _, '\\' :: letter :: rest =>
    if Text.startsWithBreak ((letter :: rest).dropWhile isSpace) then
      multiBasic? true (letter :: rest)
    else do
      let char ← escaped? letter
      before [char] (multiBasic? false rest)
  | skipping, c :: rest =>
    if skipping && isSpace c then multiBasic? true rest
    else if isPrintable c && c != '\\' then before [c] (multiBasic? false rest)
    else none

/-- Reads on to the three apostrophes that end a literal string of several lines. One or two more
apostrophes before them belong to the string. -/
def multiLiteral? : List Char → Option (List Char × List Char)
  | [] => none
  | '\'' :: '\'' :: '\'' :: '\'' :: '\'' :: rest => some (['\'', '\''], rest)
  | '\'' :: '\'' :: '\'' :: '\'' :: rest => some (['\''], rest)
  | '\'' :: '\'' :: '\'' :: rest => some ([], rest)
  | '\r' :: '\n' :: rest => before ['\n'] (multiLiteral? rest)
  | c :: rest =>
    if isPrintable c || c == '\n' then before [c] (multiLiteral? rest) else none

/-- Reads a string of one line. -/
def line? : List Char → Option (List Char × List Char)
  | '"' :: rest => basic? rest
  | '\'' :: rest => literal? rest
  | _ => none

/-- Reads a string of any form. -/
def read? : List Char → Option (List Char × List Char)
  | '"' :: '"' :: '"' :: rest => multiBasic? false (dropBreak rest)
  | '\'' :: '\'' :: '\'' :: rest => multiLiteral? (dropBreak rest)
  | text => line? text

/-! ## Writing -/

/-- The form in which a string is written. -/
inductive Form
  | basic
  | literal
  | multiBasic
  | multiLiteral
deriving DecidableEq, Repr, Inhabited

/-- Whether a character cannot stand in a string without an escape, not even over several lines. -/
def isControl (c : Char) : Bool :=
  !isPrintable c && c != '\n'

/-- Whether a text holds three quotes `quote` in a row. -/
def hasThree (quote : Char) : List Char → Bool
  | a :: b :: c :: rest => (a == quote && b == quote && c == quote) || hasThree quote (b :: c :: rest)
  | _ => false

/-- The first form in which a text can stand as it is; if there is none, the one between double
quotes. -/
def form (text : List Char) : Form :=
  let control := text.any isControl
  let newline := text.contains '\n'
  if !control && !newline && !text.contains '"' && !text.contains '\\' then .basic
  else if !control && !newline && !text.contains '\'' then .literal
  else if !control && !text.contains '\\' && !hasThree '"' text then .multiBasic
  else if !control && !hasThree '\'' text then .multiLiteral
  else if newline then .multiBasic
  else .basic

/-- A hexadecimal digit in upper case. -/
def hexDigit (n : Nat) : Char :=
  if n < 10 then Char.ofNat ('0'.toNat + n) else Char.ofNat ('A'.toNat + (n - 10))

/-- A character, other than a quote, between double quotes. -/
def escape (multi : Bool) (c : Char) : List Char :=
  if c = '\x08' then ['\\', 'b']
  else if c = '\t' then ['\\', 't']
  else if c = '\n' then (if multi then ['\n'] else ['\\', 'n'])
  else if c = '\x0c' then ['\\', 'f']
  else if c = '\r' then ['\\', 'r']
  else if c = '\\' then ['\\', '\\']
  else if isControl c then ['\\', 'u', '0', '0', hexDigit (c.toNat / 16), hexDigit (c.toNat % 16)]
  else [c]

/-- A text between double quotes. Over several lines, a quote is escaped only if the two characters
before it are quotes as they are; `run` is the number of those. -/
def escapeAll (multi : Bool) : (run : Nat) → List Char → List Char
  | _, [] => []
  | run, c :: rest =>
    if c = '"' then
      if multi && run < 2 then '"' :: escapeAll multi (run + 1) rest
      else '\\' :: '"' :: escapeAll multi 0 rest
    else escape multi c ++ escapeAll multi 0 rest

/-- The line break that a string of several lines begins with, if it has line breaks of its own. -/
def leadingBreak (text : List Char) : List Char :=
  if text.contains '\n' then ['\n'] else []

/-- A string as it is written. -/
def write (text : List Char) : List Char :=
  match form text with
  | .basic => ['"'] ++ escapeAll false 0 text ++ ['"']
  | .literal => ['\''] ++ text ++ ['\'']
  | .multiBasic => ['"', '"', '"'] ++ leadingBreak text ++ escapeAll true 0 text ++ ['"', '"', '"']
  | .multiLiteral => ['\'', '\'', '\''] ++ leadingBreak text ++ text ++ ['\'', '\'', '\'']

end Quoted

end Decomment.Toml
