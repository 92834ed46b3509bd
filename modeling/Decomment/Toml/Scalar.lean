import Decomment.Text.Split
import Decomment.Value

/-!
# Numbers and points in time of the settings format

No setting is a number or a point in time, but a text of settings may hold them, and is malformed if
one of them is. A value without quotes and brackets is a run of letters, digits and the signs that
occur in numbers and times; `scalar?` says what it stands for.
-/

namespace Decomment.Toml

/-- Whether a character may be part of a value without quotes and brackets. -/
def isScalarChar (c : Char) : Bool :=
  c.isAlphanum || c == '+' || c == '-' || c == '_' || c == '.' || c == ':'

/-! ## Numbers -/

/-- Digits of one kind without the underscores between them. -/
def digits? (isDigit : Char → Bool) (text : List Char) : Option (List Char) :=
  let groups := Text.splitAt '_' text
  if groups.all fun group => !group.isEmpty && group.all isDigit then some groups.flatten else none

/-- The number that digits give. -/
def digitsValue (base : Nat) (digits : List Char) : Nat :=
  digits.foldl (fun n c =>
    base * n + (if c.isDigit then c.toNat - '0'.toNat else c.toLower.toNat - 'a'.toNat + 10)) 0

/-- Whether a character is a hexadecimal digit. -/
def isHexDigit (c : Char) : Bool :=
  c.isDigit || ('a' ≤ c && c ≤ 'f') || ('A' ≤ c && c ≤ 'F')

/-- The digits of a whole number in decimal, of which a zero is the first only if it is the last. -/
def wholeDigits? (text : List Char) : Option (List Char) := do
  let digits ← digits? Char.isDigit text
  if digits.head? = some '0' && digits.length > 1 then none else some digits

/-- A sign before a number, and the number; `true` stands for minus. -/
def signed : List Char → Bool × List Char
  | '-' :: rest => (true, rest)
  | '+' :: rest => (false, rest)
  | text => (false, text)

/-- Whether a text is a whole number of 64 bits. -/
def isInteger (text : List Char) : Bool :=
  match text with
  | '0' :: 'x' :: rest => fits 16 (digits? isHexDigit rest)
  | '0' :: 'o' :: rest => fits 8 (digits? (fun c => '0' ≤ c && c ≤ '7') rest)
  | '0' :: 'b' :: rest => fits 2 (digits? (fun c => c == '0' || c == '1') rest)
  | _ =>
    let (negative, rest) := signed text
    match wholeDigits? rest with
    | some digits => digitsValue 10 digits < Nat.pow 2 63 + (if negative then 1 else 0)
    | none => false
where
  /-- Whether digits give a number below the greatest one. -/
  fits (base : Nat) (digits : Option (List Char)) : Bool :=
    digits.any fun digits => digitsValue base digits < Nat.pow 2 63

/-- Whether the decimal number of `digits`, times ten to the power `exponent`, is too large for a
floating-point number of 64 bits. -/
def overflows (digits : List Char) (exponent : Int) : Bool :=
  let significant := digits.dropWhile (· == '0')
  let magnitude : Int := significant.length + exponent
  if significant.isEmpty || magnitude < 300 then false
  else if magnitude > 310 then true
  else
    digitsValue 10 significant * Nat.pow 10 exponent.toNat
      ≥ (Nat.pow 2 1024 - Nat.pow 2 970) * Nat.pow 10 (-exponent).toNat

/-- Whether a text is a number with a fraction, an exponent or both, or one of the special ones. -/
def isFloat (text : List Char) : Bool :=
  let (negative, rest) := signed text
  if rest = "inf".toList || rest = "nan".toList then true
  else
    let mantissa := rest.takeWhile fun c => c != 'e' && c != 'E'
    let whole := mantissa.takeWhile (· != '.')
    let fraction? : Option (List Char) :=
      match mantissa.dropWhile (· != '.') with
      | [] => some []
      | _ :: fraction => digits? Char.isDigit fraction
    let exponent? : Option Int :=
      match rest.dropWhile fun c => c != 'e' && c != 'E' with
      | [] => some 0
      | _ :: exponent =>
        let (negative, digits) := signed exponent
        (digits? Char.isDigit digits).map fun digits =>
          if negative then - (digitsValue 10 digits : Int) else digitsValue 10 digits
    match wholeDigits? whole, fraction?, exponent? with
    | some whole', some fraction, some exponent =>
      whole.length < rest.length
        && (negative || !overflows (whole' ++ fraction) (exponent - fraction.length))
    | _, _, _ => false

/-! ## Points in time -/

/-- A number of two digits. -/
def twoDigits? : List Char → Option (Nat × List Char)
  | a :: b :: rest => if a.isDigit && b.isDigit then some (digitsValue 10 [a, b], rest) else none
  | _ => none

/-- The text after a character that has to be there. -/
def expect? (c : Char) : List Char → Option (List Char)
  | d :: rest => if d = c then some rest else none
  | [] => none

/-- The number of days of a month. -/
def daysIn (year month : Nat) : Nat :=
  if month = 2 then (if year % 4 = 0 && (year % 100 != 0 || year % 400 = 0) then 29 else 28)
  else if month = 4 || month = 6 || month = 9 || month = 11 then 30
  else 31

/-- The text after a date. -/
def date? (text : List Char) : Option (List Char) := do
  let (century, text) ← twoDigits? text
  let (year, text) ← twoDigits? text
  let text ← expect? '-' text
  let (month, text) ← twoDigits? text
  let text ← expect? '-' text
  let (day, text) ← twoDigits? text
  if 1 ≤ month && month ≤ 12 && 1 ≤ day && day ≤ daysIn (100 * century + year) month then some text
  else none

/-- The text after a fraction of a second, if there is one. -/
def secondFraction? : List Char → Option (List Char)
  | '.' :: rest =>
    if (rest.head?.any Char.isDigit) then some (rest.dropWhile Char.isDigit) else none
  | text => some text

/-- The text after a time of day. -/
def time? (text : List Char) : Option (List Char) := do
  let (hour, text) ← twoDigits? text
  let text ← expect? ':' text
  let (minute, text) ← twoDigits? text
  let text ← expect? ':' text
  let (second, text) ← twoDigits? text
  if hour ≤ 23 && minute ≤ 59 && second ≤ 60 then secondFraction? text else none

/-- Whether a text is the distance of a zone from universal time, or nothing. -/
def isOffset : List Char → Bool
  | [] => true
  | ['Z'] => true
  | ['z'] => true
  | sign :: rest =>
    (sign == '+' || sign == '-') &&
      (do
        let (hour, rest) ← twoDigits? rest
        let rest ← expect? ':' rest
        let (minute, rest) ← twoDigits? rest
        some (hour ≤ 23 && minute ≤ 59 && rest.isEmpty)).getD false

/-- Whether a text is a date, a time of day, or both. -/
def isMoment (text : List Char) : Bool :=
  match date? text with
  | some [] => true
  | some (separator :: rest) =>
    (separator == 'T' || separator == 't' || separator == ' ') && (time? rest).any isOffset
  | none => (time? text).any List.isEmpty

/-! ## Values without quotes and brackets -/

/-- What a value without quotes and brackets stands for. -/
def scalar? (text : List Char) : Option Value :=
  if text = "true".toList then some (.bool true)
  else if text = "false".toList then some (.bool false)
  else if isMoment text then some (.moment (String.ofList text))
  else if isInteger text || isFloat text then some (.number (String.ofList text))
  else none

/-- The characters that a value without quotes and brackets takes up. A blank after a date belongs to
it if a time of day follows. -/
def scalarText (text : List Char) : List Char :=
  let first := text.takeWhile isScalarChar
  match text.dropWhile isScalarChar with
  | ' ' :: c :: rest =>
    if date? first = some [] && c.isDigit then first ++ [' '] ++ (c :: rest).takeWhile isScalarChar
    else first
  | _ => first

end Decomment.Toml
