import Decomment.Text.CharClass

/-!
# Blank characters

The characters with the Unicode property White_Space. They decide whether a line is blank, where
words end, and whether a marker stands alone.
-/

namespace Decomment.Text

/-- The code points with the property White_Space. -/
def blankRanges : CharClass := [
  (0x9, 0xD), (0x20, 0x20), (0x85, 0x85), (0xA0, 0xA0), (0x1680, 0x1680),
  (0x2000, 0x200A), (0x2028, 0x2029), (0x202F, 0x202F), (0x205F, 0x205F), (0x3000, 0x3000)]

/-- Whether a character is white space. -/
def isBlank (c : Char) : Bool :=
  blankRanges.contains c

@[simp] theorem isBlank_newline : isBlank '\n' = true := rfl

@[simp] theorem isBlank_return : isBlank '\r' = true := rfl

@[simp] theorem isBlank_space : isBlank ' ' = true := rfl

@[simp] theorem isBlank_tab : isBlank '\t' = true := rfl

end Decomment.Text
