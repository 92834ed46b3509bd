/-!
# Search for a pattern

`indexOf? pattern text` is the number of characters before the first occurrence of a pattern.
-/

namespace Decomment.Text

/-- Whether `text` begins with `pattern`. -/
abbrev startsWith (text : List Char) (pattern : String) : Bool :=
  pattern.toList.isPrefixOf text

/-- The place of the first occurrence of `pattern` in `text`, counted from `place` on. -/
def indexFrom (pattern : String) (place : Nat) : List Char → Option Nat
  | [] => if pattern.isEmpty then some place else none
  | c :: rest =>
    if startsWith (c :: rest) pattern then some place else indexFrom pattern (place + 1) rest

/-- The number of characters before the first occurrence of `pattern` in `text`. -/
def indexOf? (pattern : String) (text : List Char) : Option Nat :=
  indexFrom pattern 0 text

/-- Counting from another place shifts the result. -/
theorem indexFrom_eq_map (pattern : String) (place : Nat) (text : List Char) :
    indexFrom pattern place text = (indexOf? pattern text).map (place + ·) := by
  rw [indexOf?]
  suffices h : ∀ k, indexFrom pattern (place + k) text = (indexFrom pattern k text).map (place + ·)
    from h 0
  induction text with
  | nil => intro k; simp only [indexFrom]; split <;> rfl
  | cons c rest ih =>
    intro k
    simp only [indexFrom]
    split
    · rfl
    · exact ih (k + 1)

@[simp] theorem indexOf?_cons (pattern : String) (c : Char) (rest : List Char) :
    indexOf? pattern (c :: rest) =
      if startsWith (c :: rest) pattern then some 0 else (indexOf? pattern rest).map (1 + ·) := by
  rw [← indexFrom_eq_map]
  rfl

end Decomment.Text
