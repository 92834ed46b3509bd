import Decomment.Text.Split
import Mathlib.Data.List.Basic

/-!
# The words of a text

White space between two texts keeps their words apart (`words_append_cons`), so the words of a text
can be read off its parts: white space adds none (`words_gap_append`), and a word at the front of a
text is its first one if white space or nothing follows it (`words_append`).
-/

namespace Decomment.Text

/-- A text of white space, which may be empty. -/
def IsGap (text : List Char) : Prop :=
  ∀ c ∈ text, isBlank c = true

instance (text : List Char) : Decidable (IsGap text) :=
  decidable_of_iff (text.all isBlank = true) List.all_eq_true

/-- A text without white space that is not empty. -/
structure IsWord (text : List Char) : Prop where
  ne_nil : text ≠ []
  solid : ∀ c ∈ text, isBlank c = false

instance (text : List Char) : Decidable (IsWord text) :=
  decidable_of_iff (text ≠ [] ∧ text.all (!isBlank ·) = true)
    ⟨fun h => ⟨h.1, by simpa using h.2⟩, fun h => ⟨h.ne_nil, by simpa using h.solid⟩⟩

/-- A word that comes before such a text goes no further: the text is empty or begins with white
space. -/
def EndsWord (after : List Char) : Prop :=
  ∀ c ∈ after.head?, isBlank c = true

instance (after : List Char) : Decidable (EndsWord after) :=
  decidable_of_iff (after.head?.all isBlank = true) (Option.all_eq_true _ _)

variable {c : Char} {gap word : List Char}

theorem wordsFrom_append_cons (hc : isBlank c = true) (read before after : List Char) :
    wordsFrom read (before ++ c :: after) = wordsFrom read before ++ words after := by
  induction before generalizing read with
  | nil =>
    simp only [List.nil_append, wordsFrom, hc, if_true, words]
    split <;> rfl
  | cons d before ih =>
    rw [List.cons_append, wordsFrom, wordsFrom, ih, ih]
    repeat' split
    all_goals rfl

/-- **White space keeps words apart.** -/
theorem words_append_cons (hc : isBlank c = true) (before after : List Char) :
    words (before ++ c :: after) = words before ++ words after :=
  wordsFrom_append_cons hc [] before after

theorem words_gap_append (hgap : IsGap gap) (text : List Char) :
    words (gap ++ text) = words text := by
  induction gap with
  | nil => rfl
  | cons c gap ih =>
    obtain ⟨hc, hgap⟩ := List.forall_mem_cons.1 hgap
    have hcons : words (c :: (gap ++ text)) = words (gap ++ text) :=
      words_append_cons hc [] (gap ++ text)
    rw [List.cons_append, hcons, ih hgap]

theorem endsWord_gap_append (hgap : IsGap gap) (hne : gap ≠ []) (text : List Char) :
    EndsWord (gap ++ text) := by
  cases gap with
  | nil => exact absurd rfl hne
  | cons c gap =>
    intro d hd
    obtain rfl : c = d := by simpa using hd
    exact hgap c (List.mem_cons_self ..)

/-- White space has no words. -/
theorem words_of_isGap (hgap : IsGap gap) : words gap = [] := by
  rw [← List.append_nil gap, words_gap_append hgap]
  rfl

theorem wordsFrom_of_solid (hsolid : ∀ c ∈ word, isBlank c = false) (read : List Char)
    (hne : word.reverse ++ read ≠ []) :
    wordsFrom read word = [(word.reverse ++ read).reverse] := by
  induction word generalizing read with
  | nil => simpa [wordsFrom] using hne
  | cons c word ih =>
    obtain ⟨hc, hsolid⟩ := List.forall_mem_cons.1 hsolid
    rw [wordsFrom, if_neg (by rw [hc]; exact Bool.false_ne_true), ih hsolid (c :: read) (by simp)]
    simp

/-- A word is its only word. -/
theorem words_of_isWord (hword : IsWord word) : words word = [word] := by
  rw [words, wordsFrom_of_solid hword.solid [] (by simpa using hword.ne_nil)]
  simp

/-- **A word at the front of a text is its first word**, if it ends there. -/
theorem words_append (hword : IsWord word) {after : List Char} (hafter : EndsWord after) :
    words (word ++ after) = word :: words after := by
  cases after with
  | nil => rw [List.append_nil, words_of_isWord hword]; rfl
  | cons c after =>
    have hc : isBlank c = true := hafter c rfl
    have hcons : words (c :: after) = words after := words_append_cons hc [] after
    rw [words_append_cons hc, words_of_isWord hword, hcons, List.singleton_append]

/-! ## Behind the last separator -/

theorem takeWhile_reverse_of_notMem {sep : Char} {last : List Char} (h : sep ∉ last)
    (before : List Char) :
    (last.reverse ++ before).takeWhile (· != sep) = last.reverse ++ before.takeWhile (· != sep) := by
  refine List.takeWhile_append_of_pos fun c hc => ?_
  rw [bne_iff_ne]
  rintro rfl
  exact h (List.mem_reverse.1 hc)

/-- What stands behind a separator and holds none is what follows the last one. -/
theorem afterLast_append_cons {sep : Char} {last : List Char} (h : sep ∉ last)
    (before : List Char) : afterLast sep (before ++ sep :: last) = last := by
  rw [afterLast, List.reverse_append, List.reverse_cons, List.append_assoc,
    takeWhile_reverse_of_notMem h]
  simp

theorem afterLast_of_notMem {sep : Char} {text : List Char} (h : sep ∉ text) :
    afterLast sep text = text := by
  rw [afterLast, ← List.append_nil text.reverse, takeWhile_reverse_of_notMem h]
  simp

end Decomment.Text
