import Decomment.Text.Lines
import Decomment.Text.Search

/-!
# Where a pattern and a line end

The search for a pattern and the length of a line are functions of a text. This module says what
they find: `Avoids` and `EndsLine` describe the part of a text before a pattern and before a line
break, and a text has exactly one such part (`exists_avoids`, `indexOf?_append`; `exists_endsLine`,
`lineLength_append`).
-/

namespace Decomment.Text

theorem startsWith_iff {text : List Char} {pattern : String} :
    startsWith text pattern = true ↔ pattern.toList <+: text :=
  List.isPrefixOf_iff_prefix

theorem startsWith_eq_false_iff {text : List Char} {pattern : String} :
    startsWith text pattern = false ↔ ¬ pattern.toList <+: text := by
  rw [← startsWith_iff, Bool.not_eq_true]

theorem toList_ne_nil {token : String} (h : token ≠ "") : token.toList ≠ [] := by
  rwa [ne_eq, String.toList_eq_nil_iff]

/-! ## First occurrence -/

/-- A pattern begins at no place of `body` when `tail` follows it. -/
def Avoids (pattern : String) : (body tail : List Char) → Prop
  | [], _ => True
  | c :: body, tail => ¬ pattern.toList <+: c :: (body ++ tail) ∧ Avoids pattern body tail

/-- A text has a first occurrence of a pattern, or the pattern begins at none of its places. -/
theorem exists_avoids (pattern : String) (text : List Char) :
    (∃ body after, text = body ++ (pattern.toList ++ after) ∧
      Avoids pattern body (pattern.toList ++ after)) ∨ Avoids pattern text [] := by
  induction text with
  | nil => exact .inr trivial
  | cons c rest ih =>
    by_cases h : pattern.toList <+: c :: rest
    · obtain ⟨after, hafter⟩ := h
      exact .inl ⟨[], after, hafter.symm, trivial⟩
    · rcases ih with ⟨body, after, rfl, hbody⟩ | hrest
      · exact .inl ⟨c :: body, after, rfl, h, hbody⟩
      · exact .inr ⟨by rwa [List.append_nil], hrest⟩

/-- The search finds the first occurrence. -/
theorem indexOf?_append {pattern : String} {body after : List Char}
    (h : Avoids pattern body (pattern.toList ++ after)) :
    indexOf? pattern (body ++ (pattern.toList ++ after)) = some body.length := by
  induction body with
  | nil =>
    rw [List.nil_append, List.length_nil]
    cases hrest : pattern.toList ++ after with
    | nil =>
      have hempty : pattern.isEmpty = true :=
        String.isEmpty_iff.2 (String.toList_eq_nil_iff.1 (List.append_eq_nil_iff.1 hrest).1)
      simp [indexOf?, indexFrom, hempty]
    | cons c rest =>
      rw [indexOf?_cons, if_pos (startsWith_iff.2 (hrest ▸ List.prefix_append _ _))]
  | cons c body ih =>
    rw [List.cons_append, indexOf?_cons, if_neg (by rw [startsWith_iff]; exact h.1), ih h.2,
      Option.map_some, List.length_cons, Nat.add_comm]

/-- The search finds nothing in a text without the pattern. -/
theorem indexOf?_eq_none {pattern : String} {text : List Char} (hne : pattern ≠ "")
    (h : Avoids pattern text []) : indexOf? pattern text = none := by
  induction text with
  | nil =>
    have hempty : pattern.isEmpty = false := by
      rw [← Bool.not_eq_true, String.isEmpty_iff]
      exact hne
    simp [indexOf?, indexFrom, hempty]
  | cons c rest ih =>
    have hc : ¬ pattern.toList <+: c :: rest := by simpa using h.1
    rw [indexOf?_cons, if_neg (by rw [startsWith_iff]; exact hc), ih h.2, Option.map_none]

/-! ## End of a line -/

/-- `body` runs up to the line break that `after` begins with, or to the end of the text. A carriage
return directly before the line feed belongs to the break. -/
def EndsLine (body after : List Char) : Prop :=
  '\n' ∉ body ∧
    (after = [] ∨ (∃ rest, after = '\n' :: rest ∧ body.getLast? ≠ some '\r') ∨
      ∃ rest, after = '\r' :: '\n' :: rest)

/-- The part of a text before its first line feed, and the rest. -/
theorem takeWhile_dropWhile_newline {body : List Char} (hbody : '\n' ∉ body)
    (rest : List Char) (hrest : ∀ c, rest.head? = some c → c = '\n') :
    (body ++ rest).takeWhile (· != '\n') = body ∧
      (body ++ rest).dropWhile (· != '\n') = rest := by
  have hall : ∀ c ∈ body, (c != '\n') = true := by
    intro c hc
    rw [bne_iff_ne]
    rintro rfl
    exact hbody hc
  rw [List.takeWhile_append_of_pos hall, List.dropWhile_append_of_pos hall]
  cases rest with
  | nil => simp
  | cons c rest => simp [hrest c rfl]

/-- A text has a part that runs to its first line break. -/
theorem exists_endsLine (text : List Char) :
    ∃ body after, text = body ++ after ∧ EndsLine body after := by
  by_cases h : '\n' ∈ text
  · obtain ⟨line, rest, rfl, hline⟩ := List.eq_append_cons_of_mem h
    by_cases hr : line.getLast? = some '\r'
    · obtain ⟨body, rfl⟩ := List.getLast?_eq_some_iff.1 hr
      refine ⟨body, '\r' :: '\n' :: rest, by simp, fun hb => hline ?_, .inr (.inr ⟨rest, rfl⟩)⟩
      exact List.mem_append_left _ hb
    · exact ⟨line, '\n' :: rest, rfl, hline, .inr (.inl ⟨rest, rfl, hr⟩)⟩
  · exact ⟨text, [], (List.append_nil text).symm, h, .inl rfl⟩

/-- The length of a line is that of the part before the break. -/
theorem lineLength_append {body after : List Char} (h : EndsLine body after) :
    lineLength (body ++ after) = body.length := by
  obtain ⟨hbody, rfl | ⟨rest, rfl, hr⟩ | ⟨rest, rfl⟩⟩ := h
  · obtain ⟨htake, hdrop⟩ := takeWhile_dropWhile_newline hbody [] (by simp)
    rw [lineLength, htake, hdrop]
    simp
  · obtain ⟨htake, hdrop⟩ := takeWhile_dropWhile_newline hbody ('\n' :: rest) (by simp)
    rw [lineLength, htake, hdrop]
    simp [hr]
  · have hmem : '\n' ∉ body ++ ['\r'] := by simpa using hbody
    obtain ⟨htake, hdrop⟩ := takeWhile_dropWhile_newline hmem ('\n' :: rest) (by simp)
    have hsplit : body ++ '\r' :: '\n' :: rest = body ++ ['\r'] ++ '\n' :: rest := by simp
    rw [lineLength, hsplit, htake, hdrop]
    simp

/-- A text has one part that runs to its first line break. -/
theorem EndsLine.unique {body after other otherAfter : List Char} (h : EndsLine body after)
    (hother : EndsLine other otherAfter) (heq : body ++ after = other ++ otherAfter) :
    body = other ∧ after = otherAfter := by
  refine List.append_inj heq ?_
  rw [← lineLength_append h, heq, lineLength_append hother]

theorem EndsLine.tail {body after : List Char} {c : Char} (h : EndsLine (c :: body) after) :
    EndsLine body after := by
  obtain ⟨hfeed, hafter⟩ := h
  refine ⟨fun hmem => hfeed (List.mem_cons_of_mem _ hmem), hafter.imp_right (.imp_left ?_)⟩
  rintro ⟨rest, rfl, hreturn⟩
  refine ⟨rest, rfl, fun hlast => hreturn ?_⟩
  obtain ⟨front, rfl⟩ := List.getLast?_eq_some_iff.1 hlast
  rw [← List.cons_append, List.getLast?_concat]

/-- What runs to a line break does so with a token without line breaks before it. -/
theorem EndsLine.append_left {token body after : List Char} (hfeed : '\n' ∉ token)
    (hreturn : token.getLast? ≠ some '\r') (h : EndsLine body after) :
    EndsLine (token ++ body) after := by
  obtain ⟨hbody, hafter⟩ := h
  refine ⟨?_, hafter.imp_right (.imp_left ?_)⟩
  · rw [List.mem_append, not_or]
    exact ⟨hfeed, hbody⟩
  · rintro ⟨rest, rfl, hlast⟩
    refine ⟨rest, rfl, ?_⟩
    rw [List.getLast?_append]
    cases hend : body.getLast? with
    | none => rwa [Option.none_or]
    | some d => rwa [Option.some_or, ← hend]

end Decomment.Text
