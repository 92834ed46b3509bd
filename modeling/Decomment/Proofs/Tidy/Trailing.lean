import Decomment.Proofs.Tidy.Content

/-!
# Blanks at the ends of tidied lines

Spaces and tabs are taken off the ends of lines before the lines are put together and the end of the
text is cut, and both of these can move the end of a line. A carriage return that comes to stand
before a line feed, because what was between them is trimmed, belongs to the line ending when the
text is read back; and the carriage returns at the end of a text go where it is to end in one line
feed. A blank before such a carriage return is at the end of a line then (`hidden_blanks_come_back`).

`endsBlank_apply_iff` says that this is all that can happen. A text in which a carriage return
behind a blank always stands before a line feed hides no blanks (`PairedBehindBlanks`): of its
pieces, none has a blank before a line end or at its own end (`Clear`), and this stays so when they
are put together and cut.
-/

namespace Decomment.Tidy

open Text (Line splitLines joinLines Joinable)

variable {options : Tidy} {lines others : List Line} {text : List Char}

/-- A text with a space or a tab at its end. -/
def EndsBlank (text : List Char) : Prop :=
  ∃ c ∈ text.getLast?, c = ' ' ∨ c = '\t'

instance (text : List Char) : Decidable (EndsBlank text) :=
  decidable_of_iff (text.getLast?.any (fun c => c == ' ' || c == '\t') = true)
    (by simp [EndsBlank, Option.any_eq_true])

@[simp] theorem endsBlank_concat {c : Char} : EndsBlank (text ++ [c]) ↔ c = ' ' ∨ c = '\t' := by
  simp [EndsBlank]

@[simp] theorem not_endsBlank_nil : ¬ EndsBlank [] := by
  simp [EndsBlank]

theorem endsBlank_append {tail : List Char} :
    EndsBlank (text ++ tail) ↔ EndsBlank tail ∨ tail = [] ∧ EndsBlank text := by
  rcases List.eq_nil_or_concat' tail with rfl | ⟨front, c, rfl⟩
  · simp
  · rw [← List.append_assoc, endsBlank_concat, endsBlank_concat]
    simp

theorem not_endsBlank_trimLine (line : Line) : ¬ EndsBlank (trimLine line).body := by
  rintro ⟨c, hc, hblank⟩
  obtain ⟨hne, rfl⟩ := List.mem_getLast?_eq_getLast hc
  have hpasses : ((trimLine line).body.getLast hne == ' ' ||
      (trimLine line).body.getLast hne == '\t') = true := by simpa using hblank
  exact List.rdropWhile_last_not (fun c => c == ' ' || c == '\t') line.body hne hpasses

theorem not_endsBlank_rework (h : options.trimTrailing = true) :
    ∀ line ∈ options.rework lines, ¬ EndsBlank line.body := by
  rw [rework, if_pos h]
  exact List.forall_mem_map.2 fun line _ => not_endsBlank_trimLine line

/-! ## Blanks that come back -/

/-- A line that ends in a blank once the carriage return at the end of its body belongs to the line
feed behind it. -/
def Uncovers (line : Line) : Prop :=
  line.ending = .lf ∧ ∃ front, line.body = front ++ ['\r'] ∧ EndsBlank front

theorem endsBlank_reread_iff {line : Line} (h : ¬ EndsBlank line.body) :
    EndsBlank line.reread.body ↔ Uncovers line := by
  obtain ⟨body, ending⟩ := line
  cases ending with
  | none => exact iff_of_false h fun huncovers => by cases huncovers.1
  | crlf => exact iff_of_false h fun huncovers => by cases huncovers.1
  | lf =>
    by_cases hreturn : body.getLast? = some '\r'
    · obtain ⟨front, rfl⟩ := List.getLast?_eq_some_iff.1 hreturn
      simp [Line.reread, Line.closed, Uncovers]
    · have hsame : Line.reread ⟨body, .lf⟩ = ⟨body, .lf⟩ := if_neg hreturn
      rw [hsame]
      refine iff_of_false h ?_
      rintro ⟨-, front, rfl, -⟩
      exact hreturn (by simp)

/-- Of trimmed lines that are put together, those end in a blank that uncover one. -/
theorem endsBlank_joinLines_iff (hjoinable : Joinable lines)
    (htrimmed : ∀ line ∈ lines, ¬ EndsBlank line.body) :
    (∃ line ∈ splitLines (joinLines lines), EndsBlank line.body) ↔ ∃ line ∈ lines, Uncovers line := by
  obtain ⟨unread, hlines, hunread⟩ := Text.map_reread_eq hjoinable
  have hall : (∃ line ∈ splitLines (joinLines lines), EndsBlank line.body) ↔
      ∃ line ∈ lines.map Line.reread, EndsBlank line.body := by
    have hnone : ¬ ∃ line ∈ unread, EndsBlank line.body := by
      rintro ⟨line, hline, hends⟩
      rw [hunread line hline] at hends
      exact not_endsBlank_nil hends
    rw [hlines]
    simp only [List.mem_append, or_and_right, exists_or, or_iff_left hnone]
  rw [hall]
  simp only [List.mem_map, exists_exists_and_eq_and]
  exact exists_congr fun line => and_congr_right fun hline =>
    endsBlank_reread_iff (htrimmed line hline)

/-! ## The end of a text -/

/-- The last line of a text that ends in one line feed. -/
theorem exists_last_line (front : List Char) {c : Char} (hc : ¬ IsLineEnd c) :
    ∃ earlier body, splitLines (front ++ [c, '\n']) = earlier ++ [⟨body ++ [c], .lf⟩] := by
  induction front using Text.lineInduction with
  | last front hfeed => exact ⟨[], front, splitLines_concat_newline hfeed hc⟩
  | line line front hproper hend ih =>
    obtain ⟨earlier, body, hlines⟩ := ih
    refine ⟨line :: earlier, body, ?_⟩
    rw [List.append_assoc, Text.splitLines_append hproper hend, hlines, List.cons_append]

/-- Cutting the end of a text touches its last line only. -/
theorem EndsOnce.endsBlank_iff (h : EndsOnce lines others) :
    (∃ line ∈ others, EndsBlank line.body) ↔
      (∃ line ∈ lines, EndsBlank line.body) ∨ ∃ line ∈ others.getLast?, EndsBlank line.body := by
  obtain ⟨front, body, returns, ending, later, rfl, rfl, hreturns, hlater⟩ := h
  have hnone : ∀ {chars : List Char}, (∀ c ∈ chars, c = '\r') → ¬ EndsBlank chars := by
    rintro chars hchars ⟨c, hc, hblank⟩
    rw [hchars c (List.mem_of_getLast? hc)] at hblank
    simp at hblank
  constructor
  · rintro ⟨line, hline, hends⟩
    rcases List.mem_append.1 hline with hline | hline
    · exact .inl ⟨line, List.mem_append_left _ hline, hends⟩
    · obtain rfl := List.mem_singleton.1 hline
      exact .inr ⟨_, by simp, hends⟩
  · rintro (⟨line, hline, hends⟩ | ⟨line, hline, hends⟩)
    · rcases List.mem_append.1 hline with hline | hline
      · exact ⟨line, List.mem_append_left _ hline, hends⟩
      rcases List.mem_cons.1 hline with rfl | hline
      · -- with a carriage return behind it, the body would not end in a blank
        rcases endsBlank_append.1 hends with hends | ⟨-, hends⟩
        · exact absurd hends (hnone hreturns)
        · exact ⟨⟨body, .lf⟩, by simp, hends⟩
      · exact absurd hends (hnone (hlater line hline))
    · exact ⟨line, List.mem_of_getLast? hline, hends⟩

/-- **Cutting the end of a text uncovers at most one blank**, the last character before the line
ends that go. -/
theorem endsBlank_endWithNewline_iff (text : List Char) :
    (∃ line ∈ splitLines (endWithNewline text), EndsBlank line.body) ↔
      (∃ line ∈ splitLines text, EndsBlank line.body) ∨ EndsBlank (dropLineEnds text) := by
  rcases lineEnds_or_exists_last text with hends | ⟨front, c, tail, rfl, hc, htail⟩
  · simp [endWithNewline_of_lineEnds hends, dropLineEnds_of_lineEnds hends]
  · obtain ⟨earlier, body, hlines⟩ := exists_last_line front hc
    have hlast : (∃ line ∈ (splitLines (endWithNewline (front ++ c :: tail))).getLast?,
        EndsBlank line.body) ↔ EndsBlank (dropLineEnds (front ++ c :: tail)) := by
      simp [endWithNewline_append hc htail, hlines, dropLineEnds_append hc htail]
    rw [← hlast]
    rcases splitLines_endWithNewline (front ++ c :: tail) with hsame | hends
    · rw [hsame]
      refine (or_iff_left_of_imp ?_).symm
      rintro ⟨line, hline, hends⟩
      exact ⟨line, List.mem_of_getLast? hline, hends⟩
    · exact hends.endsBlank_iff

/-- **When a line of a tidied text ends in a blank**: where one of the squeezed and trimmed lines
uncovers one, or where the carriage returns and line feeds that are cut off have stood behind one. -/
theorem endsBlank_apply_iff (options : Tidy) (text : List Char) (h : options.trimTrailing = true) :
    (∃ line ∈ splitLines (options.apply text), EndsBlank line.body) ↔
      (∃ line ∈ options.rework (splitLines text), Uncovers line) ∨
        options.finalNewline = true ∧
          EndsBlank (dropLineEnds (joinLines (options.rework (splitLines text)))) := by
  rw [apply_eq, finish,
    ← endsBlank_joinLines_iff (joinable_rework options (Text.joinable_splitLines text))
      (not_endsBlank_rework h)]
  split
  · next hfinal => rw [endsBlank_endWithNewline_iff, hfinal, eq_self, true_and]
  · next hfinal => rw [Bool.not_eq_true] at hfinal; simp [hfinal]

/-! ## Texts that hide no blanks -/

/-- Every carriage return directly behind a space or a tab stands directly before a line feed. -/
def PairedBehindBlanks (text : List Char) : Prop :=
  ∀ n < text.length, text[n]? = some ' ' ∨ text[n]? = some '\t' → text[n + 1]? = some '\r' →
    text[n + 2]? = some '\n'

instance (text : List Char) : Decidable (PairedBehindBlanks text) :=
  inferInstanceAs (Decidable (∀ n < text.length, _ → _ → _))

theorem PairedBehindBlanks.head? {before after : List Char} {c : Char} (hc : c = ' ' ∨ c = '\t')
    (h : PairedBehindBlanks (before ++ c :: '\r' :: after)) : after.head? = some '\n' := by
  have hnext := h before.length (by simp) (by simpa using hc) (by simp)
  rwa [List.getElem?_append_right (by omega), Nat.add_sub_cancel_left, List.getElem?_cons_succ,
    List.getElem?_cons_succ, ← List.head?_eq_getElem?] at hnext

/-- No blank stands directly before a line end. -/
def Spaced (text : List Char) : Prop :=
  text.IsChain fun c next => ¬ ((c = ' ' ∨ c = '\t') ∧ IsLineEnd next)

/-- The bodies of such a text's lines have no blank before a carriage return. -/
theorem spaced_splitLines (h : PairedBehindBlanks text) :
    ∀ line ∈ splitLines text, Spaced line.body := by
  intro line hline
  rw [Spaced, List.isChain_iff_forall_rel_of_append_cons_cons]
  rintro c next before after hbody ⟨hblank, rfl | rfl⟩
  · exact (Text.joinable_splitLines text).feedless line hline (by simp [hbody])
  · rw [List.append_cons] at hbody
    obtain ⟨earlier, rest, rfl, hhead⟩ := Text.exists_return_of_mem_splitLines hline hbody
    have hsplit : earlier ++ (before ++ [c] ++ '\r' :: rest) =
        earlier ++ before ++ c :: '\r' :: rest := by simp
    rw [hsplit] at h
    exact hhead (h.head? hblank)

/-- No blank stands directly before a line end or at the end. -/
structure Clear (text : List Char) : Prop where
  spaced : Spaced text
  last : ¬ EndsBlank text

theorem Clear.append {tail : List Char} (h : Clear text) (htail : Clear tail) :
    Clear (text ++ tail) := by
  refine ⟨List.isChain_append.2 ⟨h.spaced, htail.spaced, ?_⟩, ?_⟩
  · rintro c hc next - ⟨hblank, -⟩
    exact h.last ⟨c, hc, hblank⟩
  · rw [endsBlank_append]
    rintro (hends | ⟨-, hends⟩)
    · exact htail.last hends
    · exact h.last hends

/-- Lines without such blanks make up a text without them. -/
theorem clear_joinLines (h : ∀ line ∈ lines, Clear line.body) : Clear (joinLines lines) := by
  induction lines with
  | nil => exact ⟨.nil, not_endsBlank_nil⟩
  | cons line lines ih =>
    obtain ⟨hline, hlines⟩ := List.forall_mem_cons.1 h
    have hending : Clear line.ending.chars := by
      cases line.ending <;> constructor <;> simp [Spaced, EndsBlank, Text.Ending.chars]
    exact (hline.append hending).append (ih hlines)

theorem Clear.not_endsBlank_dropLineEnds (h : Clear text) : ¬ EndsBlank (dropLineEnds text) := by
  obtain ⟨tail, htext, htail⟩ :=
    Text.exists_eq_trimEnd_append (fun c => c == '\n' || c == '\r') text
  rintro ⟨c, hc, hblank⟩
  obtain ⟨front, hfront⟩ := List.getLast?_eq_some_iff.1 hc
  rw [← dropLineEnds, hfront, List.append_assoc, List.singleton_append] at htext
  cases tail with
  | nil => exact h.last (by rw [htext, endsBlank_concat]; exact hblank)
  | cons next tail =>
    have hspaced := List.isChain_iff_forall_rel_of_append_cons_cons.1 h.spaced htext
    exact hspaced ⟨hblank, beq_or_beq_iff_isLineEnd.1 (htail next (List.mem_cons_self ..))⟩

/-- Reworked lines of a text that hides no blanks have none before a line end or at their ends. -/
theorem clear_rework (htrim : options.trimTrailing = true) (h : PairedBehindBlanks text) :
    ∀ line ∈ options.rework (splitLines text), Clear line.body := by
  intro line hline
  refine ⟨?_, not_endsBlank_rework htrim line hline⟩
  rcases exists_of_mem_rework hline with hnil | ⟨origin, horigin, taken, hbody⟩
  · rw [hnil]
    exact .nil
  · have hspaced := spaced_splitLines h origin horigin
    rw [← hbody] at hspaced
    exact List.IsChain.left_of_append hspaced

/-- **Trimming leaves no blanks at the ends of lines, unless carriage returns hide them.** No line
of the tidied text ends in a space or a tab if every carriage return behind one stands before a line
feed. For any text, a line of it does so exactly where a squeezed and trimmed line uncovers one, or
where the line ends that are cut off have stood behind one. -/
theorem apply_trims (options : Tidy) (text : List Char) (htrim : options.trimTrailing = true) :
    (PairedBehindBlanks text → ∀ line ∈ splitLines (options.apply text), ¬ EndsBlank line.body) ∧
      ((∃ line ∈ splitLines (options.apply text), EndsBlank line.body) ↔
        (∃ line ∈ options.rework (splitLines text), Uncovers line) ∨
          options.finalNewline = true ∧
            EndsBlank (dropLineEnds (joinLines (options.rework (splitLines text))))) := by
  refine ⟨fun hpaired line hline hends => ?_, endsBlank_apply_iff options text htrim⟩
  have hclear := clear_rework htrim hpaired
  rcases (endsBlank_apply_iff options text htrim).1 ⟨line, hline, hends⟩ with
    ⟨origin, horigin, -, front, hbody, hblank⟩ | ⟨-, hblank⟩
  · obtain ⟨c, hc, hc'⟩ := hblank
    obtain ⟨before, rfl⟩ := List.getLast?_eq_some_iff.1 hc
    have hsplit : origin.body = before ++ c :: '\r' :: [] := by simp [hbody]
    exact List.isChain_iff_forall_rel_of_append_cons_cons.1 (hclear origin horigin).spaced hsplit
      ⟨hc', .inr rfl⟩
  · exact (clear_joinLines hclear).not_endsBlank_dropLineEnds hblank

/-- Every clean-up, on a text with a lone carriage return that hides nothing and blanks at the ends
of lines of each kind. -/
theorem apply_trims_mixed :
    let options : Tidy := ⟨true, true, true⟩
    let text := "a \t\r\n\u3000\t\n\n b\r\t \n".toList
    options.trimTrailing = true ∧ PairedBehindBlanks text ∧
      ∀ line ∈ splitLines (options.apply text), ¬ EndsBlank line.body := by
  intro options text
  have hpaired : PairedBehindBlanks text := by decide
  exact ⟨rfl, hpaired, (apply_trims options text rfl).1 hpaired⟩

/-- Blanks come back behind a carriage return that trimming brings to a line feed, and behind one
that goes at the end of the text. -/
theorem hidden_blanks_come_back :
    (∃ line ∈ splitLines (apply { trimTrailing := true } "a \r \n".toList), EndsBlank line.body) ∧
      ∃ line ∈ splitLines (apply { trimTrailing := true, finalNewline := true } "a \r".toList),
        EndsBlank line.body := by
  decide

end Decomment.Tidy
