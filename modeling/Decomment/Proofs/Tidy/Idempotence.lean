import Decomment.Proofs.Tidy.Content

/-!
# Tidying twice is tidying once

Lines are settled (`Settled`) when the clean-ups of lines have nothing to do on them, and the lines
that come out of these clean-ups are. Whether lines are settled is a matter of their bodies alone,
and the front of settled lines is settled. A text whose carriage returns all stand before line feeds
has none in the bodies of its lines, so the bodies that are read back from the tidied text are the
front of those that were put together (`bodies_joinLines`, `bodies_finish`), and a second pass
leaves them alone: `apply_idempotent`. A carriage return elsewhere can hide blanks from the first
pass and lose its place at the end of the text in it.
-/

namespace Decomment

namespace Text

/-- Every carriage return of a text stands directly before a line feed. -/
def PairedReturns (text : List Char) : Prop :=
  ∀ n < text.length, text[n]? = some '\r' → text[n + 1]? = some '\n'

instance (text : List Char) : Decidable (PairedReturns text) :=
  inferInstanceAs (Decidable (∀ n < text.length, _ → _))

theorem PairedReturns.head? {before after : List Char}
    (h : PairedReturns (before ++ '\r' :: after)) : after.head? = some '\n' := by
  have hnext := h before.length (by simp) (by simp)
  rwa [List.getElem?_append_right (by omega), Nat.add_sub_cancel_left, List.getElem?_cons_succ,
    ← List.head?_eq_getElem?] at hnext

/-- Only a line ending has a carriage return. -/
theorem return_notMem_splitLines {text : List Char} (h : PairedReturns text) :
    ∀ line ∈ splitLines text, '\r' ∉ line.body := by
  intro line hline hreturn
  obtain ⟨before, after, hbody⟩ := List.append_of_mem hreturn
  obtain ⟨earlier, rest, rfl, hhead⟩ := exists_return_of_mem_splitLines hline hbody
  rw [← List.append_assoc] at h
  exact hhead h.head?

end Text

namespace Tidy

open Text (Line splitLines joinLines isBlank Joinable)

variable {options : Tidy} {lines others : List Line} {text : List Char}

/-! ## Lines on which there is nothing to do -/

/-- The clean-ups of lines have nothing to do: blank lines are empty and alone, and no spaces and
tabs are at the ends of lines, as far as this is asked for. -/
structure Settled (options : Tidy) (lines : List Line) : Prop where
  noBlankRun : options.squeezeBlankLines = true → NoBlankRun lines
  empty : options.squeezeBlankLines = true →
    ∀ line ∈ lines, isBlankLine line = true → line.body = []
  trimmed : options.trimTrailing = true → ∀ line ∈ lines, (trimLine line).body = line.body

theorem noBlankRun_iff_bodies :
    NoBlankRun lines ↔ (lines.map Line.body).IsChain fun body next =>
      ¬ (body.all isBlank = true ∧ next.all isBlank = true) := by
  rw [NoBlankRun, List.isChain_map]
  rfl

/-- Only the bodies count, and the front of settled lines is settled. -/
theorem Settled.of_bodies (h : Settled options lines)
    (hbodies : others.map Line.body <+: lines.map Line.body) : Settled options others := by
  have horigin : ∀ line ∈ others, ∃ origin ∈ lines, origin.body = line.body := by
    intro line hline
    exact List.mem_map.1 (hbodies.subset (List.mem_map_of_mem hline))
  refine ⟨fun hsqueeze => ?_, fun hsqueeze line hline hblank => ?_, fun htrim line hline => ?_⟩
  · obtain ⟨unread, hunread⟩ := hbodies
    have hchain := noBlankRun_iff_bodies.1 (h.noBlankRun hsqueeze)
    rw [← hunread] at hchain
    exact noBlankRun_iff_bodies.2 hchain.left_of_append
  · obtain ⟨origin, horigin, hbody⟩ := horigin line hline
    rw [← hbody]
    exact h.empty hsqueeze origin horigin (by rwa [isBlankLine, hbody])
  · obtain ⟨origin, horigin, hbody⟩ := horigin line hline
    have htrimmed := h.trimmed htrim origin horigin
    rwa [trimLine, hbody] at htrimmed

theorem squeeze_eq_self (hrun : NoBlankRun lines)
    (hempty : ∀ line ∈ lines, isBlankLine line = true → line.body = []) {previousBlank : Bool}
    (hfirst : previousBlank = true → ∀ line ∈ lines.head?, isBlankLine line = false) :
    squeeze previousBlank lines = lines := by
  induction lines generalizing previousBlank with
  | nil => rfl
  | cons line lines ih =>
    obtain ⟨hnext, hafter⟩ := List.isChain_cons.1 hrun
    obtain ⟨hline, hlines⟩ := List.forall_mem_cons.1 hempty
    rw [squeeze]
    split
    · next hblank =>
      have hprevious : previousBlank = false := by
        rw [← Bool.not_eq_true]
        intro hprevious
        rw [hfirst hprevious line rfl] at hblank
        cases hblank
      have hbody : ({ line with body := [] } : Line) = line := by rw [← hline hblank]
      have hhead : ∀ next ∈ lines.head?, isBlankLine next = false := by
        intro next hmem
        rw [← Bool.not_eq_true]
        exact fun hnextBlank => hnext next hmem ⟨hblank, hnextBlank⟩
      rw [hprevious, if_neg Bool.false_ne_true, ih hafter hlines fun _ => hhead, hbody]
    · rw [ih hafter hlines fun hfalse => absurd hfalse Bool.false_ne_true]

/-- **On settled lines there is nothing to do.** -/
theorem Settled.rework_eq (h : Settled options lines) : options.rework lines = lines := by
  have hsqueeze : (if options.squeezeBlankLines then squeeze false lines else lines) = lines := by
    split
    · next hon =>
      exact squeeze_eq_self (h.noBlankRun hon) (h.empty hon) fun hfalse =>
        absurd hfalse Bool.false_ne_true
    · rfl
  rw [rework, hsqueeze]
  split
  · next hon =>
    have hline : ∀ line ∈ lines, trimLine line = line := by
      intro line hmem
      rw [trimLine, show Text.trimEnd _ line.body = line.body from h.trimmed hon line hmem]
    rw [List.map_congr_left hline, List.map_id']
  · rfl

theorem trimLine_trimLine (line : Line) : (trimLine (trimLine line)).body = (trimLine line).body :=
  List.rdropWhile_idempotent _ _

/-- **Reworked lines are settled.** -/
theorem settled_rework (options : Tidy) (lines : List Line) :
    Settled options (options.rework lines) := by
  refine ⟨fun hsqueeze => noBlankRun_rework hsqueeze lines, fun hsqueeze => ?_, fun htrim => ?_⟩
  · have hempty : ∀ line ∈ squeeze false lines, isBlankLine line = true → line.body = [] := by
      intro line hline hblank
      rcases mem_squeeze hline with hnil | ⟨-, hcode⟩
      · exact hnil
      · rw [hcode] at hblank
        cases hblank
    rw [rework, if_pos hsqueeze]
    split
    · refine List.forall_mem_map.2 fun line hline hblank => ?_
      rw [isBlankLine_eq, stem_trimLine, ← isBlankLine_eq] at hblank
      rw [trimLine, hempty line hline hblank]
      rfl
    · exact hempty
  · rw [rework, if_pos htrim]
    exact List.forall_mem_map.2 fun line _ => trimLine_trimLine line

/-! ## The lines of a tidied text -/

/-- Lines without carriage returns are read back as they were. -/
theorem bodies_joinLines (h : Joinable lines) (hreturns : ∀ line ∈ lines, '\r' ∉ line.body) :
    (splitLines (joinLines lines)).map Line.body <+: lines.map Line.body := by
  obtain ⟨unread, hlines, -⟩ := Text.map_reread_eq h
  have hsame : lines.map Line.reread = lines := by
    have hline : ∀ line ∈ lines, line.reread = line := by
      intro line hmem
      refine Line.reread_of_proper ⟨h.feedless line hmem, fun _ hlast => ?_⟩
      exact hreturns line hmem (List.mem_of_getLast? hlast)
    rw [List.map_congr_left hline, List.map_id']
  rw [hsame] at hlines
  exact List.IsPrefix.map _ ⟨unread, hlines.symm⟩

/-- Cutting the end of a text without other carriage returns takes lines off, not parts of lines. -/
theorem bodies_finish (options : Tidy) (hreturns : ∀ line ∈ splitLines text, '\r' ∉ line.body) :
    (splitLines (options.finish text)).map Line.body <+: (splitLines text).map Line.body := by
  rw [finish]
  split
  · rcases splitLines_endWithNewline text with hsame | ⟨front, body, returns, ending, later, hlines,
      hcut, hends, -⟩
    · simp [hsame]
    · have hnone : returns = [] := by
        rw [List.eq_nil_iff_forall_not_mem]
        intro c hc
        refine hreturns ⟨body ++ returns, ending⟩ (by simp [hlines]) ?_
        exact List.mem_append_right _ (hends c hc ▸ hc)
      rw [hlines, hcut, hnone]
      simp
  · exact List.prefix_rfl

theorem endWithNewline_endWithNewline (text : List Char) :
    endWithNewline (endWithNewline text) = endWithNewline text := by
  rcases lineEnds_or_exists_last text with hends | ⟨front, c, tail, rfl, hc, htail⟩
  · rw [endWithNewline_of_lineEnds hends, endWithNewline_of_lineEnds hends]
  · rw [endWithNewline_append hc htail]
    exact endWithNewline_append hc (by simp [IsLineEnd])

theorem finish_finish (options : Tidy) (text : List Char) :
    options.finish (options.finish text) = options.finish text := by
  rw [finish, finish]
  split
  · exact endWithNewline_endWithNewline text
  · rfl

/-- The lines of a tidied text are settled. -/
theorem settled_apply (options : Tidy) (h : Text.PairedReturns text) :
    Settled options (splitLines (options.apply text)) := by
  have hreworked : ∀ line ∈ options.rework (splitLines text), '\r' ∉ line.body :=
    notMem_rework (Text.return_notMem_splitLines h)
  have hjoined := bodies_joinLines
    (joinable_rework options (Text.joinable_splitLines text)) hreworked
  have hread : ∀ line ∈ splitLines (joinLines (options.rework (splitLines text))),
      '\r' ∉ line.body := by
    intro line hline
    obtain ⟨origin, horigin, hbody⟩ := List.mem_map.1 (hjoined.subset (List.mem_map_of_mem hline))
    exact hbody ▸ hreworked origin horigin
  rw [apply_eq]
  exact ((settled_rework options _).of_bodies hjoined).of_bodies (bodies_finish options hread)

/-- **Tidying a tidied text changes nothing**, if carriage returns stand before line feeds only. -/
theorem apply_idempotent (options : Tidy) (text : List Char) (h : Text.PairedReturns text) :
    options.apply (options.apply text) = options.apply text := by
  rw [apply_eq options (options.apply text), (settled_apply options h).rework_eq,
    Text.joinLines_splitLines, apply_eq, finish_finish]

/-- Every clean-up, on a text with both kinds of line breaks, blanks of several kinds and a blank
last line without an ending. -/
theorem apply_idempotent_mixed :
    let options : Tidy := ⟨true, true, true⟩
    let text := "a \t\r\n \u3000\r\n\t\n  b \n\n \r\n ".toList
    Text.PairedReturns text ∧ options.apply (options.apply text) = options.apply text := by
  intro options text
  have hpaired : Text.PairedReturns text := by decide
  exact ⟨hpaired, apply_idempotent options text hpaired⟩

end Tidy

end Decomment
