import Decomment.Proofs.Text.Lines
import Decomment.Tidy
import Mathlib.Data.List.Chain
import Mathlib.Data.List.Induction

/-!
# Tidying keeps the code

What tidying may change of a line is the white space at its end, so the rest of its body, its
`stem`, is what a line says. Squeezing and trimming keep the stems of the lines that are not blank.
The tidied lines are then put together, and the end of the text is cut by characters: what is read
back has the same stems, up to empty ones at the end (`Curtails`), and so the same code, and no run
of blank lines that was not there before. The four promises about a tidied text are together in
`apply_keeps_code`.
-/

namespace Decomment.Tidy

open Text (Line splitLines joinLines trimEnd isBlank Joinable)

variable {options : Tidy} {lines : List Line} {text : List Char}

/-! ## Tidying in two parts -/

/-- The clean-ups of lines. -/
def rework (options : Tidy) (lines : List Line) : List Line :=
  let lines := if options.squeezeBlankLines then squeeze false lines else lines
  if options.trimTrailing then lines.map trimLine else lines

/-- The clean-up of the end of a text. -/
def finish (options : Tidy) (text : List Char) : List Char :=
  if options.finalNewline then endWithNewline text else text

theorem apply_eq (options : Tidy) (text : List Char) :
    options.apply text = options.finish (joinLines (options.rework (splitLines text))) := by
  rw [apply]
  split
  · next hnoop =>
    -- nothing is asked for: the lines are only taken apart and put together again
    simp only [isNoop, Bool.not_eq_true', Bool.or_eq_false_iff] at hnoop
    simp [finish, rework, hnoop, Text.joinLines_splitLines]
  · rfl

/-! ## What a line says -/

/-- The body of a line without the white space at its end. -/
def stem (line : Line) : List Char :=
  trimEnd isBlank line.body

theorem isBlankLine_eq (line : Line) : isBlankLine line = (stem line).isEmpty := by
  rw [Bool.eq_iff_iff, List.isEmpty_iff, stem, Text.trimEnd_eq_rdropWhile,
    List.rdropWhile_eq_nil_iff, isBlankLine, List.all_eq_true]

/-- The lines that are not blank, without the white space at their ends. -/
def code (lines : List Line) : List (List Char) :=
  (lines.filter (!isBlankLine ·)).map stem

theorem code_eq_filter (lines : List Line) : code lines = (lines.map stem).filter (!·.isEmpty) := by
  simp only [code, List.filter_map, Function.comp_def, isBlankLine_eq]

@[simp] theorem code_append (lines others : List Line) :
    code (lines ++ others) = code lines ++ code others := by
  simp [code]

theorem code_cons_of_blank {line : Line} (h : isBlankLine line = true) (lines : List Line) :
    code (line :: lines) = code lines := by
  simp [code, h]

/-- No two lines that follow each other are blank. -/
def NoBlankRun (lines : List Line) : Prop :=
  lines.IsChain fun line next => ¬ (isBlankLine line = true ∧ isBlankLine next = true)

theorem noBlankRun_iff_stems :
    NoBlankRun lines ↔ (lines.map stem).IsChain fun s next => ¬ (s = [] ∧ next = []) := by
  rw [NoBlankRun, List.isChain_map]
  simp only [isBlankLine_eq, List.isEmpty_iff]

/-! ## Squeezing -/

theorem code_squeeze (previousBlank : Bool) (lines : List Line) :
    code (squeeze previousBlank lines) = code lines := by
  induction lines generalizing previousBlank with
  | nil => rfl
  | cons line lines ih =>
    rw [squeeze]
    split
    · next hblank =>
      rw [code_cons_of_blank hblank]
      split
      · exact ih true
      · rw [code_cons_of_blank rfl, ih]
    · rw [← List.singleton_append, code_append, ih, ← code_append, List.singleton_append]

/-- A squeezed list of lines has no run of blank ones, and does not begin with a blank one behind
another. -/
theorem noBlankRun_squeeze (previousBlank : Bool) (lines : List Line) :
    NoBlankRun (squeeze previousBlank lines) ∧
      (previousBlank = true → ∀ line ∈ (squeeze previousBlank lines).head?,
        isBlankLine line = false) := by
  induction lines generalizing previousBlank with
  | nil => exact ⟨.nil, fun _ _ hline => by cases hline⟩
  | cons line lines ih =>
    obtain ⟨hafter, hhead⟩ := ih true
    rw [squeeze]
    split
    · split
      · exact ⟨hafter, fun _ => hhead rfl⟩
      · next hprevious =>
        refine ⟨List.isChain_cons.2 ⟨?_, hafter⟩, fun htrue => absurd htrue hprevious⟩
        rintro next hnext ⟨-, hblank⟩
        rw [hhead rfl next hnext] at hblank
        cases hblank
    · next hcode =>
      rw [Bool.not_eq_true] at hcode
      refine ⟨List.isChain_cons.2 ⟨?_, (ih false).1⟩, fun _ first hfirst => ?_⟩
      · rintro next - ⟨hblank, -⟩
        rw [hcode] at hblank
        cases hblank
      · obtain rfl : line = first := by simpa using hfirst
        exact hcode

theorem endings_squeeze (previousBlank : Bool) (lines : List Line) :
    ((squeeze previousBlank lines).map Line.ending).Sublist (lines.map Line.ending) := by
  induction lines generalizing previousBlank with
  | nil => exact .slnil
  | cons line lines ih =>
    rw [squeeze]
    split
    · split
      · exact (ih true).cons _
      · exact (ih true).cons_cons _
    · exact (ih false).cons_cons _

/-- A squeezed line is empty or one of the lines that there were. -/
theorem mem_squeeze {previousBlank : Bool} {line : Line} (h : line ∈ squeeze previousBlank lines) :
    line.body = [] ∨ line ∈ lines ∧ isBlankLine line = false := by
  induction lines generalizing previousBlank with
  | nil => cases h
  | cons first lines ih =>
    rw [squeeze] at h
    split at h
    · split at h
      · exact (ih h).imp_right (And.imp_left (List.mem_cons_of_mem _))
      · rcases List.mem_cons.1 h with rfl | h
        · exact .inl rfl
        · exact (ih h).imp_right (And.imp_left (List.mem_cons_of_mem _))
    · next hcode =>
      rcases List.mem_cons.1 h with rfl | h
      · exact .inr ⟨List.mem_cons_self .., by simpa using hcode⟩
      · exact (ih h).imp_right (And.imp_left (List.mem_cons_of_mem _))

/-! ## Trimming -/

/-- Trimming takes spaces and tabs off the end of a body. -/
theorem exists_eq_body_trimLine (line : Line) :
    ∃ tail, line.body = (trimLine line).body ++ tail ∧ ∀ c ∈ tail, c = ' ' ∨ c = '\t' := by
  obtain ⟨tail, hbody, htail⟩ :=
    Text.exists_eq_trimEnd_append (fun c => c == ' ' || c == '\t') line.body
  exact ⟨tail, hbody, fun c hc => by simpa using htail c hc⟩

theorem stem_trimLine (line : Line) : stem (trimLine line) = stem line := by
  obtain ⟨tail, hbody, htail⟩ := exists_eq_body_trimLine line
  have hblank : ∀ c ∈ tail, isBlank c = true := by
    intro c hc
    rcases htail c hc with rfl | rfl
    · exact Text.isBlank_space
    · exact Text.isBlank_tab
  rw [stem, stem, hbody, Text.trimEnd_append _ hblank]

theorem map_stem_trimLine (lines : List Line) :
    (lines.map trimLine).map stem = lines.map stem := by
  rw [List.map_map]
  exact List.map_congr_left fun line _ => stem_trimLine line

/-- Trimming takes no line feed away. -/
theorem countBreaks_map_trimLine (lines : List Line) :
    Text.countBreaks (joinLines (lines.map trimLine)) = Text.countBreaks (joinLines lines) := by
  have hline : ∀ line : Line, (trimLine line).chars.count '\n' = line.chars.count '\n' := by
    intro line
    obtain ⟨tail, hbody, htail⟩ := exists_eq_body_trimLine line
    have hnone : tail.count '\n' = 0 := by
      refine List.count_eq_zero.2 fun hfeed => ?_
      rcases htail _ hfeed with h | h
      · cases h
      · cases h
    rw [Line.chars, Line.chars, hbody, List.count_append, List.count_append, List.count_append,
      hnone]
    rfl
  simp [Text.countBreaks, joinLines, List.count_flatMap, Function.comp_def, hline]

/-! ## Both -/

theorem code_rework (options : Tidy) (lines : List Line) :
    code (options.rework lines) = code lines := by
  have htrim : ∀ lines : List Line, code (lines.map trimLine) = code lines := by
    intro lines
    rw [code_eq_filter, map_stem_trimLine, ← code_eq_filter]
  rw [rework]
  split
  · split
    · rw [htrim, code_squeeze]
    · exact htrim lines
  · split
    · exact code_squeeze false lines
    · rfl

theorem noBlankRun_rework (h : options.squeezeBlankLines = true) (lines : List Line) :
    NoBlankRun (options.rework lines) := by
  have hsqueezed := (noBlankRun_squeeze false lines).1
  rw [rework, if_pos h]
  split
  · rwa [noBlankRun_iff_stems, map_stem_trimLine, ← noBlankRun_iff_stems]
  · exact hsqueezed

/-- A reworked line is the front of one that there was. -/
theorem exists_of_mem_rework {line : Line} (h : line ∈ options.rework lines) :
    line.body = [] ∨ ∃ origin ∈ lines, line.body <+: origin.body := by
  have hsqueezed : ∀ {line : Line},
      line ∈ (if options.squeezeBlankLines then squeeze false lines else lines) →
        line.body = [] ∨ ∃ origin ∈ lines, line.body <+: origin.body := by
    intro line hline
    split at hline
    · exact (mem_squeeze hline).imp_right fun hmem => ⟨line, hmem.1, List.prefix_rfl⟩
    · exact .inr ⟨line, hline, List.prefix_rfl⟩
  rw [rework] at h
  split at h
  · obtain ⟨squeezed, hmem, rfl⟩ := List.mem_map.1 h
    have hfront : (trimLine squeezed).body <+: squeezed.body := List.rdropWhile_prefix _ _
    rcases hsqueezed hmem with hnil | ⟨origin, horigin, hbody⟩
    · exact .inl (List.prefix_nil.1 (hnil ▸ hfront))
    · exact .inr ⟨origin, horigin, hfront.trans hbody⟩
  · exact hsqueezed h

/-- A reworked line holds no character that no line held. -/
theorem notMem_rework {c : Char} (h : ∀ line ∈ lines, c ∉ line.body) :
    ∀ line ∈ options.rework lines, c ∉ line.body := by
  intro line hline hc
  rcases exists_of_mem_rework hline with hnil | ⟨origin, horigin, hbody⟩
  · rw [hnil] at hc
    cases hc
  · exact h origin horigin (hbody.subset hc)

theorem joinable_rework (options : Tidy) (h : Joinable lines) :
    Joinable (options.rework lines) := by
  refine ⟨notMem_rework h.feedless, ?_⟩
  have hendings : ((options.rework lines).map Line.ending).Sublist (lines.map Line.ending) := by
    have htrim : ∀ lines : List Line, (lines.map trimLine).map Line.ending =
        lines.map Line.ending := fun lines => by simp [trimLine, Function.comp_def]
    rw [rework]
    split
    · rw [htrim]
      split
      · exact endings_squeeze false lines
      · exact List.Sublist.refl _
    · split
      · exact endings_squeeze false lines
      · exact List.Sublist.refl _
  have hclosed := (List.pairwise_map (f := Line.ending) (R := fun e _ => e ≠ .none)).2 h.closed
  exact List.pairwise_map.1 (hclosed.sublist hendings)

/-! ## What is read back -/

/-- The second lines say what the first ones say, up to lines at the end that say nothing. -/
def Curtails (lines others : List Line) : Prop :=
  ∃ unread, lines.map stem = others.map stem ++ unread ∧ ∀ s ∈ unread, s = []

theorem Curtails.code_eq {others : List Line} (h : Curtails lines others) :
    code others = code lines := by
  obtain ⟨unread, hstems, hunread⟩ := h
  have hnone : unread.filter (!·.isEmpty) = [] :=
    List.filter_eq_nil_iff.2 fun s hs => by simp [hunread s hs]
  rw [code_eq_filter, code_eq_filter, hstems, List.filter_append, hnone, List.append_nil]

theorem Curtails.noBlankRun {others : List Line} (h : Curtails lines others)
    (hlines : NoBlankRun lines) : NoBlankRun others := by
  obtain ⟨unread, hstems, -⟩ := h
  rw [noBlankRun_iff_stems] at hlines ⊢
  rw [hstems] at hlines
  exact hlines.left_of_append

/-- White space at the end of a body says nothing. -/
theorem stem_append {body tail : List Char} (h : ∀ c ∈ tail, isBlank c = true)
    (ending other : Text.Ending) : stem ⟨body ++ tail, ending⟩ = stem ⟨body, other⟩ :=
  Text.trimEnd_append body h

theorem stem_reread (line : Line) : stem line.reread = stem line := by
  rcases line.reread_cases with heq | ⟨heq, -⟩
  · rw [heq]
  · rw [stem, stem, heq, Text.trimEnd_append _ (by simp)]

/-- Lines that are put together say the same when they are read back. -/
theorem curtails_joinLines (h : Joinable lines) : Curtails lines (splitLines (joinLines lines)) := by
  obtain ⟨unread, hlines, hunread⟩ := Text.map_reread_eq h
  refine ⟨unread.map stem, ?_, List.forall_mem_map.2 fun line hline => ?_⟩
  · rw [← List.map_append, ← hlines, List.map_map]
    exact List.map_congr_left fun line _ => (stem_reread line).symm
  · rw [stem, hunread line hline]
    rfl

/-! ## The end of a text -/

/-- A line feed or a carriage return. -/
def IsLineEnd (c : Char) : Prop :=
  c = '\n' ∨ c = '\r'

/-- A text holds nothing but line ends, or there is a last character before those at its end. -/
theorem lineEnds_or_exists_last (text : List Char) :
    (∀ c ∈ text, IsLineEnd c) ∨
      ∃ front c tail, text = front ++ c :: tail ∧ ¬ IsLineEnd c ∧ ∀ d ∈ tail, IsLineEnd d := by
  induction text using List.reverseRecOn with
  | nil => exact .inl fun c hc => by cases hc
  | append_singleton text d ih =>
    by_cases hd : IsLineEnd d
    · rcases ih with hends | ⟨front, c, tail, rfl, hc, htail⟩
      · exact .inl (List.forall_mem_append.2 ⟨hends, by simpa using hd⟩)
      · refine .inr ⟨front, c, tail ++ [d], by simp, hc, ?_⟩
        exact List.forall_mem_append.2 ⟨htail, by simpa using hd⟩
    · exact .inr ⟨text, d, [], rfl, hd, fun c hc => by cases hc⟩

theorem beq_or_beq_iff_isLineEnd {c : Char} : (c == '\n' || c == '\r') = true ↔ IsLineEnd c := by
  rw [Bool.or_eq_true, beq_iff_eq, beq_iff_eq, IsLineEnd]

/-- A text without the line ends at its end. -/
def dropLineEnds (text : List Char) : List Char :=
  trimEnd (fun c => c == '\n' || c == '\r') text

theorem dropLineEnds_of_lineEnds (h : ∀ c ∈ text, IsLineEnd c) : dropLineEnds text = [] :=
  List.rdropWhile_eq_nil_iff.2 fun c hc => beq_or_beq_iff_isLineEnd.2 (h c hc)

theorem dropLineEnds_append {front tail : List Char} {c : Char} (hc : ¬ IsLineEnd c)
    (htail : ∀ d ∈ tail, IsLineEnd d) : dropLineEnds (front ++ c :: tail) = front ++ [c] := by
  rw [dropLineEnds, List.append_cons,
    Text.trimEnd_append _ fun d hd => beq_or_beq_iff_isLineEnd.2 (htail d hd)]
  exact List.rdropWhile_concat_neg _ _ _ (by rwa [beq_or_beq_iff_isLineEnd])

/-- A text of nothing but line ends stays as it is. -/
theorem endWithNewline_of_lineEnds (h : ∀ c ∈ text, IsLineEnd c) : endWithNewline text = text := by
  rw [endWithNewline, ← dropLineEnds, dropLineEnds_of_lineEnds h]

/-- The bodies of the lines of such a text hold carriage returns only. -/
theorem returns_of_lineEnds (h : ∀ c ∈ text, IsLineEnd c) :
    ∀ line ∈ splitLines text, ∀ c ∈ line.body, c = '\r' := by
  intro line hline c hc
  rcases h c (Text.mem_of_mem_splitLines hline hc) with rfl | hreturn
  · exact absurd hc ((Text.splitLines_proper text).1 line hline).feedless
  · exact hreturn

/-- Any other text is cut behind its last character that is no line end. -/
theorem endWithNewline_append {front tail : List Char} {c : Char} (hc : ¬ IsLineEnd c)
    (htail : ∀ d ∈ tail, IsLineEnd d) :
    endWithNewline (front ++ c :: tail) = front ++ [c, '\n'] := by
  rw [endWithNewline, ← dropLineEnds, dropLineEnds_append hc htail]
  split
  · next hnil => simp at hnil
  · rw [List.append_assoc]
    rfl

/-- Behind the last character that is no line end a text has only carriage returns and line
feeds. -/
theorem splitLines_of_lineEnds {front tail : List Char} {c : Char} (hfront : '\n' ∉ front)
    (hc : ¬ IsLineEnd c) (htail : ∀ d ∈ tail, IsLineEnd d) :
    ∃ returns ending later, splitLines (front ++ c :: tail) =
        ⟨front ++ [c] ++ returns, ending⟩ :: later ∧
      (∀ d ∈ returns, d = '\r') ∧ ∀ line ∈ later, ∀ d ∈ line.body, d = '\r' := by
  obtain ⟨returns, after, rfl, hends⟩ := Text.exists_endsLine tail
  have hreturns : ∀ d ∈ returns, d = '\r' := by
    intro d hd
    rcases htail d (List.mem_append_left _ hd) with rfl | hd'
    · exact absurd hd hends.1
    · exact hd'
  have hline : Text.EndsLine (front ++ [c] ++ returns) after := by
    refine Text.EndsLine.append_left ?_ ?_ hends
    · simpa [hfront] using fun heq => hc (.inl heq.symm)
    · simpa using fun heq => hc (.inr heq)
  have hsplit : front ++ c :: (returns ++ after) = front ++ [c] ++ returns ++ after := by simp
  rw [hsplit]
  rcases hline.exists_ending with rfl | ⟨ending, rest, rfl, hending, hproper⟩
  · refine ⟨returns, .none, [], ?_, hreturns, by simp⟩
    rw [List.append_nil, Text.splitLines_of_notMem hline.1 (by simp)]
  · refine ⟨returns, ending, splitLines rest, ?_, hreturns, returns_of_lineEnds fun d hd =>
      htail d (by simp [hd])⟩
    rw [← List.append_assoc]
    exact Text.splitLines_append hproper hending rest

/-- The second lines are the first ones up to the last with more than carriage returns in it, which
loses those at its end. -/
def EndsOnce (lines others : List Line) : Prop :=
  ∃ front body returns ending later, lines = front ++ ⟨body ++ returns, ending⟩ :: later ∧
    others = front ++ [⟨body, .lf⟩] ∧ (∀ c ∈ returns, c = '\r') ∧
      ∀ line ∈ later, ∀ c ∈ line.body, c = '\r'

theorem EndsOnce.cons {others : List Line} (h : EndsOnce lines others) (line : Line) :
    EndsOnce (line :: lines) (line :: others) := by
  obtain ⟨front, body, returns, ending, later, rfl, rfl, hreturns, hlater⟩ := h
  exact ⟨line :: front, body, returns, ending, later, rfl, rfl, hreturns, hlater⟩

/-- A line without a line feed that gets one is a line of its own. -/
theorem splitLines_concat_newline {front : List Char} {c : Char} (hfront : '\n' ∉ front)
    (hc : ¬ IsLineEnd c) : splitLines (front ++ [c, '\n']) = [⟨front ++ [c], .lf⟩] := by
  have hproper : Line.Proper ⟨front ++ [c], .lf⟩ := by
    constructor
    · simpa [hfront] using fun heq => hc (.inl heq.symm)
    · simpa using fun heq => hc (.inr heq)
  simpa [Line.chars, Text.Ending.chars, splitLines, Text.linesFrom] using
    Text.splitLines_append hproper (by simp) []

/-- **How the end of a text changes its lines.** -/
theorem splitLines_endWithNewline (text : List Char) :
    endWithNewline text = text ∨ EndsOnce (splitLines text) (splitLines (endWithNewline text)) := by
  rcases lineEnds_or_exists_last text with hends | ⟨front, c, tail, rfl, hc, htail⟩
  · exact .inl (endWithNewline_of_lineEnds hends)
  refine .inr ?_
  rw [endWithNewline_append hc htail]
  -- over the lines before the last one that counts, both texts go together
  induction front using Text.lineInduction with
  | last front hfeed =>
    obtain ⟨returns, ending, later, hlines, hreturns, hlater⟩ :=
      splitLines_of_lineEnds hfeed hc htail
    exact ⟨[], front ++ [c], returns, ending, later, hlines, splitLines_concat_newline hfeed hc,
      hreturns, hlater⟩
  | line line front hproper hend ih =>
    rw [List.append_assoc, List.append_assoc, Text.splitLines_append hproper hend,
      Text.splitLines_append hproper hend]
    exact ih.cons line

theorem EndsOnce.curtails {others : List Line} (h : EndsOnce lines others) :
    Curtails lines others := by
  obtain ⟨front, body, returns, ending, later, rfl, rfl, hreturns, hlater⟩ := h
  have hblank : ∀ {chars : List Char}, (∀ c ∈ chars, c = '\r') →
      ∀ c ∈ chars, isBlank c = true := by
    intro chars hchars c hc
    rw [hchars c hc, Text.isBlank_return]
  refine ⟨later.map stem, ?_, List.forall_mem_map.2 fun line hline => ?_⟩
  · simp [stem_append (hblank hreturns) ending .lf]
  · exact List.rdropWhile_eq_nil_iff.2 (hblank (hlater line hline))

theorem curtails_finish (options : Tidy) (text : List Char) :
    Curtails (splitLines text) (splitLines (options.finish text)) := by
  have hsame : Curtails (splitLines text) (splitLines text) := ⟨[], by simp, by simp⟩
  rw [finish]
  split
  · rcases splitLines_endWithNewline text with heq | hends
    · rwa [heq]
    · exact hends.curtails
  · exact hsame

/-- **Tidying keeps the code.** The lines that are not blank stay, up to white space at their ends.
Squeezed, a text has no two blank lines in a row; ended with a line feed, it has exactly one there;
and its line feeds are as many as before if neither is asked for. -/
theorem apply_keeps_code (options : Tidy) (text : List Char) :
    code (splitLines (options.apply text)) = code (splitLines text) ∧
      (options.squeezeBlankLines = true → NoBlankRun (splitLines (options.apply text))) ∧
      (options.finalNewline = true →
        (∃ c ∈ options.apply text, c ≠ '\n' ∧ c ≠ '\r') →
          ∃ front c, options.apply text = front ++ [c, '\n'] ∧ c ≠ '\n' ∧ c ≠ '\r') ∧
      (options.squeezeBlankLines = false → options.finalNewline = false →
        Text.countBreaks (options.apply text) = Text.countBreaks text) := by
  have hjoinable := joinable_rework options (Text.joinable_splitLines text)
  have hjoined := curtails_joinLines hjoinable
  have hfinished := curtails_finish options (joinLines (options.rework (splitLines text)))
  rw [apply_eq]
  refine ⟨?_, fun hsqueeze => ?_, fun hfinal hexists => ?_, fun hsqueeze hfinal => ?_⟩
  · rw [hfinished.code_eq, hjoined.code_eq, code_rework]
  · exact hfinished.noBlankRun (hjoined.noBlankRun (noBlankRun_rework hsqueeze _))
  · rw [finish, if_pos hfinal] at hexists ⊢
    obtain ⟨c, hc, hfeed, hreturn⟩ := hexists
    rcases lineEnds_or_exists_last (joinLines (options.rework (splitLines text))) with
      hends | ⟨front, d, tail, htext, hd, htail⟩
    · rw [endWithNewline_of_lineEnds hends] at hc
      exact absurd (hends c hc) (not_or.2 ⟨hfeed, hreturn⟩)
    · exact ⟨front, d, by rw [htext, endWithNewline_append hd htail], not_or.1 hd⟩
  · have hlines : Text.countBreaks (joinLines (options.rework (splitLines text))) =
        Text.countBreaks (joinLines (splitLines text)) := by
      rw [rework, hsqueeze, if_neg Bool.false_ne_true]
      split
      · exact countBreaks_map_trimLine _
      · rfl
    rw [finish, hfinal, if_neg Bool.false_ne_true, hlines, Text.joinLines_splitLines]

/-- Every clean-up, on a text with a lone carriage return, a wide blank and a run of blank lines of
both kinds. -/
theorem apply_keeps_code_mixed :
    let options : Tidy := ⟨true, true, true⟩
    let text := "a \r \n\t\r\n \u3000\nb\u3000\r\r\n\r".toList
    code (splitLines (options.apply text)) = [['a'], ['b']] ∧
      NoBlankRun (splitLines (options.apply text)) ∧
      ∃ front c, options.apply text = front ++ [c, '\n'] ∧ c ≠ '\n' ∧ c ≠ '\r' := by
  intro options text
  obtain ⟨hcode, hrun, hfinal, -⟩ := apply_keeps_code options text
  exact ⟨hcode.trans (by decide), hrun rfl, hfinal rfl ⟨'a', by decide, by decide, by decide⟩⟩

end Decomment.Tidy
