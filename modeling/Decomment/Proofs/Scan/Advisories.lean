import Decomment.Proofs.Scan.Partition
import Decomment.Proofs.Scan.Totality
import Mathlib.Data.List.Infix

/-!
# What a scan reports

A scan raises one advisory for each segment that nothing closes, with the line where the segment
begins, and no other (`Segment.advisories_eq_filterMap`). So the lines of the advisories do not fall,
and only the last advisory can be about the end of the text: a segment that something follows is
left open only if it is a literal of one line (`Cut.singleLine_of_mem_dropLast`).

A scan by offsets counts the lines from its mark on. The mark never lies behind the place where what
is open was opened (`Cursor.Ordered.run`), so it never has to count from the start again, and it
finds the line that counting from the start would give (`Follows.countsOn`).
-/

namespace Decomment.Scan

/-! ## One advisory for each open segment -/

namespace Segment

/-- Segments, each after the text of the segments before it. -/
def placed (segments : List Segment) : List (List Char × Segment) :=
  (segments.inits.map text).zip segments

@[simp] theorem placed_nil : placed [] = [] := rfl

theorem placed_cons (segment : Segment) (segments : List Segment) :
    placed (segment :: segments) =
      ([], segment) :: (placed segments).map (Prod.map (segment.chars ++ ·) id) := by
  simp [placed, List.zip_map_left, Function.comp_def]

/-- The advisories of segments, each with the line of the text before its segment. -/
theorem advisories_eq_filterMap (line : Nat) (segments : List Segment) :
    advisories line segments =
      (placed segments).filterMap fun (before, segment) =>
        segment.advisory? (line + Text.countBreaks before) := by
  induction segments generalizing line with
  | nil => rfl
  | cons segment segments ih =>
    rw [advisories, ih, placed_cons, List.filterMap_cons, List.filterMap_map]
    have hfirst : line + Text.countBreaks [] = line := rfl
    have hlater : ∀ before, line + Text.countBreaks segment.chars + Text.countBreaks before =
        line + Text.countBreaks (segment.chars ++ before) := by
      intro before
      rw [countBreaks_append, Nat.add_assoc]
    simp only [hfirst, hlater, Function.comp_def, Prod.map, id_eq]
    cases segment.advisory? line with
    | none => rfl
    | some advisory => rfl

theorem line_of_advisory? {segment : Segment} {line : Nat} {a : Advisory}
    (h : segment.advisory? line = some a) : a.line = line := by
  unfold advisory? at h
  split at h <;> cases h <;> rfl

/-- No advisory is for a line before that of the first segment. -/
theorem le_line_of_mem_advisories {segments : List Segment} {line : Nat} {a : Advisory}
    (h : a ∈ advisories line segments) : line ≤ a.line := by
  induction segments generalizing line with
  | nil => cases h
  | cons segment segments ih =>
    rw [advisories, List.mem_append, Option.mem_toList] at h
    rcases h with hfirst | hlater
    · exact Nat.le_of_eq (line_of_advisory? hfirst).symm
    · exact Nat.le_trans (Nat.le_add_right _ _) (ih hlater)

/-- The lines of advisories do not fall. -/
theorem pairwise_line_advisories (line : Nat) (segments : List Segment) :
    (advisories line segments).Pairwise (·.line ≤ ·.line) := by
  induction segments generalizing line with
  | nil => exact .nil
  | cons segment segments ih =>
    rw [advisories, List.pairwise_append]
    refine ⟨?_, ih _, fun a ha b hb => ?_⟩
    · cases segment.advisory? line with
      | none => exact .nil
      | some a => exact List.pairwise_singleton _ a
    · rw [line_of_advisory? (Option.mem_toList.1 ha)]
      exact Nat.le_trans (Nat.le_add_right _ _) (le_line_of_mem_advisories hb)

end Segment

/-- An advisory for a literal of one line. -/
def SingleLine (lexis : Lexis) (a : Advisory) : Prop :=
  ∃ (quote : Quote) (raw : Bool) (line : Nat), (quote, raw) ∈ lexis.delimiters ∧
    quote.multiline = false ∧ a = .unterminatedString quote.delimiter line

/-- A segment that something follows is left open only if it is a literal of one line. -/
theorem Segment.Fits.singleLine {lexis : Lexis} {place : Place} {segment : Segment}
    {after : List Char} (h : segment.Fits lexis place after) (hafter : after ≠ []) {line : Nat}
    {a : Advisory} (ha : segment.advisory? line = some a) : SingleLine lexis a := by
  match segment with
  | .code _ | .literal _ _ _ .delimiter | .line .. | .block _ _ true => cases ha
  | .literal quote raw body .lineBreak =>
    cases ha
    obtain ⟨hopens, -, -, -, hsingle, -⟩ := h
    exact ⟨quote, raw, line, hopens.2.mem, hsingle, rfl⟩
  | .literal quote raw body .textEnd => exact absurd h.2.2 hafter
  | .block pair body false => exact absurd h.2.after_eq_nil hafter

/-- Every advisory but the last is for a literal of one line. -/
theorem Cut.singleLine_of_mem_dropLast {lexis : Lexis} (sound : lexis.Sound) {place : Place}
    {segments : List Segment} (h : Cut lexis place segments) {line : Nat} :
    ∀ a ∈ (Segment.advisories line segments).dropLast, SingleLine lexis a := by
  induction segments generalizing place line with
  | nil =>
    intro a ha
    cases ha
  | cons segment segments ih =>
    intro a ha
    rw [Segment.advisories] at ha
    by_cases hlater : Segment.advisories (line + Text.countBreaks segment.chars) segments = []
    · -- only the advisory of this segment is left, and it is the last one
      rw [hlater, List.append_nil] at ha
      cases hfirst : segment.advisory? line with
      | none =>
        rw [hfirst] at ha
        cases ha
      | some b =>
        rw [hfirst] at ha
        cases ha
    · rw [List.dropLast_append_of_ne_nil hlater, List.mem_append, Option.mem_toList] at ha
      rcases ha with hfirst | hrest
      · refine h.1.singleLine ?_ hfirst
        intro hend
        rw [h.2.eq_nil sound hend] at hlater
        exact hlater rfl
      · exact ih h.2 a hrest

/-! ## Where the counting of lines goes on -/

namespace Cursor

/-- The offset where what is open was opened. -/
def Mode.openedAt? : Mode → Option Nat
  | .literal _ _ openedAt | .block _ _ openedAt => some openedAt
  | .code | .lineComment => none

/-- The offsets that a scan remembers lie in the order in which it came to them: the mark, then the
place where what is open was opened, then the place of the scan. -/
structure Ordered (c : Cursor) : Prop where
  mark_le : c.mark.1 ≤ c.offset
  opened : ∀ o ∈ c.mode.openedAt?, c.mark.1 ≤ o ∧ o ≤ c.offset

/-- A scan goes on and leaves its mark where it is. What is open then was open before, or is opened
here. -/
structure Advances (c next : Cursor) : Prop where
  offset_le : c.offset ≤ next.offset
  mark_eq : next.mark = c.mark
  opened : ∀ o ∈ next.mode.openedAt?, o = c.offset ∨ o ∈ c.mode.openedAt?

section
variable {lexis : Lexis} {text rest : List Char} {c next : Cursor}

theorem Ordered.advances (h : c.Ordered) (hnext : c.Advances next) : next.Ordered := by
  have hle := hnext.offset_le
  have hmark := h.mark_le
  refine ⟨?_, fun o ho => ?_⟩
  · rw [hnext.mark_eq]
    omega
  · rw [hnext.mark_eq]
    rcases hnext.opened o ho with rfl | hopen
    · exact ⟨hmark, hle⟩
    · obtain ⟨hfrom, hto⟩ := h.opened o hopen
      exact ⟨hfrom, by omega⟩

variable (c) in
theorem advances_move (bytes : Nat) {mode : Mode}
    (hmode : ∀ o ∈ mode.openedAt?, o = c.offset ∨ o ∈ c.mode.openedAt?) :
    c.Advances (c.move bytes mode) :=
  ⟨Nat.le_add_right _ _, rfl, hmode⟩

variable (c) in
theorem advances_emit (kept : List Char) (bytes : Nat) {mode : Mode}
    (hmode : ∀ o ∈ mode.openedAt?, o = c.offset ∨ o ∈ c.mode.openedAt?) :
    c.Advances ((c.emit kept).move bytes mode) :=
  ⟨Nat.le_add_right _ _, rfl, hmode⟩

variable (c) in
theorem advances_openBlock (pair : BlockPair) : c.Advances (c.openBlock pair) :=
  c.advances_move _ fun _ ho => .inl (Option.some.inj ho).symm

/-- Nothing is open in code. -/
theorem openedAt?_code {P : Nat → Prop} : ∀ o ∈ Mode.openedAt? .code, P o := by
  intro o ho
  cases ho

theorem emitChar_advances (h : c.emitChar rest = some next) : c.Advances next := by
  obtain ⟨taken, -, rfl⟩ := Option.map_eq_some_iff.1 h
  exact c.advances_emit _ _ fun _ => .inr

theorem stepCode_advances (h : c.stepCode lexis text rest = some next) : c.Advances next := by
  unfold stepCode at h
  split at h
  · cases h
    exact c.advances_openBlock _
  split at h
  · cases h
    exact c.advances_emit _ _ fun _ ho => .inl (Option.some.inj ho).symm
  split at h
  · cases h
    exact c.advances_openBlock _
  obtain ⟨before, -, h⟩ := Option.bind_eq_some_iff.1 h
  obtain ⟨found, -, h⟩ := Option.bind_eq_some_iff.1 h
  split at h
  · cases h
    exact c.advances_move _ fun o ho => nomatch ho
  · exact emitChar_advances h

/-- A scan that asks for the line of what is open moves its mark there. -/
theorem advise?_eq_some {openedAt : Nat} {advisory : Nat → Advisory} {raised : Cursor}
    (h : c.advise? text openedAt advisory = some raised) :
    raised.mark.1 = openedAt ∧ raised.offset = c.offset := by
  obtain ⟨⟨line, marked⟩, hline, rfl⟩ := Option.map_eq_some_iff.1 h
  obtain ⟨between, -, hmarked⟩ := Option.map_eq_some_iff.1 hline
  cases hmarked
  exact ⟨rfl, rfl⟩

theorem stepLiteral_ordered {quote : Quote} {raw : Bool} {openedAt : Nat}
    (hmode : c.mode = .literal quote raw openedAt) (hordered : c.Ordered)
    (h : c.stepLiteral lexis text rest quote raw openedAt = some next) : next.Ordered := by
  unfold stepLiteral at h
  split at h
  · obtain ⟨taken, -, rfl⟩ := Option.map_eq_some_iff.1 h
    exact hordered.advances (c.advances_emit _ _ fun _ => .inr)
  split at h
  · cases h
    exact hordered.advances (c.advances_emit _ _ openedAt?_code)
  split at h
  · obtain ⟨raised, hraised, rfl⟩ := Option.map_eq_some_iff.1 h
    obtain ⟨hmark, hoffset⟩ := advise?_eq_some hraised
    have hopened := (hordered.opened openedAt (by rw [hmode]; rfl)).2
    refine ⟨?_, openedAt?_code⟩
    show raised.mark.1 ≤ raised.offset + 0
    omega
  · exact hordered.advances (emitChar_advances h)

theorem stepLine_advances (hoffset : c.offset ≤ Text.size text)
    (h : c.stepLine text rest = some next) : c.Advances next := by
  unfold stepLine at h
  split at h
  · obtain ⟨line, -, h⟩ := Option.bind_eq_some_iff.1 h
    split at h
    · obtain ⟨bytes, -, rfl⟩ := Option.map_eq_some_iff.1 h
      exact c.advances_move _ openedAt?_code
    · cases h
      exact c.advances_move _ openedAt?_code
  · cases h
    exact ⟨hoffset, rfl, fun _ => .inr⟩

theorem stepBlock_advances {pair : BlockPair} {depth openedAt : Nat}
    (hmode : c.mode = .block pair depth openedAt) (hoffset : c.offset ≤ Text.size text)
    (h : c.stepBlock text rest pair depth openedAt = some next) : c.Advances next := by
  -- at every depth, what is open is the outermost level
  have hdepth : ∀ (level o : Nat), o ∈ Mode.openedAt? (.block pair level openedAt) →
      o = c.offset ∨ o ∈ c.mode.openedAt? := by
    intro level o ho
    rw [hmode]
    exact .inr ho
  unfold stepBlock at h
  split at h
  · split at h
    · cases h
      exact c.advances_move _ openedAt?_code
    · cases h
      exact ⟨hoffset, rfl, fun _ => .inr⟩
  split at h
  · split at h
    · cases h
      exact c.advances_move _ openedAt?_code
    · obtain ⟨level, -, rfl⟩ := Option.map_eq_some_iff.1 h
      exact c.advances_move _ (hdepth level)
  split at h
  · cases h
    exact c.advances_move _ (hdepth _)
  · cases h
    exact c.advances_move _ fun _ => .inr

/-- A step keeps the offsets in order. -/
theorem Ordered.step (hordered : c.Ordered) (hoffset : c.offset ≤ Text.size text)
    (h : c.step lexis text = some next) : next.Ordered := by
  obtain ⟨rest, -, h⟩ := Option.bind_eq_some_iff.1 h
  split at h
  · exact hordered.advances (stepCode_advances h)
  · next hmode => exact stepLiteral_ordered hmode hordered h
  · exact hordered.advances (stepLine_advances hoffset h)
  · next hmode => exact hordered.advances (stepBlock_advances hmode hoffset h)

/-- A run keeps the offsets in order. -/
theorem Ordered.run (hordered : c.Ordered) {steps : Nat} {last : Cursor}
    (h : c.run lexis text steps = some last) : last.Ordered := by
  induction steps generalizing c with
  | zero =>
    cases h
    exact hordered
  | succ steps ih =>
    rw [Cursor.run] at h
    split at h
    · next hlt =>
      obtain ⟨next, hstep, hrun⟩ := Option.bind_eq_some_iff.1 h
      exact ih (hordered.step (Nat.le_of_lt hlt) hstep) hrun
    · cases h
      exact hordered

theorem ordered_start : Ordered {} where
  mark_le := Nat.le_refl 0
  opened := openedAt?_code

end

/-- Whenever something is open, the mark is not behind the place where it was opened, and counting
on from the mark gives the line that counting from the start of the text would. -/
def CountsOn (text : List Char) (c : Cursor) : Prop :=
  ∀ o ∈ c.mode.openedAt?, c.mark.1 ≤ o ∧ ∃ before, Text.upTo? o text = some before ∧
    (c.lineOf? text o).map Prod.fst = some (1 + Text.countBreaks before)

end Cursor

/-- What is open was opened at a place passed on the way. -/
theorem Mode.Follows.passed {before : List Char} {mode : Mode} {cmode : Cursor.Mode}
    (h : mode.Follows before cmode) {o : Nat} (ho : o ∈ cmode.openedAt?) :
    ∃ line, Passed before o line := by
  cases h with
  | code => cases ho
  | literal hopened =>
    cases ho
    exact ⟨_, hopened⟩
  | lineComment => cases ho
  | block hopened =>
    cases ho
    exact ⟨_, hopened⟩

/-- A scan by offsets that goes along with a scan over characters finds the lines that it needs. -/
theorem Follows.countsOn {text : List Char} {s : State} {c : Cursor} (h : Follows text s c)
    (hordered : c.Ordered) : c.CountsOn text := by
  intro o ho
  refine ⟨(hordered.opened o ho).1, ?_⟩
  rcases h.mode with hmodes | ⟨-, -, hline⟩
  swap
  · rw [hline] at ho
    cases ho
  obtain ⟨line, hpassed⟩ := hmodes.passed ho
  have hfound := h.toTracks.lineOf? hpassed
  obtain ⟨before, ⟨more, hmore⟩, hoffset, hbreaks⟩ := hpassed
  refine ⟨before, ?_, ?_⟩
  · rw [← h.input, ← hmore, List.append_assoc, hoffset, Text.upTo?_size]
  · rw [hfound, ← hbreaks]
    rfl

/-! ## The advisories of a scan -/

/-- What the advisories of a scan of a text are. -/
structure ReportsExactly (lexis : Lexis) (text : List Char) : Prop where
  /-- The text has segments. -/
  parted : ∃ segments, Partition lexis text segments
  /-- Each segment that nothing closes has its advisory, in the order of the text and with the line
  of the place where the segment begins, and there is no other. -/
  exact_segments : ∀ segments, Partition lexis text segments →
    (scan lexis text).advisories =
      (Segment.placed segments).filterMap fun (before, segment) =>
        segment.advisory? (1 + Text.countBreaks before)
  /-- A scan by offsets finds the lines by counting on from its mark, at every step and in the
  end. -/
  counted : ∀ k, ∃ c : Cursor, Cursor.run lexis text k {} = some c ∧ c.CountsOn text ∧
    (c.offset = Text.size text → c.finish text = some (scan lexis text))
  /-- The lines do not fall. -/
  in_order : (scan lexis text).advisories.Pairwise (·.line ≤ ·.line)
  /-- Only the last advisory can be for a block comment or for a literal that may go over line
  breaks. -/
  single_line : ∀ a ∈ (scan lexis text).advisories.dropLast, SingleLine lexis a

/-- **Advisories are exact.** -/
theorem scan_reportsExactly {lexis : Lexis} (sound : lexis.Sound) (text : List Char) :
    ReportsExactly lexis text := by
  obtain ⟨segments, hcut, rfl⟩ := exists_cut sound ⟨[], []⟩ text
  have hscan := hcut.scan_eq sound
  refine ⟨⟨segments, hcut.partition sound⟩, ?_, fun k => ?_, ?_, ?_⟩
  · intro others hparts
    obtain ⟨hothers, htext⟩ := hparts.cut
    rw [← htext, hothers.scan_eq sound]
    exact Segment.advisories_eq_filterMap 1 others
  · obtain ⟨c, hrun, hfollows⟩ := (follows_start (Segment.text segments)).run sound trivial k
    refine ⟨c, hrun, hfollows.countsOn (Cursor.ordered_start.run hrun), fun hend => ?_⟩
    have hrest : ((State.start (Segment.text segments)).run lexis k).rest = [] := by
      by_contra hne
      have hlt := hfollows.toTracks.offset_lt_iff.2 hne
      omega
    rw [hfollows.finish, scan_eq_of_reaches sound (State.reaches_run lexis _ k) hrest]
  · rw [hscan]
    exact Segment.pairwise_line_advisories 1 segments
  · rw [hscan]
    exact hcut.singleLine_of_mem_dropLast sound

/-- Two literals that end at a line break, and a comment that is left open. -/
theorem scan_reportsExactly_haskell :
    ReportsExactly Language.haskell.lexis "\"é\nx = \"b\r\n\x7b- \x7b- -\x7d\n".toList :=
  scan_reportsExactly (by decide) _

end Decomment.Scan
