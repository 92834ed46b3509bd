import Decomment.Proofs.Scan.LineEndings
import Decomment.Proofs.Text.Lines

/-!
# Line comments leave the lines of a text in place

Without block comments all that a scan takes away are ends of lines. `Uncommented` says so of a text
and of what is kept of it, character by character: a character is kept, or a marker opens and
everything up to the line break goes. The segments of a text give such a pair of texts
(`Cut.uncommented`), and read line by line it shows that each line keeps its place, its ending and
the front of its body (`Uncommented.rows_stay`). Where no literal can begin, that front ends at the
first place of the line where a marker opens (`StopsAtMarker`). `scan_rows` has both.
-/

namespace Decomment

namespace Text

variable {body after : List Char}

/-- The body of a line runs to its ending. -/
theorem Line.Proper.endsLine {line : Line} (h : line.Proper) (hend : line.ending ≠ .none)
    (rest : List Char) : EndsLine line.body (line.ending.chars ++ rest) := by
  refine ⟨h.feedless, .inr ?_⟩
  cases hending : line.ending with
  | none => exact absurd hending hend
  | lf => exact .inl ⟨rest, rfl, h.returns hending⟩
  | crlf => exact .inr ⟨rest, rfl⟩

end Text

namespace Scan

open Text (Line EndsLine rows joinLines)

/-! ## What is kept, character by character -/

/-- Some line marker opens a comment at the start of `rest`. -/
def MarkerOpens (lexis : Lexis) (before rest : List Char) : Prop :=
  ∃ m ∈ lexis.lineMarkers, m.opensAt rest before.getLast? = true

/-- `out` is `rest` without its line comments, if `before` stands before it. If the text is `bare` of
literals, every place where a marker opens counts. -/
inductive Uncommented (lexis : Lexis) (bare : Prop) :
    (before rest out : List Char) → Prop
  | nil {before : List Char} : Uncommented lexis bare before [] []
  | keep {before rest out : List Char} {c : Char} :
      (bare → ¬ MarkerOpens lexis before (c :: rest)) →
      Uncommented lexis bare (before ++ [c]) rest out →
      Uncommented lexis bare before (c :: rest) (c :: out)
  | cut {before comment rest out : List Char} : comment ≠ [] →
      MarkerOpens lexis before (comment ++ rest) → EndsLine comment rest →
      Uncommented lexis bare (before ++ comment) rest out →
      Uncommented lexis bare before (comment ++ rest) out

variable {lexis : Lexis} {bare : Prop} {before body after rest out : List Char} {c : Char}

/-- Everything may be kept of a text that is not bare of literals. -/
theorem Uncommented.append (hbare : ¬ bare) (chars : List Char)
    (h : Uncommented lexis bare (before ++ chars) rest out) :
    Uncommented lexis bare before (chars ++ rest) (chars ++ out) := by
  induction chars generalizing before with
  | nil => simpa using h
  | cons c chars ih => exact .keep (fun hb => absurd hb hbare) (ih (by simpa using h))

/-- Nothing is kept of an empty text. -/
theorem Uncommented.eq_nil (h : Uncommented lexis bare before [] out) : out = [] := by
  generalize htext : ([] : List Char) = text at h
  cases h with
  | nil => rfl
  | keep => cases htext
  | cut hne => exact absurd (List.append_eq_nil_iff.1 htext.symm).1 hne

/-- What a text begins with is kept, unless a comment begins there. -/
theorem Uncommented.keeps (h : Uncommented lexis bare before (c :: rest) out)
    (hbreak : EndsLine [] (c :: rest)) :
    ∃ later, out = c :: later ∧ Uncommented lexis bare (before ++ [c]) rest later := by
  generalize htext : c :: rest = text at h
  cases h with
  | nil => cases htext
  | keep _ hrest =>
    cases htext
    exact ⟨_, rfl, hrest⟩
  | cut hne _ hends => exact absurd (hbreak.unique hends htext).1.symm hne

/-- The ending of a line is kept. -/
theorem Uncommented.ending {ending : Text.Ending}
    (h : Uncommented lexis bare before (ending.chars ++ rest) out) :
    ∃ later, out = ending.chars ++ later ∧
      Uncommented lexis bare (before ++ ending.chars) rest later := by
  cases ending with
  | none => exact ⟨out, rfl, by simpa [Text.Ending.chars] using h⟩
  | lf => exact h.keeps ⟨by simp, .inr (.inl ⟨rest, rfl, by simp⟩)⟩
  | crlf =>
    obtain ⟨later, rfl, hfeed⟩ := h.keeps ⟨by simp, .inr (.inr ⟨rest, rfl⟩)⟩
    obtain ⟨later, rfl, hrest⟩ := hfeed.keeps ⟨by simp, .inr (.inl ⟨rest, rfl, by simp⟩)⟩
    exact ⟨later, rfl, by simpa [Text.Ending.chars] using hrest⟩

/-! ## What is kept, line by line -/

variable (lexis before body after) in
/-- A part of the body of a line ends at the first place of the line where a marker opens, or with
the body if there is none. `before` stands before the line, and `after` behind its body. -/
structure StopsAtMarker (head : List Char) : Prop where
  first : ∀ n < head.length, ¬ MarkerOpens lexis (before ++ body.take n) (body.drop n ++ after)
  stops : head = body ∨
    MarkerOpens lexis (before ++ body.take head.length) (body.drop head.length ++ after)

theorem StopsAtMarker.nil (h : body = [] ∨ MarkerOpens lexis before (body ++ after)) :
    StopsAtMarker lexis before body after [] where
  first := fun n hn => absurd hn (Nat.not_lt_zero n)
  stops := h.imp Eq.symm fun hopens => by simpa using hopens

theorem StopsAtMarker.cons {head : List Char}
    (h : StopsAtMarker lexis (before ++ [c]) body after head)
    (hc : ¬ MarkerOpens lexis before (c :: (body ++ after))) :
    StopsAtMarker lexis before (c :: body) after (c :: head) where
  first := by
    intro n hn
    cases n with
    | zero => simpa using hc
    | succ n => simpa using h.first n (Nat.lt_of_succ_lt_succ hn)
  stops := by
    rcases h.stops with rfl | hopens
    · exact .inl rfl
    · exact .inr (by simpa using hopens)

/-- Of a line the front of its body is kept. -/
theorem Uncommented.front (h : Uncommented lexis bare before (body ++ after) out)
    (hends : EndsLine body after) :
    ∃ head later, out = head ++ later ∧ head <+: body ∧
      (bare → StopsAtMarker lexis before body after head) ∧
      Uncommented lexis bare (before ++ body) after later := by
  induction body generalizing before out with
  | nil =>
    exact ⟨[], out, rfl, List.nil_prefix, fun _ => .nil (.inl rfl), by simpa using h⟩
  | cons c body ih =>
    generalize htext : c :: body ++ after = text at h
    cases h with
    | nil => cases htext
    | keep hfree hrest =>
      cases htext
      obtain ⟨head, later, rfl, hhead, hstops, hlater⟩ := ih hrest hends.tail
      refine ⟨c :: head, later, rfl, List.cons_prefix_cons.2 ⟨rfl, hhead⟩, fun hbare => ?_, ?_⟩
      · exact (hstops hbare).cons (hfree hbare)
      · simpa using hlater
    | cut _ hopens hcut hrest =>
      -- the comment runs to the same line break as the body
      obtain ⟨rfl, rfl⟩ := hends.unique hcut htext
      exact ⟨[], out, rfl, List.nil_prefix, fun _ => .nil (.inr hopens), hrest⟩

variable (lexis bare) in
/-- Each line keeps its ending and the front of its body, if `before` stands before the lines. -/
inductive RowsStay : (before : List Char) → (lines outs : List Line) → Prop
  | nil {before : List Char} : RowsStay before [] []
  | cons {before head : List Char} {line out : Line} {lines outs : List Line} :
      out.chars = head ++ line.ending.chars → head <+: line.body →
      (bare → StopsAtMarker lexis before line.body (line.ending.chars ++ joinLines lines) head) →
      RowsStay (before ++ line.chars) lines outs → RowsStay before (line :: lines) (out :: outs)

/-- **Line by line, the front of a text without its comments is what it was.** -/
theorem Uncommented.rows_stay {text : List Char} (h : Uncommented lexis bare before text out) :
    RowsStay lexis bare before (rows text) (rows out) := by
  induction text using Text.lineInduction generalizing before out with
  | last text hfeed =>
    rw [← List.append_nil text] at h
    obtain ⟨head, later, rfl, hhead, hstops, hlater⟩ := h.front ⟨hfeed, .inl rfl⟩
    have hout : '\n' ∉ head := fun hmem => hfeed (hhead.subset hmem)
    rw [hlater.eq_nil, List.append_nil, Text.rows_of_notMem hfeed, Text.rows_of_notMem hout]
    exact .cons rfl hhead hstops .nil
  | line line rest hproper hend ih =>
    rw [Line.chars, List.append_assoc] at h
    obtain ⟨head, later, rfl, hhead, hstops, hlater⟩ := h.front (hproper.endsLine hend rest)
    obtain ⟨later, rfl, hrest⟩ := hlater.ending
    have hout : '\n' ∉ head := fun hmem => hproper.feedless (hhead.subset hmem)
    have hrows : rows (head ++ (line.ending.chars ++ later)) =
        (⟨head, line.ending⟩ : Line).reread :: rows later := by
      rw [← List.append_assoc]
      exact @Text.rows_append ⟨head, line.ending⟩ hout hend later
    rw [hrows, Text.rows_append hproper.feedless hend, Line.reread_of_proper hproper]
    refine .cons (Line.chars_reread _) hhead ?_ (ih (by simpa [Line.chars] using hrest))
    rwa [Text.joinLines_rows]

theorem RowsStay.length_eq {lines outs : List Line} (h : RowsStay lexis bare before lines outs) :
    outs.length = lines.length := by
  induction h with
  | nil => rfl
  | cons _ _ _ _ ih => rw [List.length_cons, List.length_cons, ih]

theorem RowsStay.get {earlier later outs : List Line} {line : Line}
    (h : RowsStay lexis bare before (earlier ++ line :: later) outs) :
    ∃ out head, outs[earlier.length]? = some out ∧ out.chars = head ++ line.ending.chars ∧
      head <+: line.body ∧
      (bare → StopsAtMarker lexis (before ++ joinLines earlier) line.body
        (line.ending.chars ++ joinLines later) head) := by
  induction earlier generalizing before outs with
  | nil =>
    cases h with
    | cons hchars hhead hstops _ =>
      refine ⟨_, _, rfl, hchars, hhead, ?_⟩
      simpa [joinLines] using hstops
  | cons first earlier ih =>
    cases h with
    | cons _ _ _ hrest =>
      obtain ⟨out, head, hout, hchars, hhead, hstops⟩ := ih hrest
      refine ⟨out, head, by simpa using hout, hchars, hhead, ?_⟩
      simpa [joinLines] using hstops

/-! ## Segments -/

/-- The segments of a text without block comments leave it without its line comments. -/
theorem Cut.uncommented (sound : lexis.Sound) (hblocks : lexis.blocks = [])
    (hmarkers : ∀ m ∈ lexis.lineMarkers, Text.Unbroken m.marker.toList) {place : Place}
    {segments : List Segment}
    (hbare : bare → ∀ quote raw body close, Segment.literal quote raw body close ∉ segments)
    (h : Cut lexis place segments) :
    Uncommented lexis bare place.before (Segment.text segments) (Segment.keptText segments) := by
  induction segments generalizing place with
  | nil => exact .nil
  | cons segment segments ih =>
    obtain ⟨hfits, hrest⟩ := h
    have hlater := ih (fun hb quote raw body close hmem =>
      hbare hb quote raw body close (List.mem_cons_of_mem _ hmem)) hrest
    cases segment with
    | code c =>
      refine .keep (fun _ => ?_) hlater
      rintro ⟨m, hm, hopens⟩
      exact Bool.false_ne_true ((hfits.markers m hm).symm.trans hopens)
    | literal quote raw body close =>
      refine Uncommented.append (fun hb => ?_) _ hlater
      exact hbare hb quote raw body close (List.mem_cons_self ..)
    | line marker body =>
      have hcomment := hfits
      obtain ⟨hopens, hends⟩ := hfits
      obtain ⟨hmem, hmarker⟩ := hopens.2.2.2.mem
      have hne : (Segment.line marker body).chars ≠ [] := hcomment.chars_ne_nil sound
      have hunbroken := hmarkers marker hmem
      have hreturn : marker.marker.toList.getLast? ≠ some '\r' := fun hlast =>
        hunbroken.2 (List.mem_of_getLast? hlast)
      exact .cut hne ⟨marker, hmem, hmarker⟩ (hends.append_left hunbroken.1 hreturn) hlater
    | block pair body closed =>
      have hpair : pair ∈ lexis.blocks := hfits.1.listed
      rw [hblocks] at hpair
      cases hpair

/-- A text in which no delimiter occurs has no literal among its segments. -/
theorem Cut.not_literal {place : Place} {segments : List Segment} (h : Cut lexis place segments)
    (hquotes : ∀ entry ∈ lexis.delimiters, ¬ entry.1.delimiter.toList <:+: Segment.text segments)
    (quote : Quote) (raw : Bool) (body : List Char) (close : Close) :
    Segment.literal quote raw body close ∉ segments := by
  intro hmem
  obtain ⟨earlier, later, rfl⟩ := List.append_of_mem hmem
  refine hquotes (quote, raw) h.fits.1.2.mem ⟨Segment.text earlier,
    body ++ close.chars quote ++ Segment.text later, ?_⟩
  simp [Segment.chars]

/-- **Line comments leave the lines of a text in place.** Under rules without block comments, whose
markers hold no line break, a scan gives a text with as many lines as it got, and each is the front
of the body of the line that it was, with the ending of that line. If no delimiter occurs in the
text, that front ends at the first place of the line where a marker opens. -/
theorem scan_rows (sound : lexis.Sound) (hblocks : lexis.blocks = [])
    (hmarkers : ∀ m ∈ lexis.lineMarkers, Text.Unbroken m.marker.toList) (text : List Char) :
    (rows (scan lexis text).text).length = (rows text).length ∧
      ∀ earlier line later, rows text = earlier ++ line :: later →
        ∃ out head, (rows (scan lexis text).text)[earlier.length]? = some out ∧
          out.chars = head ++ line.ending.chars ∧ head <+: line.body ∧
          ((∀ entry ∈ lexis.delimiters, ¬ entry.1.delimiter.toList <:+: text) →
            StopsAtMarker lexis (joinLines earlier) line.body
              (line.ending.chars ++ joinLines later) head) := by
  obtain ⟨segments, hcut, rfl⟩ := exists_cut sound ⟨[], []⟩ text
  have hstay := (hcut.uncommented sound hblocks hmarkers hcut.not_literal).rows_stay
  rw [hcut.scan_eq sound]
  refine ⟨hstay.length_eq, fun earlier line later hrows => ?_⟩
  rw [hrows] at hstay
  simpa using hstay.get

/-- A marker inside of a word, one behind a blank, and both kinds of line breaks. -/
theorem scan_rows_shell :
    let lexis := Language.shell.lexis
    let text := "a#b #c\r\n#\n\r".toList
    let others := [⟨['#'], .lf⟩, ⟨['\r'], .none⟩]
    lexis.Sound ∧ lexis.blocks = [] ∧
      (∀ m ∈ lexis.lineMarkers, Text.Unbroken m.marker.toList) ∧
      rows text = [] ++ ⟨"a#b #c".toList, .crlf⟩ :: others ∧
      (∀ entry ∈ lexis.delimiters, ¬ entry.1.delimiter.toList <:+: text) ∧
      (rows (scan lexis text).text).length = 3 ∧
      ∃ out head, (rows (scan lexis text).text)[0]? = some out ∧
        out.chars = head ++ ['\r', '\n'] ∧ head <+: "a#b #c".toList ∧
        StopsAtMarker lexis [] "a#b #c".toList (['\r', '\n'] ++ joinLines others) head := by
  intro lexis text others
  have sound : lexis.Sound := by decide
  have hblocks : lexis.blocks = [] := rfl
  have hmarkers : ∀ m ∈ lexis.lineMarkers, Text.Unbroken m.marker.toList := by decide
  have hrows : rows text = [] ++ ⟨"a#b #c".toList, .crlf⟩ :: others := by decide
  have hquotes : ∀ entry ∈ lexis.delimiters, ¬ entry.1.delimiter.toList <:+: text := by
    have habsent : ∀ entry ∈ lexis.delimiters, entry.1.delimiter.toList.any (· ∉ text) := by decide
    intro entry hentry hoccurs
    obtain ⟨c, hc, hnot⟩ := List.any_eq_true.1 (habsent entry hentry)
    exact of_decide_eq_true hnot (hoccurs.subset hc)
  obtain ⟨hlength, hstay⟩ := scan_rows sound hblocks hmarkers text
  obtain ⟨out, head, hout, hchars, hhead, hstops⟩ := hstay [] _ _ hrows
  exact ⟨sound, hblocks, hmarkers, hrows, hquotes, by rw [hlength, hrows]; rfl,
    out, head, hout, hchars, hhead, hstops hquotes⟩

end Scan

end Decomment
