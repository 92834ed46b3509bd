import Decomment.Proofs.Scan.Covers
import Decomment.Proofs.Scan.Partition

/-!
# Scans of texts that follow each other

When a text of whole lines leaves nothing open, the scan of what follows it is the same as that of a
text of its own, a number of lines further down (`scan_append`). No token may go over a line break
for this. Then a cut of the first text stays one in front of another text, because nothing that a
scan looks for reaches over the last line feed (`Cut.append`), and a cut of the second text stays
one after the first, because a line feed before a place is as good as the start of the text
(`Cut.behind`).
-/

namespace Decomment

namespace Text

/-- A text is empty or ends in a line feed. -/
def WholeLines (text : List Char) : Prop :=
  text = [] ∨ text.getLast? = some '\n'

instance (text : List Char) : Decidable (WholeLines text) :=
  inferInstanceAs (Decidable (_ ∨ _))

theorem WholeLines.of_append {u v : List Char} (h : WholeLines (u ++ v)) : WholeLines v := by
  rcases h with h | h
  · exact .inl (List.append_eq_nil_iff.1 h).2
  · by_cases hv : v = []
    · exact .inl hv
    · rw [List.getLast?_append_of_ne_nil _ hv] at h
      exact .inr h

theorem WholeLines.mem {text : List Char} (h : WholeLines text) (hne : text ≠ []) : '\n' ∈ text :=
  List.mem_of_getLast? (h.resolve_left hne)

/-- Something follows a part without a line feed. -/
theorem WholeLines.right_ne_nil {u v : List Char} (h : WholeLines (u ++ v)) (hne : u ≠ [])
    (hu : '\n' ∉ u) : v ≠ [] := by
  rintro rfl
  rw [List.append_nil] at h
  exact hu (h.mem hne)

/-- A token without a line feed that begins before one ends before it. -/
theorem prefix_append_iff {token rest : List Char} (htoken : '\n' ∉ token) (hrest : '\n' ∈ rest)
    (more : List Char) : token <+: rest ++ more ↔ token <+: rest := by
  refine ⟨fun h => ?_, fun h => h.trans (List.prefix_append _ _)⟩
  rcases List.prefix_or_prefix_of_prefix h (List.prefix_append rest more) with hshort | hlong
  · exact hshort
  · exact absurd (hlong.subset hrest) htoken

theorem not_prefix_append {token body tail : List Char} {c : Char} (htoken : '\n' ∉ token)
    (htail : '\n' ∈ tail) (more : List Char) (h : ¬ token <+: c :: (body ++ tail)) :
    ¬ token <+: c :: (body ++ (tail ++ more)) := by
  have hmem : '\n' ∈ c :: (body ++ tail) := by simp [htail]
  rwa [← List.append_assoc, ← List.cons_append, prefix_append_iff htoken hmem]

theorem Avoids.append {pattern : String} {body tail : List Char} (hpattern : '\n' ∉ pattern.toList)
    (htail : '\n' ∈ tail) (more : List Char) (h : Avoids pattern body tail) :
    Avoids pattern body (tail ++ more) := by
  induction body with
  | nil => trivial
  | cons c body ih => exact ⟨not_prefix_append hpattern htail more h.1, ih h.2⟩

end Text

/-- No token of the rules goes over a line break, and no line marker depends on one before it. -/
def Lexis.WithinLines (lexis : Lexis) : Prop :=
  (∀ m ∈ lexis.lineMarkers, '\n' ∉ m.marker.toList ∧ '\n' ∉ m.notAfter) ∧
  (∀ entry ∈ lexis.delimiters, '\n' ∉ entry.1.delimiter.toList) ∧
  ∀ pair ∈ lexis.blocks, '\n' ∉ pair.start.toList ∧ '\n' ∉ pair.stop.toList

instance (lexis : Lexis) : Decidable lexis.WithinLines :=
  inferInstanceAs (Decidable (_ ∧ _ ∧ _))

namespace Scan

variable {lexis : Lexis}

/-! ## The last line feed of a text -/

section
variable {place : Place} {rest : List Char}

/-- Whether a marker opens a comment is settled before the next line feed. -/
theorem opensAt_append {m : LineMarker} (hmarker : '\n' ∉ m.marker.toList) (hrest : '\n' ∈ rest)
    (more : List Char) (before : Option Char) :
    m.opensAt (rest ++ more) before = m.opensAt rest before := by
  have hbegins : Text.startsWith (rest ++ more) m.marker = Text.startsWith rest m.marker := by
    rw [Bool.eq_iff_iff, Text.startsWith_iff, Text.startsWith_iff,
      Text.prefix_append_iff hmarker hrest]
  rw [LineMarker.opensAt, LineMarker.opensAt, hbegins]
  by_cases hprefix : m.marker.toList <+: rest
  swap
  · simp only [Text.startsWith_eq_false_iff.2 hprefix, Bool.false_and]
  obtain ⟨after, rfl⟩ := hprefix
  have hafter : after ≠ [] := by
    rintro rfl
    rw [List.append_nil] at hrest
    exact hmarker hrest
  rw [← String.length_toList, List.append_assoc, List.drop_left, List.drop_left,
    LineMarker.endsWord, LineMarker.endsWord, List.head?_append_of_ne_nil _ hafter]

/-- What follows after a line feed is out of sight. -/
theorem covers_append (within : lexis.WithinLines) (hrest : '\n' ∈ rest) (more : List Char) :
    Covers lexis place rest place (rest ++ more) ∧
      Covers lexis place (rest ++ more) place rest := by
  obtain ⟨hmarkers, hdelimiters, hblocks⟩ := within
  constructor
  · refine ⟨id, fun pair hpair _ => ?_, fun entry hentry => ?_, fun m hm => ?_⟩
    · exact (Text.prefix_append_iff (hblocks pair hpair).1 hrest more).1
    · exact (Text.prefix_append_iff (hdelimiters entry hentry) hrest more).1
    · rw [opensAt_append (hmarkers m hm).1 hrest]
      exact id
  · refine ⟨id, fun pair hpair _ => ?_, fun entry hentry => ?_, fun m hm => ?_⟩
    · exact (Text.prefix_append_iff (hblocks pair hpair).1 hrest more).2
    · exact (Text.prefix_append_iff (hdelimiters entry hentry) hrest more).2
    · rw [opensAt_append (hmarkers m hm).1 hrest]
      exact id

theorem Quiet.append (within : lexis.WithinLines) (hrest : '\n' ∈ rest) (more : List Char)
    (h : Quiet lexis place rest) : Quiet lexis place (rest ++ more) :=
  h.of_covers (covers_append within hrest more).1

theorem Opens.append (within : lexis.WithinLines) (hrest : '\n' ∈ rest) (more : List Char)
    {o : Opening} (h : Opens lexis place rest o) : Opens lexis place (rest ++ more) o :=
  h.of_covers (covers_append within hrest more).1 (covers_append within hrest more).2

theorem LiteralBody.append {quote : Quote} {raw : Bool} {tail body : List Char}
    (hquote : '\n' ∉ quote.delimiter.toList) (htail : '\n' ∈ tail) (more : List Char)
    (h : LiteralBody lexis quote raw tail body) :
    LiteralBody lexis quote raw (tail ++ more) body := by
  have hhead : (tail ++ more).head? = tail.head? :=
    List.head?_append_of_ne_nil _ (List.ne_nil_of_mem htail)
  refine h.of_tail hhead fun c inner hbegins => ?_
  by_contra hnone
  exact Text.not_prefix_append hquote htail more hnone hbegins

theorem Levels.append {pair : BlockPair} {tail body : List Char} {depth last : Nat}
    (hstart : '\n' ∉ pair.start.toList) (hstop : '\n' ∉ pair.stop.toList) (htail : '\n' ∈ tail)
    (more : List Char) (h : Levels pair tail depth body last) :
    Levels pair (tail ++ more) depth body last := by
  induction h with
  | nil => exact .nil
  | close _ ih => exact .close ih
  | nest hfirst _ ih =>
    refine .nest ?_ ih
    rw [← List.append_assoc, Text.prefix_append_iff hstop (List.mem_append_right _ htail)]
    exact hfirst
  | plain hclose hopen _ ih =>
    exact .plain (Text.not_prefix_append hstop htail more hclose)
      (Text.not_prefix_append hstart htail more hopen) ih

theorem BlockBody.append {pair : BlockPair} {body after : List Char}
    (hstart : '\n' ∉ pair.start.toList) (hstop : '\n' ∉ pair.stop.toList) (hafter : '\n' ∈ after)
    (more : List Char) (h : BlockBody pair body true after) :
    BlockBody pair body true (after ++ more) := by
  have htail : '\n' ∈ pair.stop.toList ++ after := List.mem_append_right _ hafter
  cases hnest : pair.nestable with
  | false =>
    simp only [BlockBody, hnest, ← List.append_assoc] at h ⊢
    exact h.append hstop htail more
  | true =>
    simp only [BlockBody, hnest, ← List.append_assoc] at h ⊢
    exact h.append hstart hstop htail more

end

/-! ## A text in front of another -/

/-- A segment that is closed raises no advisory. -/
def Segment.isClosed : Segment → Bool
  | literal _ _ _ .lineBreak | literal _ _ _ .textEnd | block _ _ false => false
  | code _ | literal _ _ _ .delimiter | line .. | block _ _ true => true

theorem Segment.advisory?_eq_none_iff {segment : Segment} {line : Nat} :
    segment.advisory? line = none ↔ segment.isClosed = true := by
  match segment with
  | code _ | literal _ _ _ .delimiter | Segment.line .. | block _ _ true =>
    simp [advisory?, isClosed]
  | literal _ _ _ .lineBreak | literal _ _ _ .textEnd | block _ _ false =>
    simp [advisory?, isClosed]

theorem Segment.advisories_eq_nil_iff {segments : List Segment} {line : Nat} :
    advisories line segments = [] ↔ ∀ segment ∈ segments, segment.isClosed = true := by
  induction segments generalizing line with
  | nil => simp [advisories]
  | cons segment segments ih =>
    rw [advisories, List.append_eq_nil_iff, ih, Option.toList_eq_nil_iff, advisory?_eq_none_iff,
      List.forall_mem_cons]

section
variable {place : Place} {after : List Char}

/-- A line feed that ends a text is code, if nothing is left open: only a segment that something
follows can be any other. -/
theorem Segment.Fits.ne_nil_or_code (sound : lexis.Sound) (within : lexis.WithinLines)
    {segment : Segment} (h : segment.Fits lexis place after) (hclosed : segment.isClosed = true)
    (hlines : Text.WholeLines (segment.chars ++ after)) :
    after ≠ [] ∨ segment = .code '\n' := by
  obtain ⟨hmarkers, hdelimiters, hblocks⟩ := within
  -- the last part of the segment holds no line feed
  have hlast : ∀ {u v : List Char}, segment.chars = u ++ v → v ≠ [] → '\n' ∉ v → after ≠ [] := by
    intro u v hchars hne hv
    rw [hchars, List.append_assoc] at hlines
    exact hlines.of_append.right_ne_nil hne hv
  match segment with
  | .code c =>
    by_cases hc : c = '\n'
    · exact .inr (by rw [hc])
    · refine .inl (hlast (List.nil_append _).symm (List.cons_ne_nil _ _) fun hmem => hc ?_)
      exact (List.mem_singleton.1 hmem).symm
  | .literal quote raw body .delimiter =>
    have hmem := h.1.2.mem
    refine .inl (hlast (List.append_assoc _ _ _).symm ?_ (hdelimiters _ hmem))
    exact Text.toList_ne_nil (sound.delimiter_ne hmem)
  | .line marker body =>
    have hmem : marker ∈ lexis.lineMarkers := h.1.listed
    refine .inl (hlast (List.nil_append _).symm (h.chars_ne_nil sound) ?_)
    rw [Segment.chars, List.mem_append, not_or]
    exact ⟨(hmarkers marker hmem).1, h.2.1⟩
  | .block pair body true =>
    have hmem : pair ∈ lexis.blocks := h.1.listed
    refine .inl (hlast (List.append_assoc _ _ _).symm ?_ (hblocks pair hmem).2)
    exact Text.toList_ne_nil (sound.stop_ne hmem)

/-- A closed segment of whole lines stays where it stands when another text follows. -/
theorem Segment.Fits.append (sound : lexis.Sound) (within : lexis.WithinLines) {segment : Segment}
    (h : segment.Fits lexis place after) (hclosed : segment.isClosed = true)
    (hlines : Text.WholeLines (segment.chars ++ after)) (more : List Char) :
    segment.Fits lexis place (after ++ more) := by
  have hfeed : '\n' ∈ segment.chars ++ after :=
    hlines.mem (List.append_ne_nil_of_left_ne_nil (h.chars_ne_nil sound) _)
  have hbehind : segment ≠ .code '\n' → '\n' ∈ after := by
    intro hne
    exact hlines.of_append.mem ((h.ne_nil_or_code sound within hclosed hlines).resolve_right hne)
  match segment with
  | .code c => exact Quiet.append within hfeed more h
  | .literal quote raw body .delimiter =>
    obtain ⟨hopens, hbody, hclose⟩ := h
    have hafter := hbehind Segment.noConfusion
    have hquote := within.2.1 _ hopens.2.mem
    refine ⟨?_, ?_, ?_⟩
    · rw [← List.append_assoc]
      exact hopens.append within hfeed more
    · rw [← List.append_assoc]
      exact hbody.append hquote (List.mem_append_right _ hafter) more
    · have hne := Text.toList_ne_nil (sound.delimiter_ne hopens.2.mem)
      obtain ⟨d, delimiter, hd⟩ := List.exists_cons_of_ne_nil hne
      have htail : delimiter ++ after ≠ [] :=
        List.append_ne_nil_of_right_ne_nil _ (List.ne_nil_of_mem hafter)
      rw [Close.Fits, hd, List.cons_append] at hclose ⊢
      exact hclose.of_tail fun hnil => absurd hnil htail
  | .line marker body =>
    obtain ⟨hopens, hbody, hends⟩ := h
    refine ⟨?_, hbody, ?_⟩
    · rw [← List.append_assoc]
      exact hopens.append within hfeed more
    · rcases hends with rfl | ⟨rest, rfl, hreturn⟩ | ⟨rest, rfl⟩
      · cases hbehind Segment.noConfusion
      · exact .inr (.inl ⟨rest ++ more, rfl, hreturn⟩)
      · exact .inr (.inr ⟨rest ++ more, rfl⟩)
  | .block pair body true =>
    obtain ⟨hopens, hbody⟩ := h
    obtain ⟨hstart, hstop⟩ := within.2.2 pair hopens.listed
    refine ⟨?_, hbody.append hstart hstop (hbehind Segment.noConfusion) more⟩
    rw [← List.append_assoc]
    exact hopens.append within hfeed more

end

/-- A cut of whole lines that leaves nothing open can be followed by any other. -/
theorem Cut.append (sound : lexis.Sound) (within : lexis.WithinLines) {place : Place}
    {segments others : List Segment} (h : Cut lexis place segments)
    (hclosed : ∀ segment ∈ segments, segment.isClosed = true)
    (hlines : Text.WholeLines (Segment.text segments))
    (hothers : Cut lexis (place.afterAll segments) others) :
    Cut lexis place (segments ++ others) := by
  induction segments generalizing place with
  | nil => simpa using hothers
  | cons segment segments ih =>
    rw [List.forall_mem_cons] at hclosed
    rw [List.cons_append]
    refine ⟨?_, ih h.2 hclosed.2 hlines.of_append ?_⟩
    · rw [Segment.text_append]
      exact h.1.append sound within hclosed.1 hlines _
    · simpa using hothers

/-- What is kept of whole lines that leave nothing open is whole lines. -/
theorem Cut.wholeLines_keptText (sound : lexis.Sound) (within : lexis.WithinLines) {place : Place}
    {segments : List Segment} (h : Cut lexis place segments)
    (hclosed : ∀ segment ∈ segments, segment.isClosed = true)
    (hlines : Text.WholeLines (Segment.text segments)) :
    Text.WholeLines (Segment.keptText segments) := by
  rcases List.eq_nil_or_concat segments with rfl | ⟨earlier, last, rfl⟩
  · exact .inl rfl
  rw [List.concat_eq_append] at *
  have hfits := h.fits
  rw [Segment.text_append, Segment.text_cons] at hlines
  have hlast := (hfits.ne_nil_or_code sound within (hclosed last (by simp))
    hlines.of_append).resolve_left (not_not_intro rfl)
  subst hlast
  refine .inr ?_
  simp [Segment.kept, Segment.isKept, Segment.chars]

/-! ## A text behind another -/

/-- After whole lines a line is blank when it is blank by itself. -/
theorem blankLine_append {lines kept : List Char} (hlines : Text.WholeLines lines) :
    BlankLine (lines ++ kept) ↔ BlankLine kept := by
  induction kept using List.reverseRecOn with
  | nil =>
    rw [List.append_nil]
    refine iff_of_true ?_ blankLine_nil
    rcases hlines with rfl | hlast
    · exact blankLine_nil
    · obtain ⟨body, rfl⟩ := List.getLast?_eq_some_iff.1 hlast
      exact blankLine_concat.2 (.inl rfl)
  | append_singleton kept c ih =>
    rw [← List.append_assoc, blankLine_concat, blankLine_concat, ih]

/-- To a marker, a line feed before it is as good as the start of the text. -/
theorem opensAt_newline {m : LineMarker} (hm : '\n' ∉ m.notAfter) (rest : List Char) :
    m.opensAt rest (some '\n') = m.opensAt rest none := by
  simp [LineMarker.opensAt, LineMarker.startsWord, hm]

theorem opensAt_behind {m : LineMarker} (hm : '\n' ∉ m.notAfter) {lines : List Char}
    (hlines : Text.WholeLines lines) (before rest : List Char) :
    m.opensAt rest (lines ++ before).getLast? = m.opensAt rest before.getLast? := by
  by_cases hbefore : before = []
  swap
  · rw [List.getLast?_append_of_ne_nil _ hbefore]
  subst hbefore
  rw [List.append_nil]
  rcases hlines with rfl | hlast
  · rfl
  · rw [hlast]
    exact opensAt_newline hm rest

section
variable {lines kept : List Char} {place : Place}

variable (place) in
/-- Whole lines before a place are out of sight. -/
theorem covers_behind (within : lexis.WithinLines) (hlines : Text.WholeLines lines)
    (hkept : Text.WholeLines kept) (rest : List Char) :
    Covers lexis place rest ⟨lines ++ place.before, kept ++ place.kept⟩ rest ∧
      Covers lexis ⟨lines ++ place.before, kept ++ place.kept⟩ rest place rest := by
  have hblank : BlankLine (kept ++ place.kept) ↔ BlankLine place.kept := blankLine_append hkept
  constructor
  · refine ⟨hblank.1, fun _ _ _ => id, fun _ _ => id, fun m hm => ?_⟩
    rw [opensAt_behind (within.1 m hm).2 hlines]
    exact id
  · refine ⟨hblank.2, fun _ _ _ => id, fun _ _ => id, fun m hm => ?_⟩
    rw [opensAt_behind (within.1 m hm).2 hlines]
    exact id

theorem Segment.Fits.behind (within : lexis.WithinLines) (hlines : Text.WholeLines lines)
    (hkept : Text.WholeLines kept) {segment : Segment} {after : List Char}
    (h : segment.Fits lexis place after) :
    segment.Fits lexis ⟨lines ++ place.before, kept ++ place.kept⟩ after := by
  obtain ⟨hcovers, hback⟩ := covers_behind place within hlines hkept (segment.chars ++ after)
  cases segment with
  | code c => exact Quiet.of_covers hcovers h
  | literal quote raw body close => exact ⟨h.1.of_covers hcovers hback, h.2⟩
  | line marker body => exact ⟨h.1.of_covers hcovers hback, h.2⟩
  | block pair body closed => exact ⟨h.1.of_covers hcovers hback, h.2⟩

/-- A cut stays one behind whole lines. -/
theorem Cut.behind (within : lexis.WithinLines) (hlines : Text.WholeLines lines)
    (hkept : Text.WholeLines kept) {segments : List Segment} (h : Cut lexis place segments) :
    Cut lexis ⟨lines ++ place.before, kept ++ place.kept⟩ segments := by
  induction segments generalizing place with
  | nil => trivial
  | cons segment segments ih =>
    refine ⟨h.1.behind within hlines hkept, ?_⟩
    simpa [Place.after] using ih h.2

end

/-! ## The scan of both -/

theorem Segment.advisories_append (line : Nat) (segments others : List Segment) :
    advisories line (segments ++ others) =
      advisories line segments ++ advisories (line + Text.countBreaks (text segments)) others := by
  induction segments generalizing line with
  | nil => rfl
  | cons segment segments ih =>
    rw [List.cons_append, advisories, advisories, ih, List.append_assoc, text_cons,
      countBreaks_append, Nat.add_assoc]

/-- The advisories of segments that begin further down are the same, further down. -/
theorem Segment.advisories_add (lines line : Nat) (segments : List Segment) :
    advisories (lines + line) segments = (advisories line segments).map (Advisory.shift lines) := by
  induction segments generalizing line with
  | nil => rfl
  | cons segment segments ih =>
    have hfirst : (segment.advisory? (lines + line)).toList =
        (segment.advisory? line).toList.map (Advisory.shift lines) := by
      match segment with
      | code _ | literal _ _ _ .delimiter | Segment.line .. | block _ _ true => rfl
      | literal _ _ _ .lineBreak | literal _ _ _ .textEnd | block _ _ false => rfl
    rw [advisories, advisories, hfirst, Nat.add_assoc, ih, List.map_append]

/-- The scan of whole lines that leave nothing open, and of what follows them. -/
theorem scan_append_of_clean (sound : lexis.Sound) (within : lexis.WithinLines) {a : List Char}
    (hlines : Text.WholeLines a) (clean : (scan lexis a).isClean = true) (b : List Char) :
    scan lexis (a ++ b) = ⟨(scan lexis a).text ++ (scan lexis b).text,
      (scan lexis b).advisories.map (Advisory.shift (Text.countBreaks a))⟩ := by
  obtain ⟨segments, hcut, rfl⟩ := exists_cut sound ⟨[], []⟩ a
  obtain ⟨others, hothers, rfl⟩ := exists_cut sound ⟨[], []⟩ b
  rw [hcut.scan_eq sound, Stripped.isClean, List.isEmpty_iff] at clean
  dsimp only at clean
  have hclosed := Segment.advisories_eq_nil_iff.1 clean
  have hkept := hcut.wholeLines_keptText sound within hclosed hlines
  have hboth : Cut lexis ⟨[], []⟩ (segments ++ others) := by
    refine hcut.append sound within hclosed hlines ?_
    simpa [Place.afterAll] using hothers.behind within hlines hkept
  rw [← Segment.text_append, hboth.scan_eq sound, hcut.scan_eq sound, hothers.scan_eq sound,
    Segment.keptText_append, Segment.advisories_append, clean, List.nil_append, Nat.add_comm 1,
    Segment.advisories_add]

/-- No token of a language known from the start goes over a line break. -/
theorem builtin_withinLines :
    ∀ language ∈ Registry.builtin.languages,
      language.lexis.Sound ∧ language.lexis.WithinLines := by
  decide

/-- **A scan starts anew on every line where nothing is open.** Under sound rules of which no token
goes over a line break, as those of all languages known from the start are, whole lines that leave
nothing open can be scanned apart from what follows: the texts that the scans keep follow each
other, and the advisories for the second text are its own, as many lines further down as the first
one has. -/
theorem scan_append :
    (∀ language ∈ Registry.builtin.languages,
      language.lexis.Sound ∧ language.lexis.WithinLines) ∧
    ∀ lexis : Lexis, lexis.Sound → lexis.WithinLines →
      ∀ a b : List Char, Text.WholeLines a → (scan lexis a).isClean = true →
        (scan lexis (a ++ b)).text = (scan lexis a).text ++ (scan lexis b).text ∧
        (scan lexis (a ++ b)).advisories =
          (scan lexis b).advisories.map (Advisory.shift (Text.countBreaks a)) := by
  refine ⟨builtin_withinLines, ?_⟩
  intro lexis sound within a b hlines clean
  rw [scan_append_of_clean sound within hlines clean b]
  exact ⟨rfl, rfl⟩

/-- A comment over two lines, and a literal behind it that is left open. -/
theorem scan_append_cStyle :
    (scan Language.cStyle.lexis ("x /*\n*/ //\r\n".toList ++ "'y".toList)).text =
        (scan Language.cStyle.lexis "x /*\n*/ //\r\n".toList).text ++
          (scan Language.cStyle.lexis "'y".toList).text ∧
      (scan Language.cStyle.lexis ("x /*\n*/ //\r\n".toList ++ "'y".toList)).advisories =
        (scan Language.cStyle.lexis "'y".toList).advisories.map
          (Advisory.shift (Text.countBreaks "x /*\n*/ //\r\n".toList)) :=
  scan_append.2 _ (by decide) (by decide) _ _ (by decide) (by decide +kernel)

end Scan

end Decomment
