import Decomment.Proofs.Scan.Covers
import Decomment.Proofs.Scan.Partition
import Mathlib.Tactic.MkIffOfInductiveProp

/-!
# A second scan finds nothing more

Where the removal of a comment brings nothing together (`Lexis.KeepsApart`), a text without its
comments has none: `removeComments_idempotent`. The code and the literals of a text are shown to be
a cut of what is kept (`Cut.kept`); a scan of that keeps all of it. More generally this holds for
each text in which no token is put together by the removal of a block comment (`Fuses`).

At a place that is kept, the first scan saw the text with its comments and the second one sees it
without. `Cut.lookahead` says how far both agree: a token without white space that stands after the
place in what is kept stands there in the text too, since a line comment ends at white space, or a
block comment stands inside of it (`Straddles`). `Behind` says what the first one saw before the
place.
-/

namespace Decomment

namespace Text

/-! ## White space and words -/

/-- No character belongs to two classes whose ranges lie apart. -/
theorem CharClass.not_contains_of_apart {ranges others : CharClass} {c : Char}
    (apart : ∀ range ∈ ranges, ∀ other ∈ others, range.2 < other.1 ∨ other.2 < range.1)
    (h : ranges.contains c = true) : others.contains c = false := by
  rw [← Bool.not_eq_true, CharClass.contains_iff]
  rintro ⟨other, hother, hfirst, hlast⟩
  obtain ⟨range, hrange, hfrom, hto⟩ := CharClass.contains_iff.1 h
  have := apart range hrange other hother
  omega

/-- White space is not part of a word. -/
theorem isWordChar_eq_false_of_isBlank {c : Char} (h : isBlank c = true) :
    isWordChar c = false := by
  have hletter : isAlphanumeric c = false :=
    CharClass.not_contains_of_apart (by decide +kernel) h
  have hline : c ≠ '_' := by
    rintro rfl
    cases h
  rw [isWordChar, hletter, Bool.false_or, beq_eq_false_iff_ne]
  exact hline

/-- A word does not start after a character of a word. -/
theorem startsWord_of_isWordChar {c : Char} (h : isWordChar c = true) :
    LineMarker.startsWord (some c) = false := by
  have hblank : isBlank c = false := by
    rw [← Bool.not_eq_true]
    intro hblank
    rw [isWordChar_eq_false_of_isBlank hblank] at h
    cases h
  have hbreaks : LineMarker.wordBreaks.all (!isWordChar ·) = true := by decide +kernel
  have hbreak : c ∉ LineMarker.wordBreaks := by
    intro hmem
    have hnot := List.all_eq_true.1 hbreaks c hmem
    rw [h] at hnot
    cases hnot
  simp [LineMarker.startsWord, hblank, hbreak]

/-- None of the characters is white space. -/
def Solid (token : List Char) : Prop :=
  ∀ c ∈ token, isBlank c = false

instance (token : List Char) : Decidable (Solid token) :=
  List.decidableBAll (isBlank · = false) token

theorem Solid.not_isBlank {token : List Char} (h : Solid token) {c : Char} (hc : c ∈ token) :
    ¬ isBlank c = true := by
  rw [h c hc]
  decide

end Text

/-- Rules under which the removal of a comment brings nothing together that was apart: block
comments stand at the start of a line, tokens are free of white space, and what a line marker asks
of the characters around it is not answered by a comment. -/
@[mk_iff] structure Lexis.KeepsApart (lexis : Lexis) : Prop where
  anchored : ∀ pair ∈ lexis.blocks, pair.lineStart = true
  markers : ∀ m ∈ lexis.lineMarkers, Text.Solid m.marker.toList
  delimiters : ∀ entry ∈ lexis.delimiters, Text.Solid entry.1.delimiter.toList
  starts : ∀ pair ∈ lexis.blocks, Text.Solid pair.start.toList
  words : (∀ m ∈ lexis.lineMarkers, m.standalone = false) ∨
    ∀ m ∈ lexis.lineMarkers, m.marker.toList.head?.any Text.isWordChar = true → m.standalone = true
  stops : lexis.blocks ≠ [] → (∀ m ∈ lexis.lineMarkers, m.standalone = false) ∧
    ∀ m ∈ lexis.lineMarkers, ∀ pair ∈ lexis.blocks,
      pair.stop.toList.getLast?.any m.notAfter.contains = false

instance (lexis : Lexis) : Decidable lexis.KeepsApart :=
  decidable_of_iff _ (Lexis.keepsApart_iff lexis).symm

/-- Rules under which the removal of a comment brings nothing together but parts of a token: block
comments may stand anywhere. -/
@[mk_iff] structure Lexis.Steady (lexis : Lexis) : Prop where
  markers : ∀ m ∈ lexis.lineMarkers, Text.Solid m.marker.toList
  delimiters : ∀ entry ∈ lexis.delimiters, Text.Solid entry.1.delimiter.toList
  starts : ∀ pair ∈ lexis.blocks, Text.Solid pair.start.toList
  words : (∀ m ∈ lexis.lineMarkers, m.standalone = false) ∨
    ∀ m ∈ lexis.lineMarkers, m.marker.toList.head?.any Text.isWordChar = true → m.standalone = true
  stops : lexis.blocks ≠ [] → (∀ m ∈ lexis.lineMarkers, m.standalone = false) ∧
    ∀ m ∈ lexis.lineMarkers, ∀ pair ∈ lexis.blocks,
      pair.stop.toList.getLast?.any m.notAfter.contains = false

instance (lexis : Lexis) : Decidable lexis.Steady :=
  decidable_of_iff _ (Lexis.steady_iff lexis).symm

theorem Lexis.KeepsApart.steady {lexis : Lexis} (apart : lexis.KeepsApart) : lexis.Steady where
  markers := apart.markers
  delimiters := apart.delimiters
  starts := apart.starts
  words := apart.words
  stops := apart.stops

/-! ## Tokens without white space -/

namespace Text

/-- A token without white space that begins before white space ends before it. -/
theorem Solid.begins_before {token before after : List Char} {c : Char} (h : Solid token)
    (hc : isBlank c = true) (hbegins : token <+: before ++ c :: after) : token <+: before := by
  have hnot : c ∉ token := fun hmem => h.not_isBlank hmem hc
  have hupto : before ++ [c] <+: before ++ c :: after := by
    rw [List.prefix_append_right_inj]
    exact List.prefix_append [c] after
  rcases List.prefix_or_prefix_of_prefix hbegins hupto with hshort | hlong
  · rcases List.prefix_concat_iff.1 hshort with rfl | hbefore
    · simp at hnot
    · exact hbefore
  · exact absurd (hlong.subset (by simp)) hnot

end Text

namespace Scan

variable {lexis : Lexis}

/-- A line with a token on it is not blank. -/
theorem not_blankLine_append {kept token : List Char} (h : Text.Solid token) (hne : token ≠ []) :
    ¬ BlankLine (kept ++ token) := by
  obtain ⟨start, c, rfl⟩ := (List.eq_nil_or_concat token).resolve_left hne
  rw [List.concat_eq_append] at h ⊢
  have hc : ¬ Text.isBlank c = true := h.not_isBlank (by simp)
  rw [← List.append_assoc, blankLine_concat]
  rintro (rfl | ⟨-, hblank⟩)
  · exact hc rfl
  · exact hc hblank

theorem token_solid (steady : lexis.Steady) {o : Opening} (h : Listed lexis o) :
    Text.Solid o.token.toList := by
  cases o with
  | block pair => exact steady.starts pair h
  | literal quote raw => exact steady.delimiters (quote, raw) h
  | line marker => exact steady.markers marker h

/-- Nothing opens at white space. -/
theorem Opens.not_isBlank (sound : lexis.Sound) (steady : lexis.Steady) {place : Place}
    {c : Char} {rest : List Char} {o : Opening} (h : Opens lexis place (c :: rest) o) :
    ¬ Text.isBlank c = true := by
  obtain ⟨d, token, htoken⟩ := List.exists_cons_of_ne_nil (h.listed.token_ne_nil sound)
  have hbegins := h.token_prefix
  rw [htoken, List.cons_prefix_cons] at hbegins
  refine (token_solid steady h.listed).not_isBlank ?_
  rw [htoken, hbegins.1]
  exact List.mem_cons_self ..

/-- White space in code is a segment of its own. -/
theorem Cut.code_of_isBlank (sound : lexis.Sound) (steady : lexis.Steady) {place : Place}
    {segments : List Segment} (h : Cut lexis place segments) {c : Char} {rest : List Char}
    (htext : Segment.text segments = c :: rest) (hc : Text.isBlank c = true) :
    ∃ later, segments = .code c :: later ∧ Segment.text later = rest := by
  cases segments with
  | nil => cases htext
  | cons segment later =>
    have hopens : ∀ {o : Opening},
        ¬ Opens lexis place (segment.chars ++ Segment.text later) o := by
      intro o ho
      rw [← Segment.text_cons, htext] at ho
      exact ho.not_isBlank sound steady hc
    cases segment with
    | code d =>
      obtain ⟨rfl, hrest⟩ := List.cons.inj htext
      exact ⟨later, rfl, hrest⟩
    | literal quote raw body close => exact absurd h.1.1 hopens
    | line marker body => exact absurd h.1.1 hopens
    | block pair body closed => exact absurd h.1.1 hopens

theorem Segment.keptText_eq_nil {segments : List Segment} (h : text segments = []) :
    keptText segments = [] := by
  rw [keptText_eq_text_filter, text, List.flatMap_eq_nil_iff]
  rw [text, List.flatMap_eq_nil_iff] at h
  exact fun segment hsegment => h segment (List.mem_of_mem_filter hsegment)

/-- Where white space or the end of the text follows, it follows in what is kept too. -/
theorem Cut.head?_keptText (sound : lexis.Sound) (steady : lexis.Steady) {place : Place}
    {segments : List Segment} (h : Cut lexis place segments)
    (hblank : ∀ c ∈ (Segment.text segments).head?, Text.isBlank c = true) :
    (Segment.keptText segments).head? = (Segment.text segments).head? := by
  cases htext : Segment.text segments with
  | nil => rw [Segment.keptText_eq_nil htext]
  | cons c rest =>
    obtain ⟨later, rfl, -⟩ := h.code_of_isBlank sound steady htext (hblank c (by rw [htext]; rfl))
    rfl

theorem head?_isBlank_of_endsLine {body after : List Char} (h : Text.EndsLine body after) :
    ∀ c ∈ after.head?, Text.isBlank c = true := by
  rintro c hc
  rcases h.2 with rfl | ⟨rest, rfl, -⟩ | ⟨rest, rfl⟩
  · cases hc
  · cases hc
    rfl
  · cases hc
    rfl

/-! ## What follows a place -/

/-- A text begins with a token, and behind that with the same character as another text, or with a
line comment, or else there are block comments. -/
def Ahead (lexis : Lexis) (before text token rest : List Char) : Prop :=
  ∃ more, text = token ++ more ∧
    (more.head? = rest.head? ∨
      (∃ m ∈ lexis.lineMarkers, m.opensAt more (before ++ token).getLast? = true) ∨
      lexis.blocks ≠ [])

theorem Ahead.append_left {before text token rest chars : List Char}
    (h : Ahead lexis (before ++ chars) text token rest) :
    Ahead lexis before (chars ++ text) (chars ++ token) rest := by
  obtain ⟨more, rfl, hbehind⟩ := h
  rw [List.append_assoc before] at hbehind
  exact ⟨more, (List.append_assoc _ _ _).symm, hbehind⟩

/-- A block comment stands inside of a token: the segments in front of the comment are kept and
begin the token, and what is kept behind the comment goes on with it. -/
def Straddles (token : List Char) (segments : List Segment) : Prop :=
  ∃ (part : List Segment) (pair : BlockPair) (body : List Char) (closed : Bool)
    (later : List Segment) (tail : List Char),
    segments = part ++ .block pair body closed :: later ∧
    (∀ segment ∈ part, segment.isKept = true) ∧
    token = Segment.text part ++ tail ∧ tail ≠ [] ∧ tail <+: Segment.keptText later

theorem Straddles.append_left {token : List Char} {segments : List Segment}
    (h : Straddles token segments) {segment : Segment} (hisKept : segment.isKept = true) :
    Straddles (segment.chars ++ token) (segment :: segments) := by
  obtain ⟨part, pair, body, closed, later, tail, rfl, hpart, rfl, htail⟩ := h
  refine ⟨segment :: part, pair, body, closed, later, tail, rfl, ?_, ?_, htail⟩
  · rw [List.forall_mem_cons]
    exact ⟨hisKept, hpart⟩
  · rw [Segment.text_cons, List.append_assoc]

/-- **How far a scan can look ahead in what is kept.** A token without white space that what is kept
begins with stands in the text as well, if no block comment stands inside of it. The character
behind it is the same, or a comment begins there. -/
theorem Cut.lookahead (sound : lexis.Sound) (steady : lexis.Steady) {place : Place}
    {segments : List Segment} (h : Cut lexis place segments) {token rest : List Char}
    (htoken : Text.Solid token) (hkept : Segment.keptText segments = token ++ rest) :
    Ahead lexis place.before (Segment.text segments) token rest ∨ Straddles token segments := by
  induction segments generalizing place token with
  | nil =>
    obtain ⟨rfl, rfl⟩ := List.append_eq_nil_iff.1 hkept.symm
    exact .inl ⟨[], rfl, .inl rfl⟩
  | cons segment later ih =>
    cases hisKept : segment.isKept with
    | true =>
      rw [Segment.keptText_cons, Segment.kept_of_isKept hisKept] at hkept
      -- a token that goes on behind the segment
      have hpast : ∀ token' : List Char, token = segment.chars ++ token' →
          Segment.keptText later = token' ++ rest →
          Ahead lexis place.before (Segment.text (segment :: later)) token rest ∨
            Straddles token (segment :: later) := by
        rintro token' rfl hlater
        have htail : Text.Solid token' := fun c hc => htoken c (List.mem_append_right _ hc)
        exact (ih h.2 htail hlater).imp Ahead.append_left (·.append_left hisKept)
      rcases List.append_eq_append_iff.1 hkept with ⟨token', htok, hlater⟩ | ⟨inner, hchars, hrest⟩
      · exact hpast token' htok hlater
      by_cases hinner : inner = []
      · subst hinner
        rw [List.append_nil] at hchars
        exact hpast [] (by rw [hchars, List.append_nil]) hrest.symm
      · refine .inl ⟨inner ++ Segment.text later, ?_, .inl ?_⟩
        · rw [Segment.text_cons, hchars, List.append_assoc]
        · rw [hrest, List.head?_append_of_ne_nil _ hinner, List.head?_append_of_ne_nil _ hinner]
    | false =>
      rw [Segment.keptText_cons, Segment.kept_of_removed hisKept, List.nil_append] at hkept
      cases segment with
      | code c => cases hisKept
      | literal quote raw body close => cases hisKept
      | line marker body =>
        -- a line comment ends at white space, so the token has ended before it
        have hhead := h.2.head?_keptText sound steady (head?_isBlank_of_endsLine h.1.2)
        cases token with
        | nil =>
          refine .inl ⟨_, rfl, .inr (.inl ⟨marker, h.1.1.listed, ?_⟩)⟩
          rw [List.append_nil]
          exact h.1.1.2.2.2.mem.2
        | cons c token =>
          rw [hkept] at hhead
          have hblank := head?_isBlank_of_endsLine h.1.2 c hhead.symm
          exact absurd hblank (htoken.not_isBlank (List.mem_cons_self ..))
      | block pair body closed =>
        by_cases hempty : token = []
        · subst hempty
          exact .inl ⟨_, rfl, .inr (.inr (List.ne_nil_of_mem h.1.1.listed))⟩
        · refine .inr ⟨[], pair, body, closed, later, token, rfl, ?_, rfl, hempty, ?_⟩
          · intro segment hsegment
            cases hsegment
          · exact ⟨rest, hkept.symm⟩

/-- A token of the rules is put together by the removal of a block comment: it begins at a segment
that is kept, and the comment stands inside of it. -/
def Fuses (lexis : Lexis) (segments : List Segment) : Prop :=
  ∃ (o : Opening) (before : List Segment) (first : Segment) (rest : List Segment),
    Listed lexis o ∧ segments = before ++ first :: rest ∧ first.isKept = true ∧
    Straddles o.token.toList (first :: rest)

theorem Fuses.cons {segments : List Segment} (h : Fuses lexis segments) (segment : Segment) :
    Fuses lexis (segment :: segments) := by
  obtain ⟨o, before, first, rest, ho, rfl, hfirst⟩ := h
  exact ⟨o, segment :: before, first, rest, ho, rfl, hfirst⟩

/-- Where a token is put together, it is parted by a block comment that the scan found: the segments
in front of the comment begin the token. -/
theorem Cut.of_fuses (sound : lexis.Sound) {place : Place} {segments : List Segment}
    (h : Cut lexis place segments) (hfuses : Fuses lexis segments) :
    ∃ (o : Opening) (start : Place) (first : Segment) (more : List Segment) (pair : BlockPair)
      (body : List Char) (closed : Bool) (later : List Segment) (tail : List Char),
      Listed lexis o ∧ Cut lexis start (first :: more ++ .block pair body closed :: later) ∧
      (∀ segment ∈ first :: more, segment.isKept = true) ∧
      o.token.toList = Segment.text (first :: more) ++ tail ∧ first.chars ≠ [] ∧ tail ≠ [] ∧
      tail <+: Segment.keptText later := by
  obtain ⟨o, before, first, rest, ho, rfl, hfirst, part, pair, body, closed, later, tail, hsplit,
    hpart, htoken, htail⟩ := hfuses
  have hcut := h.drop
  cases part with
  | nil =>
    -- the comment is not kept, but the first segment is
    obtain ⟨rfl, -⟩ := List.cons.inj hsplit
    cases hfirst
  | cons head more =>
    rw [hsplit] at hcut
    have hne : head.chars ≠ [] := hcut.1.chars_ne_nil sound
    exact ⟨o, _, head, more, pair, body, closed, later, tail, ho, hcut, hpart, htoken, hne, htail⟩

/-- Where block comments stand at the start of a line, none stands inside of a token. -/
theorem Cut.not_fuses (sound : lexis.Sound) (apart : lexis.KeepsApart) {place : Place}
    {segments : List Segment} (h : Cut lexis place segments) : ¬ Fuses lexis segments := by
  intro hfuses
  obtain ⟨o, start, first, more, pair, body, closed, later, tail, ho, hcut, hkept, htoken, hne,
    -⟩ := h.of_fuses sound hfuses
  obtain ⟨hblock, hline⟩ := hcut.fits.1
  rw [if_pos (apart.anchored pair hblock.mem.1), Place.afterAll,
    Segment.keptText_eq_text hkept] at hline
  have hsolid : Text.Solid (Segment.text (first :: more)) := by
    intro c hc
    refine token_solid apart.steady ho c ?_
    rw [htoken]
    exact List.mem_append_left _ hc
  refine not_blankLine_append hsolid ?_ hline
  rw [Segment.text_cons]
  exact List.append_ne_nil_of_left_ne_nil hne _

/-! ## What stands before a place -/

/-- What a marker at the place can see of the text before it: the character that was kept last, or
the end of a block comment. Before white space there is no marker. -/
def Behind (lexis : Lexis) (place : Place) (rest : List Char) : Prop :=
  place.before.getLast? = place.kept.getLast? ∨
    (∀ c ∈ rest.head?, Text.isBlank c = true) ∨
    ∃ pair ∈ lexis.blocks, place.before.getLast? = pair.stop.toList.getLast?

/-- So it is after every segment. -/
theorem Segment.Fits.behind_after (sound : lexis.Sound) {place : Place} {segment : Segment}
    {after : List Char} (h : segment.Fits lexis place after) :
    Behind lexis (place.after segment) after := by
  have hne := h.chars_ne_nil sound
  have hkept : segment.isKept = true → Behind lexis (place.after segment) after := by
    intro hisKept
    left
    rw [Place.after, Segment.kept_of_isKept hisKept, List.getLast?_append_of_ne_nil _ hne,
      List.getLast?_append_of_ne_nil _ hne]
  cases segment with
  | code c => exact hkept rfl
  | literal quote raw body close => exact hkept rfl
  | line marker body => exact .inr (.inl (head?_isBlank_of_endsLine h.2))
  | block pair body closed =>
    cases closed with
    | true =>
      refine .inr (.inr ⟨pair, h.1.listed, ?_⟩)
      have hstop := Text.toList_ne_nil (sound.stop_ne h.1.listed)
      rw [Place.after, List.getLast?_append_of_ne_nil _ hne, Segment.chars, ← List.append_assoc,
        List.getLast?_append_of_ne_nil _ hstop]
    | false =>
      right
      left
      rw [h.2.after_eq_nil]
      intro c hc
      cases hc

/-! ## What the second scan sees -/

/-- When a marker opens a comment where its text stands. -/
theorem opensAt_iff {m : LineMarker} {after : List Char} {before : Option Char} :
    m.opensAt (m.marker.toList ++ after) before = true ↔
      before.any m.notAfter.contains = false ∧
      (m.standalone = true →
        LineMarker.startsWord before = true ∧ m.endsWord after = true) := by
  have hbegins : Text.startsWith (m.marker.toList ++ after) m.marker = true :=
    Text.startsWith_iff.2 (List.prefix_append _ _)
  rw [LineMarker.opensAt, hbegins, ← String.length_toList, List.drop_left, Bool.true_and,
    Bool.and_eq_true, Bool.not_eq_true']
  cases m.standalone with
  | true => simp
  | false => simp

/-- A marker that is a whole word in what is kept is one in the text: a line comment directly behind
it would begin inside of the word, and where there are block comments no marker has to be a word. -/
theorem endsWord_of_ahead (sound : lexis.Sound) (steady : lexis.Steady) {m : LineMarker}
    (hm : m ∈ lexis.lineMarkers) (hstandalone : m.standalone = true) {before : List Char}
    {more rest : List Char} (hends : m.endsWord rest = true)
    (hbehind : more.head? = rest.head? ∨
      (∃ other ∈ lexis.lineMarkers,
        other.opensAt more (before ++ m.marker.toList).getLast? = true) ∨
      lexis.blocks ≠ []) :
    m.endsWord more = true := by
  rcases hbehind with hhead | ⟨other, hother, hopens⟩ | hblocks
  · rwa [LineMarker.endsWord, hhead]
  swap
  · rw [(steady.stops hblocks).1 m hm] at hstandalone
    cases hstandalone
  rw [LineMarker.endsWord, Bool.not_eq_true', Bool.and_eq_false_iff]
  by_contra hword
  simp only [not_or, Bool.not_eq_false] at hword
  obtain ⟨hlast, hfirst⟩ := hword
  -- the character before the other marker is the last one of the word
  obtain ⟨c, hc, hwordChar⟩ := (Option.any_eq_true _ _).1 hlast
  have hne := Text.toList_ne_nil (sound.marker_ne hm)
  rw [List.getLast?_append_of_ne_nil _ hne, hc] at hopens
  -- and the other marker begins with a character of a word, so it has to stand alone
  obtain ⟨after, rfl⟩ := Text.startsWith_iff.1 (LineMarker.startsWith_of_opensAt hopens)
  have hotherNe := Text.toList_ne_nil (sound.marker_ne hother)
  rw [List.head?_append_of_ne_nil _ hotherNe] at hfirst
  have hotherAlone : other.standalone = true := by
    rcases steady.words with hnone | hwords
    · rw [hnone m hm] at hstandalone
      cases hstandalone
    · exact hwords other hother hfirst
  have hstarts := ((opensAt_iff.1 hopens).2 hotherAlone).1
  rw [Text.startsWord_of_isWordChar hwordChar] at hstarts
  cases hstarts

/-- At a segment that is kept, whatever the second scan finds was there for the first one. -/
theorem Cut.covers_kept (sound : lexis.Sound) (steady : lexis.Steady) {place : Place}
    {segment : Segment} {later : List Segment} (h : Cut lexis place (segment :: later))
    (hisKept : segment.isKept = true) (hseam : ¬ Fuses lexis (segment :: later))
    (hbehind : Behind lexis place (segment.chars ++ Segment.text later)) :
    Covers lexis place (segment.chars ++ Segment.text later) ⟨place.kept, place.kept⟩
      (segment.chars ++ Segment.keptText later) := by
  have hkept : Segment.keptText (segment :: later) = segment.chars ++ Segment.keptText later := by
    rw [Segment.keptText_cons, Segment.kept_of_isKept hisKept]
  have hahead : ∀ {o : Opening} {rest : List Char}, Listed lexis o →
      o.token.toList ++ rest = segment.chars ++ Segment.keptText later →
      Ahead lexis place.before (segment.chars ++ Segment.text later) o.token.toList rest := by
    intro o rest ho hrest
    refine (h.lookahead sound steady (token_solid steady ho)
      (hkept.trans hrest.symm)).resolve_right fun hstraddles => ?_
    exact hseam ⟨o, [], segment, later, ho, rfl, hisKept, hstraddles⟩
  have hbegins : ∀ {o : Opening}, Listed lexis o →
      o.token.toList <+: segment.chars ++ Segment.keptText later →
      o.token.toList <+: segment.chars ++ Segment.text later := by
    rintro o ho ⟨rest, hrest⟩
    obtain ⟨more, hmore, -⟩ := hahead ho hrest
    exact ⟨more, hmore.symm⟩
  refine ⟨id, ?_, ?_, ?_⟩
  · exact fun pair hpair _ => hbegins (o := .block pair) hpair
  · exact fun entry hentry => hbegins (o := .literal entry.1 entry.2) hentry
  intro m hm hopens
  have hsolid := steady.markers m hm
  obtain ⟨rest, hrest⟩ := Text.startsWith_iff.1 (LineMarker.startsWith_of_opensAt hopens)
  obtain ⟨more, hmore, hheads⟩ :
      Ahead lexis place.before (segment.chars ++ Segment.text later) m.marker.toList rest :=
    hahead (o := .line m) hm hrest
  rw [← hrest, opensAt_iff] at hopens
  obtain ⟨hnot, halone⟩ := hopens
  rw [hmore] at hbehind ⊢
  rw [opensAt_iff]
  rcases hbehind with hsame | hblank | ⟨pair, hpair, hstop⟩
  · rw [hsame]
    exact ⟨hnot, fun hstandalone => ⟨(halone hstandalone).1,
      endsWord_of_ahead sound steady hm hstandalone (halone hstandalone).2 hheads⟩⟩
  · -- no marker stands at white space
    obtain ⟨c, token, hc⟩ :=
      List.exists_cons_of_ne_nil (Text.toList_ne_nil (sound.marker_ne hm))
    rw [hc] at hblank hsolid
    exact absurd (hblank c rfl) (hsolid.not_isBlank (List.mem_cons_self ..))
  · obtain ⟨hwords, hnever⟩ := steady.stops (List.ne_nil_of_mem hpair)
    rw [hstop]
    refine ⟨hnever m hm pair hpair, fun hstandalone => ?_⟩
    rw [hwords m hm] at hstandalone
    cases hstandalone

/-! ## The end of a literal -/

theorem exists_of_startsWithBreak {text : List Char} (h : Text.startsWithBreak text = true) :
    ∃ rest, text = '\n' :: rest ∨ text = '\r' :: '\n' :: rest := by
  unfold Text.startsWithBreak at h
  split at h
  · next rest => exact ⟨rest, .inl rfl⟩
  · next rest => exact ⟨rest, .inr rfl⟩
  · cases h

/-- A line break in code is kept. -/
theorem Cut.startsWithBreak_keptText (sound : lexis.Sound) (steady : lexis.Steady)
    {place : Place} {segments : List Segment} (h : Cut lexis place segments)
    (hbreak : Text.startsWithBreak (Segment.text segments) = true) :
    Text.startsWithBreak (Segment.keptText segments) = true := by
  obtain ⟨rest, htext | htext⟩ := exists_of_startsWithBreak hbreak
  · obtain ⟨later, rfl, -⟩ := h.code_of_isBlank sound steady htext rfl
    rfl
  · obtain ⟨later, rfl, hlater⟩ := h.code_of_isBlank sound steady htext rfl
    obtain ⟨others, rfl, -⟩ := h.2.code_of_isBlank sound steady hlater rfl
    rfl

/-- A line break begins with white space. -/
theorem exists_isBlank_of_startsWithBreak {text : List Char}
    (h : Text.startsWithBreak text = true) :
    ∃ c rest, text = c :: rest ∧ Text.isBlank c = true := by
  obtain ⟨rest, rfl | rfl⟩ := exists_of_startsWithBreak h
  · exact ⟨'\n', rest, rfl, rfl⟩
  · exact ⟨'\r', '\n' :: rest, rfl, rfl⟩

section
variable {place : Place} {later : List Segment} {quote : Quote} {raw : Bool} {close : Close}

/-- What ends a literal in the text ends it in what is kept. -/
theorem Cut.close_kept (sound : lexis.Sound) (steady : lexis.Steady)
    (h : Cut lexis place later) (hquote : (quote, raw) ∈ lexis.delimiters)
    (hclose : close.Fits lexis quote raw (Segment.text later)) :
    close.Fits lexis quote raw (Segment.keptText later) := by
  obtain ⟨d, delimiter, hd⟩ :=
    List.exists_cons_of_ne_nil (Text.toList_ne_nil (sound.delimiter_ne hquote))
  cases close with
  | delimiter =>
    rw [Close.Fits, hd, List.cons_append] at hclose ⊢
    refine hclose.of_tail fun hnil => ?_
    rw [List.append_eq_nil_iff] at hnil ⊢
    exact ⟨hnil.1, Segment.keptText_eq_nil hnil.2⟩
  | lineBreak =>
    obtain ⟨hescape, -, hsingle, hbreak⟩ := hclose
    obtain ⟨c, rest, htext, hc⟩ := exists_isBlank_of_startsWithBreak hbreak
    obtain ⟨others, rfl, -⟩ := h.code_of_isBlank sound steady htext hc
    refine ⟨?_, ?_, hsingle, h.startsWithBreak_keptText sound steady hbreak⟩
    · exact hescape.of_tail Segment.keptText_eq_nil
    · intro hbegins
      have hnil : quote.delimiter.toList <+: [] :=
        (steady.delimiters _ hquote).begins_before hc hbegins
      rw [List.prefix_nil, hd] at hnil
      cases hnil
  | textEnd => exact Segment.keptText_eq_nil hclose

/-- What stands inside of a literal in the text stands inside of it in what is kept. -/
theorem Cut.body_kept (sound : lexis.Sound) (steady : lexis.Steady)
    (h : Cut lexis place later) (hquote : (quote, raw) ∈ lexis.delimiters)
    (hclose : close.Fits lexis quote raw (Segment.text later)) {body : List Char}
    (hbody : LiteralBody lexis quote raw (close.chars quote ++ Segment.text later) body) :
    LiteralBody lexis quote raw (close.chars quote ++ Segment.keptText later) body := by
  cases close with
  | delimiter =>
    have hne := Text.toList_ne_nil (sound.delimiter_ne hquote)
    refine hbody.of_tail ?_ fun c inner hbegins => ?_
    · rw [Close.chars, List.head?_append_of_ne_nil _ hne, List.head?_append_of_ne_nil _ hne]
    · -- a delimiter that begins inside of the literal ends before the one that closes it does
      have hsplit : ∀ after : List Char, c :: (inner ++ (quote.delimiter.toList ++ after)) =
          (c :: inner ++ quote.delimiter.toList) ++ after := by simp
      rw [Close.chars, hsplit] at hbegins ⊢
      have hlength : quote.delimiter.toList.length ≤
          (c :: inner ++ quote.delimiter.toList).length := by
        rw [List.length_append]
        omega
      have hinside := List.prefix_of_prefix_length_le hbegins (List.prefix_append _ _) hlength
      exact hinside.trans (List.prefix_append _ _)
  | lineBreak =>
    have hbreak := hclose.2.2.2
    obtain ⟨c, rest, htext, hc⟩ := exists_isBlank_of_startsWithBreak hbreak
    obtain ⟨others, rfl, -⟩ := h.code_of_isBlank sound steady htext hc
    refine hbody.of_tail rfl fun d inner hbegins => ?_
    have hinside : quote.delimiter.toList <+: d :: inner :=
      (steady.delimiters _ hquote).begins_before hc hbegins
    exact hinside.trans (List.prefix_append _ _)
  | textEnd =>
    have hend : Segment.text later = [] := hclose
    rwa [Segment.keptText_eq_nil hend, ← hend]

end

/-! ## The second scan -/

/-- A segment that is kept fits where it stands in what is kept. -/
theorem Cut.fits_kept (sound : lexis.Sound) (steady : lexis.Steady) {place : Place}
    {segment : Segment} {later : List Segment} (h : Cut lexis place (segment :: later))
    (hisKept : segment.isKept = true) (hseam : ¬ Fuses lexis (segment :: later))
    (hbehind : Behind lexis place (segment.chars ++ Segment.text later)) :
    segment.Fits lexis ⟨place.kept, place.kept⟩ (Segment.keptText later) := by
  have hcovers := h.covers_kept sound steady hisKept hseam hbehind
  obtain ⟨hfits, hlater⟩ := h
  cases segment with
  | code c => exact Quiet.of_covers hcovers hfits
  | literal quote raw body close =>
    obtain ⟨⟨hanchor, hlongest⟩, hbody, hclose⟩ := hfits
    refine ⟨⟨hanchor.of_covers hcovers, hlongest.of_covers hcovers ?_⟩,
      hlater.body_kept sound steady hlongest.mem hclose hbody,
      hlater.close_kept sound steady hlongest.mem hclose⟩
    rw [Segment.chars, List.append_assoc]
    exact List.prefix_append _ _
  | line marker body => cases hisKept
  | block pair body closed => cases hisKept

/-- **The code and the literals of a text are a cut of what is kept.** -/
theorem Cut.kept (sound : lexis.Sound) (steady : lexis.Steady) {place : Place}
    {segments : List Segment} (h : Cut lexis place segments) (hseam : ¬ Fuses lexis segments)
    (hbehind : Behind lexis place (Segment.text segments)) :
    Cut lexis ⟨place.kept, place.kept⟩ (segments.filter Segment.isKept) := by
  induction segments generalizing place with
  | nil => trivial
  | cons segment later ih =>
    have hrest := ih h.2 (fun hfuses => hseam (hfuses.cons segment)) (h.1.behind_after sound)
    cases hisKept : segment.isKept with
    | true =>
      rw [List.filter_cons_of_pos hisKept]
      refine ⟨?_, ?_⟩
      · rw [← Segment.keptText_eq_text_filter]
        exact h.fits_kept sound steady hisKept hseam hbehind
      · simpa [Place.after, Segment.kept, hisKept] using hrest
    | false =>
      rw [List.filter_cons_of_neg (by rw [hisKept]; decide)]
      simpa [Place.after, Segment.kept, hisKept] using hrest

/-- **A text is stripped at once** if no token is put together by the removal of a comment. -/
theorem Cut.removeComments_removeComments (sound : lexis.Sound) (steady : lexis.Steady)
    {segments : List Segment} (h : Cut lexis ⟨[], []⟩ segments) (hseam : ¬ Fuses lexis segments) :
    removeComments lexis (removeComments lexis (Segment.text segments)) =
      removeComments lexis (Segment.text segments) := by
  have hsecond := h.kept sound steady hseam (.inl rfl)
  have hall : Segment.keptText (segments.filter Segment.isKept) =
      Segment.text (segments.filter Segment.isKept) :=
    Segment.keptText_eq_text fun segment hsegment => (List.mem_filter.1 hsegment).2
  rw [removeComments, removeComments, h.scan_eq sound, Segment.keptText_eq_text_filter,
    hsecond.scan_eq sound, hall]

theorem removeComments_removeComments (sound : lexis.Sound) (apart : lexis.KeepsApart)
    (text : List Char) :
    removeComments lexis (removeComments lexis text) = removeComments lexis text := by
  obtain ⟨segments, hcut, rfl⟩ := exists_cut sound ⟨[], []⟩ text
  exact hcut.removeComments_removeComments sound apart.steady (hcut.not_fuses sound apart)

/-- Languages known from the start under whose rules nothing is brought together. -/
theorem builtin_keepsApart :
    ∀ id ∈ ["shell", "python", "ruby", "yaml", "perl", "r", "batch", "plain"],
      ∃ language, Registry.builtin.get? id = some language ∧
        language.lexis.Sound ∧ language.lexis.KeepsApart := by
  have hany : ∀ id ∈ ["shell", "python", "ruby", "yaml", "perl", "r", "batch", "plain"],
      (Registry.builtin.get? id).any
        (fun language => language.lexis.Sound ∧ language.lexis.KeepsApart) = true := by
    decide +kernel
  intro id hid
  obtain ⟨language, hlanguage, hrules⟩ := (Option.any_eq_true _ _).1 (hany id hid)
  exact ⟨language, hlanguage, of_decide_eq_true hrules⟩

/-- **A second scan finds nothing more.** Where the removal of a comment brings nothing together, a
text without its comments has no comments, whatever the text was. This holds for the languages named
here. -/
theorem removeComments_idempotent :
    (∀ lexis : Lexis, lexis.Sound → lexis.KeepsApart → ∀ text : List Char,
      removeComments lexis (removeComments lexis text) = removeComments lexis text) ∧
    ∀ id ∈ ["shell", "python", "ruby", "yaml", "perl", "r", "batch", "plain"],
      ∃ language, Registry.builtin.get? id = some language ∧ ∀ text : List Char,
        removeComments language.lexis (removeComments language.lexis text) =
          removeComments language.lexis text := by
  refine ⟨fun lexis sound apart => removeComments_removeComments sound apart, fun id hid => ?_⟩
  obtain ⟨language, hlanguage, sound, apart⟩ := builtin_keepsApart id hid
  exact ⟨language, hlanguage, removeComments_removeComments sound apart⟩

/-- A marker inside of a word, a literal left open at a line break, and two comments. -/
theorem removeComments_idempotent_batch :
    removeComments Language.batch.lexis
        (removeComments Language.batch.lexis "xrem \"a\n:: b\nrem:: \"c".toList) =
      removeComments Language.batch.lexis "xrem \"a\n:: b\nrem:: \"c".toList :=
  removeComments_idempotent.1 _ (by decide) (by decide +kernel) _

end Scan

end Decomment
