import Decomment.Proofs.Scan.Idempotence

/-!
# Tokens that a removal puts together

Where block comments may stand anywhere, the removal of one can put a token together (`Fuses`), and
a second scan opens what the first one did not. `Lexis.SealsTokens` are rules under which this does
not happen: whichever way a block comment parts a token, a line marker stands there already, and the
comment or what follows it is never reached as code (`Cut.not_fuses_of_seals`).

`builtin_idempotent` tells the languages known from the start in which a second scan finds nothing
more from those in which it can.
-/

namespace Decomment

/-- A marker that opens a comment wherever its text stands. -/
def LineMarker.Unconditional (m : LineMarker) : Prop :=
  m.notAfter = [] ∧ m.standalone = false

instance (m : LineMarker) : Decidable m.Unconditional :=
  inferInstanceAs (Decidable (_ ∧ _))

/-- Everything that the rules can open. -/
def Lexis.openings (lexis : Lexis) : List Opening :=
  lexis.blocks.map .block ++ lexis.delimiters.map (fun entry => .literal entry.1 entry.2) ++
    lexis.lineMarkers.map .line

/-- Rules under which a block comment inside of a token is not found, or what follows it is not
kept: no delimiter begins with a character of a longer token, and for each way to part a token an
unconditional marker stands where the token begins or is the character behind the comment. -/
@[mk_iff] structure Lexis.SealsTokens (lexis : Lexis) : Prop where
  quotes : ∀ o ∈ lexis.openings, 1 < o.token.toList.length → ∀ entry ∈ lexis.delimiters,
    entry.1.delimiter.toList.head? ∉ o.token.toList.map some
  splits : ∀ o ∈ lexis.openings, ∀ pair ∈ lexis.blocks, ∀ n < o.token.toList.length, 0 < n →
    ∃ m ∈ lexis.lineMarkers, m.Unconditional ∧
      (m.marker.toList <+: o.token.toList.take n ++ pair.start.toList ∨
        m.marker.toList = (o.token.toList.drop n).take 1)

instance (lexis : Lexis) : Decidable lexis.SealsTokens :=
  decidable_of_iff _ (Lexis.sealsTokens_iff lexis).symm

namespace Scan

variable {lexis : Lexis}

theorem Listed.mem_openings {o : Opening} (h : Listed lexis o) : o ∈ lexis.openings := by
  cases o with
  | block pair => simpa [Lexis.openings, Listed] using h
  | literal quote raw => simpa [Lexis.openings, Listed] using h
  | line marker => simpa [Lexis.openings, Listed] using h

/-- An unconditional marker that begins a text opens a comment there. -/
theorem opensAt_of_unconditional {m : LineMarker} (hfree : m.Unconditional) {rest : List Char}
    (hbegins : m.marker.toList <+: rest) (before : Option Char) : m.opensAt rest before = true := by
  obtain ⟨after, rfl⟩ := hbegins
  obtain ⟨hnotAfter, halone⟩ := hfree
  rw [opensAt_iff, hnotAfter, halone]
  refine ⟨?_, nofun⟩
  cases before <;> rfl

/-- Where an unconditional marker stands, only a literal is kept. -/
theorem Segment.Fits.head?_delimiter (sound : lexis.Sound) {place : Place} {segment : Segment}
    {after : List Char} (h : segment.Fits lexis place after) (hisKept : segment.isKept = true)
    {m : LineMarker} (hm : m ∈ lexis.lineMarkers) (hfree : m.Unconditional)
    (hbegins : m.marker.toList <+: segment.chars ++ after) :
    ∃ entry ∈ lexis.delimiters, entry.1.delimiter.toList.head? = segment.chars.head? := by
  cases segment with
  | code c =>
    have hopens := opensAt_of_unconditional hfree hbegins place.before.getLast?
    have hquiet := h.markers m hm
    rw [Segment.chars, List.singleton_append, hquiet] at hopens
    cases hopens
  | literal quote raw body close =>
    have hmem := h.1.2.mem
    refine ⟨(quote, raw), hmem, ?_⟩
    have hne := Text.toList_ne_nil (sound.delimiter_ne hmem)
    rw [Segment.chars, List.head?_append_of_ne_nil _ hne]
  | line marker body => cases hisKept
  | block pair body closed => cases hisKept

/-- Under rules that seal tokens no unconditional marker stands where a segment is kept that begins
with a character of a longer token: the segment would be a literal. -/
theorem Segment.Fits.no_marker (sound : lexis.Sound) (seals : lexis.SealsTokens) {o : Opening}
    (ho : Listed lexis o) (hlength : 1 < o.token.toList.length) {place : Place} {segment : Segment}
    {after : List Char} (h : segment.Fits lexis place after) (hisKept : segment.isKept = true)
    {c : Char} (hhead : segment.chars.head? = some c) (hc : c ∈ o.token.toList) {m : LineMarker}
    (hm : m ∈ lexis.lineMarkers) (hfree : m.Unconditional) :
    ¬ m.marker.toList <+: segment.chars ++ after := by
  intro hbegins
  obtain ⟨entry, hentry, hdelimiter⟩ := h.head?_delimiter sound hisKept hm hfree hbegins
  refine seals.quotes o ho.mem_openings hlength entry hentry ?_
  rw [hdelimiter, hhead]
  exact List.mem_map_of_mem hc

/-- What is kept begins with a segment that is kept. -/
theorem Cut.exists_kept_head (sound : lexis.Sound) {place : Place} {segments : List Segment}
    (h : Cut lexis place segments) {c : Char} (hc : (Segment.keptText segments).head? = some c) :
    ∃ (start : Place) (segment : Segment) (after : List Char), segment.Fits lexis start after ∧
      segment.isKept = true ∧ segment.chars.head? = some c := by
  induction segments generalizing place with
  | nil => cases hc
  | cons segment later ih =>
    rw [Segment.keptText_cons] at hc
    cases hisKept : segment.isKept with
    | true =>
      rw [Segment.kept_of_isKept hisKept,
        List.head?_append_of_ne_nil _ (h.1.chars_ne_nil sound)] at hc
      exact ⟨place, segment, Segment.text later, h.1, hisKept, hc⟩
    | false =>
      rw [Segment.kept_of_removed hisKept, List.nil_append] at hc
      exact ih h.2 hc

/-- **No token is put together** where an unconditional marker stands at each joint. -/
theorem Cut.not_fuses_of_seals (sound : lexis.Sound) (seals : lexis.SealsTokens) {place : Place}
    {segments : List Segment} (h : Cut lexis place segments) : ¬ Fuses lexis segments := by
  intro hfuses
  obtain ⟨o, start, first, more, pair, body, closed, later, tail, ho, hcut, hkept, htoken, hne,
    htail, hlater⟩ := h.of_fuses sound hfuses
  obtain ⟨c, chars, hchars⟩ := List.exists_cons_of_ne_nil hne
  obtain ⟨d, tail, rfl⟩ := List.exists_cons_of_ne_nil htail
  have hpart : 0 < (Segment.text (first :: more)).length := by
    rw [Segment.text_cons, hchars]
    exact Nat.zero_lt_succ _
  have hlonger : (Segment.text (first :: more)).length < o.token.toList.length := by
    rw [htoken, List.length_append, List.length_cons]
    omega
  have hlength : 1 < o.token.toList.length := by omega
  have hblock := hcut.fits.1
  obtain ⟨m, hm, hfree, hmarker⟩ :=
    seals.splits o ho.mem_openings pair hblock.listed _ hlonger hpart
  rw [htoken, List.take_left, List.drop_left] at hmarker
  rcases hmarker with hbegins | hbehind
  · -- the marker stands where the token begins
    have hfirst := hbegins.trans ((List.prefix_append_right_inj _).2 hblock.token_prefix)
    rw [← Segment.text_cons, ← Segment.text_append, List.cons_append, Segment.text_cons] at hfirst
    have hisKept := hkept first (List.mem_cons_self ..)
    refine hcut.1.no_marker sound seals ho hlength hisKept (c := c) ?_ ?_ hm hfree hfirst
    · rw [hchars, List.head?_cons]
    · rw [htoken, Segment.text_cons, hchars]
      exact List.mem_cons_self ..
  · -- the marker is the character behind the comment
    obtain ⟨kept, hkeptText⟩ := hlater
    have hhead : (Segment.keptText later).head? = some d := by rw [← hkeptText]; rfl
    obtain ⟨there, segment, after, hfits, hisKept, hd⟩ := hcut.drop.2.exists_kept_head sound hhead
    refine hfits.no_marker sound seals ho hlength hisKept hd ?_ hm hfree ?_
    · rw [htoken]
      exact List.mem_append_right _ (List.mem_cons_self ..)
    · obtain ⟨rest, hrest⟩ := List.head?_eq_some_iff.1 hd
      rw [hbehind, hrest]
      exact ⟨rest ++ after, rfl⟩

/-! ## The languages known from the start -/

theorem builtin_steady :
    ∀ language ∈ Registry.builtin.languages, language.lexis.Sound ∧ language.lexis.Steady ∧
      (language.id ∉ ["c_style", "markup", "css", "sql", "haskell"] →
        language.lexis.KeepsApart ∨ language.lexis.SealsTokens) := by
  decide +kernel

/-- In the languages named here the removal of a block comment can put the start of another one
together, or a line marker. -/
theorem builtin_fuses :
    ∀ language ∈ Registry.builtin.languages,
      language.id ∈ ["c_style", "markup", "css", "sql", "haskell"] →
      ∃ text ∈ ["://**/*", "<<!---->!--", "-/**/-", "-\x7b--\x7d-"],
        (scan language.lexis text.toList).isClean = true ∧
          removeComments language.lexis (removeComments language.lexis text.toList) ≠
            removeComments language.lexis text.toList := by
  decide +kernel

/-- **Where a second scan finds nothing more, among the languages known from the start.** In all of
them but five a text without its comments has none. In these five, the removal of a block comment
from a text of which nothing is left open can put a token together that a second scan takes for a
comment; there, a second scan finds nothing more in a text in which no token is put together. -/
theorem builtin_idempotent :
    ∀ language ∈ Registry.builtin.languages,
      ((∀ text : List Char, (scan language.lexis text).isClean = true →
          removeComments language.lexis (removeComments language.lexis text) =
            removeComments language.lexis text) ↔
        language.id ∉ ["c_style", "markup", "css", "sql", "haskell"]) ∧
      ∀ (text : List Char) (segments : List Segment), Partition language.lexis text segments →
        ¬ Fuses language.lexis segments →
          removeComments language.lexis (removeComments language.lexis text) =
            removeComments language.lexis text := by
  intro language hlanguage
  obtain ⟨sound, steady, hrules⟩ := builtin_steady language hlanguage
  refine ⟨⟨fun hall hid => ?_, fun hid text _ => ?_⟩, ?_⟩
  · obtain ⟨text, -, hclean, hne⟩ := builtin_fuses language hlanguage hid
    exact hne (hall text.toList hclean)
  · obtain ⟨segments, hcut, rfl⟩ := exists_cut sound ⟨[], []⟩ text
    refine hcut.removeComments_removeComments sound steady ?_
    rcases hrules hid with apart | seals
    · exact hcut.not_fuses sound apart
    · exact hcut.not_fuses_of_seals sound seals
  · intro text segments hparts hseam
    obtain ⟨hcut, rfl⟩ := hparts.cut
    exact hcut.removeComments_removeComments sound steady hseam

/-- A comment between two characters of its own start marker, a literal with one, and a marker. -/
theorem builtin_idempotent_powershell :
    Language.powershell.normalize ∈ Registry.builtin.languages ∧
      removeComments Language.powershell.normalize.lexis
          (removeComments Language.powershell.normalize.lexis "<<# a #>#> '<#'\n#".toList) =
        removeComments Language.powershell.normalize.lexis "<<# a #>#> '<#'\n#".toList :=
  ⟨by decide, (builtin_idempotent _ (by decide)).1.2 (by decide) _ (by decide +kernel)⟩

/-- A comment between two characters of a marker: what is left is a marker, and the code behind it
is lost in a second scan. -/
theorem sql_removal_makes_marker :
    ∃ language, Registry.builtin.get? "sql" = some language ∧
      scan language.lexis "-/**/-x".toList = ⟨"--x".toList, []⟩ ∧
      removeComments language.lexis "--x".toList = [] := by
  refine ⟨Language.sql.normalize, ?_, ?_, ?_⟩
  · decide +kernel
  · decide +kernel
  · decide +kernel

end Scan

end Decomment
