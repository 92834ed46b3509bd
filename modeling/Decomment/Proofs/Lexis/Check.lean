import Decomment.Proofs.Lexis.Order
import Decomment.Registry

/-!
# What the check of lexical rules decides

Rules pass `Lexis.check` exactly if they are `Unambiguous`: nothing that is looked for in a text is
empty, and no two things that are tried at one place look for the same. The error of rules that do
not pass names their language and a flaw, and that flaw is there (`Flaw.Present`). The check is made
before the lists are ordered, which does not change its verdict. `check_exact` says all this,
together with what the ordering does to the lists.
-/

namespace Decomment.Lexis

variable {lexis : Lexis} {flaw : Flaw}

/-! ## Flaws that are there -/

/-- What a flaw says of lexical rules is true of them. -/
def Flaw.Present (lexis : Lexis) : Flaw → Prop
  | .emptyStop start => ∃ pair ∈ lexis.blocks, pair.start = start ∧ pair.stop = ""
  | .emptyLineStart => ∃ pair ∈ lexis.blocks, pair.lineStart = true ∧ pair.start = ""
  | .emptyToken role => ("", role) ∈ lexis.tokens
  | .ambiguous token first second => [(token, first), (token, second)].Sublist lexis.tokens

/-- A pair's own flaw is a flaw of the rules that it is part of. -/
theorem present_of_blockFlaw? {pair : BlockPair} (hpair : pair ∈ lexis.blocks)
    (h : blockFlaw? pair = some flaw) : flaw.Present lexis := by
  rw [blockFlaw?] at h
  split at h
  · next hstop =>
    cases h
    exact ⟨pair, hpair, rfl, String.isEmpty_iff.1 hstop⟩
  split at h
  · next hstart =>
    cases h
    rw [Bool.and_eq_true, String.isEmpty_iff] at hstart
    exact ⟨pair, hpair, hstart⟩
  · cases h

/-- The walk over the tokens stops at a flaw of theirs. -/
theorem present_of_tokenFlaw? {earlier later : List (String × Role)}
    (htokens : lexis.tokens = earlier ++ later) (h : tokenFlaw? earlier later = some flaw) :
    flaw.Present lexis := by
  induction later generalizing earlier with
  | nil => cases h
  | cons head later ih =>
    obtain ⟨token, role⟩ := head
    rw [tokenFlaw?] at h
    split at h
    · next hempty =>
      cases h
      rw [Flaw.Present, htokens, ← String.isEmpty_iff.1 hempty]
      exact List.mem_append_right _ (List.mem_cons_self ..)
    split at h
    · next same first hfind =>
      cases h
      obtain rfl : same = token := by simpa using List.find?_some hfind
      have hearlier : [(same, first)].Sublist earlier :=
        List.singleton_sublist.2 (List.mem_of_find?_eq_some hfind)
      rw [Flaw.Present, htokens]
      exact hearlier.append (List.singleton_sublist.2 (List.mem_cons_self ..))
    · exact ih (by rw [htokens, List.append_cons]) h

/-- **The flaw that is found is there.** -/
theorem present_of_flaw? (h : lexis.flaw? = some flaw) : flaw.Present lexis := by
  rw [flaw?] at h
  split at h
  · next hfind =>
    cases h
    obtain ⟨pair, hpair, hflaw⟩ := List.exists_of_findSome?_eq_some hfind
    exact present_of_blockFlaw? hpair hflaw
  · exact present_of_tokenFlaw? (List.nil_append _).symm h

/-! ## The verdict -/

/-- Nothing that the rules look for is empty, and no two things that are tried at one place look for
the same. -/
structure Unambiguous (lexis : Lexis) : Prop where
  blocks : ∀ pair ∈ lexis.blocks, pair.start ≠ "" ∧ pair.stop ≠ ""
  lineMarkers : ∀ m ∈ lexis.lineMarkers, m.marker ≠ ""
  quotes : ∀ quote ∈ lexis.quotes, quote.delimiter ≠ ""
  rawQuotes : ∀ quote ∈ lexis.rawQuotes, quote.delimiter ≠ ""
  distinct : (lexis.lineMarkers.map LineMarker.marker
    ++ (lexis.blocks.filter (!·.lineStart)).map BlockPair.start
    ++ lexis.quotes.map Quote.delimiter ++ lexis.rawQuotes.map Quote.delimiter).Nodup

theorem sound_iff_unambiguous : lexis.Sound ↔ lexis.Unambiguous := by
  have htokens : lexis.tokens.map Prod.fst = lexis.lineMarkers.map LineMarker.marker
      ++ (lexis.blocks.filter (!·.lineStart)).map BlockPair.start
      ++ lexis.quotes.map Quote.delimiter ++ lexis.rawQuotes.map Quote.delimiter := by
    simp [tokens, Function.comp_def]
  rw [sound_iff, List.forall_mem_append, htokens]
  constructor
  · rintro ⟨hblocks, hmarkers, ⟨hquotes, hraw⟩, hdistinct⟩
    exact ⟨hblocks, hmarkers, hquotes, hraw, hdistinct⟩
  · intro h
    exact ⟨h.blocks, h.lineMarkers, ⟨h.quotes, h.rawQuotes⟩, h.distinct⟩

theorem check_eq_ok_iff {language : String} : lexis.check language = .ok () ↔ lexis.Sound := by
  rw [check, Sound]
  cases lexis.flaw? <;> simp

/-- Rules that do not pass have a flaw, which the error names. -/
theorem check_of_not_sound (h : ¬ lexis.Sound) (language : String) :
    ∃ flaw, flaw.Present lexis ∧ lexis.check language = .error (.invalidLexis language flaw) := by
  obtain ⟨flaw, hflaw⟩ := Option.ne_none_iff_exists'.1 h
  exact ⟨flaw, present_of_flaw? hflaw, by rw [check, hflaw]⟩

/-- The same rules with every list sorted by length. -/
structure SortedTo (lexis sorted : Lexis) : Prop where
  lineMarkers : SortsByLength LineMarker.marker lexis.lineMarkers sorted.lineMarkers
  blocks : SortsByLength BlockPair.start lexis.blocks sorted.blocks
  quotes : SortsByLength Quote.delimiter lexis.quotes sorted.quotes
  rawQuotes : SortsByLength Quote.delimiter lexis.rawQuotes sorted.rawQuotes
  escape : sorted.escape = lexis.escape

theorem sortedTo_longestFirst (lexis : Lexis) : lexis.SortedTo lexis.longestFirst :=
  ⟨sortsByLength_byLength _ _, sortsByLength_byLength _ _, sortsByLength_byLength _ _,
    sortsByLength_byLength _ _, rfl⟩

/-- Ordering by length neither makes rules sound nor takes it from them. -/
theorem sound_longestFirst_iff : lexis.longestFirst.Sound ↔ lexis.Sound := by
  obtain ⟨hmarkers, hblocks, hquotes, hraw, hescape⟩ := sameRules_longestFirst lexis
  have hback : lexis.longestFirst.SameRules lexis :=
    ⟨hmarkers.symm, hblocks.symm, hquotes.symm, hraw.symm, hescape.symm⟩
  exact ⟨fun h => h.of_sameRules hback, Sound.longestFirst⟩

/-- **The check accepts exactly the unambiguous rules**, and refuses all others for a flaw that they
have. Ordering the lists is a stable sort by length that leaves ordered lists alone, and does not
change the verdict. -/
theorem check_exact (lexis : Lexis) (language : String) :
    (lexis.check language = .ok () ↔ lexis.Unambiguous) ∧
      (¬ lexis.Unambiguous ↔ ∃ flaw, flaw.Present lexis ∧
        lexis.check language = .error (.invalidLexis language flaw)) ∧
      lexis.SortedTo lexis.longestFirst ∧
      lexis.longestFirst.longestFirst = lexis.longestFirst ∧
      (lexis.longestFirst.check language = .ok () ↔ lexis.check language = .ok ()) := by
  refine ⟨check_eq_ok_iff.trans sound_iff_unambiguous, ?_, lexis.sortedTo_longestFirst,
    lexis.ordered_longestFirst.longestFirst_eq, ?_⟩
  · rw [← sound_iff_unambiguous]
    constructor
    · exact fun h => check_of_not_sound h language
    · rintro ⟨flaw, -, hrefused⟩ hsound
      rw [check_eq_ok_iff.2 hsound] at hrefused
      cases hrefused
  · rw [check_eq_ok_iff, check_eq_ok_iff, sound_longestFirst_iff]

/-- Rules with a token that two lists share: the flaw is in the error, in the order of the lists. -/
example : check { lineMarkers := [{ marker := "#" }], rawQuotes := [{ delimiter := "#" }] } "odd" =
    .error (.invalidLexis "odd" (.ambiguous "#" .lineMarker .quote)) := by rfl

end Decomment.Lexis
