import Decomment.Lexis
import Decomment.Scan.Opening
import Mathlib.Data.List.Nodup

/-!
# What sound rules promise

The check of lexical rules walks over the block pairs and then over the tokens that are tried at one
place. `sound_iff` says what it accepts: no marker and no delimiter is empty, and no token is used
twice. The order of the lists does not count (`Sound.of_sameRules`), so the rules stay sound when
they are ordered by length (`Sound.longestFirst`).
-/

namespace Decomment.Lexis

/-- The walk over the tokens ends without a flaw when no token is empty and none repeats another. -/
theorem tokenFlaw?_eq_none_iff {earlier later : List (String × Role)}
    (hearlier : (earlier.map Prod.fst).Nodup) :
    tokenFlaw? earlier later = none ↔
      (∀ token ∈ later, token.1 ≠ "") ∧ ((earlier ++ later).map Prod.fst).Nodup := by
  induction later generalizing earlier with
  | nil => simp [tokenFlaw?, hearlier]
  | cons head later ih =>
    obtain ⟨token, role⟩ := head
    have hsplit : earlier ++ (token, role) :: later = earlier ++ [(token, role)] ++ later := by simp
    rw [tokenFlaw?, hsplit]
    split
    · next hempty =>
      simp [String.isEmpty_iff.1 hempty]
    · next hempty =>
      have hne : token ≠ "" := fun h => hempty (String.isEmpty_iff.2 h)
      cases hfind : earlier.find? (·.1 == token) with
      | some found =>
        -- the token stands among the earlier ones, so the list of all repeats it
        have hmem : token ∈ earlier.map Prod.fst := by
          have hfound := List.find?_some hfind
          exact List.mem_map.2 ⟨found, List.mem_of_find?_eq_some hfind, eq_of_beq hfound⟩
        simp only [reduceCtorEq, false_iff, not_and]
        intro _ hnodup
        rw [List.map_append, List.map_append, List.append_assoc, List.nodup_append] at hnodup
        exact hnodup.2.2 token hmem token (by simp) rfl
      | none =>
        have hnew : token ∉ earlier.map Prod.fst := by
          intro hmem
          obtain ⟨found, hfound, rfl⟩ := List.mem_map.1 hmem
          exact List.find?_eq_none.1 hfind found hfound (beq_self_eq_true _)
        have hnodup : ((earlier ++ [(token, role)]).map Prod.fst).Nodup := by
          rw [List.map_append, List.nodup_append]
          refine ⟨hearlier, by simp, ?_⟩
          intro a ha b hb hab
          have hbt : b = token := by simpa using hb
          exact hnew (hbt ▸ hab ▸ ha)
        simp only [ih hnodup, List.forall_mem_cons, hne, ne_eq, not_false_eq_true, true_and]

/-- A block pair has no flaw of its own when its closing marker is not empty, and neither is its
start if it is tied to the start of a line. -/
theorem blockFlaw?_eq_none_iff {pair : BlockPair} :
    blockFlaw? pair = none ↔ pair.stop ≠ "" ∧ (pair.lineStart = true → pair.start ≠ "") := by
  rw [blockFlaw?]
  by_cases hstop : pair.stop.isEmpty = true
  · simp [String.isEmpty_iff.1 hstop]
  · have hne : pair.stop ≠ "" := fun h => hstop (String.isEmpty_iff.2 h)
    simp [hne]

/-- Every token of the rules: line markers, starts of pairs not tied to the start of a line, and
delimiters. -/
theorem forall_tokens {lexis : Lexis} {P : String → Prop} :
    (∀ token ∈ lexis.tokens, P token.1) ↔
      (∀ m ∈ lexis.lineMarkers, P m.marker) ∧
      (∀ pair ∈ lexis.blocks, pair.lineStart = false → P pair.start) ∧
      (∀ quote ∈ lexis.quotes ++ lexis.rawQuotes, P quote.delimiter) := by
  simp only [tokens, List.forall_mem_append, List.forall_mem_map, List.mem_filter, and_assoc,
    and_imp, Bool.not_eq_true']

/-- **What the check accepts.** -/
theorem sound_iff {lexis : Lexis} :
    lexis.Sound ↔
      (∀ pair ∈ lexis.blocks, pair.start ≠ "" ∧ pair.stop ≠ "") ∧
      (∀ m ∈ lexis.lineMarkers, m.marker ≠ "") ∧
      (∀ quote ∈ lexis.quotes ++ lexis.rawQuotes, quote.delimiter ≠ "") ∧
      (lexis.tokens.map Prod.fst).Nodup := by
  have hblocks : lexis.Sound ↔ (∀ pair ∈ lexis.blocks, blockFlaw? pair = none) ∧
      tokenFlaw? [] lexis.tokens = none := by
    rw [Sound, flaw?]
    cases hfind : lexis.blocks.findSome? blockFlaw? with
    | none =>
      have hnone := List.findSome?_eq_none_iff.1 hfind
      exact ⟨fun h => ⟨hnone, h⟩, fun h => h.2⟩
    | some flaw =>
      obtain ⟨pair, hpair, hflaw⟩ := List.exists_of_findSome?_eq_some hfind
      simp only [reduceCtorEq, false_iff, not_and]
      intro h
      rw [h pair hpair] at hflaw
      cases hflaw
  rw [hblocks, tokenFlaw?_eq_none_iff (by simp), List.nil_append,
    forall_tokens (P := (· ≠ ""))]
  simp only [blockFlaw?_eq_none_iff]
  constructor
  · rintro ⟨hpairs, ⟨hmarkers, hstarts, hquotes⟩, hnodup⟩
    refine ⟨fun pair hpair => ⟨?_, (hpairs pair hpair).1⟩, hmarkers, hquotes, hnodup⟩
    cases hline : pair.lineStart with
    | true => exact (hpairs pair hpair).2 hline
    | false => exact hstarts pair hpair hline
  · rintro ⟨hpairs, hmarkers, hquotes, hnodup⟩
    refine ⟨fun pair hpair => ⟨(hpairs pair hpair).2, fun _ => (hpairs pair hpair).1⟩, ?_, hnodup⟩
    exact ⟨hmarkers, fun pair hpair _ => (hpairs pair hpair).1, hquotes⟩

/-! ## The order of the lists -/

/-- The same rules, with each list in any order. -/
structure SameRules (lexis other : Lexis) : Prop where
  lineMarkers : lexis.lineMarkers.Perm other.lineMarkers
  blocks : lexis.blocks.Perm other.blocks
  quotes : lexis.quotes.Perm other.quotes
  rawQuotes : lexis.rawQuotes.Perm other.rawQuotes
  escape : lexis.escape = other.escape

/-- Ordering by length keeps the rules. -/
theorem sameRules_longestFirst (lexis : Lexis) : lexis.SameRules lexis.longestFirst :=
  ⟨(byLength_perm _ _).symm, (byLength_perm _ _).symm, (byLength_perm _ _).symm,
    (byLength_perm _ _).symm, rfl⟩

namespace Sound

variable {lexis : Lexis}

theorem start_ne (h : lexis.Sound) {pair : BlockPair} (hpair : pair ∈ lexis.blocks) :
    pair.start ≠ "" :=
  ((sound_iff.1 h).1 pair hpair).1

theorem stop_ne (h : lexis.Sound) {pair : BlockPair} (hpair : pair ∈ lexis.blocks) :
    pair.stop ≠ "" :=
  ((sound_iff.1 h).1 pair hpair).2

theorem marker_ne (h : lexis.Sound) {m : LineMarker} (hm : m ∈ lexis.lineMarkers) :
    m.marker ≠ "" :=
  (sound_iff.1 h).2.1 m hm

theorem delimiter_ne (h : lexis.Sound) {quote : Quote} {raw : Bool}
    (hquote : (quote, raw) ∈ lexis.delimiters) : quote.delimiter ≠ "" := by
  refine (sound_iff.1 h).2.2.1 quote ?_
  simp only [delimiters, List.mem_append, List.mem_map, Prod.mk.injEq] at hquote
  rcases hquote with ⟨q, hq, rfl, -⟩ | ⟨q, hq, rfl, -⟩
  · exact List.mem_append_left _ hq
  · exact List.mem_append_right _ hq

/-- No delimiter is listed twice, raw or not. -/
theorem delimiter_inj (h : lexis.Sound) {a b : Quote × Bool} (ha : a ∈ lexis.delimiters)
    (hb : b ∈ lexis.delimiters) (hab : a.1.delimiter = b.1.delimiter) : a = b := by
  have hnodup := (sound_iff.1 h).2.2.2
  rw [tokens, List.map_append, List.nodup_append] at hnodup
  have hdelimiters : (lexis.delimiters.map (·.1.delimiter)).Nodup := by
    simpa [delimiters, Function.comp_def] using hnodup.2.1
  exact List.inj_on_of_nodup_map hdelimiters ha hb hab

/-- No line marker is listed twice. -/
theorem marker_inj (h : lexis.Sound) {a b : LineMarker} (ha : a ∈ lexis.lineMarkers)
    (hb : b ∈ lexis.lineMarkers) (hab : a.marker = b.marker) : a = b := by
  have hnodup := (sound_iff.1 h).2.2.2
  rw [tokens, List.map_append, List.map_append, List.append_assoc, List.nodup_append] at hnodup
  have hmarkers : (lexis.lineMarkers.map LineMarker.marker).Nodup := by
    simpa [Function.comp_def] using hnodup.1
  exact List.inj_on_of_nodup_map hmarkers ha hb hab

/-- No start of a pair that may open anywhere is listed twice. -/
theorem start_inj (h : lexis.Sound) {a b : BlockPair} (ha : a ∈ lexis.blocks)
    (hb : b ∈ lexis.blocks) (hfree : a.lineStart = false ∧ b.lineStart = false)
    (hab : a.start = b.start) : a = b := by
  have hnodup := (sound_iff.1 h).2.2.2
  rw [tokens, List.map_append, List.map_append, List.append_assoc, List.nodup_append,
    List.nodup_append] at hnodup
  have hstarts : ((lexis.blocks.filter (!·.lineStart)).map BlockPair.start).Nodup := by
    simpa [Function.comp_def] using hnodup.2.1.1
  exact List.inj_on_of_nodup_map hstarts (List.mem_filter.2 ⟨ha, by simp [hfree.1]⟩)
    (List.mem_filter.2 ⟨hb, by simp [hfree.2]⟩) hab

/-- Rules stay sound in any order of their lists. -/
theorem of_sameRules {other : Lexis} (h : lexis.Sound) (same : lexis.SameRules other) :
    other.Sound := by
  obtain ⟨hpairs, hmarkers, hquotes, hnodup⟩ := sound_iff.1 h
  have hall := same.quotes.append same.rawQuotes
  refine sound_iff.2 ⟨fun pair hpair => hpairs pair (same.blocks.mem_iff.2 hpair),
    fun m hm => hmarkers m (same.lineMarkers.mem_iff.2 hm),
    fun quote hquote => hquotes quote (hall.mem_iff.2 hquote), ?_⟩
  refine (List.Perm.nodup_iff (List.Perm.map _ ?_)).1 hnodup
  exact ((same.lineMarkers.map _).append ((same.blocks.filter _).map _)).append (hall.map _)

/-- Rules stay sound when every list is ordered by length. -/
theorem longestFirst (h : lexis.Sound) : lexis.longestFirst.Sound :=
  h.of_sameRules (sameRules_longestFirst lexis)

end Sound

end Decomment.Lexis
