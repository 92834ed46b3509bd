import Decomment.Proofs.Lexis.Sound
import Decomment.Proofs.Scan.Segment

/-!
# The look-up of what opens

`Lexis.opening?` finds what begins at a place in code. Here it is read against `Opens` and `Quiet`:
what opens is found (`opening?_of_opens`), where nothing does, nothing is found
(`opening?_of_quiet`), and one of the two is the case at every place (`quiet_or_opens`), so that the
look-up also says which one it is (`opens_of_opening?`, `quiet_of_opening?`).
-/

namespace Decomment.Scan

/-- The first hit of a search is the first item with the property. -/
theorem find?_eq_some_iff_firstWith {α : Type} {p : α → Bool} {items : List α} {a : α} :
    items.find? p = some a ↔ FirstWith (fun b => p b = true) items a := by
  rw [List.find?_eq_some_iff_append, FirstWith]
  constructor
  · rintro ⟨ha, earlier, later, rfl, hearlier⟩
    exact ⟨earlier, later, rfl, ha, fun b hb => by simpa using hearlier b hb⟩
  · rintro ⟨earlier, later, rfl, ha, hearlier⟩
    exact ⟨ha, earlier, later, rfl, fun b hb => by simpa using hearlier b hb⟩

/-- The first item with a property is one of the items and has it. -/
theorem FirstWith.mem {α : Type} {P : α → Prop} {items : List α} {a : α}
    (h : FirstWith P items a) : a ∈ items ∧ P a := by
  obtain ⟨earlier, later, rfl, ha, -⟩ := h
  exact ⟨by simp, ha⟩

/-- The first item depends on the property only, not on how it is said. -/
theorem FirstWith.congr {α : Type} {P R : α → Prop} {items : List α} {a : α}
    (h : FirstWith P items a) (hpr : ∀ b ∈ items, P b ↔ R b) : FirstWith R items a := by
  obtain ⟨earlier, later, rfl, ha, hearlier⟩ := h
  refine ⟨earlier, later, rfl, (hpr a (by simp)).1 ha, fun b hb hR => hearlier b hb ?_⟩
  exact (hpr b (by simp [hb])).2 hR

/-! ## Block pairs and line markers -/

section
variable {lexis : Lexis} {place : Place} {rest : List Char}

theorem blockAt?_eq_some_iff {lineStart : Bool} {pair : BlockPair} :
    lexis.blockAt? lineStart rest = some pair ↔
      FirstWith (fun p => p.lineStart = lineStart ∧ p.start.toList <+: rest) lexis.blocks pair := by
  rw [Lexis.blockAt?, find?_eq_some_iff_firstWith]
  simp only [Bool.and_eq_true, beq_iff_eq, Text.startsWith_iff]

theorem blockAt?_eq_none_iff {lineStart : Bool} :
    lexis.blockAt? lineStart rest = none ↔
      ∀ pair ∈ lexis.blocks, pair.lineStart = lineStart → ¬ pair.start.toList <+: rest := by
  rw [Lexis.blockAt?, List.find?_eq_none]
  simp only [Bool.and_eq_true, beq_iff_eq, Text.startsWith_iff, not_and]

theorem lineMarkerAt?_eq_some_iff {before : Option Char} {marker : LineMarker} :
    lexis.lineMarkerAt? rest before = some marker ↔
      FirstWith (fun m => m.opensAt rest before = true) lexis.lineMarkers marker :=
  find?_eq_some_iff_firstWith

theorem lineMarkerAt?_eq_none_iff {before : Option Char} :
    lexis.lineMarkerAt? rest before = none ↔
      ∀ m ∈ lexis.lineMarkers, m.opensAt rest before = false := by
  rw [Lexis.lineMarkerAt?, List.find?_eq_none]
  simp only [Bool.not_eq_true]

/-! ## Delimiters -/

/-- Two tokens at one place that are equally long in UTF-8 are the same. -/
theorem eq_of_prefix_of_utf8ByteSize_eq {a b : String} (ha : a.toList <+: rest)
    (hb : b.toList <+: rest) (hsize : a.utf8ByteSize = b.utf8ByteSize) : a = b := by
  have key : ∀ {u v : String}, u.toList <+: v.toList → u.utf8ByteSize = v.utf8ByteSize → u = v := by
    rintro u v ⟨tail, htail⟩ huv
    have hv : v = u ++ String.ofList tail := by
      rw [← String.toList_inj, String.toList_append, String.toList_ofList, htail]
    rw [hv, String.utf8ByteSize_append] at huv
    have hempty : String.ofList tail = "" := String.utf8ByteSize_eq_zero_iff.1 (by omega)
    rw [hv, hempty, String.append_empty]
  rcases List.prefix_or_prefix_of_prefix ha hb with h | h
  · exact key h hsize
  · exact (key h hsize.symm).symm

/-- Taking the longer of two delimiters again and again gives a longest one. -/
theorem foldl_longer (first : Quote × Bool) (others : List (Quote × Bool)) :
    others.foldl Lexis.longer first ∈ first :: others ∧
      ∀ entry ∈ first :: others,
        entry.1.delimiter.utf8ByteSize ≤
          (others.foldl Lexis.longer first).1.delimiter.utf8ByteSize := by
  induction others generalizing first with
  | nil => simp
  | cons second others ih =>
    obtain ⟨hmem, hmax⟩ := ih (Lexis.longer first second)
    have hlonger : Lexis.longer first second ∈ [first, second] ∧
        first.1.delimiter.utf8ByteSize ≤ (Lexis.longer first second).1.delimiter.utf8ByteSize ∧
        second.1.delimiter.utf8ByteSize ≤ (Lexis.longer first second).1.delimiter.utf8ByteSize := by
      rw [Lexis.longer]
      split
      · exact ⟨by simp, by omega, by omega⟩
      · exact ⟨by simp, by omega, by omega⟩
    have hhead := hmax _ (List.mem_cons_self ..)
    rw [List.foldl_cons]
    constructor
    · rcases List.mem_cons.1 hmem with heq | htail
      · rw [heq]
        rcases List.mem_cons.1 hlonger.1 with h | h
        · simp [h]
        · simp [List.mem_singleton.1 h]
      · simp [htail]
    · intro entry hentry
      rcases List.mem_cons.1 hentry with rfl | hentry
      · omega
      rcases List.mem_cons.1 hentry with rfl | hentry
      · omega
      · exact hmax entry (List.mem_cons_of_mem _ hentry)

theorem quoteAt?_eq_none_iff : lexis.quoteAt? rest = none ↔ QuoteFree lexis rest := by
  have hfree : QuoteFree lexis rest ↔
      lexis.delimiters.filter (fun entry => Text.startsWith rest entry.1.delimiter) = [] := by
    rw [List.filter_eq_nil_iff, QuoteFree]
    simp only [Text.startsWith_iff]
  rw [hfree, Lexis.quoteAt?]
  split
  · next h => simp [h]
  · next h => simp [h]

/-- The look-up finds a longest delimiter. -/
theorem longestQuote_of_quoteAt? {quote : Quote} {raw : Bool}
    (h : lexis.quoteAt? rest = some (quote, raw)) : LongestQuote lexis rest quote raw := by
  rw [Lexis.quoteAt?] at h
  split at h
  · cases h
  · next first others hfilter =>
    obtain ⟨hmem, hmax⟩ := foldl_longer first others
    rw [Option.some.inj h, ← hfilter, List.mem_filter] at hmem
    refine ⟨hmem.1, Text.startsWith_iff.1 hmem.2, fun entry hentry hbegins => ?_⟩
    rw [Option.some.inj h, ← hfilter] at hmax
    exact hmax entry (List.mem_filter.2 ⟨hentry, Text.startsWith_iff.2 hbegins⟩)

/-- Under sound rules a longest delimiter is the only one, so the look-up finds it. -/
theorem LongestQuote.quoteAt? (sound : lexis.Sound) {quote : Quote} {raw : Bool}
    (h : LongestQuote lexis rest quote raw) : lexis.quoteAt? rest = some (quote, raw) := by
  cases hfound : lexis.quoteAt? rest with
  | none => exact absurd h.begins (quoteAt?_eq_none_iff.1 hfound _ h.mem)
  | some found =>
    obtain ⟨other, otherRaw⟩ := found
    have hlongest := longestQuote_of_quoteAt? hfound
    have hsize := Nat.le_antisymm (h.longest _ hlongest.mem hlongest.begins)
      (hlongest.longest _ h.mem h.begins)
    have htext := eq_of_prefix_of_utf8ByteSize_eq hlongest.begins h.begins hsize
    rw [sound.delimiter_inj hlongest.mem h.mem htext]

/-! ## What opens -/

theorem anchorFree_iff {blank : Bool} (hblank : blank = true ↔ BlankLine place.kept) :
    (if blank then lexis.blockAt? true rest else none) = none ↔ AnchorFree lexis place rest := by
  rw [AnchorFree, ← hblank]
  cases blank with
  | true => simp [blockAt?_eq_none_iff]
  | false => simp

/-- What opens at a place is found there. -/
theorem opening?_of_opens (sound : lexis.Sound) {blank : Bool}
    (hblank : blank = true ↔ BlankLine place.kept) {o : Opening} (h : Opens lexis place rest o) :
    lexis.opening? blank place.before.getLast? rest = some o := by
  rw [Lexis.opening?]
  cases o with
  | block pair =>
    obtain ⟨hfirst, hrank⟩ := h
    cases hline : pair.lineStart with
    | true =>
      rw [hline] at hfirst hrank
      simp [hblank.2 hrank, blockAt?_eq_some_iff.2 hfirst]
    | false =>
      rw [hline] at hfirst hrank
      obtain ⟨hanchor, hquote⟩ := hrank
      simp [(anchorFree_iff hblank).2 hanchor, quoteAt?_eq_none_iff.2 hquote,
        blockAt?_eq_some_iff.2 hfirst]
  | literal quote raw =>
    obtain ⟨hanchor, hlongest⟩ := h
    simp [(anchorFree_iff hblank).2 hanchor, hlongest.quoteAt? sound]
  | line marker =>
    obtain ⟨hanchor, hquote, hblock, hfirst⟩ := h
    simp [(anchorFree_iff hblank).2 hanchor, quoteAt?_eq_none_iff.2 hquote,
      blockAt?_eq_none_iff.2 hblock, lineMarkerAt?_eq_some_iff.2 hfirst]

/-- Where nothing opens, nothing is found. -/
theorem opening?_of_quiet {blank : Bool} (hblank : blank = true ↔ BlankLine place.kept)
    (h : Quiet lexis place rest) : lexis.opening? blank place.before.getLast? rest = none := by
  simp [Lexis.opening?, (anchorFree_iff hblank).2 h.anchors, quoteAt?_eq_none_iff.2 h.quotes,
    blockAt?_eq_none_iff.2 h.blocks, lineMarkerAt?_eq_none_iff.2 h.markers]

variable (lexis place rest) in
/-- At every place something opens or nothing does. -/
theorem quiet_or_opens : Quiet lexis place rest ∨ ∃ o, Opens lexis place rest o := by
  by_cases hanchor : AnchorFree lexis place rest
  swap
  · simp only [AnchorFree, not_forall, ← blockAt?_eq_none_iff] at hanchor
    obtain ⟨hblank, hnone⟩ := hanchor
    obtain ⟨pair, hpair⟩ := Option.ne_none_iff_exists'.1 hnone
    have hfirst := blockAt?_eq_some_iff.1 hpair
    have hline := hfirst.mem.2.1
    exact .inr ⟨.block pair, by rwa [hline], by rwa [if_pos hline]⟩
  cases hquote : lexis.quoteAt? rest with
  | some found => exact .inr ⟨.literal found.1 found.2, hanchor, longestQuote_of_quoteAt? hquote⟩
  | none =>
  have hquote := quoteAt?_eq_none_iff.1 hquote
  cases hblock : lexis.blockAt? false rest with
  | some pair =>
    have hfirst := blockAt?_eq_some_iff.1 hblock
    have hline := hfirst.mem.2.1
    exact .inr ⟨.block pair, by rwa [hline], by simpa [hline] using ⟨hanchor, hquote⟩⟩
  | none =>
  have hblock := blockAt?_eq_none_iff.1 hblock
  cases hmarker : lexis.lineMarkerAt? rest place.before.getLast? with
  | some marker =>
    exact .inr ⟨.line marker, hanchor, hquote, hblock, lineMarkerAt?_eq_some_iff.1 hmarker⟩
  | none => exact .inl ⟨hanchor, hquote, hblock, lineMarkerAt?_eq_none_iff.1 hmarker⟩

/-- What is found at a place opens there. -/
theorem opens_of_opening? (sound : lexis.Sound) {blank : Bool}
    (hblank : blank = true ↔ BlankLine place.kept) {o : Opening}
    (h : lexis.opening? blank place.before.getLast? rest = some o) : Opens lexis place rest o := by
  rcases quiet_or_opens lexis place rest with hquiet | ⟨other, hopens⟩
  · rw [opening?_of_quiet hblank hquiet] at h
    cases h
  · rw [opening?_of_opens sound hblank hopens] at h
    cases h
    exact hopens

/-- Where nothing is found, nothing opens. -/
theorem quiet_of_opening? (sound : lexis.Sound) {blank : Bool}
    (hblank : blank = true ↔ BlankLine place.kept)
    (h : lexis.opening? blank place.before.getLast? rest = none) : Quiet lexis place rest := by
  rcases quiet_or_opens lexis place rest with hquiet | ⟨other, hopens⟩
  · exact hquiet
  · rw [opening?_of_opens sound hblank hopens] at h
    cases h

/-- What opens at a place begins with its token there. -/
theorem Opens.token_prefix {o : Opening} (h : Opens lexis place rest o) :
    o.token.toList <+: rest := by
  cases o with
  | block pair => exact h.1.mem.2.2
  | literal quote raw => exact h.2.begins
  | line marker => exact Text.startsWith_iff.1 (LineMarker.startsWith_of_opensAt h.2.2.2.mem.2)

variable (lexis) in
/-- A construct that the rules list. -/
def Listed : Opening → Prop
  | .block pair => pair ∈ lexis.blocks
  | .literal quote raw => (quote, raw) ∈ lexis.delimiters
  | .line marker => marker ∈ lexis.lineMarkers

theorem Opens.listed {o : Opening} (h : Opens lexis place rest o) : Listed lexis o := by
  cases o with
  | block pair => exact h.1.mem.1
  | literal quote raw => exact h.2.mem
  | line marker => exact h.2.2.2.mem.1

/-- What is found at a place comes from the rules, and its token stands there. -/
theorem listed_and_prefix_of_opening? {blank : Bool} {before : Option Char} {o : Opening}
    (h : lexis.opening? blank before rest = some o) :
    Listed lexis o ∧ o.token.toList <+: rest := by
  have hblock : ∀ {b : Bool} {pair : BlockPair}, lexis.blockAt? b rest = some pair →
      pair ∈ lexis.blocks ∧ pair.start.toList <+: rest := fun hp =>
    have hpair := (blockAt?_eq_some_iff.1 hp).mem
    ⟨hpair.1, hpair.2.2⟩
  simp only [Lexis.opening?, Option.orElse_eq_orElse, Option.orElse_eq_or, Option.or_eq_some_iff,
    Option.map_eq_some_iff] at h
  rcases h with ⟨pair, hpair, rfl⟩ | ⟨-, ⟨found, hfound, rfl⟩ | ⟨-, ⟨pair, hpair, rfl⟩ |
    ⟨-, marker, hmarker, rfl⟩⟩⟩
  · split at hpair
    · exact hblock hpair
    · cases hpair
  · have hquote := longestQuote_of_quoteAt? hfound
    exact ⟨hquote.mem, hquote.begins⟩
  · exact hblock hpair
  · obtain ⟨hmem, hopens⟩ := (lineMarkerAt?_eq_some_iff.1 hmarker).mem
    exact ⟨hmem, Text.startsWith_iff.1 (LineMarker.startsWith_of_opensAt hopens)⟩

theorem listed_of_opening? {blank : Bool} {before : Option Char} {o : Opening}
    (h : lexis.opening? blank before rest = some o) : Listed lexis o :=
  (listed_and_prefix_of_opening? h).1

theorem token_prefix_of_opening? {blank : Bool} {before : Option Char} {o : Opening}
    (h : lexis.opening? blank before rest = some o) : o.token.toList <+: rest :=
  (listed_and_prefix_of_opening? h).2

/-- A line marker that is found opens a comment where it is found. -/
theorem opensAt_of_opening? {blank : Bool} {before : Option Char} {marker : LineMarker}
    (h : lexis.opening? blank before rest = some (.line marker)) :
    marker.opensAt rest before = true := by
  simp only [Lexis.opening?, Option.orElse_eq_orElse, Option.orElse_eq_or, Option.or_eq_some_iff,
    Option.map_eq_some_iff, reduceCtorEq, and_false, exists_false, false_or] at h
  obtain ⟨-, -, -, found, hfound, heq⟩ := h
  cases heq
  exact (lineMarkerAt?_eq_some_iff.1 hfound).mem.2

/-- Under sound rules no token that opens something is empty. -/
theorem Listed.token_ne_nil (sound : lexis.Sound) {o : Opening} (h : Listed lexis o) :
    o.token.toList ≠ [] := by
  cases o with
  | block pair => exact Text.toList_ne_nil (sound.start_ne h)
  | literal quote raw => exact Text.toList_ne_nil (sound.delimiter_ne h)
  | line marker => exact Text.toList_ne_nil (sound.marker_ne h)

end

end Decomment.Scan
