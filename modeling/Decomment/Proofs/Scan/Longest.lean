import Decomment.Proofs.Lexis.Order
import Decomment.Proofs.Scan.Run
import Decomment.Registry.Builtin

/-!
# The longest candidate wins

At a place in code several constructs of the rules may be able to open (`CanOpen`). They are tried
in four rounds (`Opening.rank`), and under sound rules with the longest tokens first each round
finds its one longest candidate (`Preferred`). `opening?_eq_some_iff` says that this is what a scan
takes. Since `CanOpen` asks only what the lists hold, the order in which they were given is of no
account: `scan_sameRules`.
-/

namespace Decomment

/-- The round in which an opening is tried: block pairs tied to the start of a line, delimiters,
other block pairs, line markers. -/
def Opening.rank : Opening → Nat
  | .block pair => if pair.lineStart then 0 else 2
  | .literal .. => 1
  | .line _ => 3

theorem Opening.rank_eq_block_iff {o : Opening} {lineStart : Bool} :
    o.rank = (if lineStart then 0 else 2) ↔
      ∃ pair : BlockPair, pair.lineStart = lineStart ∧ o = .block pair := by
  constructor
  · intro h
    cases o with
    | block pair =>
      refine ⟨pair, ?_, rfl⟩
      cases hpair : pair.lineStart <;> cases lineStart <;> simp [rank, hpair] at h ⊢
    | literal quote raw => cases lineStart <;> simp [rank] at h
    | line marker => cases lineStart <;> simp [rank] at h
  · rintro ⟨pair, rfl, rfl⟩
    rfl

theorem Opening.exists_literal_of_rank {o : Opening} (h : o.rank = 1) :
    ∃ quote raw, o = .literal quote raw := by
  cases o with
  | block pair => cases hpair : pair.lineStart <;> simp [rank, hpair] at h
  | literal quote raw => exact ⟨quote, raw, rfl⟩
  | line marker => simp [rank] at h

theorem Opening.exists_line_of_rank {o : Opening} (h : o.rank = 3) :
    ∃ marker, o = .line marker := by
  cases o with
  | block pair => cases hpair : pair.lineStart <;> simp [rank, hpair] at h
  | literal quote raw => simp [rank] at h
  | line marker => exact ⟨marker, rfl⟩

/-- The starts of the block pairs tied to the start of a line are pairwise distinct. -/
def Lexis.DistinctAnchors (lexis : Lexis) : Prop :=
  ((lexis.blocks.filter (·.lineStart)).map BlockPair.start).Nodup

instance (lexis : Lexis) : Decidable lexis.DistinctAnchors :=
  inferInstanceAs (Decidable (List.Nodup _))

theorem Lexis.DistinctAnchors.of_sameRules {lexis other : Lexis} (h : lexis.DistinctAnchors)
    (same : lexis.SameRules other) : other.DistinctAnchors :=
  ((same.blocks.filter _).map _).nodup_iff.1 h

namespace Scan

variable {lexis other : Lexis} {blank : Bool} {before : Option Char} {rest : List Char}

/-! ## Candidates -/

section
variable (lexis : Lexis) (blank : Bool) (before : Option Char) (rest : List Char)

/-- A construct of the rules can open at the start of `rest`: its token stands there, and what else
it asks for is given. -/
def CanOpen : Opening → Prop
  | .block pair =>
    pair ∈ lexis.blocks ∧ (pair.lineStart = true → blank = true) ∧ pair.start.toList <+: rest
  | .literal quote raw => (quote, raw) ∈ lexis.delimiters ∧ quote.delimiter.toList <+: rest
  | .line marker => marker ∈ lexis.lineMarkers ∧ marker.opensAt rest before = true

/-- A construct that can open here, in the first round in which any can, and every other candidate
of that round has a shorter token in UTF-8. -/
structure Preferred (o : Opening) : Prop where
  canOpen : CanOpen lexis blank before rest o
  first : ∀ rival, CanOpen lexis blank before rest rival → o.rank ≤ rival.rank
  longest : ∀ rival, CanOpen lexis blank before rest rival → rival.rank = o.rank → rival ≠ o →
    rival.token.utf8ByteSize < o.token.utf8ByteSize

end

theorem CanOpen.token_prefix {o : Opening} (h : CanOpen lexis blank before rest o) :
    o.token.toList <+: rest := by
  cases o with
  | block pair => exact h.2.2
  | literal quote raw => exact h.2
  | line marker => exact Text.startsWith_iff.1 (LineMarker.startsWith_of_opensAt h.2)

/-- Of one round, at most one candidate has a token of a given length. -/
theorem CanOpen.eq_of_size (sound : lexis.Sound) (distinct : lexis.DistinctAnchors)
    {o rival : Opening} (h : CanOpen lexis blank before rest o)
    (hrival : CanOpen lexis blank before rest rival) (hrank : rival.rank = o.rank)
    (hsize : rival.token.utf8ByteSize = o.token.utf8ByteSize) : rival = o := by
  have htoken := eq_of_prefix_of_utf8ByteSize_eq hrival.token_prefix h.token_prefix hsize
  cases o with
  | block pair =>
    obtain ⟨pair', hlines, rfl⟩ := Opening.rank_eq_block_iff.1 hrank
    congr 1
    cases hline : pair.lineStart with
    | true =>
      rw [hline] at hlines
      exact List.inj_on_of_nodup_map distinct (List.mem_filter.2 ⟨hrival.1, hlines⟩)
        (List.mem_filter.2 ⟨h.1, hline⟩) htoken
    | false =>
      rw [hline] at hlines
      exact sound.start_inj hrival.1 h.1 ⟨hlines, hline⟩ htoken
  | literal quote raw =>
    obtain ⟨quote', raw', rfl⟩ := Opening.exists_literal_of_rank hrank
    obtain ⟨rfl, rfl⟩ := Prod.mk.inj (sound.delimiter_inj hrival.1 h.1 htoken)
    rfl
  | line marker =>
    obtain ⟨marker', rfl⟩ := Opening.exists_line_of_rank hrank
    rw [sound.marker_inj hrival.1 h.1 htoken]

/-- No two constructs are preferred at one place. -/
theorem Preferred.unique {o rival : Opening} (h : Preferred lexis blank before rest o)
    (hrival : Preferred lexis blank before rest rival) : rival = o := by
  have hrank := Nat.le_antisymm (hrival.first o h.canOpen) (h.first rival hrival.canOpen)
  by_contra hne
  have hlt := h.longest rival hrival.canOpen hrank hne
  have hgt := hrival.longest o h.canOpen hrank.symm (Ne.symm hne)
  omega

/-! ## What one round finds -/

section
variable (lexis blank before rest)

/-- What one round finds. -/
def round? : Nat → Option Opening
  | 0 => (if blank then lexis.blockAt? true rest else none).map .block
  | 1 => (lexis.quoteAt? rest).map fun found => .literal found.1 found.2
  | 2 => (lexis.blockAt? false rest).map .block
  | _ => (lexis.lineMarkerAt? rest before).map .line

theorem opening?_eq_rounds :
    lexis.opening? blank before rest =
      (round? lexis blank before rest 0 <|> round? lexis blank before rest 1 <|>
        round? lexis blank before rest 2 <|> round? lexis blank before rest 3) :=
  rfl

end

/-- A round that finds nothing has no candidate. -/
theorem rank_ne_of_round?_eq_none {n : Nat} (h : round? lexis blank before rest n = none)
    {o : Opening} (ho : CanOpen lexis blank before rest o) : o.rank ≠ n := by
  intro hrank
  subst hrank
  cases o with
  | block pair =>
    cases hline : pair.lineStart with
    | true =>
      have hblank := ho.2.1 hline
      simp only [Opening.rank, hline, hblank, round?, if_true, Option.map_eq_none_iff,
        blockAt?_eq_none_iff] at h
      exact h pair ho.1 hline ho.2.2
    | false =>
      simp only [Opening.rank, hline, round?, Bool.false_eq_true, if_false,
        Option.map_eq_none_iff, blockAt?_eq_none_iff] at h
      exact h pair ho.1 hline ho.2.2
  | literal quote raw =>
    simp only [Opening.rank, round?, Option.map_eq_none_iff, quoteAt?_eq_none_iff] at h
    exact h (quote, raw) ho.1 ho.2
  | line marker =>
    simp only [Opening.rank, round?, Option.map_eq_none_iff, lineMarkerAt?_eq_none_iff] at h
    have hopens := ho.2
    simp [h marker ho.1] at hopens

variable (lexis blank before rest) in
/-- A candidate of the given round, of which none has a longer token. -/
structure LongestOf (n : Nat) (o : Opening) : Prop where
  canOpen : CanOpen lexis blank before rest o
  rank : o.rank = n
  size_le : ∀ rival, CanOpen lexis blank before rest rival → rival.rank = n →
    rival.token.utf8ByteSize ≤ o.token.utf8ByteSize

theorem longestOf_block (ordered : lexis.Ordered) {lineStart : Bool} {pair : BlockPair}
    (h : lexis.blockAt? lineStart rest = some pair) (hblank : lineStart = true → blank = true) :
    LongestOf lexis blank before rest (if lineStart then 0 else 2) (.block pair) := by
  obtain ⟨hmem, hline, hbegins⟩ := (blockAt?_eq_some_iff.1 h).mem
  refine ⟨⟨hmem, fun hp => hblank (hline ▸ hp), hbegins⟩, by rw [Opening.rank, hline], ?_⟩
  intro rival hrival hrank
  obtain ⟨pair', hlines, rfl⟩ := Opening.rank_eq_block_iff.1 hrank
  refine ordered.blocks.le_of_find? h hrival.1 ?_
  rw [hlines, beq_self_eq_true, Bool.true_and, Text.startsWith_iff]
  exact hrival.2.2

theorem longestOf_literal {quote : Quote} {raw : Bool}
    (h : lexis.quoteAt? rest = some (quote, raw)) :
    LongestOf lexis blank before rest 1 (.literal quote raw) := by
  have hlongest := longestQuote_of_quoteAt? h
  refine ⟨⟨hlongest.mem, hlongest.begins⟩, rfl, ?_⟩
  intro rival hrival hrank
  obtain ⟨quote', raw', rfl⟩ := Opening.exists_literal_of_rank hrank
  exact hlongest.longest (quote', raw') hrival.1 hrival.2

theorem longestOf_line (ordered : lexis.Ordered) {marker : LineMarker}
    (h : lexis.lineMarkerAt? rest before = some marker) :
    LongestOf lexis blank before rest 3 (.line marker) := by
  refine ⟨(lineMarkerAt?_eq_some_iff.1 h).mem, rfl, ?_⟩
  intro rival hrival hrank
  obtain ⟨marker', rfl⟩ := Opening.exists_line_of_rank hrank
  exact ordered.lineMarkers.le_of_find? h hrival.1 hrival.2

/-- A round finds a longest one of its candidates. -/
theorem longestOf_of_round? (ordered : lexis.Ordered) {n : Nat} (hn : n ≤ 3) {o : Opening}
    (h : round? lexis blank before rest n = some o) : LongestOf lexis blank before rest n o := by
  match n, hn with
  | 0, _ =>
    obtain ⟨pair, hpair, rfl⟩ := Option.map_eq_some_iff.1 h
    split at hpair
    · next hblank => exact longestOf_block ordered hpair fun _ => hblank
    · cases hpair
  | 1, _ =>
    obtain ⟨found, hfound, rfl⟩ := Option.map_eq_some_iff.1 h
    exact longestOf_literal hfound
  | 2, _ =>
    obtain ⟨pair, hpair, rfl⟩ := Option.map_eq_some_iff.1 h
    exact longestOf_block ordered hpair fun hfalse => nomatch hfalse
  | 3, _ =>
    obtain ⟨marker, hmarker, rfl⟩ := Option.map_eq_some_iff.1 h
    exact longestOf_line ordered hmarker

/-- What a round finds is preferred, if no round before it has a candidate. -/
theorem LongestOf.preferred (sound : lexis.Sound) (distinct : lexis.DistinctAnchors) {n : Nat}
    {o : Opening} (h : LongestOf lexis blank before rest n o)
    (hbefore : ∀ k < n, round? lexis blank before rest k = none) :
    Preferred lexis blank before rest o := by
  refine ⟨h.canOpen, fun rival hrival => ?_, fun rival hrival hrank hne => ?_⟩
  · rw [h.rank]
    by_contra hlt
    exact rank_ne_of_round?_eq_none (hbefore rival.rank (by omega)) hrival rfl
  · refine Nat.lt_of_le_of_ne (h.size_le rival hrival (hrank.trans h.rank)) fun hsize => hne ?_
    exact h.canOpen.eq_of_size sound distinct hrival hrank hsize

/-! ## What is taken -/

/-- Under sound rules with the longest tokens first, what is found at a place is preferred there. -/
theorem preferred_of_opening? (sound : lexis.Sound) (ordered : lexis.Ordered)
    (distinct : lexis.DistinctAnchors) {o : Opening}
    (h : lexis.opening? blank before rest = some o) : Preferred lexis blank before rest o := by
  rw [opening?_eq_rounds] at h
  simp only [Option.orElse_eq_orElse, Option.orElse_eq_or, Option.or_eq_some_iff] at h
  have preferred : ∀ n ≤ 3, round? lexis blank before rest n = some o →
      (∀ k < n, round? lexis blank before rest k = none) → Preferred lexis blank before rest o :=
    fun n hn ho hbefore => (longestOf_of_round? ordered hn ho).preferred sound distinct hbefore
  rcases h with h0 | ⟨h0, h1 | ⟨h1, h2 | ⟨h2, h3⟩⟩⟩
  · exact preferred 0 (by omega) h0 fun _ hk => absurd hk (Nat.not_lt_zero _)
  · exact preferred 1 (by omega) h1 fun | 0, _ => h0
  · exact preferred 2 (by omega) h2 fun | 0, _ => h0 | 1, _ => h1
  · exact preferred 3 (by omega) h3 fun | 0, _ => h0 | 1, _ => h1 | 2, _ => h2

/-- Where nothing is found, nothing can open. -/
theorem not_canOpen_of_opening? (h : lexis.opening? blank before rest = none) (o : Opening) :
    ¬ CanOpen lexis blank before rest o := by
  rw [opening?_eq_rounds] at h
  simp only [Option.orElse_eq_orElse, Option.orElse_eq_or, Option.or_eq_none_iff] at h
  obtain ⟨h0, h1, h2, h3⟩ := h
  intro ho
  have h0 := rank_ne_of_round?_eq_none h0 ho
  have h1 := rank_ne_of_round?_eq_none h1 ho
  have h2 := rank_ne_of_round?_eq_none h2 ho
  have h3 := rank_ne_of_round?_eq_none h3 ho
  cases o with
  | block pair => cases hline : pair.lineStart <;> simp [Opening.rank, hline] at h0 h2
  | literal quote raw => exact h1 rfl
  | line marker => exact h3 rfl

/-- **What is found at a place is what is preferred there.** -/
theorem opening?_eq_some_iff (sound : lexis.Sound) (ordered : lexis.Ordered)
    (distinct : lexis.DistinctAnchors) {o : Opening} :
    lexis.opening? blank before rest = some o ↔ Preferred lexis blank before rest o := by
  refine ⟨preferred_of_opening? sound ordered distinct, fun h => ?_⟩
  cases hfound : lexis.opening? blank before rest with
  | none => exact absurd h.canOpen (not_canOpen_of_opening? hfound o)
  | some found => rw [h.unique (preferred_of_opening? sound ordered distinct hfound)]

/-! ## The order of the lists -/

/-- What can open depends on what the lists hold, not on their order. -/
theorem canOpen_congr (same : lexis.SameRules other) {o : Opening} :
    CanOpen lexis blank before rest o ↔ CanOpen other blank before rest o := by
  cases o with
  | block pair => simp only [CanOpen, same.blocks.mem_iff]
  | literal quote raw =>
    simp only [CanOpen, Lexis.delimiters, List.mem_append, List.mem_map, same.quotes.mem_iff,
      same.rawQuotes.mem_iff]
  | line marker => simp only [CanOpen, same.lineMarkers.mem_iff]

theorem preferred_congr (same : lexis.SameRules other) {o : Opening} :
    Preferred lexis blank before rest o ↔ Preferred other blank before rest o := by
  constructor
  · rintro ⟨hopen, hfirst, hlongest⟩
    simp only [canOpen_congr same] at hopen hfirst hlongest
    exact ⟨hopen, hfirst, hlongest⟩
  · rintro ⟨hopen, hfirst, hlongest⟩
    simp only [← canOpen_congr same] at hopen hfirst hlongest
    exact ⟨hopen, hfirst, hlongest⟩

/-- With the longest tokens first, what is found is what the rules as they were given prefer. -/
theorem opening?_longestFirst (sound : lexis.Sound) (distinct : lexis.DistinctAnchors)
    {o : Opening} :
    lexis.longestFirst.opening? blank before rest = some o ↔
      Preferred lexis blank before rest o := by
  have same := lexis.sameRules_longestFirst
  rw [opening?_eq_some_iff sound.longestFirst lexis.ordered_longestFirst
    (distinct.of_sameRules same), preferred_congr same]

variable (blank before rest) in
theorem opening?_sameRules (sound : lexis.Sound) (distinct : lexis.DistinctAnchors)
    (same : lexis.SameRules other) :
    lexis.longestFirst.opening? blank before rest =
      other.longestFirst.opening? blank before rest := by
  refine Option.ext fun o => ?_
  rw [opening?_longestFirst sound distinct, preferred_congr same,
    opening?_longestFirst (sound.of_sameRules same) (distinct.of_sameRules same)]

namespace State

/-- A scan that takes an opening. -/
def opened (s : State) : Opening → State
  | .block pair => (s.skip pair.start.length).enter (.block pair 0 s.line)
  | .literal quote raw => (s.keep quote.delimiter.length).enter (.literal quote raw s.line)
  | .line marker => (s.skip marker.marker.length).enter .lineComment

theorem stepCode_of_some {s : State} {o : Opening}
    (h : lexis.opening? s.lineBlank s.read.head? s.rest = some o) :
    s.stepCode lexis = s.opened o := by
  rw [stepCode, h]
  cases o <;> rfl

theorem stepCode_of_none {s : State} (h : lexis.opening? s.lineBlank s.read.head? s.rest = none) :
    s.stepCode lexis = s.keep 1 := by
  rw [stepCode, h]

variable (lexis) in
/-- A step in code leads from `s` to `t`: it takes what is preferred at its place, or it keeps a
character where nothing can open. -/
inductive Takes (s t : State) : Prop
  | opens {o : Opening} (preferred : Preferred lexis s.lineBlank s.read.head? s.rest o)
      (eq : t = s.opened o)
  | keeps (quiet : ∀ o, ¬ CanOpen lexis s.lineBlank s.read.head? s.rest o) (eq : t = s.keep 1)

theorem takes_step (sound : lexis.Sound) (distinct : lexis.DistinctAnchors) {s : State}
    (hmode : s.mode = .code) : s.Takes lexis (s.step lexis.longestFirst) := by
  have hstep : s.step lexis.longestFirst = s.stepCode lexis.longestFirst := by rw [step, hmode]
  rw [hstep]
  cases hfound : lexis.longestFirst.opening? s.lineBlank s.read.head? s.rest with
  | some o =>
    exact .opens ((opening?_longestFirst sound distinct).1 hfound) (stepCode_of_some hfound)
  | none =>
    refine .keeps (fun o ho => ?_) (stepCode_of_none hfound)
    exact not_canOpen_of_opening? hfound o ((canOpen_congr lexis.sameRules_longestFirst).1 ho)

/-- A step looks at the rules through what opens and through the escape character. -/
theorem step_congr
    (hopening : ∀ blank before rest,
      lexis.opening? blank before rest = other.opening? blank before rest)
    (hescape : lexis.escape = other.escape) (s : State) : s.step lexis = s.step other := by
  simp only [step, stepCode, stepLiteral, hopening, hescape]

theorem run_congr (hstep : ∀ s : State, s.step lexis = s.step other) (fuel : Nat) (s : State) :
    s.run lexis fuel = s.run other fuel := by
  induction fuel generalizing s with
  | zero => rfl
  | succ fuel ih => rw [run, run, hstep, ih]

end State

/-- **The order of the lists is of no account, and the longest candidate wins.** Rules that differ
only in the order of their lists give the same text and the same advisories once the longest tokens
come first. Each step in code then takes the one longest candidate of the first round that has any.
-/
theorem scan_sameRules (sound : lexis.Sound) (distinct : lexis.DistinctAnchors)
    (same : lexis.SameRules other) (text : List Char) :
    scan lexis.longestFirst text = scan other.longestFirst text ∧
      ∀ s, State.Reaches lexis.longestFirst (.start text) s → s.mode = .code → s.rest ≠ [] →
        s.Takes lexis (s.step lexis.longestFirst) := by
  refine ⟨?_, fun s _ hmode _ => State.takes_step sound distinct hmode⟩
  have hstep := State.step_congr
    (fun blank before rest => opening?_sameRules blank before rest sound distinct same) same.escape
  rw [scan, scan, State.run_congr hstep]

/-- Python with its pairs and delimiters the other way round, so that short quotes come first. -/
def pythonReversed : Lexis :=
  { Language.python.lexis with
    blocks := Language.python.lexis.blocks.reverse
    quotes := Language.python.lexis.quotes.reverse }

/-- A literal in triple quotes after code, a comment, and documentation. -/
theorem scan_sameRules_python :
    pythonReversed.Sound ∧ pythonReversed.DistinctAnchors ∧
      pythonReversed.SameRules Language.python.lexis ∧
      scan pythonReversed.longestFirst "x = '''#''' # b\n\"\"\"c\"\"\"".toList =
        scan Language.python.lexis.longestFirst "x = '''#''' # b\n\"\"\"c\"\"\"".toList ∧
      ∀ s, State.Reaches pythonReversed.longestFirst
          (.start "x = '''#''' # b\n\"\"\"c\"\"\"".toList) s →
        s.mode = .code → s.rest ≠ [] →
          s.Takes pythonReversed (s.step pythonReversed.longestFirst) := by
  have same : pythonReversed.SameRules Language.python.lexis :=
    ⟨.refl _, List.reverse_perm _, List.reverse_perm _, .refl _, rfl⟩
  exact ⟨by decide, by decide, same, scan_sameRules (by decide) (by decide) same _⟩

end Scan

end Decomment
