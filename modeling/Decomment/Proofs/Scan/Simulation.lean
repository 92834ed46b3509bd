import Decomment.Proofs.Scan.Run
import Mathlib.Data.List.Induction

/-!
# A cut is what a scan does

`Cut.scan_eq`: under sound rules, whatever segments a text is cut into, `scan` keeps what they keep
and raises their advisories. The proof follows the scan through one segment at a time
(`Segment.Fits.passes`). Every state on the way is that of a scan at some place (`State.atPlace`),
so a step is an equation between two such states.
-/

namespace Decomment.Scan

/-- The flag for a blank line says what its name says. -/
theorem foldl_blankAfter_iff {kept : List Char} :
    kept.foldl blankAfter true = true ↔ BlankLine kept := by
  induction kept using List.reverseRecOn with
  | nil => simp [blankLine_nil]
  | append_singleton kept c ih =>
    rw [List.foldl_append, List.foldl_cons, List.foldl_nil, blankLine_concat, blankAfter,
      Bool.or_eq_true, Bool.and_eq_true, beq_iff_eq, ih]

theorem countBreaks_append (u v : List Char) :
    Text.countBreaks (u ++ v) = Text.countBreaks u + Text.countBreaks v :=
  List.count_append

namespace State

/-! ## States at a place -/

/-- A scan that has come to a place. -/
def atPlace (mode : Mode) (place : Place) (rest : List Char) (raised : List Advisory) : State where
  mode := mode
  read := place.before.reverse
  rest := rest
  kept := place.kept.reverse
  lineBlank := place.kept.foldl blankAfter true
  line := 1 + Text.countBreaks place.before
  advisories := raised

section
variable (mode : Mode) (place : Place) (raised : List Advisory)

@[simp] theorem rest_atPlace (rest : List Char) :
    (atPlace mode place rest raised).rest = rest := rfl

@[simp] theorem reverse_read_atPlace (rest : List Char) :
    (atPlace mode place rest raised).read.reverse = place.before :=
  List.reverse_reverse _

@[simp] theorem reverse_kept_atPlace (rest : List Char) :
    (atPlace mode place rest raised).kept.reverse = place.kept :=
  List.reverse_reverse _

theorem skip_atPlace (chars rest : List Char) :
    (atPlace mode place (chars ++ rest) raised).skip chars.length =
      atPlace mode ⟨place.before ++ chars, place.kept⟩ rest raised := by
  simp [atPlace, skip, List.reverseAux_eq, countBreaks_append, Nat.add_assoc]

theorem keep_atPlace (chars rest : List Char) :
    (atPlace mode place (chars ++ rest) raised).keep chars.length =
      atPlace mode ⟨place.before ++ chars, place.kept ++ chars⟩ rest raised := by
  rw [keep, skip_atPlace]
  simp [atPlace, List.reverseAux_eq]

theorem skip_token (token : String) (rest : List Char) :
    (atPlace mode place (token.toList ++ rest) raised).skip token.length =
      atPlace mode ⟨place.before ++ token.toList, place.kept⟩ rest raised := by
  rw [← String.length_toList, skip_atPlace]

theorem keep_token (token : String) (rest : List Char) :
    (atPlace mode place (token.toList ++ rest) raised).keep token.length =
      atPlace mode ⟨place.before ++ token.toList, place.kept ++ token.toList⟩ rest raised := by
  rw [← String.length_toList, keep_atPlace]

end

/-! ## Every state of a scan is at a place -/

/-- What a scan has read and kept makes up a place, and its line and its flag for a blank line are
those of the place. -/
def AtSomePlace (s : State) : Prop :=
  ∃ mode place rest raised, s = atPlace mode place rest raised

section
variable {lexis : Lexis} {s t : State}

theorem AtSomePlace.skip (h : s.AtSomePlace) (n : Nat) : (s.skip n).AtSomePlace := by
  obtain ⟨mode, place, rest, raised, rfl⟩ := h
  refine ⟨mode, ⟨place.before ++ rest.take n, place.kept⟩, rest.drop n, raised, ?_⟩
  simp [atPlace, State.skip, List.reverseAux_eq, countBreaks_append, Nat.add_assoc]

theorem AtSomePlace.keep (h : s.AtSomePlace) (n : Nat) : (s.keep n).AtSomePlace := by
  obtain ⟨mode, place, rest, raised, rfl⟩ := h
  refine ⟨mode, ⟨place.before ++ rest.take n, place.kept ++ rest.take n⟩, rest.drop n, raised, ?_⟩
  simp [atPlace, State.keep, State.skip, List.reverseAux_eq, countBreaks_append, Nat.add_assoc]

theorem AtSomePlace.enter (h : s.AtSomePlace) (mode : Mode) : (s.enter mode).AtSomePlace := by
  obtain ⟨_, place, rest, raised, rfl⟩ := h
  exact ⟨mode, place, rest, raised, rfl⟩

theorem AtSomePlace.advise (h : s.AtSomePlace) (a : Advisory) : (s.advise a).AtSomePlace := by
  obtain ⟨mode, place, rest, raised, rfl⟩ := h
  exact ⟨mode, place, rest, a :: raised, rfl⟩

theorem AtSomePlace.step (h : s.AtSomePlace) : (s.step lexis).AtSomePlace := by
  rw [State.step]
  split
  · rw [stepCode]
    split
    · exact (h.skip _).enter _
    · exact (h.keep _).enter _
    · exact (h.skip _).enter _
    · exact h.keep 1
  · rw [stepLiteral]
    split
    · exact h.keep 2
    split
    · exact (h.keep _).enter _
    split
    · exact (h.advise _).enter _
    · exact h.keep 1
  · exact (h.skip _).enter _
  split
  · unfold stepNestedBlock
    split
    · exact (h.skip _).enter _
    split
    · exact (h.skip _).enter _
    · exact h.skip 1
  · rw [stepFlatBlock]
    split
    · exact (h.skip _).enter _
    · exact h.skip _

/-- A scan of a text is at a place at every step. -/
theorem atSomePlace_of_reaches {text : List Char} (h : Reaches lexis (.start text) s) :
    s.AtSomePlace :=
  h.preserves (fun _ => AtSomePlace.step) ⟨.code, ⟨[], []⟩, text, [], rfl⟩

variable (lexis s t) in
/-- A scan goes from `s` over some characters back to code, where it has kept `kept` of them and has
raised nothing. -/
structure Crosses (chars kept : List Char) : Prop where
  reaches : Reaches lexis s t
  mode : t.mode = .code
  input : s.rest = chars ++ t.rest
  read : t.read.reverse = s.read.reverse ++ chars
  kept : t.kept.reverse = s.kept.reverse ++ kept
  advisories : t.advisories = s.advisories

theorem crosses_of_reaches {mode : Mode} {place : Place} {chars kept rest : List Char}
    {raised : List Advisory}
    (h : Reaches lexis (atPlace mode place (chars ++ rest) raised)
      (atPlace .code ⟨place.before ++ chars, place.kept ++ kept⟩ rest raised)) :
    Crosses lexis (atPlace mode place (chars ++ rest) raised)
      (atPlace .code ⟨place.before ++ chars, place.kept ++ kept⟩ rest raised) chars kept where
  reaches := h
  mode := rfl
  input := rfl
  read := by simp
  kept := by simp
  advisories := rfl

end

/-! ## Steps in code -/

section
variable {lexis : Lexis} {place : Place} {rest : List Char} {raised : List Advisory}

theorem opening?_atPlace (sound : lexis.Sound) {o : Opening} (h : Opens lexis place rest o) :
    lexis.opening? (atPlace .code place rest raised).lineBlank
      (atPlace .code place rest raised).read.head? (atPlace .code place rest raised).rest =
        some o := by
  rw [atPlace, List.head?_reverse]
  exact opening?_of_opens sound foldl_blankAfter_iff h

theorem step_block_of_opening? {pair : BlockPair}
    (h : lexis.opening? (atPlace .code place (pair.start.toList ++ rest) raised).lineBlank
      (atPlace .code place (pair.start.toList ++ rest) raised).read.head?
      (pair.start.toList ++ rest) = some (.block pair)) :
    (atPlace .code place (pair.start.toList ++ rest) raised).step lexis =
      atPlace (.block pair 0 (1 + Text.countBreaks place.before))
        ⟨place.before ++ pair.start.toList, place.kept⟩ rest raised := by
  show stepCode _ lexis = _
  rw [stepCode, rest_atPlace, h]
  dsimp only
  rw [skip_token]
  rfl

theorem step_block (sound : lexis.Sound) {pair : BlockPair}
    (h : Opens lexis place (pair.start.toList ++ rest) (.block pair)) :
    (atPlace .code place (pair.start.toList ++ rest) raised).step lexis =
      atPlace (.block pair 0 (1 + Text.countBreaks place.before))
        ⟨place.before ++ pair.start.toList, place.kept⟩ rest raised :=
  step_block_of_opening? (opening?_atPlace sound h)

theorem step_literal (sound : lexis.Sound) {quote : Quote} {raw : Bool}
    (h : Opens lexis place (quote.delimiter.toList ++ rest) (.literal quote raw)) :
    (atPlace .code place (quote.delimiter.toList ++ rest) raised).step lexis =
      atPlace (.literal quote raw (1 + Text.countBreaks place.before))
        ⟨place.before ++ quote.delimiter.toList, place.kept ++ quote.delimiter.toList⟩
        rest raised := by
  show stepCode _ lexis = _
  rw [stepCode, opening?_atPlace sound h]
  dsimp only
  rw [keep_token]
  rfl

theorem step_line (sound : lexis.Sound) {marker : LineMarker}
    (h : Opens lexis place (marker.marker.toList ++ rest) (.line marker)) :
    (atPlace .code place (marker.marker.toList ++ rest) raised).step lexis =
      atPlace .lineComment ⟨place.before ++ marker.marker.toList, place.kept⟩ rest raised := by
  show stepCode _ lexis = _
  rw [stepCode, opening?_atPlace sound h]
  dsimp only
  rw [skip_token]
  rfl

theorem step_quiet {c : Char} (h : Quiet lexis place (c :: rest)) :
    (atPlace .code place (c :: rest) raised).step lexis =
      atPlace .code ⟨place.before ++ [c], place.kept ++ [c]⟩ rest raised := by
  have hnone : lexis.opening? (atPlace .code place (c :: rest) raised).lineBlank
      (atPlace .code place (c :: rest) raised).read.head?
      (atPlace .code place (c :: rest) raised).rest = none := by
    rw [atPlace, List.head?_reverse]
    exact opening?_of_quiet foldl_blankAfter_iff h
  show stepCode _ lexis = _
  rw [stepCode, hnone]
  exact keep_atPlace _ _ _ [c] rest

end

end State

open State

/-! ## Through a literal -/

section
variable {lexis : Lexis} {quote : Quote} {raw : Bool} {line : Nat} {place : Place}
  {raised : List Advisory}

theorem Unescaped.eq_false {rest : List Char} (h : Unescaped lexis raw rest) :
    (!raw && escapesNext lexis.escape rest) = false := by
  rcases h with rfl | h
  · rfl
  · rw [h, Bool.and_false]

/-- A scan reads the inside of a literal up to what ends it, and keeps all of it. -/
theorem LiteralBody.reaches {tail body : List Char} (h : LiteralBody lexis quote raw tail body) :
    Reaches lexis (atPlace (.literal quote raw line) place (body ++ tail) raised)
      (atPlace (.literal quote raw line) ⟨place.before ++ body, place.kept ++ body⟩ tail
        raised) := by
  induction h generalizing place with
  | nil =>
    rw [List.append_nil, List.append_nil]
    exact .refl _
  | @escaped c d body hraw hescape _ ih =>
    have hstep : (atPlace (.literal quote raw line) place (c :: d :: body ++ tail) raised).step lexis =
        atPlace (.literal quote raw line) ⟨place.before ++ [c, d], place.kept ++ [c, d]⟩
          (body ++ tail) raised := by
      show stepLiteral _ lexis quote raw line = _
      rw [stepLiteral, if_pos (by simp [atPlace, escapesNext, hraw, hescape])]
      exact keep_atPlace _ _ _ [c, d] (body ++ tail)
    refine .step (by simp [atPlace]) ?_
    rw [hstep]
    simpa using @ih ⟨place.before ++ [c, d], place.kept ++ [c, d]⟩
  | @plain c body hc _ ih =>
    have hbreak : (!quote.multiline && Text.startsWithBreak (c :: (body ++ tail))) = false := by
      rcases hc.no_break with h | h <;> simp [h]
    have hstep : (atPlace (.literal quote raw line) place (c :: body ++ tail) raised).step lexis =
        atPlace (.literal quote raw line) ⟨place.before ++ [c], place.kept ++ [c]⟩
          (body ++ tail) raised := by
      show stepLiteral _ lexis quote raw line = _
      rw [stepLiteral]
      simp only [atPlace, List.cons_append, hc.unescaped.eq_false, hbreak,
        Text.startsWith_eq_false_iff.2 hc.no_delimiter, Bool.false_eq_true, if_false]
      exact keep_atPlace _ _ _ [c] (body ++ tail)
    refine .step (by simp [atPlace]) ?_
    rw [hstep]
    simpa using @ih ⟨place.before ++ [c], place.kept ++ [c]⟩

/-- The delimiter of a literal closes it. -/
theorem step_closeLiteral {after : List Char}
    (h : Close.Fits lexis quote raw after .delimiter) :
    (atPlace (.literal quote raw line) place (quote.delimiter.toList ++ after) raised).step lexis =
      atPlace .code ⟨place.before ++ quote.delimiter.toList, place.kept ++ quote.delimiter.toList⟩
        after raised := by
  have hstarts : Text.startsWith (quote.delimiter.toList ++ after) quote.delimiter = true :=
    Text.startsWith_iff.2 (List.prefix_append _ _)
  show stepLiteral _ lexis quote raw line = _
  rw [stepLiteral, rest_atPlace, if_neg (by rw [Unescaped.eq_false h]; simp), if_pos hstarts,
    keep_token]
  rfl

/-- A line break ends a literal of one line, with an advisory. -/
theorem step_breakLiteral {after : List Char} (h : Close.Fits lexis quote raw after .lineBreak) :
    (atPlace (.literal quote raw line) place after raised).step lexis =
      atPlace .code place after (.unterminatedString quote.delimiter line :: raised) := by
  obtain ⟨hescape, hdelimiter, hsingle, hbreak⟩ := h
  show stepLiteral _ lexis quote raw line = _
  rw [stepLiteral]
  simp only [atPlace, hescape.eq_false, Text.startsWith_eq_false_iff.2 hdelimiter, hsingle, hbreak,
    Bool.false_eq_true, if_false, Bool.not_false, Bool.and_self, if_true]
  rfl

end

/-! ## Through a block comment -/

section
variable {lexis : Lexis} {pair : BlockPair} {line : Nat} {place : Place} {raised : List Advisory}

/-- A closing marker closes the innermost level. -/
theorem step_closeLevel (hnest : pair.nestable = true) {depth : Nat} {rest : List Char} :
    (atPlace (.block pair depth line) place (pair.stop.toList ++ rest) raised).step lexis =
      atPlace (match depth with | 0 => .code | depth + 1 => .block pair depth line)
        ⟨place.before ++ pair.stop.toList, place.kept⟩ rest raised := by
  show (if pair.nestable then _ else _) = _
  unfold stepNestedBlock
  rw [if_pos hnest, rest_atPlace, if_pos (Text.startsWith_iff.2 (List.prefix_append _ _)),
    skip_token]
  rfl

/-- A start marker opens a further level. -/
theorem step_openLevel (hnest : pair.nestable = true) {depth : Nat} {rest : List Char}
    (hstop : ¬ pair.stop.toList <+: pair.start.toList ++ rest) :
    (atPlace (.block pair depth line) place (pair.start.toList ++ rest) raised).step lexis =
      atPlace (.block pair (depth + 1) line) ⟨place.before ++ pair.start.toList, place.kept⟩
        rest raised := by
  show (if pair.nestable then _ else _) = _
  unfold stepNestedBlock
  rw [if_pos hnest, rest_atPlace, if_neg (by rwa [Text.startsWith_iff]),
    if_pos (Text.startsWith_iff.2 (List.prefix_append _ _)), skip_token]
  rfl

/-- Any other character of a block comment that nests is passed over. -/
theorem step_inLevel (hnest : pair.nestable = true) {depth : Nat} {c : Char} {rest : List Char}
    (hstop : ¬ pair.stop.toList <+: c :: rest) (hstart : ¬ pair.start.toList <+: c :: rest) :
    (atPlace (.block pair depth line) place (c :: rest) raised).step lexis =
      atPlace (.block pair depth line) ⟨place.before ++ [c], place.kept⟩ rest raised := by
  show (if pair.nestable then _ else _) = _
  unfold stepNestedBlock
  rw [if_pos hnest, rest_atPlace, if_neg (by rwa [Text.startsWith_iff]),
    if_neg (by rwa [Text.startsWith_iff])]
  exact skip_atPlace _ _ _ [c] rest

theorem toList_append_ne_nil {token : String} (h : token ≠ "") (rest : List Char) :
    token.toList ++ rest ≠ [] :=
  List.append_ne_nil_of_left_ne_nil (Text.toList_ne_nil h) rest

/-- A scan reads the inside of a block comment that nests and keeps nothing of it. -/
theorem Levels.reaches (hnest : pair.nestable = true) (hstart : pair.start ≠ "")
    (hstop : pair.stop ≠ "") {tail body : List Char} {depth last : Nat}
    (h : Levels pair tail depth body last) :
    Reaches lexis (atPlace (.block pair depth line) place (body ++ tail) raised)
      (atPlace (.block pair last line) ⟨place.before ++ body, place.kept⟩ tail raised) := by
  induction h generalizing place with
  | nil =>
    rw [List.append_nil]
    exact .refl _
  | @close depth last body _ ih =>
    rw [List.append_assoc]
    refine .step (toList_append_ne_nil hstop _) ?_
    rw [step_closeLevel hnest]
    simpa using @ih ⟨place.before ++ pair.stop.toList, place.kept⟩
  | @nest depth last body hfirst _ ih =>
    rw [List.append_assoc] at hfirst ⊢
    refine .step (toList_append_ne_nil hstart _) ?_
    rw [step_openLevel hnest hfirst]
    simpa using @ih ⟨place.before ++ pair.start.toList, place.kept⟩
  | @plain depth last c body hclose hopen _ ih =>
    refine .step (List.cons_ne_nil _ _) ?_
    rw [List.cons_append, step_inLevel hnest hclose hopen]
    simpa using @ih ⟨place.before ++ [c], place.kept⟩

/-- A block comment that does not nest closes at its first closing marker. -/
theorem step_flat_closed (hnest : pair.nestable = false) {depth : Nat} {body after : List Char}
    (h : Text.Avoids pair.stop body (pair.stop.toList ++ after)) :
    (atPlace (.block pair depth line) place (body ++ (pair.stop.toList ++ after)) raised).step
        lexis =
      atPlace .code ⟨place.before ++ (body ++ pair.stop.toList), place.kept⟩ after raised := by
  have hlength : body.length + pair.stop.length = (body ++ pair.stop.toList).length := by
    rw [List.length_append, String.length_toList]
  show (if pair.nestable then _ else _) = _
  rw [if_neg (by rw [hnest]; simp), stepFlatBlock, rest_atPlace, Text.indexOf?_append h]
  dsimp only
  rw [hlength, ← List.append_assoc, skip_atPlace]
  rfl

/-- A block comment that does not nest and that nothing closes goes to the end of the text. -/
theorem step_flat_open (hnest : pair.nestable = false) (hstop : pair.stop ≠ "") {depth : Nat}
    {body : List Char} (h : Text.Avoids pair.stop body []) :
    (atPlace (.block pair depth line) place body raised).step lexis =
      atPlace (.block pair depth line) ⟨place.before ++ body, place.kept⟩ [] raised := by
  show (if pair.nestable then _ else _) = _
  rw [if_neg (by rw [hnest]; simp), stepFlatBlock, rest_atPlace, Text.indexOf?_eq_none hstop h]
  simpa using skip_atPlace (.block pair depth line) place raised body []

end

/-! ## Through a segment -/

section
variable {lexis : Lexis} {place : Place} {after : List Char} {raised : List Advisory}

variable (lexis place after raised) in
/-- A scan passes a segment: it comes back to code behind it, with the segment's advisory raised, or
the text ends inside of the segment, which the scan then reports as left open. -/
def Passes (segment : Segment) : Prop :=
  let line := 1 + Text.countBreaks place.before
  let s := atPlace .code place (segment.chars ++ after) raised
  Reaches lexis s (atPlace .code (place.after segment) after
    ((segment.advisory? line).toList ++ raised)) ∨
  after = [] ∧ ∃ mode : Mode, mode.leftOpen? = segment.advisory? line ∧
    Reaches lexis s (atPlace mode (place.after segment) [] raised)

/-- The first step into what opens has something to read. -/
theorem Opens.rest_ne_nil (sound : lexis.Sound) {o : Opening} {rest : List Char}
    (h : Opens lexis place rest o) : rest ≠ [] := by
  rintro rfl
  exact h.listed.token_ne_nil sound (List.prefix_nil.1 h.token_prefix)

variable (raised) in
/-- A scan that opens a literal reads its inside up to what ends it. -/
theorem reaches_inLiteral (sound : lexis.Sound) {quote : Quote} {raw : Bool} {body tail : List Char}
    (hopens : Opens lexis place (quote.delimiter.toList ++ (body ++ tail)) (.literal quote raw))
    (hbody : LiteralBody lexis quote raw tail body) :
    Reaches lexis (atPlace .code place (quote.delimiter.toList ++ (body ++ tail)) raised)
      (atPlace (.literal quote raw (1 + Text.countBreaks place.before))
        ⟨place.before ++ quote.delimiter.toList ++ body,
          place.kept ++ quote.delimiter.toList ++ body⟩ tail raised) :=
  .trans (.of_step (hopens.rest_ne_nil sound) (step_literal sound hopens)) hbody.reaches

variable (raised) in
/-- A scan reads a literal that its delimiter closes, keeps all of it, and is back in code. -/
theorem reaches_closedLiteral (sound : lexis.Sound) {quote : Quote} {raw : Bool} {body : List Char}
    (h : (Segment.literal quote raw body .delimiter).Fits lexis place after) :
    let chars := (Segment.literal quote raw body .delimiter).chars
    Reaches lexis (atPlace .code place (chars ++ after) raised)
      (atPlace .code ⟨place.before ++ chars, place.kept ++ chars⟩ after raised) := by
  obtain ⟨hopens, hbody, hclose⟩ := h
  have hsplit : (Segment.literal quote raw body .delimiter).chars ++ after =
      quote.delimiter.toList ++ (body ++ (quote.delimiter.toList ++ after)) := by
    simp [Segment.chars, Close.chars]
  have hne := toList_append_ne_nil (sound.delimiter_ne hopens.2.mem) after
  dsimp only
  rw [hsplit] at hopens ⊢
  refine (reaches_inLiteral raised sound hopens hbody).trans (.of_step hne ?_)
  rw [step_closeLiteral hclose]
  simp [Segment.chars, Close.chars]

theorem passes_literal (sound : lexis.Sound) {quote : Quote} {raw : Bool} {body : List Char}
    {close : Close} (h : (Segment.literal quote raw body close).Fits lexis place after) :
    Passes lexis place after raised (.literal quote raw body close) := by
  have hsplit : (Segment.literal quote raw body close).chars ++ after =
      quote.delimiter.toList ++ (body ++ (close.chars quote ++ after)) := by
    simp [Segment.chars]
  cases close with
  | delimiter =>
    refine .inl ?_
    simpa [Place.after, Segment.kept, Segment.isKept, Segment.advisory?] using
      reaches_closedLiteral raised sound h
  | lineBreak =>
    obtain ⟨hopens, hbody, hclose⟩ := h
    rw [hsplit] at hopens
    have hne : after ≠ [] := by
      rintro rfl
      cases hclose.2.2.2
    rw [Passes, hsplit]
    refine .inl ((reaches_inLiteral raised sound hopens hbody).trans (.of_step hne ?_))
    rw [Close.chars, List.nil_append, step_breakLiteral hclose]
    simp [Place.after, Segment.kept, Segment.isKept, Segment.chars, Close.chars, Segment.advisory?]
  | textEnd =>
    obtain ⟨hopens, hbody, rfl⟩ := h
    rw [hsplit] at hopens
    rw [Passes, hsplit]
    refine .inr ⟨rfl, .literal quote raw (1 + Text.countBreaks place.before), rfl, ?_⟩
    simpa [Place.after, Segment.kept, Segment.isKept, Segment.chars, Close.chars] using
      reaches_inLiteral raised sound hopens hbody

theorem passes_line (sound : lexis.Sound) {marker : LineMarker} {body : List Char}
    (h : (Segment.line marker body).Fits lexis place after) :
    Passes lexis place after raised (.line marker body) := by
  obtain ⟨hopens, hends⟩ := h
  have hsplit : (Segment.line marker body).chars ++ after =
      marker.marker.toList ++ (body ++ after) := by
    simp [Segment.chars]
  rw [hsplit] at hopens
  have hopened : Reaches lexis (atPlace .code place _ raised) _ :=
    .of_step (hopens.rest_ne_nil sound) (step_line sound hopens)
  have hplace : place.after (.line marker body) =
      ⟨place.before ++ marker.marker.toList ++ body, place.kept⟩ := by
    simp [Place.after, Segment.kept, Segment.isKept, Segment.chars]
  rw [Passes, hsplit, hplace]
  by_cases hrest : body ++ after = []
  · obtain ⟨rfl, rfl⟩ := List.append_eq_nil_iff.1 hrest
    refine .inr ⟨rfl, .lineComment, rfl, ?_⟩
    simpa using hopened
  · refine .inl (hopened.trans (.of_step hrest ?_))
    show stepLine _ = _
    rw [stepLine, rest_atPlace, Text.lineLength_append hends, skip_atPlace]
    rfl

theorem passes_closedBlock (sound : lexis.Sound) {pair : BlockPair} {body : List Char}
    (h : (Segment.block pair body true).Fits lexis place after) :
    Passes lexis place after raised (.block pair body true) := by
  obtain ⟨hopens, hbody⟩ := h
  have hsplit : (Segment.block pair body true).chars ++ after =
      pair.start.toList ++ (body ++ (pair.stop.toList ++ after)) := by
    simp [Segment.chars]
  rw [hsplit] at hopens
  have hopened : Reaches lexis (atPlace .code place _ raised) _ :=
    .of_step (hopens.rest_ne_nil sound) (step_block sound hopens)
  have hstart := sound.start_ne hopens.listed
  have hstop := sound.stop_ne hopens.listed
  have hplace : place.after (.block pair body true) =
      ⟨place.before ++ pair.start.toList ++ (body ++ pair.stop.toList), place.kept⟩ := by
    simp [Place.after, Segment.kept, Segment.isKept, Segment.chars]
  rw [Passes, hsplit, hplace]
  refine .inl (hopened.trans ?_)
  cases hnest : pair.nestable with
  | false =>
    simp only [BlockBody, hnest] at hbody
    refine .of_step ?_ (step_flat_closed hnest hbody)
    exact fun hnil => toList_append_ne_nil hstop after (List.append_eq_nil_iff.1 hnil).2
  | true =>
    simp only [BlockBody, hnest] at hbody
    refine (hbody.reaches hnest hstart hstop).trans (.of_step (toList_append_ne_nil hstop after) ?_)
    rw [step_closeLevel hnest]
    simp [Segment.advisory?]

theorem passes_openBlock (sound : lexis.Sound) {pair : BlockPair} {body : List Char}
    (h : (Segment.block pair body false).Fits lexis place after) :
    Passes lexis place after raised (.block pair body false) := by
  obtain ⟨hopens, hbody⟩ := h
  have hsplit : (Segment.block pair body false).chars ++ after =
      pair.start.toList ++ (body ++ after) := by
    simp [Segment.chars]
  rw [hsplit] at hopens
  have hopened : Reaches lexis (atPlace .code place _ raised) _ :=
    .of_step (hopens.rest_ne_nil sound) (step_block sound hopens)
  have hplace : place.after (.block pair body false) =
      ⟨place.before ++ pair.start.toList ++ body, place.kept⟩ := by
    simp [Place.after, Segment.kept, Segment.isKept, Segment.chars]
  rw [Passes, hsplit, hplace]
  cases hnest : pair.nestable with
  | false =>
    simp only [BlockBody, hnest] at hbody
    obtain ⟨rfl, havoids⟩ := hbody
    refine .inr ⟨rfl, .block pair 0 (1 + Text.countBreaks place.before), rfl, hopened.trans ?_⟩
    rw [List.append_nil]
    by_cases hempty : body = []
    · subst hempty
      rw [List.append_nil]
      exact .refl _
    · exact .of_step hempty (step_flat_open hnest (sound.stop_ne hopens.listed) havoids)
  | true =>
    simp only [BlockBody, hnest] at hbody
    obtain ⟨rfl, depth, hlevels⟩ := hbody
    refine .inr ⟨rfl, .block pair depth (1 + Text.countBreaks place.before), rfl, hopened.trans ?_⟩
    exact hlevels.reaches hnest (sound.start_ne hopens.listed) (sound.stop_ne hopens.listed)

/-- **A scan passes every segment that fits.** -/
theorem Segment.Fits.passes (sound : lexis.Sound) {segment : Segment}
    (h : segment.Fits lexis place after) : Passes lexis place after raised segment := by
  cases segment with
  | code c => exact .inl (.of_step (List.cons_ne_nil _ _) (step_quiet h))
  | literal quote raw body close => exact passes_literal sound h
  | line marker body => exact passes_line sound h
  | block pair body closed =>
    cases closed with
    | true => exact passes_closedBlock sound h
    | false => exact passes_openBlock sound h

/-- A segment that fits is not empty. -/
theorem Segment.Fits.chars_ne_nil (sound : lexis.Sound) {segment : Segment}
    (h : segment.Fits lexis place after) : segment.chars ≠ [] := by
  have hne : ∀ {o : Opening}, Listed lexis o → ∀ rest, o.token.toList ++ rest ≠ [] :=
    fun ho rest hnil => ho.token_ne_nil sound (List.append_eq_nil_iff.1 hnil).1
  cases segment with
  | code c => exact List.cons_ne_nil _ _
  | literal quote raw body close => exact hne h.1.listed _
  | line marker body => exact hne h.1.listed _
  | block pair body closed =>
    cases closed with
    | true => exact hne h.1.listed _
    | false => exact hne h.1.listed _

end

/-! ## Through a cut -/

/-- The segments of a cut are not empty. -/
theorem Cut.chars_ne_nil {lexis : Lexis} (sound : lexis.Sound) {place : Place}
    {segments : List Segment} (h : Cut lexis place segments) :
    ∀ segment ∈ segments, segment.chars ≠ [] := by
  intro segment hsegment
  obtain ⟨earlier, later, rfl⟩ := List.append_of_mem hsegment
  exact h.fits.chars_ne_nil sound

/-- The empty text is cut into no segments. -/
theorem Cut.eq_nil {lexis : Lexis} (sound : lexis.Sound) {place : Place} {segments : List Segment}
    (h : Cut lexis place segments) (hend : Segment.text segments = []) : segments = [] := by
  cases segments with
  | nil => rfl
  | cons segment segments =>
    exact absurd (List.append_eq_nil_iff.1 hend).1 (h.1.chars_ne_nil sound)

/-- A scan that stands at the start of a cut comes to its end, with what the segments keep and with
their advisories. -/
theorem Cut.reaches {lexis : Lexis} (sound : lexis.Sound) {place : Place} {segments : List Segment}
    (h : Cut lexis place segments) (raised : List Advisory) :
    ∃ t, Reaches lexis (atPlace .code place (Segment.text segments) raised) t ∧ t.rest = [] ∧
      Stripped.ofState t = ⟨place.kept ++ Segment.keptText segments,
        raised.reverse ++ Segment.advisories (1 + Text.countBreaks place.before) segments⟩ := by
  induction segments generalizing place raised with
  | nil =>
    refine ⟨_, .refl _, rfl, ?_⟩
    simp [Stripped.ofState, atPlace, Mode.leftOpen?, Segment.advisories]
  | cons segment segments ih =>
    rcases h.1.passes sound with hcode | ⟨hend, mode, hmode, hopen⟩
    · obtain ⟨t, hreach, ht, hstripped⟩ := ih h.2 _
      refine ⟨t, hcode.trans hreach, ht, ?_⟩
      rw [hstripped]
      have hrev : ∀ a : Option Advisory, a.toList.reverse = a.toList := fun a => by cases a <;> rfl
      simp [Place.after, Segment.advisories, hrev, countBreaks_append, Nat.add_assoc]
    · -- the text ends inside of this segment, so no other segment follows it
      obtain rfl := h.2.eq_nil sound hend
      refine ⟨_, hopen, rfl, ?_⟩
      simp [Stripped.ofState, atPlace, hmode, Place.after, Segment.advisories]

/-- **What a scan gives for a cut text.** -/
theorem Cut.scan_eq {lexis : Lexis} (sound : lexis.Sound) {segments : List Segment}
    (h : Cut lexis ⟨[], []⟩ segments) :
    scan lexis (Segment.text segments) =
      ⟨Segment.keptText segments, Segment.advisories 1 segments⟩ := by
  obtain ⟨t, hreach, ht, hstripped⟩ := h.reaches sound []
  rw [scan_eq_of_reaches sound hreach ht, hstripped]
  simp [Text.countBreaks]

end Decomment.Scan
