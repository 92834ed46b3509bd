import Decomment.Proofs.Scan.Partition

/-!
# Nesting matters only where comments nest

A pair that does not nest is passed with one search for its closing marker, and a pair that nests
with two tests at every character and a count of levels. `scan_nesting`: if the start marker of a
comment stands at no place of its inside, the two come to the same, for every pair, also one whose
markers are equal or overlap, and whether the comment is closed or not.

Rules with nesting switched on or off open the same things at the same places (`Opens.nesting`), so
the segments of a text are the same as well (`Cut.nesting`), up to the flag that their pairs carry.
-/

namespace Decomment

/-- The same pair of markers, nesting or not. -/
def BlockPair.nesting (nestable : Bool) (pair : BlockPair) : BlockPair :=
  { pair with nestable }

/-- The same rules with nesting switched on or off for all pairs. -/
def Lexis.nesting (nestable : Bool) (lexis : Lexis) : Lexis :=
  { lexis with blocks := lexis.blocks.map (.nesting nestable) }

theorem Lexis.nesting_nesting (lexis : Lexis) (a b : Bool) :
    (lexis.nesting a).nesting b = lexis.nesting b := by
  simp [nesting, BlockPair.nesting]

/-- Rules stay sound: nesting changes no token. -/
theorem Lexis.Sound.nesting {lexis : Lexis} (h : lexis.Sound) (nestable : Bool) :
    (lexis.nesting nestable).Sound := by
  have htokens : (lexis.nesting nestable).tokens = lexis.tokens := by
    simp [tokens, Lexis.nesting, BlockPair.nesting, List.filter_map, Function.comp_def]
  obtain ⟨hpairs, hmarkers, hquotes, hnodup⟩ := sound_iff.1 h
  refine sound_iff.2 ⟨?_, hmarkers, hquotes, by rwa [htokens]⟩
  exact List.forall_mem_map.2 hpairs

namespace Scan

variable {lexis : Lexis} {place : Place} {nestable : Bool}

/-! ## What opens -/

/-- The first item with a property, seen through a map that keeps the property. -/
theorem FirstWith.map {α β : Type} {P : α → Prop} {R : β → Prop} {items : List α} {a : α}
    (h : FirstWith P items a) (f : α → β) (hpr : ∀ b, P b ↔ R (f b)) :
    FirstWith R (items.map f) (f a) := by
  obtain ⟨earlier, later, rfl, ha, hearlier⟩ := h
  refine ⟨earlier.map f, later.map f, by simp, (hpr a).1 ha, ?_⟩
  exact List.forall_mem_map.2 fun b hb hR => hearlier b hb ((hpr b).2 hR)

section
variable {rest : List Char}

theorem AnchorFree.nesting (h : AnchorFree lexis place rest) :
    AnchorFree (lexis.nesting nestable) place rest :=
  fun hblank => List.forall_mem_map.2 (h hblank)

theorem BlockFree.nesting (h : BlockFree lexis rest) : BlockFree (lexis.nesting nestable) rest :=
  List.forall_mem_map.2 h

theorem Quiet.nesting (h : Quiet lexis place rest) : Quiet (lexis.nesting nestable) place rest :=
  ⟨h.anchors.nesting, h.quotes, h.blocks.nesting, h.markers⟩

/-- The same opening, by the rules with nesting switched on or off. -/
def nestingOf (nestable : Bool) : Opening → Opening
  | .block pair => .block (pair.nesting nestable)
  | .literal quote raw => .literal quote raw
  | .line marker => .line marker

theorem Opens.nesting {o : Opening} (h : Opens lexis place rest o) :
    Opens (lexis.nesting nestable) place rest (nestingOf nestable o) := by
  cases o with
  | block pair =>
    obtain ⟨hfirst, hrank⟩ := h
    refine ⟨hfirst.map (BlockPair.nesting nestable) fun _ => Iff.rfl, ?_⟩
    show if pair.lineStart then _ else _
    split
    · next hline => rwa [if_pos hline] at hrank
    · next hline =>
      rw [if_neg hline] at hrank
      exact ⟨hrank.1.nesting, hrank.2⟩
  | literal quote raw => exact ⟨h.1.nesting, h.2.mem, h.2.begins, h.2.longest⟩
  | line marker => exact ⟨h.1.nesting, h.2.1, h.2.2.1.nesting, h.2.2.2⟩

end

/-! ## Segments -/

/-- The same segment, by the rules with nesting switched on or off. -/
def Segment.nesting (nestable : Bool) : Segment → Segment
  | code c => code c
  | literal quote raw body close => literal quote raw body close
  | line marker body => line marker body
  | block pair body closed => block (pair.nesting nestable) body closed

section
variable (nestable : Bool)

@[simp] theorem Segment.chars_nesting (segment : Segment) :
    (segment.nesting nestable).chars = segment.chars := by
  match segment with
  | code _ | literal .. | line .. | block _ _ true | block _ _ false => rfl

@[simp] theorem Segment.kept_nesting (segment : Segment) :
    (segment.nesting nestable).kept = segment.kept := by
  match segment with
  | code _ | literal .. | line .. | block .. => rfl

@[simp] theorem Segment.advisory?_nesting (segment : Segment) (lineNumber : Nat) :
    (segment.nesting nestable).advisory? lineNumber = segment.advisory? lineNumber := by
  match segment with
  | code _ | literal .. | line .. | block _ _ true | block _ _ false => rfl

@[simp] theorem Segment.text_nesting (segments : List Segment) :
    text (segments.map (Segment.nesting nestable)) = text segments := by
  simp [text, List.flatMap_map]

@[simp] theorem Segment.keptText_nesting (segments : List Segment) :
    keptText (segments.map (Segment.nesting nestable)) = keptText segments := by
  simp [keptText, List.flatMap_map]

@[simp] theorem Segment.advisories_nesting (lineNumber : Nat) (segments : List Segment) :
    advisories lineNumber (segments.map (Segment.nesting nestable)) =
      advisories lineNumber segments := by
  induction segments generalizing lineNumber with
  | nil => rfl
  | cons segment segments ih => simp [advisories, ih]

end

/-! ## A comment with no start marker in it -/

/-- No start marker of its own stands inside of a comment: at no place between its start marker and
its closing marker, or the end of the text if it is not closed. -/
def Segment.NestsNothing (segment : Segment) (after : List Char) : Prop :=
  match segment with
  | block pair body true => Text.Avoids pair.start body (pair.stop.toList ++ after)
  | block pair body false => Text.Avoids pair.start body after
  | code _ | literal .. | line .. => True

/-- No comment among segments that follow each other has a start marker of its own inside. -/
def NothingNests : List Segment → Prop
  | [] => True
  | segment :: segments => segment.NestsNothing (Segment.text segments) ∧ NothingNests segments

/-- Over characters at which no marker begins the depth stays what it is. -/
theorem levels_of_avoids (pair : BlockPair) {body tail : List Char}
    (hstop : Text.Avoids pair.stop body tail) (hstart : Text.Avoids pair.start body tail)
    (depth : Nat) : Levels pair tail depth body depth := by
  induction body with
  | nil => exact .nil
  | cons c body ih => exact .plain hstop.1 hstart.1 (ih hstop.2 hstart.2)

/-- The inside of a comment that does not nest is that of one that does, if nothing nests in it. -/
theorem BlockBody.nesting {pair : BlockPair} {body after : List Char} {closed : Bool}
    (h : BlockBody pair body closed after) (hflat : pair.nestable = false)
    (hnone : (Segment.block pair body closed).NestsNothing after) :
    BlockBody (pair.nesting true) body closed after := by
  cases closed with
  | true =>
    simp only [BlockBody, hflat] at h
    exact levels_of_avoids (pair.nesting true) h hnone 0
  | false =>
    simp only [BlockBody, hflat] at h
    obtain ⟨rfl, havoids⟩ := h
    exact ⟨rfl, 0, levels_of_avoids (pair.nesting true) havoids hnone 0⟩

/-- Of the rules, the inside of a literal asks for the escape character only. -/
theorem LiteralBody.of_escape (other : Lexis) (hescape : lexis.escape = other.escape)
    {quote : Quote} {raw : Bool} {tail body : List Char}
    (h : LiteralBody lexis quote raw tail body) : LiteralBody other quote raw tail body := by
  induction h with
  | nil => exact .nil
  | escaped hraw hchar _ ih => exact .escaped hraw (hescape ▸ hchar) ih
  | plain hc _ ih =>
    refine .plain ⟨?_, hc.no_delimiter, hc.no_break⟩ ih
    rw [Unescaped, ← hescape]
    exact hc.unescaped

theorem Close.Fits.of_escape (other : Lexis) (hescape : lexis.escape = other.escape)
    {quote : Quote} {raw : Bool} {after : List Char} {close : Close}
    (h : close.Fits lexis quote raw after) : close.Fits other quote raw after := by
  cases close with
  | delimiter =>
    rw [Close.Fits, Unescaped, ← hescape]
    exact h
  | lineBreak =>
    rw [Close.Fits, Unescaped, ← hescape]
    exact h
  | textEnd => exact h

/-- A segment of a text fits just so when nesting is switched on. -/
theorem Segment.Fits.nesting (hflat : ∀ pair ∈ lexis.blocks, pair.nestable = false)
    {segment : Segment} {after : List Char} (h : segment.Fits lexis place after)
    (hnone : segment.NestsNothing after) :
    (segment.nesting true).Fits (lexis.nesting true) place after := by
  cases segment with
  | code c => exact Quiet.nesting h
  | literal quote raw body close =>
    obtain ⟨hopens, hbody, hclose⟩ := h
    have hescape : lexis.escape = (lexis.nesting true).escape := rfl
    rw [Segment.nesting]
    exact ⟨hopens.nesting, hbody.of_escape _ hescape, hclose.of_escape _ hescape⟩
  | line marker body => exact ⟨h.1.nesting, h.2⟩
  | block pair body closed =>
    obtain ⟨hopens, hbody⟩ := h
    refine ⟨?_, hbody.nesting (hflat pair hopens.listed) hnone⟩
    rw [Segment.chars_nesting]
    exact hopens.nesting

/-- The segments of a text are the same when nesting is switched on. -/
theorem Cut.nesting (hflat : ∀ pair ∈ lexis.blocks, pair.nestable = false)
    {segments : List Segment} (h : Cut lexis place segments) (hnone : NothingNests segments) :
    Cut (lexis.nesting true) place (segments.map (Segment.nesting true)) := by
  induction segments generalizing place with
  | nil => trivial
  | cons segment segments ih =>
    have hplace : place.after (segment.nesting true) = place.after segment := by
      simp [Place.after]
    refine ⟨?_, ?_⟩
    · rw [Segment.text_nesting]
      exact h.1.nesting hflat hnone.1
    · rw [hplace]
      exact ih h.2 hnone.2

/-- **Nesting on and nesting off agree where nothing nests.** If no comment that is removed with
nesting switched off has its own start marker inside, the same is kept and the same is reported with
nesting switched on. -/
theorem scan_nesting (sound : lexis.Sound) {text : List Char} {segments : List Segment}
    (hparts : Partition (lexis.nesting false) text segments) (hnone : NothingNests segments) :
    scan (lexis.nesting false) text = scan (lexis.nesting true) text := by
  have hflat : ∀ pair ∈ (lexis.nesting false).blocks, pair.nestable = false :=
    List.forall_mem_map.2 fun _ _ => rfl
  obtain ⟨hcut, rfl⟩ := hparts.cut
  have hnested := hcut.nesting hflat hnone
  rw [lexis.nesting_nesting] at hnested
  have hscan := hnested.scan_eq (sound.nesting true)
  rw [Segment.text_nesting, Segment.keptText_nesting, Segment.advisories_nesting] at hscan
  rw [hcut.scan_eq (sound.nesting false), hscan]

/-- Comments between equal markers, one of them closed and one left open. -/
theorem scan_nesting_python :
    let lexis := Language.python.lexis
    let segments : List Segment :=
      [.block { start := "\"\"\"", stop := "\"\"\"", lineStart := true } ['a'] true, .code '\n',
        .block { start := "'''", stop := "'''", lineStart := true } ['b'] false]
    let text := "\"\"\"a\"\"\"\n'''b".toList
    Partition (lexis.nesting false) text segments ∧ NothingNests segments ∧
      scan (lexis.nesting false) text = scan (lexis.nesting true) text := by
  intro lexis segments text
  have sound : (lexis.nesting false).Sound := by decide
  have hcut : Cut (lexis.nesting false) ⟨[], []⟩ segments := by
    refine ⟨⟨?_, by decide, trivial⟩, ?_, ⟨?_, rfl, by decide, trivial⟩, trivial⟩
    · exact opens_of_opening? sound foldl_blankAfter_iff (by decide)
    · exact quiet_of_opening? sound foldl_blankAfter_iff (by decide)
    · exact opens_of_opening? sound foldl_blankAfter_iff (by decide)
  have hparts : Partition (lexis.nesting false) text segments := hcut.partition sound
  have hnone : NothingNests segments := ⟨⟨by decide, trivial⟩, trivial, ⟨by decide, trivial⟩, trivial⟩
  exact ⟨hparts, hnone, scan_nesting (by decide) hparts hnone⟩

end Scan

end Decomment
