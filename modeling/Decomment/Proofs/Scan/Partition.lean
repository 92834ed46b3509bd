import Decomment.Proofs.Scan.Simulation
import Decomment.Registry.Builtin

/-!
# Every text is a row of segments

Under sound rules every text can be cut (`exists_cut`): at each place a segment fits, because a
literal, a line and a block comment end somewhere at last. With `Cut.scan_eq` this says what a scan
does to a text: `scan_partition`.
-/

namespace Decomment.Scan

variable {lexis : Lexis}

/-! ## Every construct ends -/

/-- What follows the first delimiter of a literal has an inside and an end. -/
theorem exists_literalBody (lexis : Lexis) (quote : Quote) (raw : Bool) (rest : List Char) :
    ∃ (body : List Char) (close : Close) (after : List Char),
      rest = body ++ (close.chars quote ++ after) ∧
      LiteralBody lexis quote raw (close.chars quote ++ after) body ∧
      close.Fits lexis quote raw after := by
  induction hlen : rest.length using Nat.strongRecOn generalizing rest with
  | ind n ih =>
  cases rest with
  | nil => exact ⟨[], .textEnd, [], rfl, .nil, rfl⟩
  | cons c tail =>
    by_cases hescape : Unescaped lexis raw (c :: tail)
    swap
    · -- an escape character: it and the next one are read together
      simp only [Unescaped, not_or, Bool.not_eq_true, Bool.not_eq_false] at hescape
      obtain ⟨hraw, hnext⟩ := hescape
      cases tail with
      | nil => cases hnext
      | cons d tail =>
        obtain ⟨body, close, after, rfl, hbody, hclose⟩ :=
          ih tail.length (by simp only [List.length_cons] at hlen; omega) tail rfl
        refine ⟨c :: d :: body, close, after, rfl, .escaped hraw ?_ hbody, hclose⟩
        simpa [State.escapesNext] using hnext
    by_cases hdelimiter : quote.delimiter.toList <+: c :: tail
    · obtain ⟨after, hafter⟩ := hdelimiter
      exact ⟨[], .delimiter, after, hafter.symm, .nil, by rwa [Close.Fits, hafter]⟩
    by_cases hbreak : quote.multiline = true ∨ Text.startsWithBreak (c :: tail) = false
    swap
    · simp only [not_or, Bool.not_eq_true, Bool.not_eq_false] at hbreak
      exact ⟨[], .lineBreak, c :: tail, rfl, .nil, hescape, hdelimiter, hbreak⟩
    · obtain ⟨body, close, after, rfl, hbody, hclose⟩ :=
        ih tail.length (by simp only [List.length_cons] at hlen; omega) tail rfl
      exact ⟨c :: body, close, after, rfl, .plain ⟨hescape, hdelimiter, hbreak⟩ hbody, hclose⟩

/-- What follows the start of a block comment that nests closes it, or leaves some level open. -/
theorem exists_levels {pair : BlockPair} (hstart : pair.start ≠ "") (hstop : pair.stop ≠ "")
    (rest : List Char) (depth : Nat) :
    (∃ body after, rest = body ++ (pair.stop.toList ++ after) ∧
      Levels pair (pair.stop.toList ++ after) depth body 0) ∨
    ∃ last, Levels pair [] depth rest last := by
  induction hlen : rest.length using Nat.strongRecOn generalizing rest depth with
  | ind n ih =>
  have hshorter : ∀ {token : String} {tail : List Char}, token ≠ "" → rest = token.toList ++ tail →
      tail.length < n := by
    rintro token tail htoken rfl
    have := State.length_pos_of_ne htoken
    rw [List.length_append, String.length_toList] at hlen
    omega
  by_cases hclose : pair.stop.toList <+: rest
  · obtain ⟨tail, rfl⟩ := hclose
    cases depth with
    | zero => exact .inl ⟨[], tail, rfl, .nil⟩
    | succ depth =>
      rcases ih _ (hshorter hstop rfl) tail depth rfl with ⟨body, after, rfl, h⟩ | ⟨last, h⟩
      · exact .inl ⟨pair.stop.toList ++ body, after, by simp, .close h⟩
      · exact .inr ⟨last, .close h⟩
  by_cases hopen : pair.start.toList <+: rest
  · obtain ⟨tail, rfl⟩ := hopen
    rcases ih _ (hshorter hstart rfl) tail (depth + 1) rfl with ⟨body, after, rfl, h⟩ | ⟨last, h⟩
    · exact .inl ⟨pair.start.toList ++ body, after, by simp, .nest (by simpa using hclose) h⟩
    · exact .inr ⟨last, .nest (by simpa using hclose) h⟩
  cases rest with
  | nil => exact .inr ⟨depth, .nil⟩
  | cons c tail =>
    rcases ih tail.length (by simp only [List.length_cons] at hlen; omega) tail depth rfl with
      ⟨body, after, rfl, h⟩ | ⟨last, h⟩
    · exact .inl ⟨c :: body, after, rfl, .plain hclose hopen h⟩
    · exact .inr ⟨last, .plain (by simpa using hclose) (by simpa using hopen) h⟩

/-- What follows the start of a block comment has an inside, and an end or not. -/
theorem exists_blockBody {pair : BlockPair} (hstart : pair.start ≠ "") (hstop : pair.stop ≠ "")
    (rest : List Char) :
    ∃ body closed after,
      pair.start.toList ++ rest = (Segment.block pair body closed).chars ++ after ∧
      BlockBody pair body closed after := by
  cases hnest : pair.nestable with
  | false =>
    rcases Text.exists_avoids pair.stop rest with ⟨body, after, rfl, h⟩ | h
    · refine ⟨body, true, after, by simp [Segment.chars], ?_⟩
      simpa only [BlockBody, hnest] using h
    · refine ⟨rest, false, [], by simp [Segment.chars], ?_⟩
      simpa only [BlockBody, hnest, true_and] using h
  | true =>
    rcases exists_levels hstart hstop rest 0 with ⟨body, after, rfl, h⟩ | h
    · refine ⟨body, true, after, by simp [Segment.chars], ?_⟩
      simpa only [BlockBody, hnest] using h
    · refine ⟨rest, false, [], by simp [Segment.chars], ?_⟩
      simpa only [BlockBody, hnest, true_and] using h

/-! ## Every text can be cut -/

/-- At every place a segment fits. -/
theorem exists_fits (sound : lexis.Sound) (place : Place) {text : List Char} (htext : text ≠ []) :
    ∃ (segment : Segment) (after : List Char),
      text = segment.chars ++ after ∧ segment.Fits lexis place after := by
  rcases quiet_or_opens lexis place text with hquiet | ⟨o, hopens⟩
  · obtain ⟨c, rest, rfl⟩ := List.exists_cons_of_ne_nil htext
    exact ⟨.code c, rest, rfl, hquiet⟩
  obtain ⟨rest, rfl⟩ := hopens.token_prefix
  cases o with
  | block pair =>
    obtain ⟨body, closed, after, hsplit, hbody⟩ :=
      exists_blockBody (sound.start_ne hopens.listed) (sound.stop_ne hopens.listed) rest
    exact ⟨.block pair body closed, after, hsplit, hsplit ▸ hopens, hbody⟩
  | literal quote raw =>
    obtain ⟨body, close, after, rfl, hbody, hclose⟩ := exists_literalBody lexis quote raw rest
    have hsplit : quote.delimiter.toList ++ (body ++ (close.chars quote ++ after)) =
        (Segment.literal quote raw body close).chars ++ after := by
      simp [Segment.chars]
    exact ⟨.literal quote raw body close, after, hsplit, hsplit ▸ hopens, hbody, hclose⟩
  | line marker =>
    obtain ⟨body, after, rfl, hends⟩ := Text.exists_endsLine rest
    have hsplit : marker.marker.toList ++ (body ++ after) =
        (Segment.line marker body).chars ++ after := by
      simp [Segment.chars]
    exact ⟨.line marker body, after, hsplit, hsplit ▸ hopens, hends⟩

/-- From every place on, a text can be cut into segments. -/
theorem exists_cut (sound : lexis.Sound) (place : Place) (text : List Char) :
    ∃ segments, Cut lexis place segments ∧ Segment.text segments = text := by
  induction hlen : text.length using Nat.strongRecOn generalizing place text with
  | ind n ih =>
  by_cases htext : text = []
  · exact ⟨[], trivial, htext.symm⟩
  obtain ⟨segment, after, rfl, hfits⟩ := exists_fits sound place htext
  have hpos := List.length_pos_iff.2 (hfits.chars_ne_nil sound)
  rw [List.length_append] at hlen
  obtain ⟨segments, hcut, rfl⟩ := ih after.length (by omega) (place.after segment) after rfl
  exact ⟨segment :: segments, ⟨hfits, hcut⟩, rfl⟩

/-- Segments that part a text: they follow each other without a gap, none is empty, and each one
fits where it stands, after the text of the segments before it and what is kept of that. -/
structure Partition (lexis : Lexis) (text : List Char) (segments : List Segment) : Prop where
  chars : segments.flatMap Segment.chars = text
  nonempty : ∀ segment ∈ segments, segment.chars ≠ []
  fits : ∀ earlier segment later, segments = earlier ++ segment :: later →
    segment.Fits lexis
      ⟨earlier.flatMap Segment.chars, (earlier.filter Segment.isKept).flatMap Segment.chars⟩
      (later.flatMap Segment.chars)

/-- The segments of a cut part its text. -/
theorem Cut.partition (sound : lexis.Sound) {segments : List Segment}
    (h : Cut lexis ⟨[], []⟩ segments) : Partition lexis (Segment.text segments) segments := by
  refine ⟨rfl, h.chars_ne_nil sound, ?_⟩
  rintro earlier segment later rfl
  simpa [Place.afterAll, Segment.keptText_eq_text_filter, Segment.text] using h.fits

/-- Segments that fit one after the other are a cut. -/
theorem Cut.of_fits {place : Place} {segments : List Segment}
    (h : ∀ earlier segment later, segments = earlier ++ segment :: later →
      segment.Fits lexis (place.afterAll earlier) (Segment.text later)) :
    Cut lexis place segments := by
  induction segments generalizing place with
  | nil => trivial
  | cons segment segments ih =>
    refine ⟨by simpa using h [] segment segments rfl, ih ?_⟩
    rintro earlier next later rfl
    simpa using h (segment :: earlier) next later rfl

/-- Segments that part a text are a cut of it. -/
theorem Partition.cut {text : List Char} {segments : List Segment}
    (h : Partition lexis text segments) :
    Cut lexis ⟨[], []⟩ segments ∧ Segment.text segments = text := by
  refine ⟨.of_fits fun earlier segment later hsplit => ?_, h.chars⟩
  simpa [Place.afterAll, Segment.keptText_eq_text_filter, Segment.text] using
    h.fits earlier segment later hsplit

/-- **A scan parts its text into segments** and gives the code and the literals among them, in their
order and as they are. -/
theorem scan_partition (sound : lexis.Sound) (text : List Char) :
    ∃ segments : List Segment, Partition lexis text segments ∧
      (scan lexis text).text = (segments.filter Segment.isKept).flatMap Segment.chars := by
  obtain ⟨segments, hcut, rfl⟩ := exists_cut sound ⟨[], []⟩ text
  refine ⟨segments, hcut.partition sound, ?_⟩
  rw [hcut.scan_eq sound]
  exact Segment.keptText_eq_text_filter segments

/-- An address in a literal, a marker after a colon, a comment that does not nest and one that is
left open. -/
theorem scan_partition_cStyle :
    ∃ segments : List Segment,
      Partition Language.cStyle.lexis "f('//\\''); a://b /* /* */ c //\r\n/*".toList segments ∧
        (scan Language.cStyle.lexis "f('//\\''); a://b /* /* */ c //\r\n/*".toList).text =
          (segments.filter Segment.isKept).flatMap Segment.chars :=
  scan_partition (by decide) _

end Decomment.Scan
