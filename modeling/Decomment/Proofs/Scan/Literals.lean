import Decomment.Proofs.Scan.Simulation
import Decomment.Registry.Builtin

/-!
# Literals come through a scan as they are

What a literal is made of does not matter to a scan as long as nothing in it ends the literal:
markers, starts of block comments and other delimiters inside of it open nothing. `Inside` says what
may stand between the delimiters. In a raw literal every character counts by itself; in any other
one an escape character and the character after it count as a pair, in which neither ends anything
(`Paired`). `literal_survives` follows by induction on the pairs, through `LiteralBody`.
-/

namespace Decomment.Scan

open State

variable {lexis : Lexis} {quote : Quote} {tail body post : List Char}

/-! ## What may stand between the delimiters -/

/-- Nothing here ends a literal: the delimiter does not stand here, and neither does, in a literal of
one line, a line break. -/
def Unended (quote : Quote) (rest : List Char) : Prop :=
  ¬ quote.delimiter.toList <+: rest ∧
    (quote.multiline = false → Text.startsWithBreak rest = false)

/-- A row of pairs of an escape character and any other one, and of single characters that are not
the escape character and that end nothing where they stand before `tail`. -/
inductive Paired (escape : Option Char) (quote : Quote) (tail : List Char) : List Char → Prop
  | nil : Paired escape quote tail []
  | pair {c d : Char} {body : List Char} : escape = some c → Paired escape quote tail body →
      Paired escape quote tail (c :: d :: body)
  | single {c : Char} {body : List Char} : escape ≠ some c → Unended quote (c :: (body ++ tail)) →
      Paired escape quote tail body → Paired escape quote tail (c :: body)

/-- What may stand between two delimiters of a literal before `post`. -/
def Inside (lexis : Lexis) (quote : Quote) (raw : Bool) (body post : List Char) : Prop :=
  let tail := quote.delimiter.toList ++ post
  match raw with
  | true => ∀ k < body.length, Unended quote ((body ++ tail).drop k)
  | false => (∀ c, lexis.escape = some c → quote.delimiter.toList.head? ≠ some c) ∧
      Paired lexis.escape quote tail body

/-! ## The pairs as a literal reads them -/

theorem Unended.goesOn {raw : Bool} {rest : List Char} (h : Unended quote rest)
    (hescape : Unescaped lexis raw rest) : GoesOn lexis quote raw rest where
  unescaped := hescape
  no_delimiter := h.1
  no_break := by
    cases hlines : quote.multiline with
    | true => exact .inl rfl
    | false => exact .inr (h.2 hlines)

theorem escapesNext_eq_false {c : Char} (h : lexis.escape ≠ some c) (rest : List Char) :
    escapesNext lexis.escape (c :: rest) = false := by
  cases rest with
  | nil => rfl
  | cons d rest => simpa [escapesNext] using h

theorem Paired.literalBody (h : Paired lexis.escape quote tail body) :
    LiteralBody lexis quote false tail body := by
  induction h with
  | nil => exact .nil
  | pair hescape _ ih => exact .escaped rfl hescape ih
  | single hescape hfree _ ih =>
    exact .plain (hfree.goesOn (.inr (escapesNext_eq_false hescape _))) ih

/-- In a raw literal it is enough that nothing ends it at any place. -/
theorem literalBody_of_unended (h : ∀ k < body.length, Unended quote ((body ++ tail).drop k)) :
    LiteralBody lexis quote true tail body := by
  induction body with
  | nil => exact .nil
  | cons c body ih =>
    have hfirst : Unended quote (c :: (body ++ tail)) := h 0 (Nat.zero_lt_succ _)
    refine .plain (hfirst.goesOn (.inl rfl)) (ih fun k hk => ?_)
    simpa using h (k + 1) (Nat.succ_lt_succ hk)

/-- A delimiter that does not begin with the escape character is read as one. -/
theorem escapesNext_delimiter (hne : quote.delimiter ≠ "")
    (h : ∀ c, lexis.escape = some c → quote.delimiter.toList.head? ≠ some c) (post : List Char) :
    escapesNext lexis.escape (quote.delimiter.toList ++ post) = false := by
  obtain ⟨c, others, hchars⟩ := List.exists_cons_of_ne_nil (Text.toList_ne_nil hne)
  rw [hchars] at h ⊢
  exact escapesNext_eq_false (fun hescape => h c hescape rfl) _

theorem Inside.literalBody {raw : Bool} (h : Inside lexis quote raw body post) :
    LiteralBody lexis quote raw (quote.delimiter.toList ++ post) body := by
  cases raw with
  | true => exact literalBody_of_unended h
  | false => exact h.2.literalBody

theorem Inside.closes {raw : Bool} (h : Inside lexis quote raw body post)
    (hne : quote.delimiter ≠ "") : Close.Fits lexis quote raw post .delimiter := by
  cases raw with
  | true => exact .inl rfl
  | false => exact .inr (escapesNext_delimiter hne h.1 post)

/-! ## Through a literal -/

/-- **Literals survive a scan.** Where a scan in code comes to its longest delimiter, to something
that ends no literal, and to the same delimiter again, it keeps all of this, raises nothing, and is
back in code behind it. -/
theorem literal_survives (sound : lexis.Sound) {text : List Char} {s : State}
    (hreach : Reaches lexis (.start text) s) (hmode : s.mode = .code) {raw : Bool}
    (hrest : s.rest = quote.delimiter.toList ++ (body ++ (quote.delimiter.toList ++ post)))
    (hanchor : BlankLine s.kept.reverse →
      ∀ pair ∈ lexis.blocks, pair.lineStart = true → ¬ pair.start.toList <+: s.rest)
    (hlongest : LongestQuote lexis s.rest quote raw) (hinside : Inside lexis quote raw body post) :
    let literal := quote.delimiter.toList ++ (body ++ quote.delimiter.toList)
    ∃ t, Crosses lexis s t literal literal ∧ t.rest = post := by
  obtain ⟨mode, place, rest, raised, rfl⟩ := atSomePlace_of_reaches hreach
  obtain rfl : mode = .code := hmode
  obtain rfl : rest = (Segment.literal quote raw body .delimiter).chars ++ post :=
    hrest.trans (by simp [Segment.chars, Close.chars])
  rw [reverse_kept_atPlace] at hanchor
  have hfits : (Segment.literal quote raw body .delimiter).Fits lexis place post :=
    ⟨⟨hanchor, hlongest⟩, hinside.literalBody, hinside.closes (sound.delimiter_ne hlongest.mem)⟩
  exact ⟨_, crosses_of_reaches (reaches_closedLiteral raised sound hfits), rfl⟩

/-- A literal in triple quotes with an escaped quote, a marker and another delimiter inside. -/
theorem literal_survives_python :
    let lexis := Language.python.lexis
    let s := (start "x = \"\"\"\\\"#\"a\"\"\";".toList).run lexis 4
    let quote : Quote := { delimiter := "\"\"\"" }
    let body := ['\\', '"', '#', '"', 'a']
    let literal := quote.delimiter.toList ++ (body ++ quote.delimiter.toList)
    s.mode = .code ∧ s.rest = literal ++ [';'] ∧ LongestQuote lexis s.rest quote false ∧
      Inside lexis quote false body [';'] ∧
      ∃ t, Crosses lexis s t literal literal ∧ t.rest = [';'] := by
  intro lexis s quote body literal
  have hmode : s.mode = .code := by decide
  have hlongest : LongestQuote lexis s.rest quote false := longestQuote_of_quoteAt? (by decide)
  have hanchor : BlankLine s.kept.reverse → ∀ pair ∈ lexis.blocks, pair.lineStart = true →
      ¬ pair.start.toList <+: s.rest :=
    fun hblank => absurd (hblank 'x' (by decide)) (by decide)
  have hinside : Inside lexis quote false body [';'] := by
    refine ⟨?_, .pair rfl (.single (by decide) ⟨by decide, by decide⟩ ?_)⟩
    · rintro c ⟨⟩
      decide
    refine .single (by decide) ⟨by decide, by decide⟩ ?_
    exact .single (by decide) ⟨by decide, by decide⟩ .nil
  exact ⟨hmode, by decide, hlongest, hinside, literal_survives (by decide) (reaches_run lexis _ 4)
    hmode (by decide) hanchor hlongest hinside⟩

end Decomment.Scan
