import Decomment.Proofs.Scan.Opening

/-!
# Places that look alike

What begins at a place depends on the text after it, on the character before it and on whether the
line is blank so far. `Covers` compares two places by this, also places of different texts: whatever
begins at the second begins at the first. Where nothing begins at the first, nothing begins at the
second (`Quiet.of_covers`), and what opens at one of two places that cover each other opens at the
other (`Opens.of_covers`). How far a literal goes depends on what follows it in a similar way
(`LiteralBody.of_tail`).
-/

namespace Decomment.Scan

/-- Whatever the rules find at the second place they find at the first. -/
structure Covers (lexis : Lexis) (place : Place) (rest : List Char) (other : Place)
    (otherRest : List Char) : Prop where
  blank : BlankLine other.kept → BlankLine place.kept
  starts : ∀ pair ∈ lexis.blocks, (pair.lineStart = true → BlankLine other.kept) →
    pair.start.toList <+: otherRest → pair.start.toList <+: rest
  delimiters : ∀ entry ∈ lexis.delimiters,
    entry.1.delimiter.toList <+: otherRest → entry.1.delimiter.toList <+: rest
  markers : ∀ m ∈ lexis.lineMarkers, m.opensAt otherRest other.before.getLast? = true →
    m.opensAt rest place.before.getLast? = true

variable {lexis : Lexis} {place other : Place} {rest otherRest : List Char}

theorem AnchorFree.of_covers (h : Covers lexis place rest other otherRest)
    (hfree : AnchorFree lexis place rest) : AnchorFree lexis other otherRest := by
  intro hblank pair hpair hline hbegins
  exact hfree (h.blank hblank) pair hpair hline (h.starts pair hpair (fun _ => hblank) hbegins)

theorem QuoteFree.of_covers (h : Covers lexis place rest other otherRest)
    (hfree : QuoteFree lexis rest) : QuoteFree lexis otherRest := by
  intro entry hentry hbegins
  exact hfree entry hentry (h.delimiters entry hentry hbegins)

theorem BlockFree.of_covers (h : Covers lexis place rest other otherRest)
    (hfree : BlockFree lexis rest) : BlockFree lexis otherRest := by
  intro pair hpair hline hbegins
  refine hfree pair hpair hline (h.starts pair hpair (fun htrue => ?_) hbegins)
  rw [hline] at htrue
  cases htrue

/-- Where nothing begins at the first place, nothing begins at the second. -/
theorem Quiet.of_covers (h : Covers lexis place rest other otherRest)
    (hquiet : Quiet lexis place rest) : Quiet lexis other otherRest where
  anchors := hquiet.anchors.of_covers h
  quotes := hquiet.quotes.of_covers h
  blocks := hquiet.blocks.of_covers h
  markers := by
    intro m hm
    rw [← Bool.not_eq_true]
    intro hopens
    have hfirst := h.markers m hm hopens
    rw [hquiet.markers m hm] at hfirst
    cases hfirst

/-- The longest delimiter of the first place is the longest one of the second if it stands there. -/
theorem LongestQuote.of_covers (h : Covers lexis place rest other otherRest) {quote : Quote}
    {raw : Bool} (hlongest : LongestQuote lexis rest quote raw)
    (hbegins : quote.delimiter.toList <+: otherRest) : LongestQuote lexis otherRest quote raw where
  mem := hlongest.mem
  begins := hbegins
  longest := by
    intro entry hentry hother
    exact hlongest.longest entry hentry (h.delimiters entry hentry hother)

/-- What opens at one of two places that cover each other opens at the other. -/
theorem Opens.of_covers (h : Covers lexis place rest other otherRest)
    (hback : Covers lexis other otherRest place rest) {o : Opening}
    (hopens : Opens lexis place rest o) : Opens lexis other otherRest o := by
  cases o with
  | block pair =>
    obtain ⟨hfirst, hrank⟩ := hopens
    have hblank : ∀ {p : BlockPair}, p.lineStart = pair.lineStart →
        p.lineStart = true → BlankLine place.kept := by
      intro p hp htrue
      rw [hp] at htrue
      rwa [if_pos htrue] at hrank
    refine ⟨hfirst.congr fun p hp => and_congr_right fun hline => ⟨?_, ?_⟩, ?_⟩
    · exact hback.starts p hp (hblank hline)
    · exact h.starts p hp fun htrue => hback.blank (hblank hline htrue)
    · split at hrank
      · next htrue => rw [if_pos htrue]; exact hback.blank hrank
      · next hfalse => rw [if_neg hfalse]; exact ⟨hrank.1.of_covers h, hrank.2.of_covers h⟩
  | literal quote raw =>
    refine ⟨hopens.1.of_covers h, hopens.2.of_covers h ?_⟩
    exact hback.delimiters (quote, raw) hopens.2.mem hopens.2.begins
  | line marker =>
    obtain ⟨hanchor, hquote, hblock, hfirst⟩ := hopens
    refine ⟨hanchor.of_covers h, hquote.of_covers h, hblock.of_covers h, ?_⟩
    exact hfirst.congr fun m hm => ⟨hback.markers m hm, h.markers m hm⟩

/-! ## The inside of a literal -/

/-- An escape character needs something to escape; what that is does not matter. -/
theorem Unescaped.of_tail {raw : Bool} {c : Char} {tail otherTail : List Char}
    (h : Unescaped lexis raw (c :: tail)) (htail : tail = [] → otherTail = []) :
    Unescaped lexis raw (c :: otherTail) := by
  cases tail with
  | nil =>
    rw [htail rfl]
    exact .inr rfl
  | cons d tail =>
    refine h.imp_right fun hnext => ?_
    cases otherTail with
    | nil => rfl
    | cons e otherTail => exact hnext

theorem startsWithBreak_congr {c : Char} {tail otherTail : List Char}
    (hhead : otherTail.head? = tail.head?) :
    Text.startsWithBreak (c :: otherTail) = Text.startsWithBreak (c :: tail) := by
  cases tail with
  | nil => rw [List.head?_eq_none_iff.1 hhead]
  | cons d tail =>
    obtain ⟨more, rfl⟩ := List.head?_eq_some_iff.1 hhead
    simp only [Text.startsWithBreak]
    split <;> simp_all

/-- The inside of a literal is the same before another text that begins with the same character, if
that does not complete a delimiter. -/
theorem LiteralBody.of_tail {quote : Quote} {raw : Bool} {body tail otherTail : List Char}
    (h : LiteralBody lexis quote raw tail body) (hhead : otherTail.head? = tail.head?)
    (hdelimiter : ∀ (c : Char) (inner : List Char),
      quote.delimiter.toList <+: c :: (inner ++ otherTail) →
        quote.delimiter.toList <+: c :: (inner ++ tail)) :
    LiteralBody lexis quote raw otherTail body := by
  induction h with
  | nil => exact .nil
  | escaped hraw hescape _ ih => exact .escaped hraw hescape ih
  | @plain c body hgoes _ ih =>
    have hheads : (body ++ otherTail).head? = (body ++ tail).head? := by
      rw [List.head?_append, List.head?_append, hhead]
    refine .plain ⟨hgoes.unescaped.of_tail ?_, fun hbegins => ?_, ?_⟩ ih
    · intro hnil
      rw [hnil] at hheads
      exact List.head?_eq_none_iff.1 hheads
    · exact hgoes.no_delimiter (hdelimiter c body hbegins)
    · rw [startsWithBreak_congr hheads]
      exact hgoes.no_break

end Decomment.Scan
