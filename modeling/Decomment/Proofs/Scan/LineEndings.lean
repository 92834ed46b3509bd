import Decomment.Proofs.Scan.Concat
import Mathlib.Tactic.MkIffOfInductiveProp

/-!
# Line endings do not matter

A text whose lines end in a line feed, and the same text with a carriage return before each line
feed (`Text.crlf`), have the same comments: `Cut.scan_crlf`. No token may hold a character of a line
break for this (`Lexis.BreakFree`). Then a cut of the one text, with a carriage return put in before
each of its line feeds, is a cut of the other (`Cut.crlf`).

The one thing that can go wrong is an escaped line feed in a literal that ends at a line break
(`Segment.KeepsFeeds`). The escape character takes along the carriage return alone, and the line
feed behind it ends the literal.
-/

namespace Decomment

namespace Text

/-- A text with a carriage return put in before each line feed. -/
def crlf (text : List Char) : List Char :=
  text.flatMap fun c => if c = '\n' then ['\r', '\n'] else [c]

/-- Neither a line feed nor a carriage return is among the characters. -/
def Unbroken (chars : List Char) : Prop :=
  '\n' ∉ chars ∧ '\r' ∉ chars

instance (chars : List Char) : Decidable (Unbroken chars) :=
  inferInstanceAs (Decidable (_ ∧ _))

@[simp] theorem crlf_nil : crlf [] = [] := rfl

@[simp] theorem crlf_newline (text : List Char) :
    crlf ('\n' :: text) = '\r' :: '\n' :: crlf text := rfl

theorem crlf_cons {c : Char} (hc : c ≠ '\n') (text : List Char) :
    crlf (c :: text) = c :: crlf text := by
  simp [crlf, hc]

@[simp] theorem crlf_append (text other : List Char) :
    crlf (text ++ other) = crlf text ++ crlf other :=
  List.flatMap_append

theorem crlf_eq_self {text : List Char} (h : '\n' ∉ text) : crlf text = text := by
  induction text with
  | nil => rfl
  | cons c text ih =>
    rw [List.mem_cons, not_or] at h
    rw [crlf_cons (Ne.symm h.1), ih h.2]

theorem crlf_eq_nil_iff {text : List Char} : crlf text = [] ↔ text = [] := by
  cases text with
  | nil => simp
  | cons c text =>
    by_cases hc : c = '\n'
    · subst hc
      simp
    · simp [crlf_cons hc]

/-- A text has as many lines as before. -/
theorem countBreaks_crlf (text : List Char) : countBreaks (crlf text) = countBreaks text := by
  induction text with
  | nil => rfl
  | cons c text ih =>
    by_cases hc : c = '\n'
    · subst hc
      simpa [countBreaks] using ih
    · rw [countBreaks, countBreaks] at ih ⊢
      rw [crlf_cons hc, List.count_cons, List.count_cons, ih]

theorem getLast?_crlf (text : List Char) : (crlf text).getLast? = text.getLast? := by
  rcases List.eq_nil_or_concat text with rfl | ⟨start, c, rfl⟩
  · rfl
  · by_cases hc : c = '\n'
    · subst hc
      simp
    · simp [crlf_cons hc]

/-- A token without line breaks stands at the same places. -/
theorem prefix_crlf_iff {token text : List Char} (htoken : Unbroken token) :
    token <+: crlf text ↔ token <+: text := by
  induction token generalizing text with
  | nil => simp
  | cons c token ih =>
    obtain ⟨hfeed, hreturn⟩ := htoken
    rw [List.mem_cons, not_or] at hfeed hreturn
    cases text with
    | nil => rfl
    | cons d text =>
      by_cases hd : d = '\n'
      · subst hd
        rw [crlf_newline, List.cons_prefix_cons, List.cons_prefix_cons]
        exact iff_of_false (fun h => hreturn.1 h.1.symm) (fun h => hfeed.1 h.1.symm)
      · rw [crlf_cons hd, List.cons_prefix_cons, List.cons_prefix_cons, ih ⟨hfeed.2, hreturn.2⟩]

/-- A token without line breaks does not stand at a character of one. -/
theorem Unbroken.not_begins {token text : List Char} {c : Char} (htoken : Unbroken token)
    (hne : token ≠ []) (hc : c = '\n' ∨ c = '\r') : ¬ token <+: c :: text := by
  intro h
  obtain ⟨d, token, rfl⟩ := List.exists_cons_of_ne_nil hne
  obtain ⟨rfl, -⟩ := List.cons_prefix_cons.1 h
  rcases hc with rfl | rfl
  · exact htoken.1 (List.mem_cons_self ..)
  · exact htoken.2 (List.mem_cons_self ..)

theorem Avoids.crlf {pattern : String} {body tail : List Char} (hpattern : Unbroken pattern.toList)
    (hne : pattern ≠ "") (h : Avoids pattern body tail) :
    Avoids pattern (crlf body) (crlf tail) := by
  induction body with
  | nil => trivial
  | cons c body ih =>
    by_cases hc : c = '\n'
    · subst hc
      have hnot : ∀ {d : Char} {rest : List Char}, d = '\n' ∨ d = '\r' →
          ¬ pattern.toList <+: d :: rest := hpattern.not_begins (toList_ne_nil hne)
      exact ⟨hnot (.inr rfl), hnot (.inl rfl), ih h.2⟩
    · rw [crlf_cons hc]
      refine ⟨?_, ih h.2⟩
      rw [← crlf_append, ← crlf_cons hc, prefix_crlf_iff hpattern]
      exact h.1

theorem EndsLine.crlf {body after : List Char} (h : EndsLine body after)
    (hreturn : '\r' ∉ body ++ after) : EndsLine (crlf body) (crlf after) := by
  obtain ⟨hbody, hafter⟩ := h
  rw [crlf_eq_self hbody]
  refine ⟨hbody, ?_⟩
  rcases hafter with rfl | ⟨rest, rfl, -⟩ | ⟨rest, rfl⟩
  · exact .inl rfl
  · exact .inr (.inr ⟨Text.crlf rest, rfl⟩)
  · simp at hreturn

theorem startsWithBreak_cons {c : Char} (hfeed : c ≠ '\n') (hreturn : c ≠ '\r')
    (text : List Char) : startsWithBreak (c :: text) = false := by
  unfold startsWithBreak
  split
  · next hc => exact absurd (List.cons.inj hc).1 hfeed
  · next hc => exact absurd (List.cons.inj hc).1 hreturn
  · rfl

/-- A line break stays one. -/
theorem startsWithBreak_crlf {text : List Char} (h : startsWithBreak text = true)
    (hreturn : '\r' ∉ text) : startsWithBreak (crlf text) = true := by
  unfold startsWithBreak at h
  split at h
  · rfl
  · simp at hreturn
  · cases h

end Text

/-- No token of the rules holds a character of a line break, and none is the escape character. -/
@[mk_iff] structure Lexis.BreakFree (lexis : Lexis) : Prop where
  markers : ∀ m ∈ lexis.lineMarkers, Text.Unbroken m.marker.toList
  delimiters : ∀ entry ∈ lexis.delimiters, Text.Unbroken entry.1.delimiter.toList
  blocks : ∀ pair ∈ lexis.blocks,
    Text.Unbroken pair.start.toList ∧ Text.Unbroken pair.stop.toList
  escape : Text.Unbroken lexis.escape.toList

instance (lexis : Lexis) : Decidable lexis.BreakFree :=
  decidable_of_iff _ (Lexis.breakFree_iff lexis).symm

/-- Literals in which something can be escaped may go over line breaks. -/
def Lexis.EscapesAcrossLines (lexis : Lexis) : Prop :=
  lexis.escape = none ∨ ∀ quote ∈ lexis.quotes, quote.multiline = true

instance (lexis : Lexis) : Decidable lexis.EscapesAcrossLines :=
  inferInstanceAs (Decidable (_ ∨ _))

/-- What a scan gives, with the other line endings. The advisories stay on their lines. -/
def Stripped.crlf (result : Stripped) : Stripped :=
  ⟨Text.crlf result.text, result.advisories⟩

namespace Scan

variable {lexis : Lexis}

/-! ## What begins at a place -/

theorem blankLine_crlf {kept : List Char} : BlankLine (Text.crlf kept) ↔ BlankLine kept := by
  induction kept using List.reverseRecOn with
  | nil => rfl
  | append_singleton kept c ih =>
    by_cases hc : c = '\n'
    · subst hc
      have hsplit : Text.crlf (kept ++ ['\n']) = Text.crlf kept ++ ['\r'] ++ ['\n'] := by simp
      rw [hsplit]
      exact iff_of_true (blankLine_concat.2 (.inl rfl)) (blankLine_concat.2 (.inl rfl))
    · have hsplit : Text.crlf (kept ++ [c]) = Text.crlf kept ++ [c] := by simp [Text.crlf_cons hc]
      rw [hsplit, blankLine_concat, blankLine_concat, ih]

/-- A word ends before a line break of either kind. -/
theorem endsWord_crlf (m : LineMarker) (after : List Char) :
    m.endsWord (Text.crlf after) = m.endsWord after := by
  have hhead : (Text.crlf after).head?.any Text.isWordChar = after.head?.any Text.isWordChar := by
    cases after with
    | nil => rfl
    | cons c after =>
      by_cases hc : c = '\n'
      · subst hc
        have hbreak : Text.isWordChar '\r' = false ∧ Text.isWordChar '\n' = false := by
          decide +kernel
        rw [Text.crlf_newline, List.head?_cons, List.head?_cons, Option.any_some, Option.any_some,
          hbreak.1, hbreak.2]
      · rw [Text.crlf_cons hc]
        rfl
  rw [LineMarker.endsWord, LineMarker.endsWord, hhead]

theorem opensAt_crlf {m : LineMarker} (hmarker : Text.Unbroken m.marker.toList) (rest : List Char)
    (before : Option Char) : m.opensAt (Text.crlf rest) before = m.opensAt rest before := by
  have hbegins : Text.startsWith (Text.crlf rest) m.marker = Text.startsWith rest m.marker := by
    rw [Bool.eq_iff_iff, Text.startsWith_iff, Text.startsWith_iff, Text.prefix_crlf_iff hmarker]
  rw [LineMarker.opensAt, LineMarker.opensAt, hbegins]
  by_cases hprefix : m.marker.toList <+: rest
  swap
  · simp only [Text.startsWith_eq_false_iff.2 hprefix, Bool.false_and]
  obtain ⟨after, rfl⟩ := hprefix
  rw [Text.crlf_append, Text.crlf_eq_self hmarker.1, ← String.length_toList, List.drop_left,
    List.drop_left, endsWord_crlf]

/-- A place in the text with the other line endings. -/
def Place.crlf (place : Place) : Place :=
  ⟨Text.crlf place.before, Text.crlf place.kept⟩

variable {place : Place}

/-- The rules find the same at a place with either line endings. -/
theorem covers_crlf (free : lexis.BreakFree) (place : Place) (rest : List Char) :
    Covers lexis place rest place.crlf (Text.crlf rest) ∧
      Covers lexis place.crlf (Text.crlf rest) place rest := by
  constructor
  · refine ⟨blankLine_crlf.1, fun pair hpair _ => ?_, fun entry hentry => ?_, fun m hm => ?_⟩
    · exact (Text.prefix_crlf_iff (free.blocks pair hpair).1).1
    · exact (Text.prefix_crlf_iff (free.delimiters entry hentry)).1
    · rw [opensAt_crlf (free.markers m hm), Place.crlf, Text.getLast?_crlf]
      exact id
  · refine ⟨blankLine_crlf.2, fun pair hpair _ => ?_, fun entry hentry => ?_, fun m hm => ?_⟩
    · exact (Text.prefix_crlf_iff (free.blocks pair hpair).1).2
    · exact (Text.prefix_crlf_iff (free.delimiters entry hentry)).2
    · rw [opensAt_crlf (free.markers m hm), Place.crlf, Text.getLast?_crlf]
      exact id

theorem Quiet.crlf (free : lexis.BreakFree) {rest : List Char} (h : Quiet lexis place rest) :
    Quiet lexis place.crlf (Text.crlf rest) :=
  h.of_covers (covers_crlf free place rest).1

theorem Opens.crlf (free : lexis.BreakFree) {rest : List Char} {o : Opening}
    (h : Opens lexis place rest o) : Opens lexis place.crlf (Text.crlf rest) o :=
  h.of_covers (covers_crlf free place rest).1 (covers_crlf free place rest).2

/-- Nothing begins at a character of a line break. -/
theorem quiet_of_break (sound : lexis.Sound) (free : lexis.BreakFree) (place : Place) {c : Char}
    (hc : c = '\n' ∨ c = '\r') (rest : List Char) : Quiet lexis place (c :: rest) where
  anchors := fun _ pair hpair _ =>
    (free.blocks pair hpair).1.not_begins (Text.toList_ne_nil (sound.start_ne hpair)) hc
  quotes := fun entry hentry =>
    (free.delimiters entry hentry).not_begins (Text.toList_ne_nil (sound.delimiter_ne hentry)) hc
  blocks := fun pair hpair _ =>
    (free.blocks pair hpair).1.not_begins (Text.toList_ne_nil (sound.start_ne hpair)) hc
  markers := by
    intro m hm
    have hnot : ¬ m.marker.toList <+: c :: rest :=
      (free.markers m hm).not_begins (Text.toList_ne_nil (sound.marker_ne hm)) hc
    rw [← Bool.not_eq_true]
    intro hopens
    exact hnot (Text.startsWith_iff.1 (LineMarker.startsWith_of_opensAt hopens))

/-! ## The inside of a literal -/

/-- Whether an escape character escapes a line feed. -/
def escapesFeed (escape : Option Char) : List Char → Bool
  | c :: d :: body =>
    if escape = some c then d == '\n' || escapesFeed escape body else escapesFeed escape (d :: body)
  | _ => false

/-- Behind a character that does not escape the next one, nothing new is escaped. -/
theorem escapesFeed_tail {escape : Option Char} {c : Char} {body tail : List Char}
    (hnext : State.escapesNext escape (c :: (body ++ tail)) = false)
    (h : escapesFeed escape (c :: body) = false) : escapesFeed escape body = false := by
  cases body with
  | nil => rfl
  | cons d body =>
    rw [List.cons_append, State.escapesNext, beq_eq_false_iff_ne] at hnext
    rwa [escapesFeed, if_neg hnext] at h

/-- No line feed is escaped in a literal that ends at a line break. -/
def Segment.KeepsFeeds (lexis : Lexis) : Segment → Prop
  | literal quote raw body _ =>
    quote.multiline = true ∨ raw = true ∨ escapesFeed lexis.escape body = false
  | code _ | line .. | block .. => True

section
variable {quote : Quote} {raw : Bool} {body tail after : List Char}

/-- A character of a line break is not the escape character. -/
theorem unescaped_of_break (free : lexis.BreakFree) {c : Char} (hc : c = '\n' ∨ c = '\r')
    (rest : List Char) : Unescaped lexis raw (c :: rest) := by
  refine .inr ?_
  cases rest with
  | nil => rfl
  | cons d rest =>
    rw [State.escapesNext, beq_eq_false_iff_ne]
    intro hescape
    have hunbroken := free.escape
    rw [hescape] at hunbroken
    rcases hc with rfl | rfl
    · exact hunbroken.1 (List.mem_singleton.2 rfl)
    · exact hunbroken.2 (List.mem_singleton.2 rfl)

/-- A literal that may go over line breaks goes on at each character of one. -/
theorem goesOn_of_break (free : lexis.BreakFree) (hquote : Text.Unbroken quote.delimiter.toList)
    (hne : quote.delimiter ≠ "") (hmultiline : quote.multiline = true) {c : Char}
    (hc : c = '\n' ∨ c = '\r') (rest : List Char) : GoesOn lexis quote raw (c :: rest) where
  unescaped := unescaped_of_break free hc rest
  no_delimiter := hquote.not_begins (Text.toList_ne_nil hne) hc
  no_break := .inl hmultiline

theorem Unescaped.crlf (free : lexis.BreakFree) {rest : List Char}
    (h : Unescaped lexis raw rest) : Unescaped lexis raw (Text.crlf rest) := by
  cases rest with
  | nil => exact h
  | cons c rest =>
    by_cases hc : c = '\n'
    · subst hc
      exact unescaped_of_break free (.inr rfl) _
    · rw [Text.crlf_cons hc]
      exact h.of_tail Text.crlf_eq_nil_iff.2

/-- What stands inside of a literal stands inside of it with the other line endings. -/
theorem LiteralBody.crlf (free : lexis.BreakFree) (hquote : Text.Unbroken quote.delimiter.toList)
    (hne : quote.delimiter ≠ "") (h : LiteralBody lexis quote raw tail body)
    (hkeeps : quote.multiline = true ∨ raw = true ∨ escapesFeed lexis.escape body = false)
    (hreturn : '\r' ∉ body) :
    LiteralBody lexis quote raw (Text.crlf tail) (Text.crlf body) := by
  have hon : quote.multiline = true → ∀ {c : Char} {rest : List Char}, c = '\n' ∨ c = '\r' →
      GoesOn lexis quote raw (c :: rest) :=
    fun hmultiline _ _ hc => goesOn_of_break free hquote hne hmultiline hc _
  induction h with
  | nil => exact .nil
  | @escaped c d body hraw hescape _ ih =>
    have hc : c ≠ '\n' := by
      rintro rfl
      have hunbroken := free.escape
      rw [hescape] at hunbroken
      exact hunbroken.1 (List.mem_singleton.2 rfl)
    simp only [hraw, escapesFeed, hescape, if_true, Bool.false_eq_true, false_or,
      Bool.or_eq_false_iff, beq_eq_false_iff_ne] at hkeeps
    simp only [List.mem_cons, not_or] at hreturn
    have hinner := ih (hkeeps.imp_right fun h => .inr (hescape ▸ h.2)) hreturn.2.2
    rw [Text.crlf_cons hc]
    by_cases hd : d = '\n'
    · subst hd
      -- the escape character takes the carriage return along, and the line feed is left
      have hmultiline := hkeeps.resolve_right fun h => h.1 rfl
      exact .escaped hraw hescape (.plain (hon hmultiline (.inl rfl)) hinner)
    · rw [Text.crlf_cons hd]
      exact .escaped hraw hescape hinner
  | @plain c body hgoes hbody ih =>
    rw [List.mem_cons, not_or] at hreturn
    have hinner : LiteralBody lexis quote raw (Text.crlf tail) (Text.crlf body) := by
      refine ih ?_ hreturn.2
      rcases hgoes.unescaped with hraw | hnext
      · exact .inr (.inl hraw)
      · exact hkeeps.imp_right (Or.imp_right (escapesFeed_tail hnext))
    by_cases hc : c = '\n'
    · subst hc
      have hmultiline := hgoes.no_break.resolve_right Bool.noConfusion
      exact .plain (hon hmultiline (.inr rfl)) (.plain (hon hmultiline (.inl rfl)) hinner)
    · rw [Text.crlf_cons hc]
      refine .plain ⟨?_, ?_, ?_⟩ hinner
      · rw [← Text.crlf_append, ← Text.crlf_cons hc]
        exact hgoes.unescaped.crlf free
      · rw [← Text.crlf_append, ← Text.crlf_cons hc, Text.prefix_crlf_iff hquote]
        exact hgoes.no_delimiter
      · exact .inr (Text.startsWithBreak_cons hc (Ne.symm hreturn.1) _)

theorem Close.crlf_chars (hquote : Text.Unbroken quote.delimiter.toList) (close : Close) :
    Text.crlf (close.chars quote) = close.chars quote := by
  cases close with
  | delimiter => exact Text.crlf_eq_self hquote.1
  | lineBreak => rfl
  | textEnd => rfl

/-- What ends a literal ends it with the other line endings. -/
theorem Close.Fits.crlf (free : lexis.BreakFree) (hquote : Text.Unbroken quote.delimiter.toList)
    {close : Close} (h : close.Fits lexis quote raw after) (hreturn : '\r' ∉ after) :
    close.Fits lexis quote raw (Text.crlf after) := by
  cases close with
  | delimiter =>
    have hescape := Unescaped.crlf free h
    rwa [Text.crlf_append, Text.crlf_eq_self hquote.1] at hescape
  | lineBreak =>
    obtain ⟨hescape, hdelimiter, hsingle, hbreak⟩ := h
    refine ⟨hescape.crlf free, ?_, hsingle, Text.startsWithBreak_crlf hbreak hreturn⟩
    rwa [Text.prefix_crlf_iff hquote]
  | textEnd => exact Text.crlf_eq_nil_iff.2 h

end

/-! ## The inside of a block comment -/

section
variable {pair : BlockPair} {body after : List Char}

theorem Levels.crlf (hstart : Text.Unbroken pair.start.toList)
    (hstop : Text.Unbroken pair.stop.toList) (hstartNe : pair.start ≠ "") (hstopNe : pair.stop ≠ "")
    {tail : List Char} {depth last : Nat} (h : Levels pair tail depth body last) :
    Levels pair (Text.crlf tail) depth (Text.crlf body) last := by
  induction h with
  | nil => exact .nil
  | close _ ih =>
    rw [Text.crlf_append, Text.crlf_eq_self hstop.1]
    exact .close ih
  | nest hfirst _ ih =>
    rw [← Text.prefix_crlf_iff hstop, Text.crlf_append, Text.crlf_append,
      Text.crlf_eq_self hstart.1] at hfirst
    rw [Text.crlf_append, Text.crlf_eq_self hstart.1]
    exact .nest hfirst ih
  | @plain depth last c body hclose hopen _ ih =>
    by_cases hc : c = '\n'
    · subst hc
      have hpass : ∀ {d : Char} {inner : List Char}, d = '\n' ∨ d = '\r' →
          Levels pair (Text.crlf tail) depth inner last →
          Levels pair (Text.crlf tail) depth (d :: inner) last :=
        fun hd => .plain (hstop.not_begins (Text.toList_ne_nil hstopNe) hd)
          (hstart.not_begins (Text.toList_ne_nil hstartNe) hd)
      exact hpass (.inr rfl) (hpass (.inl rfl) ih)
    · rw [← Text.prefix_crlf_iff hstop, Text.crlf_cons hc, Text.crlf_append] at hclose
      rw [← Text.prefix_crlf_iff hstart, Text.crlf_cons hc, Text.crlf_append] at hopen
      rw [Text.crlf_cons hc]
      exact .plain hclose hopen ih

theorem BlockBody.crlf (hstart : Text.Unbroken pair.start.toList)
    (hstop : Text.Unbroken pair.stop.toList) (hstartNe : pair.start ≠ "") (hstopNe : pair.stop ≠ "")
    {closed : Bool} (h : BlockBody pair body closed after) :
    BlockBody pair (Text.crlf body) closed (Text.crlf after) := by
  have hstopCrlf : Text.crlf pair.stop.toList = pair.stop.toList := Text.crlf_eq_self hstop.1
  unfold BlockBody at h ⊢
  split at h
  · rw [← hstopCrlf, ← Text.crlf_append]
    exact h.crlf hstop hstopNe
  · obtain ⟨rfl, havoids⟩ := h
    exact ⟨rfl, havoids.crlf hstop hstopNe⟩
  · rw [← hstopCrlf, ← Text.crlf_append]
    exact h.crlf hstart hstop hstartNe hstopNe
  · obtain ⟨rfl, depth, hlevels⟩ := h
    exact ⟨rfl, depth, hlevels.crlf hstart hstop hstartNe hstopNe⟩

end

/-! ## Segments -/

/-- The segments of a segment with the other line endings: a line feed in code becomes two
characters of code. -/
def Segment.crlf : Segment → List Segment
  | code c => (Text.crlf [c]).map code
  | literal quote raw body close => [literal quote raw (Text.crlf body) close]
  | line marker body => [line marker (Text.crlf body)]
  | block pair body closed => [block pair (Text.crlf body) closed]

section
variable {segment : Segment} {after : List Char}

/-- The token that a segment opens with has no line break. -/
theorem Listed.crlf_token (free : lexis.BreakFree) {o : Opening} (h : Listed lexis o) :
    Text.crlf o.token.toList = o.token.toList := by
  cases o with
  | block pair => exact Text.crlf_eq_self (free.blocks pair h).1.1
  | literal quote raw => exact Text.crlf_eq_self (free.delimiters _ h).1
  | line marker => exact Text.crlf_eq_self (free.markers marker h).1

theorem Segment.Fits.text_crlf (free : lexis.BreakFree) (h : segment.Fits lexis place after) :
    Segment.text segment.crlf = Text.crlf segment.chars := by
  cases segment with
  | code c => simp [Segment.crlf, Segment.text, Segment.chars, List.flatMap_map]
  | literal quote raw body close =>
    have htoken : Text.crlf quote.delimiter.toList = quote.delimiter.toList :=
      h.1.listed.crlf_token free
    have hclose := close.crlf_chars (free.delimiters _ h.1.2.mem)
    simp [Segment.crlf, Segment.chars, htoken, hclose]
  | line marker body =>
    have htoken : Text.crlf marker.marker.toList = marker.marker.toList :=
      h.1.listed.crlf_token free
    simp [Segment.crlf, Segment.chars, htoken]
  | block pair body closed =>
    have htoken : Text.crlf pair.start.toList = pair.start.toList := h.1.listed.crlf_token free
    have hstop := Text.crlf_eq_self (free.blocks pair h.1.listed).2.1
    cases closed with
    | true => simp [Segment.crlf, Segment.chars, htoken, hstop]
    | false => simp [Segment.crlf, Segment.chars, htoken]

theorem Segment.Fits.keptText_crlf (free : lexis.BreakFree) (h : segment.Fits lexis place after) :
    Segment.keptText segment.crlf = Text.crlf segment.kept := by
  have htext := h.text_crlf free
  cases segment with
  | code c =>
    simpa [Segment.crlf, Segment.keptText, Segment.text, Segment.kept, Segment.isKept,
      List.flatMap_map] using htext
  | literal quote raw body close =>
    simpa [Segment.crlf, Segment.kept, Segment.isKept] using htext
  | line marker body => simp [Segment.crlf, Segment.kept, Segment.isKept]
  | block pair body closed => simp [Segment.crlf, Segment.kept, Segment.isKept]

theorem Segment.advisories_crlf (line : Nat) (segment : Segment) :
    advisories line segment.crlf = (segment.advisory? line).toList := by
  match segment with
  | code c =>
    by_cases hc : c = '\n'
    · subst hc
      rfl
    · rw [Segment.crlf, Text.crlf_cons hc]
      rfl
  | literal _ _ _ .delimiter | Segment.line .. | block _ _ true => rfl
  | literal _ _ _ .lineBreak | literal _ _ _ .textEnd | block _ _ false => rfl

/-- The place after a segment, with the other line endings. -/
theorem Segment.Fits.place_crlf (free : lexis.BreakFree) (h : segment.Fits lexis place after) :
    (place.after segment).crlf = place.crlf.afterAll segment.crlf := by
  simp [Place.crlf, Place.after, Place.afterAll, h.text_crlf free, h.keptText_crlf free]

/-- A segment fits with the other line endings, in front of what follows it with these. -/
theorem Segment.Fits.crlf_append (sound : lexis.Sound) (free : lexis.BreakFree)
    (h : segment.Fits lexis place after) (hkeeps : segment.KeepsFeeds lexis)
    (hreturn : '\r' ∉ segment.chars ++ after) {others : List Segment}
    (hothers : Segment.text others = Text.crlf after)
    (hcut : Cut lexis (place.after segment).crlf others) :
    Cut lexis place.crlf (segment.crlf ++ others) := by
  have hopens : ∀ {o : Opening} {other : Segment}, segment.crlf = [other] →
      Opens lexis place (segment.chars ++ after) o →
      Opens lexis place.crlf (other.chars ++ Text.crlf after) o := by
    intro o other hsplit ho
    have hchars := h.text_crlf free
    rw [hsplit, Segment.text_cons, Segment.text_nil, List.append_nil] at hchars
    rw [hchars, ← Text.crlf_append]
    exact ho.crlf free
  have hone : ∀ {other : Segment}, segment.crlf = [other] →
      other.Fits lexis place.crlf (Text.crlf after) →
      Cut lexis place.crlf (segment.crlf ++ others) := by
    intro other hsplit hfits
    rw [h.place_crlf free, hsplit, Place.afterAll_cons, Place.afterAll_nil] at hcut
    rw [hsplit]
    exact ⟨hothers ▸ hfits, hcut⟩
  rw [List.mem_append, not_or] at hreturn
  cases segment with
  | code c =>
    have hquiet := Quiet.crlf free h
    by_cases hc : c = '\n'
    · subst hc
      have hsplit : (Segment.code '\n').crlf = [.code '\r', .code '\n'] := rfl
      rw [h.place_crlf free, hsplit, Place.afterAll_cons, Place.afterAll_cons,
        Place.afterAll_nil] at hcut
      rw [Text.crlf_newline, ← hothers] at hquiet
      exact ⟨hquiet, quiet_of_break sound free _ (.inl rfl) _, hcut⟩
    · have hsplit : (Segment.code c).crlf = [.code c] := by
        rw [Segment.crlf, Text.crlf_cons hc]
        rfl
      rw [Text.crlf_cons hc] at hquiet
      exact hone hsplit hquiet
  | literal quote raw body close =>
    have hunbroken : Text.Unbroken quote.delimiter.toList := free.delimiters _ h.1.2.mem
    have hbody : '\r' ∉ body := fun hmem => hreturn.1 (by simp [Segment.chars, hmem])
    refine hone rfl ⟨hopens rfl h.1, ?_, h.2.2.crlf free hunbroken hreturn.2⟩
    rw [← close.crlf_chars hunbroken, ← Text.crlf_append]
    exact h.2.1.crlf free hunbroken (sound.delimiter_ne h.1.2.mem) hkeeps hbody
  | line marker body =>
    refine hone rfl ⟨hopens rfl h.1, h.2.crlf fun hmem => ?_⟩
    rcases List.mem_append.1 hmem with hbody | hafter
    · exact hreturn.1 (List.mem_append_right _ hbody)
    · exact hreturn.2 hafter
  | block pair body closed =>
    have hpair : pair ∈ lexis.blocks := h.1.listed
    obtain ⟨hstart, hstop⟩ := free.blocks pair hpair
    refine hone rfl ⟨hopens rfl h.1, ?_⟩
    exact h.2.crlf hstart hstop (sound.start_ne hpair) (sound.stop_ne hpair)

end

/-! ## A whole text -/

section
variable {segments : List Segment}

theorem Cut.text_crlf (free : lexis.BreakFree) (h : Cut lexis place segments) :
    Segment.text (segments.flatMap Segment.crlf) = Text.crlf (Segment.text segments) := by
  induction segments generalizing place with
  | nil => rfl
  | cons segment segments ih =>
    rw [List.flatMap_cons, Segment.text_append, h.1.text_crlf free, ih h.2, Segment.text_cons,
      Text.crlf_append]

theorem Cut.keptText_crlf (free : lexis.BreakFree) (h : Cut lexis place segments) :
    Segment.keptText (segments.flatMap Segment.crlf) = Text.crlf (Segment.keptText segments) := by
  induction segments generalizing place with
  | nil => rfl
  | cons segment segments ih =>
    rw [List.flatMap_cons, Segment.keptText_append, h.1.keptText_crlf free, ih h.2,
      Segment.keptText_cons, Text.crlf_append]

/-- Segments with the other line endings raise the same advisories, on the same lines. -/
theorem Cut.advisories_crlf (free : lexis.BreakFree) (h : Cut lexis place segments) (line : Nat) :
    Segment.advisories line (segments.flatMap Segment.crlf) = Segment.advisories line segments := by
  induction segments generalizing place line with
  | nil => rfl
  | cons segment segments ih =>
    rw [List.flatMap_cons, Segment.advisories_append, Segment.advisories_crlf, h.1.text_crlf free,
      Text.countBreaks_crlf, ih h.2, Segment.advisories]

/-- **A cut stays one with the other line endings.** -/
theorem Cut.crlf (sound : lexis.Sound) (free : lexis.BreakFree) (h : Cut lexis place segments)
    (hkeeps : ∀ segment ∈ segments, segment.KeepsFeeds lexis)
    (hreturn : '\r' ∉ Segment.text segments) :
    Cut lexis place.crlf (segments.flatMap Segment.crlf) := by
  induction segments generalizing place with
  | nil => trivial
  | cons segment segments ih =>
    rw [List.forall_mem_cons] at hkeeps
    have hlater := ih h.2 hkeeps.2 fun hmem => hreturn (List.mem_append_right _ hmem)
    exact h.1.crlf_append sound free hkeeps.1 hreturn (h.2.text_crlf free) hlater

end

theorem Cut.scan_crlf (sound : lexis.Sound) (free : lexis.BreakFree) {segments : List Segment}
    (h : Cut lexis ⟨[], []⟩ segments) (hkeeps : ∀ segment ∈ segments, segment.KeepsFeeds lexis)
    (hreturn : '\r' ∉ Segment.text segments) :
    scan lexis (Text.crlf (Segment.text segments)) =
      (scan lexis (Segment.text segments)).crlf := by
  have hcrlf : Cut lexis ⟨[], []⟩ (segments.flatMap Segment.crlf) :=
    h.crlf sound free hkeeps hreturn
  rw [← h.text_crlf free, hcrlf.scan_eq sound, h.scan_eq sound, h.keptText_crlf free,
    h.advisories_crlf free, Stripped.crlf]

/-! ## Where nothing can go wrong -/

theorem escapesFeed_none (body : List Char) : escapesFeed none body = false := by
  induction body with
  | nil => rfl
  | cons c body ih =>
    cases body with
    | nil => rfl
    | cons d body => rwa [escapesFeed, if_neg nofun]

/-- Where literals with an escape character go over line breaks, no line feed can do harm. -/
theorem Segment.Fits.keepsFeeds (across : lexis.EscapesAcrossLines) {segment : Segment}
    {after : List Char} (h : segment.Fits lexis place after) : segment.KeepsFeeds lexis := by
  cases segment with
  | literal quote raw body close =>
    have hmem := h.1.2.mem
    cases raw with
    | true => exact .inr (.inl rfl)
    | false =>
      rcases across with hnone | hall
      · refine .inr (.inr ?_)
        rw [hnone]
        exact escapesFeed_none body
      · refine .inl (hall quote ?_)
        simpa [Lexis.delimiters] using hmem
  | code c => trivial
  | line marker body => trivial
  | block pair body closed => trivial

theorem Cut.keepsFeeds (across : lexis.EscapesAcrossLines) {segments : List Segment}
    (h : Cut lexis place segments) : ∀ segment ∈ segments, segment.KeepsFeeds lexis := by
  intro segment hsegment
  obtain ⟨earlier, later, rfl⟩ := List.append_of_mem hsegment
  exact h.fits.keepsFeeds across

theorem scan_crlf_of_across (sound : lexis.Sound) (free : lexis.BreakFree)
    (across : lexis.EscapesAcrossLines) {text : List Char} (hreturn : '\r' ∉ text) :
    scan lexis (Text.crlf text) = (scan lexis text).crlf := by
  obtain ⟨segments, hcut, rfl⟩ := exists_cut sound ⟨[], []⟩ text
  exact hcut.scan_crlf sound free (hcut.keepsFeeds across) hreturn

/-- **Line endings do not matter.** Under sound rules of which no token holds a character of a line
break, and where literals in which something can be escaped go over line breaks, a text with a
carriage return before each line feed is stripped to the same text with a carriage return before
each line feed, and the same is left open on the same lines. -/
theorem scan_lineEndings (sound : lexis.Sound) (free : lexis.BreakFree)
    (across : lexis.EscapesAcrossLines) (text : List Char) (hreturn : '\r' ∉ text) :
    (scan lexis (Text.crlf text)).text = Text.crlf (scan lexis text).text ∧
      (scan lexis (Text.crlf text)).advisories = (scan lexis text).advisories := by
  rw [scan_crlf_of_across sound free across hreturn]
  exact ⟨rfl, rfl⟩

/-- An escaped line feed, a marker before a line break, a comment over two lines, and a literal that
is left open. -/
theorem scan_lineEndings_cStyle :
    (scan Language.cStyle.lexis (Text.crlf "'\\\n' //\n:/*\n*/ \"".toList)).text =
        Text.crlf (scan Language.cStyle.lexis "'\\\n' //\n:/*\n*/ \"".toList).text ∧
      (scan Language.cStyle.lexis (Text.crlf "'\\\n' //\n:/*\n*/ \"".toList)).advisories =
        (scan Language.cStyle.lexis "'\\\n' //\n:/*\n*/ \"".toList).advisories :=
  scan_lineEndings (by decide) (by decide) (by decide) _ (by decide)

/-! ## The languages known from the start -/

theorem builtin_breakFree :
    ∀ language ∈ Registry.builtin.languages, language.lexis.Sound ∧ language.lexis.BreakFree ∧
      (language.id ∉ ["yaml", "haskell"] → language.lexis.EscapesAcrossLines) := by
  decide

/-- In the languages named here an escaped line feed ends a literal if it has a carriage return
before it. -/
theorem builtin_escaped_feed :
    ∀ language ∈ Registry.builtin.languages, language.id ∈ ["yaml", "haskell"] →
      scan language.lexis (Text.crlf "\"\\\n\"".toList) ≠
        (scan language.lexis "\"\\\n\"".toList).crlf := by
  decide +kernel

/-- **Where line endings do not matter, among the languages known from the start.** In all of them
but two no text is scanned differently with the other line endings. In these two, literals end at a
line break although the line feed can be escaped in them; there, no text is scanned differently
in which no literal has an escaped line feed. -/
theorem builtin_lineEndings :
    ∀ language ∈ Registry.builtin.languages,
      ((∀ text : List Char, '\r' ∉ text →
          scan language.lexis (Text.crlf text) = (scan language.lexis text).crlf) ↔
        language.id ∉ ["yaml", "haskell"]) ∧
      ∀ (text : List Char) (segments : List Segment), '\r' ∉ text →
        Partition language.lexis text segments →
        (∀ segment ∈ segments, segment.KeepsFeeds language.lexis) →
          scan language.lexis (Text.crlf text) = (scan language.lexis text).crlf := by
  intro language hlanguage
  obtain ⟨sound, free, hacross⟩ := builtin_breakFree language hlanguage
  refine ⟨⟨fun hall hid => ?_, fun hid text => ?_⟩, ?_⟩
  · exact builtin_escaped_feed language hlanguage hid (hall _ (by decide))
  · exact scan_crlf_of_across sound free (hacross hid)
  · rintro text segments hreturn hparts hkeeps
    obtain ⟨hcut, rfl⟩ := hparts.cut
    exact hcut.scan_crlf sound free hkeeps hreturn

/-- A literal of one line that is left open, and comments, in a language without an escape
character. -/
theorem builtin_lineEndings_batch :
    Language.batch.normalize ∈ Registry.builtin.languages ∧
      scan Language.batch.normalize.lexis (Text.crlf "\"a\nrem\n:: \"b\n".toList) =
        (scan Language.batch.normalize.lexis "\"a\nrem\n:: \"b\n".toList).crlf :=
  ⟨by decide, (builtin_lineEndings _ (by decide)).1.2 (by decide) _ (by decide)⟩

/-- A literal with an escaped line feed: with a carriage return before it, the literal ends there,
and what stands behind it is taken for a comment. -/
theorem yaml_escaped_feed_ends_literal :
    ∃ language, Registry.builtin.get? "yaml" = some language ∧
      scan language.lexis "\"\\\n# x\"".toList = ⟨"\"\\\n# x\"".toList, []⟩ ∧
      scan language.lexis (Text.crlf "\"\\\n# x\"".toList) =
        ⟨"\"\\\r\n".toList, [.unterminatedString "\"" 1]⟩ := by
  refine ⟨Language.yaml.normalize, ?_, ?_, ?_⟩
  · decide +kernel
  · decide +kernel
  · decide +kernel

end Scan

end Decomment
