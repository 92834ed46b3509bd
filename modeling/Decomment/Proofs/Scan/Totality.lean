import Decomment.Proofs.Scan.Cursor
import Decomment.Proofs.Scan.Run
import Decomment.Proofs.Scan.Simulation
import Decomment.Registry.Builtin
import Mathlib.Data.Nat.Find

/-!
# No step of a scan is out of range

A scan by offsets goes along with a scan over characters (`Follows`): its offset is the size of what
was read, and an offset that it remembers is the size of something read before. So each of its
slices is cut at a place of the text, and each of its steps gives something (`Follows.step`). The
number of steps is the one of `Run`; in the end both scans give the same (`scan_total`).
-/

namespace Decomment.Scan

/-! ## Following a scan -/

/-- An offset and a line that belong to a place passed on the way. -/
def Passed (before : List Char) (offset line : Nat) : Prop :=
  ∃ passed, passed <+: before ∧ offset = Text.size passed ∧ line = 1 + Text.countBreaks passed

theorem Passed.start (before : List Char) : Passed before 0 1 :=
  ⟨[], List.nil_prefix, rfl, rfl⟩

theorem Passed.here (before : List Char) :
    Passed before (Text.size before) (1 + Text.countBreaks before) :=
  ⟨before, List.prefix_rfl, rfl, rfl⟩

theorem Passed.append {before : List Char} {offset line : Nat} (h : Passed before offset line)
    (more : List Char) : Passed (before ++ more) offset line := by
  obtain ⟨passed, hpassed, hoffset, hline⟩ := h
  exact ⟨passed, hpassed.trans (List.prefix_append _ _), hoffset, hline⟩

/-- The modes agree, and what is open was opened at a place passed on the way. -/
inductive Mode.Follows (before : List Char) : Mode → Cursor.Mode → Prop
  | code : Follows before .code .code
  | literal {quote : Quote} {raw : Bool} {line openedAt : Nat} : Passed before openedAt line →
      Follows before (.literal quote raw line) (.literal quote raw openedAt)
  | lineComment : Follows before .lineComment .lineComment
  | block {pair : BlockPair} {depth line openedAt : Nat} : Passed before openedAt line →
      Follows before (.block pair depth line) (.block pair depth openedAt)

theorem Mode.Follows.append {before : List Char} {mode : Mode} {cmode : Cursor.Mode}
    (h : mode.Follows before cmode) (more : List Char) : mode.Follows (before ++ more) cmode := by
  cases h with
  | code => exact .code
  | literal h => exact .literal (h.append more)
  | lineComment => exact .lineComment
  | block h => exact .block (h.append more)

/-- A scan by offsets has come as far as a scan over characters. Their modes are left out. -/
structure Tracks (text : List Char) (s : State) (c : Cursor) : Prop where
  input : s.read.reverse ++ s.rest = text
  offset : c.offset = Text.size s.read.reverse
  kept : c.kept = s.kept.reverse
  lineBlank : c.lineBlank = s.lineBlank
  line : s.line = 1 + Text.countBreaks s.read.reverse
  mark : Passed s.read.reverse c.mark.1 c.mark.2
  advisories : c.advisories = s.advisories.reverse

/-- A scan by offsets goes along with a scan over characters. At the end of the text it stays in a
line comment that the other one leaves. -/
structure Follows (text : List Char) (s : State) (c : Cursor) : Prop extends Tracks text s c where
  mode : s.mode.Follows s.read.reverse c.mode ∨
    s.rest = [] ∧ s.mode = .code ∧ c.mode = .lineComment

theorem follows_start (text : List Char) : Follows text (.start text) {} where
  input := rfl
  offset := rfl
  kept := rfl
  lineBlank := rfl
  line := rfl
  mark := .start _
  advisories := rfl
  mode := .inl .code

section
variable {text taken rest : List Char} {s : State} {c : Cursor}

/-- The offset is at the end just when nothing is left. -/
theorem Tracks.offset_lt_iff (h : Tracks text s c) : c.offset < Text.size text ↔ s.rest ≠ [] := by
  rw [← h.input, Text.size_append, h.offset]
  constructor
  · rintro hlt hnil
    rw [hnil, Text.size_nil] at hlt
    omega
  · intro hne
    have := Text.size_pos hne
    omega

theorem Tracks.from? (h : Tracks text s c) : Text.from? c.offset text = some s.rest := by
  rw [← h.input, h.offset, Text.from?_size]

theorem Tracks.upTo? (h : Tracks text s c) : Text.upTo? c.offset text = some s.read.reverse := by
  rw [← h.input, h.offset, Text.upTo?_size]

/-! ## What both scans do to their states -/

theorem read_skip (hrest : s.rest = taken ++ rest) :
    (s.skip taken.length).read.reverse = s.read.reverse ++ taken := by
  simp [State.skip, hrest, List.reverseAux_eq]

theorem Tracks.skip (h : Tracks text s c) (hrest : s.rest = taken ++ rest) :
    Tracks text (s.skip taken.length) (c.move (Text.size taken) c.mode) := by
  have hread := read_skip hrest
  constructor
  · rw [hread, State.rest_skip, hrest, List.drop_left, ← h.input, hrest, List.append_assoc]
  · rw [hread, Text.size_append, ← h.offset]
    rfl
  · exact h.kept
  · exact h.lineBlank
  · rw [hread, countBreaks_append, ← Nat.add_assoc, ← h.line]
    simp [State.skip, hrest]
  · rw [hread]
    exact h.mark.append taken
  · exact h.advisories

/-- Both scans drop the same characters and go on in modes that agree. -/
theorem Tracks.skip_follows (h : Tracks text s c) (hrest : s.rest = taken ++ rest) {mode : Mode}
    {cmode : Cursor.Mode} (hmode : mode.Follows (s.read.reverse ++ taken) cmode) :
    Follows text ((s.skip taken.length).enter mode) (c.move (Text.size taken) cmode) := by
  obtain ⟨input, offset, kept, lineBlank, line, mark, advisories⟩ := h.skip hrest
  refine ⟨⟨input, offset, kept, lineBlank, line, mark, advisories⟩, .inl ?_⟩
  rwa [← read_skip hrest] at hmode

/-- Both scans keep the same characters and go on in modes that agree. -/
theorem Tracks.keep_follows (h : Tracks text s c) (hrest : s.rest = taken ++ rest) {mode : Mode}
    {cmode : Cursor.Mode} (hmode : mode.Follows (s.read.reverse ++ taken) cmode) :
    Follows text ((s.keep taken.length).enter mode)
      ((c.emit taken).move (Text.size taken) cmode) := by
  obtain ⟨input, offset, -, -, line, mark, advisories⟩ := h.skip hrest
  refine ⟨⟨input, offset, ?_, ?_, line, mark, advisories⟩, .inl ?_⟩
  · simp [Cursor.emit, Cursor.move, State.keep, State.enter, hrest, List.reverseAux_eq, h.kept]
  · simp [Cursor.emit, Cursor.move, State.keep, State.enter, hrest, h.lineBlank]
  · rwa [← read_skip hrest] at hmode

theorem Tracks.skip_token (h : Tracks text s c) {token : String} (hrest : token.toList <+: s.rest)
    {mode : Mode} {cmode : Cursor.Mode}
    (hmode : mode.Follows (s.read.reverse ++ token.toList) cmode) :
    Follows text ((s.skip token.length).enter mode) (c.move token.utf8ByteSize cmode) := by
  obtain ⟨rest, hrest⟩ := hrest
  rw [← String.length_toList, ← Text.size_toList]
  exact h.skip_follows hrest.symm hmode

theorem Tracks.keep_token (h : Tracks text s c) {token : String} (hrest : token.toList <+: s.rest)
    {mode : Mode} {cmode : Cursor.Mode}
    (hmode : mode.Follows (s.read.reverse ++ token.toList) cmode) :
    Follows text ((s.keep token.length).enter mode)
      ((c.emit token.toList).move token.utf8ByteSize cmode) := by
  obtain ⟨rest, hrest⟩ := hrest
  rw [← String.length_toList, ← Text.size_toList]
  exact h.keep_follows hrest.symm hmode

/-- The line of a place passed on the way is found, whatever place was asked for before. -/
theorem Tracks.lineOf? (h : Tracks text s c) {offset line : Nat}
    (hplace : Passed s.read.reverse offset line) :
    c.lineOf? text offset = some (line, { c with mark := (offset, line) }) := by
  -- counting goes on from some place that the asked one lies behind
  obtain ⟨start, passed, hstart, hmark⟩ : ∃ start passed,
      start ++ passed <+: s.read.reverse ∧ offset = Text.size (start ++ passed) ∧
      line = 1 + Text.countBreaks (start ++ passed) ∧
      (if c.mark.1 ≤ offset then c.mark else (0, 1)) =
        (Text.size start, 1 + Text.countBreaks start) := by
    obtain ⟨place, hprefix, hoffset, hline⟩ := hplace
    obtain ⟨marked, hmarked, hsize, hcount⟩ := h.mark
    split
    · next hle =>
      rcases List.prefix_or_prefix_of_prefix hmarked hprefix with ⟨more, rfl⟩ | ⟨more, rfl⟩
      · exact ⟨marked, more, hprefix, hoffset, hline, Prod.ext hsize hcount⟩
      · have hnil : more = [] := by
          by_contra hne
          have := Text.size_pos hne
          rw [hsize, hoffset, Text.size_append] at hle
          omega
        subst hnil
        rw [List.append_nil] at hsize hcount
        exact ⟨place, [], by rwa [List.append_nil], by rwa [List.append_nil],
          by rwa [List.append_nil], Prod.ext hsize hcount⟩
    · exact ⟨[], place, hprefix, hoffset, hline, rfl⟩
  obtain ⟨hoffset, hline, hif⟩ := hmark
  obtain ⟨behind, hbehind⟩ := hstart
  have hbytes : Text.bytesBetween? (Text.size start) offset text = some (Text.bytes passed) := by
    rw [← h.input, ← hbehind, List.append_assoc _ behind, hoffset, Text.bytesBetween?_size]
  rw [Cursor.lineOf?, hif]
  dsimp only
  rw [hbytes, Option.map_some, Text.count_newline_bytes, Nat.add_assoc, ← countBreaks_append,
    ← hline]

/-- Both scans raise the same advisory. -/
theorem Tracks.advise (h : Tracks text s c) {openedAt line : Nat}
    (hplace : Passed s.read.reverse openedAt line) (advisory : Nat → Advisory) :
    ∃ raised, c.advise? text openedAt advisory = some raised ∧
      Tracks text (s.advise (advisory line)) raised := by
  rw [Cursor.advise?, h.lineOf? hplace]
  refine ⟨_, rfl, h.input, h.offset, h.kept, h.lineBlank, h.line, hplace, ?_⟩
  simp [State.advise, h.advisories]

end

/-! ## One step -/

/-- A marker is looked at without a slice out of range. -/
theorem opensAt?_eq (m : LineMarker) (rest : List Char) (before : Option Char) :
    opensAt? m rest before = some (m.opensAt rest before) := by
  rw [opensAt?, LineMarker.opensAt]
  by_cases hbegins : Text.startsWith rest m.marker = true
  swap
  · simp [hbegins]
  obtain ⟨after, rfl⟩ := Text.startsWith_iff.1 hbegins
  have hafter : (m.marker.toList ++ after).drop m.marker.length = after := by
    rw [← String.length_toList, List.drop_left]
  have hfrom : Text.from? m.marker.utf8ByteSize (m.marker.toList ++ after) = some after := by
    rw [← Text.size_toList, Text.from?_size]
  rw [hbegins, hafter, hfrom, LineMarker.endsWord]
  by_cases hword : m.marker.toList.getLast?.any Text.isWordChar = true
  · cases before.any m.notAfter.contains <;> cases m.standalone <;> simp [hword]
  · cases before.any m.notAfter.contains <;> cases m.standalone <;> simp [hword]

theorem findOpening?_eq (rest : List Char) (before : Option Char) (markers : List LineMarker) :
    findOpening? rest before markers = some (markers.find? (·.opensAt rest before)) := by
  induction markers with
  | nil => rfl
  | cons m markers ih =>
    rw [findOpening?, opensAt?_eq, Option.bind_some, List.find?_cons]
    cases m.opensAt rest before with
    | true => rfl
    | false => exact ih

section
variable {lexis : Lexis} {text : List Char} {s : State} {c : Cursor}

/-- Both scans keep some characters of the text and stay in their modes. -/
theorem Tracks.keep_slice (h : Tracks text s c) {taken rest : List Char}
    (hrest : s.rest = taken ++ rest) (hmode : s.mode.Follows s.read.reverse c.mode) :
    ∃ next, (Text.upTo? (Text.size taken) s.rest).map
        (fun slice => (c.emit slice).move (Text.size taken) c.mode) = some next ∧
      Follows text (s.keep taken.length) next := by
  refine ⟨_, ?_, h.keep_follows hrest (hmode.append taken)⟩
  rw [hrest, Text.upTo?_size, Option.map_some]

theorem Tracks.emitChar (h : Tracks text s c) (hrest : s.rest ≠ [])
    (hmode : s.mode.Follows s.read.reverse c.mode) :
    ∃ next, c.emitChar s.rest = some next ∧ Follows text (s.keep 1) next := by
  obtain ⟨d, rest, hd⟩ := List.exists_cons_of_ne_nil hrest
  have hbytes : s.rest.head?.elim 1 Char.utf8Size = Text.size [d] := by
    rw [hd, Text.size_cons, Text.size_nil]
    rfl
  rw [Cursor.emitChar, hbytes]
  exact h.keep_slice (show s.rest = [d] ++ rest from hd) hmode

theorem Tracks.stepCode (h : Tracks text s c) (hrest : s.rest ≠ []) (hmode : s.mode = .code)
    (hcmode : c.mode = .code) :
    ∃ next, c.stepCode lexis text s.rest = some next ∧ Follows text (s.stepCode lexis) next := by
  have hhead : s.read.head? = s.read.reverse.getLast? := by rw [List.getLast?_reverse]
  have hopened : Passed (s.read.reverse) c.offset s.line := by
    rw [h.offset, h.line]
    exact .here _
  rw [Cursor.stepCode, State.stepCode, h.lineBlank, Lexis.opening?]
  cases hanchor : if s.lineBlank then lexis.blockAt? true s.rest else none with
  | some pair =>
    have hbegins : pair.start.toList <+: s.rest := by
      split at hanchor
      · exact (blockAt?_eq_some_iff.1 hanchor).mem.2.2
      · cases hanchor
    exact ⟨_, rfl, h.skip_token hbegins (.block (hopened.append _))⟩
  | none =>
  cases hquote : lexis.quoteAt? s.rest with
  | some found =>
    obtain ⟨quote, raw⟩ := found
    have hbegins := (longestQuote_of_quoteAt? hquote).begins
    exact ⟨_, rfl, h.keep_token hbegins (.literal (hopened.append _))⟩
  | none =>
  cases hblock : lexis.blockAt? false s.rest with
  | some pair =>
    have hbegins := (blockAt?_eq_some_iff.1 hblock).mem.2.2
    exact ⟨_, rfl, h.skip_token hbegins (.block (hopened.append _))⟩
  | none =>
  dsimp only
  rw [h.upTo?, Option.bind_some, findOpening?_eq, Option.bind_some, ← hhead, ← Lexis.lineMarkerAt?]
  cases hmarker : lexis.lineMarkerAt? s.rest s.read.head? with
  | some m =>
    have hopens := (lineMarkerAt?_eq_some_iff.1 hmarker).mem.2
    have hbegins := Text.startsWith_iff.1 (LineMarker.startsWith_of_opensAt hopens)
    exact ⟨_, rfl, h.skip_token hbegins .lineComment⟩
  | none => exact h.emitChar hrest (by rw [hmode, hcmode]; exact .code)

theorem exists_of_escapesNext {escape : Option Char} {rest : List Char}
    (h : State.escapesNext escape rest = true) : ∃ d e tail, rest = d :: e :: tail := by
  cases rest with
  | nil => cases h
  | cons d tail =>
    cases tail with
    | nil => cases h
    | cons e tail => exact ⟨d, e, tail, rfl⟩

theorem Tracks.stepLiteral (h : Tracks text s c) (hrest : s.rest ≠ []) {quote : Quote} {raw : Bool}
    {line openedAt : Nat} (hmode : s.mode = .literal quote raw line)
    (hcmode : c.mode = .literal quote raw openedAt)
    (hopened : Passed s.read.reverse openedAt line) :
    ∃ next, c.stepLiteral lexis text s.rest quote raw openedAt = some next ∧
      Follows text (s.stepLiteral lexis quote raw line) next := by
  have hmodes : s.mode.Follows s.read.reverse c.mode := by
    rw [hmode, hcmode]
    exact .literal hopened
  rw [Cursor.stepLiteral, State.stepLiteral]
  by_cases hescape : (!raw && State.escapesNext lexis.escape s.rest) = true
  · rw [if_pos hescape, if_pos hescape]
    obtain ⟨d, e, rest, hd⟩ := exists_of_escapesNext (Bool.and_eq_true_iff.1 hescape).2
    have htwo : s.rest.take 2 = [d, e] := by rw [hd]; rfl
    rw [htwo]
    exact h.keep_slice (show s.rest = [d, e] ++ rest from hd) hmodes
  rw [if_neg hescape, if_neg hescape]
  by_cases hdelimiter : Text.startsWith s.rest quote.delimiter = true
  · rw [if_pos hdelimiter, if_pos hdelimiter]
    exact ⟨_, rfl, h.keep_token (Text.startsWith_iff.1 hdelimiter) .code⟩
  rw [if_neg hdelimiter, if_neg hdelimiter]
  by_cases hbreak : (!quote.multiline && Text.startsWithBreak s.rest) = true
  · rw [if_pos hbreak, if_pos hbreak]
    obtain ⟨raised, hraised, htracks⟩ :=
      h.advise hopened (.unterminatedString quote.delimiter)
    rw [hraised, Option.map_some]
    exact ⟨_, rfl, ⟨htracks.input, htracks.offset, htracks.kept, htracks.lineBlank, htracks.line,
      htracks.mark, htracks.advisories⟩, .inl .code⟩
  · rw [if_neg hbreak, if_neg hbreak]
    exact h.emitChar hrest hmodes

/-- The search for an offset finds the size of what stands before the pattern. -/
theorem offsetOf?_append {pattern : String} {body after : List Char}
    (h : Text.Avoids pattern body (pattern.toList ++ after)) :
    offsetOf? pattern (body ++ (pattern.toList ++ after)) = some (Text.size body) := by
  rw [offsetOf?, Text.indexOf?_append h, Option.map_some, List.take_left]

theorem avoids_newline {line : List Char} (hline : '\n' ∉ line) (rest : List Char) :
    Text.Avoids "\n" line rest := by
  induction line with
  | nil => trivial
  | cons d line ih =>
    rw [List.mem_cons, not_or] at hline
    refine ⟨fun hprefix => hline.1 ?_, ih hline.2⟩
    exact (List.cons_prefix_cons.1 hprefix).1

/-- Both scans drop all that is left, and stay in modes that agree or leave a line comment. -/
theorem Tracks.skip_all (h : Tracks text s c) {mode : Mode}
    (hmode : mode.Follows text c.mode ∨ mode = .code ∧ c.mode = .lineComment) :
    Follows text ((s.skip s.rest.length).enter mode) { c with offset := Text.size text } := by
  have hrest : s.rest = s.rest ++ [] := (List.append_nil _).symm
  have htracks := h.skip hrest
  have hread := read_skip hrest
  rw [h.input] at hread
  refine ⟨⟨htracks.input, ?_, htracks.kept, htracks.lineBlank, htracks.line, htracks.mark,
    htracks.advisories⟩, ?_⟩
  · show Text.size text = Text.size (s.skip s.rest.length).read.reverse
    rw [hread]
  · show mode.Follows (s.skip s.rest.length).read.reverse c.mode ∨
      (s.skip s.rest.length).rest = [] ∧ mode = .code ∧ c.mode = .lineComment
    rw [hread]
    refine hmode.imp_right fun hend => ⟨?_, hend⟩
    rw [State.rest_skip, List.drop_length]

theorem Tracks.stepLine (h : Tracks text s c) (hcmode : c.mode = .lineComment) :
    ∃ next, c.stepLine text s.rest = some next ∧ Follows text s.stepLine next := by
  rw [Cursor.stepLine, State.stepLine]
  by_cases hbreak : '\n' ∈ s.rest
  swap
  · -- the last line of the text
    have hends : Text.EndsLine s.rest [] := ⟨hbreak, .inl rfl⟩
    have hlength := Text.lineLength_append hends
    rw [List.append_nil] at hlength
    rw [offsetOf?, Text.indexOf?_eq_none (by decide) (avoids_newline hbreak []), hlength]
    exact ⟨_, rfl, h.skip_all (.inr ⟨rfl, hcmode⟩)⟩
  obtain ⟨line, rest, hrest, hline⟩ := List.eq_append_cons_of_mem hbreak
  have hoffset : offsetOf? "\n" s.rest = some (Text.size line) := by
    rw [hrest]
    exact offsetOf?_append (avoids_newline hline _)
  have hslice : Text.upTo? (Text.size line) s.rest = some line := by
    rw [hrest, Text.upTo?_size]
  rw [hoffset]
  dsimp only
  rw [hslice, Option.bind_some]
  by_cases hreturn : line.getLast? = some '\r'
  · -- the carriage return before the line feed stays
    obtain ⟨body, rfl⟩ := List.getLast?_eq_some_iff.1 hreturn
    have hends : Text.EndsLine body ('\r' :: '\n' :: rest) :=
      ⟨fun hb => hline (List.mem_append_left _ hb), .inr (.inr ⟨rest, rfl⟩)⟩
    rw [List.append_assoc] at hrest
    have hlength : Text.lineLength s.rest = body.length := by
      rw [hrest]
      exact Text.lineLength_append hends
    rw [if_pos hreturn, hlength, Text.size_append]
    exact ⟨_, rfl, h.skip_follows hrest .code⟩
  · have hends : Text.EndsLine line ('\n' :: rest) := ⟨hline, .inr (.inl ⟨rest, rfl, hreturn⟩)⟩
    rw [if_neg hreturn, hrest, Text.lineLength_append hends]
    exact ⟨_, rfl, h.skip_follows hrest .code⟩

theorem Tracks.stepFlatBlock (h : Tracks text s c) {pair : BlockPair} (hstop : pair.stop ≠ "")
    (hnest : pair.nestable = false) {depth line openedAt : Nat}
    (hmode : s.mode = .block pair depth line) (hcmode : c.mode = .block pair depth openedAt)
    (hopened : Passed s.read.reverse openedAt line) :
    ∃ next, c.stepBlock text s.rest pair depth openedAt = some next ∧
      Follows text (s.stepFlatBlock pair) next := by
  rw [Cursor.stepBlock, State.stepFlatBlock, if_pos (by rw [hnest]; rfl)]
  rcases Text.exists_avoids pair.stop s.rest with ⟨body, after, hrest, havoids⟩ | havoids
  · have hlength : body.length + pair.stop.length = (body ++ pair.stop.toList).length := by
      rw [List.length_append, String.length_toList]
    have hsize : Text.size body + pair.stop.utf8ByteSize =
        Text.size (body ++ pair.stop.toList) := by
      rw [Text.size_append, Text.size_toList]
    rw [hrest, offsetOf?_append havoids, Text.indexOf?_append havoids]
    dsimp only
    rw [hlength, hsize]
    exact ⟨_, rfl, h.skip_follows (by rw [hrest, List.append_assoc]) .code⟩
  · rw [offsetOf?, Text.indexOf?_eq_none hstop havoids]
    refine ⟨_, rfl, h.skip_all (.inl ?_)⟩
    rw [hmode, hcmode, ← h.input]
    exact .block (hopened.append _)

theorem Tracks.stepNestedBlock (h : Tracks text s c) (hrest : s.rest ≠ []) {pair : BlockPair}
    (hnest : pair.nestable = true) {depth line openedAt : Nat}
    (hmode : s.mode = .block pair depth line) (hcmode : c.mode = .block pair depth openedAt)
    (hopened : Passed s.read.reverse openedAt line) :
    ∃ next, c.stepBlock text s.rest pair depth openedAt = some next ∧
      Follows text (s.stepNestedBlock pair depth line) next := by
  unfold State.stepNestedBlock
  rw [Cursor.stepBlock, if_neg (by rw [hnest]; decide)]
  by_cases hclose : Text.startsWith s.rest pair.stop = true
  · rw [if_pos hclose, if_pos hclose]
    have hbegins := Text.startsWith_iff.1 hclose
    cases depth with
    | zero => exact ⟨_, rfl, h.skip_token hbegins .code⟩
    | succ depth => exact ⟨_, rfl, h.skip_token hbegins (.block (hopened.append _))⟩
  rw [if_neg hclose, if_neg hclose]
  by_cases hopen : Text.startsWith s.rest pair.start = true
  · rw [if_pos hopen, if_pos hopen]
    exact ⟨_, rfl, h.skip_token (Text.startsWith_iff.1 hopen) (.block (hopened.append _))⟩
  rw [if_neg hopen, if_neg hopen]
  obtain ⟨d, rest, hd⟩ := List.exists_cons_of_ne_nil hrest
  have hbytes : s.rest.head?.elim 1 Char.utf8Size = Text.size [d] := by
    rw [hd, Text.size_cons, Text.size_nil]
    rfl
  rw [hbytes]
  refine ⟨_, rfl, h.skip_follows (show s.rest = [d] ++ rest from hd) ?_⟩
  rw [hmode, hcmode]
  exact .block (hopened.append _)

/-- **A step by offsets is never out of range**, and it goes along with the step over characters. -/
theorem Follows.step (sound : lexis.Sound) (h : Follows text s c) (known : s.mode.Known lexis)
    (hrest : s.rest ≠ []) :
    ∃ next, c.step lexis text = some next ∧ Follows text (s.step lexis) next := by
  have hmodes : s.mode.Follows s.read.reverse c.mode :=
    h.mode.resolve_right fun hend => hrest hend.1
  have htracks := h.toTracks
  rw [Cursor.step, State.step, htracks.from?, Option.bind_some]
  generalize hmode : s.mode = mode at hmodes known
  generalize hcmode : c.mode = cmode at hmodes
  cases hmodes with
  | code => exact htracks.stepCode hrest hmode hcmode
  | literal hopened => exact htracks.stepLiteral hrest hmode hcmode hopened
  | lineComment => exact htracks.stepLine hcmode
  | @block pair depth line openedAt hopened =>
    dsimp only
    split
    · next hnest => exact htracks.stepNestedBlock hrest hnest hmode hcmode hopened
    · next hnest =>
      exact htracks.stepFlatBlock (sound.stop_ne known) (by simpa using hnest) hmode hcmode hopened

/-! ## A whole run -/

/-- Every number of steps by offsets gives something, and goes along with the steps over
characters. -/
theorem Follows.run (sound : lexis.Sound) (h : Follows text s c) (known : s.mode.Known lexis)
    (steps : Nat) :
    ∃ last, c.run lexis text steps = some last ∧ Follows text (s.run lexis steps) last := by
  induction steps generalizing s c with
  | zero => exact ⟨c, rfl, h⟩
  | succ steps ih =>
    rw [Cursor.run, State.run]
    by_cases hrest : s.rest = []
    · rw [if_neg (by rw [h.toTracks.offset_lt_iff]; exact not_not_intro hrest),
        if_pos (List.isEmpty_iff.2 hrest)]
      exact ⟨c, rfl, h⟩
    · obtain ⟨next, hnext, hfollows⟩ := h.step sound known hrest
      rw [if_pos (h.toTracks.offset_lt_iff.2 hrest), if_neg (by rwa [List.isEmpty_iff]), hnext,
        Option.bind_some]
      exact ih hfollows (State.step_progress sound known hrest).known

/-- Both scans give the same in the end. -/
theorem Follows.finish (h : Follows text s c) : c.finish text = some (.ofState s) := by
  have htracks := h.toTracks
  have hofState : ∀ {last : Cursor} {t : State}, Tracks text t last →
      (⟨last.kept, last.advisories⟩ : Stripped) = ⟨t.kept.reverse, t.advisories.reverse⟩ := by
    intro last t ht
    rw [ht.kept, ht.advisories]
  rw [Cursor.finish, Stripped.ofState]
  rcases h.mode with hmodes | ⟨-, hmode, hcmode⟩
  swap
  · rw [hmode, hcmode]
    simp [Mode.leftOpen?, hofState htracks]
  generalize hmode : s.mode = mode at hmodes
  generalize hcmode : c.mode = cmode at hmodes
  cases hmodes with
  | code => simp [Mode.leftOpen?, hofState htracks]
  | lineComment => simp [Mode.leftOpen?, hofState htracks]
  | @literal quote raw line openedAt hopened =>
    obtain ⟨raised, hraised, ht⟩ := htracks.advise hopened (.unterminatedString quote.delimiter)
    simp [hraised, hofState ht, State.advise, Mode.leftOpen?]
  | @block pair depth line openedAt hopened =>
    obtain ⟨raised, hraised, ht⟩ := htracks.advise hopened (.unterminatedBlock pair.start)
    simp [hraised, hofState ht, State.advise, Mode.leftOpen?]

variable (text) in
/-- A scan reads its last character at some step, and from then on nothing is left. -/
theorem exists_last_step (sound : lexis.Sound) :
    ∃ steps ≤ 2 * text.length,
      ∀ k, ((State.start text).run lexis k).rest = [] ↔ steps ≤ k := by
  classical
  have hbudget : (State.start text).budget = 2 * text.length := rfl
  have hend : ((State.start text).run lexis (2 * text.length)).rest = [] :=
    State.rest_run_eq_nil sound trivial (Nat.le_of_eq hbudget)
  have hexists : ∃ k, ((State.start text).run lexis k).rest = [] := ⟨_, hend⟩
  refine ⟨Nat.find hexists, Nat.find_min' hexists hend, fun k => ⟨Nat.find_min' hexists, ?_⟩⟩
  intro hle
  -- once nothing is left, no step changes that
  induction k, hle using Nat.le_induction with
  | base => exact Nat.find_spec hexists
  | succ k _ ih =>
    rw [State.run_succ, if_pos (List.isEmpty_iff.2 ih)]
    exact ih

variable (lexis text) in
/-- A scan comes to its end: after some number of steps, at most two for each character, and not
before, nothing is left to read, and what it has then is what it gives. -/
def Ends : Prop :=
  ∃ steps ≤ 2 * text.length,
    (∀ k, ((State.start text).run lexis k).rest = [] ↔ steps ≤ k) ∧
      scan lexis text = .ofState ((State.start text).run lexis steps)

variable (text) in
theorem ends_of_sound (sound : lexis.Sound) : Ends lexis text := by
  obtain ⟨steps, hsteps, hlast⟩ := exists_last_step text sound
  refine ⟨steps, hsteps, hlast, scan_eq_of_reaches sound ?_ ((hlast steps).2 (Nat.le_refl _))⟩
  exact State.reaches_run lexis (.start text) steps

variable (lexis text) in
/-- A scan by offsets after `k` steps, if it takes `steps` of them to the end: it has come to an
offset where a character begins or the text ends, with as much read as the scan over characters has.
It is at the end of the text from its last step on, and not before. -/
structure Cursor.OnCourse (steps k : Nat) (c : Cursor) : Prop where
  run : Cursor.run lexis text k {} = some c
  le_size : c.offset ≤ Text.size text
  valid : (String.Pos.Raw.mk c.offset).IsValid (String.ofList text)
  read : c.offset = Text.size ((State.start text).run lexis k).read.reverse
  at_end : c.offset = Text.size text ↔ steps ≤ k

/-- **Every scan comes to its end, and nothing on the way is out of range.** This holds for sound
rules as they are given and with their lists ordered. A scan by offsets takes two steps for each
character at most; whatever number of them it is given, it gives something, so no slice was out of
range and no number fell below zero. What it gives in the end is what `scan` gives. -/
theorem scan_total (sound : lexis.Sound) (text : List Char) :
    ∀ rules ∈ [lexis, lexis.longestFirst], ∃ steps ≤ 2 * text.length,
      (∀ k, ∃ c : Cursor, c.OnCourse rules text steps k) ∧
      (Cursor.run rules text steps {}).bind (Cursor.finish text) = some (scan rules text) := by
  intro rules hrules
  have hsound : rules.Sound := by
    rcases List.mem_pair.1 hrules with rfl | rfl
    · exact sound
    · exact sound.longestFirst
  obtain ⟨steps, hsteps, hlast⟩ := exists_last_step text hsound
  refine ⟨steps, hsteps, fun k => ?_, ?_⟩
  · obtain ⟨c, hrun, hfollows⟩ := (follows_start text).run hsound trivial k
    have hle : c.offset ≤ Text.size text := by
      have hsize := congrArg Text.size hfollows.input
      rw [Text.size_append, ← hfollows.offset] at hsize
      omega
    have hend := hfollows.toTracks.offset_lt_iff
    refine ⟨c, hrun, hle, Text.isValid_of_from? hfollows.toTracks.from?, hfollows.offset, ?_⟩
    rw [← hlast, ← not_iff_not, ← ne_eq _ [], ← hend]
    omega
  · obtain ⟨c, hrun, hfollows⟩ := (follows_start text).run hsound trivial steps
    have hreaches := State.reaches_run rules (.start text) steps
    rw [hrun, Option.bind_some, hfollows.finish,
      scan_eq_of_reaches hsound hreaches ((hlast steps).2 (Nat.le_refl _))]

/-- A text where steps stand still: a literal closes at a line break, and a comment has nothing but
its marker. -/
theorem scan_total_standing_still :
    ∃ steps ≤ 2 * "é \"x\n--\r\n\x7b-".toList.length,
      (∀ k, ∃ c : Cursor,
        c.OnCourse Language.haskell.lexis.longestFirst "é \"x\n--\r\n\x7b-".toList steps k) ∧
      (Cursor.run Language.haskell.lexis.longestFirst "é \"x\n--\r\n\x7b-".toList steps {}).bind
          (Cursor.finish "é \"x\n--\r\n\x7b-".toList) =
        some (scan Language.haskell.lexis.longestFirst "é \"x\n--\r\n\x7b-".toList) :=
  scan_total (by decide) _ _ (List.mem_pair.2 (.inr rfl))

end

end Decomment.Scan
