import Decomment.Proofs.Text.Search
import Decomment.Text.Split
import Mathlib.Data.List.DropRight
import Mathlib.Data.List.Basic

/-!
# Lines taken apart and put together

A text is a row of closed lines with a last one behind them, and `splitLines` takes one closed line
after the other off its front (`splitLines_append`); facts about texts follow line by line
(`lineInduction`). Lines that are put together are read back as they were, except that a carriage
return at the end of a body goes to the line feed behind it (`Line.reread`), and that an empty line
without an ending leaves nothing to read (`map_reread_eq`).

`rows` counts the lines of a text in another way: there is always a last one, empty or not, behind
the last line feed.
-/

namespace Decomment.Text

/-! ## Closed lines -/

/-- A line as it is read from a text: its body holds no line feed, and a carriage return before the
line feed belongs to the ending. -/
structure Line.Proper (line : Line) : Prop where
  feedless : '\n' ∉ line.body
  returns : line.ending = .lf → line.body.getLast? ≠ some '\r'

/-- What stands before the line feed of a closed line tells the line. -/
theorem Line.Proper.exists_closed {line : Line} (h : line.Proper) (hend : line.ending ≠ .none) :
    ∃ upToBreak, '\n' ∉ upToBreak ∧ line.chars = upToBreak ++ ['\n'] ∧
      Line.closed upToBreak = line := by
  obtain ⟨body, ending⟩ := line
  cases ending with
  | none => exact absurd rfl hend
  | lf => exact ⟨body, h.feedless, rfl, if_neg (h.returns rfl)⟩
  | crlf =>
    refine ⟨body ++ ['\r'], ?_, by simp [Line.chars, Ending.chars], by simp [Line.closed]⟩
    simpa using h.feedless

theorem linesFrom_append {line : List Char} (h : '\n' ∉ line) (read rest : List Char) :
    linesFrom read (line ++ rest) = linesFrom (line.reverse ++ read) rest := by
  induction line generalizing read with
  | nil => rfl
  | cons c line ih =>
    simp only [List.mem_cons, not_or] at h
    rw [List.cons_append, linesFrom, if_neg (Ne.symm h.1), ih h.2]
    simp

/-- **The first line of a text is read, and then the others.** -/
theorem splitLines_append {line : Line} (h : line.Proper) (hend : line.ending ≠ .none)
    (rest : List Char) : splitLines (line.chars ++ rest) = line :: splitLines rest := by
  obtain ⟨upToBreak, hfeed, hchars, hclosed⟩ := h.exists_closed hend
  rw [hchars, List.append_assoc, splitLines, linesFrom_append hfeed, List.singleton_append,
    linesFrom, if_pos rfl, List.append_nil, List.reverse_reverse, hclosed, splitLines]

/-- A text without a line feed is one line, unless it is empty. -/
theorem splitLines_of_notMem {text : List Char} (h : '\n' ∉ text) (hne : text ≠ []) :
    splitLines text = [⟨text, .none⟩] := by
  have hlines := linesFrom_append h [] []
  rw [List.append_nil, List.append_nil] at hlines
  rw [splitLines, hlines, linesFrom, if_neg (by simpa using hne), List.reverse_reverse]

/-- What runs to a line break is the body of a line, and the break its ending. -/
theorem EndsLine.exists_ending {body after : List Char} (h : EndsLine body after) :
    after = [] ∨ ∃ ending rest, after = Ending.chars ending ++ rest ∧ ending ≠ .none ∧
      Line.Proper ⟨body, ending⟩ := by
  obtain ⟨hfeed, rfl | ⟨rest, rfl, hreturn⟩ | ⟨rest, rfl⟩⟩ := h
  · exact .inl rfl
  · exact .inr ⟨.lf, rest, rfl, by simp, hfeed, fun _ => hreturn⟩
  · exact .inr ⟨.crlf, rest, rfl, by simp, hfeed, fun hlf => by cases hlf⟩

/-- A text is a last line without a line feed, or a closed line and a text behind it. -/
@[elab_as_elim]
theorem lineInduction {motive : List Char → Prop} (last : ∀ text, '\n' ∉ text → motive text)
    (line : ∀ (line : Line) (rest : List Char), line.Proper → line.ending ≠ .none →
      motive rest → motive (line.chars ++ rest))
    (text : List Char) : motive text := by
  induction hlen : text.length using Nat.strongRecOn generalizing text with
  | ind n ih =>
  obtain ⟨body, after, rfl, hends⟩ := exists_endsLine text
  rcases hends.exists_ending with rfl | ⟨ending, rest, rfl, hending, hproper⟩
  · rw [List.append_nil]
    exact last body hends.1
  · have hpos : 0 < ending.chars.length := by
      cases ending with
      | none => exact absurd rfl hending
      | lf => exact Nat.one_pos
      | crlf => exact Nat.two_pos
    rw [List.length_append, List.length_append] at hlen
    have hrest := ih rest.length (by omega) rest rfl
    rw [← List.append_assoc]
    exact line ⟨body, ending⟩ rest hproper hending hrest

/-! ## The lines of a text -/

/-- Lines that can follow each other in a text: no body holds a line feed, and a line that another
one follows has an ending. -/
structure Joinable (lines : List Line) : Prop where
  feedless : ∀ line ∈ lines, '\n' ∉ line.body
  closed : lines.Pairwise fun line _ => line.ending ≠ .none

/-- The lines of a text can follow each other, and each is as it was read. -/
theorem splitLines_proper (text : List Char) :
    (∀ line ∈ splitLines text, line.Proper) ∧
      (splitLines text).Pairwise fun line _ => line.ending ≠ .none := by
  induction text using lineInduction with
  | last text h =>
    by_cases hne : text = []
    · subst hne
      exact ⟨by simp [splitLines, linesFrom], .nil⟩
    · rw [splitLines_of_notMem h hne]
      exact ⟨by simpa using ⟨h, fun hlf => by cases hlf⟩, List.pairwise_singleton _ _⟩
  | line line rest hproper hend ih =>
    rw [splitLines_append hproper hend]
    exact ⟨List.forall_mem_cons.2 ⟨hproper, ih.1⟩, .cons (fun _ _ => hend) ih.2⟩

theorem joinable_splitLines (text : List Char) : Joinable (splitLines text) :=
  ⟨fun line hline => ((splitLines_proper text).1 line hline).feedless, (splitLines_proper text).2⟩

/-- The characters of a line are those of the text. -/
theorem mem_of_mem_splitLines {text : List Char} {line : Line} (h : line ∈ splitLines text)
    {c : Char} (hc : c ∈ line.body) : c ∈ text := by
  rw [← joinLines_splitLines text, joinLines, List.mem_flatMap]
  exact ⟨line, h, List.mem_append_left _ hc⟩

/-- A carriage return in the body of a line does not stand directly before a line feed: there it
would belong to the ending. -/
theorem exists_return_of_mem_splitLines {text : List Char} {line : Line}
    (hline : line ∈ splitLines text) {before after : List Char}
    (hbody : line.body = before ++ '\r' :: after) :
    ∃ earlier rest, text = earlier ++ (before ++ '\r' :: rest) ∧ rest.head? ≠ some '\n' := by
  induction text using lineInduction with
  | last text hfeed =>
    by_cases hne : text = []
    · subst hne
      cases hline
    rw [splitLines_of_notMem hfeed hne, List.mem_singleton] at hline
    subst hline
    obtain rfl : text = before ++ '\r' :: after := hbody
    exact ⟨[], after, rfl, fun hhead => hfeed (by simp [List.mem_of_mem_head? hhead])⟩
  | line first rest hproper hend ih =>
    rw [splitLines_append hproper hend] at hline
    rcases List.mem_cons.1 hline with rfl | hline
    · refine ⟨[], after ++ (line.ending.chars ++ rest), by simp [Line.chars, hbody], fun hhead => ?_⟩
      cases after with
      | cons c after =>
        obtain rfl : c = '\n' := by simpa using hhead
        exact hproper.feedless (by simp [hbody])
      | nil =>
        cases hending : line.ending with
        | none => exact hend hending
        | lf => exact hproper.returns hending (by simp [hbody])
        | crlf => simp [hending, Ending.chars] at hhead
    · obtain ⟨earlier, later, rfl, hhead⟩ := ih hline
      exact ⟨first.chars ++ earlier, later, by simp, hhead⟩

/-! ## Reading back what was put together -/

/-- A line as it is read back from a text that it is put into. -/
def Line.reread (line : Line) : Line :=
  if line.ending = .lf then .closed line.body else line

@[simp] theorem Line.chars_reread (line : Line) : line.reread.chars = line.chars := by
  obtain ⟨body, ending⟩ := line
  cases ending with
  | lf => rw [reread, if_pos rfl, chars_closed]; rfl
  | none => rfl
  | crlf => rfl

theorem Line.reread_of_proper {line : Line} (h : line.Proper) : line.reread = line := by
  obtain ⟨body, ending⟩ := line
  cases ending with
  | lf => exact if_neg (h.returns rfl)
  | none => rfl
  | crlf => rfl

/-- Reading back moves a carriage return at most. -/
theorem Line.reread_cases (line : Line) :
    line.reread = line ∨ line.body = line.reread.body ++ ['\r'] ∧ line.reread.ending = .crlf := by
  obtain ⟨body, ending⟩ := line
  cases ending with
  | lf =>
    by_cases h : body.getLast? = some '\r'
    · obtain ⟨front, rfl⟩ := List.getLast?_eq_some_iff.1 h
      exact .inr (by simp [reread, closed])
    · exact .inl (if_neg h)
  | none => exact .inl rfl
  | crlf => exact .inl rfl

theorem Line.proper_reread {line : Line} (h : '\n' ∉ line.body) : line.reread.Proper := by
  obtain ⟨body, ending⟩ := line
  cases ending with
  | lf =>
    rw [reread, if_pos rfl, closed]
    split
    · exact ⟨fun hmem => h (List.dropLast_subset _ hmem), fun hlf => by cases hlf⟩
    · next hreturn => exact ⟨h, fun _ => hreturn⟩
  | none => exact ⟨h, fun hlf => by cases hlf⟩
  | crlf => exact ⟨h, fun hlf => by cases hlf⟩

theorem Line.ending_reread {line : Line} (h : line.ending ≠ .none) :
    line.reread.ending ≠ .none := by
  rcases line.reread_cases with heq | ⟨-, heq⟩
  · rwa [heq]
  · rw [heq]
    exact Ending.noConfusion

/-- A closed line that is put before a text is read back before its lines. -/
theorem splitLines_append_reread {line : Line} (h : '\n' ∉ line.body) (hend : line.ending ≠ .none)
    (rest : List Char) : splitLines (line.chars ++ rest) = line.reread :: splitLines rest := by
  rw [← Line.chars_reread, splitLines_append (Line.proper_reread h) (Line.ending_reread hend)]

/-- **Lines that are put together are read back**, but for empty ones without an ending at the
end. -/
theorem map_reread_eq {lines : List Line} (h : Joinable lines) :
    ∃ unread, lines.map Line.reread = splitLines (joinLines lines) ++ unread ∧
      ∀ line ∈ unread, line.body = [] := by
  induction lines with
  | nil => exact ⟨[], rfl, by simp⟩
  | cons line lines ih =>
    obtain ⟨hfeed, hfeeds⟩ := List.forall_mem_cons.1 h.feedless
    obtain ⟨hend, hends⟩ := List.pairwise_cons.1 h.closed
    have hjoin : joinLines (line :: lines) = line.chars ++ joinLines lines := rfl
    rw [List.map_cons, hjoin]
    by_cases hclosed : line.ending = .none
    · -- nothing follows a line without an ending
      obtain rfl : lines = [] := List.eq_nil_iff_forall_not_mem.2 fun next hnext =>
        hend next hnext hclosed
      obtain ⟨body, ending⟩ := line
      subst hclosed
      by_cases hbody : body = []
      · subst hbody
        exact ⟨[⟨[], .none⟩], rfl, by simp⟩
      · refine ⟨[], ?_, by simp⟩
        simp [joinLines, Line.chars, Ending.chars, splitLines_of_notMem hfeed hbody, Line.reread]
    · obtain ⟨unread, heq, hunread⟩ := ih ⟨hfeeds, hends⟩
      refine ⟨unread, ?_, hunread⟩
      rw [splitLines_append_reread hfeed hclosed, heq, List.cons_append]

/-! ## Lines with one behind the last line feed -/

/-- The lines of a text, with an empty one behind a line feed at its end and in the empty text. -/
def rows (text : List Char) : List Line :=
  splitLines text ++ if text.getLast?.all (· == '\n') then [⟨[], .none⟩] else []

theorem rows_append {line : Line} (h : '\n' ∉ line.body) (hend : line.ending ≠ .none)
    (rest : List Char) : rows (line.chars ++ rest) = line.reread :: rows rest := by
  have hlast : line.chars.getLast? = some '\n' := by
    obtain ⟨body, ending⟩ := line
    cases ending with
    | none => exact absurd rfl hend
    | lf => simp [Line.chars, Ending.chars]
    | crlf => simp [Line.chars, Ending.chars]
  have hall : (line.chars ++ rest).getLast?.all (· == '\n') = rest.getLast?.all (· == '\n') := by
    rw [List.getLast?_append, hlast]
    cases rest.getLast? with
    | none => rfl
    | some c => rfl
  rw [rows, splitLines_append_reread h hend, hall, List.cons_append, ← rows]

theorem rows_of_notMem {text : List Char} (h : '\n' ∉ text) : rows text = [⟨text, .none⟩] := by
  by_cases hne : text = []
  · subst hne
    rfl
  · have hlast : text.getLast?.all (· == '\n') = false := by
      rw [List.getLast?_eq_getLast_of_ne_nil hne, Option.all_some, beq_eq_false_iff_ne]
      exact fun heq => h (heq ▸ List.getLast_mem hne)
    rw [rows, splitLines_of_notMem h hne, hlast]
    rfl

theorem joinLines_rows (text : List Char) : joinLines (rows text) = text := by
  rw [rows, joinLines, List.flatMap_append, ← joinLines, joinLines_splitLines]
  split <;> simp [Line.chars, Ending.chars]

/-- A text has a line more than line feeds. -/
theorem length_rows (text : List Char) : (rows text).length = countBreaks text + 1 := by
  induction text using lineInduction with
  | last text h => rw [rows_of_notMem h, countBreaks, List.count_eq_zero_of_not_mem h]; rfl
  | line line rest hproper hend ih =>
    obtain ⟨upToBreak, hfeed, hchars, -⟩ := hproper.exists_closed hend
    rw [rows_append hproper.feedless hend, List.length_cons, ih, countBreaks, countBreaks, hchars]
    simp [List.count_eq_zero_of_not_mem hfeed, Nat.add_comm]

/-! ## The end of a text -/

theorem trimEnd_eq_rdropWhile (p : Char → Bool) (text : List Char) :
    trimEnd p text = text.rdropWhile p := rfl

/-- What passes the test at the end of a text goes. -/
theorem trimEnd_append {p : Char → Bool} (text : List Char) {tail : List Char}
    (h : ∀ c ∈ tail, p c = true) : trimEnd p (text ++ tail) = trimEnd p text := by
  rw [trimEnd, List.reverse_append, List.dropWhile_append_of_pos, ← trimEnd]
  exact fun c hc => h c (List.mem_reverse.1 hc)

/-- A text is what trimming leaves and what it takes off. -/
theorem exists_eq_trimEnd_append (p : Char → Bool) (text : List Char) :
    ∃ tail, text = trimEnd p text ++ tail ∧ ∀ c ∈ tail, p c = true := by
  refine ⟨text.rtakeWhile p, List.rdropWhile_append_rtakeWhile.symm, fun c hc => ?_⟩
  exact List.mem_rtakeWhile_imp hc

end Decomment.Text
