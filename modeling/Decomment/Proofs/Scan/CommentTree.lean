import Decomment.Proofs.Scan.Simulation
import Decomment.Registry.Builtin

/-!
# Comments inside of comments

A comment that nests is a tree: its inside is a row of plain characters and of further comments
(`Inner`). A scan knows of the tree only the number of levels that are open. `Inner.levels` ties the
two together: over the inside of a comment, whatever stands in it, the number of open levels comes
back to what it was. So a scan that opens a comment drops all of it and nothing behind it, or, if
the text ends while some level is open, everything up to the end (`nested_comment_dropped`); and one
of the two is the case for every text (`Inner.exists_split`).
-/

namespace Decomment.Scan

open State

/-! ## Trees of comments -/

/-- The inside of a comment: plain characters and comments in a row. -/
inductive Inner
  | nil
  | plain (c : Char) (later : Inner)
  | comment (inner later : Inner)
deriving DecidableEq, Repr

section
variable (pair : BlockPair)

/-- The characters of the inside of a comment. -/
def Inner.chars : Inner → List Char
  | nil => []
  | plain c later => c :: later.chars
  | comment inner later =>
    pair.start.toList ++ (inner.chars ++ (pair.stop.toList ++ later.chars))

/-- Where a plain character stands, no marker begins when `tail` follows. -/
def Inner.Plain (tail : List Char) : Inner → Prop
  | nil => True
  | plain c later =>
    ¬ pair.start.toList <+: c :: (later.chars pair ++ tail) ∧
      ¬ pair.stop.toList <+: c :: (later.chars pair ++ tail) ∧ later.Plain tail
  | comment inner later =>
    inner.Plain (pair.stop.toList ++ (later.chars pair ++ tail)) ∧ later.Plain tail

/-- The characters of a comment with its markers. -/
def commentChars (inner : Inner) : List Char :=
  pair.start.toList ++ (inner.chars pair ++ pair.stop.toList)

/-- The characters of comments that are left open, one inside the other: each has its start marker
and what stands in it before the next one. -/
def openChars : List Inner → List Char
  | [] => []
  | inner :: deeper => pair.start.toList ++ (inner.chars pair ++ openChars deeper)

/-- Where a plain character of comments that are left open stands, no marker begins. -/
def OpenPlain : List Inner → Prop
  | [] => True
  | inner :: deeper => inner.Plain pair (openChars pair deeper) ∧ OpenPlain deeper

/-- The two markers of a pair cannot be taken for each other: none is empty, and none begins with
the other. -/
structure Apart : Prop where
  start_ne : pair.start ≠ ""
  stop_ne : pair.stop ≠ ""
  start_stop : ¬ pair.start.toList <+: pair.stop.toList
  stop_start : ¬ pair.stop.toList <+: pair.start.toList

end

section
variable {pair : BlockPair} {tail : List Char}

/-- Where the start marker stands, the closing marker does not. -/
theorem Apart.not_stop (h : Apart pair) (rest : List Char) :
    ¬ pair.stop.toList <+: pair.start.toList ++ rest := by
  intro hstop
  rcases List.prefix_or_prefix_of_prefix hstop (List.prefix_append _ rest) with hle | hle
  · exact h.stop_start hle
  · exact h.start_stop hle

/-! ## The number of open levels along a tree -/

/-- Two parts of a comment, one after the other. -/
theorem Levels.trans {depth between last : Nat} {body others : List Char}
    (h : Levels pair (others ++ tail) depth body between)
    (hothers : Levels pair tail between others last) :
    Levels pair tail depth (body ++ others) last := by
  induction h with
  | nil => exact hothers
  | close _ ih =>
    rw [List.append_assoc]
    exact .close (ih hothers)
  | nest hfirst _ ih =>
    rw [List.append_assoc]
    exact .nest (by simpa using hfirst) (ih hothers)
  | plain hstop hstart _ ih => exact .plain (by simpa using hstop) (by simpa using hstart) (ih hothers)

/-- Over the inside of a comment the number of open levels comes back to what it was. -/
theorem Inner.levels (hapart : Apart pair) {inner : Inner} (h : inner.Plain pair tail)
    (depth : Nat) : Levels pair tail depth (inner.chars pair) depth := by
  induction inner generalizing tail depth with
  | nil => exact .nil
  | plain c later ih => exact .plain h.2.1 h.1 (ih h.2.2 depth)
  | comment inner later ihInner ihLater =>
    have hinner : Levels pair (pair.stop.toList ++ later.chars pair ++ tail) (depth + 1)
        (inner.chars pair) (depth + 1) := ihInner (by simpa using h.1) (depth + 1)
    refine .nest ?_ (hinner.trans (.close (ihLater h.2 depth)))
    rw [List.append_assoc]
    exact hapart.not_stop _

/-- Each comment that is left open adds a level. -/
theorem OpenPlain.levels (hapart : Apart pair) {inner : Inner} {deeper : List Inner}
    (h : OpenPlain pair (inner :: deeper)) (depth : Nat) :
    Levels pair [] depth (inner.chars pair ++ openChars pair deeper) (depth + deeper.length) := by
  induction deeper generalizing inner depth with
  | nil =>
    rw [openChars, List.append_nil]
    exact Inner.levels hapart h.1 depth
  | cons next deeper ih =>
    have hinner : Levels pair (openChars pair (next :: deeper) ++ []) depth (inner.chars pair) depth :=
      Inner.levels hapart (by simpa using h.1) depth
    have hdepth : depth + (next :: deeper).length = depth + 1 + deeper.length := by
      rw [List.length_cons]
      omega
    rw [hdepth]
    refine hinner.trans (.nest ?_ (ih h.2 (depth + 1)))
    rw [List.append_assoc]
    exact hapart.not_stop _

/-! ## Every text is of one of the two kinds -/

variable (pair) in
/-- A text that follows a start marker begins with the inside of a comment and its closing marker. -/
def Closes (rest : List Char) : Prop :=
  ∃ (inner : Inner) (post : List Char),
    rest = inner.chars pair ++ (pair.stop.toList ++ post) ∧
      inner.Plain pair (pair.stop.toList ++ post)

variable (pair) in
/-- A text that follows a start marker ends while the comment, and maybe further ones in it, are
open. -/
def StaysOpen (rest : List Char) : Prop :=
  ∃ (inner : Inner) (deeper : List Inner),
    rest = inner.chars pair ++ openChars pair deeper ∧ OpenPlain pair (inner :: deeper)

/-- What follows a start marker closes the comment or leaves it open. -/
theorem Inner.exists_split (hstart : pair.start ≠ "") (hstop : pair.stop ≠ "") (rest : List Char) :
    Closes pair rest ∨ StaysOpen pair rest := by
  induction hlen : rest.length using Nat.strongRecOn generalizing rest with
  | ind n ih =>
  have hshorter : ∀ {token : String}, token ≠ "" → ∀ others : List Char,
      others.length < (token.toList ++ others).length := by
    intro token htoken others
    have := length_pos_of_ne htoken
    rw [List.length_append, String.length_toList]
    omega
  by_cases hclose : pair.stop.toList <+: rest
  · obtain ⟨post, rfl⟩ := hclose
    exact .inl ⟨.nil, post, rfl, trivial⟩
  by_cases hopen : pair.start.toList <+: rest
  · -- a further comment: if it closes, what follows it decides
    obtain ⟨others, rfl⟩ := hopen
    have hothers := hshorter hstart others
    rcases ih _ (hlen ▸ hothers) others rfl with
      ⟨inner, between, rfl, hinner⟩ | ⟨inner, deeper, rfl, hinner⟩
    · have hbetween := hshorter hstop between
      have hlt : between.length < n := by
        rw [List.length_append] at hothers
        omega
      rcases ih _ hlt between rfl with ⟨later, post, rfl, hlater⟩ | ⟨later, deeper, rfl, hlater⟩
      · exact .inl ⟨.comment inner later, post, by simp [chars], hinner, hlater⟩
      · exact .inr ⟨.comment inner later, deeper, by simp [chars], ⟨hinner, hlater.1⟩, hlater.2⟩
    · exact .inr ⟨.nil, inner :: deeper, rfl, trivial, hinner⟩
  cases rest with
  | nil => exact .inr ⟨.nil, [], rfl, trivial, trivial⟩
  | cons c others =>
    rcases ih others.length (by simp only [List.length_cons] at hlen; omega) others rfl with
      ⟨inner, post, rfl, hinner⟩ | ⟨inner, deeper, rfl, hinner⟩
    · exact .inl ⟨.plain c inner, post, rfl, hopen, hclose, hinner⟩
    · exact .inr ⟨.plain c inner, deeper, rfl, ⟨hopen, hclose, hinner.1⟩, hinner.2⟩

end

/-! ## Through a comment -/

section
variable {lexis : Lexis} {pair : BlockPair} {place : Place} {rest : List Char}
  {raised : List Advisory}

variable (raised) in
/-- A scan that opens a comment reads what follows up to any place of its inside. -/
theorem reaches_inComment (hapart : Apart pair) (hnest : pair.nestable = true)
    {body : List Char} {depth : Nat} (hlevels : Levels pair rest 0 body depth)
    (hopens : lexis.opening? (place.kept.foldl blankAfter true) place.before.reverse.head?
      (pair.start.toList ++ (body ++ rest)) = some (.block pair)) :
    Reaches lexis (atPlace .code place (pair.start.toList ++ (body ++ rest)) raised)
      (atPlace (.block pair depth (1 + Text.countBreaks place.before))
        ⟨place.before ++ pair.start.toList ++ body, place.kept⟩ rest raised) := by
  have hstep : Reaches lexis (atPlace .code place (pair.start.toList ++ (body ++ rest)) raised) _ :=
    .of_step (toList_append_ne_nil hapart.start_ne _) (step_block_of_opening? hopens)
  exact hstep.trans (hlevels.reaches hnest hapart.start_ne hapart.stop_ne)

variable (raised) in
/-- A scan is back in code right behind a comment that it opens, and has kept nothing of it. -/
theorem crosses_comment (hapart : Apart pair) (hnest : pair.nestable = true) {inner : Inner}
    (hplain : inner.Plain pair (pair.stop.toList ++ rest))
    (hopens : lexis.opening? (place.kept.foldl blankAfter true) place.before.reverse.head?
      (commentChars pair inner ++ rest) = some (.block pair)) :
    Crosses lexis (atPlace .code place (commentChars pair inner ++ rest) raised)
      (atPlace .code ⟨place.before ++ commentChars pair inner, place.kept ++ []⟩ rest raised)
      (commentChars pair inner) [] := by
  apply crosses_of_reaches
  have hsplit : commentChars pair inner ++ rest =
      pair.start.toList ++ (inner.chars pair ++ (pair.stop.toList ++ rest)) := by
    simp [commentChars]
  rw [hsplit] at hopens ⊢
  refine (reaches_inComment raised hapart hnest (Inner.levels hapart hplain 0) hopens).trans ?_
  refine .of_step (toList_append_ne_nil hapart.stop_ne _) ?_
  rw [step_closeLevel hnest]
  simp [commentChars]

variable (raised) in
/-- A scan that opens a comment which the text leaves open comes to the end of the text inside of
it, at the depth of the last one that is open. -/
theorem reaches_end_of_open (hapart : Apart pair) (hnest : pair.nestable = true) {inner : Inner}
    {deeper : List Inner} (hplain : OpenPlain pair (inner :: deeper))
    (hopens : lexis.opening? (place.kept.foldl blankAfter true) place.before.reverse.head?
      (openChars pair (inner :: deeper)) = some (.block pair)) :
    Reaches lexis (atPlace .code place (openChars pair (inner :: deeper)) raised)
      (atPlace (.block pair deeper.length (1 + Text.countBreaks place.before))
        ⟨place.before ++ openChars pair (inner :: deeper), place.kept⟩ [] raised) := by
  have hsplit : openChars pair (inner :: deeper) =
      pair.start.toList ++ (inner.chars pair ++ openChars pair deeper ++ []) := by
    simp [openChars]
  rw [hsplit] at hopens ⊢
  simpa using reaches_inComment raised hapart hnest (hplain.levels hapart 0) hopens

/-- **Comments that nest are dropped as a whole.** A scan in code that opens a comment is back in
code right behind its closing marker, has kept nothing of it and has raised nothing. If the text
ends while the comment is open, everything from its start marker on is dropped, and one advisory
names the line of that marker. One of the two is the case. -/
theorem nested_comment_dropped {text : List Char} {s : State}
    (hreach : Reaches lexis (.start text) s) (hmode : s.mode = .code)
    (hopens : lexis.opening? s.lineBlank s.read.head? s.rest = some (.block pair))
    (hnest : pair.nestable = true) (hapart : Apart pair) :
    (∀ inner post, s.rest = commentChars pair inner ++ post →
      inner.Plain pair (pair.stop.toList ++ post) →
        ∃ t, Crosses lexis s t (commentChars pair inner) [] ∧ t.rest = post) ∧
    (∀ levels, levels ≠ [] → s.rest = openChars pair levels → OpenPlain pair levels →
      ∃ t, Reaches lexis s t ∧ t.rest = [] ∧
        Stripped.ofState t = ⟨s.kept.reverse, s.advisories.reverse ++
          [.unterminatedBlock pair.start (1 + Text.countBreaks s.read.reverse)]⟩ ∧
        (lexis.Sound → scan lexis text = .ofState t)) ∧
    ((∃ inner post, s.rest = commentChars pair inner ++ post ∧
        inner.Plain pair (pair.stop.toList ++ post)) ∨
      ∃ levels, levels ≠ [] ∧ s.rest = openChars pair levels ∧ OpenPlain pair levels) := by
  have hbegins : pair.start.toList <+: s.rest := token_prefix_of_opening? hopens
  obtain ⟨mode, place, rest, raised, rfl⟩ := atSomePlace_of_reaches hreach
  obtain rfl : mode = .code := hmode
  refine ⟨?_, ?_, ?_⟩
  · intro inner post hrest hplain
    obtain rfl : rest = commentChars pair inner ++ post := hrest
    exact ⟨_, crosses_comment raised hapart hnest hplain hopens, rfl⟩
  · intro levels hne hrest hplain
    obtain ⟨inner, deeper, rfl⟩ := List.exists_cons_of_ne_nil hne
    obtain rfl : rest = openChars pair (inner :: deeper) := hrest
    have hend := reaches_end_of_open raised hapart hnest hplain hopens
    refine ⟨_, hend, rfl, ?_, fun sound => scan_eq_of_reaches sound (hreach.trans hend) rfl⟩
    simp [Stripped.ofState, Mode.leftOpen?, atPlace]
  · obtain ⟨others, hothers⟩ := hbegins
    rw [← hothers]
    rcases Inner.exists_split hapart.start_ne hapart.stop_ne others with
      ⟨inner, post, rfl, hinner⟩ | ⟨inner, deeper, rfl, hinner⟩
    · exact .inl ⟨inner, post, by simp [commentChars], hinner⟩
    · exact .inr ⟨inner :: deeper, List.cons_ne_nil _ _, rfl, hinner⟩

/-- A comment with another one in it, and two levels that are left open behind a comment that is
closed. -/
theorem nested_comment_dropped_haskell :
    let lexis := Language.haskell.lexis
    let pair : BlockPair := { start := "\x7b-", stop := "-\x7d", nestable := true }
    let inner : Inner := .comment (.plain 'b' .nil) (.plain '-' .nil)
    let levels : List Inner := [.comment (.plain 'b' .nil) .nil, .plain '-' .nil]
    let closed := (start ('a' :: (commentChars pair inner ++ ['-']))).run lexis 1
    let text := 'a' :: '\n' :: openChars pair levels
    let opened := (start text).run lexis 2
    Apart pair ∧ inner.Plain pair (pair.stop.toList ++ ['-']) ∧
      (∃ t, Crosses lexis closed t (commentChars pair inner) [] ∧ t.rest = ['-']) ∧
      OpenPlain pair levels ∧
      ∃ t, Reaches lexis opened t ∧ t.rest = [] ∧
        Stripped.ofState t = ⟨['a', '\n'], [.unterminatedBlock "\x7b-" 2]⟩ ∧
        (lexis.Sound → scan lexis text = .ofState t) := by
  intro lexis pair inner levels closed text opened
  have hapart : Apart pair := ⟨by decide, by decide, by decide, by decide⟩
  have hinner : inner.Plain pair (pair.stop.toList ++ ['-']) :=
    ⟨⟨by decide, by decide, trivial⟩, by decide, by decide, trivial⟩
  have hlevels : OpenPlain pair levels :=
    ⟨⟨⟨by decide, by decide, trivial⟩, trivial⟩, ⟨by decide, by decide, trivial⟩, trivial⟩
  have hfirst : closed.mode = .code ∧
      lexis.opening? closed.lineBlank closed.read.head? closed.rest = some (.block pair) := by
    decide
  have hsecond : opened.mode = .code ∧
      lexis.opening? opened.lineBlank opened.read.head? opened.rest = some (.block pair) := by
    decide
  have hclosed := nested_comment_dropped (reaches_run lexis _ 1) hfirst.1 hfirst.2 rfl hapart
  have hopened := nested_comment_dropped (reaches_run lexis _ 2) hsecond.1 hsecond.2 rfl hapart
  exact ⟨hapart, hinner, hclosed.1 inner ['-'] (by decide) hinner, hlevels,
    hopened.2.1 levels (by decide) (by decide) hlevels⟩

end

end Decomment.Scan
