import Decomment.Proofs.Scan.Run
import Decomment.Proofs.Text.Bytes
import Decomment.Registry.Builtin

/-!
# What a scan leaves as it is

A step of a scan keeps what it reads, opens a comment, or drops what it reads inside of one
(`State.Moves`). So what was kept is what was read as long as no comment was opened
(`State.Reaches.kept_eq_read`), and misses something ever after (`State.Reaches.missing`). A scan
leaves a text as it is exactly if it opens no comment in it, and it opens none where no block start
stands and no line marker opens (`CommentFree`), whatever literals the text holds:
`scan_untouched`.
-/

namespace Decomment

/-- Whether what begins is a comment. -/
def Opening.isComment : Opening → Bool
  | .block _ | .line _ => true
  | .literal .. => false

namespace Scan

/-- Whether the next character belongs to a comment. -/
def Mode.inComment : Mode → Bool
  | .lineComment | .block .. => true
  | .code | .literal .. => false

/-- No comment can begin at any offset of a text: no block start stands there, and no line marker
opens after the character before it. -/
def CommentFree (lexis : Lexis) (text : List Char) : Prop :=
  ∀ n < text.length,
    (∀ pair ∈ lexis.blocks, ¬ pair.start.toList <+: text.drop n) ∧
      ∀ m ∈ lexis.lineMarkers, m.opensAt (text.drop n) (text.take n).getLast? = false

instance (lexis : Lexis) (text : List Char) : Decidable (CommentFree lexis text) :=
  inferInstanceAs (Decidable (∀ n < text.length, _ ∧ _))

/-- A scan of the text comes to a place inside of a comment. -/
def OpensComment (lexis : Lexis) (text : List Char) : Prop :=
  ∃ s, State.Reaches lexis (.start text) s ∧ s.mode.inComment = true

variable {lexis : Lexis}

/-- Where no comment can begin, none is found. -/
theorem CommentFree.not_isComment (sound : lexis.Sound) {before rest : List Char}
    (free : CommentFree lexis (before ++ rest)) {blank : Bool} {o : Opening}
    (h : lexis.opening? blank before.getLast? rest = some o) : o.isComment = false := by
  have htoken := token_prefix_of_opening? h
  have hlisted := listed_of_opening? h
  have hrest : rest ≠ [] := by
    rintro rfl
    exact hlisted.token_ne_nil sound (List.prefix_nil.1 htoken)
  obtain ⟨hblocks, hmarkers⟩ := free before.length (by simpa using List.length_pos_iff.2 hrest)
  rw [List.drop_left] at hblocks hmarkers
  rw [List.take_left] at hmarkers
  cases o with
  | block pair => exact absurd htoken (hblocks pair hlisted)
  | literal quote raw => rfl
  | line marker =>
    have hopens := opensAt_of_opening? h
    rw [hmarkers marker hlisted] at hopens
    cases hopens

namespace State

variable {s t u : State}

/-! ## One step -/

theorem read_skip_eq (s : State) (n : Nat) :
    (s.skip n).read = (s.rest.take n).reverse ++ s.read :=
  List.reverseAux_eq

theorem read_keep_eq (s : State) (n : Nat) :
    (s.keep n).read = (s.rest.take n).reverse ++ s.read :=
  List.reverseAux_eq

theorem kept_keep_eq (s : State) (n : Nat) :
    (s.keep n).kept = (s.rest.take n).reverse ++ s.kept :=
  List.reverseAux_eq

variable (lexis s t) in
/-- What a step does with the characters that it reads, last one first. -/
inductive Moves : Prop
  /-- Code and literals are kept. -/
  | keeps (taken : List Char) : s.mode.inComment = false → t.mode.inComment = false →
      t.read = taken ++ s.read → t.kept = taken ++ s.kept → Moves
  /-- The token of a comment that is found here is dropped. -/
  | opens (o : Opening) (taken : List Char) :
      lexis.opening? s.lineBlank s.read.head? s.rest = some o → o.isComment = true →
      t.mode.inComment = true → taken ≠ [] → t.read = taken ++ s.read → t.kept = s.kept → Moves
  /-- The inside of a comment is dropped. -/
  | drops (taken : List Char) : s.mode.inComment = true →
      t.read = taken ++ s.read → t.kept = s.kept → Moves

/-- The token of what is found has something to read. -/
theorem take_token_ne_nil (sound : lexis.Sound) {blank : Bool} {before : Option Char} {o : Opening}
    {rest : List Char} (h : lexis.opening? blank before rest = some o) :
    (rest.take o.token.length).reverse ≠ [] := by
  obtain ⟨tail, rfl⟩ := token_prefix_of_opening? h
  rw [ne_eq, List.reverse_eq_nil_iff, ← String.length_toList, List.take_left]
  exact (listed_of_opening? h).token_ne_nil sound

theorem stepCode_moves (sound : lexis.Sound) (hmode : s.mode = .code) :
    Moves lexis s (s.stepCode lexis) := by
  have hs : s.mode.inComment = false := by rw [hmode]; rfl
  rw [stepCode]
  split
  · next ho => exact .opens _ _ ho rfl rfl (take_token_ne_nil sound ho) (read_skip_eq s _) rfl
  · exact .keeps _ hs rfl (read_keep_eq s _) (kept_keep_eq s _)
  · next ho => exact .opens _ _ ho rfl rfl (take_token_ne_nil sound ho) (read_skip_eq s _) rfl
  · exact .keeps _ hs hs (read_keep_eq s _) (kept_keep_eq s _)

theorem stepLiteral_moves {quote : Quote} {raw : Bool} {line : Nat}
    (hmode : s.mode = .literal quote raw line) :
    Moves lexis s (s.stepLiteral lexis quote raw line) := by
  have hs : s.mode.inComment = false := by rw [hmode]; rfl
  rw [stepLiteral]
  split
  · exact .keeps _ hs hs (read_keep_eq s _) (kept_keep_eq s _)
  split
  · exact .keeps _ hs rfl (read_keep_eq s _) (kept_keep_eq s _)
  split
  · exact .keeps [] hs rfl rfl rfl
  · exact .keeps _ hs hs (read_keep_eq s _) (kept_keep_eq s _)

/-- **A step does one of three things.** -/
theorem step_moves (sound : lexis.Sound) (s : State) : Moves lexis s (s.step lexis) := by
  rw [step]
  split
  · next hmode => exact stepCode_moves sound hmode
  · next hmode => exact stepLiteral_moves hmode
  · next hmode => exact .drops _ (by rw [hmode]; rfl) (read_skip_eq s _) rfl
  next pair depth line hmode =>
  have hs : s.mode.inComment = true := by rw [hmode]; rfl
  split
  · unfold stepNestedBlock
    split
    · exact .drops _ hs (read_skip_eq s _) rfl
    split
    · exact .drops _ hs (read_skip_eq s _) rfl
    · exact .drops _ hs (read_skip_eq s _) rfl
  · rw [stepFlatBlock]
    split
    · exact .drops _ hs (read_skip_eq s _) rfl
    · exact .drops _ hs (read_skip_eq s _) rfl

/-! ## A whole run -/

/-- What was kept is part of what was read, in its order, and not all of it inside of a comment. -/
structure Accounts (s : State) : Prop where
  sublist : s.kept.Sublist s.read
  missing : s.mode.inComment = true → s.kept.length < s.read.length

/-- What is missing once stays missing. -/
theorem Moves.missing (h : Moves lexis s t) (hs : s.kept.length < s.read.length) :
    t.kept.length < t.read.length := by
  cases h with
  | keeps taken _ _ hread hkept | opens _ taken _ _ _ _ hread hkept | drops taken _ hread hkept =>
    rw [hread, hkept]
    simp only [List.length_append]
    omega

theorem Moves.sublist (h : Moves lexis s t) (hs : s.kept.Sublist s.read) :
    t.kept.Sublist t.read := by
  cases h with
  | keeps taken _ _ hread hkept =>
    rw [hread, hkept]
    exact hs.append_left taken
  | opens _ taken _ _ _ _ hread hkept | drops taken _ hread hkept =>
    rw [hread, hkept]
    exact hs.trans (List.sublist_append_right taken s.read)

theorem Moves.accounts (h : Moves lexis s t) (hs : s.Accounts) : t.Accounts := by
  refine ⟨h.sublist hs.sublist, fun hcomment => ?_⟩
  have hmissing := h.missing
  cases h with
  | keeps _ _ hcode =>
    rw [hcode] at hcomment
    cases hcomment
  | opens _ taken _ _ _ hne hread hkept =>
    have hle := hs.sublist.length_le
    have hpos := List.length_pos_iff.2 hne
    rw [hread, hkept, List.length_append]
    omega
  | drops _ hinside => exact hmissing (hs.missing hinside)

theorem accounts_start (text : List Char) : (start text).Accounts :=
  ⟨.slnil, fun h => by cases h⟩

theorem Reaches.accounts (sound : lexis.Sound) {text : List Char}
    (h : Reaches lexis (.start text) s) : s.Accounts :=
  h.preserves (fun u => (step_moves sound u).accounts) (accounts_start text)

theorem Reaches.missing (sound : lexis.Sound) (h : Reaches lexis s t)
    (hs : s.kept.length < s.read.length) : t.kept.length < t.read.length :=
  h.preserves (fun u => (step_moves sound u).missing) hs

/-- As long as no comment is opened, everything is kept. -/
theorem Reaches.kept_eq_read (sound : lexis.Sound) (h : Reaches lexis s t) (hs : s.kept = s.read)
    (hcode : ∀ u, Reaches lexis s u → u.mode.inComment = false) : t.kept = t.read := by
  induction h with
  | refl => exact hs
  | @step s t hrest _ ih =>
    refine ih ?_ fun u hu => hcode u (.step hrest hu)
    have hnext := hcode _ (.of_step hrest rfl)
    cases step_moves sound s with
    | keeps taken _ _ hread hkept => rw [hread, hkept, hs]
    | opens _ _ _ _ hcomment =>
      rw [hnext] at hcomment
      cases hcomment
    | drops _ hcomment =>
      rw [hcode s (.refl s)] at hcomment
      cases hcomment

/-- Where no comment can begin, a scan never comes to a place inside of one. -/
theorem Reaches.not_inComment (sound : lexis.Sound) {text : List Char}
    (free : CommentFree lexis text) (h : Reaches lexis (.start text) s) :
    s.mode.inComment = false := by
  have hinvariant : s.input = text ∧ s.mode.inComment = false := by
    refine h.preserves (P := fun u => u.input = text ∧ u.mode.inComment = false) ?_ ⟨rfl, rfl⟩
    rintro u ⟨rfl, hmode⟩
    refine ⟨input_step lexis u, ?_⟩
    cases step_moves sound u with
    | keeps _ _ hnext => exact hnext
    | opens o _ ho hcomment =>
      rw [← List.getLast?_reverse] at ho
      rw [free.not_isComment sound ho] at hcomment
      cases hcomment
    | drops _ hcomment =>
      rw [hmode] at hcomment
      cases hcomment
  exact hinvariant.2

end State

open State

/-- A part of a text misses at least a byte for every character that it misses. -/
theorem size_add_length_le {part text : List Char} (h : part.Sublist text) :
    Text.size part + text.length ≤ Text.size text + part.length := by
  induction h with
  | slnil => exact Nat.le_refl _
  | cons c _ ih =>
    have hpos := c.utf8Size_pos
    rw [Text.size_cons, List.length_cons]
    omega
  | cons_cons c _ ih =>
    rw [Text.size_cons, Text.size_cons, List.length_cons, List.length_cons]
    omega

/-- What a scan gives for a text in which it opens a comment is shorter, in characters and in
bytes. -/
theorem OpensComment.shorter (sound : lexis.Sound) {text : List Char}
    (h : OpensComment lexis text) :
    (scan lexis text).text.length < text.length ∧
      Text.size (scan lexis text).text < Text.size text := by
  obtain ⟨s, hs, hcomment⟩ := h
  obtain ⟨t, ht, hend, hread, hscan⟩ := exists_reaches_end sound text
  have hkept : (scan lexis text).text = t.kept.reverse := by rw [hscan]; rfl
  have hlt : t.kept.length < t.read.length :=
    (hs.to_end ht hend).missing sound ((hs.accounts sound).missing hcomment)
  have hlength : (scan lexis text).text.length < text.length := by
    rw [hkept, ← hread, List.length_reverse, List.length_reverse]
    exact hlt
  have hsublist : (scan lexis text).text.Sublist text := by
    rw [hkept, ← hread]
    exact (ht.accounts sound).sublist.reverse
  have hsize := size_add_length_le hsublist
  exact ⟨hlength, by omega⟩

/-- A text in which a scan opens no comment stays as it is. -/
theorem scan_text_of_not_opensComment (sound : lexis.Sound) {text : List Char}
    (h : ¬ OpensComment lexis text) : (scan lexis text).text = text := by
  obtain ⟨t, ht, -, hread, hscan⟩ := exists_reaches_end sound text
  have hcode : ∀ u, Reaches lexis (.start text) u → u.mode.inComment = false := by
    intro u hu
    rw [← Bool.not_eq_true]
    exact fun hcomment => h ⟨u, hu, hcomment⟩
  have hkept := ht.kept_eq_read sound rfl hcode
  rw [hscan, ← hread, ← hkept]
  rfl

/-- **A scan leaves a text as it is exactly if it opens no comment in it.** Where no comment can
begin it opens none, and where it opens one the text gets shorter. -/
theorem scan_untouched (sound : lexis.Sound) (text : List Char) :
    (CommentFree lexis text → (scan lexis text).text = text) ∧
      (OpensComment lexis text →
        (scan lexis text).text.length < text.length ∧
          Text.size (scan lexis text).text < Text.size text) ∧
      ((scan lexis text).text = text ↔ ¬ OpensComment lexis text) := by
  refine ⟨fun free => ?_, fun h => h.shorter sound, fun hsame h => ?_,
    scan_text_of_not_opensComment sound⟩
  · refine scan_text_of_not_opensComment sound ?_
    rintro ⟨s, hs, hcomment⟩
    rw [hs.not_inComment sound free] at hcomment
    cases hcomment
  · have hlt := (h.shorter sound).1
    rw [hsame] at hlt
    exact Nat.lt_irrefl _ hlt

/-- An address, an escaped delimiter and a literal that is left open; and a comment behind one. -/
theorem scan_untouched_cStyle :
    let lexis := Language.cStyle.lexis
    let plain := "a://b 'c\\' \"\n".toList
    let commented := "'//' //".toList
    CommentFree lexis plain ∧ (scan lexis plain).text = plain ∧
      OpensComment lexis commented ∧ (scan lexis commented).text.length < commented.length := by
  intro lexis plain commented
  have sound : lexis.Sound := by decide
  have hfree : CommentFree lexis plain := by decide
  have hopens : OpensComment lexis commented := ⟨_, reaches_run lexis _ 7, by decide⟩
  exact ⟨hfree, (scan_untouched sound plain).1 hfree, hopens,
    ((scan_untouched sound commented).2.1 hopens).1⟩

end Scan

end Decomment
