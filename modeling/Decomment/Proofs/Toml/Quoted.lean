import Decomment.Toml.Quoted
import Mathlib.Data.List.Basic

/-!
# Strings are read as they were written

`read?_write`: the form that a string is written in is read back as this string, whatever the string
holds and whatever follows it, as long as no quote does.

Each form has its own argument. Between double quotes, `escape_cases` says what becomes of a
character. Over several lines, what matters is how many quotes stand in a row: two of them belong to
the string, and a third one ends it unless it is escaped. So the inductions on the string go along
with the number of quotes just passed, which never exceeds two.
-/

namespace Decomment.Toml.Quoted

variable {c letter quote : Char} {text rest s : List Char} {multi : Bool}

/-- What may follow a string: anything that does not begin with a quote. -/
def Detached (rest : List Char) : Prop :=
  ∀ c ∈ rest.head?, c ≠ '"' ∧ c ≠ '\''

theorem Detached.quote_ne (h : Detached rest) (s : List Char) : rest ≠ '"' :: s := by
  rintro rfl
  exact (h '"' rfl).1 rfl

theorem Detached.apostrophe_ne (h : Detached rest) (s : List Char) : rest ≠ '\'' :: s := by
  rintro rfl
  exact (h '\'' rfl).2 rfl

@[simp] theorem before_some (chars content rest : List Char) :
    before chars (some (content, rest)) = some (chars ++ content, rest) := rfl

@[simp] theorem before_nil (result : Option (List Char × List Char)) :
    before [] result = result := by
  cases result <;> rfl

theorem before_before (chars others : List Char) (result : Option (List Char × List Char)) :
    before chars (before others result) = before (chars ++ others) result := by
  cases result <;> simp [before]

/-! ## Escapes -/

theorem hexValue?_hexDigit : ∀ n < 16, hexValue? (hexDigit n) = some n := by
  decide

/-- The four digits of a code point below 256 are read back. -/
theorem codePoint?_hexDigits (h : c.toNat < 256) :
    codePoint? ['0', '0', hexDigit (c.toNat / 16), hexDigit (c.toNat % 16)] = some c := by
  have hzero : hexValue? '0' = some 0 := by decide
  have hhigh := hexValue?_hexDigit (c.toNat / 16) (by omega)
  have hlow := hexValue?_hexDigit (c.toNat % 16) (by omega)
  have hcode : 16 * (c.toNat / 16) + c.toNat % 16 = c.toNat := Nat.div_add_mod _ _
  have hvalid : c.toNat.isValidChar := .inl (by omega)
  simp [codePoint?, hzero, hhigh, hlow, hcode, hvalid]

theorem lt_of_isControl (h : isControl c = true) : c.toNat < 256 := by
  simp only [isControl, isPrintable, Bool.and_eq_true, Bool.not_eq_true', Bool.or_eq_false_iff,
    Bool.not_eq_false', Bool.or_eq_true, decide_eq_true_eq, beq_iff_eq] at h
  omega

/-- What becomes of a character between double quotes: it follows a backslash as a letter or as four
digits, or it stands as it is, as a line break does over several lines. -/
theorem escape_cases (multi : Bool) (c : Char) :
    (∃ letter, escape multi c = ['\\', letter] ∧ escaped? letter = some c) ∨
      (∃ a b, escape multi c = ['\\', 'u', '0', '0', a, b] ∧
        codePoint? ['0', '0', a, b] = some c) ∨
      (multi = true ∧ c = '\n' ∧ escape multi c = ['\n']) ∨
      (escape multi c = [c] ∧ isPrintable c = true ∧ c ≠ '\\' ∧ c ≠ '\n') := by
  rw [escape]
  split
  · next h => exact .inl ⟨'b', rfl, h ▸ rfl⟩
  split
  · next h => exact .inl ⟨'t', rfl, h ▸ rfl⟩
  split
  · next h =>
    split
    · next hmulti => exact .inr (.inr (.inl ⟨hmulti, h, rfl⟩))
    · exact .inl ⟨'n', rfl, h ▸ rfl⟩
  split
  · next h => exact .inl ⟨'f', rfl, h ▸ rfl⟩
  split
  · next h => exact .inl ⟨'r', rfl, h ▸ rfl⟩
  split
  · next h =>
    subst h
    exact .inl ⟨'\\', rfl, rfl⟩
  split
  · next h => exact .inr (.inl ⟨_, _, rfl, codePoint?_hexDigits (lt_of_isControl h)⟩)
  · next hbreak _ _ hslash hcontrol =>
    refine .inr (.inr (.inr ⟨rfl, ?_, hslash, hbreak⟩))
    simpa [isControl, hbreak] using hcontrol

/-- A letter that stands for a character is no space, and no code point follows it. -/
theorem letter_ne (h : escaped? letter = some c) :
    letter ≠ 'u' ∧ letter ≠ 'U' ∧ letter ≠ '\n' ∧ letter ≠ '\r' ∧ isSpace letter = false := by
  refine ⟨?_, ?_, ?_, ?_, ?_⟩
  all_goals first | (rintro rfl; cases h) | skip
  cases hspace : isSpace letter with
  | false => rfl
  | true =>
    simp only [isSpace, Bool.or_eq_true, beq_iff_eq] at hspace
    rcases hspace with rfl | rfl <;> cases h

/-! ## One line -/

theorem basic?_escape (hquote : c ≠ '"') (rest : List Char) :
    basic? (escape false c ++ rest) = before [c] (basic? rest) := by
  obtain ⟨letter, heq, hletter⟩ | ⟨a, b, heq, hcode⟩ | ⟨hmulti, -, -⟩ | ⟨heq, hprint, hslash, -⟩ :=
    escape_cases false c
  · obtain ⟨hu, hU, -⟩ := letter_ne hletter
    rw [heq]
    show basic? ('\\' :: letter :: rest) = _
    rw [basic?.eq_5 _ _ (fun _ _ _ _ _ h => absurd h hu)
      (fun _ _ _ _ _ _ _ _ _ h => absurd h hU), hletter]
    rfl
  · rw [heq]
    show basic? ('\\' :: 'u' :: '0' :: '0' :: a :: b :: rest) = _
    rw [basic?.eq_3, hcode]
    rfl
  · cases hmulti
  · rw [heq]
    show basic? (c :: rest) = _
    rw [basic?.eq_6 _ _ hquote]
    · simp [hprint, hslash]
    all_goals simp [hslash]

theorem basic?_escapeAll (text rest : List Char) :
    basic? (escapeAll false 0 text ++ '"' :: rest) = some (text, rest) := by
  induction text with
  | nil => rfl
  | cons c text ih =>
    rw [escapeAll]
    split
    · next h =>
      subst h
      show basic? ('\\' :: '"' :: (escapeAll false 0 text ++ '"' :: rest)) = _
      rw [basic?.eq_5 _ _ (fun _ _ _ _ _ h => by cases h) (fun _ _ _ _ _ _ _ _ _ h => by cases h),
        ih]
      rfl
    · next h =>
      rw [List.append_assoc, basic?_escape h, ih]
      rfl

theorem literal?_append (htext : ∀ c ∈ text, isPrintable c = true ∧ c ≠ '\'') (rest : List Char) :
    literal? (text ++ '\'' :: rest) = some (text, rest) := by
  induction text with
  | nil => rfl
  | cons c text ih =>
    obtain ⟨hprint, hne⟩ := htext c (List.mem_cons_self ..)
    rw [List.cons_append, literal?.eq_3 _ _ hne, if_pos hprint,
      ih fun c hc => htext c (List.mem_cons_of_mem _ hc)]
    rfl

/-- Up to two quotes before anything but a quote belong to the string, for a reader that only ends a
string at three of them. -/
theorem quotes_before {reader : List Char → Option (List Char × List Char)}
    (one : ∀ {s}, (∀ r, s ≠ quote :: quote :: r) → reader (quote :: s) = before [quote] (reader s))
    {run : Nat} (hrun : run ≤ 2) (hs : ∀ r, s ≠ quote :: r) :
    reader (List.replicate run quote ++ s) = before (List.replicate run quote) (reader s) := by
  match run, hrun with
  | 0, _ => simp
  | 1, _ => exact one fun r h => hs _ h
  | 2, _ =>
    show reader (quote :: quote :: s) = _
    rw [one fun r h => hs r (List.cons.inj h).2, one fun r h => hs _ h, before_before]
    rfl

/-! ## Several lines between double quotes -/

theorem multiBasic?_quote (hs : ∀ r, s ≠ '"' :: '"' :: r) :
    multiBasic? false ('"' :: s) = before ['"'] (multiBasic? false s) := by
  rw [multiBasic?.eq_10]
  · rfl
  all_goals simp_all

theorem multiBasic?_escape (hquote : c ≠ '"') (rest : List Char) :
    multiBasic? false (escape true c ++ rest) = before [c] (multiBasic? false rest) := by
  obtain ⟨letter, heq, hletter⟩ | ⟨a, b, heq, hcode⟩ | ⟨-, rfl, heq⟩ |
    ⟨heq, hprint, hslash, hbreak⟩ := escape_cases true c
  · obtain ⟨hu, hU, hfeed, hreturn, hspace⟩ := letter_ne hletter
    rw [heq]
    show multiBasic? false ('\\' :: letter :: rest) = _
    -- the backslash is no continuation: neither a blank nor a line break follows it
    have hbreak : Text.startsWithBreak ((letter :: rest).dropWhile isSpace) = false := by
      rw [List.dropWhile_cons, hspace]
      simp [Text.startsWithBreak, hfeed, hreturn]
    rw [multiBasic?.eq_9 _ _ _ (fun _ _ _ _ _ h => absurd h hu)
      (fun _ _ _ _ _ _ _ _ _ h => absurd h hU), hbreak, hletter]
    rfl
  · rw [heq]
    show multiBasic? false ('\\' :: 'u' :: '0' :: '0' :: a :: b :: rest) = _
    rw [multiBasic?.eq_7, hcode]
    rfl
  · rw [heq]
    show multiBasic? false ('\n' :: rest) = _
    rw [multiBasic?.eq_6]
    rfl
  · have hreturn : c ≠ '\r' := by
      rintro rfl
      cases hprint
    rw [heq]
    show multiBasic? false (c :: rest) = _
    rw [multiBasic?.eq_10]
    · simp [hprint, hslash]
    all_goals simp_all

theorem escape_ne_quote (hquote : c ≠ '"') (rest r : List Char) :
    escape multi c ++ rest ≠ '"' :: r := by
  obtain ⟨letter, heq, -⟩ | ⟨a, b, heq, -⟩ | ⟨-, -, heq⟩ | ⟨heq, -⟩ := escape_cases multi c
  all_goals simp [heq, hquote]

/-- A string of several lines is read back, after up to two quotes that belong to it. -/
theorem multiBasic?_escapeAll (hrest : Detached rest) (text : List Char) {run : Nat}
    (hrun : run ≤ 2) :
    multiBasic? false
        (List.replicate run '"' ++ (escapeAll true run text ++ '"' :: '"' :: '"' :: rest)) =
      some (List.replicate run '"' ++ text, rest) := by
  induction text generalizing run with
  | nil =>
    -- the quotes at the end of the string run together with those that end it
    match run, hrun with
    | 0, _ => exact multiBasic?.eq_4 _ _ (fun r => hrest.quote_ne _) (fun r => hrest.quote_ne _)
    | 1, _ => exact multiBasic?.eq_3 _ _ (fun r => hrest.quote_ne _)
    | 2, _ => rfl
  | cons c text ih =>
    rw [escapeAll]
    split
    · next h =>
      subst h
      by_cases hlt : run < 2
      · have hpush :
            List.replicate run '"' ++ '"' :: text = List.replicate (run + 1) '"' ++ text := by
          simp [List.replicate_succ']
        rw [if_pos (by simp [hlt]), hpush, ← ih hlt, List.replicate_succ']
        simp
      · rw [if_neg (by simp [hlt])]
        show multiBasic? false (_ ++ '\\' :: '"' :: (escapeAll true 0 text ++ _)) = _
        rw [quotes_before multiBasic?_quote hrun (by simp),
          multiBasic?.eq_9 _ _ _ (fun _ _ _ _ _ h => by cases h)
            (fun _ _ _ _ _ _ _ _ _ h => by cases h)]
        have hrest' := ih (Nat.zero_le 2)
        rw [List.replicate_zero, List.nil_append] at hrest'
        simp [Text.startsWithBreak, isSpace, escaped?, hrest']
    · next h =>
      have hrest' := ih (Nat.zero_le 2)
      rw [List.replicate_zero, List.nil_append] at hrest'
      rw [List.append_assoc, quotes_before multiBasic?_quote hrun (escape_ne_quote h _),
        multiBasic?_escape h,
        hrest', before_some, before_some]
      simp

/-! ## Several lines between apostrophes -/

theorem hasThree_tail (h : hasThree quote (c :: text) = false) : hasThree quote text = false := by
  match text with
  | [] | [_] => rfl
  | _ :: _ :: _ => exact (Bool.or_eq_false_iff.1 h).2

theorem hasThree_of_append {others : List Char} (h : hasThree quote (others ++ text) = false) :
    hasThree quote text = false := by
  induction others with
  | nil => exact h
  | cons c others ih => exact ih (hasThree_tail h)

theorem multiLiteral?_apostrophe (hs : ∀ r, s ≠ '\'' :: '\'' :: r) :
    multiLiteral? ('\'' :: s) = before ['\''] (multiLiteral? s) := by
  rw [multiLiteral?.eq_6]
  · rfl
  all_goals simp_all

/-- A string that stands as it is over several lines is read back, after up to two apostrophes that
belong to it. -/
theorem multiLiteral?_append (hrest : Detached rest) (htext : ∀ c ∈ text, isControl c = false)
    {run : Nat} (hrun : run ≤ 2)
    (hthree : hasThree '\'' (List.replicate run '\'' ++ text) = false) :
    multiLiteral? (List.replicate run '\'' ++ (text ++ '\'' :: '\'' :: '\'' :: rest)) =
      some (List.replicate run '\'' ++ text, rest) := by
  induction text generalizing run with
  | nil =>
    match run, hrun with
    | 0, _ =>
      exact multiLiteral?.eq_4 _ (fun r => hrest.apostrophe_ne _) (fun r => hrest.apostrophe_ne _)
    | 1, _ => exact multiLiteral?.eq_3 _ (fun r => hrest.apostrophe_ne _)
    | 2, _ => rfl
  | cons c text ih =>
    have htail : ∀ c ∈ text, isControl c = false := fun c hc => htext c (List.mem_cons_of_mem _ hc)
    by_cases h : c = '\''
    · subst h
      have hpush : List.replicate run '\'' ++ '\'' :: text =
          List.replicate (run + 1) '\'' ++ text := by
        simp [List.replicate_succ']
      have hlt : run < 2 := by
        by_contra hge
        obtain rfl : run = 2 := by omega
        simp [List.replicate_succ, hasThree] at hthree
      rw [hpush, ← ih htail hlt (hpush ▸ hthree), List.replicate_succ']
      simp
    · have hcontrol := htext c (List.mem_cons_self ..)
      have hreturn : c ≠ '\r' := by
        rintro rfl
        cases hcontrol
      have hstands : (isPrintable c || c == '\n') = true := by
        simpa [isControl, imp_iff_or_not, or_comm] using hcontrol
      have hafter : hasThree '\'' text = false := hasThree_tail (hasThree_of_append hthree)
      have hrest' := ih htail (Nat.zero_le 2) hafter
      rw [List.replicate_zero, List.nil_append] at hrest'
      rw [List.cons_append, quotes_before multiLiteral?_apostrophe hrun (by simp [h]),
        multiLiteral?.eq_6, if_pos hstands, hrest', before_some, before_some]
      all_goals simp_all

/-! ## Every form -/

/-- The line break that is put first is the one that is passed over. -/
theorem dropBreak_leadingBreak {written : List Char}
    (h : '\n' ∉ text → dropBreak written = written) :
    dropBreak (leadingBreak text ++ written) = written := by
  rw [leadingBreak]
  split
  · rfl
  · next hbreak => exact h (by simpa using hbreak)

theorem dropBreak_cons (hfeed : c ≠ '\n') (hreturn : c ≠ '\r') : dropBreak (c :: s) = c :: s := by
  simp [dropBreak, hfeed, hreturn]

theorem dropBreak_escapeAll (hbreak : '\n' ∉ text) (rest : List Char) :
    dropBreak (escapeAll true 0 text ++ '"' :: rest) = escapeAll true 0 text ++ '"' :: rest := by
  match text with
  | [] => rfl
  | c :: text =>
    rw [escapeAll]
    split
    · rfl
    obtain ⟨letter, heq, -⟩ | ⟨a, b, heq, -⟩ | ⟨-, rfl, -⟩ | ⟨heq, hprint, -, hfeed⟩ :=
      escape_cases true c
    · rw [heq]
      rfl
    · rw [heq]
      rfl
    · exact absurd (List.mem_cons_self ..) hbreak
    · rw [heq]
      exact dropBreak_cons hfeed (by rintro rfl; cases hprint)

theorem dropBreak_of_no_control (hbreak : '\n' ∉ text) (htext : ∀ c ∈ text, isControl c = false)
    (rest : List Char) : dropBreak (text ++ '\'' :: rest) = text ++ '\'' :: rest := by
  match text with
  | [] => rfl
  | c :: text =>
    have hcontrol := htext c (List.mem_cons_self ..)
    refine dropBreak_cons (fun h => hbreak (h ▸ List.mem_cons_self ..)) ?_
    rintro rfl
    cases hcontrol

/-- A string stands between apostrophes on one line only if it can. -/
theorem stands_of_literal (h : form text = .literal) :
    ∀ c ∈ text, isPrintable c = true ∧ c ≠ '\'' := by
  simp only [form] at h
  split at h
  · cases h
  split at h
  · next hfits =>
    simp only [Bool.and_eq_true, Bool.not_eq_true', List.any_eq_false, List.contains_eq_mem,
      decide_eq_false_iff_not, isControl, bne_iff_ne, not_and, ne_eq] at hfits
    obtain ⟨⟨hcontrol, hbreak⟩, hquote⟩ := hfits
    intro c hc
    refine ⟨?_, fun h => hquote (h ▸ hc)⟩
    by_contra hprint
    exact hcontrol c hc (by simpa using hprint) fun h => hbreak (h ▸ hc)
  · split at h
    · cases h
    split at h
    · cases h
    split at h <;> cases h

/-- A string stands between apostrophes over several lines only if it can. -/
theorem stands_of_multiLiteral (h : form text = .multiLiteral) :
    (∀ c ∈ text, isControl c = false) ∧ hasThree '\'' text = false := by
  simp only [form] at h
  split at h
  · cases h
  split at h
  · cases h
  split at h
  · cases h
  split at h
  · next hfits => simpa using hfits
  · split at h <;> cases h

theorem read?_eq_line? (hquote : ∀ r, s ≠ '"' :: '"' :: '"' :: r)
    (hapostrophe : ∀ r, s ≠ '\'' :: '\'' :: '\'' :: r) : read? s = line? s :=
  read?.eq_3 s hquote hapostrophe

/-- A string of one line does not begin with the quotes of one of several lines. -/
theorem escapeAll_not_three (hrest : Detached rest) (text r : List Char) :
    escapeAll false 0 text ++ '"' :: rest ≠ '"' :: '"' :: r := by
  match text with
  | [] => exact fun h => hrest.quote_ne _ (List.cons.inj h).2
  | c :: text =>
    rw [escapeAll]
    split
    · simp
    · next hquote =>
      rw [List.append_assoc]
      exact escape_ne_quote hquote _ _

theorem literal_not_three (hrest : Detached rest) (hstands : ∀ c ∈ text, c ≠ '\'') (r : List Char) :
    text ++ '\'' :: rest ≠ '\'' :: '\'' :: r := by
  match text with
  | [] => exact fun h => hrest.apostrophe_ne _ (List.cons.inj h).2
  | c :: text => exact fun h => hstands c (List.mem_cons_self ..) (List.cons.inj h).1

/-- **A string is read as it was written**, whatever form it takes. -/
theorem read?_write (hrest : Detached rest) (text : List Char) :
    read? (write text ++ rest) = some (text, rest) := by
  rw [write]
  split
  · rw [List.append_assoc, List.append_assoc]
    show read? ('"' :: (escapeAll false 0 text ++ '"' :: rest)) = _
    rw [read?_eq_line? (fun r h => escapeAll_not_three hrest text r (List.cons.inj h).2) (by simp)]
    exact basic?_escapeAll text rest
  · next h =>
    have hstands := stands_of_literal h
    rw [List.append_assoc, List.append_assoc]
    show read? ('\'' :: (text ++ '\'' :: rest)) = _
    rw [read?_eq_line? (by simp)
      (fun r h => literal_not_three hrest (fun c hc => (hstands c hc).2) r (List.cons.inj h).2)]
    exact literal?_append hstands rest
  · rw [List.append_assoc, List.append_assoc, List.append_assoc]
    show multiBasic? false
      (dropBreak (leadingBreak text ++ (escapeAll true 0 text ++ '"' :: '"' :: '"' :: rest))) = _
    rw [dropBreak_leadingBreak fun hbreak => dropBreak_escapeAll hbreak _]
    exact multiBasic?_escapeAll hrest text (Nat.zero_le 2)
  · next h =>
    obtain ⟨hcontrol, hthree⟩ := stands_of_multiLiteral h
    rw [List.append_assoc, List.append_assoc, List.append_assoc]
    show multiLiteral?
      (dropBreak (leadingBreak text ++ (text ++ '\'' :: '\'' :: '\'' :: rest))) = _
    rw [dropBreak_leadingBreak fun hbreak => dropBreak_of_no_control hbreak hcontrol _]
    exact multiLiteral?_append hrest hcontrol (Nat.zero_le 2) hthree

end Decomment.Toml.Quoted
