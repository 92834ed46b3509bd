import Decomment.Proofs.Toml.Quoted
import Decomment.Toml.Printer

/-!
# Statements are read as they were written

`statements?_write`: the text of a list of statements is read back as this list. It asks of the
statements what the writer of settings keeps to (`Statement.Plain`): keys that need no quotes, in
paths that are short enough, and values that are truth values, strings, and lists of these.

Every reader is shown to take exactly what was written and to leave what follows, which may be
anything that can follow there.
-/

namespace Decomment.Toml

variable {rest text : List Char} {fuel depth : Nat} {key : String} {path : List String}
  {value : Value}

/-! ## What is written -/

/-- A key that is written without quotes. -/
def BareKey (key : String) : Prop :=
  key.toList ≠ [] ∧ ∀ c ∈ key.toList, isBareChar c = true

/-- A path of keys that are written without quotes. -/
structure PlainPath (path : List String) : Prop where
  ne_nil : path ≠ []
  bare : ∀ key ∈ path, BareKey key
  short : path.length < nestingLimit

/-- A truth value, a string, or a list of such values down to a depth. -/
def PlainValue : (depth : Nat) → Value → Prop
  | _, .bool _ => True
  | _, .string _ => True
  | depth + 1, .array items => ∀ item ∈ items, PlainValue depth item
  | _, _ => False

/-- A statement with plain keys and values. -/
def Statement.Plain : Statement → Prop
  | .pair path value => PlainPath path ∧ PlainValue (nestingLimit - 1) value
  | .header path => PlainPath path
  | .arrayHeader path => PlainPath path

/-! ## Keys -/

theorem isBareChar_ne {c : Char} (h : isBareChar c = true) :
    isSpace c = false ∧ c ≠ '.' ∧ c ≠ '[' ∧ c ≠ '\n' ∧ c ≠ '\r' ∧ c ≠ '#' ∧ c ≠ '\uFEFF' := by
  refine ⟨?_, ?_, ?_, ?_, ?_, ?_, ?_⟩
  all_goals first | (rintro rfl; revert h; decide) | skip
  cases hspace : isSpace c with
  | false => rfl
  | true =>
    simp only [isSpace, Bool.or_eq_true, beq_iff_eq] at hspace
    rcases hspace with rfl | rfl <;> revert h <;> decide

theorem skipSpaces_cons {c : Char} (h : isSpace c = false) (rest : List Char) :
    skipSpaces (c :: rest) = c :: rest := by
  rw [skipSpaces, List.dropWhile_cons, h]
  rfl

theorem writeKey_of_bare (h : BareKey key) : writeKey key = key.toList := by
  have hne : key.isEmpty = false := by
    simpa using h.1
  rw [writeKey, if_pos]
  rw [hne, Bool.not_false, Bool.true_and, List.all_eq_true]
  exact h.2

theorem writeKey_cons (h : BareKey key) :
    ∃ c chars, isBareChar c = true ∧ writeKey key = c :: chars := by
  rw [writeKey_of_bare h]
  obtain ⟨c, chars, hkey⟩ := List.exists_cons_of_ne_nil h.1
  exact ⟨c, chars, h.2 c (by rw [hkey]; exact List.mem_cons_self ..), hkey⟩

theorem skipSpaces_writeKey (h : BareKey key) (rest : List Char) :
    skipSpaces (writeKey key ++ rest) = key.toList ++ rest := by
  obtain ⟨c, chars, hc, hkey⟩ := writeKey_cons h
  rw [hkey, List.cons_append, skipSpaces_cons (isBareChar_ne hc).1, ← List.cons_append, ← hkey,
    writeKey_of_bare h]

@[simp] theorem writePath_singleton (key : String) : writePath [key] = writeKey key := by
  simp [writePath]

@[simp] theorem writePath_cons_cons (key next : String) (keys : List String) :
    writePath (key :: next :: keys) = writeKey key ++ '.' :: writePath (next :: keys) := by
  simp [writePath, List.intercalate_cons_cons]

/-- A path begins with a character of a key. -/
theorem writePath_eq_cons (h : PlainPath path) :
    ∃ c chars, isBareChar c = true ∧ writePath path = c :: chars := by
  match path, h.ne_nil with
  | key :: keys, _ =>
    obtain ⟨c, chars, hc, hkey⟩ := writeKey_cons (h.bare key (List.mem_cons_self ..))
    cases keys with
    | nil => exact ⟨c, chars, hc, by rw [writePath_singleton, hkey]⟩
    | cons next keys =>
      refine ⟨c, chars ++ '.' :: writePath (next :: keys), hc, ?_⟩
      rw [writePath_cons_cons, hkey, List.cons_append]

/-- A key ends where no character of a key follows. -/
theorem key?_append (h : BareKey key) (hrest : ∀ c ∈ rest.head?, isBareChar c = false) :
    key? (key.toList ++ rest) = some (key, rest) := by
  have hstop : rest.takeWhile isBareChar = [] ∧ rest.dropWhile isBareChar = rest := by
    cases rest with
    | nil => exact ⟨rfl, rfl⟩
    | cons c rest =>
      have hc := hrest c rfl
      exact ⟨by rw [List.takeWhile_cons, hc]; rfl, by rw [List.dropWhile_cons, hc]; rfl⟩
  rw [key?, List.takeWhile_append_of_pos h.2, List.dropWhile_append_of_pos h.2, hstop.1, hstop.2,
    List.append_nil]
  split
  · next hnil => exact absurd hnil h.1
  · rw [String.ofList_toList]

/-- What may follow the path of a key: blanks, and then something other than a dot. -/
structure EndsPath (rest : List Char) : Prop where
  not_bare : ∀ c ∈ rest.head?, isBareChar c = false
  not_dot : ∀ r, skipSpaces rest ≠ '.' :: r

theorem keyParts?_last (h : BareKey key) (hrest : EndsPath rest) :
    keyParts? (fuel + 1) (writeKey key ++ rest) = some ([key], skipSpaces rest) := by
  rw [keyParts?, skipSpaces_writeKey h, key?_append h hrest.not_bare]
  simp only [bind, Option.bind]
  split
  · next r hdot => exact absurd hdot (hrest.not_dot r)
  · rfl

theorem keyParts?_next (h : BareKey key) (rest : List Char) :
    keyParts? (fuel + 1) (writeKey key ++ '.' :: rest) =
      (keyParts? fuel rest).map fun (keys, rest) => (key :: keys, rest) := by
  rw [keyParts?, skipSpaces_writeKey h, key?_append h (by simp [isBareChar])]
  show (do let (keys, rest) ← keyParts? fuel rest; some (key :: keys, rest)) = _
  cases keyParts? fuel rest <;> rfl

theorem keyParts?_writePath (hne : path ≠ []) (hbare : ∀ key ∈ path, BareKey key)
    (hfuel : path.length ≤ fuel) (hrest : EndsPath rest) :
    keyParts? fuel (writePath path ++ rest) = some (path, skipSpaces rest) := by
  induction path generalizing fuel with
  | nil => exact absurd rfl hne
  | cons key keys ih =>
    obtain ⟨fuel, rfl⟩ : ∃ n, fuel = n + 1 := ⟨fuel - 1, by simp at hfuel; omega⟩
    have hkey := hbare key (List.mem_cons_self ..)
    cases keys with
    | nil =>
      rw [writePath_singleton, keyParts?_last hkey hrest]
    | cons next keys =>
      rw [writePath_cons_cons, List.append_assoc, List.cons_append, keyParts?_next hkey,
        ih (by simp) (fun k hk => hbare k (List.mem_cons_of_mem _ hk)) (by simpa using hfuel)]
      rfl

theorem length_le_writePath (hbare : ∀ key ∈ path, BareKey key) :
    path.length ≤ (writePath path).length := by
  induction path with
  | nil => exact Nat.zero_le _
  | cons key keys ih =>
    obtain ⟨c, chars, -, hkey⟩ := writeKey_cons (hbare key (List.mem_cons_self ..))
    have ih := ih fun k hk => hbare k (List.mem_cons_of_mem _ hk)
    cases keys with
    | nil => simp [hkey]
    | cons next keys =>
      rw [writePath_cons_cons, hkey]
      simp only [List.length_cons, List.length_append] at ih ⊢
      omega

theorem keyPath?_writePath (h : PlainPath path) (hrest : EndsPath rest) :
    keyPath? (writePath path ++ rest) = some (path, skipSpaces rest) := by
  have hfuel : path.length ≤ (writePath path ++ rest).length := by
    have := length_le_writePath h.bare
    rw [List.length_append]
    omega
  rw [keyPath?, keyParts?_writePath h.ne_nil h.bare hfuel hrest]
  simp [Option.filter, h.short]

/-! ## Values -/

/-- What may follow a value: the end of its line, of its list, or of its place in the list. -/
def EndsValue (rest : List Char) : Prop :=
  ∃ r, rest = '\n' :: r ∨ rest = ']' :: r ∨ rest = ',' :: r

theorem EndsValue.detached (h : EndsValue rest) : Quoted.Detached rest := by
  obtain ⟨r, rfl | rfl | rfl⟩ := h <;> simp [Quoted.Detached]

/-- A truth value ends where none of the characters of such values follows. -/
theorem scalarText_append (htext : ∀ c ∈ text, isScalarChar c = true) (hrest : EndsValue rest) :
    scalarText (text ++ rest) = text := by
  have hstop : rest.takeWhile isScalarChar = [] ∧ rest.dropWhile isScalarChar = rest := by
    obtain ⟨r, rfl | rfl | rfl⟩ := hrest <;> exact ⟨rfl, rfl⟩
  rw [scalarText, List.takeWhile_append_of_pos htext, List.dropWhile_append_of_pos htext, hstop.1,
    hstop.2, List.append_nil]
  obtain ⟨r, rfl | rfl | rfl⟩ := hrest <;> rfl

theorem value?_bool (depth : Nat) (b : Bool) (hrest : EndsValue rest) :
    value? depth (writeValue (.bool b) ++ rest) = some (.bool b, rest) := by
  have htext : ∀ c ∈ writeValue (.bool b), isScalarChar c = true :=
    List.all_eq_true.1 (by cases b <;> decide)
  have hscalar : scalar? (writeValue (.bool b)) = some (.bool b) := by
    cases b <;> rfl
  rw [value?.eq_7, scalarText_append htext hrest, hscalar]
  · simp
  all_goals cases b <;> simp [writeValue]

/-- A string begins with one of the two quotes. -/
theorem Quoted.write_eq_cons (text : List Char) :
    ∃ chars, Quoted.write text = '"' :: chars ∨ Quoted.write text = '\'' :: chars := by
  rw [Quoted.write]
  split <;> simp

theorem value?_string (depth : Nat) (s : String) (hrest : EndsValue rest) :
    value? depth (writeValue (.string s) ++ rest) = some (.string s, rest) := by
  have hread : value?.stringValue? (Quoted.write s.toList ++ rest) = some (.string s, rest) := by
    rw [value?.stringValue?, Quoted.read?_write hrest.detached]
    simp
  rw [writeValue, ← hread]
  obtain ⟨chars, hquote | hquote⟩ := Quoted.write_eq_cons s.toList
  · rw [hquote, List.cons_append, value?.eq_5]
  · rw [hquote, List.cons_append, value?.eq_6]

/-! ### Lists -/

section
variable {item? : Reader Value} {start after more : List Char} {item : Value}

theorem items?_stop (h : skipGap? false text = some (']' :: rest)) :
    items? item? (fuel + 1) text = some ([], rest) := by
  simp [items?, h]

theorem items?_last (hgap : skipGap? false text = some start) (hstart : ∀ r, start ≠ ']' :: r)
    (hitem : item? start = some (item, after))
    (hend : skipGap? false after = some (']' :: rest)) :
    items? item? (fuel + 1) text = some ([item], rest) := by
  rw [items?, hgap]
  simp [hitem, hend]

theorem items?_next (hgap : skipGap? false text = some start) (hstart : ∀ r, start ≠ ']' :: r)
    (hitem : item? start = some (item, after))
    (hend : skipGap? false after = some (',' :: more)) :
    items? item? (fuel + 1) text =
      (items? item? fuel more).map fun (items, rest) => (item :: items, rest) := by
  rw [items?, hgap]
  simp only [Option.bind_eq_bind, Option.bind_some, hitem, hend]
  cases items? item? fuel more <;> rfl

end

@[simp] theorem writeValues_eq_map (items : List Value) :
    writeValues items = items.map writeValue := by
  induction items with
  | nil => rfl
  | cons item items ih => rw [writeValues, ih, List.map_cons]

theorem writeValue_eq_cons (h : PlainValue depth value) :
    ∃ c ∈ ['t', 'f', '"', '\'', '['], ∃ chars, writeValue value = c :: chars := by
  cases value with
  | bool b =>
    cases b
    · exact ⟨'f', by simp, _, rfl⟩
    · exact ⟨'t', by simp, _, rfl⟩
  | string s =>
    rw [writeValue]
    obtain ⟨chars, hquote | hquote⟩ := Quoted.write_eq_cons s.toList
    · exact ⟨'"', by simp, chars, hquote⟩
    · exact ⟨'\'', by simp, chars, hquote⟩
  | array items =>
    rw [writeValue, writeItems.eq_def]
    refine ⟨'[', by simp, ?_⟩
    split <;> simp
  | null | number _ | moment _ | table _ => simp [PlainValue] at h

theorem skipSpaces_writeValue (h : PlainValue depth value) (rest : List Char) :
    skipSpaces (writeValue value ++ rest) = writeValue value ++ rest := by
  obtain ⟨c, hc, chars, hvalue⟩ := writeValue_eq_cons h
  have hspace : ∀ c ∈ ['t', 'f', '"', '\'', '['], (!isSpace c) = true :=
    List.all_eq_true.1 (by decide)
  rw [hvalue]
  exact skipSpaces_cons (by simpa using hspace c hc) _

/-- A list passes over nothing at the start of a value, and does not end there. -/
theorem writeValue_begins (h : PlainValue depth value) (rest : List Char) :
    skipGap? false (writeValue value ++ rest) = some (writeValue value ++ rest) ∧
      ∀ r, writeValue value ++ rest ≠ ']' :: r := by
  obtain ⟨c, hc, chars, hvalue⟩ := writeValue_eq_cons h
  simp only [List.mem_cons, List.not_mem_nil, or_false] at hc
  rw [hvalue]
  rcases hc with rfl | rfl | rfl | rfl | rfl <;> simp [skipGap?, isSpace]

/-- Items as they are written with each on a line of its own. -/
def itemLines (items : List Value) : List Char :=
  (items.map writeValue).flatMap fun item => "    ".toList ++ item ++ [',', '\n']

theorem itemLines_cons (item : Value) (items : List Value) (rest : List Char) :
    itemLines (item :: items) ++ rest =
      "    ".toList ++ (writeValue item ++ ',' :: '\n' :: (itemLines items ++ rest)) := by
  simp [itemLines]

theorem length_le_itemLines (items : List Value) : items.length ≤ (itemLines items).length := by
  induction items with
  | nil => exact Nat.le_refl _
  | cons item items ih =>
    have hlength := congrArg List.length (itemLines_cons item items [])
    simp only [List.append_nil, List.length_append, List.length_cons] at hlength ⊢
    omega

section
variable {items : List Value} (hplain : ∀ item ∈ items, PlainValue depth item)
  (hread : ∀ item ∈ items, ∀ rest, EndsValue rest →
    value? depth (writeValue item ++ rest) = some (item, rest))
include hplain hread

theorem items?_itemLines (hfuel : items.length < fuel) (rest : List Char) :
    items? (value? depth) fuel ('\n' :: (itemLines items ++ ']' :: rest)) = some (items, rest) := by
  induction items generalizing fuel with
  | nil =>
    obtain ⟨fuel, rfl⟩ : ∃ n, fuel = n + 1 := ⟨fuel - 1, by simp at hfuel; omega⟩
    exact items?_stop rfl
  | cons item items ih =>
    obtain ⟨fuel, rfl⟩ : ∃ n, fuel = n + 1 := ⟨fuel - 1, by simp at hfuel; omega⟩
    have hothers := ih (fun i hi => hplain i (List.mem_cons_of_mem _ hi))
      (fun i hi => hread i (List.mem_cons_of_mem _ hi)) (by simpa using hfuel)
    have hitem := hread item (List.mem_cons_self ..)
      (',' :: '\n' :: (itemLines items ++ ']' :: rest)) ⟨_, .inr (.inr rfl)⟩
    obtain ⟨hgap, hstart⟩ := writeValue_begins (hplain item (List.mem_cons_self ..))
      (',' :: '\n' :: (itemLines items ++ ']' :: rest))
    rw [itemLines_cons, items?_next (by exact hgap) hstart hitem rfl, hothers]
    rfl

/-- A list whose items are read back is read back, on one line or on several. -/
theorem value?_array (rest : List Char) :
    value? (depth + 1) (writeValue (.array items) ++ rest) = some (.array items, rest) := by
  rw [writeValue, writeValues_eq_map]
  match items, hplain, hread with
  | [], _, _ =>
    show value? (depth + 1) ('[' :: ']' :: rest) = _
    rw [value?.eq_2, items?_stop rfl]
    rfl
  | [item], hplain, hread =>
    obtain ⟨hgap, hstart⟩ := writeValue_begins (hplain item (List.mem_cons_self ..)) (']' :: rest)
    have hitem := hread item (List.mem_cons_self ..) (']' :: rest) ⟨_, .inr (.inl rfl)⟩
    rw [List.map_singleton, writeItems, List.append_assoc, List.append_assoc]
    show value? (depth + 1) ('[' :: (writeValue item ++ ']' :: rest)) = _
    rw [value?.eq_2, items?_last hgap hstart hitem rfl]
    rfl
  | first :: second :: items, hplain, hread =>
    rw [writeItems.eq_3 _ (by simp) (by simp), List.append_assoc, List.append_assoc]
    show value? (depth + 1)
      ('[' :: '\n' :: (itemLines (first :: second :: items) ++ ']' :: rest)) = _
    have hfuel := length_le_itemLines (first :: second :: items)
    rw [value?.eq_2, items?_itemLines hplain hread]
    · rfl
    · simp only [List.length_cons, List.length_append] at hfuel ⊢
      omega

end

/-- **A value is read as it was written**, within the depth that its lists take up. -/
theorem value?_writeValue (h : PlainValue depth value) (hrest : EndsValue rest) :
    value? depth (writeValue value ++ rest) = some (value, rest) := by
  induction depth generalizing value rest with
  | zero =>
    cases value with
    | bool b => exact value?_bool 0 b hrest
    | string s => exact value?_string 0 s hrest
    | null | number _ | moment _ | array _ | table _ => simp [PlainValue] at h
  | succ depth ih =>
    cases value with
    | bool b => exact value?_bool _ b hrest
    | string s => exact value?_string _ s hrest
    | array items =>
      exact value?_array h (fun item hitem rest hrest => ih (h item hitem) hrest) rest
    | null | number _ | moment _ | table _ => simp [PlainValue] at h

/-! ## Statements -/

variable {statement : Statement} {stmts : List Statement}

theorem endsPath_equals (rest : List Char) : EndsPath (" = ".toList ++ rest) :=
  ⟨by simp [isBareChar], by simp [skipSpaces, isSpace]⟩

theorem endsPath_bracket (rest : List Char) : EndsPath (']' :: rest) :=
  ⟨by simp [isBareChar], by simp [skipSpaces, isSpace]⟩

theorem statement?_pair (h : PlainPath path) (hvalue : PlainValue (nestingLimit - 1) value)
    (rest : List Char) :
    statement? (writeStatement (.pair path value) ++ rest) = some (.pair path value, rest) := by
  obtain ⟨c, chars, hc, hpath⟩ := writePath_eq_cons h
  rw [writeStatement, List.append_assoc, List.append_assoc, List.append_assoc]
  have hequals : expect? '=' (skipSpaces (" = ".toList ++ (writeValue value ++ (['\n'] ++ rest)))) =
      some (' ' :: (writeValue value ++ '\n' :: rest)) := rfl
  have hread : value? (nestingLimit - 1) (skipSpaces (' ' :: (writeValue value ++ '\n' :: rest))) =
      some (value, '\n' :: rest) := by
    show value? _ (skipSpaces (writeValue value ++ '\n' :: rest)) = _
    rw [skipSpaces_writeValue hvalue, value?_writeValue hvalue ⟨_, .inl rfl⟩]
  rw [statement?.eq_3]
  · rw [keyValue?, keyPath?_writePath h (endsPath_equals _)]
    simp only [Option.bind_eq_bind, Option.bind_some, hequals, hread]
    rfl
  all_goals
    intro r hr
    rw [hpath] at hr
    exact (isBareChar_ne hc).2.2.1 (List.cons.inj hr).1

theorem statement?_header (h : PlainPath path) (rest : List Char) :
    statement? ('[' :: (writePath path ++ ']' :: '\n' :: rest)) = some (.header path, rest) := by
  obtain ⟨c, chars, hc, hpath⟩ := writePath_eq_cons h
  rw [statement?.eq_2, keyPath?_writePath h (endsPath_bracket _)]
  · rfl
  · intro r hr
    rw [hpath] at hr
    exact (isBareChar_ne hc).2.2.1 (List.cons.inj hr).1

theorem statement?_arrayHeader (h : PlainPath path) (rest : List Char) :
    statement? ('[' :: '[' :: (writePath path ++ ']' :: ']' :: '\n' :: rest)) =
      some (.arrayHeader path, rest) := by
  rw [statement?.eq_1, keyPath?_writePath h (endsPath_bracket _)]
  rfl

/-- Reads a statement that begins with a key or with a bracket. -/
theorem statements?_statement {c : Char} {chars : List Char}
    (hc : isBareChar c = true ∨ c = '[') (h : statement? (c :: chars) = some (statement, rest)) :
    statements? (fuel + 1) (c :: chars) = (statements? fuel rest).map (statement :: ·) := by
  have hplain : isSpace c = false ∧ c ≠ '\n' ∧ c ≠ '\r' ∧ c ≠ '#' := by
    rcases hc with hc | rfl
    · obtain ⟨hspace, -, -, hfeed, hreturn, hhash, -⟩ := isBareChar_ne hc
      exact ⟨hspace, hfeed, hreturn, hhash⟩
    · decide
  obtain ⟨hspace, hfeed, hreturn, hhash⟩ := hplain
  rw [statements?, skipSpaces_cons hspace]
  split
  all_goals simp_all
  cases statements? fuel rest <;> rfl

theorem statements?_newline (fuel : Nat) (rest : List Char) :
    statements? (fuel + 1) ('\n' :: rest) = statements? fuel rest := rfl

/-- Reads one statement as it was written, and the line break before it if it is a header. -/
theorem statements?_cons (h : statement.Plain) (rest : List Char) :
    ∃ steps ≤ (writeStatement statement).length, ∀ fuel,
      statements? (fuel + steps) (writeStatement statement ++ rest) =
        (statements? fuel rest).map (statement :: ·) := by
  cases statement with
  | pair path value =>
    obtain ⟨c, chars, hc, hpath⟩ := writePath_eq_cons h.1
    have hread := statement?_pair h.1 h.2 rest
    rw [writeStatement, hpath] at hread ⊢
    exact ⟨1, by simp, fun fuel => statements?_statement (.inl hc) hread⟩
  | header path =>
    have hread := statement?_header h rest
    refine ⟨2, by simp [writeStatement], fun fuel => ?_⟩
    rw [writeStatement, List.append_assoc, List.append_assoc]
    exact (statements?_newline _ _).trans (statements?_statement (.inr rfl) hread)
  | arrayHeader path =>
    have hread := statement?_arrayHeader h rest
    refine ⟨2, by simp [writeStatement], fun fuel => ?_⟩
    rw [writeStatement, List.append_assoc, List.append_assoc]
    exact (statements?_newline _ _).trans (statements?_statement (.inr rfl) hread)

/-- **Statements are read as they were written.** -/
theorem statements?_write (h : ∀ statement ∈ stmts, statement.Plain)
    (hfuel : (stmts.flatMap writeStatement).length < fuel) :
    statements? fuel (stmts.flatMap writeStatement) = some stmts := by
  induction stmts generalizing fuel with
  | nil =>
    obtain ⟨fuel, rfl⟩ : ∃ n, fuel = n + 1 := ⟨fuel - 1, by simp at hfuel; omega⟩
    rfl
  | cons statement stmts ih =>
    rw [List.flatMap_cons] at hfuel ⊢
    rw [List.length_append] at hfuel
    obtain ⟨steps, hsteps, hread⟩ := statements?_cons (h statement (List.mem_cons_self ..))
      (stmts.flatMap writeStatement)
    obtain ⟨fuel, rfl⟩ : ∃ n, fuel = n + steps := ⟨fuel - steps, by omega⟩
    rw [hread, ih (fun s hs => h s (List.mem_cons_of_mem _ hs)) (by omega)]
    rfl

/-- The text of a list of statements does not begin with a byte order mark. -/
theorem dropMark_write (h : ∀ statement ∈ stmts, statement.Plain) :
    dropMark (stmts.flatMap writeStatement) = stmts.flatMap writeStatement := by
  cases stmts with
  | nil => rfl
  | cons statement stmts =>
    cases statement with
    | pair path value =>
      obtain ⟨c, chars, hc, hpath⟩ := writePath_eq_cons (h _ (List.mem_cons_self ..)).1
      have hmark := (isBareChar_ne hc).2.2.2.2.2.2
      rw [List.flatMap_cons, writeStatement, hpath]
      simp [dropMark, hmark]
    | header path | arrayHeader path => simp [writeStatement, dropMark]

theorem parse?_write (h : ∀ statement ∈ stmts, statement.Plain) :
    parse? (stmts.flatMap writeStatement) = Document.ofStatements? stmts := by
  rw [parse?, dropMark_write h, statements?_write h (Nat.lt_succ_self _)]
  rfl

end Decomment.Toml
