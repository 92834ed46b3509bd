import Decomment.Proofs.Text.Search

/-!
# Offsets in bytes

A text is kept in UTF-8, and a place in it is given by the number of bytes before it. Only some
numbers are places: `from?` and `upTo?` cut a text at an offset and give nothing where the offset is
past the end or inside of a character (`from?_eq_some_iff`). `bytesBetween?` gives the bytes between
two offsets, in the right order and up to the end.
-/

namespace Decomment.Text

/-- The number of bytes of a text. -/
def size (text : List Char) : Nat :=
  (String.ofList text).utf8ByteSize

@[simp] theorem size_nil : size [] = 0 := rfl

@[simp] theorem size_cons (c : Char) (text : List Char) :
    size (c :: text) = c.utf8Size + size text := by
  rw [size, String.ofList_cons, String.utf8ByteSize_append, String.utf8ByteSize_singleton]
  rfl

@[simp] theorem size_append (text other : List Char) :
    size (text ++ other) = size text + size other := by
  rw [size, String.ofList_append, String.utf8ByteSize_append]
  rfl

@[simp] theorem size_toList (token : String) : size token.toList = token.utf8ByteSize := by
  rw [size, String.ofList_toList]

/-- Every character has at least one byte. -/
theorem size_pos {text : List Char} (h : text ≠ []) : 0 < size text := by
  obtain ⟨c, rest, rfl⟩ := List.exists_cons_of_ne_nil h
  have := c.utf8Size_pos
  rw [size_cons]
  omega

/-! ## Cutting at an offset -/

/-- The text from an offset on. -/
def from? : (offset : Nat) → List Char → Option (List Char)
  | 0, text => some text
  | _ + 1, [] => none
  | offset + 1, c :: text =>
    if c.utf8Size ≤ offset + 1 then from? (offset + 1 - c.utf8Size) text else none

/-- The text up to an offset. -/
def upTo? : (offset : Nat) → List Char → Option (List Char)
  | 0, _ => some []
  | _ + 1, [] => none
  | offset + 1, c :: text =>
    if c.utf8Size ≤ offset + 1 then (upTo? (offset + 1 - c.utf8Size) text).map (c :: ·) else none

@[simp] theorem from?_size (before rest : List Char) :
    from? (size before) (before ++ rest) = some rest := by
  induction before with
  | nil => rw [size_nil, List.nil_append, from?]
  | cons c before ih =>
    have hpos := c.utf8Size_pos
    obtain ⟨n, hn⟩ : ∃ n, size (c :: before) = n + 1 := ⟨size (c :: before) - 1, by
      rw [size_cons]; omega⟩
    have hsize : n + 1 - c.utf8Size = size before := by rw [← hn, size_cons]; omega
    rw [hn, List.cons_append, from?, if_pos (by rw [← hn, size_cons]; omega), hsize, ih]

@[simp] theorem upTo?_size (before rest : List Char) :
    upTo? (size before) (before ++ rest) = some before := by
  induction before with
  | nil => rw [size_nil, upTo?]
  | cons c before ih =>
    have hpos := c.utf8Size_pos
    obtain ⟨n, hn⟩ : ∃ n, size (c :: before) = n + 1 := ⟨size (c :: before) - 1, by
      rw [size_cons]; omega⟩
    have hsize : n + 1 - c.utf8Size = size before := by rw [← hn, size_cons]; omega
    rw [hn, List.cons_append, upTo?, if_pos (by rw [← hn, size_cons]; omega), hsize, ih,
      Option.map_some]

/-- A text can be cut at the offsets where a character begins or the text ends, and at no other. -/
theorem from?_eq_some_iff {offset : Nat} {text rest : List Char} :
    from? offset text = some rest ↔ ∃ before, text = before ++ rest ∧ offset = size before := by
  constructor
  · intro h
    fun_induction from? offset text with
    | case1 text =>
      cases h
      exact ⟨[], rfl, rfl⟩
    | case2 => cases h
    | case3 offset c text hc ih =>
      obtain ⟨before, rfl, hbefore⟩ := ih h
      exact ⟨c :: before, rfl, by rw [size_cons]; omega⟩
    | case4 => cases h
  · rintro ⟨before, rfl, rfl⟩
    exact from?_size before rest

/-- The offsets at which a text can be cut are the valid positions of a string. -/
theorem isValid_of_from? {offset : Nat} {text rest : List Char}
    (h : from? offset text = some rest) :
    (String.Pos.Raw.mk offset).IsValid (String.ofList text) := by
  obtain ⟨before, rfl, rfl⟩ := from?_eq_some_iff.1 h
  rw [String.Pos.Raw.isValid_iff_exists_append]
  exact ⟨String.ofList before, String.ofList rest, String.ofList_append, rfl⟩

/-! ## Bytes -/

/-- The bytes of a text. -/
def bytes (text : List Char) : List UInt8 :=
  text.flatMap String.utf8EncodeChar

/-- The bytes from one offset up to another. -/
def bytesBetween? (start stop : Nat) (text : List Char) : Option (List UInt8) :=
  if start ≤ stop ∧ stop ≤ size text then some (((bytes text).take stop).drop start) else none

theorem bytes_append (text other : List Char) : bytes (text ++ other) = bytes text ++ bytes other :=
  List.flatMap_append

theorem length_bytes (text : List Char) : (bytes text).length = size text := by
  induction text with
  | nil => rfl
  | cons c text ih =>
    rw [bytes, List.flatMap_cons, ← bytes, List.length_append, ih, String.length_utf8EncodeChar,
      size_cons]

/-- A byte of the upper half is not a line feed. -/
theorem ofNat_ne_newline {n m : Nat} (hm : 128 ≤ m) (hlt : n + m < 256) :
    UInt8.ofNat (n + m) ≠ 10 := by
  intro h
  have hnat : (n + m) % 256 = 10 := by simpa using congrArg UInt8.toNat h
  omega

/-- The byte of a line feed occurs in no other character. -/
theorem count_newline_utf8EncodeChar (c : Char) :
    (String.utf8EncodeChar c).count 10 = if c = '\n' then 1 else 0 := by
  have hiff : c = '\n' ↔ c.val.toNat = 10 := by
    rw [← Char.toNat_inj]
    exact Iff.rfl
  rw [String.utf8EncodeChar]
  by_cases h1 : c.val.toNat ≤ 0x7f
  · rw [if_pos h1, List.count_singleton]
    have hbyte : UInt8.ofNat c.val.toNat = 10 ↔ c.val.toNat = 10 := by
      rw [← UInt8.toNat_inj, UInt8.toNat_ofNat']
      show c.val.toNat % 256 = 10 ↔ _
      omega
    simp only [beq_iff_eq, hbyte, hiff]
  have hne : c ≠ '\n' := by
    rw [ne_eq, hiff]
    omega
  -- the remaining forms have only bytes of the upper half
  rw [if_neg h1, if_neg hne, List.count_eq_zero]
  split
  · simp only [List.mem_cons, List.not_mem_nil, or_false, not_or]
    exact ⟨(ofNat_ne_newline (by omega) (by omega)).symm,
      (ofNat_ne_newline (by omega) (by omega)).symm⟩
  split
  · simp only [List.mem_cons, List.not_mem_nil, or_false, not_or]
    exact ⟨(ofNat_ne_newline (by omega) (by omega)).symm,
      (ofNat_ne_newline (by omega) (by omega)).symm, (ofNat_ne_newline (by omega) (by omega)).symm⟩
  · simp only [List.mem_cons, List.not_mem_nil, or_false, not_or]
    exact ⟨(ofNat_ne_newline (by omega) (by omega)).symm,
      (ofNat_ne_newline (by omega) (by omega)).symm, (ofNat_ne_newline (by omega) (by omega)).symm,
      (ofNat_ne_newline (by omega) (by omega)).symm⟩

/-- The line breaks of a text can be counted in its bytes. -/
theorem count_newline_bytes (text : List Char) : (bytes text).count 10 = countBreaks text := by
  induction text with
  | nil => rfl
  | cons c text ih =>
    rw [bytes, List.flatMap_cons, ← bytes, List.count_append, ih, count_newline_utf8EncodeChar,
      countBreaks, countBreaks, List.count_cons]
    simp only [beq_iff_eq]
    omega

/-- The bytes between two places of a text. -/
theorem bytesBetween?_size (before middle rest : List Char) :
    bytesBetween? (size before) (size (before ++ middle)) (before ++ middle ++ rest) =
      some (bytes middle) := by
  rw [bytesBetween?, if_pos (by simp only [size_append]; omega), bytes_append,
    List.take_left' (length_bytes _), bytes_append, List.drop_left' (length_bytes _)]

end Decomment.Text
