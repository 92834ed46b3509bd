import Decomment.Proofs.Lexis.Sound

/-!
# Longest tokens first

`Lexis.longestFirst` orders every list by falling length of its tokens in UTF-8
(`ordered_longestFirst`), and keeps the order among items of one length (`sortsByLength_byLength`).
Lists that are in order stay as they are (`Falling.byLength_eq`). What the order is good for: the
first item with some property is a longest one with it (`Falling.le_of_find?`).
-/

namespace Decomment.Lexis

section
variable {α : Type} {token : α → String} {items : List α}

variable (token) in
/-- Items in the order of falling length of their tokens in UTF-8. -/
def Falling (items : List α) : Prop :=
  items.Pairwise fun a b => (token b).utf8ByteSize ≤ (token a).utf8ByteSize

/-- An item is put where it keeps the order. -/
theorem Falling.place (h : Falling token items) (item : α) :
    Falling token (Lexis.place token item items) := by
  induction items with
  | nil => exact List.pairwise_singleton _ _
  | cons other items ih =>
    obtain ⟨hother, hitems⟩ := List.pairwise_cons.1 h
    rw [Lexis.place]
    split
    · next hle =>
      refine List.pairwise_cons.2 ⟨fun b hb => ?_, h⟩
      rcases List.mem_cons.1 hb with rfl | hb
      · exact hle
      · exact Nat.le_trans (hother b hb) hle
    · next hlt =>
      refine List.pairwise_cons.2 ⟨fun b hb => ?_, ih hitems⟩
      rcases List.mem_cons.1 ((place_perm token item items).mem_iff.1 hb) with rfl | hb
      · omega
      · exact hother b hb

variable (token items) in
theorem falling_byLength : Falling token (byLength token items) := by
  induction items with
  | nil => exact .nil
  | cons item items ih => exact ih.place item

/-- The first item with a property is a longest one with it. -/
theorem Falling.le_of_find? (h : Falling token items) {p : α → Bool} {a : α}
    (hfind : items.find? p = some a) {b : α} (hb : b ∈ items) (hp : p b = true) :
    (token b).utf8ByteSize ≤ (token a).utf8ByteSize := by
  obtain ⟨-, earlier, later, rfl, hearlier⟩ := List.find?_eq_some_iff_append.1 hfind
  rcases List.mem_append.1 hb with hb | hb
  · have := hearlier b hb
    simp [hp] at this
  · rcases List.mem_cons.1 hb with rfl | hb
    · exact Nat.le_refl _
    · exact (List.pairwise_cons.1 (List.pairwise_append.1 h).2.1).1 b hb

variable (token) in
/-- The items whose tokens have a certain length in UTF-8. -/
def ofLength (n : Nat) (items : List α) : List α :=
  items.filter fun item => (token item).utf8ByteSize == n

/-- An item that is put in its place goes before those of the same length. -/
theorem ofLength_place (n : Nat) (item : α) (items : List α) :
    ofLength token n (Lexis.place token item items) = ofLength token n (item :: items) := by
  induction items with
  | nil => rfl
  | cons other items ih =>
    rw [Lexis.place]
    split
    · rfl
    · next hlonger =>
      rw [ofLength, List.filter_cons, ← ofLength, ih]
      -- the other item is longer, so one of the two at most has the length looked for
      by_cases hother : (token other).utf8ByteSize = n
      · have hitem : ¬ (token item).utf8ByteSize = n := by omega
        simp [ofLength, hother, hitem]
      · simp [ofLength, hother, List.filter_cons]

variable (token) in
/-- The second list holds the items of the first by falling length of their tokens in UTF-8, and
those of one length in the order in which they were. -/
structure SortsByLength (items sorted : List α) : Prop where
  perm : sorted.Perm items
  falling : Falling token sorted
  stable : ∀ n, ofLength token n sorted = ofLength token n items

variable (token items) in
/-- **Ordering by length is a stable sort.** -/
theorem sortsByLength_byLength : SortsByLength token items (byLength token items) := by
  refine ⟨byLength_perm token items, falling_byLength token items, fun n => ?_⟩
  induction items with
  | nil => rfl
  | cons item items ih =>
    have hcons : byLength token (item :: items) = Lexis.place token item (byLength token items) :=
      rfl
    rw [hcons, ofLength_place, ofLength, ofLength, List.filter_cons, List.filter_cons, ← ofLength,
      ← ofLength, ih]

/-- Items that are in order stay where they are. -/
theorem Falling.byLength_eq (h : Falling token items) : byLength token items = items := by
  induction items with
  | nil => rfl
  | cons item items ih =>
    obtain ⟨hitem, hitems⟩ := List.pairwise_cons.1 h
    have hcons : byLength token (item :: items) = Lexis.place token item (byLength token items) :=
      rfl
    rw [hcons, ih hitems]
    cases items with
    | nil => rfl
    | cons other items => rw [Lexis.place, if_pos (hitem other (List.mem_cons_self ..))]

end

/-- Every list has its longest tokens first. -/
structure Ordered (lexis : Lexis) : Prop where
  lineMarkers : Falling LineMarker.marker lexis.lineMarkers
  blocks : Falling BlockPair.start lexis.blocks
  quotes : Falling Quote.delimiter lexis.quotes
  rawQuotes : Falling Quote.delimiter lexis.rawQuotes

theorem ordered_longestFirst (lexis : Lexis) : lexis.longestFirst.Ordered :=
  ⟨falling_byLength _ _, falling_byLength _ _, falling_byLength _ _, falling_byLength _ _⟩

/-- Rules whose lists have their longest tokens first stay as they are. -/
theorem Ordered.longestFirst_eq {lexis : Lexis} (h : lexis.Ordered) : lexis.longestFirst = lexis := by
  rw [longestFirst, h.lineMarkers.byLength_eq, h.blocks.byLength_eq, h.quotes.byLength_eq,
    h.rawQuotes.byLength_eq]

end Decomment.Lexis
