import Decomment.Proofs.Registry.OrderedMap

/-!
# Which of several languages is found

Several languages may list one extension or one interpreter. The one found is the last in the
registry, and a language that is registered again keeps its old place there. So what counts is when
a name was registered *first* (`byClue?_eq_some_iff_latest`), and not when it was registered last.
The two agree unless a language that lists the clue as well was known before the one found, and was
registered again after it.
-/

namespace Decomment

/-! ## Order of first occurrence -/

section
variable {names : List String} {a b : String}

/-- Dropping repetitions keeps the order in which names come up first. -/
theorem idxOf_eraseDups_lt (h : names.idxOf a < names.idxOf b) :
    names.eraseDups.idxOf a < names.eraseDups.idxOf b := by
  have ha : a ∈ names := by
    rw [← List.idxOf_lt_length_iff]
    exact Nat.lt_of_lt_of_le h List.idxOf_le_length
  obtain ⟨earlier, later, rfl, hnew⟩ := List.eq_append_cons_of_mem ha
  -- up to `a` everything is there but `b`
  have hb : b ∉ earlier ++ [a] := by
    intro hb
    have hlt := List.idxOf_lt_length_iff.2 hb
    rw [List.append_cons, List.idxOf_append_of_mem hb,
      List.idxOf_append_of_mem (by simp : a ∈ earlier ++ [a]), List.idxOf_append_of_notMem hnew,
      List.idxOf_cons_self] at h
    rw [List.length_append, List.length_singleton] at hlt
    omega
  rw [List.append_cons, List.eraseDups_append]
  have hmem : a ∈ (earlier ++ [a]).eraseDups := List.mem_eraseDups.2 (by simp)
  rw [List.idxOf_append_of_mem hmem,
    List.idxOf_append_of_notMem (fun h => hb (List.mem_eraseDups.1 h))]
  exact Nat.lt_of_lt_of_le (List.idxOf_lt_length_iff.2 hmem) (Nat.le_add_right _ _)

theorem idxOf_eraseDups_le_iff (ha : a ∈ names) :
    names.eraseDups.idxOf a ≤ names.eraseDups.idxOf b ↔ names.idxOf a ≤ names.idxOf b := by
  constructor
  · intro h
    by_contra hlt
    have := idxOf_eraseDups_lt (Nat.lt_of_not_le hlt)
    omega
  · intro h
    rcases Nat.lt_or_eq_of_le h with hlt | heq
    · exact Nat.le_of_lt (idxOf_eraseDups_lt hlt)
    · rw [(List.idxOf_inj ha).1 heq]

end

section
variable {entries : List Language} {p : Language → Bool} {found : Language}

/-- Of entries with distinct names, no entry with a property stands behind the last one with it. -/
theorem idxOf_le_of_find?_reverse (hnodup : (entries.map Language.id).Nodup)
    (hfind : entries.reverse.find? p = some found) {other : Language} (hother : other ∈ entries)
    (hp : p other = true) :
    (entries.map Language.id).idxOf other.id ≤ (entries.map Language.id).idxOf found.id := by
  obtain ⟨-, later, earlier, hsplit, hlater⟩ := List.find?_eq_some_iff_append.1 hfind
  obtain rfl : entries = earlier.reverse ++ found :: later.reverse := by
    rw [← List.reverse_reverse entries, hsplit]
    simp
  rw [List.map_append, List.map_cons] at hnodup ⊢
  have hnew : found.id ∉ earlier.reverse.map Language.id := fun hmem =>
    (List.nodup_append.1 hnodup).2.2 _ hmem _ (List.mem_cons_self ..) rfl
  rw [List.idxOf_append_of_notMem hnew, List.idxOf_cons_self]
  rcases List.mem_append.1 hother with hother | hother
  · have hmem : other.id ∈ earlier.reverse.map Language.id := List.mem_map_of_mem hother
    rw [List.idxOf_append_of_mem hmem]
    exact Nat.le_of_lt (List.idxOf_lt_length_iff.2 hmem)
  · rcases List.mem_cons.1 hother with rfl | hother
    · rw [List.idxOf_append_of_notMem hnew, List.idxOf_cons_self]
    · have := hlater other (List.mem_reverse.1 hother)
      simp [hp] at this

/-- Of entries with distinct names, the last one with a property is the one whose name stands
furthest back among the names of those with it. -/
theorem find?_reverse_eq_some_iff (hnodup : (entries.map Language.id).Nodup) :
    entries.reverse.find? p = some found ↔
      found ∈ entries ∧ p found = true ∧ ∀ other ∈ entries, p other = true →
        (entries.map Language.id).idxOf other.id ≤ (entries.map Language.id).idxOf found.id := by
  constructor
  · intro hfind
    exact ⟨List.mem_reverse.1 (List.mem_of_find?_eq_some hfind), List.find?_some hfind,
      fun other hother hp => idxOf_le_of_find?_reverse hnodup hfind hother hp⟩
  · rintro ⟨hmem, hp, hgreatest⟩
    cases hfind : entries.reverse.find? p with
    | none =>
      have := List.find?_eq_none.1 hfind found (List.mem_reverse.2 hmem)
      exact absurd hp this
    | some last =>
      have hlast := List.mem_reverse.1 (List.mem_of_find?_eq_some hfind)
      have hle := hgreatest last hlast (List.find?_some hfind)
      have hge := idxOf_le_of_find?_reverse hnodup hfind hmem hp
      have hid := (List.idxOf_inj (List.mem_map_of_mem hmem)).1 (Nat.le_antisymm hge hle)
      rw [List.inj_on_of_nodup_map hnodup hmem hlast hid]

end

/-- What tells the language of a file. -/
inductive Clue
  | extension (ext : String)
  | interpreter (name : String)

/-- Whether a language lists a clue. An extension may be given in any case and without its dot. -/
def Clue.fits : Clue → Language → Bool
  | .extension ext, language => language.extensions.contains (Language.dotted ext)
  | .interpreter name, language => language.interpreters.contains name

namespace Registry

variable {r : Registry} {clue : Clue} {languages : List Language} {found : Language}

/-- The language that a clue leads to. -/
def byClue? (r : Registry) : Clue → Option Language
  | .extension ext => r.byExtension? ext
  | .interpreter name => r.byInterpreter? name

theorem byClue?_eq (r : Registry) (clue : Clue) :
    r.byClue? clue = r.languages.reverse.find? clue.fits := by
  cases clue <;> rfl

/-! ## First and last registration -/

/-- The number of the call, counted from one, in which a name was registered first. -/
def firstCall (history : List Language) (id : String) : Nat :=
  (history.map Language.id).idxOf id + 1

/-- The number of the call, counted from one, in which a name was registered last. -/
def lastCall (history : List Language) (id : String) : Nat :=
  history.length - (history.map Language.id).reverse.idxOf id

/-- Of the languages of a registry that list a clue, `found` is the one with the latest call. -/
structure Latest (r : Registry) (clue : Clue) (call : String → Nat) (found : Language) : Prop where
  mem : found ∈ r.languages
  fits : clue.fits found = true
  latest : ∀ other ∈ r.languages, clue.fits other = true → call other.id ≤ call found.id

/-- The known languages count as registered in their order. -/
theorem ids_eq_eraseDups (h : builtin.insertAll languages = .ok r) :
    r.ids = ((Language.builtin ++ languages).map Language.id).eraseDups := by
  obtain ⟨hsound, rfl⟩ := insertAll_eq_ok_iff.1 h
  have hids := (maps_registerAll wellFormed_builtin languages).ids
  have hknown : (Language.builtin.map Language.id).eraseDups = builtin.ids := by decide
  have hsame : Language.builtin.map Language.id = builtin.ids := by decide
  rw [hids, accepted_eq_self hsound, List.map_append, List.eraseDups_append, hknown, hsame,
    List.removeAll]
  simp

theorem ids_nodup_of_insertAll (h : builtin.insertAll languages = .ok r) : r.ids.Nodup := by
  obtain ⟨-, rfl⟩ := insertAll_eq_ok_iff.1 h
  exact (wellFormed_builtin.registerAll languages).ids_nodup

theorem mem_history_of_mem (h : builtin.insertAll languages = .ok r) {language : Language}
    (hmem : language ∈ r.languages) :
    language.id ∈ (Language.builtin ++ languages).map Language.id := by
  have hid : language.id ∈ r.ids := List.mem_map_of_mem hmem
  rwa [ids_eq_eraseDups h, List.mem_eraseDups] at hid

/-- The language found is the one whose name was registered first the latest. -/
theorem byClue?_eq_some_iff_latest (h : builtin.insertAll languages = .ok r) :
    r.byClue? clue = some found ↔
      Latest r clue (firstCall (Language.builtin ++ languages)) found := by
  have horder : ∀ other ∈ r.languages, (r.ids.idxOf other.id ≤ r.ids.idxOf found.id ↔
      firstCall (Language.builtin ++ languages) other.id ≤
        firstCall (Language.builtin ++ languages) found.id) := by
    intro other hother
    rw [ids_eq_eraseDups h, idxOf_eraseDups_le_iff (mem_history_of_mem h hother), firstCall,
      firstCall, Nat.add_le_add_iff_right]
  rw [byClue?_eq, find?_reverse_eq_some_iff (ids_nodup_of_insertAll h)]
  constructor
  · rintro ⟨hmem, hfits, hlatest⟩
    exact ⟨hmem, hfits, fun other hother hp => (horder other hother).1 (hlatest other hother hp)⟩
  · rintro ⟨hmem, hfits, hlatest⟩
    exact ⟨hmem, hfits, fun other hother hp => (horder other hother).2 (hlatest other hother hp)⟩

theorem byClue?_eq_none_iff :
    r.byClue? clue = none ↔ ∀ other ∈ r.languages, clue.fits other = false := by
  rw [byClue?_eq, List.find?_eq_none]
  simp

/-! ## Where the two orders differ -/

/-- One language was known before another, and was registered again after it. -/
def Overtakes (history : List Language) (other found : Language) : Prop :=
  firstCall history other.id < firstCall history found.id ∧
    lastCall history found.id < lastCall history other.id

/-- The language found is the one registered last, unless one that lists the clue as well overtakes
it. -/
theorem latest_lastCall_iff (h : builtin.insertAll languages = .ok r)
    (hfound : r.byClue? clue = some found) :
    Latest r clue (lastCall (Language.builtin ++ languages)) found ↔
      ∀ other ∈ r.languages, clue.fits other = true →
        ¬ Overtakes (Language.builtin ++ languages) other found := by
  obtain ⟨hmem, hfits, hfirst⟩ := (byClue?_eq_some_iff_latest h).1 hfound
  constructor
  · intro hlatest other hother hp hovertakes
    have hle := hlatest.latest other hother hp
    have hlt := hovertakes.2
    omega
  · intro hnone
    refine ⟨hmem, hfits, fun other hother hp => ?_⟩
    by_contra hlt
    refine hnone other hother hp ⟨Nat.lt_of_le_of_ne (hfirst other hother hp) ?_, by omega⟩
    intro heq
    have hid := (List.idxOf_inj (mem_history_of_mem h hother)).1 (Nat.add_right_cancel heq)
    rw [hid] at hlt
    exact hlt (Nat.le_refl _)

/-- The language registered last is found by all that it lists, if its name was new. -/
theorem byClue?_of_new {earlier : List Language} {language : Language}
    (h : builtin.insertAll (earlier ++ [language]) = .ok r)
    (hnew : language.id ∉ (Language.builtin ++ earlier).map Language.id)
    (hfits : clue.fits language.normalize = true) :
    r.byClue? clue = some language.normalize := by
  have hmem : language.normalize ∈ r.languages := by
    obtain ⟨hsound, rfl⟩ := insertAll_eq_ok_iff.1 h
    rw [registerAll, List.foldl_append, List.foldl_cons, List.foldl_nil,
      register_of_sound (hsound language (by simp))]
    exact mem_put_self _ _
  refine (byClue?_eq_some_iff_latest h).2 ⟨hmem, hfits, fun other hother _ => ?_⟩
  have hlt := List.idxOf_lt_length_iff.2 (mem_history_of_mem h hother)
  rw [firstCall, firstCall, Nat.add_le_add_iff_right, Language.id_normalize]
  rw [← List.append_assoc, List.map_append] at hlt ⊢
  rw [List.idxOf_append_of_notMem hnew, List.map_singleton, List.idxOf_cons_self]
  rw [List.map_singleton, List.length_append, List.length_singleton] at hlt
  omega

/-- **Of several languages that list a clue, the one whose name was registered first the latest is
found.** It is the one that was registered last exactly if none of the others was known before it
and registered again after it. In particular a language under a new name is found by all that it
lists. -/
theorem found_by_first_call (h : builtin.insertAll languages = .ok r) (clue : Clue) :
    (r.byClue? clue = none ↔ ∀ other ∈ r.languages, clue.fits other = false) ∧
      (∀ found, r.byClue? clue = some found ↔
        Latest r clue (firstCall (Language.builtin ++ languages)) found) ∧
      (∀ found, r.byClue? clue = some found →
        (Latest r clue (lastCall (Language.builtin ++ languages)) found ↔
          ∀ other ∈ r.languages, clue.fits other = true →
            ¬ Overtakes (Language.builtin ++ languages) other found)) ∧
      ∀ earlier language, languages = earlier ++ [language] →
        language.id ∉ (Language.builtin ++ earlier).map Language.id →
          clue.fits language.normalize = true → r.byClue? clue = some language.normalize := by
  refine ⟨byClue?_eq_none_iff, fun found => byClue?_eq_some_iff_latest h,
    fun found hfound => latest_lastCall_iff h hfound, ?_⟩
  rintro earlier language rfl hnew hfits
  exact byClue?_of_new h hnew hfits

/-- A language under a new name takes over an extension of the first known language. -/
theorem found_by_first_call_matlab :
    builtin.insertAll [{ id := "matlab", extensions := [".m", "C"] }] =
        .ok (builtin.registerAll [{ id := "matlab", extensions := [".m", "C"] }]) ∧
      (builtin.registerAll [{ id := "matlab", extensions := [".m", "C"] }]).byExtension? "c" =
        some (Language.normalize { id := "matlab", extensions := [".m", "C"] }) := by
  have h : builtin.insertAll [{ id := "matlab", extensions := [".m", "C"] }] =
      .ok (builtin.registerAll [{ id := "matlab", extensions := [".m", "C"] }]) := rfl
  exact ⟨h, (found_by_first_call h (.extension "c")).2.2.2 [] _ rfl (by decide)
    (by decide +kernel)⟩

/-- The shell, registered again for batch files. -/
def shellForBatch : Language := { id := "shell", extensions := ["BAT"] }

/-- A language that is registered again keeps its place. No language that lists the extension was
registered after this one, and yet another one is found. -/
theorem override_keeps_its_place :
    ∃ r, builtin.insertAll [shellForBatch] = .ok r ∧
      r.byExtension? ".bat" = some Language.batch.normalize ∧
      ¬ Latest r (.extension ".bat") (lastCall (Language.builtin ++ [shellForBatch]))
        Language.batch.normalize := by
  refine ⟨builtin.registerAll [shellForBatch], rfl, by decide +kernel, fun h => ?_⟩
  have hmem : shellForBatch.normalize ∈ (builtin.registerAll [shellForBatch]).languages := by
    rw [registerAll_cons, registerAll_nil, register_of_sound (by decide)]
    exact mem_put_self _ _
  have hle := h.latest shellForBatch.normalize hmem (by decide +kernel)
  exact absurd hle (by decide)

end Registry

end Decomment
