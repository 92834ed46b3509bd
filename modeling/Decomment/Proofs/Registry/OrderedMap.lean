import Decomment.Proofs.Registry.History
import Decomment.Settings

/-!
# A registry is a map that keeps the order of its names

What a registry holds can be told from the languages that were put into it, without the registry:
the names in the order in which they came up first, and for each name the language that came last
(`Maps`). Languages with a flaw are refused by the call that brings them and leave no trace
(`registerAll_eq_putAll`).

The registry of some settings is the same map over the known languages, if no language of theirs is
refused (`insertAll_eq_ok_iff`).
-/

namespace Decomment.Registry

variable {r base after : Registry} {language : Language} {languages inserted : List Language}

/-! ## The answer to a call -/

/-- How a call is answered: it fails with the first flaw of the rules if they have any, and then
nothing is changed. -/
structure Answers (r : Registry) (language : Language) : Prop where
  error_iff : ∀ e, (r.register language).1 = .error e ↔
    ∃ flaw, language.lexis.flaw? = some flaw ∧ e = .invalidLexis language.id flaw
  unchanged : ∀ e, (r.register language).1 = .error e → (r.register language).2 = r

theorem answers (r : Registry) (language : Language) : Answers r language := by
  by_cases sound : language.lexis.Sound
  · have hflaw : language.lexis.flaw? = none := sound
    constructor <;> simp [register_of_sound sound, hflaw]
  · obtain ⟨flaw, hflaw⟩ := exists_flaw sound
    constructor <;> simp [register_of_flaw hflaw, hflaw, eq_comm]

/-! ## The languages that are put in -/

/-- The languages that no call refuses. -/
def accepted (languages : List Language) : List Language :=
  languages.filter (·.lexis.Sound)

theorem accepted_eq_self (h : ∀ language ∈ languages, language.lexis.Sound) :
    accepted languages = languages :=
  List.filter_eq_self.2 fun language hlanguage => decide_eq_true (h language hlanguage)

/-- Puts in languages one after the other, each in the form in which it is kept. -/
def putAll (inserted entries : List Language) : List Language :=
  inserted.foldl (fun entries language => put language.normalize entries) entries

/-- Languages that are refused leave no trace. -/
theorem registerAll_eq_putAll (r : Registry) (languages : List Language) :
    r.registerAll languages = ⟨putAll (accepted languages) r.languages⟩ := by
  induction languages generalizing r with
  | nil => rfl
  | cons language languages ih =>
    rw [registerAll_cons, ih, accepted, accepted, List.filter_cons]
    by_cases sound : language.lexis.Sound
    · rw [register_of_sound sound, if_pos (decide_eq_true sound)]
      rfl
    · obtain ⟨flaw, hflaw⟩ := exists_flaw sound
      rw [register_of_flaw hflaw, if_neg (by simpa using sound)]

/-- Names not known before follow the known ones, in the order in which they come up first. -/
theorem map_id_putAll (inserted entries : List Language) :
    (putAll inserted entries).map Language.id =
      entries.map Language.id ++
        ((inserted.map Language.id).filter (· ∉ entries.map Language.id)).eraseDups := by
  induction inserted generalizing entries with
  | nil => simp [putAll]
  | cons language inserted ih =>
    have hcons : putAll (language :: inserted) entries =
        putAll inserted (put language.normalize entries) := rfl
    rw [hcons, ih, map_id_put, Language.id_normalize, List.map_cons]
    split
    · next hknown => rw [List.filter_cons_of_neg (by simpa using hknown)]
    · next hnew =>
      rw [List.filter_cons_of_pos (by simpa using hnew), List.eraseDups_cons, List.filter_filter,
        List.append_assoc, List.singleton_append]
      congr 3
      refine List.filter_congr fun id _ => ?_
      rw [Bool.eq_iff_iff]
      simp [or_comm]

/-- Under a name stands the language that was put in last, or else what stood there before. -/
theorem find?_putAll (inserted entries : List Language) (id : String) :
    (putAll inserted entries).find? (·.id == id) =
      ((inserted.findRev? (·.id == id)).map Language.normalize).or
        (entries.find? (·.id == id)) := by
  induction inserted generalizing entries with
  | nil => rfl
  | cons language inserted ih =>
    have hcons : putAll (language :: inserted) entries =
        putAll inserted (put language.normalize entries) := rfl
    rw [hcons, ih, find?_put, Language.id_normalize, List.findRev?]
    cases inserted.findRev? (·.id == id) with
    | some last => rfl
    | none =>
      by_cases hid : language.id = id
      · simp [hid]
      · simp [hid]

/-! ## What a registry holds -/

/-- What a registry holds after languages were put into `base`: the names of the base, and then the
new ones in the order in which they came up first, none of them twice; under each name the language
that was put in last, in the form in which it is kept, or else the one of the base; and nothing
under other names. -/
structure Maps (base : Registry) (inserted : List Language) (r : Registry) : Prop where
  ids : r.ids = base.ids ++ ((inserted.map Language.id).filter (· ∉ base.ids)).eraseDups
  ids_nodup : r.ids.Nodup
  get : ∀ id, r.get id =
    match inserted.findRev? (·.id == id), base.get? id with
    | some language, _ => .ok language.normalize
    | none, some entry => .ok entry
    | none, none => .error (.unknownLanguage id)
  lookup : ∀ id, r.lookup id =
    match inserted.findRev? (·.id == id), base.get? id with
    | some language, _ => .ok language.lexis.longestFirst
    | none, some entry => .ok entry.lexis
    | none, none => .error (.unknownLanguage id)

theorem maps_registerAll (hbase : base.WellFormed) (languages : List Language) :
    Maps base (accepted languages) (base.registerAll languages) := by
  have hget? : ∀ id, (base.registerAll languages).get? id =
      (((accepted languages).findRev? (·.id == id)).map Language.normalize).or (base.get? id) := by
    intro id
    rw [registerAll_eq_putAll]
    exact find?_putAll (accepted languages) base.languages id
  refine ⟨?_, (hbase.registerAll languages).ids_nodup, fun id => ?_, fun id => ?_⟩
  · rw [registerAll_eq_putAll]
    exact map_id_putAll (accepted languages) base.languages
  · rw [get, hget?]
    cases (accepted languages).findRev? (·.id == id) with
    | some language => rfl
    | none => cases base.get? id <;> rfl
  · rw [Registry.lookup, get, hget?]
    cases (accepted languages).findRev? (·.id == id) with
    | some language => rfl
    | none => cases base.get? id <;> rfl

/-! ## Calls up to the first that fails -/

/-- Calls up to the first that fails come through to the end when no language is refused, and then
they have done what all calls do. -/
theorem insertAll_eq_ok_iff :
    r.insertAll languages = .ok after ↔
      (∀ language ∈ languages, language.lexis.Sound) ∧ after = r.registerAll languages := by
  induction languages generalizing r with
  | nil => simp [insertAll, pure, Except.pure, eq_comm]
  | cons language languages ih =>
    have hcons : r.insertAll (language :: languages) =
        (r.insert language).bind (·.insertAll languages) := rfl
    rw [hcons, List.forall_mem_cons, registerAll_cons]
    by_cases sound : language.lexis.Sound
    · rw [insert_of_sound sound, register_of_sound sound]
      simp only [Except.bind, ih, sound, true_and]
    · obtain ⟨flaw, hflaw⟩ := exists_flaw sound
      rw [insert_of_flaw hflaw]
      simp [Except.bind, sound]

/-- **A registry is a map that keeps the order of its names.** Whatever calls were made, from the
empty registry or from the known languages, the next one fails exactly for a flaw, and then nothing
changes; and what the registry holds is told by the languages that were accepted. The registry of
some settings exists exactly if each of their languages is accepted, and then the last language with
a name goes before the earlier ones and before the known one. -/
theorem registry_refines_map (hbase : base = empty ∨ base = builtin) (languages : List Language) :
    (∀ language, Answers (base.registerAll languages) language) ∧
      Maps base (accepted languages) (base.registerAll languages) ∧
      ∀ settings : Settings,
        ((∃ r, settings.registry = .ok r) ↔
          ∀ language ∈ settings.languages, language.lexis.Sound) ∧
        ∀ r, settings.registry = .ok r → Maps builtin settings.languages r := by
  refine ⟨answers _, maps_registerAll (wellFormed_of_base hbase) languages,
    fun settings => ⟨?_, fun r hr => ?_⟩⟩
  · simp only [Settings.registry, insertAll_eq_ok_iff, exists_and_left, exists_eq, and_true]
  · obtain ⟨hsound, rfl⟩ := insertAll_eq_ok_iff.1 hr
    have hmaps := maps_registerAll wellFormed_builtin settings.languages
    rwa [accepted_eq_self hsound] at hmaps

theorem registry_refines_map_mixedCalls :
    (accepted mixedCalls).map Language.id = ["yaml", "ini", "ini"] ∧
      Maps builtin (accepted mixedCalls) (builtin.registerAll mixedCalls) :=
  ⟨by decide, (registry_refines_map (.inr rfl) mixedCalls).2.1⟩

end Decomment.Registry
