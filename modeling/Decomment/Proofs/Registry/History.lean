import Decomment.Proofs.Lexis.Order
import Decomment.Proofs.Scan.Totality
import Decomment.Registry.Builtin

/-!
# What registering keeps

A registry changes through calls that register a language. `register` gives the answer to such a
call and the registry after it, which is the one before if the call fails; `registerAll` makes one
call after the other, whatever they answer.

`WellFormed` is what every call keeps (`WellFormed.register`), so it holds of every registry that
can be reached from one that has it (`WellFormed.registerAll`). A language is checked before it is
put into the form in which it is kept, and that form passes the check as well
(`Language.normal_normalize`).
-/

namespace Decomment

/-- A language in the form in which registries keep it. -/
structure Language.Normal (language : Language) : Prop where
  sound : language.lexis.Sound
  ordered : language.lexis.Ordered
  dotted : ∀ ext ∈ language.extensions, ext.toList.head? = some '.'

theorem Language.normal_normalize {language : Language} (sound : language.lexis.Sound) :
    language.normalize.Normal := by
  refine ⟨sound.longestFirst, language.lexis.ordered_longestFirst, fun ext hext => ?_⟩
  obtain ⟨given, -, rfl⟩ := List.mem_map.1 hext
  exact head?_dotted given

namespace Registry

variable {r base : Registry} {language : Language} {languages : List Language}

/-! ## One call -/

/-- A call that registers a language: its answer, and the registry after it. -/
def register (r : Registry) (language : Language) : Except Error Unit × Registry :=
  match r.insert language with
  | .ok after => (.ok (), after)
  | .error e => (.error e, r)

theorem insert_of_sound (sound : language.lexis.Sound) :
    r.insert language = .ok ⟨put language.normalize r.languages⟩ := by
  have hflaw : language.lexis.flaw? = none := sound
  rw [insert_eq_check, Lexis.check, hflaw]
  rfl

theorem insert_of_flaw {flaw : Lexis.Flaw} (hflaw : language.lexis.flaw? = some flaw) :
    r.insert language = .error (.invalidLexis language.id flaw) := by
  rw [insert_eq_check, Lexis.check, hflaw]
  rfl

theorem register_of_sound (sound : language.lexis.Sound) :
    r.register language = (.ok (), ⟨put language.normalize r.languages⟩) := by
  rw [register, insert_of_sound sound]

theorem register_of_flaw {flaw : Lexis.Flaw} (hflaw : language.lexis.flaw? = some flaw) :
    r.register language = (.error (.invalidLexis language.id flaw), r) := by
  rw [register, insert_of_flaw hflaw]

/-- Rules that are not sound have a flaw. -/
theorem exists_flaw {lexis : Lexis} (h : ¬ lexis.Sound) : ∃ flaw, lexis.flaw? = some flaw :=
  Option.ne_none_iff_exists'.1 h

theorem mem_of_mem_put {entry : Language} {entries : List Language}
    (h : entry ∈ put language entries) : entry = language ∨ entry ∈ entries := by
  induction entries with
  | nil => exact .inl (List.mem_singleton.1 h)
  | cons first entries ih =>
    rw [put] at h
    split at h
    · rcases List.mem_cons.1 h with h | h
      · exact .inl h
      · exact .inr (List.mem_cons_of_mem _ h)
    · rcases List.mem_cons.1 h with rfl | h
      · exact .inr (List.mem_cons_self ..)
      · exact (ih h).imp_right (List.mem_cons_of_mem _)

theorem mem_put_self (language : Language) (entries : List Language) :
    language ∈ put language entries := by
  induction entries with
  | nil => exact List.mem_singleton_self _
  | cons first entries ih =>
    rw [put]
    split
    · exact List.mem_cons_self ..
    · exact List.mem_cons_of_mem _ ih

/-! ## One call after the other -/

/-- The registry after one call for each language. -/
def registerAll (r : Registry) (languages : List Language) : Registry :=
  languages.foldl (fun r language => (r.register language).2) r

@[simp] theorem registerAll_nil (r : Registry) : r.registerAll [] = r := rfl

@[simp] theorem registerAll_cons (r : Registry) (language : Language) (languages : List Language) :
    r.registerAll (language :: languages) = (r.register language).2.registerAll languages := rfl

/-! ## What every call keeps -/

/-- No name stands twice, and every language is in the form in which it is kept. -/
structure WellFormed (r : Registry) : Prop where
  ids_nodup : r.ids.Nodup
  normal : ∀ language ∈ r.languages, language.Normal

/-- **A call keeps a registry well-formed**, whether it succeeds or not. -/
theorem WellFormed.register (h : r.WellFormed) (language : Language) :
    (r.register language).2.WellFormed := by
  by_cases sound : language.lexis.Sound
  swap
  · obtain ⟨flaw, hflaw⟩ := exists_flaw sound
    rwa [register_of_flaw hflaw]
  rw [register_of_sound sound]
  refine ⟨?_, fun entry hentry => ?_⟩
  · show ((put language.normalize r.languages).map Language.id).Nodup
    rw [map_id_put]
    split
    · exact h.ids_nodup
    · next hnew =>
      rw [← List.concat_eq_append]
      exact List.Nodup.concat hnew h.ids_nodup
  · rcases mem_of_mem_put hentry with rfl | hentry
    · exact Language.normal_normalize sound
    · exact h.normal entry hentry

theorem WellFormed.registerAll (h : r.WellFormed) (languages : List Language) :
    (r.registerAll languages).WellFormed := by
  induction languages generalizing r with
  | nil => exact h
  | cons language languages ih => exact ih (h.register language)

theorem wellFormed_empty : empty.WellFormed :=
  ⟨List.nodup_nil, fun _ h => nomatch h⟩

theorem builtin_sound : ∀ language ∈ Language.builtin, language.lexis.Sound := by
  decide

/-- The table that was never checked passes the check. -/
theorem wellFormed_builtin : builtin.WellFormed := by
  refine ⟨by decide, fun entry hentry => ?_⟩
  obtain ⟨language, hlanguage, rfl⟩ := List.mem_map.1 hentry
  exact Language.normal_normalize (builtin_sound language hlanguage)

theorem wellFormed_of_base (hbase : base = empty ∨ base = builtin) : base.WellFormed := by
  rcases hbase with rfl | rfl
  · exact wellFormed_empty
  · exact wellFormed_builtin

/-- What is looked up is one of the languages. -/
theorem exists_of_lookup {id : String} {lexis : Lexis} (h : r.lookup id = .ok lexis) :
    ∃ language ∈ r.languages, language.lexis = lexis := by
  rw [lookup, get] at h
  cases hfound : r.get? id with
  | none =>
    rw [hfound] at h
    cases h
  | some language =>
    rw [hfound] at h
    exact ⟨language, List.mem_of_find?_eq_some hfound, Except.ok.inj h⟩

/-- **Every registry that can be reached is well-formed**: from the empty one or from the table of
known languages, by any calls, failed ones among them. So every scan by rules that are looked up in
it comes to its end. -/
theorem reached_wellFormed (hbase : base = empty ∨ base = builtin) (languages : List Language) :
    (base.registerAll languages).WellFormed ∧
      ∀ id lexis, (base.registerAll languages).lookup id = .ok lexis →
        ∀ text, Scan.Ends lexis text := by
  have hreached := (wellFormed_of_base hbase).registerAll languages
  refine ⟨hreached, fun id lexis hlookup text => ?_⟩
  obtain ⟨language, hlanguage, rfl⟩ := exists_of_lookup hlookup
  exact Scan.ends_of_sound text (hreached.normal language hlanguage).sound

/-- Languages for calls of every kind: one with a flaw, one with a known name, and two with a new
name. -/
def mixedCalls : List Language :=
  [{ id := "odd", lexis := { lineMarkers := plainMarkers ["'"], quotes := plainQuotes ["'"] } },
    { id := "yaml", extensions := ["YML"], lexis := { lineMarkers := plainMarkers [";", ";;"] } },
    { id := "ini", extensions := ["cfg"], lexis := { lineMarkers := plainMarkers ["#"] } },
    { id := "ini", extensions := [".Ini"], lexis := { lineMarkers := plainMarkers [";"] } }]

theorem reached_wellFormed_mixedCalls :
    (builtin.registerAll mixedCalls).WellFormed ∧
      (builtin.registerAll mixedCalls).lookup "yaml" =
        .ok { lineMarkers := plainMarkers [";;", ";"] } ∧
      Scan.Ends { lineMarkers := plainMarkers [";;", ";"] } "a ;; b\n;".toList := by
  obtain ⟨hwellFormed, hends⟩ := reached_wellFormed (.inr rfl) mixedCalls
  exact ⟨hwellFormed, rfl, hends "yaml" _ rfl _⟩

end Registry

end Decomment
