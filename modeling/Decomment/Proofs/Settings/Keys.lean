import Decomment.Settings

/-!
# Single settings

A word is taken for a setting if it is a truth value, or for the fallback a language that is
registered (`Settings.Takes`); just then it can be set (`exists_set_iff`). A setting that was set
shows what the word stands for, and all others and the languages are as before (`set_cases`), which
says all there is to say of the settings (`eq_of_get`). So a fallback that is registered stays so
(`Registers.set`).
-/

namespace Decomment.Settings

/-- The text that a setting shows after a word was set for it. -/
def Key.shown (key : Key) (word : String) : String :=
  match key with
  | .fallbackLanguage => word
  | .backup | .squeezeBlankLines | .trimTrailing | .finalNewline =>
    ((parseBool? word).map boolText).getD word

/-- A language with an id is registered with the settings. -/
def Registers (settings : Settings) (id : String) : Prop :=
  ∃ registry language, settings.registry = .ok registry ∧ registry.get id = .ok language

/-- A word is one that a setting can be set to. -/
def Takes (settings : Settings) (key : Key) (word : String) : Prop :=
  match key with
  | .fallbackLanguage => settings.Registers word
  | .backup | .squeezeBlankLines | .trimTrailing | .finalNewline => (parseBool? word).isSome

variable {settings changed : Settings} {key : Key} {word : String}

theorem parseBool_eq_ok {b : Bool} (h : parseBool word = .ok b) : parseBool? word = some b := by
  rw [parseBool] at h
  split at h
  · next hword => cases h; exact hword
  · cases h

/-- The registry depends on the languages only. -/
theorem Registers.congr {others : Settings} {id : String} (h : settings.Registers id)
    (hlanguages : others.languages = settings.languages) : others.Registers id := by
  obtain ⟨registry, language, hregistry, hget⟩ := h
  refine ⟨registry, language, ?_, hget⟩
  rw [← hregistry, Settings.registry, hlanguages, Settings.registry]

/-- What setting a word comes to. -/
theorem set_cases (h : settings.set key word = .ok changed) :
    settings.Takes key word ∧ changed.languages = settings.languages ∧
      ∀ other, changed.get other = if other = key then key.shown word else settings.get other := by
  cases key with
  | fallbackLanguage =>
    obtain ⟨registry, hregistry, h⟩ := bind_eq_ok h
    obtain ⟨language, hlanguage, h⟩ := bind_eq_ok h
    cases h
    exact ⟨⟨registry, language, hregistry, hlanguage⟩, rfl, fun other => by cases other <;> rfl⟩
  | backup | squeezeBlankLines | trimTrailing | finalNewline =>
    obtain ⟨b, hb, h⟩ := bind_eq_ok h
    cases h
    have hword := parseBool_eq_ok hb
    refine ⟨by rw [Takes, hword]; rfl, rfl, fun other => ?_⟩
    cases other <;> simp [get, Key.shown, hword]

/-- A setting can be set to the words that it takes and to no others. -/
theorem exists_set_iff :
    (∃ changed, settings.set key word = .ok changed) ↔ settings.Takes key word := by
  refine ⟨fun ⟨changed, h⟩ => (set_cases h).1, fun h => ?_⟩
  cases key with
  | fallbackLanguage =>
    obtain ⟨registry, language, hregistry, hget⟩ := h
    refine ⟨{ settings with fallbackLanguage := word }, ?_⟩
    rw [set, hregistry]
    show (registry.get word).bind _ = _
    rw [hget]
    rfl
  | backup | squeezeBlankLines | trimTrailing | finalNewline =>
    obtain ⟨b, hb⟩ := Option.isSome_iff_exists.1 h
    have hword : parseBool word = .ok b := by rw [parseBool, hb]
    exact ⟨_, by rw [set, hword]; rfl⟩

theorem boolText_inj {a b : Bool} (h : boolText a = boolText b) : a = b := by
  revert a b
  decide

/-- Settings are what they show and their languages. -/
theorem eq_of_get (hlanguages : changed.languages = settings.languages)
    (hget : ∀ key, changed.get key = settings.get key) : changed = settings := by
  obtain ⟨_, _, ⟨_, _, _⟩, _⟩ := changed
  obtain ⟨_, _, ⟨_, _, _⟩, _⟩ := settings
  cases hlanguages
  cases hget .fallbackLanguage
  cases boolText_inj (hget .backup)
  cases boolText_inj (hget .squeezeBlankLines)
  cases boolText_inj (hget .trimTrailing)
  cases boolText_inj (hget .finalNewline)
  rfl

/-- A fallback that is registered stays so. -/
theorem Registers.set (hregisters : settings.Registers settings.fallbackLanguage)
    (h : settings.set key word = .ok changed) : changed.Registers changed.fallbackLanguage := by
  obtain ⟨htakes, hlanguages, hget⟩ := set_cases h
  have hfallback : changed.fallbackLanguage =
      if .fallbackLanguage = key then key.shown word else settings.fallbackLanguage :=
    hget .fallbackLanguage
  rw [hfallback]
  split
  · next hkey =>
    subst hkey
    exact Registers.congr htakes hlanguages
  · exact hregisters.congr hlanguages

end Decomment.Settings
