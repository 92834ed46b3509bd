import Decomment.Proofs.Command.Effects
import Decomment.Proofs.Disk.Trees
import Decomment.Proofs.Settings.Keys
import Decomment.Proofs.Settings.RoundTrip

/-!
# Settings that are saved and loaded

Whatever writes and reads the format, if what is written comes back then settings are loaded as they
were saved (`saved_settings_are_loaded`). So a command that sets one setting, and does not fail, leaves
the settings with that setting changed; one that fails leaves them as they are (`configSet_step`).
There is one exception: the directory for the settings is made before the file is written, and on a
path with `..` this can put a directory where the file should be (`Obstructed`).
-/

namespace Decomment

open Command

/-! ## Saving -/

/-- **Settings are loaded as they were saved.** Saving makes the directory for the settings and writes
a text, and this text holds the settings, in every field and with the languages in their order. Of
the writer and the reader of the format no more is asked than that what is written comes back. -/
theorem saved_settings_are_loaded {toml : Toml.Codec} (htoml : toml.RoundTrips) (path : String)
    (settings : Settings) :
    ∃ text, save toml path settings =
        { actions := [
            .change (.makeDirectories (Path.parent path)),
            .change (.write path (.text text))] } ∧
      Settings.ofText toml text = .ok settings := by
  obtain ⟨text, htext, hloads⟩ := Settings.ofText_of_toText htoml settings
  exact ⟨text, by rw [save, htext]; rfl, hloads⟩

/-- Settings with a language of their own, which has what is left out beside what is not. -/
theorem saved_settings_are_loaded_language :
    let language : Language := {
      id := "ini"
      extensions := ["cfg", "ini"]
      lexis := {
        lineMarkers := [{ marker := ";", notAfter := ['\\', '"'] }, { marker := "#" }]
        quotes := [{ delimiter := "\"" }]
        escape := some '\\' } }
    let settings : Settings := { fallbackLanguage := "ini", languages := [language] }
    Toml.codec.RoundTrips ∧
      ∃ text, save Toml.codec "a/config.toml" settings =
          { actions := [
              .change (.makeDirectories (Path.parent "a/config.toml")),
              .change (.write "a/config.toml" (.text text))] } ∧
        Settings.ofText Toml.codec text = .ok settings := by
  intro language settings
  exact ⟨Toml.codec_roundTrips,
    saved_settings_are_loaded Toml.codec_roundTrips "a/config.toml" settings⟩

/-! ## Loading -/

/-- The settings that are loaded from a disk. -/
def loaded (lib : Libraries) (disk : Disk) (env : Environment) : Except Error Settings :=
  ({ lib, look? := disk.look?, env } : World).settings

theorem settings_world (lib : Libraries) (call : Invocation) (disk : Disk) :
    (call.world lib disk).settings = loaded lib disk call.env := rfl

/-- The path of the settings, taken apart: the directory, names that stand still, and the file. -/
structure SettingsFile (path : String) (stops : List String) : Prop where
  names : Path.names path = Path.names (Path.parent path) ++ stops ++ ["config.toml"]
  stops : ∀ stop ∈ stops, stop = "."
  start : Path.isAbsolute (Path.parent path) = Path.isAbsolute path
  file : Path.endsInSlash path = false

theorem settingsFile_of_settingsPath {env : Environment} {path : String}
    (h : env.settingsPath = .ok path) : ∃ stops, SettingsFile path stops := by
  obtain ⟨directory, -, h⟩ := bind_eq_ok h
  cases h
  have hslash : '/' ∉ "config.toml".toList := by decide
  have hne : "config.toml" ≠ "" := by decide
  obtain ⟨stops, hstops, hnames⟩ := Path.names_join directory hslash hne (by decide)
  exact ⟨stops, hnames, hstops, Path.isAbsolute_parent_join directory hslash hne (by decide),
    Path.endsInSlash_join directory hslash hne⟩

section
variable {lib : Libraries} {old new disk : Disk} {env : Environment} {path : String}
  {settings : Settings} {text : List Char}

theorem loaded_congr (hpath : env.settingsPath = .ok path) (h : new.look? path = old.look? path) :
    loaded lib new env = loaded lib old env := by
  simp only [loaded, World.settings, hpath, bind, Except.bind, h]

theorem loaded_of_text (hpath : env.settingsPath = .ok path)
    (h : disk.look? path = some (.file (.text text))) :
    loaded lib disk env = Settings.ofText lib.toml text := by
  simp only [loaded, World.settings, hpath, bind, Except.bind, h]
  rfl

theorem loaded_of_directory (hpath : env.settingsPath = .ok path)
    (h : disk.look? path = some .directory) : loaded lib disk env = .error (.disk .isDirectory) := by
  simp only [loaded, World.settings, hpath, bind, Except.bind, h]
  rfl

theorem look?_of_loaded (hpath : env.settingsPath = .ok path)
    (h : loaded lib disk env = .ok settings) :
    disk.look? path = none ∨ ∃ content, disk.look? path = some (.file content) := by
  match hlook : disk.look? path with
  | none => exact .inl rfl
  | some (.file content) => exact .inr ⟨content, rfl⟩
  | some .directory =>
    rw [loaded_of_directory hpath hlook] at h
    cases h

/-! ## The directory for the settings -/

/-- A directory stands where a path with `..` leads. -/
structure Obstructed (disk : Disk) (path : String) : Prop where
  dots : ".." ∈ Path.names path
  directory : disk.look? path = some .directory

/-- No directory stands where a path without `..` leads, if it can be followed at all. -/
def Clear (disk : Disk) (path : String) : Prop :=
  ".." ∉ Path.names path → Disk.Fits path → disk.node? (disk.place path) ≠ some .directory

/-- On a tree, the place of settings that can be loaded is clear. -/
theorem clear_of_loaded (htree : disk.Tree) (hpath : env.settingsPath = .ok path)
    (hloaded : loaded lib disk env = .ok settings) : Clear disk path := by
  intro hdown hfits hnode
  obtain ⟨stops, hfile⟩ := settingsFile_of_settingsPath hpath
  have hreaches : disk.Reaches path :=
    htree.reaches hfits hfile.file hfile.names hdown (by decide) (by simp [hnode])
  rw [loaded_of_directory hpath (by rw [hreaches.look?_eq, hnode])] at hloaded
  cases hloaded

section
variable {stops : List String} {made : Disk} {failure : Option DiskError}

/-- Directories are made on the way to the file, so its place stays clear. -/
theorem clear_of_made (h : Clear disk path) (hfile : SettingsFile path stops)
    (hmake : disk.makeDirectories (Path.parent path) = (made, failure)) : Clear made path := by
  intro hdown hfits hnode
  have hmade := disk.made_makeDirectories (Path.parent path)
  rw [hmake] at hmade
  refine h hdown hfits ?_
  have hstart : disk.start (Path.parent path) = disk.start path := by
    rw [Disk.start, Disk.start, hfile.start]
  rw [hmade.grows.place_eq] at hnode
  rw [Disk.place, hfile.names, ← hstart] at hnode ⊢
  rw [hfile.names] at hdown
  exact hmade.node?_below hdown (by decide) hnode

/-- Where making the directories fails and no file was found, none is found afterwards. -/
theorem look?_of_blocked (hfile : SettingsFile path stops) (hnone : disk.look? path = none)
    (hmake : disk.makeDirectories (Path.parent path) = (made, failure))
    (hfailure : failure ≠ none) : made.look? path = none := by
  obtain hsame | hway := disk.makeDirectories_cases (Path.parent path)
  · rw [hmake] at hsame
    have hsame : made = disk := hsame
    rw [hsame, hnone]
  · rw [hmake] at hway
    refine Disk.look?_of_not_reaches hfile.names (by decide) (by decide) hfile.file ?_
    intro hreaches
    obtain ⟨-, -, above, last, hnames, henters⟩ := Disk.reaches_iff.1 hreaches
    obtain ⟨rfl, -⟩ := List.append_inj' (hfile.names.symm.trans hnames) rfl
    refine hway.blocked hfailure ?_
    have hstart : made.start path = disk.start (Path.parent path) := by
      rw [hway.made.grows.start_eq, Disk.start, Disk.start, hfile.start]
    exact hstart ▸ henters.passable.left

/-- Where the directories are made and the file still cannot be written, it cannot be followed to
its place, or a directory is there. -/
theorem look?_of_write_error {content : Content} {cause : DiskError} (hclear : Clear disk path)
    (hfile : SettingsFile path stops) (h : disk.write path content = .error cause) :
    disk.look? path = none ∨ Obstructed disk path := by
  by_cases hreaches : disk.Reaches path
  · have hnode : disk.node? (disk.place path) = some .directory := by
      by_contra hfree
      obtain ⟨new, hnew⟩ := Disk.write_of_reaches hreaches hfree content
      cases h.symm.trans hnew
    have hdots : ".." ∈ Path.names path := by
      by_contra hdown
      exact hclear hdown hreaches.fits hnode
    exact .inr ⟨hdots, by rw [hreaches.look?_eq, hnode]⟩
  · exact .inl (Disk.look?_of_not_reaches hfile.names (by decide) (by decide) hfile.file hreaches)

/-- A text that cannot be saved leaves what is found in its place as it was, unless a directory comes to
stand there. -/
theorem look?_of_save_error {cause : DiskError} (hclear : Clear disk path)
    (hfile : SettingsFile path stops)
    (hlook : disk.look? path = none ∨ ∃ content, disk.look? path = some (.file content))
    (h : disk.performAll (saveEffects path text) = (new, some cause)) :
    Clear new path ∧ (new.look? path = disk.look? path ∨ Obstructed new path) := by
  obtain ⟨made, failure, hmake, ⟨cause', hfail, hwrite⟩ | ⟨new', hdone, -⟩⟩ :=
    performAll_save_cases disk path text
  · cases h.symm.trans hfail
    have hclear' : Clear new path := clear_of_made hclear hfile hmake
    have hmade := disk.made_makeDirectories (Path.parent path)
    rw [hmake] at hmade
    refine ⟨hclear', ?_⟩
    obtain hnone | ⟨content, hcontent⟩ := hlook
    · rw [hnone]
      by_cases hfailure : failure = none
      · exact look?_of_write_error hclear' hfile (hwrite hfailure)
      · exact .inl (look?_of_blocked hfile hnone hmake hfailure)
    · refine .inl ?_
      obtain ⟨hreaches, hheld⟩ := Disk.look?_eq_file_iff.1 hcontent
      rw [hcontent]
      refine Disk.look?_eq_file_iff.2 ⟨hmade.grows.reaches hreaches, ?_⟩
      rw [hmade.file?_eq, hmade.grows.place_eq, hheld]
  · cases h.symm.trans hdone

/-- A text that is saved is found in its place. -/
theorem look?_of_saved (h : disk.performAll (saveEffects path text) = (new, none)) :
    Clear new path ∧ new.look? path = some (.file (.text text)) := by
  obtain ⟨made, failure, -, ⟨_, hfail, -⟩ | ⟨new', hdone, hwrote⟩⟩ :=
    performAll_save_cases disk path text
  · cases h.symm.trans hfail
  · cases h.symm.trans hdone
    refine ⟨fun _ _ => ?_, hwrote.look?_eq⟩
    rw [hwrote.grows.place_eq, hwrote.node?_eq, if_pos rfl]
    simp

end

/-! ## One command -/

/-- A command that sets a setting is refused, or it saves the changed settings as a text that holds
them. -/
theorem configSet_saves {w : World} (htoml : w.lib.toml.RoundTrips)
    (hsettings : w.settings = .ok settings) (hpath : w.env.settingsPath = .ok path)
    (name word : String) :
    (∃ e, configSet w name word = .fail e) ∨
      ∃ key changed text, Settings.Key.ofName? name = some key ∧
        settings.set key word = .ok changed ∧ Settings.ofText w.lib.toml text = .ok changed ∧
        (configSet w name word).error? = none ∧
        (configSet w name word).effects = saveEffects path text := by
  cases configSet_cases w name word with
  | refused heq => exact .inl ⟨_, heq⟩
  | @unwritable _ _ changed _ _ _ hfail _ =>
    obtain ⟨text, htext, -⟩ := Settings.ofText_of_toText htoml changed
    cases hfail.symm.trans htext
  | @saved _ key changed _ text hsets htext heq =>
    obtain ⟨text', htext', hloads⟩ := Settings.ofText_of_toText htoml changed
    cases htext.symm.trans htext'
    cases hsettings.symm.trans hsets.settings_eq
    cases hpath.symm.trans hsets.path_eq
    rw [heq]
    exact .inr ⟨key, changed, text, hsets.key_eq, hsets.changed_eq, hloads, rfl, rfl⟩

/-- A run that is refused does nothing. -/
theorem run_of_fail {call : Invocation} {e : Error}
    (h : answerTo (call.world lib disk) call.args = .fail e) :
    run lib disk call = ({ ending := .failed e }, disk) := by
  rw [run, h]
  rfl

variable {call : Invocation} {name word : String}

/-- Where there is nothing to set, a command that sets a setting fails before any change. -/
theorem run_of_not_setsTo (hread : lib.readArgs call.args = .request (.configSet name word))
    (hnone : ∀ settings key changed path,
      ¬ SetsTo (call.world lib disk) name word settings key changed path) :
    ∃ e, run lib disk call = ({ ending := .failed e }, disk) := by
  cases configSet_cases (call.world lib disk) name word with
  | refused heq => exact ⟨_, run_of_fail ((answerTo_of_request hread disk).trans heq)⟩
  | unwritable hsets _ _ => exact absurd hsets (hnone _ _ _ _)
  | saved hsets _ _ => exact absurd hsets (hnone _ _ _ _)

/-- An unknown setting and a word that the setting does not take are refused before any change. -/
theorem configSet_refused (hread : lib.readArgs call.args = .request (.configSet name word))
    (hloaded : loaded lib disk call.env = .ok settings)
    (hrefused : ∀ key, Settings.Key.ofName? name = some key → ¬ settings.Takes key word) :
    (run lib disk call).1.error? ≠ none ∧ (run lib disk call).2 = disk := by
  obtain ⟨e, hrun⟩ := run_of_not_setsTo hread fun _ key _ _ hsets => by
    cases hloaded.symm.trans hsets.settings_eq
    exact hrefused key hsets.key_eq (Settings.set_cases hsets.changed_eq).1
  rw [hrun]
  exact ⟨Option.some_ne_none e, rfl⟩

/-- A command that sets a setting either fails, and the settings stay as they are unless a directory
stands in their place, or it does not, and the settings are those with the setting changed. -/
theorem configSet_step (htoml : lib.toml.RoundTrips)
    (hread : lib.readArgs call.args = .request (.configSet name word))
    (hpath : call.env.settingsPath = .ok path) (hloaded : loaded lib disk call.env = .ok settings)
    (hclear : Clear disk path) :
    Clear (run lib disk call).2 path ∧
      (((run lib disk call).1.error? ≠ none ∧
          (loaded lib (run lib disk call).2 call.env = .ok settings ∨
            Obstructed (run lib disk call).2 path)) ∨
        (run lib disk call).1.error? = none ∧ ∃ key changed,
          Settings.Key.ofName? name = some key ∧ settings.set key word = .ok changed ∧
            loaded lib (run lib disk call).2 call.env = .ok changed) := by
  obtain ⟨stops, hfile⟩ := settingsFile_of_settingsPath hpath
  have hanswer : answerTo (call.world lib disk) call.args =
      configSet (call.world lib disk) name word := answerTo_of_request hread disk
  obtain ⟨e, hrefused⟩ | ⟨key, changed, text, hkey, hchanged, hloads, herror, heffects⟩ :=
    configSet_saves (w := call.world lib disk) htoml hloaded hpath name word
  · rw [run_of_fail (hanswer.trans hrefused)]
    exact ⟨hclear, .inl ⟨Option.some_ne_none e, .inl hloaded⟩⟩
  have hcourse := run_course lib disk call
  rw [hanswer] at hcourse
  cases hcourse with
  | blocked hfail hending =>
    rw [heffects] at hfail
    have hfailed : (run lib disk call).1.error? ≠ none := by
      rw [Outcome.error?, hending]
      exact Option.some_ne_none _
    obtain ⟨hclear', hsame | hobstructed⟩ :=
      look?_of_save_error hclear hfile (look?_of_loaded hpath hloaded) hfail
    · exact ⟨hclear', .inl ⟨hfailed, .inl ((loaded_congr hpath hsame).trans hloaded)⟩⟩
    · exact ⟨hclear', .inl ⟨hfailed, .inr hobstructed⟩⟩
  | failed _ _ hfail => cases hfail.symm.trans herror
  | unheard hprinted => exact absurd hprinted (print_notMem_configSet _ name word _)
  | finished hdone _ hending =>
    rw [heffects] at hdone
    obtain ⟨hclear', hlook⟩ := look?_of_saved hdone
    exact ⟨hclear', .inr ⟨hending, key, changed, hkey, hchanged,
      (loaded_of_text hpath hlook).trans hloads⟩⟩

/-- Where a directory stands in the place of the settings, a command that sets a setting fails
before any change. -/
theorem configSet_obstructed (hread : lib.readArgs call.args = .request (.configSet name word))
    (hpath : call.env.settingsPath = .ok path) (h : Obstructed disk path) :
    (run lib disk call).2 = disk := by
  obtain ⟨e, hrun⟩ := run_of_not_setsTo hread fun _ _ _ _ hsets => by
    have hsettings := hsets.settings_eq
    rw [settings_world, loaded_of_directory hpath h.directory] at hsettings
    cases hsettings
  rw [hrun]

/-- A command that sets a setting changes no file but that of the settings. -/
theorem configSet_file? (hread : lib.readArgs call.args = .request (.configSet name word))
    (hpath : call.env.settingsPath = .ok path) {place : Location} (h : place ≠ disk.place path) :
    (run lib disk call).2.file? place = disk.file? place := by
  refine run_file? lib disk call place fun _ request hread' other hother => ?_
  cases hread.symm.trans hread'
  have heq : other = path := by simpa [Request.targets, hpath, Except.toOption] using hother
  exact heq ▸ h

end

/-! ## Runs of commands -/

/-- A command line that sets a setting in an environment. -/
def SetsSetting (lib : Libraries) (env : Environment) (call : Invocation) : Prop :=
  call.env = env ∧ ∃ name word, lib.readArgs call.args = .request (.configSet name word)

/-- The word that a command line gives for a setting, if it sets that setting. -/
def wordFor? (lib : Libraries) (key : Settings.Key) (args : List String) : Option String :=
  match lib.readArgs args with
  | .request (.configSet name word) =>
    if Settings.Key.ofName? name = some key then some word else none
  | _ => none

/-- The last word that a setting was successfully set to along runs of the program. -/
def lastWord? (lib : Libraries) (key : Settings.Key) : Disk → List Invocation → Option String
  | _, [] => none
  | disk, call :: calls =>
    (lastWord? lib key (run lib disk call).2 calls).or
      (if (run lib disk call).1.error? = none then wordFor? lib key call.args else none)

/-- What becomes of settings as single settings are set: each shows the last word that it was set
to, and everything else is as before. -/
structure Follows (old new : Settings) (last? : Settings.Key → Option String) : Prop where
  languages : new.languages = old.languages
  get : ∀ key, new.get key = ((last? key).map key.shown).getD (old.get key)
  fallback : old.Registers old.fallbackLanguage → new.Registers new.fallbackLanguage

section
variable {lib : Libraries} {env : Environment} {path : String} {disk : Disk}
  {settings final : Settings} {call : Invocation} {calls : List Invocation}

/-- The words that settings were set to determine what becomes of the settings. -/
theorem Follows.unique {other : Settings} {last? : Settings.Key → Option String}
    (h : Follows settings final last?) (h' : Follows settings other last?) : final = other :=
  Settings.eq_of_get (h.languages.trans h'.languages.symm) fun key =>
    (h.get key).trans (h'.get key).symm

theorem Follows.of_error (h : Follows settings final (lastWord? lib · (run lib disk call).2 calls))
    (hfail : (run lib disk call).1.error? ≠ none) :
    Follows settings final (lastWord? lib · disk (call :: calls)) := by
  simpa only [lastWord?, if_neg hfail, Option.or_none] using h

theorem Follows.of_set {name word : String} {key : Settings.Key} {changed : Settings}
    (h : Follows changed final (lastWord? lib · (run lib disk call).2 calls))
    (hdone : (run lib disk call).1.error? = none)
    (hread : lib.readArgs call.args = .request (.configSet name word))
    (hkey : Settings.Key.ofName? name = some key) (hset : settings.set key word = .ok changed) :
    Follows settings final (lastWord? lib · disk (call :: calls)) := by
  obtain ⟨-, hlanguages, hget⟩ := Settings.set_cases hset
  refine ⟨h.languages.trans hlanguages, fun other => ?_, fun hregisters =>
    h.fallback (hregisters.set hset)⟩
  have hword : wordFor? lib other call.args = if other = key then some word else none := by
    simp only [wordFor?, hread, hkey, Option.some.injEq, eq_comm]
  rw [h.get other, hget, lastWord?, if_pos hdone, hword]
  cases lastWord? lib other (run lib disk call).2 calls with
  | some later => rfl
  | none => by_cases hother : other = key <;> simp [hother]

/-- A directory in the place of the settings stays there. -/
theorem obstructed_runAll (hpath : env.settingsPath = .ok path)
    (hcalls : ∀ call ∈ calls, SetsSetting lib env call) (h : Obstructed disk path) :
    Obstructed (runAll lib disk calls) path := by
  induction calls with
  | nil => exact h
  | cons call calls ih =>
    obtain ⟨⟨rfl, name, word, hread⟩, hrest⟩ := List.forall_mem_cons.1 hcalls
    rw [runAll_cons, configSet_obstructed hread hpath h]
    exact ih hrest

/-- Commands that set settings change no file but that of the settings. -/
theorem runAll_file? (hpath : env.settingsPath = .ok path)
    (hcalls : ∀ call ∈ calls, SetsSetting lib env call) {place : Location}
    (h : place ≠ disk.place path) :
    (runAll lib disk calls).file? place = disk.file? place := by
  induction calls generalizing disk with
  | nil => rfl
  | cons call calls ih =>
    obtain ⟨⟨rfl, name, word, hread⟩, hrest⟩ := List.forall_mem_cons.1 hcalls
    rw [runAll_cons, ih hrest ((grows_run lib disk call).place_eq path ▸ h),
      configSet_file? hread hpath h]

/-- Along a run of commands that set settings, the settings follow what was set, unless a directory
comes to stand in their place. -/
theorem follows_runAll (htoml : lib.toml.RoundTrips) (hpath : env.settingsPath = .ok path)
    (hcalls : ∀ call ∈ calls, SetsSetting lib env call)
    (hloaded : loaded lib disk env = .ok settings) (hclear : Clear disk path) :
    (∃ final, loaded lib (runAll lib disk calls) env = .ok final ∧
        Follows settings final (lastWord? lib · disk calls)) ∨
      Obstructed (runAll lib disk calls) path := by
  induction calls generalizing disk settings with
  | nil => exact .inl ⟨settings, hloaded, rfl, fun key => rfl, id⟩
  | cons call calls ih =>
    obtain ⟨⟨rfl, name, word, hread⟩, hrest⟩ := List.forall_mem_cons.1 hcalls
    obtain ⟨hclear', ⟨hfail, hsame | hobstructed⟩ | ⟨hdone, key, changed, hkey, hset, hchanged⟩⟩ :=
      configSet_step htoml hread hpath hloaded hclear
    · exact (ih hrest hsame hclear').imp_left fun ⟨final, hfinal, hfollows⟩ =>
        ⟨final, hfinal, hfollows.of_error hfail⟩
    · rw [runAll_cons]
      exact .inr (obstructed_runAll hpath hrest hobstructed)
    · exact (ih hrest hchanged hclear').imp_left fun ⟨final, hfinal, hfollows⟩ =>
        ⟨final, hfinal, hfollows.of_set hdone hread hkey hset⟩

end

/-- **Settings along runs.** After commands that set settings in one environment, each setting shows
the last word that it was successfully set to, and everything else in the settings is as it was, the
fallback still registered if it was; only where the path has a `..` in it can a directory have come
to stand in the place of the file instead. No other file is ever changed, and no file at all by a
command that fails, as each does whose setting is unknown or does not take its word. -/
theorem settings_along_runs {lib : Libraries} {disk : Disk} {env : Environment}
    {settings : Settings} {calls : List Invocation} (htoml : lib.toml.RoundTrips)
    (htree : disk.Tree) (hloaded : loaded lib disk env = .ok settings)
    (hcalls : ∀ call ∈ calls, SetsSetting lib env call) :
    ∃ path, env.settingsPath = .ok path ∧
      ((∃ final, loaded lib (runAll lib disk calls) env = .ok final ∧
          Follows settings final (lastWord? lib · disk calls)) ∨
        ".." ∈ Path.names path ∧ (runAll lib disk calls).look? path = some .directory) ∧
      (∀ place, place ≠ disk.place path →
        (runAll lib disk calls).file? place = disk.file? place) ∧
      ∀ earlier call later, calls = earlier ++ call :: later →
        let before := runAll lib disk earlier
        ((run lib before call).1.error? ≠ none →
          ∀ place, (run lib before call).2.file? place = before.file? place) ∧
        ∀ name word current, lib.readArgs call.args = .request (.configSet name word) →
          loaded lib before env = .ok current →
          (∀ key, Settings.Key.ofName? name = some key → ¬ current.Takes key word) →
          (run lib before call).1.error? ≠ none := by
  obtain ⟨path, hpath, -⟩ := bind_eq_ok hloaded
  have hclear : Clear disk path := clear_of_loaded htree hpath hloaded
  refine ⟨path, hpath, ?_, fun place hplace => runAll_file? hpath hcalls hplace, ?_⟩
  · exact (follows_runAll htoml hpath hcalls hloaded hclear).imp_right fun h => ⟨h.dots, h.directory⟩
  · intro earlier call later heq before
    refine ⟨fun hfail place => run_file? lib before call place fun hnone => absurd hnone hfail, ?_⟩
    intro name word current hread hcurrent hrefused
    obtain ⟨rfl, -⟩ := hcalls call (by simp [heq])
    exact (configSet_refused hread hcurrent hrefused).1

/-- Where the directory for the settings is written as `config.toml/..`, making it puts a directory
in the place of the file, and the settings cannot be loaded from then on. -/
theorem settings_lost_behind_dots :
    let disk : Disk := {}
    let env : Environment := { configDir := some "config.toml/.." }
    let call : Invocation := { args := ["config", "set", "backup", "false"], env }
    Libraries.own.toml.RoundTrips ∧ disk.Tree ∧ loaded .own disk env = .ok {} ∧
      SetsSetting .own env call ∧
      (run .own disk call).1.error? = some (.disk .isDirectory) ∧
      (∀ key, lastWord? .own key disk [call] = none) ∧
      loaded .own (runAll .own disk [call]) env = .error (.disk .isDirectory) := by
  intro disk env call
  have hfail : (run .own disk call).1.error? = some (.disk .isDirectory) := by decide +kernel
  refine ⟨Toml.codec_roundTrips, by decide +kernel, by decide +kernel,
    ⟨rfl, "backup", "false", by decide +kernel⟩, hfail, fun key => ?_, by decide +kernel⟩
  rw [lastWord?, lastWord?, if_neg (by simp [hfail])]
  rfl

/-- A setting that is set twice, with a word in between that it does not take. -/
theorem settings_along_runs_backup :
    let disk : Disk := {}
    let env : Environment := { configDir := some "a" }
    let set (word : String) : Invocation := { args := ["config", "set", "backup", word], env }
    let calls := [set "no", set "perhaps", set "YES"]
    Libraries.own.toml.RoundTrips ∧ disk.Tree ∧ loaded .own disk env = .ok {} ∧
      (∀ call ∈ calls, SetsSetting .own env call) ∧
      lastWord? .own .backup disk calls = some "YES" ∧
      ∃ final, loaded .own (runAll .own disk calls) env = .ok final ∧
        Follows {} final (lastWord? .own · disk calls) := by
  intro disk env set calls
  have htree : disk.Tree := by decide +kernel
  have hloaded : loaded .own disk env = .ok {} := by decide +kernel
  have hcalls : ∀ call ∈ calls, SetsSetting .own env call :=
    List.forall_mem_cons.2 ⟨⟨rfl, "backup", "no", by decide +kernel⟩,
      List.forall_mem_cons.2 ⟨⟨rfl, "backup", "perhaps", by decide +kernel⟩,
        List.forall_mem_cons.2 ⟨⟨rfl, "backup", "YES", by decide +kernel⟩, nofun⟩⟩⟩
  obtain ⟨path, hpath, hsettings, -⟩ :=
    settings_along_runs Toml.codec_roundTrips htree hloaded hcalls
  have hknown : env.settingsPath = .ok "a/config.toml" := by decide +kernel
  cases hpath.symm.trans hknown
  exact ⟨Toml.codec_roundTrips, htree, hloaded, hcalls, by decide +kernel,
    hsettings.resolve_right fun h => absurd h.1 (by decide +kernel)⟩

end Decomment
