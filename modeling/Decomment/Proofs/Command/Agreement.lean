import Decomment.Proofs.Command.Effects
import Decomment.Proofs.Registry.History

/-!
# Detection tells what removing comments does

Two commands find the language of a file, each on its own. The one that removes comments has to read
the file, and a fallback that is not registered ends it. The one that tells the language looks into
the file if it can and names the fallback as it stands in the settings. `detect_tells_strip`: where
the first one gets on without being told the language, the second one names the language whose rules
it scans by, and where the first one ends because it does not know a language, the second one names
that language as the fallback. What it is to tell this is said by `Report.Told`, one case for each
shape that a printed report has.
-/

namespace Decomment

open Command

/-! ## Look-ups by name -/

namespace Registry

variable {r : Registry} {id : String}

/-- A language is found under its own name. -/
theorem id_of_get {language : Language} (h : r.get id = .ok language) : language.id = id := by
  rw [get] at h
  split at h
  · next found hfound =>
    cases h
    simpa using List.find?_some hfound
  · cases h

/-- A look-up by name fails with that name. -/
theorem get_eq_error {e : Error} (h : r.get id = .error e) : e = .unknownLanguage id := by
  rw [get] at h
  split at h
  · cases h
  · cases h
    rfl

theorem exists_get_of_mem {language : Language} (h : language ∈ r.languages) :
    ∃ found, r.get language.id = .ok found := by
  have hsome : (r.get? language.id).isSome := List.find?_isSome.2 ⟨language, h, beq_self_eq_true _⟩
  obtain ⟨found, hfound⟩ := Option.isSome_iff_exists.1 hsome
  exact ⟨found, by rw [get, hfound]⟩

/-- What is detected is registered. -/
theorem exists_get_of_detect {path : String} {content : Option (List Char)}
    (h : (r.detect path content).language? = some id) : ∃ language, r.get id = .ok language := by
  have hfound : ∀ {p : Language → Bool} {language : Language},
      r.languages.reverse.find? p = some language → language ∈ r.languages :=
    fun hfind => List.mem_reverse.1 (List.mem_of_find?_eq_some hfind)
  rw [detect] at h
  split at h
  · next language hext =>
    cases h
    obtain ⟨ext, -, hlanguage⟩ := Option.bind_eq_some_iff.1 hext
    exact exists_get_of_mem (hfound hlanguage)
  split at h
  · next language hshebang =>
    cases h
    obtain ⟨name, -, hlanguage⟩ := Option.bind_eq_some_iff.1 hshebang
    exact exists_get_of_mem (hfound hlanguage)
  · cases h

/-- A registry that cannot be filled has met a language whose rules have a flaw. -/
theorem insertAll_eq_error {languages : List Language} {e : Error}
    (h : r.insertAll languages = .error e) : ∃ name flaw, e = .invalidLexis name flaw := by
  induction languages generalizing r with
  | nil => cases h
  | cons language languages ih =>
    have hcons : (r.insert language).bind (·.insertAll languages) = .error e := h
    by_cases sound : language.lexis.Sound
    · rw [insert_of_sound sound] at hcons
      exact ih hcons
    · obtain ⟨flaw, hflaw⟩ := exists_flaw sound
      rw [insert_of_flaw hflaw] at hcons
      cases hcons
      exact ⟨_, _, rfl⟩

end Registry

namespace Command

variable {w : World} {request : StripRequest} {settings : Settings} {registry : Registry}

/-! ## Which errors name a language -/

theorem ofDisk_ne_unknownLanguage {α : Type} (x : Except DiskError α) (id : String) :
    ofDisk x ≠ .error (.unknownLanguage id) := by
  cases x <;> simp [ofDisk]

/-- Settings that cannot be had are no matter of a language. -/
theorem settings_ne_unknownLanguage (w : World) (id : String) :
    w.settings ≠ .error (.unknownLanguage id) := by
  intro h
  rcases bind_eq_error h with hpath | ⟨path, -, h⟩
  · rcases bind_eq_error hpath with hdirectory | ⟨directory, -, hjoin⟩
    · rw [Environment.settingsDirectory] at hdirectory
      split at hdirectory <;> cases hdirectory
    · cases hjoin
  · split at h
    · cases h
    · rcases bind_eq_error h with hread | ⟨text, -, htext⟩
      · exact ofDisk_ne_unknownLanguage _ id hread
      · rw [Settings.ofText] at htext
        split at htext <;> cases htext

theorem registry_ne_unknownLanguage (settings : Settings) (id : String) :
    settings.registry ≠ .error (.unknownLanguage id) := by
  intro h
  obtain ⟨name, flaw, herror⟩ := Registry.insertAll_eq_error h
  cases herror

theorem readInput_ne_unknownLanguage (w : World) (input id : String) :
    readInput w input ≠ .error (.unknownLanguage id) := by
  intro h
  rw [readInput] at h
  split at h
  · exact ofDisk_ne_unknownLanguage _ id h
  split at h
  · cases h
  · exact ofDisk_ne_unknownLanguage _ id h

/-- A language is unknown only once there are settings, a registry and a text to look at. -/
theorem clean_unknownLanguage {id : String} (h : clean w request = .error (.unknownLanguage id)) :
    ∃ settings registry source, w.settings = .ok settings ∧ settings.registry = .ok registry ∧
      readInput w request.input = .ok source ∧
      resolveLanguage registry settings request source = .error (.unknownLanguage id) := by
  rw [clean] at h
  split at h
  · cases h
  · obtain ⟨settings, hsettings, h⟩ :=
      (bind_eq_error h).resolve_left (settings_ne_unknownLanguage w id)
    obtain ⟨registry, hregistry, h⟩ :=
      (bind_eq_error h).resolve_left (registry_ne_unknownLanguage settings id)
    obtain ⟨source, hsource, h⟩ :=
      (bind_eq_error h).resolve_left (readInput_ne_unknownLanguage w request.input id)
    rcases bind_eq_error h with hlanguage | ⟨language, -, h⟩
    · exact ⟨settings, registry, source, hsettings, hregistry, hsource, hlanguage⟩
    · cases h

/-! ## What a report holds -/

/-- A printed text tells a report: for people it holds the path, the language that removing comments
goes by, and how it was found; as JSON it is the text of a table that has all this under its keys. -/
inductive Report.Told (json : Value → List Char) (report : Report) : OutputFormat → String → Prop
  | byExtension (found : report.detection = .byExtension report.effective) :
      Told json report .text (report.path ++ ": " ++ report.effective ++ " (by extension)\n")
  | byShebang (found : report.detection = .byShebang report.effective) :
      Told json report .text (report.path ++ ": " ++ report.effective ++ " (by #! line)\n")
  | unknown (found : report.detection = .unknown) :
      Told json report .text
        (report.path ++ ": unknown (falls back to " ++ report.effective ++ ")\n")
  | json {fields found : Fields}
      (path : fields.lookup "path" = some (.string report.path))
      (detection : fields.lookup "detection" = some (.table found))
      (method : found.lookup "method" = some (.string report.detection.method))
      (language : found.lookup "language" = report.detection.language?.map .string)
      (effective : fields.lookup "effective" = some (.string report.effective)) :
      Told json report .json (String.ofList (json (.table fields)) ++ "\n")

/-- **Each format tells the report**, where a language that was found is the one that removing
comments goes by. -/
theorem Report.told_text (json : Value → List Char) {report : Report}
    (h : report.detection.language?.getD report.effective = report.effective)
    (format : OutputFormat) : report.Told json format (report.text json format) := by
  obtain ⟨path, detection, effective⟩ := report
  cases format with
  | json => cases detection <;> exact .json rfl rfl rfl rfl rfl
  | text =>
    cases detection with
    | byExtension id =>
      obtain rfl : id = effective := h
      have htext : Report.text json ⟨path, .byExtension id, id⟩ .text =
          path ++ ": " ++ id ++ " (by extension)\n" := by
        simp [text, Detection.describe, toString, String.append_assoc]
      exact htext ▸ .byExtension rfl
    | byShebang id =>
      obtain rfl : id = effective := h
      have htext : Report.text json ⟨path, .byShebang id, id⟩ .text =
          path ++ ": " ++ id ++ " (by #! line)\n" := by
        simp [text, Detection.describe, toString, String.append_assoc]
      exact htext ▸ .byShebang rfl
    | unknown =>
      have htext : Report.text json ⟨path, .unknown, effective⟩ .text =
          path ++ ": unknown (falls back to " ++ effective ++ ")\n" := by
        simp [text, toString, String.append_assoc]
      exact htext ▸ .unknown rfl

/-! ## The language of a file, found twice -/

/-- The text that removing comments reads is the one that detection looks into. -/
theorem peek_of_readInput {source : List Char} (hfile : request.input ≠ stdinPath)
    (h : readInput w request.input = .ok source) : peek w request.input = some source := by
  rw [peek, look?_of_readInput hfile h]
  rfl

/-- Without being told, removing comments goes by what is detected, and by the fallback if nothing
is. -/
theorem resolveLanguage_of_open (hfile : request.input ≠ stdinPath) (hopen : request.language = none)
    (source : List Char) :
    resolveLanguage registry settings request source =
      registry.get (((registry.detect request.input (some source)).language?).getD
        settings.fallbackLanguage) := by
  rw [resolveLanguage, hopen]
  dsimp only
  rw [if_neg hfile]

/-- What detection reports of a file whose text can be read. -/
theorem detect_of_readInput {source : List Char} (hfile : request.input ≠ stdinPath)
    (hsettings : w.settings = .ok settings) (hregistry : settings.registry = .ok registry)
    (hsource : readInput w request.input = .ok source) (format : OutputFormat) :
    let detection := registry.detect request.input (some source)
    let report : Report := {
      path := request.input
      detection
      effective := detection.language?.getD settings.fallbackLanguage }
    detect w request.input format = .say (.ok (report.text w.lib.json format)) := by
  have hpeek := peek_of_readInput hfile hsource
  simp only [detect, hsettings, bind, Except.bind, hregistry, hpeek]
  rfl

/-- Only a fallback can be unknown. -/
theorem unknown_of_get {id : String} {detection : Detection} {content : Option (List Char)}
    {path : String} (hdetection : registry.detect path content = detection)
    (h : registry.get (detection.language?.getD settings.fallbackLanguage) =
      .error (.unknownLanguage id)) :
    detection = .unknown ∧ settings.fallbackLanguage = id := by
  have hid := Registry.get_eq_error h
  cases hlanguage : detection.language? with
  | some found =>
    obtain ⟨language, hget⟩ := Registry.exists_get_of_detect (hdetection ▸ hlanguage)
    rw [hlanguage, Option.getD_some, hget] at h
    cases h
  | none =>
    rw [hlanguage, Option.getD_none] at hid
    cases hid
    cases detection with
    | unknown => exact ⟨rfl, rfl⟩
    | byExtension _ => cases hlanguage
    | byShebang _ => cases hlanguage

/-- Comments are removed from what a world holds by the rules of a language, which is registered
under its name. -/
structure ScansBy (w : World) (request : StripRequest) (settings : Settings) (registry : Registry)
    (language : Language) (cleaned : Cleaned) : Prop where
  settings_eq : w.settings = .ok settings
  registry_eq : settings.registry = .ok registry
  known : registry.get language.id = .ok language
  source : w.look? request.input = some (.file (.text cleaned.source))
  resolved : resolveLanguage registry settings request cleaned.source = .ok language
  clean_eq : clean w request = .ok cleaned
  text : cleaned.text =
    (settings.tidy.merge request.tidy).apply (scan language.lexis cleaned.source).text
  advisories : cleaned.advisories = (scan language.lexis cleaned.source).advisories

/-- Where comments are removed, detection names the language whose rules are used. -/
theorem detect_of_clean {cleaned : Cleaned} (hfile : request.input ≠ stdinPath)
    (hopen : request.language = none) (h : clean w request = .ok cleaned) :
    ∃ settings registry language, ScansBy w request settings registry language cleaned ∧
      let report : Report := {
        path := request.input
        detection := registry.detect request.input (some cleaned.source)
        effective := language.id }
      report.detection.language?.getD report.effective = report.effective ∧
      ∀ format, detect w request.input format = .say (.ok (report.text w.lib.json format)) := by
  obtain ⟨settings, registry, language, hsettings, hregistry, hsource, hlanguage, htext,
    hadvisories, -⟩ := clean_cases h
  have hget := hlanguage
  rw [resolveLanguage_of_open hfile hopen] at hget
  have hid := Registry.id_of_get hget
  refine ⟨settings, registry, language,
    ⟨hsettings, hregistry, ?_, look?_of_readInput hfile hsource, hlanguage, h, htext, hadvisories⟩,
    ?_, fun format => ?_⟩
  · rwa [hid]
  · dsimp only
    rw [hid]
    cases (registry.detect request.input (some cleaned.source)).language? <;> rfl
  · rw [detect_of_readInput hfile hsettings hregistry hsource, hid]

/-- Where the language is not known, detection finds nothing and names the same language. -/
theorem detect_of_unknownLanguage {id : String} (hfile : request.input ≠ stdinPath)
    (hopen : request.language = none) (h : clean w request = .error (.unknownLanguage id))
    (format : OutputFormat) :
    let report : Report := { path := request.input, detection := .unknown, effective := id }
    detect w request.input format = .say (.ok (report.text w.lib.json format)) := by
  obtain ⟨settings, registry, source, hsettings, hregistry, hsource, hlanguage⟩ :=
    clean_unknownLanguage h
  rw [resolveLanguage_of_open hfile hopen] at hlanguage
  obtain ⟨hunknown, rfl⟩ := unknown_of_get rfl hlanguage
  rw [detect_of_readInput hfile hsettings hregistry hsource, hunknown]
  rfl

/-- Delivering a result is no matter of a language. -/
theorem clean_of_strip_unknownLanguage {id : String}
    (h : (strip w request).error? = some (.unknownLanguage id)) :
    clean w request = .error (.unknownLanguage id) := by
  cases strip_cases w request with
  | refused hclean heq =>
    rw [heq] at h
    cases h
    exact hclean
  | placeless _ heq | written _ _ _ heq | printed _ _ _ heq =>
    rw [heq] at h
    cases h

end Command

/-! ## Runs -/

/-- A run tells a report and does nothing else: it ends in no error, it leaves the disk as it is, and
where standard output takes what it is given, that is a text that tells the report. -/
def Invocation.Reports (lib : Libraries) (disk : Disk) (call : Invocation) (format : OutputFormat)
    (report : Report) : Prop :=
  ∃ text, report.Told lib.json format text ∧ (run lib disk call).1.error? = none ∧
    (run lib disk call).2 = disk ∧
    (call.stdout.Open → (run lib disk call).1 = { stdout := bytesOf text })

section
variable {lib : Libraries} {disk : Disk} {stripping detecting : Invocation} {request : StripRequest}
  {format : OutputFormat}

/-- What detection sees of a disk does not hang on standard input or the clock. -/
theorem detect_world (henv : detecting.env = stripping.env) (path : String) :
    detect (detecting.world lib disk) path format =
      detect (stripping.world lib disk) path format := by
  have hsettings : (detecting.world lib disk).settings = (stripping.world lib disk).settings := by
    simp only [World.settings, Invocation.world_env, Invocation.world_look?, Invocation.world_lib,
      henv]
  simp only [detect, hsettings, peek, Invocation.world_look?, Invocation.world_lib]

/-- A line is printed, or the run breaks off because standard output does not take it. -/
theorem carryOut_say (sink : Sink) (disk : Disk) (text : String) :
    carryOut sink disk { actions := [.say text] } = ({ stdout := bytesOf text }, disk) ∨
      ¬ sink.Open ∧ ∃ part, carryOut sink disk { actions := [.say text] } =
        ({ ending := .brokenOff, stdout := part }, disk) := by
  rw [carryOut, Progress.performAll, Action.say, Progress.perform]
  obtain htaken | ⟨part, cause, hpart, -, hclosed, -⟩ := sink.write_cases [] text
  · rw [htaken]
    exact .inl rfl
  · rw [hpart]
    exact .inr ⟨hclosed, part, rfl⟩

/-- A run that answers with a text that tells a report tells the report. -/
theorem reports_of_say {call : Invocation} {report : Report} {text : String}
    (htold : report.Told lib.json format text)
    (h : answerTo (call.world lib disk) call.args = .say (.ok text)) :
    call.Reports lib disk format report := by
  have hrun : run lib disk call = carryOut call.stdout disk { actions := [.say text] } := by
    rw [run, h]
    rfl
  obtain hsaid | ⟨hclosed, part, hbroken⟩ := carryOut_say call.stdout disk text
  · rw [Invocation.Reports, hrun, hsaid]
    exact ⟨text, htold, rfl, rfl, fun _ => rfl⟩
  · rw [Invocation.Reports, hrun, hbroken]
    exact ⟨text, htold, rfl, rfl, fun hopen => absurd hopen hclosed⟩

end

end Decomment
