import Decomment.Proofs.Command.Actions

/-!
# What commands answer

Only two commands change the disk. The one that removes comments writes the output, or the input and
before it the backup (`strip_cases`); the one that changes a setting saves the settings
(`configSet_cases`). The others fail at once or only tell something (`Tells`). So all answers are
orderly (`Request.orderly_answer`), and `run_course` says what a run comes to.
-/

namespace Decomment

open Command

namespace Command

variable {w : World} {request : StripRequest} {cleaned : Cleaned}

/-! ## The answers of commands -/

theorem ofDisk_eq_ok {α : Type} {x : Except DiskError α} {a : α} (h : ofDisk x = .ok a) :
    x = .ok a := by
  cases x with
  | error cause => cases h
  | ok b => cases h; rfl

/-- Only a text can be read. -/
theorem chars_eq_ok {node : Node} {chars : List Char} (h : node.chars = .ok chars) :
    node = .file (.text chars) := by
  match node with
  | .directory => cases h
  | .file (.binary _) => cases h
  | .file (.text _) => cases h; rfl

/-- An input other than standard input is a file with text. -/
theorem look?_of_readInput {input : String} {source : List Char} (hfile : input ≠ stdinPath)
    (h : readInput w input = .ok source) : w.look? input = some (.file (.text source)) := by
  rw [readInput, if_neg hfile] at h
  match hlook : w.look? input with
  | none => rw [hlook] at h; cases h
  | some node =>
    rw [hlook] at h
    rw [chars_eq_ok (ofDisk_eq_ok h)]

/-- What it takes to remove the comments of a text. -/
theorem clean_cases (h : clean w request = .ok cleaned) :
    ∃ settings registry language, w.settings = .ok settings ∧ settings.registry = .ok registry ∧
      readInput w request.input = .ok cleaned.source ∧
      resolveLanguage registry settings request cleaned.source = .ok language ∧
      cleaned.text =
        (settings.tidy.merge request.tidy).apply (scan language.lexis cleaned.source).text ∧
      cleaned.advisories = (scan language.lexis cleaned.source).advisories ∧
      cleaned.backup = (settings.backup && !request.noBackup) := by
  rw [clean] at h
  split at h
  · cases h
  · obtain ⟨settings, hsettings, h⟩ := bind_eq_ok h
    obtain ⟨registry, hregistry, h⟩ := bind_eq_ok h
    obtain ⟨source, hsource, h⟩ := bind_eq_ok h
    obtain ⟨language, hlanguage, h⟩ := bind_eq_ok h
    cases h
    exact ⟨settings, registry, language, hsettings, hregistry, hsource, hlanguage, rfl, rfl, rfl⟩

/-- The changes that deliver a result: the backup, if one is kept, before the input is written over,
or else the output, if there is one. -/
def Cleaned.effects (w : World) (request : StripRequest) (cleaned : Cleaned) : List Effect :=
  if request.inPlace then
    (if cleaned.backup then
      [.write (backupPath w request.input) (.text cleaned.source)] else []) ++
    [.write request.input (.text cleaned.text)]
  else request.output.toList.map (.write · (.text cleaned.text))

/-- A result is written to one file, and a backup before it at most where that file is the input. -/
theorem Cleaned.effects_cases (w : World) (request : StripRequest) (cleaned : Cleaned) :
    cleaned.effects w request = [] ∨
      (∃ path, cleaned.effects w request = [.write path (.text cleaned.text)]) ∨
      request.inPlace = true ∧ cleaned.effects w request = [
        .write (backupPath w request.input) (.text cleaned.source),
        .write request.input (.text cleaned.text)] := by
  rw [effects]
  cases request.inPlace with
  | false =>
    cases request.output with
    | none => exact .inl rfl
    | some output => exact .inr (.inl ⟨output, rfl⟩)
  | true =>
    cases cleaned.backup with
    | false => exact .inr (.inl ⟨request.input, rfl⟩)
    | true => exact .inr (.inr ⟨rfl, rfl⟩)

/-- What the command that removes comments answers. -/
inductive Strips (w : World) (request : StripRequest) (answer : Answer) : Prop
  /-- There is no result. -/
  | refused {e : Error} (clean : clean w request = .error e) (answer_eq : answer = .fail e)
  /-- Standard input cannot be written over. -/
  | placeless {cleaned : Cleaned} {warnings : List String} (clean : clean w request = .ok cleaned)
      (answer_eq : answer =
        { actions := warnings.map .warn, error? := some .inPlaceStdin }) : Strips w request answer
  /-- The result is written to a file. -/
  | written {cleaned : Cleaned} {warnings : List String} {announcements : List Action}
      (clean : clean w request = .ok cleaned)
      (file : request.inPlace = true → request.input ≠ stdinPath)
      (announced : ∀ action ∈ announcements, action.Announces)
      (answer_eq : answer = {
        actions := warnings.map .warn ++ (cleaned.effects w request).map .change ++ announcements })
  /-- The result is printed. -/
  | printed {cleaned : Cleaned} {warnings : List String} (clean : clean w request = .ok cleaned)
      (away : request.inPlace = false) (effects : cleaned.effects w request = [])
      (answer_eq : answer = {
        actions := warnings.map .warn ++ [.print (String.ofList cleaned.text) .fail] })

theorem orderly_fail (e : Error) : (Answer.fail e).Orderly :=
  .fails [] [] rfl rfl nofun

theorem announces_say (text : String) : (Action.say text).Announces :=
  nofun

theorem deliver_cases (w : World) (request : StripRequest) (cleaned : Cleaned) :
    deliver w request cleaned = .fail .inPlaceStdin ∨
      (∃ announcements : List Action, (∀ action ∈ announcements, action.Announces) ∧
        (request.inPlace = true → request.input ≠ stdinPath) ∧
        deliver w request cleaned =
          { actions := (cleaned.effects w request).map .change ++ announcements }) ∨
      request.inPlace = false ∧ cleaned.effects w request = [] ∧
        deliver w request cleaned =
          { actions := [.print (String.ofList cleaned.text) .fail] } := by
  rw [deliver, Cleaned.effects]
  match hplace : request.inPlace with
  | true =>
    by_cases hstdin : request.input = stdinPath
    · exact .inl (by rw [if_pos rfl, if_pos hstdin])
    · refine .inr (.inl ?_)
      rw [if_pos rfl, if_pos rfl, if_neg hstdin]
      match cleaned.backup with
      | true => exact ⟨[.say _, .say _], by simp [announces_say], fun _ => hstdin, rfl⟩
      | false => exact ⟨[.say _], by simp [announces_say], fun _ => hstdin, rfl⟩
  | false =>
    match request.output with
    | some output => exact .inr (.inl ⟨[.say _], by simp [announces_say], nofun, rfl⟩)
    | none => exact .inr (.inr ⟨rfl, rfl, rfl⟩)

theorem strip_cases (w : World) (request : StripRequest) : Strips w request (strip w request) := by
  match hclean : clean w request with
  | .error e => exact .refused hclean (by rw [strip, hclean]; rfl)
  | .ok cleaned =>
    have hstrip : strip w request = (deliver w request cleaned).after
        ((cleaned.advisories.map (warning request.input)).map .warn) := by
      rw [strip, hclean, List.map_map]
      rfl
    rw [hstrip]
    obtain hfail | ⟨announcements, hannounced, hfile, hdeliver⟩ |
        ⟨haway, heffects, hdeliver⟩ :=
      deliver_cases w request cleaned
    · exact .placeless hclean (by rw [hfail, Answer.after, Answer.fail, List.append_nil])
    · exact .written hclean hfile hannounced
        (by rw [hdeliver, Answer.after, List.append_assoc])
    · exact .printed hclean haway heffects (by rw [hdeliver, Answer.after])

/-- Removing comments fails without any change, or it makes the changes that deliver the result. -/
theorem strip_effects (w : World) (request : StripRequest) :
    (∃ e, (strip w request).error? = some e) ∧ (strip w request).effects = [] ∨
      ∃ cleaned, clean w request = .ok cleaned ∧ (strip w request).error? = none ∧
        (request.inPlace = true → request.input ≠ stdinPath) ∧
        (strip w request).effects = cleaned.effects w request := by
  cases strip_cases w request with
  | refused _ heq =>
    rw [heq]
    exact .inl ⟨⟨_, rfl⟩, rfl⟩
  | @placeless cleaned warnings _ heq =>
    rw [heq]
    exact .inl ⟨⟨_, rfl⟩, Answer.effects_eq warnings [] [] (by simp) nofun⟩
  | written hclean hfile hannounced heq =>
    rw [heq]
    exact .inr ⟨_, hclean, rfl, hfile,
      Answer.effects_eq _ _ _ rfl fun action haction => (hannounced action haction).effect?_eq_none⟩
  | @printed cleaned warnings hclean haway heffects heq =>
    rw [heq]
    refine .inr ⟨cleaned, hclean, rfl, fun hplace => ?_, ?_⟩
    · rw [haway] at hplace
      cases hplace
    · rw [heffects]
      exact Answer.effects_eq warnings [] [.print (String.ofList cleaned.text) .fail] (by simp)
        (by simp [Action.effect?])

theorem orderly_strip (w : World) (request : StripRequest) : (strip w request).Orderly := by
  cases strip_cases w request with
  | refused _ heq =>
    rw [heq]
    exact orderly_fail _
  | placeless _ heq =>
    rw [heq]
    exact .fails _ [] (List.append_nil _).symm rfl nofun
  | written _ _ hannounced heq => exact .announces _ _ (by rw [heq]) (by rw [heq]) hannounced
  | printed _ _ _ heq => exact .prints _ (by rw [heq]) (by rw [heq])

/-- The text that has to be printed is the result. -/
theorem exists_clean_of_print_strip {text : String}
    (h : .print text .fail ∈ (strip w request).actions) :
    ∃ cleaned, clean w request = .ok cleaned ∧ text = String.ofList cleaned.text := by
  cases strip_cases w request with
  | refused _ heq =>
    rw [heq] at h
    cases h
  | placeless _ heq => simp [heq] at h
  | @written _ _ announcements _ _ hannounced heq =>
    have hmem : .print text .fail ∈ announcements := by simpa [heq] using h
    exact absurd rfl (hannounced _ hmem)
  | @printed cleaned _ hclean _ _ heq =>
    have htext : text = String.ofList cleaned.text := by simpa [heq] using h
    exact ⟨cleaned, hclean, htext⟩

/-! ## The other commands -/

/-- The answer of a command that fails at once or only tells something. -/
def Tells (answer : Answer) : Prop :=
  (∃ e, answer = .fail e) ∨
    ∃ actions : List Action, (∀ action ∈ actions, action.Announces) ∧ answer = { actions }

theorem Tells.orderly {answer : Answer} (h : Tells answer) : answer.Orderly := by
  obtain ⟨e, rfl⟩ | ⟨actions, hannounced, rfl⟩ := h
  · exact orderly_fail e
  · exact .announces [] [] rfl rfl hannounced

theorem Tells.announces {answer : Answer} (h : Tells answer) :
    ∀ action ∈ answer.actions, action.Announces := by
  obtain ⟨e, rfl⟩ | ⟨actions, hannounced, rfl⟩ := h
  · exact nofun
  · exact hannounced

theorem Tells.effects {answer : Answer} (h : Tells answer) : answer.effects = [] :=
  List.filterMap_eq_nil_iff.2 fun action haction => (h.announces action haction).effect?_eq_none

/-- A command that may fail before it does anything fails at once, or it does what it does. -/
theorem of_ofExcept {P : Answer → Prop} {result : Except Error Answer} (hfail : ∀ e, P (.fail e))
    (hok : ∀ answer, result = .ok answer → P answer) : P (.ofExcept result) := by
  cases result with
  | error e => exact hfail e
  | ok answer => exact hok answer rfl

theorem tells_say (result : Except Error String) : Tells (.say result) := by
  cases result with
  | error e => exact .inl ⟨e, rfl⟩
  | ok text => exact .inr ⟨[.say text], by simp [announces_say], rfl⟩

theorem showLanguages_announces (json : Value → List Char) (registry : Registry)
    (format : OutputFormat) : ∀ action ∈ showLanguages json registry format, action.Announces := by
  cases format with
  | json => simp [showLanguages, announces_say]
  | text =>
    intro action haction
    rcases List.mem_cons.1 haction with rfl | haction
    · exact announces_say _
    · obtain ⟨language, -, haction⟩ := List.mem_flatMap.1 haction
      simp only [showLanguage, List.cons_append, List.mem_cons, List.mem_append, List.mem_map,
        List.not_mem_nil, or_false] at haction
      obtain rfl | ⟨text, -, rfl⟩ | rfl | rfl | rfl | rfl := haction
      · exact announces_say _
      · trivial
      all_goals exact announces_say _

theorem tells_languages (w : World) (format : OutputFormat) : Tells (languages w format) := by
  refine of_ofExcept (P := Tells) (fun e => .inl ⟨e, rfl⟩) fun answer h => ?_
  obtain ⟨settings, -, h⟩ := bind_eq_ok h
  obtain ⟨registry, -, h⟩ := bind_eq_ok h
  cases h
  exact .inr ⟨_, showLanguages_announces _ _ _, rfl⟩

/-- Settings with one of them set, and where they are kept. -/
structure SetsTo (w : World) (name value : String) (settings : Settings) (key : Settings.Key)
    (changed : Settings) (path : String) : Prop where
  settings_eq : w.settings = .ok settings
  key_eq : Settings.Key.ofName? name = some key
  changed_eq : settings.set key value = .ok changed
  path_eq : w.env.settingsPath = .ok path

/-- What the command that changes a setting answers. -/
inductive Configures (w : World) (name value : String) (answer : Answer) : Prop
  /-- There are no settings to change, or the change is refused. -/
  | refused {e : Error} (answer_eq : answer = .fail e)
  /-- The changed settings have no text. -/
  | unwritable {settings : Settings} {key : Settings.Key} {changed : Settings} {path : String}
      {e : Error} (sets : SetsTo w name value settings key changed path)
      (text : changed.toText w.lib.toml = .error e)
      (answer_eq : answer = {
        actions := [.change (.makeDirectories (Path.parent path))], error? := some e })
  /-- The changed settings are saved. -/
  | saved {settings : Settings} {key : Settings.Key} {changed : Settings} {path : String}
      {text : List Char} (sets : SetsTo w name value settings key changed path)
      (text_eq : changed.toText w.lib.toml = .ok text)
      (answer_eq : answer = {
        actions := (saveEffects path text).map .change ++ [.say s!"{name} = {value}\n"] })

theorem settingKey_eq_ok {name : String} {key : Settings.Key} (h : settingKey name = .ok key) :
    Settings.Key.ofName? name = some key := by
  rw [settingKey] at h
  split at h
  · next hname => cases h; exact hname
  · cases h

theorem configSet_cases (w : World) (name value : String) :
    Configures w name value (configSet w name value) := by
  refine of_ofExcept (P := Configures w name value) (fun e => .refused rfl) fun answer h => ?_
  obtain ⟨settings, hsettings, h⟩ := bind_eq_ok h
  obtain ⟨key, hkey, h⟩ := bind_eq_ok h
  obtain ⟨changed, hchanged, h⟩ := bind_eq_ok h
  obtain ⟨path, hpath, h⟩ := bind_eq_ok h
  have hsets : SetsTo w name value settings key changed path :=
    ⟨hsettings, settingKey_eq_ok hkey, hchanged, hpath⟩
  cases h
  match htext : changed.toText w.lib.toml with
  | .ok text => exact .saved hsets htext (by rw [save, htext]; rfl)
  | .error e => exact .unwritable hsets htext (by rw [save, htext]; rfl)

theorem orderly_configSet (w : World) (name value : String) : (configSet w name value).Orderly := by
  cases configSet_cases w name value with
  | refused heq => exact heq ▸ orderly_fail _
  | @unwritable _ _ _ path _ _ _ heq =>
    rw [heq]
    exact .fails [] [.makeDirectories (Path.parent path)] rfl rfl
      (by simp)
  | @saved _ _ _ path text _ _ heq =>
    rw [heq]
    exact .announces [] (saveEffects path text) rfl rfl
      (by simp [announces_say])

/-- Changing a setting writes nothing, or it saves a text in the place of the settings. -/
theorem configSet_effects (w : World) (name value : String) :
    (∀ path content, .write path content ∉ (configSet w name value).effects) ∨
      ∃ path text, w.env.settingsPath = .ok path ∧
        (configSet w name value).effects = saveEffects path text := by
  cases configSet_cases w name value with
  | refused heq =>
    rw [heq]
    exact .inl nofun
  | unwritable _ _ heq =>
    rw [heq]
    exact .inl (by simp [Answer.effects, Action.effect?])
  | saved hsets _ heq =>
    rw [heq]
    exact .inr ⟨_, _, hsets.path_eq, rfl⟩

theorem print_notMem_configSet (w : World) (name value text : String) :
    .print text .fail ∉ (configSet w name value).actions := by
  cases configSet_cases w name value with
  | refused heq =>
    rw [heq]
    exact nofun
  | unwritable _ _ heq => simp [heq]
  | saved _ _ heq => simp [heq, Action.say]

end Command

/-! ## All commands -/

/-- Only two commands do more than fail at once or tell something. -/
theorem Request.answer_cases (w : World) (request : Request) :
    Tells (request.answer w) ∨ (∃ asked, request = .strip asked) ∨
      ∃ name value, request = .configSet name value := by
  cases request with
  | strip asked => exact .inr (.inl ⟨asked, rfl⟩)
  | configSet name value => exact .inr (.inr ⟨name, value, rfl⟩)
  | languages format => exact .inl (tells_languages w format)
  | detect _ _ | configPath | configGet _ => exact .inl (tells_say _)

/-- The answers of all commands are orderly. -/
theorem Request.orderly_answer (w : World) (request : Request) : (request.answer w).Orderly := by
  obtain htells | ⟨asked, rfl⟩ | ⟨name, value, rfl⟩ := request.answer_cases w
  · exact htells.orderly
  · exact orderly_strip w asked
  · exact orderly_configSet w name value

/-- A command line that makes no request is answered by a text or a failure. -/
theorem answerTo_cases (w : World) (args : List String) :
    Tells (answerTo w args) ∨
      ∃ request, w.lib.readArgs args = .request request ∧ answerTo w args = request.answer w := by
  rw [answerTo]
  split
  · next request hread => exact .inr ⟨request, hread, rfl⟩
  · exact .inl (.inr ⟨_, by simp [Action.Announces], rfl⟩)
  · exact .inl (.inl ⟨_, rfl⟩)

theorem orderly_answerTo (w : World) (args : List String) : (answerTo w args).Orderly := by
  obtain htells | ⟨request, -, hanswer⟩ := answerTo_cases w args
  · exact htells.orderly
  · exact hanswer ▸ request.orderly_answer w

/-- A command line that makes a request is answered as the request is. -/
theorem answerTo_of_request {lib : Libraries} {call : Invocation} {request : Request}
    (h : lib.readArgs call.args = .request request) (disk : Disk) :
    answerTo (call.world lib disk) call.args = request.answer (call.world lib disk) := by
  rw [answerTo, Invocation.world, h]

/-- Only the command that removes comments fails where a text cannot be printed, which is its
result. -/
theorem exists_clean_of_print {w : World} {args : List String} {text : String}
    (h : .print text .fail ∈ (answerTo w args).actions) :
    ∃ request cleaned, w.lib.readArgs args = .request (.strip request) ∧
      clean w request = .ok cleaned ∧ text = String.ofList cleaned.text := by
  have hnone {answer : Answer} (htells : Tells answer) : .print text .fail ∉ answer.actions :=
    fun hmem => htells.announces _ hmem rfl
  obtain htells | ⟨request, hread, hanswer⟩ := answerTo_cases w args
  · exact absurd h (hnone htells)
  rw [hanswer] at h
  obtain htells | ⟨asked, rfl⟩ | ⟨name, value, rfl⟩ := request.answer_cases w
  · exact absurd h (hnone htells)
  · obtain ⟨cleaned, hclean, htext⟩ := exists_clean_of_print_strip h
    exact ⟨asked, cleaned, hread, hclean, htext⟩
  · exact absurd h (print_notMem_configSet w name value text)

/-! ## Runs -/

namespace Invocation

variable (lib : Libraries) (call : Invocation) (disk : Disk)

@[simp]
theorem world_lib : (call.world lib disk).lib = lib := rfl

@[simp]
theorem world_look? : (call.world lib disk).look? = disk.look? := rfl

@[simp]
theorem world_env : (call.world lib disk).env = call.env := rfl

@[simp]
theorem world_stamp : (call.world lib disk).stamp = call.stamp := rfl

end Invocation

/-- What a run comes to. -/
theorem run_course (lib : Libraries) (disk : Disk) (call : Invocation) :
    Course call.stdout disk (answerTo (call.world lib disk) call.args) (run lib disk call).1
      (run lib disk call).2 :=
  carryOut_course _ _ (orderly_answerTo _ _)

end Decomment
