import Decomment.Command

/-!
# How an answer is carried out

The answer of a command is orderly: warnings come first, then changes of the disk, and texts for
standard output last (`Answer.Orderly`). If it fails, nothing is printed and nothing is written; only
directories may have been made. A result that has to reach standard output comes without any change.
`carryOut_course` says what an orderly answer comes to, whatever standard output does: a change fails,
or the command does, or standard output does not take the result, or nothing of this happens.
-/

namespace Decomment

/-! ## One action after the other -/

namespace Progress

variable {sink : Sink} {p : Progress}

/-- Warnings stop no run. -/
theorem performAll_warnings (lines : List String) (later : List Action) :
    p.performAll sink (lines.map .warn ++ later) =
      { p with stderr := lines.foldl (· ++ ·) p.stderr }.performAll sink later := by
  induction lines generalizing p with
  | nil => rfl
  | cons line lines ih => exact ih

/-- Changes of the disk stop a run at the first one that fails. -/
theorem performAll_changes (effects : List Effect) (later : List Action) :
    p.performAll sink (effects.map .change ++ later) =
      match p.disk.performAll effects with
      | (disk, some cause) => ({ p with disk }, some (.failed (.disk cause)))
      | (disk, none) => { p with disk }.performAll sink later := by
  induction effects generalizing p with
  | nil => rfl
  | cons effect effects ih =>
    rw [List.map_cons, List.cons_append, performAll, perform, Disk.performAll]
    match p.disk.perform effect with
    | (disk, some cause) => rfl
    | (disk, none) => exact ih

end Progress

/-- An action by which a run cannot fail and which leaves the disk alone. -/
def Action.Announces : Action → Prop
  | .change _ => False
  | .warn _ => True
  | .print _ otherwise => otherwise ≠ .fail

namespace Progress

variable {sink : Sink} {p q : Progress} {ending? : Option Ending}

/-- An announcement leaves the disk as it is. A run ends by it only if it breaks off because standard
output does not take all that it is given. -/
theorem perform_announcement {action : Action} (h : action.Announces)
    (hperform : p.perform sink action = (q, ending?)) :
    q.disk = p.disk ∧ ∀ ending ∈ ending?, ending = .brokenOff ∧ ¬ sink.Open := by
  cases action with
  | change effect => cases h
  | warn text =>
    cases hperform
    exact ⟨rfl, nofun⟩
  | print text otherwise =>
    rw [perform] at hperform
    obtain htaken | ⟨part, cause, hpart, -, hclosed, -⟩ := sink.write_cases p.stdout text
    · rw [htaken] at hperform
      cases hperform
      exact ⟨rfl, nofun⟩
    · rw [hpart] at hperform
      cases hperform
      cases otherwise with
      | fail => exact absurd rfl h
      | breakOff => exact ⟨rfl, by rintro _ ⟨⟩; exact ⟨rfl, hclosed⟩⟩
      | goOn => exact ⟨rfl, nofun⟩

/-- Announcements leave the disk as it is. A run ends by them only if it breaks off because standard
output does not take all that it is given. -/
theorem performAll_announcements {actions : List Action} (h : ∀ action ∈ actions, action.Announces)
    (hall : p.performAll sink actions = (q, ending?)) :
    q.disk = p.disk ∧ ∀ ending ∈ ending?, ending = .brokenOff ∧ ¬ sink.Open := by
  induction actions generalizing p with
  | nil =>
    cases hall
    exact ⟨rfl, nofun⟩
  | cons action actions ih =>
    obtain ⟨haction, hactions⟩ := List.forall_mem_cons.1 h
    rw [performAll] at hall
    match hperform : p.perform sink action with
    | (between, some ending) =>
      rw [hperform] at hall
      cases hall
      exact perform_announcement haction hperform
    | (between, none) =>
      rw [hperform] at hall
      rw [← (perform_announcement haction hperform).1]
      exact ih hactions hall

end Progress

/-! ## Orderly answers -/

/-- The change of the disk that an action is, if it is one. -/
def Action.effect? : Action → Option Effect
  | .change effect => some effect
  | _ => none

/-- The changes of the disk among the actions of an answer. -/
def Answer.effects (answer : Answer) : List Effect :=
  answer.actions.filterMap Action.effect?

/-- The order in which the answers of all commands do things. -/
inductive Answer.Orderly (answer : Answer) : Prop
  /-- After warnings it fails. What it has changed then is no file. -/
  | fails (warnings : List String) (effects : List Effect) {e : Error}
      (actions : answer.actions = warnings.map .warn ++ effects.map .change)
      (error : answer.error? = some e)
      (unwritten : ∀ path content, .write path content ∉ effects) : Orderly answer
  /-- After warnings it changes the disk and then says so. -/
  | announces (warnings : List String) (effects : List Effect) {announcements : List Action}
      (actions : answer.actions = warnings.map .warn ++ effects.map .change ++ announcements)
      (error : answer.error? = none)
      (announced : ∀ action ∈ announcements, action.Announces) : Orderly answer
  /-- After warnings it prints its result. -/
  | prints (warnings : List String) {text : String}
      (actions : answer.actions = warnings.map .warn ++ [.print text .fail])
      (error : answer.error? = none) : Orderly answer

theorem Action.Announces.effect?_eq_none {action : Action} (h : action.Announces) :
    action.effect? = none := by
  cases action with
  | change effect => cases h
  | warn text => rfl
  | print text otherwise => rfl

theorem Answer.effects_eq {answer : Answer} (warnings : List String) (effects : List Effect)
    (others : List Action)
    (hactions : answer.actions = warnings.map .warn ++ effects.map .change ++ others)
    (hothers : ∀ action ∈ others, action.effect? = none) : answer.effects = effects := by
  have hwarnings : (warnings.map Action.warn).filterMap Action.effect? = [] :=
    List.filterMap_eq_nil_iff.2 (by simp [Action.effect?])
  have hchanges : (effects.map Action.change).filterMap Action.effect? = effects := by
    rw [List.filterMap_map]
    exact List.filterMap_some
  rw [Answer.effects, hactions, List.filterMap_append, List.filterMap_append, hwarnings, hchanges,
    List.filterMap_eq_nil_iff.2 hothers, List.nil_append, List.append_nil]

/-! ## What an answer comes to -/

/-- What carrying out an answer on a disk comes to. -/
inductive Course (sink : Sink) (disk : Disk) (answer : Answer) (outcome : Outcome) (new : Disk) : Prop
  /-- A change fails. -/
  | blocked {cause : DiskError}
      (changes : disk.performAll answer.effects = (new, some cause))
      (ending : outcome.ending = .failed (.disk cause))
      (silent : outcome.stdout = []) : Course sink disk answer outcome new
  /-- The command fails, and has written no file. -/
  | failed {e : Error}
      (changes : disk.performAll answer.effects = (new, none))
      (unwritten : ∀ path content, .write path content ∉ answer.effects)
      (error : answer.error? = some e)
      (ending : outcome.ending = .failed e)
      (silent : outcome.stdout = []) : Course sink disk answer outcome new
  /-- Standard output does not take the result as a whole, and nothing is changed. -/
  | unheard {text : String} {cause : OutputError}
      (printed : .print text .fail ∈ answer.actions)
      (unchanged : new = disk)
      (ending : outcome.ending = .failed (.output cause))
      (part : outcome.stdout <+: bytesOf text)
      (whole : sink.Whole → outcome.stdout = []) : Course sink disk answer outcome new
  /-- All changes are made, and the command does not fail; it breaks off only if standard output does
  not take all that it is given. -/
  | finished
      (changes : disk.performAll answer.effects = (new, none))
      (error : answer.error? = none)
      (ending : outcome.error? = none)
      (heard : sink.Open → outcome.ending = .done) : Course sink disk answer outcome new

section
variable {sink : Sink} {disk new : Disk} {answer : Answer} {outcome : Outcome}

/-- What does not fail makes all its changes, and is done where standard output takes all that it is
given. -/
theorem Course.of_done (h : Course sink disk answer outcome new) (hdone : outcome.error? = none) :
    disk.performAll answer.effects = (new, none) ∧ answer.error? = none ∧
      (sink.Open → outcome.ending = .done) := by
  cases h with
  | blocked _ hending => cases (congrArg Ending.error? hending).symm.trans hdone
  | failed _ _ _ hending => cases (congrArg Ending.error? hending).symm.trans hdone
  | unheard _ _ hending => cases (congrArg Ending.error? hending).symm.trans hdone
  | finished hchanges herror _ hheard => exact ⟨hchanges, herror, hheard⟩

/-- What fails does so by the disk, by standard output, or of itself. -/
theorem Course.of_error {e : Error} (h : Course sink disk answer outcome new)
    (herror : outcome.error? = some e) :
    (∃ cause, e = .disk cause) ∨ (∃ cause, e = .output cause) ∨ answer.error? = some e := by
  cases h with
  | blocked _ hending =>
    cases (congrArg Ending.error? hending).symm.trans herror
    exact .inl ⟨_, rfl⟩
  | failed _ _ herror' hending =>
    cases (congrArg Ending.error? hending).symm.trans herror
    exact .inr (.inr herror')
  | unheard _ _ hending =>
    cases (congrArg Ending.error? hending).symm.trans herror
    exact .inr (.inl ⟨_, rfl⟩)
  | finished _ _ hdone => cases hdone.symm.trans herror

/-- **What an orderly answer comes to.** -/
theorem carryOut_course (sink : Sink) (disk : Disk) (h : answer.Orderly) :
    Course sink disk answer (carryOut sink disk answer).1 (carryOut sink disk answer).2 := by
  cases h with
  | fails warnings effects hactions herror hunwritten =>
    have hactions := hactions.trans (List.append_nil _).symm
    have heffects : answer.effects = effects := Answer.effects_eq _ _ _ hactions nofun
    rw [carryOut, hactions, List.append_assoc, Progress.performAll_warnings,
      Progress.performAll_changes]
    match hchanges : disk.performAll effects with
    | (new, some cause) => exact .blocked (heffects ▸ hchanges) rfl rfl
    | (new, none) =>
      exact .failed (heffects ▸ hchanges) (heffects ▸ hunwritten) herror (by rw [herror]; rfl) rfl
  | @announces warnings effects announcements hactions herror hannounced =>
    have heffects : answer.effects = effects :=
      Answer.effects_eq _ _ _ hactions fun action haction => (hannounced action haction).effect?_eq_none
    rw [carryOut, hactions, List.append_assoc, Progress.performAll_warnings,
      Progress.performAll_changes]
    match hchanges : disk.performAll effects with
    | (new, some cause) => exact .blocked (heffects ▸ hchanges) rfl rfl
    | (new, none) =>
      dsimp only
      match htold : Progress.performAll sink _ announcements with
      | (q, ending?) =>
        obtain ⟨hdisk, hending⟩ := Progress.performAll_announcements hannounced htold
        have hchanged : disk.performAll answer.effects = (q.disk, none) := by
          rw [heffects, hchanges, hdisk]
        cases ending? with
        | none =>
          rw [herror]
          exact .finished hchanged herror rfl fun _ => rfl
        | some ending =>
          obtain ⟨rfl, hclosed⟩ := hending _ rfl
          exact .finished hchanged herror rfl fun hopen => absurd hopen hclosed
  | @prints warnings text hactions herror =>
    have heffects : answer.effects = [] :=
      Answer.effects_eq warnings [] [.print text .fail] (by simp [hactions])
        (by simp [Action.effect?])
    rw [carryOut, hactions, Progress.performAll_warnings, Progress.performAll, Progress.perform]
    obtain htaken | ⟨part, cause, hpart, hprefix, -, hwhole⟩ := sink.write_cases [] text
    · rw [htaken]
      rw [herror]
      exact .finished (by rw [heffects]; rfl) herror rfl fun _ => rfl
    · rw [hpart]
      exact .unheard (by rw [hactions]; exact List.mem_append_right _ (List.mem_singleton_self _))
        rfl rfl hprefix hwhole

end

end Decomment
