import Decomment.Proofs.Command.Answers
import Decomment.Proofs.Disk.Changes

/-!
# What a command changes on the disk

A run that fails has changed no file and printed nothing, but for a result that standard output takes
only in part; a run that does not fail has changed no file but those that its request names
(`run_changes_only_targets`, with `Request.targets`). The answers say which changes are made. What is
left to show is that changes of which one fails leave every file as it is: only the first write of an
answer can fail (`Request.performAll_error`).
-/

namespace Decomment

open Command

namespace Command

/-! ## Carrying the changes out -/

section
variable {disk : Disk}

/-- A write that fails leaves the disk as it is. -/
theorem performAll_write_error {new : Disk} {path : String} {content : Content} {cause : DiskError}
    (h : disk.performAll [.write path content] = (new, some cause)) : new = disk := by
  obtain ⟨_, hdone, -⟩ | ⟨_, hsame⟩ := disk.perform_write_cases path content
  · cases h.symm.trans (Disk.performAll_cons_of_ok hdone [])
  · cases h.symm.trans (Disk.performAll_cons_of_error hsame [])
    rfl

/-- Once the backup of a file is written, the file can be written too. -/
theorem performAll_backup_cases {input : String} {content : Content}
    (hinput : disk.look? input = some (.file content)) (backup : String) (kept result : Content) :
    (∃ cause, disk.performAll [.write backup kept, .write input result] = (disk, some cause)) ∨
      ∃ between new,
        disk.performAll [.write backup kept, .write input result] = (new, none) ∧
        Disk.Wrote backup kept disk between ∧ Disk.Wrote input result between new := by
  obtain ⟨between, hbetween, hwrote⟩ | ⟨cause, hsame⟩ := disk.perform_write_cases backup kept
  · obtain ⟨hreaches, hfile⟩ := Disk.look?_eq_file_iff.1 hinput
    have hreaches' : between.Reaches input := hwrote.grows.reaches hreaches
    have hfree : between.node? (between.place input) ≠ some .directory := by
      rw [hwrote.grows.place_eq, hwrote.node?_eq]
      split
      · simp
      · simp [Disk.file?_eq_some_iff.1 hfile]
    obtain ⟨new, hnew⟩ := Disk.write_of_reaches hreaches' hfree result
    refine .inr ⟨between, new, ?_, hwrote, Disk.wrote_of_write hnew⟩
    rw [Disk.performAll_cons_of_ok hbetween, Disk.performAll, Disk.perform, hnew]
    rfl
  · exact .inl ⟨cause, Disk.performAll_cons_of_error hsame _⟩

/-- Saving a text makes directories, and then writes the file or fails. -/
theorem performAll_save_cases (disk : Disk) (path : String) (text : List Char) :
    ∃ made failure, disk.makeDirectories (Path.parent path) = (made, failure) ∧
      ((∃ cause, disk.performAll (saveEffects path text) = (made, some cause) ∧
          (failure = none → made.write path (.text text) = .error cause)) ∨
        ∃ new, disk.performAll (saveEffects path text) = (new, none) ∧
          Disk.Wrote path (.text text) made new) := by
  cases hmake : disk.makeDirectories (Path.parent path) with
  | mk made failure =>
    have hperform : disk.perform (.makeDirectories (Path.parent path)) = (made, failure) := by
      rw [Disk.perform, hmake]
    refine ⟨made, failure, rfl, ?_⟩
    cases failure with
    | some cause =>
      exact .inl ⟨cause, Disk.performAll_cons_of_error hperform _, fun h => by cases h⟩
    | none =>
      rw [saveEffects, Disk.performAll_cons_of_ok hperform, Disk.performAll, Disk.perform]
      cases hwrite : made.write path (.text text) with
      | error cause => exact .inl ⟨cause, rfl, fun _ => rfl⟩
      | ok new => exact .inr ⟨new, rfl, Disk.wrote_of_write hwrite⟩

/-- A result that cannot be delivered leaves the disk as it is: where a backup is kept, the write
that can fail is the first one. -/
theorem performAll_strip_error {new : Disk} {cause : DiskError} (hlook : w.look? = disk.look?)
    (hfail : disk.performAll (strip w request).effects = (new, some cause)) : new = disk := by
  obtain ⟨-, hnone⟩ | ⟨cleaned, hclean, -, hfile, heffects⟩ := strip_effects w request
  · rw [hnone] at hfail
    cases hfail
  · rw [heffects] at hfail
    obtain hdeliver | ⟨path, hdeliver⟩ | ⟨hplace, hdeliver⟩ := cleaned.effects_cases w request
    all_goals rw [hdeliver] at hfail
    · cases hfail
    · exact performAll_write_error hfail
    · obtain ⟨-, -, -, -, -, hread, -⟩ := clean_cases hclean
      have hinput : disk.look? request.input = some (.file (.text cleaned.source)) :=
        hlook ▸ look?_of_readInput (hfile hplace) hread
      obtain ⟨_, hsame⟩ | ⟨_, _, hdone, -⟩ :=
        performAll_backup_cases hinput (backupPath w request.input) (.text cleaned.source)
          (.text cleaned.text)
      · cases hfail.symm.trans hsame
        rfl
      · cases hfail.symm.trans hdone

/-- A text that cannot be saved leaves every file as it is. -/
theorem performAll_save_error {new : Disk} {path : String} {text : List Char} {cause : DiskError}
    (h : disk.performAll (saveEffects path text) = (new, some cause)) (place : Location) :
    new.file? place = disk.file? place := by
  obtain ⟨made, failure, hmake, ⟨cause', hfail, -⟩ | ⟨new', hdone, -⟩⟩ :=
    performAll_save_cases disk path text
  · cases h.symm.trans hfail
    have hmade := disk.made_makeDirectories (Path.parent path)
    rw [hmake] at hmade
    exact hmade.file?_eq place
  · cases h.symm.trans hdone

end

end Command

/-! ## What a request changes -/

namespace Request

/-- The paths of the files that a request changes: the output of a command that strips comments, or
its input and the backup of it, if one is kept, or the settings. -/
def targets (w : World) : Request → List String
  | .strip request =>
    match clean w request with
    | .error _ => []
    | .ok cleaned =>
      if request.inPlace then
        (if cleaned.backup then [backupPath w request.input] else []) ++ [request.input]
      else request.output.toList
  | .configSet _ _ => w.env.settingsPath.toOption.toList
  | _ => []

variable {w : World} {request : Request}

/-- A request writes its targets and nothing else. -/
theorem mem_targets {path : String} {content : Content}
    (hwrite : .write path content ∈ (request.answer w).effects) : path ∈ request.targets w := by
  obtain htells | ⟨asked, rfl⟩ | ⟨name, value, rfl⟩ := request.answer_cases w
  · rw [htells.effects] at hwrite
    cases hwrite
  · obtain ⟨-, heffects⟩ | ⟨cleaned, hclean, -, -, heffects⟩ := strip_effects w asked
    · rw [answer, heffects] at hwrite
      cases hwrite
    · rw [answer, heffects, Cleaned.effects] at hwrite
      rw [targets, hclean]
      dsimp only
      cases hplace : asked.inPlace with
      | false => simp_all
      | true =>
        rw [if_pos rfl]
        rw [if_pos hplace] at hwrite
        cases hbackup : cleaned.backup with
        | false => simp_all
        | true =>
          simp only [hbackup, if_true, List.mem_append, List.mem_singleton, Effect.write.injEq]
            at hwrite ⊢
          exact hwrite.imp And.left And.left
  · obtain hunwritten | ⟨kept, text, hpath, heffects⟩ := configSet_effects w name value
    · exact absurd hwrite (hunwritten path content)
    · rw [answer, heffects] at hwrite
      simp_all [targets, saveEffects, Except.toOption]

/-- Changes of which one fails leave every file as it is. -/
theorem performAll_error {disk new : Disk} {cause : DiskError} (hlook : w.look? = disk.look?)
    (hfail : disk.performAll (request.answer w).effects = (new, some cause)) (place : Location) :
    new.file? place = disk.file? place := by
  obtain htells | ⟨asked, rfl⟩ | ⟨name, value, rfl⟩ := request.answer_cases w
  · rw [htells.effects] at hfail
    cases hfail
  · rw [performAll_strip_error hlook hfail]
  · obtain hunwritten | ⟨path, text, -, heffects⟩ := configSet_effects w name value
    · have hplace := disk.performAll_file? _ place fun path content hwrite =>
        absurd hwrite (hunwritten path content)
      rw [answer] at hfail
      rwa [hfail] at hplace
    · rw [answer, heffects] at hfail
      exact performAll_save_error hfail place

end Request

/-! ## Runs -/

/-- A run keeps every directory. -/
theorem grows_run (lib : Libraries) (disk : Disk) (call : Invocation) :
    Disk.Grows disk (run lib disk call).2 := by
  have hgrows := disk.grows_performAll (answerTo (call.world lib disk) call.args).effects
  cases run_course lib disk call with
  | blocked hchanges => rwa [hchanges] at hgrows
  | failed hchanges => rwa [hchanges] at hgrows
  | unheard _ hsame =>
    rw [hsame]
    exact .refl disk
  | finished hchanges => rwa [hchanges] at hgrows

/-- The disk after runs of the program, one after the other. -/
def runAll (lib : Libraries) (disk : Disk) (calls : List Invocation) : Disk :=
  calls.foldl (fun disk call => (run lib disk call).2) disk

@[simp]
theorem runAll_cons (lib : Libraries) (disk : Disk) (call : Invocation) (calls : List Invocation) :
    runAll lib disk (call :: calls) = runAll lib (run lib disk call).2 calls := rfl

theorem runAll_append (lib : Libraries) (disk : Disk) (earlier later : List Invocation) :
    runAll lib disk (earlier ++ later) = runAll lib (runAll lib disk earlier) later :=
  List.foldl_append

/-- A run changes no file but the targets of its request, and none at all if it fails. -/
theorem run_file? (lib : Libraries) (disk : Disk) (call : Invocation) (place : Location)
    (h : (run lib disk call).1.error? = none → ∀ request, lib.readArgs call.args = .request request →
      ∀ path ∈ request.targets (call.world lib disk), place ≠ disk.place path) :
    (run lib disk call).2.file? place = disk.file? place := by
  have hall := disk.performAll_file? (answerTo (call.world lib disk) call.args).effects place
  cases run_course lib disk call with
  | blocked hchanges =>
    obtain htells | ⟨request, -, hanswer⟩ := answerTo_cases (call.world lib disk) call.args
    · rw [htells.effects] at hchanges
      exact absurd (congrArg Prod.snd hchanges) nofun
    · rw [hanswer] at hchanges
      exact Request.performAll_error rfl hchanges place
  | failed hchanges hunwritten =>
    rw [hchanges] at hall
    exact hall fun path content hwrite => absurd hwrite (hunwritten path content)
  | unheard _ hsame => rw [hsame]
  | finished hchanges _ hdone =>
    rw [hchanges] at hall
    refine hall fun path content hwrite => ?_
    obtain htells | ⟨request, hread, hanswer⟩ := answerTo_cases (call.world lib disk) call.args
    · rw [htells.effects] at hwrite
      cases hwrite
    · exact h hdone request hread path (Request.mem_targets (hanswer ▸ hwrite))

end Decomment
