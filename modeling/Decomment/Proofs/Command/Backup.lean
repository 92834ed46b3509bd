import Decomment.Proofs.Command.Effects

/-!
# Edits in place keep every content

An edit in place first writes what the file holds to a backup beside it. The backup never gets the
place of the file itself (`place_backupPath_ne`): the name with the time is taken only while nothing
is there, and the other name is longer than that of the file. So an edit loses nothing but what the
backup's place held before (`inPlace_wrote`), which is nothing if one of the two names was free, and
over a run of such edits no content is lost (`holds_runAll`).
-/

namespace Decomment

open Command

/-! ## The two names of a backup -/

/-- One of the two names that the backup of a file may get is free. -/
def SpareName (disk : Disk) (input stamp : String) : Prop :=
  disk.look? (stampedPath input stamp) = none ∨ disk.look? (input ++ ".bak") = none

section
variable {lib : Libraries} {disk : Disk} {call : Invocation} {input : String}

/-- A file with more behind its name is at another place. -/
theorem place_append_bak_ne (h : disk.Reaches input) :
    disk.place (input ++ ".bak") ≠ disk.place input := by
  obtain ⟨-, hslash, above, last, hnames, henters⟩ := Disk.reaches_iff.1 h
  have hne : Path.names input ≠ [] := by simp [hnames]
  have hmore : Path.names (input ++ ".bak") = above ++ [last ++ ".bak"] :=
    Path.names_append hnames hslash (by decide)
  have hlength : (last ++ ".bak").toList.length = last.toList.length + 4 := by simp
  have hdot : last ++ ".bak" ≠ "." := by
    intro h
    simp [h] at hlength
  have hdots : last ++ ".bak" ≠ ".." := by
    intro h
    simp [h] at hlength
  intro hplace
  rw [Disk.place, Disk.place, hmore, hnames, Disk.start, Disk.start, Path.isAbsolute_append hne,
    List.foldl_append, List.foldl_append, List.foldl_cons, List.foldl_cons, List.foldl_nil,
    Disk.stepTo, Disk.stepTo, if_neg hdot, if_neg hdots, if_neg henters.ne_dot,
    if_neg henters.ne_dots] at hplace
  simp at hplace

theorem backupPath_eq (lib : Libraries) (disk : Disk) (call : Invocation) (input : String) :
    backupPath (call.world lib disk) input =
      if disk.look? (stampedPath input call.stamp) = none then stampedPath input call.stamp
      else input ++ ".bak" := by
  simp only [backupPath, Invocation.world_look?, Invocation.world_stamp,
    Option.isNone_iff_eq_none]

/-- The backup of a file never gets the place of the file. -/
theorem place_backupPath_ne {content : Content} (hinput : disk.look? input = some (.file content))
    (hbackup : disk.Reaches (backupPath (call.world lib disk) input)) :
    disk.place (backupPath (call.world lib disk) input) ≠ disk.place input := by
  obtain ⟨hreaches, hfile⟩ := Disk.look?_eq_file_iff.1 hinput
  rw [backupPath_eq] at hbackup ⊢
  split at hbackup
  · next hfree =>
    rw [if_pos hfree]
    intro hplace
    rw [hbackup.look?_eq, hplace, Disk.file?_eq_some_iff.1 hfile] at hfree
    cases hfree
  · next htaken =>
    rw [if_neg htaken]
    exact place_append_bak_ne hreaches

/-- If one of the two names is free, nothing is where the backup goes. -/
theorem look?_backupPath (lib : Libraries) (h : SpareName disk input call.stamp) :
    disk.look? (backupPath (call.world lib disk) input) = none := by
  rw [backupPath_eq]
  split
  · next hfree => exact hfree
  · next htaken => exact h.resolve_left htaken

end

/-! ## One edit -/

/-- A command line that strips a file in place, with backups enabled. -/
structure EditsWithBackup (lib : Libraries) (disk : Disk) (call : Invocation)
    (request : StripRequest) : Prop where
  parsed : lib.readArgs call.args = .request (.strip request)
  inPlace : request.inPlace = true
  file : request.input ≠ stdinPath
  asked : request.noBackup = false
  enabled : ∀ settings, (call.world lib disk).settings = .ok settings → settings.backup = true

/-- What an edit in place with a backup comes to. -/
structure BackedUp (old new : Disk) (input backup : String) (source result : List Char) : Prop where
  before : old.look? input = some (.file (.text source))
  edited : new.look? input = some (.file (.text result))
  kept : new.look? backup = some (.file (.text source))
  apart : old.place backup ≠ old.place input
  others : ∀ place, place ≠ old.place input → place ≠ old.place backup →
    new.file? place = old.file? place

section
variable {lib : Libraries} {disk : Disk} {call : Invocation} {request : StripRequest}

/-- An edit that succeeds writes what the file holds to the backup, and then the result to the file.
-/
theorem inPlace_wrote (h : EditsWithBackup lib disk call request)
    (hdone : (run lib disk call).1.error? = none) :
    ∃ cleaned between, clean (call.world lib disk) request = .ok cleaned ∧
      disk.look? request.input = some (.file (.text cleaned.source)) ∧
      Disk.Wrote (backupPath (call.world lib disk) request.input) (.text cleaned.source) disk
        between ∧
      Disk.Wrote request.input (.text cleaned.text) between (run lib disk call).2 := by
  have hcourse := run_course lib disk call
  rw [answerTo_of_request h.parsed] at hcourse
  obtain ⟨hchanges, herror, -⟩ := hcourse.of_done hdone
  obtain ⟨⟨e, hfails⟩, -⟩ | ⟨cleaned, hclean, -, -, heffects⟩ :=
    strip_effects (call.world lib disk) request
  · cases hfails.symm.trans herror
  obtain ⟨settings, -, -, hsettings, -, hread, -, -, -, hbackup⟩ := clean_cases hclean
  have hbackup : cleaned.backup = true := by
    rw [hbackup, h.enabled settings hsettings, h.asked]
    rfl
  have hinput : disk.look? request.input = some (.file (.text cleaned.source)) :=
    look?_of_readInput h.file hread
  rw [Request.answer, heffects, Cleaned.effects, if_pos h.inPlace, if_pos hbackup] at hchanges
  obtain ⟨cause, hfail⟩ | ⟨between, new, hdone, hfirst, hsecond⟩ :=
    performAll_backup_cases hinput (backupPath (call.world lib disk) request.input)
      (.text cleaned.source) (.text cleaned.text)
  · exact absurd (congrArg Prod.snd (hchanges.symm.trans hfail)) (by simp)
  · have hnew : (run lib disk call).2 = new := congrArg Prod.fst (hchanges.symm.trans hdone)
    rw [hnew]
    exact ⟨cleaned, between, hclean, hinput, hfirst, hsecond⟩

theorem backedUp_of_wrote {old between new : Disk} {input backup : String}
    {source result : List Char}
    (hinput : old.look? input = some (.file (.text source)))
    (hfirst : Disk.Wrote backup (.text source) old between)
    (hsecond : Disk.Wrote input (.text result) between new)
    (hapart : old.place backup ≠ old.place input) :
    BackedUp old new input backup source result where
  before := hinput
  edited := hsecond.look?_eq
  kept := by
    have hgrows : Disk.Grows old new := hfirst.grows.trans hsecond.grows
    refine Disk.look?_eq_file_iff.2 ⟨hgrows.reaches hfirst.reaches, ?_⟩
    rw [hgrows.place_eq, hsecond.file?_eq, hfirst.grows.place_eq, if_neg hapart, hfirst.file?_eq,
      if_pos rfl]
  apart := hapart
  others place hinput hbackup := by
    rw [hsecond.file?_eq, hfirst.grows.place_eq, if_neg hinput, hfirst.file?_eq, if_neg hbackup]

/-- An edit that succeeds comes to the result in the file and the source in the backup. -/
theorem backedUp (h : EditsWithBackup lib disk call request)
    (hdone : (run lib disk call).1.error? = none) :
    ∃ cleaned, clean (call.world lib disk) request = .ok cleaned ∧
      BackedUp disk (run lib disk call).2 request.input
        (backupPath (call.world lib disk) request.input) cleaned.source cleaned.text ∧
      disk.Reaches (backupPath (call.world lib disk) request.input) := by
  obtain ⟨cleaned, between, hclean, hinput, hfirst, hsecond⟩ := inPlace_wrote h hdone
  exact ⟨cleaned, hclean,
    backedUp_of_wrote hinput hfirst hsecond (place_backupPath_ne hinput hfirst.reaches),
    hfirst.reaches⟩

/-! ## Runs of edits -/

/-- A content is held by a file. -/
def Holds (disk : Disk) (content : Content) : Prop :=
  ∃ place, disk.file? place = some content

/-- Nothing is lost where the backup gets a place that was empty. -/
theorem BackedUp.holds {old new : Disk} {input backup : String} {source result : List Char}
    (h : BackedUp old new input backup source result) (hfree : old.file? (old.place backup) = none)
    {content : Content} (hcontent : Holds old content) : Holds new content := by
  obtain ⟨place, hplace⟩ := hcontent
  obtain ⟨-, hkept⟩ := Disk.look?_eq_file_iff.1 h.kept
  by_cases hinput : place = old.place input
  · obtain ⟨-, hbefore⟩ := Disk.look?_eq_file_iff.1 h.before
    rw [hinput, hbefore] at hplace
    cases hplace
    exact ⟨_, hkept⟩
  · have hbackup : place ≠ old.place backup := by
      rintro rfl
      rw [hfree] at hplace
      cases hplace
    exact ⟨place, (h.others place hinput hbackup).trans hplace⟩

/-- An edit with a spare name for its backup loses no content, whether or not it succeeds. -/
theorem holds_run (h : EditsWithBackup lib disk call request)
    (hspare : SpareName disk request.input call.stamp) {content : Content}
    (hcontent : Holds disk content) : Holds (run lib disk call).2 content := by
  by_cases hdone : (run lib disk call).1.error? = none
  · obtain ⟨cleaned, -, hbacked, hreaches⟩ := backedUp h hdone
    refine hbacked.holds ?_ hcontent
    have hnone := look?_backupPath lib hspare
    rw [hreaches.look?_eq] at hnone
    rw [Disk.file?, hnone]
  · obtain ⟨place, hplace⟩ := hcontent
    exact ⟨place, (run_file? lib disk call place fun hnone => absurd hnone hdone).trans hplace⟩

end

/-- Runs that each strip a file in place with backups enabled, and each find one of the two names of
the backup free. -/
def EachBacksUp (lib : Libraries) : Disk → List Invocation → Prop
  | _, [] => True
  | disk, call :: calls =>
    (∃ request, EditsWithBackup lib disk call request ∧ SpareName disk request.input call.stamp) ∧
      EachBacksUp lib (run lib disk call).2 calls

/-- No content is lost along a run of edits. -/
theorem holds_runAll {lib : Libraries} {disk : Disk} {calls : List Invocation}
    (h : EachBacksUp lib disk calls) {content : Content} (hcontent : Holds disk content) :
    Holds (runAll lib disk calls) content := by
  induction calls generalizing disk with
  | nil => exact hcontent
  | cons call calls ih =>
    obtain ⟨⟨request, hedits, hspare⟩, hrest⟩ := h
    exact ih hrest (holds_run hedits hspare hcontent)

theorem EachBacksUp.later {lib : Libraries} {disk : Disk} {earlier later : List Invocation}
    (h : EachBacksUp lib disk (earlier ++ later)) :
    EachBacksUp lib (runAll lib disk earlier) later := by
  induction earlier generalizing disk with
  | nil => exact h
  | cons call earlier ih => exact ih h.2

/-- **Edits in place keep every content.** An edit that succeeds leaves the result in the file, what
was in the file in the backup, and every other file as it was; and where one of the two names of the
backup was free, nothing was at its path. So over a run of edits that each find a free name, what
any file holds at any moment is held by some file at the end. -/
theorem edits_in_place_keep_contents :
    (∀ lib disk call request, EditsWithBackup lib disk call request →
      (run lib disk call).1.error? = none →
      ∃ cleaned, clean (call.world lib disk) request = .ok cleaned ∧
        BackedUp disk (run lib disk call).2 request.input
          (backupPath (call.world lib disk) request.input) cleaned.source cleaned.text ∧
        (SpareName disk request.input call.stamp →
          disk.look? (backupPath (call.world lib disk) request.input) = none ∧
          disk.node? (disk.place (backupPath (call.world lib disk) request.input)) = none)) ∧
    ∀ lib disk earlier later content, EachBacksUp lib disk (earlier ++ later) →
      Holds (runAll lib disk earlier) content →
      Holds (runAll lib disk (earlier ++ later)) content := by
  constructor
  · intro lib disk call request hedits hdone
    obtain ⟨cleaned, hclean, hbacked, hreaches⟩ := backedUp hedits hdone
    refine ⟨cleaned, hclean, hbacked, fun hspare => ?_⟩
    have hnone := look?_backupPath lib hspare
    exact ⟨hnone, hreaches.look?_eq ▸ hnone⟩
  · intro lib disk earlier later content heach hholds
    rw [runAll_append]
    exact holds_runAll heach.later hholds

/-- Two files with the same name but for the extension, edited within one second. -/
theorem edits_in_place_keep_contents_same_second :
    let disk : Disk := { nodes :=
      [(["m.c"], .file (.text ['a', '/', '/'])), (["m.h"], .file (.text ['b', '/', '/']))] }
    let edit (input : String) : Invocation :=
      { args := ["strip", "-i", "-t", "c_style", input], env.configDir := some "", stamp := "7" }
    let request (input : String) : StripRequest :=
      { input, inPlace := true, language := some "c_style" }
    EditsWithBackup .own disk (edit "m.c") (request "m.c") ∧
      (run .own disk (edit "m.c")).1.error? = none ∧
      (∃ cleaned, clean ((edit "m.c").world .own disk) (request "m.c") = .ok cleaned ∧
        BackedUp disk (run .own disk (edit "m.c")).2 "m.c"
          (backupPath ((edit "m.c").world .own disk) "m.c") cleaned.source cleaned.text) ∧
      EachBacksUp .own disk ([edit "m.c"] ++ [edit "m.h"]) ∧
      Holds (runAll .own disk [edit "m.c"]) (.text ['b', '/', '/']) ∧
      Holds (runAll .own disk ([edit "m.c"] ++ [edit "m.h"])) (.text ['b', '/', '/']) := by
  intro disk edit request
  have henabled : ∀ disk : Disk, ((edit "").world .own disk).settings = .ok {} →
      ∀ settings, ((edit "").world .own disk).settings = .ok settings → settings.backup = true := by
    intro disk hdefault settings hsettings
    cases hdefault.symm.trans hsettings
    rfl
  have hfirst : EditsWithBackup .own disk (edit "m.c") (request "m.c") :=
    ⟨by decide +kernel, rfl, by decide +kernel, rfl, henabled disk (by decide +kernel)⟩
  have hsecond : EditsWithBackup .own (run .own disk (edit "m.c")).2 (edit "m.h") (request "m.h") :=
    ⟨by decide +kernel, rfl, by decide +kernel, rfl, henabled _ (by decide +kernel)⟩
  have hdone : (run .own disk (edit "m.c")).1.error? = none := by decide +kernel
  have heach : EachBacksUp .own disk ([edit "m.c"] ++ [edit "m.h"]) :=
    ⟨⟨_, hfirst, .inl (by decide +kernel)⟩, ⟨_, hsecond, .inr (by decide +kernel)⟩, trivial⟩
  have hholds : Holds (runAll .own disk [edit "m.c"]) (.text ['b', '/', '/']) :=
    ⟨["m.h"], by decide +kernel⟩
  obtain ⟨hedit, hrun⟩ := edits_in_place_keep_contents
  obtain ⟨cleaned, hclean, hbacked, -⟩ := hedit .own disk (edit "m.c") (request "m.c") hfirst hdone
  exact ⟨hfirst, hdone, ⟨cleaned, hclean, hbacked⟩, heach, hholds, hrun _ _ _ _ _ heach hholds⟩

end Decomment
