import Decomment.Detection
import Decomment.Registry.Builtin
import Decomment.Proofs.Path.Names
import Decomment.Proofs.Text.Lines
import Decomment.Proofs.Text.Words

/-!
# Interpreter lines by their grammar

What may stand behind `#!` so that a script is run by a program: the program itself, as the last
name of a path, or `env` with options and assignments and then the program, as a word of its own.
Arguments can follow. `Runs` is this grammar, and `program?_of_runs` shows that the words of a line
that it allows tell the program. A program's name and its version are put apart by the last
character that is no digit and no dot (`unversioned_append`). What detection makes of such a line is
in `shebang_grammar`.
-/

namespace Decomment.Shebang

open Text (IsGap IsWord EndsWord EndsLine)
open Decomment.Path (BeforeName)

variable {name version program command after : List Char}

/-! ## Names and versions -/

/-- Digits and dots. -/
def IsVersion (version : List Char) : Prop :=
  ∀ c ∈ version, c.isDigit = true ∨ c = '.'

instance (version : List Char) : Decidable (IsVersion version) :=
  decidable_of_iff (version.all (fun c => c.isDigit || c == '.') = true) (by simp [IsVersion])

/-- A name that does not end in a digit or a dot. -/
def Unversioned (name : List Char) : Prop :=
  ∀ c ∈ name.getLast?, ¬ (c.isDigit = true ∨ c = '.')

instance (name : List Char) : Decidable (Unversioned name) :=
  decidable_of_iff (name.getLast?.all (fun c => !(c.isDigit || c == '.')) = true)
    (by simp [Unversioned, Option.all_eq_true])

/-- A program's name: a word without slashes that does not end in a version. -/
structure IsName (name : List Char) : Prop where
  word : IsWord name
  slashless : '/' ∉ name
  unversioned : Unversioned name

theorem isBlank_eq_false_of_isDigit {c : Char} (h : c.isDigit = true) : Text.isBlank c = false := by
  rw [← Bool.not_eq_true, Text.isBlank, Text.CharClass.contains_iff]
  simp only [Char.isDigit, Bool.and_eq_true, decide_eq_true_eq] at h
  have hlower : 48 ≤ c.toNat := h.1
  have hupper : c.toNat ≤ 57 := h.2
  simp only [Text.blankRanges, List.mem_cons, List.not_mem_nil, or_false, not_exists, not_and]
  rintro range (rfl | rfl | rfl | rfl | rfl | rfl | rfl | rfl | rfl | rfl) <;> omega

theorem IsVersion.solid (h : IsVersion version) : ∀ c ∈ version, Text.isBlank c = false := by
  intro c hc
  rcases h c hc with hdigit | rfl
  · exact isBlank_eq_false_of_isDigit hdigit
  · rfl

theorem IsVersion.slashless (h : IsVersion version) : '/' ∉ version := by
  intro hslash
  rcases h '/' hslash with hdigit | hdot
  · cases hdigit
  · cases hdot

/-- **The version goes, and nothing else.** -/
theorem unversioned_append (hname : Unversioned name) (hversion : IsVersion version) :
    unversioned (name ++ version) = name := by
  have hpass : ∀ c ∈ version, (c.isDigit || c == '.') = true := by
    simpa [IsVersion] using hversion
  rw [unversioned, Text.trimEnd_append _ hpass, Text.trimEnd_eq_rdropWhile,
    List.rdropWhile_eq_self_iff]
  intro hne hlast
  exact hname _ (List.getLast?_eq_getLast_of_ne_nil hne) (by simpa using hlast)

/-- Every word is a name and a version, each of which may be empty. -/
theorem exists_version (word : List Char) :
    ∃ version, word = unversioned word ++ version ∧ Unversioned (unversioned word) ∧
      IsVersion version := by
  obtain ⟨version, hword, hversion⟩ :=
    Text.exists_eq_trimEnd_append (fun c => c.isDigit || c == '.') word
  refine ⟨version, hword, fun c hc hlast => ?_, by simpa [IsVersion] using hversion⟩
  obtain ⟨hne, rfl⟩ := List.mem_getLast?_eq_getLast hc
  have hpasses : ((unversioned word).getLast hne).isDigit ||
      (unversioned word).getLast hne == '.' := by simpa using hlast
  exact List.rdropWhile_last_not (fun c : Char => c.isDigit || c == '.') word hne hpasses

/-- A word without the version at its end, if more than that is in it. -/
structure IsNameOf (name word : List Char) : Prop where
  ne_nil : name ≠ []
  unversioned : Unversioned name
  version : ∃ version, IsVersion version ∧ word = name ++ version

theorem isNameOf_iff {word : List Char} :
    IsNameOf name word ↔ name = unversioned word ∧ name ≠ [] := by
  constructor
  · rintro ⟨hne, hname, version, hversion, rfl⟩
    exact ⟨(unversioned_append hname hversion).symm, hne⟩
  · rintro ⟨rfl, hne⟩
    obtain ⟨version, hword, hname, hversion⟩ := exists_version word
    exact ⟨hne, hname, version, hversion, hword⟩

/-! ## The first line -/

theorem firstLine_append {line : List Char} (h : EndsLine line after) :
    firstLine (line ++ after) = line := by
  rw [firstLine, Text.lineLength_append h, List.take_left]

/-- The interpreter is the name of the program that the words behind `#!` tell. -/
theorem interpreter?_eq_some_iff (hline : EndsLine ('#' :: '!' :: command) after)
    (hprogram : program? (Text.words command) = some program) :
    interpreter? ('#' :: '!' :: command ++ after) = some name ↔ IsNameOf name program := by
  have hinterpreter : interpreter? ('#' :: '!' :: command ++ after) =
      (some (unversioned program)).filter (!·.isEmpty) := by
    rw [interpreter?, firstLine_append hline]
    simp [hprogram]
  rw [hinterpreter, Option.filter_eq_some_iff, Option.some_inj, isNameOf_iff, @eq_comm _ name,
    Bool.not_eq_true', List.isEmpty_eq_false_iff]

/-! ## The grammar -/

/-- Whether `env` passes over a word: an option or an assignment. -/
def IsSetup (word : List Char) : Prop :=
  word.head? = some '-' ∨ '=' ∈ word

theorem isSetup_iff {word : List Char} : isSetup word = true ↔ IsSetup word := by
  simp [isSetup, IsSetup]

/-- Options and assignments, each behind white space. -/
inductive Setup : List Char → Prop
  | nil : Setup []
  | cons {gap word setup : List Char} (hgap : IsGap gap) (hne : gap ≠ []) (hword : IsWord word)
      (hpassed : IsSetup word) (hsetup : Setup setup) : Setup (gap ++ (word ++ setup))

/-- What stands behind `#!` so that a script is run by a program, given with its version. -/
inductive Runs (program : List Char) : List Char → Prop
  /-- The program is the last name of a path. -/
  | direct {gap directory arguments : List Char} (hgap : IsGap gap)
      (hdirectory : BeforeName directory) (hsolid : ∀ c ∈ directory, Text.isBlank c = false)
      (hother : program ≠ "env".toList) (harguments : EndsWord arguments) :
      Runs program (gap ++ (directory ++ program ++ arguments))
  /-- The program is a word of its own behind `env`, options and assignments. -/
  | throughEnv {gap directory setup space arguments : List Char} (hgap : IsGap gap)
      (hdirectory : BeforeName directory) (hsolid : ∀ c ∈ directory, Text.isBlank c = false)
      (hsetup : Setup setup) (hspace : IsGap space) (hne : space ≠ [])
      (hprogram : ¬ IsSetup program) (harguments : EndsWord arguments) :
      Runs program
        (gap ++ (directory ++ "env".toList ++ (setup ++ (space ++ (program ++ arguments)))))

theorem afterLast_of_beforeName {directory last : List Char} (hdirectory : BeforeName directory)
    (hlast : '/' ∉ last) : Text.afterLast '/' (directory ++ last) = last := by
  obtain rfl | ⟨front, rfl⟩ := hdirectory
  · exact Text.afterLast_of_notMem hlast
  · rw [List.append_assoc, List.singleton_append, Text.afterLast_append_cons hlast]

/-- A path is a word if its directory and its name hold no white space. -/
theorem isWord_path {directory : List Char} (hsolid : ∀ c ∈ directory, Text.isBlank c = false)
    (hprogram : IsWord program) : IsWord (directory ++ program) := by
  refine ⟨fun hnil => hprogram.ne_nil (List.append_eq_nil_iff.1 hnil).2, ?_⟩
  exact List.forall_mem_append.2 ⟨hsolid, hprogram.solid⟩

theorem Setup.endsWord {setup : List Char} (h : Setup setup) (hafter : EndsWord after) :
    EndsWord (setup ++ after) := by
  cases h with
  | nil => exact hafter
  | cons hgap hne => rw [List.append_assoc]; exact Text.endsWord_gap_append hgap hne _

/-- Options and assignments do not count in the search for the program. -/
theorem Setup.find?_words {setup : List Char} (h : Setup setup) (hafter : EndsWord after) :
    (Text.words (setup ++ after)).find? (!isSetup ·) =
      (Text.words after).find? (!isSetup ·) := by
  induction h with
  | nil => rfl
  | cons hgap hne hword hpassed hsetup ih =>
    rw [List.append_assoc, List.append_assoc, Text.words_gap_append hgap,
      Text.words_append hword (hsetup.endsWord hafter), List.find?_cons_of_neg, ih]
    simpa using isSetup_iff.2 hpassed

theorem program?_direct {gap directory arguments : List Char} (hgap : IsGap gap)
    (hdirectory : BeforeName directory) (hpath : IsWord (directory ++ program))
    (hslash : '/' ∉ program) (hother : program ≠ "env".toList) (harguments : EndsWord arguments) :
    program? (Text.words (gap ++ (directory ++ program ++ arguments))) = some program := by
  rw [Text.words_gap_append hgap, Text.words_append hpath harguments, program?,
    afterLast_of_beforeName hdirectory hslash, if_neg hother]

theorem program?_throughEnv {gap directory setup space arguments : List Char} (hgap : IsGap gap)
    (hdirectory : BeforeName directory) (hsolid : ∀ c ∈ directory, Text.isBlank c = false)
    (hsetup : Setup setup) (hspace : IsGap space) (hne : space ≠ []) (hprogram : IsWord program)
    (hpassed : ¬ IsSetup program) (harguments : EndsWord arguments) :
    program? (Text.words
      (gap ++ (directory ++ "env".toList ++ (setup ++ (space ++ (program ++ arguments)))))) =
      some program := by
  have hspaced := Text.endsWord_gap_append hspace hne
  have henv : IsWord "env".toList := by decide
  rw [Text.words_gap_append hgap,
    Text.words_append (isWord_path hsolid henv) (hsetup.endsWord (hspaced _)), program?,
    afterLast_of_beforeName hdirectory (by decide), if_pos rfl, hsetup.find?_words (hspaced _),
    Text.words_gap_append hspace, Text.words_append hprogram harguments, List.find?_cons_of_pos]
  rwa [Bool.not_eq_true', ← Bool.not_eq_true, isSetup_iff]

/-- **A line that runs a program tells it.** -/
theorem program?_of_runs (hprogram : IsWord program) (hslash : '/' ∉ program)
    (h : Runs program command) : program? (Text.words command) = some program := by
  cases h with
  | direct hgap hdirectory hsolid hother harguments =>
    exact program?_direct hgap hdirectory (isWord_path hsolid hprogram) hslash hother harguments
  | throughEnv hgap hdirectory hsolid hsetup hspace hne hpassed harguments =>
    exact program?_throughEnv hgap hdirectory hsolid hsetup hspace hne hprogram hpassed harguments

/-! ## What is detected -/

/-- A first line that does not begin with `#!`, or that goes on with white space only, names no
interpreter. -/
theorem interpreter?_eq_none {line : List Char} (hline : EndsLine line after)
    (h : ¬ ['#', '!'] <+: line ∨ ∃ gap, IsGap gap ∧ line = '#' :: '!' :: gap) :
    interpreter? (line ++ after) = none := by
  rw [interpreter?, firstLine_append hline]
  rcases h with hother | ⟨gap, hgap, rfl⟩
  · split
    · next command => exact absurd (List.prefix_append ['#', '!'] command) hother
    · rfl
  · simp [Text.words_of_isGap hgap, program?]

/-- Where the extension does not tell, detection goes by the interpreter. -/
theorem detect_of_interpreter? {r : Registry} {path : String} {content : List Char}
    (hext : ∀ ext, Path.extension? path = some ext → r.byExtension? ext = none)
    (h : interpreter? content = some name) :
    r.detect path (some content) =
      (r.byInterpreter? (String.ofList name)).elim .unknown fun language =>
        .byShebang language.id := by
  have hnone : (Path.extension? path).bind r.byExtension? = none := by
    rw [Option.bind_eq_none_iff]
    exact hext
  rw [Registry.detect, hnone, Option.bind_some, h, Option.bind_some]
  cases r.byInterpreter? (String.ofList name) <;> rfl

theorem byInterpreter?_eq_none_iff {r : Registry} {name : String} :
    r.byInterpreter? name = none ↔ ∀ language ∈ r.languages, name ∉ language.interpreters := by
  simp [Registry.byInterpreter?]

/-- **Interpreter lines by their grammar.** The interpreter that a line names is the program that
the line runs, without its version. A file whose extension tells nothing is then in the language
that is found for this interpreter, or in none if no language lists it. A first line without `#!`
or without a word behind it names no interpreter. -/
theorem shebang_grammar :
    (∀ name version command after : List Char, IsName name → IsVersion version →
      Runs (name ++ version) command → EndsLine ('#' :: '!' :: command) after →
      interpreter? ('#' :: '!' :: command ++ after) = some name ∧
        ∀ (r : Registry) (path : String),
          (∀ ext, Path.extension? path = some ext → r.byExtension? ext = none) →
          (∀ language, r.byInterpreter? (String.ofList name) = some language →
            r.detect path (some ('#' :: '!' :: command ++ after)) = .byShebang language.id) ∧
          ((∀ language ∈ r.languages, String.ofList name ∉ language.interpreters) →
            r.detect path (some ('#' :: '!' :: command ++ after)) = .unknown)) ∧
      ∀ line after : List Char, EndsLine line after →
        (¬ ['#', '!'] <+: line ∨ ∃ gap, IsGap gap ∧ line = '#' :: '!' :: gap) →
        interpreter? (line ++ after) = none := by
  refine ⟨fun name version command after hname hversion hruns hline => ?_,
    fun line after hline h => interpreter?_eq_none hline h⟩
  have hword : IsWord (name ++ version) :=
    ⟨fun hnil => hname.word.ne_nil (List.append_eq_nil_iff.1 hnil).1,
      List.forall_mem_append.2 ⟨hname.word.solid, hversion.solid⟩⟩
  have hslash : '/' ∉ name ++ version := by
    rw [List.mem_append, not_or]
    exact ⟨hname.slashless, hversion.slashless⟩
  have hinterpreter : interpreter? ('#' :: '!' :: command ++ after) = some name :=
    (interpreter?_eq_some_iff hline (program?_of_runs hword hslash hruns)).2
      ⟨hname.word.ne_nil, hname.unversioned, version, hversion, rfl⟩
  refine ⟨hinterpreter, fun r path hext => ⟨fun language hlanguage => ?_, fun hnone => ?_⟩⟩
  · rw [detect_of_interpreter? hext hinterpreter, hlanguage, Option.elim_some]
  · rw [detect_of_interpreter? hext hinterpreter, byInterpreter?_eq_none_iff.2 hnone,
      Option.elim_none]

/-- A line with white space of several kinds, an option, an assignment, a version and an argument,
closed by both characters; and one that holds white space only. -/
theorem shebang_grammar_env :
    let command := " \t/usr/bin/env -S LANG=C\u3000python3.12 -u".toList
    let content := '#' :: '!' :: command ++ "\r\nprint(1)".toList
    let r : Registry := ⟨[Language.python, Language.perl]⟩
    IsName "python".toList ∧ IsVersion "3.12".toList ∧
      interpreter? content = some "python".toList ∧
      r.detect "deploy.v2" (some content) = .byShebang "python" ∧
      interpreter? ('#' :: '!' :: " \t".toList ++ ['\n']) = none := by
  intro command content r
  have hname : IsName "python".toList := ⟨by decide, by decide, by decide⟩
  have hversion : IsVersion "3.12".toList := by decide
  have hsetup : Setup ([' '] ++ ("-S".toList ++ ([' '] ++ ("LANG=C".toList ++ [])))) :=
    .cons (by decide) (by decide) (by decide) (.inl rfl)
      (.cons (by decide) (by decide) (by decide) (.inr (by decide)) .nil)
  have hruns : Runs ("python".toList ++ "3.12".toList) command := by
    have hcommand : command = " \t".toList ++ ("/usr/bin/".toList ++ "env".toList ++
        ([' '] ++ ("-S".toList ++ ([' '] ++ ("LANG=C".toList ++ []))) ++
          (['\u3000'] ++ ("python".toList ++ "3.12".toList ++ " -u".toList)))) := by decide
    rw [hcommand]
    have hdirectory : IsWord "/usr/bin/".toList := by decide
    exact .throughEnv (by decide) (.inr ⟨"/usr/bin".toList, by decide⟩) hdirectory.solid hsetup
      (by decide) (by decide) (by simp [IsSetup]) (by decide)
  have hline : EndsLine ('#' :: '!' :: command) "\r\nprint(1)".toList :=
    ⟨by decide, .inr (.inr ⟨"print(1)".toList, by decide⟩)⟩
  obtain ⟨hinterpreter, hdetect⟩ := shebang_grammar.1 _ _ _ _ hname hversion hruns hline
  have hext : ∀ ext, Path.extension? "deploy.v2" = some ext → r.byExtension? ext = none := by
    have hv2 : Path.extension? "deploy.v2" = some "v2" := by decide
    rintro ext h
    obtain rfl := Option.some_inj.1 (hv2.symm.trans h)
    decide +kernel
  have hpython : r.byInterpreter? (String.ofList "python".toList) = some Language.python := by
    decide
  refine ⟨hname, hversion, hinterpreter, ?_, ?_⟩
  · exact (hdetect r "deploy.v2" hext).1 Language.python hpython
  · exact shebang_grammar.2 ('#' :: '!' :: " \t".toList) ['\n']
      ⟨by decide, .inr (.inl ⟨[], rfl, by decide⟩)⟩ (.inr ⟨" \t".toList, by decide, rfl⟩)

end Decomment.Shebang
