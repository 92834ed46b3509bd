import Decomment.Proofs.Shebang.Grammar

/-!
# The same program directly and through `env`

Behind `#!` a program is called by what follows the last slash of its path, behind `env` by the
whole word (`direct_eq_some_iff`, `throughEnv_eq_some_iff`). So two lines with the same word name the
same interpreter exactly if the word has no slash (`env_agrees_iff`). A word with a slash loses its
directory in one line only, and its language is then found from this line only
(`env_keeps_directory`).
-/

namespace Decomment.Shebang

open Text (IsWord EndsLine afterLast)

variable {name word after : List Char}

/-- A word is called by a name with a slash if it has one itself. -/
theorem IsNameOf.slash_mem_iff (h : IsNameOf name word) : '/' ∈ name ↔ '/' ∈ word := by
  obtain ⟨-, -, version, hversion, rfl⟩ := h
  rw [List.mem_append, or_iff_left hversion.slashless]

theorem exists_isNameOf_of_slash_mem (h : '/' ∈ word) : ∃ name, IsNameOf name word := by
  obtain ⟨version, hword, -, hversion⟩ := exists_version word
  refine ⟨unversioned word, isNameOf_iff.2 ⟨rfl, fun hnil => ?_⟩⟩
  rw [hword, hnil] at h
  exact hversion.slashless h

theorem slash_notMem_afterLast (word : List Char) : '/' ∉ afterLast '/' word := by
  obtain ⟨directory, base, rfl, hdirectory, hbase⟩ := Path.exists_beforeName word
  rwa [afterLast_of_beforeName hdirectory hbase]

/-- Directly, a program is called by what follows the last slash. -/
theorem direct_eq_some_iff (hword : IsWord word) (hother : afterLast '/' word ≠ "env".toList)
    (hline : EndsLine ('#' :: '!' :: word) after) :
    interpreter? ('#' :: '!' :: word ++ after) = some name ↔
      IsNameOf name (afterLast '/' word) := by
  refine interpreter?_eq_some_iff hline ?_
  rw [Text.words_of_isWord hword, program?, if_neg hother]

/-- Through `env`, a program is called by the whole word. -/
theorem throughEnv_eq_some_iff (hword : IsWord word) (hpassed : ¬ IsSetup word)
    (hline : EndsLine ('#' :: '!' :: ("/usr/bin/env ".toList ++ word)) after) :
    interpreter? ('#' :: '!' :: ("/usr/bin/env ".toList ++ word) ++ after) = some name ↔
      IsNameOf name word := by
  refine interpreter?_eq_some_iff hline ?_
  have hsplit : "/usr/bin/env ".toList ++ word =
      [] ++ ("/usr/bin/".toList ++ "env".toList ++ ([] ++ ([' '] ++ (word ++ [])))) := by simp
  have hdirectory : IsWord "/usr/bin/".toList := by decide
  rw [hsplit]
  exact program?_throughEnv (by decide) (.inr ⟨"/usr/bin".toList, by decide⟩) hdirectory.solid .nil
    (by decide) (by decide) hword hpassed (by decide)

/-- **When it makes no difference to go through `env`**: exactly if the word has no slash. Directly,
the interpreter is what follows the last slash, without its version; through `env` it is the word
without its version, which has the slashes of the word. -/
theorem env_agrees_iff {afterEnv : List Char} (hword : IsWord word) (hpassed : ¬ IsSetup word)
    (hother : afterLast '/' word ≠ "env".toList)
    (hline : EndsLine ('#' :: '!' :: word) after)
    (hlineEnv : EndsLine ('#' :: '!' :: ("/usr/bin/env ".toList ++ word)) afterEnv) :
    let direct := interpreter? ('#' :: '!' :: word ++ after)
    let throughEnv := interpreter? ('#' :: '!' :: ("/usr/bin/env ".toList ++ word) ++ afterEnv)
    (throughEnv = direct ↔ '/' ∉ word) ∧
      (∀ name, direct = some name ↔ IsNameOf name (afterLast '/' word)) ∧
      (∀ name, throughEnv = some name ↔ IsNameOf name word) ∧
      (∀ name, direct = some name → '/' ∉ name) ∧
      ∀ name, throughEnv = some name → ('/' ∈ name ↔ '/' ∈ word) := by
  intro direct throughEnv
  have hdirect : ∀ name, direct = some name ↔ IsNameOf name (afterLast '/' word) :=
    fun _ => direct_eq_some_iff hword hother hline
  have hthrough : ∀ name, throughEnv = some name ↔ IsNameOf name word :=
    fun _ => throughEnv_eq_some_iff hword hpassed hlineEnv
  have hplain : ∀ name, direct = some name → '/' ∉ name := fun name hname hslash =>
    slash_notMem_afterLast word (((hdirect name).1 hname).slash_mem_iff.1 hslash)
  have hslashes : ∀ name, throughEnv = some name → ('/' ∈ name ↔ '/' ∈ word) :=
    fun name hname => ((hthrough name).1 hname).slash_mem_iff
  refine ⟨⟨fun hsame hslash => ?_, fun hslash => ?_⟩, hdirect, hthrough, hplain, hslashes⟩
  · obtain ⟨name, hname⟩ := exists_isNameOf_of_slash_mem hslash
    have hnamed : throughEnv = some name := (hthrough name).2 hname
    exact hplain name (hsame ▸ hnamed) ((hslashes name hnamed).2 hslash)
  · refine Option.ext fun name => ?_
    have hbase : afterLast '/' word = word := Text.afterLast_of_notMem hslash
    exact (hthrough name).trans (hbase ▸ (hdirect name).symm)

/-- A name with a version, in lines that are closed in two ways. -/
theorem env_agrees_iff_python :
    let word := "python3.12".toList
    IsWord word ∧ ¬ IsSetup word ∧ afterLast '/' word ≠ "env".toList ∧
      interpreter? ('#' :: '!' :: ("/usr/bin/env ".toList ++ word) ++ "\r\n".toList) =
        interpreter? ('#' :: '!' :: word ++ "\nprint(1)".toList) := by
  intro word
  have hword : IsWord word := by decide
  have hpassed : ¬ IsSetup word := by simp [word, IsSetup]
  have hother : afterLast '/' word ≠ "env".toList := by decide
  have hline : EndsLine ('#' :: '!' :: word) "\nprint(1)".toList :=
    ⟨by decide, .inr (.inl ⟨"print(1)".toList, by decide, by decide⟩)⟩
  have hlineEnv : EndsLine ('#' :: '!' :: ("/usr/bin/env ".toList ++ word)) "\r\n".toList :=
    ⟨by decide, .inr (.inr ⟨[], by decide⟩)⟩
  exact ⟨hword, hpassed, hother, (env_agrees_iff hword hpassed hother hline hlineEnv).1.2 (by decide)⟩

/-- A path keeps its directory behind `env`, and no language is found for it. -/
theorem env_keeps_directory :
    interpreter? "#!/bin/sh".toList = some "sh".toList ∧
      interpreter? "#!/usr/bin/env /bin/sh".toList = some "/bin/sh".toList ∧
      Registry.builtin.detect "run" (some "#!/bin/sh".toList) = .byShebang "shell" ∧
      Registry.builtin.detect "run" (some "#!/usr/bin/env /bin/sh".toList) = .unknown := by
  decide +kernel

end Decomment.Shebang
