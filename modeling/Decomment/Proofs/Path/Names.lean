import Decomment.Path
import Mathlib.Data.List.Basic

/-!
# The names of a path

A slash between two texts keeps their names apart (`Text.splitAt_append_cons`), so what stands
behind the last slash of a path is its last name (`names_behind`). Two kinds of paths are taken
apart this way: a file's path that goes on after its last name (`names_append`), and the path of a
name in a directory, whose names are those of the path's parent, then some that stand still, then
the name itself (`names_join`).
-/

namespace Decomment

namespace Text

theorem splitAt_ne_nil (sep : Char) (text : List Char) : splitAt sep text ≠ [] := by
  cases text with
  | nil => simp [splitAt]
  | cons c text =>
    rw [splitAt]
    split
    · simp
    · split <;> simp

/-- A separator between two texts keeps their parts apart. -/
theorem splitAt_append_cons (sep : Char) (before after : List Char) :
    splitAt sep (before ++ sep :: after) = splitAt sep before ++ splitAt sep after := by
  induction before with
  | nil => simp [splitAt]
  | cons c before ih =>
    rw [List.cons_append, splitAt, splitAt, ih]
    split
    · rfl
    · cases hparts : splitAt sep before with
      | nil => exact absurd hparts (splitAt_ne_nil sep before)
      | cons part parts => rfl

/-- A text without separators is one part. -/
theorem splitAt_of_notMem {sep : Char} {text : List Char} (h : sep ∉ text) :
    splitAt sep text = [text] := by
  induction text with
  | nil => rfl
  | cons c text ih =>
    simp only [List.mem_cons, not_or] at h
    rw [splitAt, if_neg (Ne.symm h.1), ih h.2]

end Text

namespace Path

/-- A text that a name can stand behind: nothing, or one with a slash at its end. -/
def BeforeName (text : List Char) : Prop :=
  text = [] ∨ ∃ directory, text = directory ++ ['/']

/-- A path is cut behind its last slash. -/
theorem exists_beforeName (text : List Char) :
    ∃ before last, text = before ++ last ∧ BeforeName before ∧ '/' ∉ last := by
  by_cases h : '/' ∈ text
  · obtain ⟨last, directory, hreverse, hlast⟩ :=
      List.eq_append_cons_of_mem (List.mem_reverse.2 h)
    refine ⟨directory.reverse ++ ['/'], last.reverse, ?_, .inr ⟨_, rfl⟩, by simpa using hlast⟩
    rw [← List.reverse_reverse text, hreverse]
    simp
  · exact ⟨[], text, rfl, .inl rfl, h⟩

theorem names_append_slash (before after : List Char) :
    names (String.ofList (before ++ '/' :: after)) =
      names (String.ofList before) ++ names (String.ofList after) := by
  simp only [names, parts, String.toList_ofList, Text.splitAt_append_cons, List.map_append,
    List.filter_append]

theorem names_of_notMem {text : List Char} (h : '/' ∉ text) (hne : text ≠ []) :
    names (String.ofList text) = [String.ofList text] := by
  simp [names, parts, Text.splitAt_of_notMem h, hne]

@[simp]
theorem names_empty : names "" = [] := by
  simp [names, parts, Text.splitAt]

/-- The last name is what stands behind the last slash. -/
theorem names_behind {before last : List Char} (h : BeforeName before) (hlast : '/' ∉ last)
    (hne : last ≠ []) :
    names (String.ofList (before ++ last)) =
      names (String.ofList before) ++ [String.ofList last] := by
  obtain rfl | ⟨directory, rfl⟩ := h
  · simp [names_of_notMem hlast hne]
  · rw [List.append_assoc, List.singleton_append, names_append_slash, names_append_slash,
      names_of_notMem hlast hne]
    simp

/-- A path that does not end in a slash goes on in its last name. -/
theorem names_append {path more last : String} {above : List String}
    (hnames : names path = above ++ [last]) (hslash : endsInSlash path = false)
    (hmore : '/' ∉ more.toList) : names (path ++ more) = above ++ [last ++ more] := by
  obtain ⟨before, name, htext, hbefore, hname⟩ := exists_beforeName path.toList
  have hpath : path = String.ofList (before ++ name) := by rw [← htext, String.ofList_toList]
  have hne : name ≠ [] := by
    rintro rfl
    obtain rfl | ⟨directory, rfl⟩ := hbefore
    · simp [hpath] at hnames
    · simp [endsInSlash, htext] at hslash
  rw [hpath, names_behind hbefore hname hne] at hnames
  obtain ⟨rfl, hlast⟩ := List.append_inj' hnames rfl
  cases hlast
  have hlonger : path ++ more = String.ofList (before ++ (name ++ more.toList)) := by
    rw [hpath, ← String.toList_inj]
    simp
  rw [hlonger, names_behind hbefore (by simp [hname, hmore]) (by simp [hne]), String.ofList_append,
    String.ofList_toList]

/-- A path that goes on starts where it started. -/
theorem isAbsolute_append {path : String} (hnames : names path ≠ []) (more : String) :
    isAbsolute (path ++ more) = isAbsolute path := by
  have hne : path.toList ≠ [] := by
    rw [ne_eq, String.toList_eq_nil_iff]
    rintro rfl
    exact hnames names_empty
  rw [isAbsolute, isAbsolute, String.toList_append, List.head?_append_of_ne_nil _ hne]

/-! ## Parents -/

/-- What is dropped at the end of a path is slashes and names that stand still. -/
theorem names_dropIdleEnd (chars : List Char) :
    ∃ stops, (∀ name ∈ stops, name = ".") ∧
      names (String.ofList chars.reverse) =
        names (String.ofList (dropIdleEnd chars).reverse) ++ stops := by
  fun_induction dropIdleEnd chars with
  | case1 | case4 => exact ⟨[], by simp, by simp⟩
  | case2 rest _ ih =>
    obtain ⟨stops, hstops, hnames⟩ := ih
    refine ⟨stops, hstops, ?_⟩
    rw [List.reverse_cons, names_append_slash, hnames]
    simp
  | case3 rest ih =>
    obtain ⟨stops, hstops, hnames⟩ := ih
    refine ⟨stops ++ ["."], by simpa [or_imp, forall_and] using hstops, ?_⟩
    have hstop : names (String.ofList ['.']) = ["."] := names_of_notMem (by simp) (by simp)
    rw [List.reverse_cons, names_append_slash] at hnames
    rw [List.reverse_cons, List.reverse_cons, List.append_assoc, List.singleton_append,
      names_append_slash, ← List.append_assoc, ← hnames, hstop]
    simp

/-- Where a path starts is not dropped. -/
theorem getLast?_dropIdleEnd (chars : List Char) :
    (dropIdleEnd chars).getLast? = chars.getLast? := by
  fun_induction dropIdleEnd chars with
  | case1 | case4 => rfl
  | case2 rest hrest ih =>
    rw [ih, List.getLast?_cons_of_ne_nil hrest]
  | case3 rest ih => rw [ih, List.getLast?_cons_cons]

/-- A path with a name behind it, as that of a name in a directory. -/
theorem exists_join_eq (directory name : String) :
    ∃ before, BeforeName before ∧ join directory name = String.ofList (before ++ name.toList) := by
  rw [join]
  split
  · exact ⟨[], .inl rfl, by simp⟩
  · split
    · next h =>
      obtain ⟨before, hbefore⟩ := List.getLast?_eq_some_iff.1 h
      exact ⟨directory.toList, .inr ⟨before, hbefore⟩, by simp [String.ofList_append]⟩
    · exact ⟨directory.toList ++ ['/'], .inr ⟨_, rfl⟩, by simp [← String.toList_inj]⟩

/-- Nothing is dropped at the end of a name that does not stand still. -/
theorem dropIdleEnd_name {name : List Char} (hslash : '/' ∉ name) (hne : name ≠ [])
    (hmoves : name ≠ ['.']) (rest : List Char) : dropIdleEnd (name ++ rest) = name ++ rest := by
  match name with
  | [c] =>
    simp only [List.mem_singleton] at hslash
    rw [dropIdleEnd] <;> simp_all [Ne.symm hslash]
  | c :: d :: name =>
    simp only [List.mem_cons, not_or] at hslash
    rw [dropIdleEnd] <;> simp [Ne.symm hslash.1, Ne.symm hslash.2.1]

/-- The parent of a path is what stands before its last name, without the idle end. -/
theorem parent_behind {before name : List Char} (h : BeforeName before) (hslash : '/' ∉ name)
    (hne : name ≠ []) (hmoves : name ≠ ['.']) :
    parent (String.ofList (before ++ name)) =
      String.ofList (dropIdleEnd before.reverse).reverse := by
  have hname : dropIdleEnd (name.reverse ++ before.reverse) = name.reverse ++ before.reverse :=
    dropIdleEnd_name (by simpa using hslash) (by simpa using hne) (by simpa using hmoves) _
  have hcut : (name.reverse ++ before.reverse).dropWhile (· != '/') = before.reverse := by
    have hall : ∀ c ∈ name.reverse, (c != '/') = true := by
      simpa using fun c hc => ne_of_mem_of_not_mem hc hslash
    rw [List.dropWhile_append_of_pos hall]
    obtain rfl | ⟨directory, rfl⟩ := h <;> simp
  rw [parent, String.toList_ofList, List.reverse_append, hname, hcut]

/-- The names of the path of a name in a directory: those of the parent, then some that stand still,
then the name. -/
theorem names_join (directory : String) {name : String} (hslash : '/' ∉ name.toList)
    (hne : name ≠ "") (hmoves : name ≠ ".") :
    ∃ stops, (∀ stop ∈ stops, stop = ".") ∧
      names (join directory name) = names (parent (join directory name)) ++ stops ++ [name] := by
  obtain ⟨before, hbefore, hjoin⟩ := exists_join_eq directory name
  obtain ⟨stops, hstops, hnames⟩ := names_dropIdleEnd before.reverse
  have hne : name.toList ≠ [] := by simpa using hne
  have hmoves : name.toList ≠ ['.'] := fun h => hmoves (by rw [← String.toList_inj, h]; rfl)
  refine ⟨stops, hstops, ?_⟩
  rw [hjoin, parent_behind hbefore hslash hne hmoves, ← hnames, List.reverse_reverse,
    names_behind hbefore hslash hne, String.ofList_toList]

/-- The parent of the path of a name in a directory starts where the path starts. -/
theorem isAbsolute_parent_join (directory : String) {name : String} (hslash : '/' ∉ name.toList)
    (hne : name ≠ "") (hmoves : name ≠ ".") :
    isAbsolute (parent (join directory name)) = isAbsolute (join directory name) := by
  obtain ⟨before, hbefore, hjoin⟩ := exists_join_eq directory name
  have hne : name.toList ≠ [] := by simpa using hne
  have hmoves : name.toList ≠ ['.'] := fun h => hmoves (by rw [← String.toList_inj, h]; rfl)
  rw [hjoin, parent_behind hbefore hslash hne hmoves, isAbsolute, isAbsolute, String.toList_ofList,
    String.toList_ofList, List.head?_reverse, getLast?_dropIdleEnd, List.getLast?_reverse]
  cases before with
  | cons c before => rfl
  | nil =>
    have hstart : name.toList.head? ≠ some '/' := fun h => hslash (List.mem_of_head? h)
    simpa using hstart

theorem endsInSlash_join (directory : String) {name : String} (hslash : '/' ∉ name.toList)
    (hne : name ≠ "") : endsInSlash (join directory name) = false := by
  obtain ⟨before, -, hjoin⟩ := exists_join_eq directory name
  have hne : name.toList ≠ [] := by simpa using hne
  rw [hjoin, endsInSlash, String.toList_ofList, List.getLast?_append_of_ne_nil _ hne]
  simpa using fun h => hslash (List.mem_of_getLast? h)

end Path
end Decomment
