import Decomment.Proofs.Disk.Places
import Mathlib.Data.List.Induction

/-!
# What changes do to a disk

A file that is written is at its place, and every other place is as it was (`Wrote`). Making
directories puts directories where nothing was, at places on the way (`Made`), and if it fails then
the way cannot be followed afterwards (`makeAlong_spec`). So a change keeps every directory, and a
list of changes touches no file but those that it writes (`performAll_file?`).
-/

namespace Decomment.Disk

variable {old new : Disk} {path : String} {content : Content}

/-! ## Writing -/

/-- A file was written: its path reaches a place where no directory is, and there it is. -/
structure Wrote (path : String) (content : Content) (old new : Disk) : Prop where
  reaches : old.Reaches path
  free : old.node? (old.place path) ≠ some .directory
  base : new.base = old.base
  node?_eq : ∀ place, new.node? place =
    if place = old.place path then some (.file content) else old.node? place

theorem wrote_of_write (h : old.write path content = .ok new) : Wrote path content old new := by
  rw [write] at h
  match htarget : old.target path with
  | .error cause => rw [htarget] at h; cases h
  | .ok (.directory _) => rw [htarget] at h; cases h
  | .ok (.entry place slash) =>
    rw [htarget] at h
    obtain ⟨-, -, rfl, -⟩ := target_eq_entry_iff.1 htarget
    change (if _ then _ else _) = _ at h
    split at h
    · cases h
    · next hfree =>
      cases h
      simp only [Bool.or_eq_true, decide_eq_true_eq, not_or, Bool.not_eq_true] at hfree
      have hreaches : old.Reaches path := by rw [Reaches, htarget, hfree.1]
      exact ⟨hreaches, hfree.2, rfl, fun place => node?_put old _ place hreaches.place_ne_nil⟩

/-- A path that reaches a place without a directory can be written. -/
theorem write_of_reaches (h : old.Reaches path)
    (hfree : old.node? (old.place path) ≠ some .directory) (content : Content) :
    ∃ new, old.write path content = .ok new := by
  refine ⟨old.put (old.place path) (.file content), ?_⟩
  rw [write, h]
  show (if _ then _ else _) = _
  rw [if_neg (by simpa using hfree)]

namespace Wrote

theorem grows (h : Wrote path content old new) : Grows old new := by
  refine ⟨h.base, fun place hnode => ?_⟩
  rw [h.node?_eq, if_neg, hnode]
  rintro rfl
  exact h.free hnode

theorem file?_eq (h : Wrote path content old new) (place : Location) :
    new.file? place = if place = old.place path then some content else old.file? place := by
  rw [file?, h.node?_eq, file?]
  by_cases hplace : place = old.place path
  · rw [if_pos hplace, if_pos hplace]
  · rw [if_neg hplace, if_neg hplace]

/-- What was written is found. -/
theorem look?_eq (h : Wrote path content old new) : new.look? path = some (.file content) := by
  refine look?_eq_file_iff.2 ⟨h.grows.reaches h.reaches, ?_⟩
  rw [h.file?_eq, h.grows.place_eq, if_pos rfl]

end Wrote

/-! ## Making directories -/

/-- Directories were made at places on the way along names, where nothing was. -/
structure Made (start : Location) (names : List String) (old new : Disk) : Prop where
  base : new.base = old.base
  node?_eq : ∀ place, new.node? place = old.node? place ∨
    old.node? place = none ∧ new.node? place = some .directory ∧
      ∃ front, front <+: names ∧ place = front.foldl stepTo start

namespace Made

variable {start : Location} {names others : List String} {between : Disk}

theorem refl (disk : Disk) : Made start names disk disk :=
  ⟨rfl, fun _ => .inl rfl⟩

theorem trans (h : Made start names old between) (h' : Made start names between new) :
    Made start names old new := by
  refine ⟨h'.base.trans h.base, fun place => ?_⟩
  obtain hsame' | ⟨hnone, hnode, hplace⟩ := h'.node?_eq place
  · rw [hsame']
    exact h.node?_eq place
  · obtain hsame | ⟨-, hnode', -⟩ := h.node?_eq place
    · exact .inr ⟨hsame ▸ hnone, hnode, hplace⟩
    · simp [hnode'] at hnone

theorem append (h : Made start names old new) : Made start (names ++ others) old new := by
  refine ⟨h.base, fun place => (h.node?_eq place).imp_right ?_⟩
  rintro ⟨hnone, hnode, front, hfront, hplace⟩
  exact ⟨hnone, hnode, front, hfront.trans (List.prefix_append ..), hplace⟩

theorem grows (h : Made start names old new) : Grows old new := by
  refine ⟨h.base, fun place hnode => ?_⟩
  obtain hsame | ⟨-, hnode', -⟩ := h.node?_eq place
  · rw [hsame, hnode]
  · exact hnode'

/-- Making directories changes no file. -/
theorem file?_eq (h : Made start names old new) (place : Location) :
    new.file? place = old.file? place := by
  obtain hsame | ⟨hnone, hnode, -⟩ := h.node?_eq place
  · rw [file?, file?, hsame]
  · rw [file?, file?, hnone, hnode]

end Made

section
variable {start : Location} {above : List String} {last : String}

theorem made_of_makeDirectory {slash : Bool}
    (h : (old.targetOf start slash (last :: above.reverse)).bind old.makeDirectory = .ok new) :
    Made start (above ++ [last]) old new := by
  match htarget : old.targetOf start slash (last :: above.reverse) with
  | .error cause => rw [htarget] at h; cases h
  | .ok (.directory _) => rw [htarget] at h; cases h
  | .ok (.entry place slash') =>
    obtain ⟨henters, hplace, -⟩ := targetOf_eq_entry_iff.1 htarget
    rw [htarget] at h
    change (if _ then _ else _) = _ at h
    split at h
    · cases h
    · next hnone =>
      cases h
      have hne : place ≠ [] := by
        simp [hplace, List.foldl_append, stepTo, henters.ne_dot, henters.ne_dots]
      refine ⟨rfl, fun other => ?_⟩
      rw [node?_put old _ other hne]
      split
      · next heq =>
        subst heq
        exact .inr ⟨by simpa using hnone, rfl, above ++ [last], List.prefix_refl _, hplace⟩
      · exact .inl rfl

/-- Names that can be followed lead to a directory. -/
theorem found?_of_passable (h : old.Passable start (above ++ [last])) :
    old.found? (old.targetOf start false (last :: above.reverse)) = some .directory := by
  have hfollow : old.follow start above = .ok (above.foldl stepTo start) :=
    follow_eq_ok_iff.2 ⟨h.left, rfl⟩
  have hnode := h.directory (above ++ [last]) (List.prefix_refl _) (by simp)
  rw [List.foldl_append, List.foldl_cons, List.foldl_nil] at hnode
  have hfits := h.fits last (by simp)
  rw [targetOf, List.reverse_reverse, hfollow]
  show old.found? (if _ then _ else if _ then _ else _) = _
  rw [if_neg (by omega)]
  split
  · rfl
  · show old.found? (.ok (.entry _ _)) = _
    rw [found?, hnode]

/-- What making directories along names comes to: directories on the way, and no failure unless the
names cannot be followed afterwards. -/
structure WayMade (start : Location) (names : List String) (old : Disk)
    (result : Disk × Option DiskError) : Prop where
  made : Made start names old result.1
  blocked : result.2 ≠ none → ¬ result.1.Passable start names

theorem WayMade.settle (h : Made start (above ++ [last]) old new) (cause : DiskError) :
    WayMade start (above ++ [last]) old
      (if new.found? (new.targetOf start false (last :: above.reverse)) = some .directory then
        (new, none) else (new, some cause)) := by
  split
  · exact ⟨h, fun hnone => absurd rfl hnone⟩
  · next hfound => exact ⟨h, fun _ hpassable => hfound (found?_of_passable hpassable)⟩

theorem wayMade_makeAlong (disk : Disk) (start : Location) (names : List String) :
    WayMade start names disk (disk.makeAlong start names.reverse) := by
  induction names using List.reverseRecOn with
  | nil => exact ⟨.refl disk, fun h => absurd rfl h⟩
  | append_singleton above last ih =>
    rw [List.reverse_concat', makeAlong]
    split
    · next hmake => exact ⟨made_of_makeDirectory hmake, fun h => absurd rfl h⟩
    · split
      · next hmissing between cause habove =>
        rw [habove] at ih
        exact ⟨ih.made.append, fun _ hpassable => ih.blocked nofun hpassable.left⟩
      · next hmissing between habove =>
        rw [habove] at ih
        split
        · next hmake =>
          exact ⟨ih.made.append.trans (made_of_makeDirectory hmake), fun h => absurd rfl h⟩
        · exact .settle ih.made.append _
    · exact .settle (.refl disk) _

end

/-- Making the directories of a path changes nothing, or makes its way. -/
theorem makeDirectories_cases (disk : Disk) (path : String) :
    (disk.makeDirectories path).1 = disk ∨
      WayMade (disk.start path) (Path.names path) disk (disk.makeDirectories path) := by
  rw [makeDirectories]
  split
  · exact .inl rfl
  · exact .inr (wayMade_makeAlong disk _ _)

theorem made_makeDirectories (disk : Disk) (path : String) :
    Made (disk.start path) (Path.names path) disk (disk.makeDirectories path).1 := by
  obtain hsame | hmade := disk.makeDirectories_cases path
  · rw [hsame]
    exact .refl disk
  · exact hmade.made

/-! ## Changes one after the other -/

theorem perform_write_cases (disk : Disk) (path : String) (content : Content) :
    (∃ new, disk.perform (.write path content) = (new, none) ∧ Wrote path content disk new) ∨
      ∃ cause, disk.perform (.write path content) = (disk, some cause) := by
  rw [perform]
  split
  · next new hwrite => exact .inl ⟨new, rfl, wrote_of_write hwrite⟩
  · next cause _ => exact .inr ⟨cause, rfl⟩

theorem performAll_cons_of_ok {disk between : Disk} {effect : Effect}
    (h : disk.perform effect = (between, none)) (effects : List Effect) :
    disk.performAll (effect :: effects) = between.performAll effects := by
  rw [performAll, h]

theorem performAll_cons_of_error {disk between : Disk} {effect : Effect} {cause : DiskError}
    (h : disk.perform effect = (between, some cause)) (effects : List Effect) :
    disk.performAll (effect :: effects) = (between, some cause) := by
  rw [performAll, h]

theorem grows_perform (disk : Disk) (effect : Effect) : Grows disk (disk.perform effect).1 := by
  cases effect with
  | makeDirectories path => exact (made_makeDirectories disk path).grows
  | write path content =>
    obtain ⟨new, hnew, hwrote⟩ | ⟨cause, hsame⟩ := disk.perform_write_cases path content
    · rw [hnew]
      exact hwrote.grows
    · rw [hsame]
      exact .refl disk

/-- A change touches the file that it writes and no other. -/
theorem perform_file? (disk : Disk) (effect : Effect) (place : Location)
    (h : ∀ path content, effect = .write path content → place ≠ disk.place path) :
    (disk.perform effect).1.file? place = disk.file? place := by
  cases effect with
  | makeDirectories path => exact (made_makeDirectories disk path).file?_eq place
  | write path content =>
    obtain ⟨new, hnew, hwrote⟩ | ⟨cause, hsame⟩ := disk.perform_write_cases path content
    · rw [hnew, hwrote.file?_eq, if_neg (h path content rfl)]
    · rw [hsame]

theorem grows_performAll (disk : Disk) (effects : List Effect) :
    Grows disk (disk.performAll effects).1 := by
  induction effects generalizing disk with
  | nil => exact .refl disk
  | cons effect effects ih =>
    have hfirst := disk.grows_perform effect
    match hperform : disk.perform effect with
    | (between, some cause) =>
      rw [performAll_cons_of_error hperform]
      rwa [hperform] at hfirst
    | (between, none) =>
      rw [performAll_cons_of_ok hperform]
      rw [hperform] at hfirst
      exact hfirst.trans (ih between)

/-- Changes touch the files that they write and no others. -/
theorem performAll_file? (disk : Disk) (effects : List Effect) (place : Location)
    (h : ∀ path content, .write path content ∈ effects → place ≠ disk.place path) :
    (disk.performAll effects).1.file? place = disk.file? place := by
  induction effects generalizing disk with
  | nil => rfl
  | cons effect effects ih =>
    have hfirst : (disk.perform effect).1.file? place = disk.file? place :=
      disk.perform_file? effect place fun path content heffect =>
        h path content (by simp [heffect])
    have hgrows := disk.grows_perform effect
    match hperform : disk.perform effect with
    | (between, some cause) =>
      rw [performAll_cons_of_error hperform]
      rwa [hperform] at hfirst
    | (between, none) =>
      rw [hperform] at hfirst hgrows
      rw [performAll_cons_of_ok hperform, ih between, hfirst]
      intro path content hwrite
      rw [hgrows.place_eq]
      exact h path content (List.mem_cons_of_mem _ hwrite)

end Decomment.Disk
