import Decomment.Disk
import Decomment.Proofs.Path.Names

/-!
# Where a path leads

A path leads to a place that depends on its names and on where it starts only (`Disk.place`); the
rest of the disk decides whether it can be followed there (`Passable`, `Reaches`). Once a path
reaches its place it does so on every disk that has the same directories and maybe more (`Grows`),
and what is found at the path is what is at the place (`Reaches.look?_eq`, `look?_eq_file_iff`).
-/

namespace Decomment.Disk

/-- The place that a path names, whether or not it can be followed. -/
def place (disk : Disk) (path : String) : Location :=
  (Path.names path).foldl stepTo (disk.start path)

/-- The content of the file at a place, if a file is there. -/
def file? (disk : Disk) (place : Location) : Option Content :=
  match disk.node? place with
  | some (.file content) => some content
  | _ => none

theorem file?_eq_some_iff {disk : Disk} {place : Location} {content : Content} :
    disk.file? place = some content ↔ disk.node? place = some (.file content) := by
  rw [file?]
  split <;> simp_all

/-! ## Following names -/

/-- Names that can be followed from a place: each fits, and each leads to a directory. -/
structure Passable (disk : Disk) (start : Location) (names : List String) : Prop where
  fits : ∀ name ∈ names, name.utf8ByteSize ≤ maxNameBytes
  directory : ∀ front, front <+: names → front ≠ [] →
    disk.node? (front.foldl stepTo start) = some .directory

section
variable {disk : Disk} {start : Location} {names others : List String} {name : String}

theorem Passable.nil : disk.Passable start [] :=
  ⟨by simp, fun front hfront hne => absurd (List.prefix_nil.1 hfront) hne⟩

theorem passable_cons_iff :
    disk.Passable start (name :: names) ↔
      name.utf8ByteSize ≤ maxNameBytes ∧ disk.node? (stepTo start name) = some .directory ∧
        disk.Passable (stepTo start name) names := by
  constructor
  · intro h
    refine ⟨h.fits name (by simp), h.directory [name] (by simp) (by simp), ?_, ?_⟩
    · exact fun other hother => h.fits other (by simp [hother])
    · intro front hfront _
      exact h.directory (name :: front) (by simpa using hfront) (by simp)
  · rintro ⟨hfits, hnode, h⟩
    refine ⟨by simpa using ⟨hfits, h.fits⟩, fun front hfront hne => ?_⟩
    cases front with
    | nil => exact absurd rfl hne
    | cons first front =>
      obtain ⟨rfl, hrest⟩ := List.cons_prefix_cons.1 hfront
      by_cases hnil : front = []
      · simpa [hnil] using hnode
      · exact h.directory front hrest hnil

theorem Passable.left (h : disk.Passable start (names ++ others)) : disk.Passable start names :=
  ⟨fun name hname => h.fits name (by simp [hname]),
    fun front hfront => h.directory front (hfront.trans (List.prefix_append ..))⟩

/-- Following names depends on the directories on the way only, and leads to the place they name. -/
theorem follow_eq_ok_iff {place : Location} :
    disk.follow start names = .ok place ↔
      disk.Passable start names ∧ place = names.foldl stepTo start := by
  induction names generalizing start with
  | nil =>
    simp only [follow, Except.ok.injEq, List.foldl_nil]
    exact ⟨fun h => ⟨.nil, h.symm⟩, fun h => h.2.symm⟩
  | cons name names ih =>
    rw [follow, passable_cons_iff, List.foldl_cons]
    split
    · next hlong => exact ⟨nofun, fun h => absurd h.1.1 (by omega)⟩
    · next hfits =>
      split
      · next hnode => simp [hnode]
      · next hnode => simp [hnode]
      · next hnode => rw [ih]; simp [hnode, Nat.le_of_not_lt hfits]

/-- Names that lead to a name in a directory that is there. -/
structure Enters (disk : Disk) (start : Location) (above : List String) (last : String) : Prop where
  passable : disk.Passable start above
  fits : last.utf8ByteSize ≤ maxNameBytes
  ne_dot : last ≠ "."
  ne_dots : last ≠ ".."

theorem targetOf_eq_entry_iff {above : List String} {last : String} {slash slash' : Bool}
    {place : Location} :
    disk.targetOf start slash (last :: above.reverse) = .ok (.entry place slash') ↔
      disk.Enters start above last ∧ place = (above ++ [last]).foldl stepTo start ∧
        slash' = slash := by
  rw [targetOf, List.reverse_reverse, List.foldl_append, List.foldl_cons, List.foldl_nil]
  cases hfollow : disk.follow start above with
  | error cause =>
    refine ⟨nofun, fun h => ?_⟩
    rw [follow_eq_ok_iff.2 ⟨h.1.passable, rfl⟩] at hfollow
    cases hfollow
  | ok directory =>
    obtain ⟨hpassable, rfl⟩ := follow_eq_ok_iff.1 hfollow
    show (if _ then _ else if _ then _ else _) = _ ↔ _
    split
    · next hlong => exact ⟨nofun, fun h => absurd h.1.fits (by omega)⟩
    · next hfits =>
      split
      · next hdots =>
        refine ⟨nofun, fun h => ?_⟩
        simp [h.1.ne_dot, h.1.ne_dots] at hdots
      · next hdots =>
        simp only [Bool.or_eq_true, decide_eq_true_eq, not_or] at hdots
        constructor
        · intro h
          cases h
          exact ⟨⟨hpassable, Nat.le_of_not_lt hfits, hdots.1, hdots.2⟩, rfl, rfl⟩
        · rintro ⟨-, rfl, rfl⟩
          rfl

end

/-! ## Reaching a place -/

/-- A path that leads to a name in a directory that is there, and is not written as that of a
directory. -/
def Reaches (disk : Disk) (path : String) : Prop :=
  disk.target path = .ok (.entry (disk.place path) false)

section
variable {disk : Disk} {path : String} {content : Content}

theorem target_eq_entry_iff {place : Location} {slash : Bool} :
    disk.target path = .ok (.entry place slash) ↔
      checkPath path = .ok () ∧
        (∃ above last, Path.names path = above ++ [last] ∧
          disk.Enters (disk.start path) above last) ∧
        place = disk.place path ∧ slash = Path.endsInSlash path := by
  rw [target]
  cases checkPath path with
  | error cause => exact ⟨nofun, fun h => nomatch h.1⟩
  | ok =>
    show (if _ then _ else _) = _ ↔ _
    split
    · next hempty =>
      refine ⟨nofun, fun ⟨_, ⟨above, last, hnames, _⟩, _⟩ => ?_⟩
      rw [String.isEmpty_iff.1 hempty, Path.names_empty] at hnames
      simp at hnames
    · obtain hnil | ⟨above, last, hnames⟩ := (Path.names path).eq_nil_or_concat'
      · simp [hnil, targetOf]
      · rw [hnames, List.reverse_concat', targetOf_eq_entry_iff, Disk.place, hnames]
        constructor
        · rintro ⟨henters, rfl, rfl⟩
          exact ⟨rfl, ⟨above, last, rfl, henters⟩, rfl, rfl⟩
        · rintro ⟨-, ⟨above', last', heq, henters⟩, rfl, rfl⟩
          obtain ⟨rfl, hlast⟩ := List.append_inj' heq rfl
          cases hlast
          exact ⟨henters, rfl, rfl⟩

theorem reaches_iff :
    disk.Reaches path ↔
      checkPath path = .ok () ∧ Path.endsInSlash path = false ∧
        ∃ above last, Path.names path = above ++ [last] ∧
          disk.Enters (disk.start path) above last := by
  rw [Reaches, target_eq_entry_iff]
  constructor
  · rintro ⟨hvalid, hnames, -, hslash⟩
    exact ⟨hvalid, hslash.symm, hnames⟩
  · rintro ⟨hvalid, hslash, hnames⟩
    exact ⟨hvalid, hnames, rfl, hslash.symm⟩

/-- A path whose last name is a name of its own leads to that name or nowhere. -/
theorem target_ne_directory {above : List String} {last : String}
    (hnames : Path.names path = above ++ [last]) (hdot : last ≠ ".") (hdots : last ≠ "..")
    (place : Location) : disk.target path ≠ .ok (.directory place) := by
  intro h
  rw [target] at h
  obtain ⟨⟨⟩, -, h⟩ := bind_eq_ok h
  split at h
  · cases h
  · rw [hnames, List.reverse_concat', targetOf] at h
    obtain ⟨directory, -, h⟩ := bind_eq_ok h
    split at h
    · cases h
    · rw [if_neg (by simp [hdot, hdots])] at h
      cases h

/-- Nothing is found at a path that does not reach its place. -/
theorem look?_of_not_reaches {above : List String} {last : String}
    (hnames : Path.names path = above ++ [last]) (hdot : last ≠ ".") (hdots : last ≠ "..")
    (hslash : Path.endsInSlash path = false) (h : ¬ disk.Reaches path) :
    disk.look? path = none := by
  rw [look?]
  match htarget : disk.target path with
  | .error cause => rfl
  | .ok (.directory place) => exact absurd htarget (target_ne_directory hnames hdot hdots place)
  | .ok (.entry place slash) =>
    obtain ⟨-, -, rfl, rfl⟩ := target_eq_entry_iff.1 htarget
    rw [hslash] at htarget
    exact absurd htarget h

/-- The place that a path reaches is not the root. -/
theorem Reaches.place_ne_nil (h : disk.Reaches path) : disk.place path ≠ [] := by
  obtain ⟨-, -, above, last, hnames, henters⟩ := reaches_iff.1 h
  simp [place, hnames, List.foldl_append, stepTo, henters.ne_dot, henters.ne_dots]

/-- What is at a path that reaches its place is what is at the place. -/
theorem Reaches.look?_eq (h : disk.Reaches path) :
    disk.look? path = disk.node? (disk.place path) := by
  rw [look?, h, found?]
  split
  · next hnode => rw [hnode]; rfl
  · rfl

/-- A path under which a file is found reaches its place. -/
theorem look?_eq_file_iff :
    disk.look? path = some (.file content) ↔
      disk.Reaches path ∧ disk.file? (disk.place path) = some content := by
  constructor
  · intro h
    have hreaches : disk.Reaches path := by
      rw [look?] at h
      match htarget : disk.target path with
      | .error cause => simp [htarget, found?] at h
      | .ok (.directory _) => simp [htarget, found?] at h
      | .ok (.entry place slash) =>
        obtain ⟨-, -, rfl, -⟩ := target_eq_entry_iff.1 htarget
        rw [Reaches, htarget]
        rw [htarget, found?] at h
        split at h <;> simp_all
    exact ⟨hreaches, file?_eq_some_iff.2 (hreaches.look?_eq ▸ h)⟩
  · rintro ⟨hreaches, hfile⟩
    rw [hreaches.look?_eq, file?_eq_some_iff.1 hfile]

end

/-! ## Disks that grow -/

/-- A later disk, with the directories of the earlier one and the same working directory. -/
structure Grows (old new : Disk) : Prop where
  base : new.base = old.base
  directory : ∀ place, old.node? place = some .directory → new.node? place = some .directory

namespace Grows

variable {old between new : Disk} {path : String}

theorem refl (disk : Disk) : Grows disk disk :=
  ⟨rfl, fun _ h => h⟩

theorem trans (h : Grows old between) (h' : Grows between new) : Grows old new :=
  ⟨h'.base.trans h.base, fun place hnode => h'.directory place (h.directory place hnode)⟩

theorem start_eq (h : Grows old new) (path : String) : new.start path = old.start path := by
  rw [start, start, h.base]

/-- A path names the same place on a later disk. -/
theorem place_eq (h : Grows old new) (path : String) : new.place path = old.place path := by
  rw [place, place, h.start_eq]

/-- A path that reaches its place still does so on a later disk. -/
theorem reaches (h : Grows old new) (hpath : old.Reaches path) : new.Reaches path := by
  obtain ⟨hvalid, hslash, above, last, hnames, henters⟩ := reaches_iff.1 hpath
  have hpassable : new.Passable (new.start path) above := by
    rw [h.start_eq]
    exact ⟨henters.passable.fits, fun front hfront hne =>
      h.directory _ (henters.passable.directory front hfront hne)⟩
  exact reaches_iff.2 ⟨hvalid, hslash, above, last, hnames,
    hpassable, henters.fits, henters.ne_dot, henters.ne_dots⟩

end Grows

end Decomment.Disk
