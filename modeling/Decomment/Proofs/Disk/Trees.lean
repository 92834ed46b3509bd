import Decomment.Proofs.Disk.Changes

/-!
# Paths that only go down

On a file tree everything stands in a directory (`Tree`). A path without `..` goes down from where
it starts (`foldl_stepTo`), so on a tree it reaches its place whenever something is there
(`Tree.reaches`), and directories that are made on the way to the place are never made at the place
itself (`Made.node?_below`).
-/

namespace Decomment.Disk

/-- A file tree: everything stands in a directory that is there. -/
def Tree (disk : Disk) : Prop :=
  ∀ entry ∈ disk.nodes, disk.node? entry.1.dropLast = some .directory

instance (disk : Disk) : Decidable disk.Tree :=
  inferInstanceAs (Decidable (∀ entry ∈ disk.nodes, _))

/-- A path whose names and whose whole length a disk takes. -/
structure Fits (path : String) : Prop where
  valid : checkPath path = .ok ()
  names : ∀ name ∈ Path.names path, name.utf8ByteSize ≤ maxNameBytes

theorem Reaches.fits {disk : Disk} {path : String} (h : disk.Reaches path) : Fits path := by
  obtain ⟨hvalid, -, above, last, hnames, henters⟩ := reaches_iff.1 h
  refine ⟨hvalid, fun name hname => ?_⟩
  rw [hnames, List.mem_append, List.mem_singleton] at hname
  obtain hname | rfl := hname
  · exact henters.passable.fits name hname
  · exact henters.fits

/-! ## Going down -/

/-- Names without `..` lead down. -/
theorem foldl_stepTo {names : List String} (h : ".." ∉ names) (start : Location) :
    names.foldl stepTo start = start ++ names.filter (· ≠ ".") := by
  induction names generalizing start with
  | nil => simp
  | cons name names ih =>
    rw [List.mem_cons, not_or] at h
    rw [List.foldl_cons, ih h.2, stepTo, if_neg (Ne.symm h.1)]
    split
    · next hdot => simp [hdot]
    · next hname => simp [hname]

namespace Tree

variable {disk : Disk} {place rest : Location} {name : String}

theorem above (h : disk.Tree) (hnode : disk.node? (place ++ [name]) ≠ none) :
    disk.node? place = some .directory := by
  have hlookup : disk.nodes.lookup (place ++ [name]) ≠ none := by simpa [node?] using hnode
  obtain ⟨entry, hentry, hkey⟩ : ∃ entry ∈ disk.nodes, entry.1 = place ++ [name] := by
    by_contra! hnone
    refine hlookup (List.lookup_eq_none_iff.2 fun entry hentry => ?_)
    simpa using Ne.symm (hnone entry hentry)
  have hdirectory := h entry hentry
  rwa [hkey, List.dropLast_concat] at hdirectory

/-- Whatever is on the way to something is a directory. -/
theorem directory (h : disk.Tree) (hrest : rest ≠ []) (hnode : disk.node? (place ++ rest) ≠ none) :
    disk.node? place = some .directory := by
  induction rest using List.reverseRecOn with
  | nil => exact absurd rfl hrest
  | append_singleton rest name ih =>
    rw [← List.append_assoc] at hnode
    have habove := h.above hnode
    by_cases hnil : rest = []
    · simpa [hnil] using habove
    · exact ih hnil (by rw [habove]; simp)

/-- On a tree, a path without `..` reaches its place if something is there. -/
theorem reaches {path last : String} {above : List String} (h : disk.Tree) (hfits : Fits path)
    (hslash : Path.endsInSlash path = false) (hnames : Path.names path = above ++ [last])
    (hdown : ".." ∉ Path.names path) (hdot : last ≠ ".")
    (hnode : disk.node? (disk.place path) ≠ none) : disk.Reaches path := by
  have hdots : ".." ≠ last ∧ ".." ∉ above := by
    rw [hnames, List.mem_append, List.mem_singleton, not_or] at hdown
    exact hdown.symm
  refine reaches_iff.2 ⟨hfits.valid, hslash, above, last, hnames,
    ⟨fun name hname => hfits.names name (by simp [hnames, hname]), fun front hfront _ => ?_⟩,
    hfits.names last (by simp [hnames]), hdot, Ne.symm hdots.1⟩
  obtain ⟨rest, rfl⟩ := hfront
  rw [List.mem_append, not_or] at hdots
  have hplace : disk.place path =
      front.foldl stepTo (disk.start path) ++ (rest ++ [last]).filter (· ≠ ".") := by
    rw [place, foldl_stepTo hdown, hnames, foldl_stepTo hdots.2.1, List.append_assoc,
      List.append_assoc, List.filter_append]
  rw [hplace] at hnode
  exact h.directory (by simp [hdot]) hnode

end Tree

/-- Directories made on the way are not made at a place further down. -/
theorem Made.node?_below {old new : Disk} {start : Location} {above rest : List String}
    {last : String} (h : Made start above old new) (hdown : ".." ∉ above ++ rest ++ [last])
    (hdot : last ≠ ".")
    (hnode : new.node? ((above ++ rest ++ [last]).foldl stepTo start) = some .directory) :
    old.node? ((above ++ rest ++ [last]).foldl stepTo start) = some .directory := by
  obtain hsame | ⟨-, -, front, hfront, hplace⟩ :=
    h.node?_eq ((above ++ rest ++ [last]).foldl stepTo start)
  · rw [← hsame, hnode]
  · exfalso
    have hfront' : ".." ∉ front := fun hmem => hdown (by simp [hfront.subset hmem])
    have hlength : (front.filter (· ≠ ".")).length ≤ (above.filter (· ≠ ".")).length :=
      (hfront.sublist.filter _).length_le
    have hcount := congrArg List.length hplace
    rw [foldl_stepTo hdown, foldl_stepTo hfront', List.filter_append, List.filter_append] at hcount
    simp [hdot] at hcount hlength
    omega

end Decomment.Disk
