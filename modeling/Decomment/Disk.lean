import Decomment.Error
import Decomment.Path

/-!
# Files and directories

A `Disk` is a tree of files and directories with a working directory in it. Paths are followed name by
name, through directories only. `Disk.look?` says what is at a path, and an `Effect` is a change that
may fail: if it does, it has changed no file.
-/

namespace Decomment

/-- What is in a file: text, or bytes that are no text in UTF-8. -/
inductive Content
  | text (chars : List Char)
  | binary (bytes : ByteArray)
deriving Inhabited

namespace Content

instance : DecidableEq Content
  | text chars, text others =>
    if h : chars = others then isTrue (congrArg text h) else isFalse fun e => h (text.inj e)
  | binary bytes, binary others =>
    match ByteArray.decEq bytes others with
    | isTrue h => isTrue (congrArg binary h)
    | isFalse h => isFalse fun e => h (binary.inj e)
  | text _, binary _ => isFalse Content.noConfusion
  | binary _, text _ => isFalse Content.noConfusion

/-- The content that bytes make up. -/
def ofBytes (bytes : ByteArray) : Content :=
  match String.fromUTF8? bytes with
  | some s => text s.toList
  | none => binary bytes

/-- The bytes of a content. -/
def toBytes : Content → ByteArray
  | text chars => (String.ofList chars).toUTF8
  | binary bytes => bytes

/-- The text of a content, if it is text. -/
def chars : Content → Except DiskError (List Char)
  | text chars => .ok chars
  | binary _ => .error .notText

end Content

/-- What can be at a path. -/
inductive Node
  | directory
  | file (content : Content)
deriving DecidableEq, Inhabited

/-- The text at a place where there is something. -/
def Node.chars : Node → Except DiskError (List Char)
  | directory => .error .isDirectory
  | file content => content.chars

/-- A place on a disk: the names on the way to it from the root. -/
abbrev Location := List String

/-- A tree of files and directories, and a working directory in it. -/
structure Disk where
  /-- What is at each place other than the root. -/
  nodes : List (Location × Node) := []
  /-- The working directory, where a path starts that does not start at the root. -/
  base : Location := []
deriving DecidableEq, Inhabited

namespace Disk

/-- What is at a place. -/
def node? (disk : Disk) (place : Location) : Option Node :=
  if place = [] then some .directory else disk.nodes.lookup place

/-- Puts something at a place, instead of what was there. -/
def put (disk : Disk) (place : Location) (node : Node) : Disk :=
  { disk with nodes := disk.nodes.filter (·.1 != place) ++ [(place, node)] }

/-- The files below the working directory with the names on the way to them, in order. -/
def files (disk : Disk) : List (Location × Content) :=
  disk.nodes.filterMap fun
    | (place, .file content) =>
      if disk.base.isPrefixOf place then some (place.drop disk.base.length, content) else none
    | (_, .directory) => none

/-! ## Following a path -/

/-- Where a path leads. -/
inductive Target
  /-- To a directory that is there, as `/` and a path that ends in `.` or `..` do. -/
  | directory (place : Location)
  /-- To a name in a directory that is there. If the path ends in a slash, the name has to be that of
  a directory. -/
  | entry (place : Location) (slash : Bool)
deriving DecidableEq, Inhabited

/-- The number of bytes that a name may have. -/
def maxNameBytes : Nat := 255

/-- The number of bytes that a path may have. -/
def maxPathBytes : Nat := 4095

/-- Whether a path can be followed at all. -/
def checkPath (path : String) : Except DiskError Unit :=
  if path.toList.contains '\x00' then .error .malformedPath
  else if maxPathBytes < path.utf8ByteSize then .error .nameTooLong
  else .ok ()

/-- The place that a name leads to from a directory. -/
def stepTo (place : Location) (name : String) : Location :=
  if name = "." then place else if name = ".." then place.dropLast else place ++ [name]

/-- Follows names from a directory, through directories only. -/
def follow (disk : Disk) : Location → List String → Except DiskError Location
  | place, [] => .ok place
  | place, name :: names =>
    if maxNameBytes < name.utf8ByteSize then .error .nameTooLong
    else match disk.node? (stepTo place name) with
      | none => .error .notFound
      | some (.file _) => .error .notDirectory
      | some .directory => follow disk (stepTo place name) names

/-- Where names lead from a directory, the last one first. -/
def targetOf (disk : Disk) (start : Location) (slash : Bool) :
    List String → Except DiskError Target
  | [] => .ok (.directory start)
  | last :: above => do
    let place ← disk.follow start above.reverse
    if maxNameBytes < last.utf8ByteSize then .error .nameTooLong
    else if last = "." || last = ".." then return .directory (stepTo place last)
    else return .entry (stepTo place last) slash

/-- The place that a path starts from. -/
def start (disk : Disk) (path : String) : Location :=
  if Path.isAbsolute path then [] else disk.base

/-- Where a path leads. -/
def target (disk : Disk) (path : String) : Except DiskError Target := do
  checkPath path
  if path.isEmpty then .error .notFound
  else disk.targetOf (disk.start path) (Path.endsInSlash path) (Path.names path).reverse

/-- What is where a path leads. -/
def found? (disk : Disk) : Except DiskError Target → Option Node
  | .error _ => none
  | .ok (.directory _) => some .directory
  | .ok (.entry place slash) =>
    match disk.node? place with
    | some (.file content) => if slash then none else some (.file content)
    | other => other

/-- What is at a path. -/
def look? (disk : Disk) (path : String) : Option Node :=
  disk.found? (disk.target path)

/-! ## Changes -/

/-- Writes a file, over one that may be there. A path that is written as that of a directory names no
file, whatever is there. -/
def write (disk : Disk) (path : String) (content : Content) : Except DiskError Disk := do
  match ← disk.target path with
  | .directory _ => .error .isDirectory
  | .entry place slash =>
    if slash || disk.node? place = some .directory then .error .isDirectory
    else .ok (disk.put place (.file content))

/-- Makes one directory, where nothing is yet. -/
def makeDirectory (disk : Disk) : Target → Except DiskError Disk
  | .directory _ => .error .alreadyExists
  | .entry place _ =>
    if (disk.node? place).isSome then .error .alreadyExists else .ok (disk.put place .directory)

/-- Makes the directory that names lead to from a place, the last one first, unless it is there. If
one on the way is missing, that is made first. What has been made stays, also if one cannot be made. -/
def makeAlong (disk : Disk) (start : Location) : List String → Disk × Option DiskError
  | [] => (disk, none)
  | name :: above =>
    let make (disk : Disk) : Except DiskError Disk :=
      disk.targetOf start false (name :: above) >>= disk.makeDirectory
    let settle (disk : Disk) (cause : DiskError) : Disk × Option DiskError :=
      if disk.found? (disk.targetOf start false (name :: above)) = some .directory then (disk, none)
      else (disk, some cause)
    match make disk with
    | .ok disk => (disk, none)
    | .error .notFound =>
      match makeAlong disk start above with
      | (disk, some cause) => (disk, some cause)
      | (disk, none) =>
        match make disk with
        | .ok disk => (disk, none)
        | .error cause => settle disk cause
    | .error cause => settle disk cause

/-- Makes a directory and those on the way to it, where they are not there. -/
def makeDirectories (disk : Disk) (path : String) : Disk × Option DiskError :=
  match checkPath path with
  | .error cause => (disk, some cause)
  | .ok () => disk.makeAlong (disk.start path) (Path.names path).reverse

/-- The tree of some files below a working directory, and of the directories that they are in. -/
def ofFiles (base : Location) (files : List (Location × Content)) : Disk :=
  let empty : Disk := { base }
  files.foldl (fun disk (place, content) =>
    let place := base ++ place
    (disk.makeAlong [] place.dropLast.reverse).1.put place (.file content))
    (empty.makeAlong [] base.reverse).1

end Disk

/-- A change of the disk. -/
inductive Effect
  /-- Makes a directory and those on the way to it. -/
  | makeDirectories (path : String)
  /-- Writes a file. -/
  | write (path : String) (content : Content)
deriving DecidableEq, Inhabited

namespace Disk

/-- Carries out a change. Gives the disk as it is then, and why the change failed. -/
def perform (disk : Disk) : Effect → Disk × Option DiskError
  | .makeDirectories path => disk.makeDirectories path
  | .write path content =>
    match disk.write path content with
    | .ok disk => (disk, none)
    | .error cause => (disk, some cause)

/-- Carries out changes one after the other, up to the first that fails. Gives the disk as it is then,
and why the change failed. -/
def performAll (disk : Disk) : List Effect → Disk × Option DiskError
  | [] => (disk, none)
  | effect :: effects =>
    match disk.perform effect with
    | (disk, some cause) => (disk, some cause)
    | (disk, none) => performAll disk effects

/-! ## What a change does to a place -/

/-- Something put at a place is there, and every other place is as before. -/
theorem node?_put (disk : Disk) {place : Location} (node : Node) (other : Location)
    (h : place ≠ []) :
    (disk.put place node).node? other = if other = place then some node else disk.node? other := by
  have lookup_append : ∀ l : List (Location × Node),
      (l.filter (·.1 != place) ++ [(place, node)]).lookup other =
        if other = place then some node else l.lookup other := by
    intro l
    induction l with
    | nil => by_cases h' : other = place <;> simp [List.lookup_cons, h', beq_false_of_ne]
    | cons entry l ih =>
      obtain ⟨k, v⟩ := entry
      by_cases hk : k = place
      · subst hk
        by_cases h' : other = k <;> simp_all [List.lookup_cons, beq_false_of_ne]
      · by_cases h' : other = k <;> simp_all [List.lookup_cons, beq_false_of_ne]
  by_cases hn : other = []
  · subst hn
    simp [node?, Ne.symm h]
  · simp [node?, put, hn, lookup_append]

end Disk

end Decomment
