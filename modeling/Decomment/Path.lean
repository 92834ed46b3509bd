import Decomment.Text.Split

/-!
# Paths

Names of files, with `/` between the parts. Empty parts and parts `.` at the end of a path, as in
`a/` and `a/.`, do not change what it names.
-/

namespace Decomment.Path

/-- The parts of a path between the slashes. -/
def parts (path : String) : List String :=
  (Text.splitAt '/' path.toList).map String.ofList

/-- The parts of a path that are not empty. -/
def names (path : String) : List String :=
  (parts path).filter (!·.isEmpty)

/-- Whether a path starts at the root. -/
def isAbsolute (path : String) : Bool :=
  path.toList.head? == some '/'

/-- Whether a path ends in a slash, as that of a directory may. -/
def endsInSlash (path : String) : Bool :=
  path.toList.getLast? == some '/'

/-- Whether a part adds nothing to the path before it. -/
def isIdle (part : String) : Bool :=
  part == "" || part == "."

/-- The last part of a path, unless the path names the directory it starts from or ends in `..`. -/
def fileName? (path : String) : Option String :=
  match (parts path).reverse.dropWhile isIdle with
  | [] => none
  | name :: _ => if name == ".." then none else some name

/-- A file name cut at its last dot. A dot at the very start cuts nothing off. -/
def cutName (name : String) : String × Option String :=
  match Text.splitLast? '.' name.toList with
  | some (c :: stem, ext) => (String.ofList (c :: stem), some (String.ofList ext))
  | _ => (name, none)

/-- What follows the last dot of a path's file name. -/
def extension? (path : String) : Option String :=
  (fileName? path).bind fun name => (cutName name).2

/-- A path's file name without its extension. -/
def stem (path : String) : String :=
  ((fileName? path).map fun name => (cutName name).1).getD ""

/-- A reversed path without slashes and parts `.` at its end. -/
def dropIdleEnd : List Char → List Char
  | ['/'] => ['/']
  | '/' :: rest => dropIdleEnd rest
  | '.' :: '/' :: rest => dropIdleEnd ('/' :: rest)
  | path => path

/-- The path of the directory that a path's last part is in. -/
def parent (path : String) : String :=
  let last := dropIdleEnd path.toList.reverse
  String.ofList (dropIdleEnd (last.dropWhile (· != '/'))).reverse

/-- The path of a name in a directory. -/
def join (directory name : String) : String :=
  if directory.isEmpty then name
  else if directory.toList.getLast? = some '/' then directory ++ name
  else directory ++ "/" ++ name

/-- The path of another name beside the file that a path names. -/
def withFileName (path name : String) : String :=
  if (fileName? path).isSome then join (parent path) name else join path name

end Decomment.Path
