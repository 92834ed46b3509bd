import Decomment.Text.Lines
import Decomment.Text.Split

/-!
# Interpreter lines

The first line of a script may name the program that runs it: `#!`, the path of the program, and its
arguments. If the program is `env`, the interpreter is its first argument that is neither an option
nor an assignment. Digits and dots at the end of a name are its version and do not belong to it.
-/

namespace Decomment.Shebang

/-- The first line of a text, without what ends it. -/
def firstLine (content : List Char) : List Char :=
  content.take (Text.lineLength content)

/-- Whether a word after `env` is an option or an assignment. -/
def isSetup (word : List Char) : Bool :=
  word.head? == some '-' || word.contains '='

/-- The word that names the program, given the words after `#!`. -/
def program? : List (List Char) → Option (List Char)
  | [] => none
  | path :: arguments =>
    let name := Text.afterLast '/' path
    if name = "env".toList then arguments.find? (!isSetup ·) else some name

/-- A program's name without its version. -/
def unversioned (name : List Char) : List Char :=
  Text.trimEnd (fun c => c.isDigit || c == '.') name

/-- The interpreter that the first line of a text names. -/
def interpreter? (content : List Char) : Option (List Char) :=
  match firstLine content with
  | '#' :: '!' :: command =>
    ((program? (Text.words command)).map unversioned).filter (!·.isEmpty)
  | _ => none

end Decomment.Shebang
