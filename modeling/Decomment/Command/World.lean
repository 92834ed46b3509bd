import Decomment.Disk
import Decomment.Libraries
import Decomment.Output
import Decomment.Settings.Text

/-!
# What a command sees and does

A command sees the disk, the environment, standard input and the clock (`World`). It answers with
what it does, one thing after the other: changes of the disk, warnings, and texts for standard output.
It may fail after any of them. Commands read before they do anything, so an answer depends on nothing
but what was seen.
-/

namespace Decomment

/-- The variables of the environment that say where settings are kept. -/
structure Environment where
  /-- The directory of the settings. -/
  configDir : Option String := none
  /-- The directory of the settings of all programs. -/
  xdgConfigHome : Option String := none
  /-- The user's home directory. -/
  home : Option String := none
deriving DecidableEq, Repr, Inhabited

namespace Environment

/-- The name of the program's own directory among those of other programs. -/
def programName : String := "comment-remover"

/-- The directory of the settings: the one given for this program, or else one with its name in the
directory for the settings of all programs, or else in the home directory. -/
def settingsDirectory (env : Environment) : Except Error String :=
  match env.configDir, env.xdgConfigHome.filter (!·.isEmpty), env.home with
  | some directory, _, _ => .ok directory
  | none, some directory, _ => .ok (Path.join directory programName)
  | none, none, some home => .ok (Path.join (Path.join home ".config") programName)
  | none, none, none => .error .noHome

/-- The path of the settings. -/
def settingsPath (env : Environment) : Except Error String := do
  return Path.join (← env.settingsDirectory) "config.toml"

end Environment

/-- What a command sees. -/
structure World where
  /-- The libraries that it uses. -/
  lib : Libraries
  /-- What is at a path. -/
  look? : String → Option Node
  /-- Standard input. -/
  stdin : Content := .text []
  /-- The environment. -/
  env : Environment := {}
  /-- The seconds on the clock, in digits. -/
  stamp : String := "0"

/-! ## Answers -/

/-- What becomes of a run if standard output does not take a text. -/
inductive Otherwise
  /-- It ends in an error. -/
  | fail
  /-- It breaks off. -/
  | breakOff
  /-- It goes on. -/
  | goOn
deriving DecidableEq, Repr, Inhabited

/-- One thing that a command does. -/
inductive Action
  /-- Changes the disk. -/
  | change (effect : Effect)
  /-- Writes a line to standard error. -/
  | warn (text : String)
  /-- Gives a text to standard output. -/
  | print (text : String) (otherwise : Otherwise)
deriving DecidableEq, Inhabited

/-- Prints a line. A run that cannot do so breaks off. -/
def Action.say (text : String) : Action :=
  .print text .breakOff

/-- What a command answers. -/
structure Answer where
  /-- What it does, in order. -/
  actions : List Action := []
  /-- The error that it ends with. -/
  error? : Option Error := none

namespace Answer

/-- The answer of a command that does nothing and fails. -/
def fail (e : Error) : Answer :=
  { error? := some e }

/-- The answer of a command that may fail before it does anything. -/
def ofExcept : Except Error Answer → Answer
  | .ok answer => answer
  | .error e => fail e

/-- The answer of a command that only prints. -/
def say (result : Except Error String) : Answer :=
  ofExcept (result.map fun text => { actions := [.say text] })

/-- An answer with something done before it. -/
def after (answer : Answer) (actions : List Action) : Answer :=
  { answer with actions := actions ++ answer.actions }

/-- An answer with something done after it, unless it fails. -/
def andThen (answer : Answer) (actions : List Action) : Answer :=
  match answer.error? with
  | none => { actions := answer.actions ++ actions }
  | some _ => answer

end Answer

/-- Turns a failure on the disk into an error. -/
def ofDisk {α : Type} : Except DiskError α → Except Error α
  | .ok a => .ok a
  | .error cause => .error (.disk cause)

namespace World

/-- The settings, which are the default ones if there is no file with settings. -/
def settings (w : World) : Except Error Settings := do
  match w.look? (← w.env.settingsPath) with
  | none => return {}
  | some node => Settings.ofText w.lib.toml (← ofDisk node.chars)

end World

end Decomment
