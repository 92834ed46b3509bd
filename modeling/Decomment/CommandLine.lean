import Decomment.CommandLine.Grammar
import Decomment.Tidy

/-!
# Command lines of the program

The commands, their switches and operands, and what they ask for: `parse` gives the request that the
arguments after the program's name make, and `read` what is done with them.
-/

namespace Decomment

/-- How a command prints what it has found. -/
inductive OutputFormat
  | text
  | json
deriving DecidableEq, Repr, Inhabited

/-- What a command to remove comments asks for. -/
structure StripRequest where
  /-- The path of the text, or `-` for standard input. -/
  input : String
  /-- The file to write the result to. -/
  output : Option String := none
  /-- Whether to write the result over the input. -/
  inPlace : Bool := false
  /-- The language of the text, if it is not to be found out. -/
  language : Option String := none
  /-- Clean-ups to apply besides those of the settings. -/
  tidy : Tidy := {}
  /-- Whether to write over the input without a backup. -/
  noBackup : Bool := false
deriving DecidableEq, Repr, Inhabited

/-- What a command line asks for. -/
inductive Request
  /-- Remove comments. -/
  | strip (request : StripRequest)
  /-- List the languages. -/
  | languages (format : OutputFormat)
  /-- Tell the language of a file. -/
  | detect (path : String) (format : OutputFormat)
  /-- Tell where the settings are. -/
  | configPath
  /-- Tell one setting. -/
  | configGet (key : String)
  /-- Change one setting. -/
  | configSet (key value : String)
deriving DecidableEq, Repr, Inhabited

/-- What the arguments of a command line come to. -/
inductive Reading
  /-- They make a request. -/
  | request (request : Request)
  /-- They ask for a text to be shown and for nothing else. -/
  | shown (text : String)
  /-- They are refused. -/
  | refused (cause : UsageError)
deriving DecidableEq, Repr, Inhabited

namespace CommandLine

/-! ## Switches -/

/-- Asks for more messages about what the program does. -/
def verbose : Switch := ⟨"verbose", some 'v', .count⟩

/-- Asks for help. -/
def help : Switch := ⟨"help", some 'h', .help⟩

/-- Asks for the version of the program. -/
def version : Switch := ⟨"version", some 'V', .version⟩

/-- Chooses the output format. -/
def format : Switch := ⟨"format", some 'f', .value .format⟩

/-- The switches that every command has. -/
def commonSwitches : List Switch := [verbose, help]

/-- The switches of the command that removes comments. -/
def stripSwitches : List Switch := [
  ⟨"output", some 'o', .value .path⟩,
  ⟨"in-place", some 'i', .flag⟩,
  ⟨"type", some 't', .value .word⟩,
  ⟨"squeeze-blank", none, .flag⟩,
  ⟨"trim-trailing", none, .flag⟩,
  ⟨"final-newline", none, .flag⟩,
  ⟨"no-backup", none, .flag⟩] ++ commonSwitches

/-! ## Commands -/

/-- The commands, and those inside them. -/
def commandNames : List String := ["strip", "languages", "detect", "config", "help"]

/-- The commands about settings. -/
def configNames : List String := ["path", "set", "get", "help"]

/-- The commands inside a command. -/
def commandsIn : List String → List String
  | [] => commandNames
  | ["config"] => configNames
  | _ => []

/-- Whether words name a command, one inside the other, from a command on. -/
def namesCommand : (path words : List String) → Bool
  | _, [] => true
  | path, word :: words =>
    (commandsIn path).contains word && namesCommand (path ++ [word]) words

/-- What a request for help comes to: it shows the help for a command if there is such a command. -/
def helpOn (path words : List String) : UsageError :=
  if namesCommand path words then .displayHelp else .invalidCommand

/-- The output format that was asked for. -/
def formatOf (found : List (String × String)) : OutputFormat :=
  if found.lookup "format" = some "json" then .json else .text

/-- The value of an operand. -/
def valueOf (found : List (String × String)) (name : String) : String :=
  (found.lookup name).getD ""

/-- Reads the arguments of the command that removes comments. -/
def parseStrip (args : List String) : Except UsageError Request := do
  let found ← parseCommand stripSwitches [("input", .path)] args
  let has := fun name => (found.lookup name).isSome
  return .strip {
    input := valueOf found "input"
    output := found.lookup "output"
    inPlace := has "in-place"
    language := found.lookup "type"
    tidy := {
      squeezeBlankLines := has "squeeze-blank"
      trimTrailing := has "trim-trailing"
      finalNewline := has "final-newline" }
    noBackup := has "no-backup" }

/-- Reads the arguments of a command about settings. -/
def parseConfig (args : List String) : Except UsageError Request := do
  let (name, args) ← parseGroup commonSwitches configNames {} args
  match name with
  | "path" => do
    let _ ← parseCommand commonSwitches [] args
    return .configPath
  | "set" => do
    let found ← parseCommand commonSwitches [("key", .word), ("value", .word)] args
    return .configSet (valueOf found "key") (valueOf found "value")
  | "get" => do
    let found ← parseCommand commonSwitches [("key", .word)] args
    return .configGet (valueOf found "key")
  | _ => .error (helpOn ["config"] args)

/-- The request that arguments make. -/
def parse (args : List String) : Except UsageError Request := do
  let (name, args) ← parseGroup (version :: commonSwitches) commandNames {} args
  match name with
  | "strip" => parseStrip args
  | "languages" => do
    let found ← parseCommand (format :: commonSwitches) [] args
    return .languages (formatOf found)
  | "detect" => do
    let found ← parseCommand (format :: commonSwitches) [("path", .path)] args
    return .detect (valueOf found "path") (formatOf found)
  | "config" => parseConfig args
  | _ => .error (helpOn [] args)

/-! ## Help -/

/-- The help that is shown on request. -/
def usageText : String :=
  "Remove comments from source files without touching string literals\n\n"
    ++ "Usage: comment-remover [-v] <COMMAND>\n\n"
    ++ "Commands:\n"
    ++ "  strip <INPUT> [-o FILE | -i] [-t LANG] [--squeeze-blank] [--trim-trailing]\n"
    ++ "        [--final-newline] [--no-backup]\n"
    ++ "  languages [-f text|json|auto]\n"
    ++ "  detect <PATH> [-f text|json|auto]\n"
    ++ "  config path | get <KEY> | set <KEY> <VALUE>\n"
    ++ "  help\n"

/-- The version that is shown on request. -/
def versionText : String := "comment-remover 1.0.0\n"

/-- What arguments come to. Where help or the version is asked for, that is shown. -/
def read (args : List String) : Reading :=
  match parse args with
  | .ok request => .request request
  | .error .displayHelp => .shown usageText
  | .error .displayVersion => .shown versionText
  | .error cause => .refused cause

end CommandLine

end Decomment
