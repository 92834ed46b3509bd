import Decomment.Command.World
import Decomment.Detection
import Decomment.Scan

/-!
# The command that removes comments

It reads a text, finds its language, removes the comments and tidies the rest. The result is printed,
written to a file, or written over the input, of which a backup is kept unless that is turned off.
-/

namespace Decomment.Command

/-- The path that stands for standard input. -/
def stdinPath : String := "-"

/-- Reads the text to work on. -/
def readInput (w : World) (input : String) : Except Error (List Char) :=
  if input = stdinPath then ofDisk w.stdin.chars
  else match w.look? input with
    | none => .error (.inputNotFound input)
    | some node => ofDisk node.chars

/-- The language of a text: the one that is asked for, or the one that its path or its first line
tells, or the fallback. Standard input tells nothing. -/
def resolveLanguage (registry : Registry) (settings : Settings) (request : StripRequest)
    (content : List Char) : Except Error Language :=
  match request.language with
  | some id => registry.get id
  | none =>
    let detection :=
      if request.input = stdinPath then Detection.unknown
      else registry.detect request.input (some content)
    registry.get (detection.language?.getD settings.fallbackLanguage)

/-- The path beside a file with its name without extension, the time and `.bak`. -/
def stampedPath (input stamp : String) : String :=
  Path.withFileName input s!"{Path.stem input}.{stamp}.bak"

/-- The path of the backup of a file: the one with the time or, if that is taken, the path of the file
and `.bak`. -/
def backupPath (w : World) (input : String) : String :=
  let stamped := stampedPath input w.stamp
  if (w.look? stamped).isNone then stamped else input ++ ".bak"

/-- A text without its comments, and what it takes to deliver it. -/
structure Cleaned where
  /-- The text as it was read. -/
  source : List Char
  /-- The text without its comments, tidied. -/
  text : List Char
  /-- What was left open. -/
  advisories : List Advisory
  /-- Whether to keep a backup of a file that is written over. -/
  backup : Bool

/-- Reads a text, removes its comments, and tidies it. -/
def clean (w : World) (request : StripRequest) : Except Error Cleaned := do
  if request.inPlace && request.output.isSome then throw .conflictingOutputs
  let settings ← w.settings
  let registry ← settings.registry
  let source ← readInput w request.input
  let language ← resolveLanguage registry settings request source
  let stripped := scan language.lexis source
  return {
    source
    text := (settings.tidy.merge request.tidy).apply stripped.text
    advisories := stripped.advisories
    backup := settings.backup && !request.noBackup }

/-- Puts the result where it goes, and says so. Only a result that is printed fails the command if it
cannot be. -/
def deliver (w : World) (request : StripRequest) (cleaned : Cleaned) : Answer :=
  let input := request.input
  let result := Content.text cleaned.text
  if request.inPlace then
    let done := Action.say s!"Comments removed in-place: {input}\n"
    if input = stdinPath then .fail .inPlaceStdin
    else if cleaned.backup then
      let backup := backupPath w input
      { actions := [
          .change (.write backup (.text cleaned.source)),
          .change (.write input result),
          .say s!"Original file backed up to: {backup}\n",
          done] }
    else { actions := [.change (.write input result), done] }
  else match request.output with
    | some output => { actions := [
        .change (.write output result),
        .say s!"Processed file written to: {output}\n"] }
    | none => { actions := [.print (String.ofList cleaned.text) .fail] }

/-- The line that warns of an advisory. -/
def warning (input : String) (advisory : Advisory) : String :=
  s!"warning: {input}: {advisory.message}\n"

/-- Removes comments. What was left open is told before the result is delivered. -/
def strip (w : World) (request : StripRequest) : Answer :=
  .ofExcept do
    let cleaned ← clean w request
    let warnings := cleaned.advisories.map fun advisory => .warn (warning request.input advisory)
    return (deliver w request cleaned).after warnings

end Decomment.Command
