import Decomment.Command
import Std.Time.DateTime.Timestamp

/-!
# The program

Looks at what a command line needs to see, has it answered, and does what the answer says.
-/

namespace Decomment

/-- What is at a path of the real disk. -/
def lookAt (path : String) : IO (Option Node) := do
  try
    let real ← IO.FS.realPath path
    if ← real.isDir then return some .directory
    return some (.file (.ofBytes (← IO.FS.readBinFile path)))
  catch _ => return none

/-- Reads a stream to its end, after bytes that were read before. -/
partial def readAll (stream : IO.FS.Stream) (before : ByteArray) : IO ByteArray := do
  let bytes ← stream.read 65536
  if bytes.isEmpty then return before else readAll stream (before ++ bytes)

/-- Makes a change on the real disk. -/
def Effect.perform : Effect → IO Unit
  | .makeDirectories path => unless path.isEmpty do IO.FS.createDirAll path
  | .write path content => IO.FS.writeBinFile path content.toBytes

/-- Shows an error and gives the exit code for it. -/
def report (e : Error) : IO UInt32 := do
  match e with
  | .usage cause =>
    IO.eprint s!"error: {cause.message}\n\n{CommandLine.usageText}"
    return 2
  | other =>
    IO.eprint s!"Error: {other.message}\n"
    return 1

/-- Does one thing. Gives the exit code, if the program ends by that. -/
def Action.perform : Action → IO (Option UInt32)
  | .change effect => do
    try
      effect.perform
      return none
    catch cause =>
      IO.eprint s!"Error: {cause}\n"
      return some 1
  | .warn text => do
    IO.eprint text
    return none
  | .print text otherwise => do
    try
      IO.print text
      (← IO.getStdout).flush
      return none
    catch cause =>
      match otherwise with
      | .fail =>
        IO.eprint s!"Error: {cause}\n"
        return some 1
      | .breakOff =>
        IO.eprint s!"failed printing: {cause}\n"
        return some 101
      | .goOn => return none

/-- Does one thing after the other and then reports the error of an answer, if it has one. Gives the
exit code. -/
def Answer.perform (error? : Option Error) : List Action → IO UInt32
  | [] => error?.elim (pure 0) report
  | action :: actions => do
    match ← action.perform with
    | some code => return code
    | none => perform error? actions

/-- Carries out a command line on the real disk. -/
def execute (args : List String) : IO UInt32 := do
  let env : Environment := {
    configDir := ← IO.getEnv "COMMENT_REMOVER_CONFIG_DIR"
    xdgConfigHome := ← IO.getEnv "XDG_CONFIG_HOME"
    home := ← IO.getEnv "HOME" }
  let stamp := toString (← Std.Time.Timestamp.now).toSecondsSinceUnixEpoch.val
  let request? := (CommandLine.parse args).toOption
  let paths := env.settingsPath.toOption.toList ++ (request?.map (·.paths stamp)).getD []
  let seen ← paths.mapM fun path => return (path, ← lookAt path)
  let stdin ←
    if request?.any Request.readsStdin then
      Content.ofBytes <$> readAll (← IO.getStdin) .empty
    else pure (Content.text [])
  let look? := fun path => (seen.lookup path).join
  let answer := answerTo { lib := .own, look?, stdin, env, stamp } args
  Answer.perform answer.error? answer.actions

end Decomment

/-- The entry point of the program. -/
def main (args : List String) : IO UInt32 :=
  Decomment.execute args
