import Decomment.Command.Config
import Decomment.Command.Report
import Decomment.Command.Strip

/-!
# Running a command line

`Request.answer` is what a request comes to, given what is seen. `run` carries a command line out on a
disk: it is read and answered, and then the answer is carried out, one action after the other, up to
the first that ends the run.
-/

namespace Decomment

/-- The answer to a request. -/
def Request.answer (w : World) : Request → Answer
  | .strip request => Command.strip w request
  | .languages format => Command.languages w format
  | .detect path format => Command.detect w path format
  | .configPath => Command.configPath w
  | .configGet key => Command.configGet w key
  | .configSet key value => Command.configSet w key value

/-- The paths that a request looks at, apart from that of the settings. -/
def Request.paths (stamp : String) : Request → List String
  | .strip request => [request.input, Command.stampedPath request.input stamp]
  | .detect path _ => [path]
  | _ => []

/-- Whether a request reads standard input. -/
def Request.readsStdin : Request → Bool
  | .strip request => request.input == Command.stdinPath
  | _ => false

/-- The answer to a command line. A text that is asked for in place of a request is shown as far as
that can be done. -/
def answerTo (w : World) (args : List String) : Answer :=
  match w.lib.readArgs args with
  | .request request => request.answer w
  | .shown text => { actions := [.print text .goOn] }
  | .refused cause => .fail (.usage cause)

/-- A run of the program: its arguments, what it is given, and when it takes place. -/
structure Invocation where
  args : List String
  stdin : Content := .text []
  stdout : Sink := {}
  env : Environment := {}
  stamp : String := "0"

/-- What a run of the program sees on a disk. -/
def Invocation.world (lib : Libraries) (call : Invocation) (disk : Disk) : World where
  lib := lib
  look? := disk.look?
  stdin := call.stdin
  env := call.env
  stamp := call.stamp

/-! ## Carrying answers out -/

/-- How a run ended. -/
inductive Ending
  | done
  | failed (e : Error)
  /-- A line could not be printed. This is no error of the command: what it has done is done. -/
  | brokenOff
deriving DecidableEq, Repr, Inhabited

/-- The error that a run ended in, if it did. -/
def Ending.error? : Ending → Option Error
  | failed e => some e
  | _ => none

/-- How a run ends that could not print a text, if it does. -/
def Otherwise.ending? (cause : OutputError) : Otherwise → Option Ending
  | fail => some (.failed (.output cause))
  | breakOff => some .brokenOff
  | goOn => none

/-- What a run has done so far. -/
structure Progress where
  disk : Disk
  /-- What standard output has taken. -/
  stdout : List UInt8 := []
  stderr : String := ""

namespace Progress

/-- Does one thing. Gives how the run ends, if it ends by that. -/
def perform (sink : Sink) (p : Progress) : Action → Progress × Option Ending
  | .change effect =>
    let (disk, failure) := p.disk.perform effect
    ({ p with disk }, failure.map (.failed <| .disk ·))
  | .warn text => ({ p with stderr := p.stderr ++ text }, none)
  | .print text otherwise =>
    let (stdout, failure) := sink.write p.stdout text
    ({ p with stdout }, failure.bind (otherwise.ending? ·))

/-- Does one thing after the other, until the run ends by one. -/
def performAll (sink : Sink) (p : Progress) : List Action → Progress × Option Ending
  | [] => (p, none)
  | action :: actions =>
    match p.perform sink action with
    | (p, some ending) => (p, some ending)
    | (p, none) => performAll sink p actions

end Progress

/-- What came of a run. -/
structure Outcome where
  ending : Ending := .done
  /-- What standard output has taken. -/
  stdout : List UInt8 := []
  stderr : String := ""

/-- The error that ended the run, if one did. -/
def Outcome.error? (outcome : Outcome) : Option Error :=
  outcome.ending.error?

/-- Carries an answer out. -/
def carryOut (sink : Sink) (disk : Disk) (answer : Answer) : Outcome × Disk :=
  let (p, ending?) := ({ disk } : Progress).performAll sink answer.actions
  let ending := ending?.getD (answer.error?.elim .done .failed)
  ({ ending, stdout := p.stdout, stderr := p.stderr }, p.disk)

/-- Carries out a run of the program. -/
def run (lib : Libraries) (disk : Disk) (call : Invocation) : Outcome × Disk :=
  carryOut call.stdout disk (answerTo (call.world lib disk) call.args)

end Decomment
