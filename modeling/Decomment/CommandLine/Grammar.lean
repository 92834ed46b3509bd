import Decomment.Error

/-!
# Grammar of a command line

Arguments are switches, with a long name and perhaps a short one, and operands. Short switches may
stand together after one dash, and the last of them may have its value attached. After `--` all
arguments are operands.

A switch or operand counts only when the next one comes or the arguments end (`Parse.settle`): until
then its value is pending. So an unknown switch is reported before a bad value that stands right in
front of it.
-/

namespace Decomment.CommandLine

/-- What a value has to be. -/
inductive ValueKind
  /-- Any text. -/
  | word
  /-- The path of a file, which is not empty. -/
  | path
  /-- The name of an output format. -/
  | format
deriving DecidableEq, Repr, Inhabited

/-- The names of output formats. -/
def formatNames : List String := ["text", "json", "auto"]

/-- Whether a text is a value of a kind. -/
def ValueKind.accepts : ValueKind → String → Bool
  | word, _ => true
  | path, value => !value.isEmpty
  | format, value => formatNames.contains value

/-- What a switch does. -/
inductive Action
  /-- Turns something on; given at most once. -/
  | flag
  /-- Adds one; given any number of times. -/
  | count
  /-- Takes a value; given at most once. -/
  | value (kind : ValueKind)
  | help
  | version
deriving DecidableEq, Repr, Inhabited

/-- A switch. -/
structure Switch where
  long : String
  short : Option Char := none
  action : Action
deriving DecidableEq, Repr, Inhabited

/-- A value that is not settled yet: what it is for, its kind, and the value if it was given. -/
structure Pending where
  name : String
  kind : ValueKind
  value : Option String := none
deriving DecidableEq, Repr, Inhabited

/-- Arguments that were read up to some place. -/
structure Parse where
  /-- The switches and operands that are settled, with their values, in order. -/
  found : List (String × String) := []
  /-- The value that is not settled yet. -/
  pending : Option Pending := none
  /-- The operands still to come. -/
  operands : List (String × ValueKind) := []
  /-- Whether only operands can follow. -/
  operandsOnly : Bool := false
deriving DecidableEq, Repr, Inhabited

namespace Parse

/-- Whether a switch or operand is settled. -/
def has (p : Parse) (name : String) : Bool :=
  (p.found.lookup name).isSome

/-- Settles the pending value: it has to be given, for something not given before, and of the right
kind. -/
def settle (p : Parse) : Except UsageError Parse :=
  match p.pending with
  | none => .ok p
  | some { name, kind, value } =>
    match value with
    | none => .error .invalidValue
    | some value =>
      if p.has name then .error .repeatedArgument
      else if kind.accepts value then
        .ok { p with found := p.found ++ [(name, value)], pending := none }
      else .error .invalidValue

/-- Makes a value the pending one. -/
def await (p : Parse) (pending : Pending) : Except UsageError Parse := do
  let p ← p.settle
  return { p with pending := some pending }

/-- Uses a switch that takes no value. -/
def useFlag (p : Parse) (switch : Switch) : Except UsageError Parse := do
  let p ← p.settle
  match switch.action with
  | .help => .error .displayHelp
  | .version => .error .displayVersion
  | .flag =>
    if p.has switch.long then .error .repeatedArgument
    else .ok { p with found := p.found ++ [(switch.long, "")] }
  | .count | .value _ => .ok { p with found := p.found ++ [(switch.long, "")] }

/-- Uses a switch with a value that is attached to it. -/
def useValue (p : Parse) (switch : Switch) (kind : ValueKind) (value : String) :
    Except UsageError Parse := do
  let p ← p.await ⟨switch.long, kind, some value⟩
  p.settle

/-- Reads a long switch, given without its two dashes. -/
def longSwitch (switches : List Switch) (p : Parse) (arg : List Char) : Except UsageError Parse :=
  let name := arg.takeWhile (· != '=')
  let value? : Option (List Char) := (arg.dropWhile (· != '=')).tail?
  match switches.find? (·.long.toList == name) with
  | none => .error .unknownArgument
  | some switch =>
    match switch.action, value? with
    | .value kind, some value => p.useValue switch kind (String.ofList value)
    | .value kind, none => p.await ⟨switch.long, kind, none⟩
    | _, some _ => .error .unexpectedValue
    | _, none => p.useFlag switch

/-- Reads short switches, given without their dash. -/
def shortSwitches (switches : List Switch) (p : Parse) : List Char → Except UsageError Parse
  | [] => .ok p
  | c :: rest =>
    match switches.find? (·.short == some c) with
    | none => .error .unknownArgument
    | some switch =>
      match switch.action with
      | .value kind =>
        match rest with
        | [] => p.await ⟨switch.long, kind, none⟩
        | '=' :: value => p.useValue switch kind (String.ofList value)
        | value => p.useValue switch kind (String.ofList value)
      | _ => do
        let p ← p.useFlag switch
        shortSwitches switches p rest

/-- Reads the next operand. -/
def operand (p : Parse) (arg : String) : Except UsageError Parse :=
  match p.operands with
  | [] => .error .unknownArgument
  | (name, kind) :: operands => do
    let p ← p.await ⟨name, kind, some arg⟩
    return { p with operands }

/-- Reads an argument that is no switch: the value that a switch waits for, or an operand. -/
def word (p : Parse) (arg : String) : Except UsageError Parse :=
  match p.pending with
  | some { name, kind, value := none } =>
    .ok { p with pending := some ⟨name, kind, some arg⟩ }
  | _ => p.operand arg

/-- The forms of an argument. -/
inductive Form
  | dashes
  | long (body : List Char)
  | short (body : List Char)
  | word
deriving DecidableEq, Repr, Inhabited

/-- The form of an argument, by its first characters. -/
def form (arg : String) : Form :=
  match arg.toList with
  | ['-', '-'] => .dashes
  | '-' :: '-' :: body => .long body
  | '-' :: c :: body => .short (c :: body)
  | _ => .word

/-- Reads one argument. -/
def next (switches : List Switch) (p : Parse) (arg : String) : Except UsageError Parse :=
  if p.operandsOnly then p.operand arg
  else match form arg with
    | .dashes => .ok { p with operandsOnly := true }
    | .long body => p.longSwitch switches body
    | .short body => p.shortSwitches switches body
    | .word => p.word arg

end Parse

/-- Reads the arguments of a command: all its operands have to be there. -/
def parseCommand (switches : List Switch) (operands : List (String × ValueKind))
    (args : List String) : Except UsageError (List (String × String)) := do
  let p ← args.foldlM (Parse.next switches) { operands }
  let p ← p.settle
  if p.operands.isEmpty then return p.found else .error .missingArgument

/-- Reads arguments up to the name of one of some commands. Gives the name and what follows it. -/
def parseGroup (switches : List Switch) (commands : List String) :
    Parse → List String → Except UsageError (String × List String)
  | p, [] => .error (if p.found.isEmpty then .nothingGiven else .missingCommand)
  | p, arg :: args =>
    if p.operandsOnly then
      .error (if commands.contains arg then .unknownArgument else .invalidCommand)
    else if commands.contains arg then .ok (arg, args)
    else if Parse.form arg = .word then .error .invalidCommand
    else do
      let p ← p.next switches arg
      parseGroup switches commands p args

end Decomment.CommandLine
