import Decomment.Command.World
import Decomment.Detection
import Decomment.Text.Wrap

/-!
# The commands that tell what is known

One lists the languages, the other tells the language of a file. Both print for people or as JSON.
-/

namespace Decomment.Command

/-! ## The language of a file -/

/-- The text of a file, if it can be had. -/
def peek (w : World) (path : String) : Option (List Char) :=
  (w.look? path).bind fun node => node.chars.toOption

/-- What is told about the language of a file. -/
structure Report where
  /-- The path of the file. -/
  path : String
  /-- How its language was found. -/
  detection : Detection
  /-- The language that removing comments goes by. -/
  effective : String
deriving DecidableEq, Repr, Inhabited

namespace Report

/-- How a language was found, as data. -/
def detectionValue (detection : Detection) : Value :=
  .table <|
    ("method", .string detection.method) ::
      (detection.language?.map fun id => ("language", Value.string id)).toList

/-- The report as data. -/
def toValue (report : Report) : Value := .table [
  ("path", .string report.path),
  ("detection", detectionValue report.detection),
  ("effective", .string report.effective)]

/-- The report as it is printed. -/
def text (json : Value → List Char) (report : Report) : OutputFormat → String
  | .json => String.ofList (json report.toValue) ++ "\n"
  | .text =>
    match report.detection with
    | .unknown => s!"{report.path}: unknown (falls back to {report.effective})\n"
    | found => s!"{report.path}: {found.describe}\n"

end Report

/-- Tells the language of a file. -/
def detect (w : World) (path : String) (format : OutputFormat) : Answer :=
  .say do
    let settings ← w.settings
    let registry ← settings.registry
    let detection := registry.detect path (peek w path)
    let report : Report := {
      path
      detection
      effective := detection.language?.getD settings.fallbackLanguage }
    return report.text w.lib.json format

/-! ## The languages -/

/-- Line markers as they are shown: without white space at the end. -/
def shownMarkers (language : Language) : List String :=
  language.lexis.lineMarkers.map fun m =>
    String.ofList (Text.trimEnd Text.isBlank m.marker.toList)

/-- Block pairs as they are shown. -/
def shownBlocks (language : Language) : List String :=
  language.lexis.blocks.map fun pair => s!"{pair.start} ... {pair.stop}"

/-- Delimiters as they are shown. -/
def shownQuotes (language : Language) : List String :=
  (language.lexis.quotes ++ language.lexis.rawQuotes).map Quote.delimiter

/-- A language as data. -/
def languageValue (language : Language) : Value := .table [
  ("id", .string language.id),
  ("extensions", Value.ofStrings language.extensions),
  ("single_line", Value.ofStrings (shownMarkers language)),
  ("multi_line", Value.ofStrings (shownBlocks language)),
  ("strings", Value.ofStrings (shownQuotes language))]

/-- Items with commas between them, or a word for none. -/
def listing (items : List String) : String :=
  if items.isEmpty then "None" else ", ".intercalate items

/-- The width of a line of output without its indent. -/
def listWidth : Nat := 62

/-- A text on lines of limited width, each but the first one indented. -/
def wrapped (text : String) : String :=
  "\n                ".intercalate ((Text.wrap listWidth text.toList).map String.ofList)

/-- The name of a script in warnings, for scripts that word breaks are known to be missing in. -/
def scriptName? : Text.LineClass → Option String
  | .thai => some "Thai"
  | .lao => some "Lao"
  | .burmese => some "Myanmar"
  | .khmer => some "Khmer"
  | _ => none

/-- The warnings about a text that is set in lines. -/
def wrapWarnings (text : String) : List String :=
  ((Text.undivided text.toList).filterMap scriptName?).map fun script =>
    s!"ICU4X data error: No segmentation model for complex script: {script}\n"

/-- Shows a language to people. -/
def showLanguage (language : Language) : List Action :=
  let extensions := listing language.extensions
  .say s!"  {language.id}:\n" :: (wrapWarnings extensions).map .warn ++ [
    .say ("    Extensions: " ++ wrapped extensions ++ "\n"),
    .say ("    Single-line comment: " ++ listing (shownMarkers language) ++ "\n"),
    .say ("    Multi-line comment: " ++ listing (shownBlocks language) ++ "\n"),
    .say "\n"]

/-- Shows all languages. -/
def showLanguages (json : Value → List Char) (registry : Registry) : OutputFormat → List Action
  | .json => [.say (String.ofList (json (.array (registry.languages.map languageValue))) ++ "\n")]
  | .text => .say "Supported languages:\n" :: registry.languages.flatMap showLanguage

/-- Lists the languages. -/
def languages (w : World) (format : OutputFormat) : Answer :=
  .ofExcept do
    let settings ← w.settings
    let registry ← settings.registry
    return { actions := showLanguages w.lib.json registry format }

end Decomment.Command
