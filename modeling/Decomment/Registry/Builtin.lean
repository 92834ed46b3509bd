import Decomment.Registry

/-!
# Languages known from the start

The table of the languages that every registry of the program starts with.
-/

namespace Decomment

/-- Line markers without conditions. -/
def plainMarkers (markers : List String) : List LineMarker :=
  markers.map ({ marker := · })

/-- Delimiters of literals that may go over line breaks. -/
def plainQuotes (delimiters : List String) : List Quote :=
  delimiters.map ({ delimiter := · })

namespace Language

/-- Languages with the comments of C. A marker after a colon is part of an address. -/
def cStyle : Language where
  id := "c_style"
  extensions := [".c", ".cpp", ".h", ".hpp", ".java", ".js", ".jsx", ".ts", ".tsx", ".cs", ".php",
    ".swift", ".go", ".kt", ".scala"]
  interpreters := ["node", "deno", "php"]
  lexis := {
    lineMarkers := [{ marker := "//", notAfter := [':'] }]
    blocks := [{ start := "/*", stop := "*/" }]
    quotes := plainQuotes ["\"", "'", "`"]
    escape := some '\\' }

/-- Command shells. A number sign inside a word opens no comment. -/
def shell : Language where
  id := "shell"
  extensions := [".sh", ".bash", ".zsh", ".ksh"]
  interpreters := ["sh", "bash", "zsh", "ksh", "dash"]
  lexis := {
    lineMarkers := [{ marker := "#", standalone := true }]
    quotes := plainQuotes ["\""]
    escape := some '\\'
    rawQuotes := plainQuotes ["'"] }

/-- Python. A literal in triple quotes that is a statement of its own is documentation and goes; the
same delimiters after code are ordinary literals. -/
def python : Language where
  id := "python"
  extensions := [".py", ".pyw"]
  interpreters := ["python", "pypy"]
  lexis := {
    lineMarkers := plainMarkers ["#"]
    blocks := [
      { start := "\"\"\"", stop := "\"\"\"", lineStart := true },
      { start := "'''", stop := "'''", lineStart := true }]
    quotes := plainQuotes ["\"\"\"", "'''", "\"", "'"]
    escape := some '\\' }

/-- Ruby. -/
def ruby : Language where
  id := "ruby"
  extensions := [".rb", ".rake", ".gemspec"]
  interpreters := ["ruby"]
  lexis := {
    lineMarkers := plainMarkers ["#"]
    blocks := [{ start := "=begin", stop := "=end", lineStart := true }]
    quotes := plainQuotes ["\"", "'"]
    escape := some '\\' }

/-- Markup. There are no literals: an apostrophe in running text opens nothing. -/
def markup : Language where
  id := "markup"
  extensions := [".html", ".htm", ".xml", ".svg", ".xhtml", ".jsp", ".asp", ".aspx"]
  lexis := { blocks := [{ start := "<!--", stop := "-->" }] }

/-- Style sheets. -/
def css : Language where
  id := "css"
  extensions := [".css", ".scss", ".sass", ".less"]
  lexis := {
    lineMarkers := [{ marker := "//", notAfter := [':'] }]
    blocks := [{ start := "/*", stop := "*/" }]
    quotes := plainQuotes ["\"", "'"]
    escape := some '\\' }

/-- SQL. A doubled quote reads as two literals side by side, so nothing escapes. -/
def sql : Language where
  id := "sql"
  extensions := [".sql", ".sqlite", ".pgsql"]
  lexis := {
    lineMarkers := plainMarkers ["--", "#"]
    blocks := [{ start := "/*", stop := "*/" }]
    quotes := plainQuotes ["'", "\""] }

/-- Lua. -/
def lua : Language where
  id := "lua"
  extensions := [".lua"]
  interpreters := ["lua", "luajit"]
  lexis := {
    lineMarkers := plainMarkers ["--"]
    blocks := [{ start := "--[[", stop := "]]" }]
    quotes := plainQuotes ["\"", "'"]
    escape := some '\\' }

/-- PowerShell. -/
def powershell : Language where
  id := "powershell"
  extensions := [".ps1", ".psm1", ".psd1"]
  interpreters := ["pwsh", "powershell"]
  lexis := {
    lineMarkers := plainMarkers ["#"]
    blocks := [{ start := "<#", stop := "#>" }]
    quotes := plainQuotes ["\""]
    escape := some '`'
    rawQuotes := plainQuotes ["'"] }

/-- YAML. -/
def yaml : Language where
  id := "yaml"
  extensions := [".yaml", ".yml"]
  lexis := {
    lineMarkers := plainMarkers ["#"]
    quotes := [{ delimiter := "\"", multiline := false }]
    escape := some '\\'
    rawQuotes := [{ delimiter := "'", multiline := false }] }

/-- Perl. A number sign after a dollar sign is part of a variable. -/
def perl : Language where
  id := "perl"
  extensions := [".pl", ".pm", ".t"]
  interpreters := ["perl"]
  lexis := {
    lineMarkers := [{ marker := "#", notAfter := ['$'] }]
    blocks := [{ start := "=pod", stop := "=cut", lineStart := true }]
    quotes := plainQuotes ["\"", "'", "`"]
    escape := some '\\' }

/-- R. -/
def r : Language where
  id := "r"
  extensions := [".r"]
  interpreters := ["Rscript"]
  lexis := {
    lineMarkers := plainMarkers ["#"]
    quotes := plainQuotes ["\"", "'"]
    escape := some '\\' }

/-- Haskell. An apostrophe may be part of a name and opens nothing. Literals end at a line break, so
that a quote between apostrophes does harm to one line only. -/
def haskell : Language where
  id := "haskell"
  extensions := [".hs", ".lhs"]
  interpreters := ["runghc", "runhaskell"]
  lexis := {
    lineMarkers := plainMarkers ["--"]
    blocks := [{ start := "\x7b-", stop := "-\x7d", nestable := true }]
    quotes := [{ delimiter := "\"", multiline := false }]
    escape := some '\\' }

/-- Batch files. -/
def batch : Language where
  id := "batch"
  extensions := [".bat", ".cmd"]
  lexis := {
    lineMarkers := [
      { marker := "REM", standalone := true },
      { marker := "Rem", standalone := true },
      { marker := "rem", standalone := true },
      { marker := "::" }]
    quotes := [{ delimiter := "\"", multiline := false }] }

/-- Plain text, in which nothing is a comment. -/
def plain : Language where
  id := "plain"
  extensions := [".txt"]

/-- The languages known from the start, in order. -/
def builtin : List Language :=
  [cStyle, shell, python, ruby, markup, css, sql, lua, powershell, yaml, perl, r, haskell, batch,
    plain]

end Language

/-- The registry of the languages known from the start. -/
def Registry.builtin : Registry :=
  ⟨Language.builtin.map Language.normalize⟩

end Decomment
