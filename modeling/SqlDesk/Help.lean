/-
The help of the program: two pages and the box about the program.
-/
namespace SqlDesk.Help

/-- A page of the help. -/
structure Page where
  title : String
  html : String
  deriving DecidableEq, Repr

/-- The text of some lines, each with its line end. -/
def ofLines (lines : List String) : String :=
  String.join (lines.map (· ++ "\n"))

/-- The page about formatting. -/
def formatting : Page where
  title := "Formatting"
  html := ofLines [
    "<h2>Formatting SQL</h2>",
    "",
    "<h3>Selection or whole document</h3>",
    "<p><b>Edit &rarr; Format SQL</b> formats the selected text only. With no",
    "selection, or with the whole text selected, the entire document is formatted",
    "and the cursor is moved to roughly the same place in the result.</p>",
    "<p>A selection ending in a line break or a space is shortened by that one",
    "character before formatting.</p>",
    "",
    "<h3>Non-SQL files</h3>",
    "<p>Files without the configured SQL extension (<code>.sql</code> by default)",
    "ask for confirmation first.</p>",
    "",
    "<h3>Parse errors</h3>",
    "<p>When the SQL cannot be parsed cleanly, you are asked whether to apply the",
    "best-effort result anyway. Answering <b>No</b> leaves the text untouched.</p>",
    "",
    "<h3>Format on save</h3>",
    "<p>Enable <b>Format on save</b> in <b>Tools &rarr; Formatting Options</b> to",
    "format SQL files each time they are saved. Other files are saved as-is.</p>",
    "",
    "<h3>Sharing options</h3>",
    "<p>Use <b>Export...</b> and <b>Import...</b> in the options dialog to share",
    "formatting options as a TOML file. The hotkey is not included.</p>"]

/-- The page about the keys. -/
def shortcuts : Page where
  title := "Keyboard Shortcuts"
  html := ofLines [
    "<h2>Keyboard Shortcuts</h2>",
    "",
    "<table cellpadding=\"6\" cellspacing=\"0\" border=\"1\"",
    "       style=\"border-collapse:collapse; width:100%;\">",
    "  <tr style=\"background:#f0f0f0;\">",
    "    <th>Shortcut</th><th>Action</th>",
    "  </tr>",
    "  <tr><td><code>Ctrl+K, Ctrl+F</code></td><td>Format SQL (configurable)</td></tr>",
    "  <tr><td><code>Ctrl+N</code></td><td>New document</td></tr>",
    "  <tr><td><code>Ctrl+O</code></td><td>Open file</td></tr>",
    "  <tr><td><code>Ctrl+S</code></td><td>Save</td></tr>",
    "  <tr><td><code>F1</code></td><td>Open this Help dialog</td></tr>",
    "</table>"]

/-- The pages of the help. -/
def pages : List Page := [formatting, shortcuts]

/-- The page that is shown first. -/
def firstPage : Nat := 0

/-- The title of the box about the program. -/
def aboutTitle : String := "About SqlTidy"

/-- The text of the box about the program. -/
def aboutText : String :=
  "<h2>SqlTidy</h2>" ++
    "<p><b>v0.1</b> &mdash; SQL editor with a Format SQL command</p>" ++
    "<p>Formats the selection or the whole document, optionally on save.</p>" ++
    "<p>Built with PyQt6, sqlparse and sqlglot.</p>"

end SqlDesk.Help
