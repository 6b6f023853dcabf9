import HostVitals.CommandLine.Arguments

/-!
# Pages of help

What the program tells about its use.  With colours, titles are bold and underlined, and what is
typed as it stands is bold.

Main results:

- `row_width`: explanations begin in one column.
-/

namespace HostVitals.CommandLine

open HostVitals.Text

/-- The name of the program. -/
def programName : String := "hwsnap"

/-- The version of the program. -/
def programVersion : String := "0.1.0"

/-- What is written about the version. -/
def versionText : String := programName ++ " " ++ programVersion ++ "\n"

/-! ## Looks -/

/-- A piece of help text: codes that are switched on one by one, and the text. -/
def helpPiece (colours : Bool) (span : Span) : List Char :=
  if colours && !span.style.isEmpty then
    span.style.flatMap (fun code => switchOn [code]) ++ span.text ++ resetAll
  else span.text

/-- A title. -/
def helpTitle (text : String) : Span := sayIn [1, 4] text

/-- What is typed as it stands. -/
def literal (text : String) : Span := sayIn .bold text

/-! ## Rows -/

/-- A row: what is typed, the width that it takes, and what it does. -/
structure Row where
  typed : Line
  about : String

/-- The number of characters in what is typed. -/
def Row.width (row : Row) : Nat :=
  row.typed.foldl (fun width span => width + span.text.length) 0

/-- A row with its explanation in the given column. -/
def Row.line (column : Nat) (row : Row) : Line :=
  row.typed ++ [⟨.plain, List.replicate (column - row.width) ' '⟩, say row.about]

/-- Rows with their explanations in one column, two places after the widest. -/
def rows (rs : List Row) : List Line :=
  let widest := rs.foldl (fun width row => max width row.width) 0
  rs.map (Row.line (widest + 2))

/-- An explanation begins in its column. -/
theorem row_width {row : Row} {column : Nat} (h : row.width ≤ column) :
    (row.typed ++ [⟨.plain, List.replicate (column - row.width) ' '⟩] : Line).foldl
      (fun width span => width + span.text.length) 0 = column := by
  simp only [List.foldl_append, List.foldl_cons, List.foldl_nil, List.length_replicate]
  unfold Row.width at h ⊢
  omega

/-! ## Pages -/

/-- The name of a topic. -/
def Topic.name : Topic → String
  | .battery => "battery"
  | .thermal => "thermal"
  | .sensors => "sensors"
  | .all => "all"

/-- What a topic is about. -/
def Topic.about : Topic → String
  | .battery => "Show battery charge, status and health"
  | .thermal => "Show fan speed and CPU temperature"
  | .sensors => "Show temperature sensors"
  | .all => "Show everything (default)"

/-- What the help command is about. -/
def helpAbout : String := "Print this message or the help of the given subcommand(s)"

/-- The row of a command. -/
def commandRow (name about : String) : Row :=
  ⟨[say "  ", literal name], about⟩

/-- The rows of the commands. -/
def commandRows : List Row :=
  topicNames.map (fun entry => commandRow entry.1 entry.2.about) ++ [commandRow "help" helpAbout]

/-- The rows of the options that may be given everywhere. -/
def commonRows : List Row :=
  [⟨[say "      ", literal "--json"], "Print JSON instead of formatted text"⟩,
   ⟨[say "  ", literal "-c", say ", ", literal "--config", say " <PATH>"],
    "Read collector settings from this JSON file"⟩,
   ⟨[say "  ", literal "-h", say ", ", literal "--help"], "Print help"⟩]

/-- The row of the version. -/
def versionRow : Row :=
  ⟨[say "  ", literal "-V", say ", ", literal "--version"], "Print version"⟩

/-- The line on how to call a command. -/
def usageLine (command operands : String) : Line :=
  [helpTitle "Usage:", say " ", literal command, say (" " ++ operands)]

/-- The lines of a page. -/
def Page.lines : Page → List Line
  | .program =>
    [[say "Battery, thermal and sensor telemetry for this host"], [],
     usageLine programName "[OPTIONS] [COMMAND]", [], [helpTitle "Commands:"]]
      ++ rows commandRows ++ [[], [helpTitle "Options:"]] ++ rows (commonRows ++ [versionRow])
  | .topic t =>
    [[say t.about], [], usageLine (programName ++ " " ++ t.name) "[OPTIONS]", [],
     [helpTitle "Options:"]] ++ rows commonRows
  | .help =>
    [[say helpAbout], [], usageLine (programName ++ " help") "[COMMAND]...", [],
     [helpTitle "Arguments:"]]
      ++ rows [⟨[say "  [COMMAND]..."], "Print help for the subcommand(s)"⟩]

/-- The text of a page. -/
def Page.text (colours : Bool) (page : Page) : String :=
  String.ofList (page.lines.flatMap (fun line => line.flatMap (helpPiece colours) ++ ['\n']))

end HostVitals.CommandLine
