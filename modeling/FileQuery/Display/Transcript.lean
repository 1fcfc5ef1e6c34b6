import FileQuery.CommandLine.Usage
import FileQuery.Execution.Listing
import FileQuery.Settings.Dialogue
import FileQuery.Text.Lines
import FileQuery.Text.Width

/-!
# What the program prints

Results are drawn as tables, and all that is printed is a transcript of lines.
-/

/-!
## Tables

A table is drawn with lines around its cells. A column is as wide as its widest cell, and a cell
may have several lines of text.
-/

namespace FileQuery

/-- A table of texts. Every row has a cell for each column. -/
structure Table where
  header : List String
  rows : List (List String)
  deriving DecidableEq, Repr

namespace Table

/-- The lines of text in a cell. -/
def cellLines (cell : String) : List (List Char) := (cell.splitOn "\n").map String.toList

/-- The number of columns that a cell takes. -/
def cellWidth (cell : String) : Nat := ((cellLines cell).map Text.width).foldl max 0

/-- The widths of columns that hold the cells of one more row. -/
def widen : List Nat → List String → List Nat
  | width :: widths, cell :: cells => max width (cellWidth cell) :: widen widths cells
  | widths, [] => widths
  | [], _ => []

/-- The widths of the columns. -/
def widths (table : Table) : List Nat := table.rows.foldl widen (table.header.map cellWidth)

/-- A line between rows. -/
def rule (left fill middle right : Char) (widths : List Nat) : List Char :=
  left :: ([middle].intercalate (widths.map fun width => List.replicate (width + 2) fill)) ++
    [right]

/-- One line of the text of a row. -/
def rowLine (widths : List Nat) (cells : List (List (List Char))) (index : Nat) : List Char :=
  let texts := (widths.zip cells).map fun (width, lines) =>
    Text.padded ((lines[index]?).getD []) width
  ['│', ' '] ++ [' ', '┆', ' '].intercalate texts ++ [' ', '│']

/-- The lines of the text of a row. -/
def rowLines (widths : List Nat) (row : List String) : List (List Char) :=
  let cells := row.map cellLines
  (List.range ((cells.map List.length).foldl max 0)).map (rowLine widths cells)

/-- The lines of the texts of rows, with a line between two rows. -/
def bodyLines (widths : List Nat) : List (List String) → List (List Char)
  | [] => []
  | [last] => rowLines widths last
  | row :: rest => rowLines widths row ++ rule '├' '╌' '┼' '┤' widths :: bodyLines widths rest

/-- The lines of a table. -/
def lines (table : Table) : List String :=
  let widths := table.widths
  ([rule '┌' '─' '┬' '┐' widths] ++ rowLines widths table.header ++
    [rule '╞' '═' '╪' '╡' widths] ++ bodyLines widths table.rows ++
    [rule '└' '─' '┴' '┘' widths]).map String.ofList

end Table

end FileQuery

/-!
## Transcripts

What the program prints, line by line, each to its output or to its errors.
-/

namespace FileQuery

/-- A printed line. -/
inductive Printed
  | output (line : String)
  | errors (line : String)
  deriving DecidableEq, Repr

/-- What is printed, from first to last. -/
abbrev Transcript := List Printed

namespace Transcript

/-- What is printed to the output. -/
def outputText (transcript : Transcript) : String :=
  String.join (transcript.filterMap fun printed => match printed with
    | .output line => some (line ++ "\n")
    | .errors _ => none)

/-- What is printed to the errors. -/
def errorText (transcript : Transcript) : String :=
  String.join (transcript.filterMap fun printed => match printed with
    | .output _ => none
    | .errors line => some (line ++ "\n"))

/-- A line that says what is done next. -/
def step (text : String) : Printed := .output ("→ " ++ text)

/-- A line that says what has succeeded. -/
def success (text : String) : Printed := .output ("✓ " ++ text)

/-- A line that warns. -/
def warning (text : String) : Printed := .output ("⚠ " ++ text)

/-- A line that says what is wrong. -/
def complaint (text : String) : Printed := .errors ("✗ " ++ text)

/-- The line of an error that ends the program. -/
def fatal (text : String) : Printed := .errors ("Error: " ++ text)

/-- The name and the version of the program between two rules. -/
def banner : Transcript :=
  let rule := String.ofList (List.replicate 40 '═')
  [.output rule, .output "SortQL CLI", .output ("v" ++ programVersion), .output rule, .output ""]

/-- What the program runs. -/
def setting (directory queries : Path) (watch : Bool) : Transcript :=
  [.output "sortql running with:", .output ("- directory: " ++ directory.text),
    .output ("- queries: " ++ queries.text),
    .output ("- watch: " ++ if watch then "enabled" else "disabled"), .output ""]

/-- A number in at least three columns. -/
def lineNumber (number : Nat) : String :=
  let digits := toString number
  String.ofList (List.replicate (3 - digits.length) ' ') ++ digits

/-- The number of lines that a query may have to be shown. -/
def shownLines : Nat := 10

/-- The error of a query, and the query unless it is blank or long. -/
def queryError (message text : String) : Transcript :=
  let lines := Text.lines text.toList
  complaint message ::
    if (Text.trim text.toList).isEmpty || shownLines < lines.length then []
    else
      [.errors "", .errors "Queries:"] ++ lines.zipIdx.map fun (line, index) =>
        .errors (lineNumber (index + 1) ++ " │ " ++ String.ofList line)

/-- The row of a statement in the table of a report. -/
def row (statement : Statement) (outcome : Outcome) : List String :=
  match outcome with
  | .completed report =>
    [statement.text, if report.failures.isEmpty then "done" else "partial",
      toString report.matched, toString report.processed, toString report.skipped.length,
      toString report.failures.length]
  | .rejected error => [statement.text, "rejected: " ++ error.message, "-", "-", "-", "-"]
  | .failed error => [statement.text, "failed: " ++ error.message, "-", "-", "-", "-"]

/-- The table of a report. -/
def table (report : RunReport) : Table :=
  ⟨["Statement", "Status", "Matched", "Processed", "Skipped", "Failed"],
    report.outcomes.map fun (statement, outcome) => row statement outcome⟩

/-- The matches that a statement selected, and those that failed. -/
def details : Outcome → Transcript
  | .completed report =>
    (if report.operation = .select then
      .output ("↳ [SELECT] " ++ toString report.matched ++ " match(es)") ::
        report.paths.map fun path => .output ("    " ++ path.text)
    else []) ++
    report.failures.map fun failure =>
      .output ("  ✗ [" ++ report.operation.keyword ++ "] " ++ failure.path.text ++ ": " ++
        failure.reason)
  | .rejected _ | .failed _ => []

/-- A report as a table with details. -/
def tabled (report : RunReport) : Transcript :=
  (table report).lines.map .output ++ report.outcomes.flatMap (details ·.2) ++
    [if report.hasFailures then warning "Some statements did not complete cleanly"
      else success "Queries executed"]

/-- A report in either form. -/
def report (json : Bool) (report : RunReport) : Transcript :=
  if json then [.output report.json.text] else tabled report

end Transcript

end FileQuery
