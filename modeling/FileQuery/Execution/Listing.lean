import FileQuery.Execution.Run
import FileQuery.Json
import FileQuery.Statement
import FileQuery.Token

/-!
# Listings

How tokens, syntax trees and reports are written as JSON values. A union is an object with a single
member that is named for the case.
-/

namespace FileQuery

/-- The listing of a token. -/
def Token.json (token : Token) : Json :=
  .object [("kind", .string token.kind.name), ("value", .string token.lexeme)]

/-- The syntax tree of a condition. -/
def Condition.json : Condition → Json
  | literal value => .object [("Literal", .string value)]
  | binary operator left right =>
    .object [("BinaryOp", .object [
      ("op", .string operator.name), ("left", left.json), ("right", right.json)])]

/-- The syntax tree of the clauses that all statements share. -/
def Selection.json (selection : Selection) : Json :=
  .object [
    ("target", .string selection.target),
    ("from", .string selection.source),
    ("where_clause", (selection.condition.map Condition.json).getD .null)]

/-- The syntax tree of a statement. -/
def Statement.json (statement : Statement) : Json :=
  .object [(statement.operation.name,
    match statement.destination? with
    | none => statement.selection.json
    | some destination =>
      .object [("selection", statement.selection.json), ("to", .string destination)])]

/-- The syntax tree of a query that is run in a directory. -/
def Query.json (directory : String) (statements : List Statement) : Json :=
  .object [
    ("directory", .string directory),
    ("statements", .list (statements.map Statement.json))]

/-!
## Listings of reports

How the reports of statements and queries are written as JSON values.
-/

/-- The listing of a report. -/
def Report.json (report : Report) : Json :=
  .object [
    ("operation", .string report.operation.keyword),
    ("destination", .ofOption report.destination),
    ("matched", .number report.matched),
    ("paths", .list (report.paths.map fun path => .string path.text)),
    ("processed", .number report.processed),
    ("skipped", .list (report.skipped.map fun path => .string path.text)),
    ("failures", .list (report.failures.map fun failure =>
      .object [("path", .string failure.path.text), ("reason", .string failure.reason)]))]

/-- The word for what became of a statement. -/
def Outcome.status : Outcome → String
  | completed _ => "completed"
  | rejected _ => "rejected"
  | failed _ => "failed"

/-- The listing of what became of a statement. -/
def Outcome.json (outcome : Outcome) : Json :=
  .object [
    ("status", .string outcome.status),
    ("detail", match outcome with
      | completed report => report.json
      | rejected error => .string error.message
      | failed error => .string error.message)]

/-- The listing of what became of a query. -/
def RunReport.json (report : RunReport) : Json :=
  .object [
    ("directory", .string report.directory.text),
    ("statements", .list (report.outcomes.map fun (statement, outcome) =>
      .object [("statement", .string statement.text), ("outcome", outcome.json)]))]

end FileQuery
