import FileQuery.Execution.Conversion
import FileQuery.Execution.Matches
import FileQuery.Execution.Packing
import FileQuery.Execution.Transfer
import FileQuery.Query

/-!
# Running queries

The statements of a query run one after another in a directory. A statement that is refused or
fails does not keep the next one from running, and a query that cannot be read runs not at all.
-/

namespace FileQuery

namespace Plan

/-- Carries out an action for matches. -/
def perform (plan : Plan) (root : Path) (converter : Converter) (found : List Path) :
    Changes ExecutionError Report :=
  match plan.action with
  | .select => pure (Report.start .select none root found)
  | .delete => Removal.delete root plan.target found
  | .move destination => Transfer.move root destination found
  | .copy destination => Transfer.copy root destination found
  | .archive destination => Packing.archive root destination found
  | .unarchive destination => Packing.unarchive root destination found
  | .convert format => Changes.ofState (Conversion.convert converter root format found)

/-- Finds the matches of a plan and carries out its action for them. -/
def execute (plan : Plan) (root : Path) (converter : Converter) :
    Changes ExecutionError Report := do
  let found ← Changes.look fun tree => plan.findMatches tree root
  plan.perform root converter found

end Plan

/-- What became of a statement. -/
inductive Outcome
  | completed (report : Report)
  | rejected (error : ValidationError)
  | failed (error : ExecutionError)
  deriving DecidableEq, Repr

/-- Whether something went wrong. -/
def Outcome.isFailure : Outcome → Bool
  | completed report => !report.failures.isEmpty
  | rejected _ | failed _ => true

/-- Runs a statement in a directory. -/
def Statement.run (root : Path) (converter : Converter) (statement : Statement) :
    StateM FileTree Outcome := fun tree =>
  match Plan.ofStatement statement with
  | .error error => (.rejected error, tree)
  | .ok plan =>
    match plan.execute root converter tree with
    | (.ok report, changed) => (.completed report, changed)
    | (.error error, changed) => (.failed error, changed)

/-- What became of a query: each statement, as it is written back, with its outcome. -/
structure RunReport where
  directory : Path
  outcomes : List (Statement × Outcome)
  deriving DecidableEq, Repr

/-- Whether something went wrong in a query. -/
def RunReport.hasFailures (report : RunReport) : Bool := report.outcomes.any (·.2.isFailure)

namespace Query

/-- Runs statements one after another. -/
def runAll (root : Path) (converter : Converter) :
    List Statement → StateM FileTree (List (Statement × Outcome))
  | [] => pure []
  | statement :: rest => do
    let outcome ← statement.run root converter
    return (statement, outcome) :: (← runAll root converter rest)

end Query

/-- Why a query does not run at all. -/
inductive RunError
  | unreadable (error : ParseError)
  | file (error : FileError)
  deriving DecidableEq, Repr

/-- The description of an error. -/
def RunError.message : RunError → String
  | unreadable error => "Parse error: " ++ error.report
  | file error => "IO error: " ++ error.message

/-- A directory for queries to run in, and a converter for their use. -/
structure Client where
  directory : Path
  converter : Converter

namespace Client

/-- Runs the query of a text. -/
def run (client : Client) (text : String) : Changes RunError RunReport :=
  match Query.parse text with
  | .error error => throw (.unreadable error)
  | .ok statements => do
    let outcomes ← Changes.ofState (Query.runAll client.directory client.converter statements)
    return ⟨client.directory, outcomes⟩

/-- Runs the query of a file. -/
def runFile (client : Client) (path : Path) : Changes RunError RunReport := do
  let text ← Changes.look fun tree => (tree.readText path).mapError RunError.file
  client.run text

end Client

end FileQuery
