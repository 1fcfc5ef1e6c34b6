import FileQuery.Archive.Entry
import FileQuery.Condition.Check
import FileQuery.FileTree.Error
import FileQuery.FileTree.Change
import FileQuery.Path

/-!
# Reports

What a statement did to its matches. Each match was processed, skipped or failed, and only a match
that has vanished can fail without the statement failing with it.
-/

namespace FileQuery

/-- Why a statement fails. -/
inductive ExecutionError
  | folderNotFound (path : Path)
  | notFolder (path : Path)
  | file (path : Path) (error : FileError)
  | condition (error : ConditionError)
  | archive (path : Path) (flaw : ArchiveFlaw)
  deriving DecidableEq, Repr

namespace ExecutionError

/-- The description of an error. -/
def message : ExecutionError → String
  | folderNotFound path => "Directory does not exist: " ++ path.text
  | notFolder path => "Not a directory: " ++ path.text
  | file path error => "IO error at " ++ path.text ++ ": " ++ error.message
  | condition error => error.message
  | archive path flaw => "Archive error at " ++ path.text ++ ": " ++ flaw.message

/-- Whether an error says only that something is not there. -/
def isNotFound : ExecutionError → Bool
  | file _ .notFound => true
  | _ => false

/-- The error of a statement for an archive at a path. -/
def ofArchive (path : Path) : ArchiveError → ExecutionError
  | .flaw flaw => archive path flaw
  | .file error => file path error

end ExecutionError

/-- A match that failed, and why. -/
structure PathFailure where
  path : Path
  reason : String
  deriving DecidableEq, Repr

/-- What a statement did. Paths are as seen from the directory of the query. -/
structure Report where
  operation : Operation
  destination : Option String
  /-- The number of matches. -/
  matched : Nat
  /-- The matches, in the order of the listing. -/
  paths : List Path
  processed : Nat
  skipped : List Path
  failures : List PathFailure
  deriving DecidableEq, Repr

namespace Report

/-- The report of an operation that has its matches still before it. -/
def start (operation : Operation) (destination : Option String) (root : Path)
    (found : List Path) : Report :=
  ⟨operation, destination, found.length, found.map (·.relativeTo root), 0, [], []⟩

/-- A report with one more match skipped. -/
def skip (report : Report) (root path : Path) : Report :=
  { report with skipped := report.skipped ++ [path.relativeTo root] }

/-- A report with one more match failed. -/
def fail (report : Report) (root path : Path) (reason : String) : Report :=
  { report with failures := report.failures ++ [⟨path.relativeTo root, reason⟩] }

/-- A report with one more match processed. -/
def succeed (report : Report) : Report := { report with processed := report.processed + 1 }

/-- A report with the result for one more match. An error ends the statement, unless it says only
    that the match has vanished. -/
def record (report : Report) (root path : Path) :
    Except ExecutionError Unit → Except ExecutionError Report
  | .ok () => .ok report.succeed
  | .error error =>
    if error.isNotFound then .ok (report.fail root path error.message) else .error error

end Report

/-!
## Treating matches

Matches are treated one after another: each is skipped, or something is changed for it. The first
error that is more than a vanished match ends the treatment, and what was changed before it stays
changed.
-/

/-- What to do with a match: nothing at all, or changes. -/
abbrev Treatment := Path → Option (Changes ExecutionError Unit)

namespace Treatment

/-- Treats matches one after another. -/
def all (treat : Treatment) (root : Path) : List Path → Report → Changes ExecutionError Report
  | [], report => pure report
  | path :: rest, report => fun tree =>
    match treat path with
    | none => all treat root rest (report.skip root path) tree
    | some changes =>
      match changes tree with
      | (result, changed) =>
        match report.record root path result with
        | .error error => (.error error, changed)
        | .ok recorded => all treat root rest recorded changed

end Treatment

/-- Changes whose error is one at a path. -/
def Changes.at {α : Type} (path : Path) (changes : Changes FileError α) :
    Changes ExecutionError α := changes.mapError (.file path)

end FileQuery
