import FileQuery.Json
import FileQuery.Path

/-!
# Settings

Where queries run, where they are written, and whether they run again when something changes.
Settings are kept in a file as a JSON object without the members that are not known.
-/

namespace FileQuery

/-- The settings of the program. -/
structure Settings where
  /-- The directory that the queries run in. -/
  directory : Option Path
  /-- The file that holds the queries. -/
  queries : Option Path
  /-- Whether the queries run again whenever the directory changes. -/
  watch : Bool
  deriving DecidableEq, Repr

namespace Settings

/-- The settings where nothing is known. -/
def initial : Settings := ⟨none, none, false⟩

/-- Whether all is known that a run needs. -/
def isComplete (settings : Settings) : Bool :=
  settings.directory.isSome && settings.queries.isSome

/-- The member for a path, if the path is known. -/
def pathMember (name : String) : Option Path → List (String × Json)
  | some path => [(name, .string path.text)]
  | none => []

/-- Settings as a JSON object. -/
def json (settings : Settings) : Json :=
  .object (pathMember "directory" settings.directory ++ pathMember "queries" settings.queries ++
    [("watch", .bool settings.watch)])

/-- Settings as the text of a file. -/
def text (settings : Settings) : String := settings.json.text

end Settings

end FileQuery
