import FileQuery.CommandLine.Options
import FileQuery.Environment
import FileQuery.FileTree.Change
import FileQuery.Settings.Reader
import FileQuery.Text.Blank

/-!
# Sources of settings

Settings come from a file, from the environment and from the arguments, and each source overrides
the ones before it. A missing file says nothing, and a file that is not understood is an error.
-/

namespace FileQuery

/-- Why settings cannot be read. -/
inductive SettingsError
  | file (error : FileError)
  /-- The file at a path holds a text that is not understood. -/
  | invalid (path : Path) (text : String) (error : JsonError)
  deriving DecidableEq, Repr

/-- The description of an error. -/
def SettingsError.message : SettingsError → String
  | file error => error.message
  | invalid path text error => "Invalid config " ++ path.text ++ ": " ++ error.message text

namespace Settings

/-- The name of the file in the home folder. -/
def fileName : String := ".sortql"

/-- The path of the file: that of the arguments, or that of the environment, or else the one in
    the home folder. -/
def path (options : Options) (environment : Environment) : Path :=
  match options.config with
  | some path => path
  | none =>
    match environment.get? "SORTQL_CONFIG" with
    | some path => ⟨path⟩
    | none => environment.home.child fileName

/-- The settings of the file at a path. -/
def ofFile (tree : FileTree) (path : Path) : Except SettingsError Settings :=
  match tree.readText path with
  | .ok text => (read text).mapError (.invalid path text)
  | .error .notFound => .ok initial
  | .error error => .error (.file error)

/-- The truth value that a text spells, in any case and with blanks around it. -/
def flag? (text : String) : Option Bool :=
  let spelled := String.ofList ((Text.trim text.toList).map Char.toLower)
  if ["1", "true", "yes", "on"].contains spelled then some true
  else if ["0", "false", "no", "off"].contains spelled then some false
  else none

/-- Settings with those of the environment in their place. -/
def withEnvironment (settings : Settings) (environment : Environment) : Settings :=
  { directory := ((environment.get? "SORTQL_DIRECTORY").map Path.mk).or settings.directory
    queries := ((environment.get? "SORTQL_QUERIES").map Path.mk).or settings.queries
    watch := ((environment.get? "SORTQL_WATCH").bind flag?).getD settings.watch }

/-- Settings with those of the arguments in their place. Paths lead from the working folder. -/
def withOptions (settings : Settings) (options : Options) (working : Path) : Settings :=
  { directory := (options.directory.map (Path.absolute working)).or settings.directory
    queries := (options.queries.map (Path.absolute working)).or settings.queries
    watch := options.watch || settings.watch }

/-- The settings of all sources. -/
def load (tree : FileTree) (options : Options) (environment : Environment) :
    Except SettingsError Settings :=
  match ofFile tree (path options environment) with
  | .error error => .error error
  | .ok settings =>
    .ok ((settings.withEnvironment environment).withOptions options (.ofPlace tree.working))

/-- Writes settings to the file at a path, in a folder that is made if it is missing. -/
def save (settings : Settings) (path : Path) : Changes FileError Unit := do
  match path.parent? with
  | some folder => if folder.text.isEmpty then pure () else FileTree.makeFolders folder
  | none => pure ()
  Changes.ofChange fun tree => tree.write path (Text.encode settings.text)

end Settings

end FileQuery
