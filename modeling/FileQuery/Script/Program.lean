import FileQuery.Environment
import FileQuery.Script.Builtin

/-!
# Programs

A program is found by its name: a name with a slash is a path, and any other name is looked for in
the folders of the search path. A program is a file that may be executed, or one of the system. The
first line of a file names the interpreter that runs it.
-/

namespace FileQuery.Script

/-- A program. -/
inductive Program
  /-- A shell, with words before those that it is called with. -/
  | shell (dialect : Dialect) (words : List String)
  /-- A program of the system, with words before those that it is called with. -/
  | tool (name : String) (words : List String)
  deriving DecidableEq, Repr

namespace Program

/-- The names of shells. -/
def shells : List (String × Dialect) :=
  [("sh", .plain), ("dash", .plain), ("bash", .extended)]

/-- The commands of the shell that are programs as well. -/
def doubled : List String := ["echo", "printf", "test", "[", "true", "false", "kill", "pwd"]

/-- The programs of the system that look for others. -/
def running : List String := ["env", "which"]

/-- The program of the system with a name. -/
def ofName? (name : String) : Option Program :=
  match shells.lookup name with
  | some dialect => some (shell dialect [])
  | none =>
    if running.contains name || doubled.contains name || Tool.all.any (·.1 = name) then
      some (tool name [])
    else none

/-- A program with more words before those that it is called with. -/
def before (words : List String) : Program → Program
  | shell dialect others => shell dialect (others ++ words)
  | tool name others => tool name (others ++ words)

/-- The folders of the programs of the system. -/
def isSystemFolder (folder : Path) : Bool :=
  folder.components = [.root, .name "bin"] || folder.components = [.root, .name "usr", .name "bin"]

/-- The program of the system that a path leads to. -/
def ofSystemPath? (path : Path) : Option Program :=
  match path.parent?, path.fileName? with
  | some folder, some name => if isSystemFolder folder then ofName? name else none
  | _, _ => none

/-- The interpreter in the first line of a file, and the rest of the line. -/
def interpreter? (text : String) : Option (String × Option String) :=
  match text.toList with
  | '#' :: '!' :: rest =>
    let line := (rest.takeWhile (· != '\n')).dropWhile fun c => c = ' ' || c = '\t'
    let path := line.takeWhile fun c => c != ' ' && c != '\t'
    let rest := ((line.drop path.length).dropWhile fun c => c = ' ' || c = '\t').reverse
    let rest := (rest.dropWhile fun c => c = ' ' || c = '\t').reverse
    if path.isEmpty then none
    else some (String.ofList path, if rest.isEmpty then none else some (String.ofList rest))
  | _ => none

/-- The program that a path leads to. A file may be run by a program that is a file as well, up to
    some number of times. -/
def atPath (tree : FileTree) : Nat → Path → Except FileError Program
  | 0, _ => .error .tooManyLinks
  | count + 1, path =>
    match tree.locate .follow path with
    | .ok (_, .file _ true bytes) =>
      match interpreter? (Text.decodeLossy bytes) with
      | none => .error .notProgram
      | some (interpreter, option) =>
        match atPath tree count ⟨interpreter⟩ with
        | .ok program => .ok (program.before (option.toList ++ [path.text]))
        | .error error => .error error
    | .ok _ => .error .denied
    | .error error =>
      match ofSystemPath? path with
      | some program => .ok program
      | none => .error error

/-- The largest number of files of which each runs the one before it. -/
def depthLimit : Nat := 6

/-- The first program of a list of paths. A file that may not be run is passed over. -/
def firstOf (tree : FileTree) : FileError → List Path → Except FileError (Path × Program)
  | error, [] => .error error
  | error, path :: rest =>
    match atPath tree depthLimit path with
    | .ok program => .ok (path, program)
    | .error .denied => firstOf tree .denied rest
    | .error .notProgram => .error .notProgram
    | .error _ => firstOf tree error rest

/-- The program with a name, and the path where it is found. -/
def find (tree : FileTree) (environment : Environment) (name : String) :
    Except FileError (Path × Program) :=
  if name.isEmpty then .error .notFound
  else if name.toList.contains '/' then
    (atPath tree depthLimit ⟨name⟩).map fun program => (⟨name⟩, program)
  else firstOf tree .notFound (environment.searchPath.map (·.child name))

end Program

end FileQuery.Script
