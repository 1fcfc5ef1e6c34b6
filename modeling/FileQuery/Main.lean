import FileQuery.Session

/-!
# The program

Reads what a session may need from the disk, runs the session, prints what it prints, and brings
the disk to the file tree that the session leaves.
-/

namespace FileQuery.Disk

/-- The variables that a session depends on. -/
def variableNames : List String :=
  ["HOME", "PATH", "SORTQL_CONFIG", "SORTQL_DIRECTORY", "SORTQL_QUERIES", "SORTQL_WATCH",
    "SORTQL_FFMPEG"]

/-- The environment of the program. -/
def environment : IO Environment :=
  variableNames.filterMapM fun name => do return (← IO.getEnv name).map fun value => (name, value)

/-- The instant of a stamp on the disk. -/
def instant (time : IO.FS.SystemTime) : Instant := ⟨time.sec, time.nsec.toNat⟩

/-- The mark that a file starts with if it can be executed as a script. -/
def scriptMark : List UInt8 := Text.encode "#!"

/-- Reads a file, a link or a folder with all that is below it, if it can be read. -/
partial def readNode (path : String) : IO (Option Node) := do
  let file := (← IO.currentDir) / path
  try
    let data ← file.symlinkMetadata
    let stamps : Stamps := ⟨instant data.modified, instant data.modified, instant data.accessed⟩
    match data.type with
    | .symlink => return some (.link (← IO.FS.realPath file).toString)
    | .dir =>
      let entries ← (← file.readDir).toList.filterMapM fun entry => do
        return (← readNode (path ++ "/" ++ entry.fileName)).map fun node => (entry.fileName, node)
      return some (.folder stamps entries)
    | .file =>
      let bytes := (← IO.FS.readBinFile file).toList
      return some (.file stamps (scriptMark.isPrefixOf bytes) bytes)
    | .other => return none
  catch _ => return none

/-- The place that an absolute path leads to if no link is on the way. -/
def place (path : Path) : Place :=
  path.components.foldl (fun place part => match part with
    | .root | .here => place
    | .parent => place.dropLast
    | .name name => place ++ [name]) []

/-- A file tree with what the disk has at a path. -/
def load (tree : FileTree) (path : Path) : IO FileTree := do
  let whole := Path.absolute (.ofPlace tree.working) path
  match ← readNode whole.text with
  | none => return tree
  | some node =>
    let (_, withFolder) := FileTree.makeFolders (whole.parent?.getD ⟨"/"⟩) tree
    return withFolder.insert (place whole) node

/-- The present instant, as the disk stamps it. -/
def now : IO Instant := do
  let (_, path) ← IO.FS.createTempFile
  let data ← path.metadata
  IO.FS.removeFile path
  return instant data.modified

/-- The file tree with the working folder alone. -/
def workingTree : IO FileTree := do
  let now ← now
  let working : Path := ⟨(← IO.currentDir).toString⟩
  let (_, tree) := FileTree.makeFolders working ⟨.emptyFolder now, place working, now⟩
  return tree

/-- The paths that arguments and environment name, apart from those in the settings. -/
def namedPaths (options : Options) (environment : Environment) : List Path :=
  let program := Encoder.programName environment
  [Settings.path options environment] ++ options.directory.toList ++ options.queries.toList ++
    if program.toList.contains '/' then [⟨program⟩]
    else environment.searchPath.map (·.child program)

/-- A file tree with all that a session without a dialogue needs. -/
def sessionTree (arguments : List String) (environment : Environment) : IO FileTree := do
  let tree ← workingTree
  match Options.ofArguments arguments with
  | .error _ => return tree
  | .ok options =>
    let tree ← (namedPaths options environment).foldlM load tree
    match Settings.load tree options environment with
    | .error _ => return tree
    | .ok settings => (settings.directory.toList ++ settings.queries.toList).foldlM load tree

/-- Reads lines until a session needs no more of them, and loads what they may name. -/
partial def readAnswers (invocation : Invocation) (tree : FileTree) :
    IO (Invocation × FileTree) := do
  if Session.wantsLine invocation tree then
    let line ← (← IO.getStdin).getLine
    if line.isEmpty then return (invocation, tree)
    let tree ← load tree (Settings.cleaned line)
    readAnswers { invocation with input := invocation.input ++ line } tree
  else return (invocation, tree)

/-- Whether two nodes differ in more than their stamps and what is below them. -/
def differs : Node → Node → Bool
  | .file _ _ first, .file _ _ second => first != second
  | .folder .., .folder .. => false
  | .link first, .link second => first != second
  | _, _ => true

/-- Removes from the disk what is not in a file tree any more, or is something else in it. -/
def removeOld (before after : FileTree) : IO Unit :=
  for (place, node) in (before.root.walk []).reverse do
    let path := (Path.ofPlace place).text
    let kept := match after.get? place with
      | some other => node.isFolder == other.isFolder && node.isLink == other.isLink
      | none => false
    if !kept then
      if node.isFolder then IO.FS.removeDir path else IO.FS.removeFile path

/-- Writes to the disk what a file tree has that it had not before. Links are not made. -/
def writeNew (before after : FileTree) : IO Unit :=
  for (place, node) in after.root.walk [] do
    let path := (Path.ofPlace place).text
    let changed := match before.get? place with
      | some other => differs other node
      | none => true
    if changed then
      match node with
      | .folder .. => IO.FS.createDir path
      | .file _ executable bytes =>
        IO.FS.writeBinFile path ⟨bytes.toArray⟩
        if executable then
          let all : IO.AccessRight := { read := true, write := true, execution := true }
          let others : IO.AccessRight := { read := true, execution := true }
          IO.setAccessRights path ⟨all, others, others⟩
      | .link _ => IO.eprintln ("cannot make the link " ++ path)

end FileQuery.Disk

open FileQuery in
/-- Runs a session with the arguments of the program. -/
def main (arguments : List String) : IO UInt32 := do
  let environment ← Disk.environment
  let loaded ← Disk.sessionTree arguments environment
  let (invocation, tree) ← Disk.readAnswers ⟨arguments, environment, ""⟩ loaded
  let session := Session.run invocation tree
  for printed in session.transcript do
    match printed with
    | .output line => IO.println line
    | .errors line => IO.eprintln line
  Disk.removeOld tree session.tree
  Disk.writeNew tree session.tree
  return session.result.number.toUInt32
