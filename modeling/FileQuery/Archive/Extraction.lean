import FileQuery.Archive.Directory
import FileQuery.FileTree.Change

/-!
# Extracting an archive

The entries of an archive are made in a folder one after another: folders, links, and files with
the folders that they are in. A file that is there already is overwritten. On the way down from
the folder no link is followed: it ends the extraction. When all is done, files get the modes that
the archive gives for them.
-/

namespace FileQuery.Archive

/-- Changes with errors of files only. -/
def files {α : Type} (changes : Changes FileError α) : Changes ArchiveError α :=
  changes.mapError .file

/-- The flaw of a way that a link with a target is on. -/
def flawOfLink (target : String) : ArchiveFlaw :=
  if (Entry.simplified (Path.mk target).components []).isSome then .basePath else .linkTarget

/-- Makes a missing folder at a path if something is to be made below it, unless a link is
    there. -/
def settle (last : Bool) (path : Path) : Changes ArchiveError Unit := fun tree =>
  match tree.findLink path with
  | .error .notFound =>
    if last then (.ok (), tree) else files (FileTree.makeFolders path) tree
  | .error error => (.error (.file error), tree)
  | .ok (.link target) => (.error (.flaw (flawOfLink target)), tree)
  | .ok (.file ..) | .ok (.folder ..) => (.ok (), tree)

/-- Goes down by names, and makes the folders on the way. -/
def goDown : List String → Path → Changes ArchiveError Path
  | [], path => pure path
  | name :: rest, path => do
    settle rest.isEmpty (path.child name)
    goDown rest (path.child name)

/-- Fails with a flaw of a content, if there is one. -/
def failWith : Option CompressionFlaw → Changes ArchiveError Unit
  | some flaw => throw (.file (.compressed flaw))
  | none => pure ()

/-- Makes a link to what bytes name. -/
def writeLink (path : Path) (bytes : List UInt8) : Changes ArchiveError Unit :=
  match Text.decode? bytes with
  | some target => files (.ofChange fun tree => tree.makeLink path target)
  | none => throw (.flaw .linkText)

/-- Makes an entry of an archive below a folder, and tells the path of a file that is to get a
    mode. What there is of a file with a flaw is written. -/
def extractEntry (archive : List UInt8) (base : Path) (entry : Entry) :
    Changes ArchiveError (Option (Path × Bool)) := do
  let (bytes, flaw) ← .look fun _ => entry.content archive
  match entry.names? with
  | none => throw (.flaw .invalidPath)
  | some names =>
    let path ← goDown names base
    if entry.isLink then
      failWith flaw
      writeLink path bytes
      return none
    else if entry.isFolder then
      files (FileTree.makeFolders path)
      return none
    else
      files (.ofChange fun tree => tree.write path bytes)
      failWith flaw
      return entry.mode.map fun _ => (path, entry.isExecutable)

/-- Makes entries of an archive below a folder. -/
def extractEntries (archive : List UInt8) (base : Path) :
    List Entry → Changes ArchiveError (List (Path × Bool))
  | [] => pure []
  | entry :: rest => do
    let mode ← extractEntry archive base entry
    return mode.toList ++ (← extractEntries archive base rest)

/-- Extracts the archive at a path into a folder. -/
def extract (archive folder : Path) : Changes ArchiveError Unit := do
  let bytes ← files (.look fun tree => tree.read archive)
  let found ← .look fun _ => entries bytes
  files (FileTree.makeFolders folder)
  let (place, _) ← files (.look fun tree => tree.locate .follow folder)
  let base := Path.ofPlace place
  let modes ← extractEntries bytes base found
  modes.forM fun (path, executable) =>
    files (.ofChange fun tree => tree.setExecutable path executable)

end FileQuery.Archive
