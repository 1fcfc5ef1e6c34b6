import FileQuery.Execution.Report
import FileQuery.Plan

/-!
# Moving, copying and removing

Matches are moved or copied into a folder under their own names. The folder is made if there is
something to put into it. A match that holds the folder is skipped, because nothing can be put
into itself.
-/

namespace FileQuery

namespace Transfer

/-- The treatment that puts each match into a folder under its own name. -/
def into (folder : Path) (put : Path → Path → Changes ExecutionError Unit) : Treatment :=
  fun path =>
    match path.fileName? with
    | none => none
    | some name => if folder.startsWith path then none else some (put path (folder.child name))

/-- Gives a match another path. -/
def moveEntry (source target : Path) : Changes ExecutionError Unit :=
  (Changes.ofChange fun tree => tree.rename source target).at source

/-- Copies a file. -/
def copyFile (source target : Path) : Changes ExecutionError Unit :=
  (Changes.ofChange fun tree => tree.copyFile source target).at source

/-- Copies a folder with all that is below it, down to a depth. The folder is opened before its copy
    is made and listed after that, so what is put into a folder before the copying comes to it is
    copied as well. -/
def copyTree : Nat → Path → Path → Changes ExecutionError Unit
  | 0, source, _ => throw (.file source .nameTooLong)
  | depth + 1, source, target => do
    let _ ← (Changes.look fun tree => tree.list source).at source
    (FileTree.makeFolders target).at target
    let entries ← (Changes.look fun tree => tree.list source).at source
    entries.forM fun (name, node) =>
      if node.isFolder then copyTree depth (source.child name) (target.child name)
      else copyFile (source.child name) (target.child name)

/-- Copies a match. No path is as long as the limit, so no folder is as deep. -/
def copyEntry (source target : Path) : Changes ExecutionError Unit := fun tree =>
  match tree.findLink source with
  | .ok (.folder ..) => copyTree FileTree.pathLimit source (target.child "") tree
  | _ => copyFile source target tree

/-- Puts matches into the folder that a statement names. -/
def run (operation : Operation) (put : Path → Path → Changes ExecutionError Unit) (root : Path)
    (destination : String) (found : List Path) : Changes ExecutionError Report := do
  let report := Report.start operation (some destination) root found
  if found.isEmpty then return report
  let folder := root.join ⟨destination⟩
  (FileTree.makeFolders folder).at folder
  (into folder put).all root found report

/-- Moves matches into a folder. -/
def move (root : Path) (destination : String) (found : List Path) : Changes ExecutionError Report :=
  run .move moveEntry root destination found

/-- Copies matches into a folder. -/
def copy (root : Path) (destination : String) (found : List Path) : Changes ExecutionError Report :=
  run .copy copyEntry root destination found

end Transfer

namespace Removal

/-- The treatment that removes each match. -/
def each (target : Target) : Treatment := fun path =>
  some ((Changes.ofChange fun tree =>
    match target with
    | .files => tree.removeFile path
    | .folders => tree.removeFolder path).at path)

/-- Removes matches, folders with all that they hold. -/
def delete (root : Path) (target : Target) (found : List Path) : Changes ExecutionError Report :=
  (each target).all root found (Report.start .delete none root found)

end Removal

end FileQuery
