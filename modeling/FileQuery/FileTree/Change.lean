import FileQuery.FileTree.Resolution

/-!
# Changing a file tree

Each change is made as a whole or not at all. What happens in a folder — an entry is made, removed
or renamed — leaves the time in the folder's stamps, and what is written to a file in the file's.
-/

namespace FileQuery.FileTree

/-- The folder and the name of a place below the root. -/
def splitPlace (place : Place) : Option (Place × String) :=
  place.getLast?.map fun name => (place.dropLast, name)

/-- A tree with a node at a place, where its folder is. The root is never replaced. -/
def insert (tree : FileTree) (place : Place) (node : Node) : FileTree :=
  match splitPlace place with
  | none => tree
  | some (folder, name) =>
    { tree with root := tree.root.modify folder (.insertEntry tree.now name node) }

/-- A tree without the node at a place. -/
def erase (tree : FileTree) (place : Place) : FileTree :=
  match splitPlace place with
  | none => tree
  | some (folder, name) =>
    { tree with root := tree.root.modify folder (.eraseEntry tree.now name) }

/-- A tree with other bytes in the file at a place. -/
def rewrite (tree : FileTree) (place : Place) (executable : Bool) (bytes : List UInt8) :
    FileTree :=
  { tree with root := tree.root.modify place (.rewrite tree.now executable bytes) }

/-- Makes a folder. -/
def makeFolder (tree : FileTree) (path : Path) : Except FileError FileTree :=
  match tree.resolve .keep path with
  | .error error => .error error
  | .ok ⟨_, some _, _⟩ => .error .alreadyExists
  | .ok ⟨place, none, _⟩ => .ok (tree.insert place (.emptyFolder tree.now))

/-- Makes a link. The target has to be a path, but need not lead to anything. -/
def makeLink (tree : FileTree) (path : Path) (target : String) : Except FileError FileTree :=
  match checkPath target, tree.resolve .keep path with
  | .error error, _ | .ok (), .error error => .error error
  | .ok (), .ok ⟨_, some _, _⟩ => .error .alreadyExists
  | .ok (), .ok ⟨place, none, slash⟩ =>
    if slash then .error .notFound else .ok (tree.insert place (.link target))

/-- Opens a file for writing: what it held is gone, and it is made where there is none. The new
    tree comes with the place of the file. -/
def truncate (tree : FileTree) (path : Path) : Except FileError (FileTree × Place) :=
  match tree.resolve .follow path with
  | .error error => .error error
  | .ok ⟨place, found, slash⟩ =>
    if slash then .error .isFolder
    else
      match found with
      | none => .ok (tree.insert place (.file (.ofInstant tree.now) false []), place)
      | some (.file _ executable _) => .ok (tree.rewrite place executable [], place)
      | some (.folder ..) => .error .isFolder
      | some (.link _) => .error .tooManyLinks

/-- Whether the file at a place can be executed. -/
def isExecutable (tree : FileTree) (place : Place) : Bool :=
  match tree.get? place with
  | some (.file _ executable _) => executable
  | _ => false

/-- Writes a file. -/
def write (tree : FileTree) (path : Path) (bytes : List UInt8) : Except FileError FileTree :=
  match tree.truncate path with
  | .error error => .error error
  | .ok (opened, place) => .ok (opened.rewrite place (opened.isExecutable place) bytes)

/-- Makes a file executable, or not. -/
def setExecutable (tree : FileTree) (path : Path) (executable : Bool) :
    Except FileError FileTree :=
  match tree.locate .follow path with
  | .error error => .error error
  | .ok (place, _) =>
    .ok { tree with root := tree.root.modify place (.setExecutable executable) }

/-- Writes to a file what another one holds, and makes it executable if the other one is. The
    file is opened for writing before the other one is read, so a file that is copied to itself
    is emptied. -/
def copyFile (tree : FileTree) (source target : Path) : Except FileError FileTree :=
  match tree.locate .follow source with
  | .error error => .error error
  | .ok (_, .folder ..) | .ok (_, .link _) => .error .notRegular
  | .ok (from_, .file _ executable _) =>
    match tree.truncate target with
    | .error error => .error error
    | .ok (opened, place) =>
      .ok (opened.rewrite place executable (((opened.get? from_).map Node.bytes).getD []))

/-- Whether a node may take the place of another: a folder takes that of an empty folder, and
    other nodes that of any but a folder. -/
def checkReplacement (node replaced : Node) : Except FileError Unit :=
  if node.isFolder then
    if !replaced.isFolder then .error .notFolder
    else if replaced.entries.isEmpty then .ok ()
    else .error .notEmpty
  else if replaced.isFolder then .error .isFolder
  else .ok ()

/-- Gives a file, folder or link another path. What had that path is replaced. -/
def rename (tree : FileTree) (source target : Path) : Except FileError FileTree :=
  match tree.resolve .keep source, tree.resolve .keep target with
  | .error error, _ => .error error
  | _, .error error => .error error
  | .ok ⟨_, none, _⟩, _ => .error .notFound
  | .ok ⟨from_, some node, before⟩, .ok ⟨goal, replaced, after⟩ =>
    if !node.isFolder && (before || after) then .error .notFolder
    else if from_ = goal then .ok tree
    else if from_.isPrefixOf goal then .error .invalid
    else if goal.isPrefixOf from_ then .error .notEmpty
    else
      match replaced with
      | none => .ok ((tree.erase from_).insert goal node)
      | some other =>
        match checkReplacement node other with
        | .error error => .error error
        | .ok () => .ok ((tree.erase from_).insert goal node)

/-- Removes a file or a link. -/
def removeFile (tree : FileTree) (path : Path) : Except FileError FileTree :=
  match tree.locate .keep path with
  | .error error => .error error
  | .ok (_, .folder ..) => .error .isFolder
  | .ok (place, .file ..) | .ok (place, .link _) => .ok (tree.erase place)

/-- Removes a folder with all that it holds, or a link. -/
def removeFolder (tree : FileTree) (path : Path) : Except FileError FileTree :=
  match tree.locate .keep path with
  | .error error => .error error
  | .ok (_, .file ..) => .error .notFolder
  | .ok (place, .folder ..) | .ok (place, .link _) => .ok (tree.erase place)

end FileQuery.FileTree

/-!
## Changes in sequence

A sequence of changes ends with its first error, and what was changed before the error stays
changed.
-/

namespace FileQuery

/-- Changes to a file tree that come to a result or an error. -/
abbrev Changes (ε : Type) : Type → Type := ExceptT ε (StateM FileTree)

namespace Changes

/-- A change that is made as a whole or not at all. -/
def ofChange {ε : Type} (change : FileTree → Except ε FileTree) : Changes ε Unit := fun tree =>
  match change tree with
  | .ok changed => (.ok (), changed)
  | .error error => (.error error, tree)

/-- What can be seen in the file tree, which stays as it is. -/
def look {ε α : Type} (see : FileTree → Except ε α) : Changes ε α := fun tree => (see tree, tree)

/-- Changes that come to no error. -/
def ofState {ε α : Type} (changes : StateM FileTree α) : Changes ε α := fun tree =>
  match changes tree with
  | (value, changed) => (.ok value, changed)

/-- Changes with another word for their error. -/
def mapError {ε δ α : Type} (rename : ε → δ) (changes : Changes ε α) : Changes δ α := fun tree =>
  match changes tree with
  | (.ok value, changed) => (.ok value, changed)
  | (.error error, changed) => (.error (rename error), changed)

end Changes

namespace FileTree

/-- Accepts a folder that is there already instead of an error. -/
def unlessFolder (path : Path) (error : FileError) : Changes FileError Unit := fun tree =>
  (if tree.isFolder path then .ok () else .error error, tree)

/-- Makes the first folder of a list of paths, each of which is the parent of the one before it,
    and the missing folders that it is in. -/
def makeMissing : List Path → Changes FileError Unit
  | [] => throw .noFolderAbove
  | path :: above => fun tree =>
    if path.components = [] then (.ok (), tree)
    else
      match tree.makeFolder path with
      | .ok changed => (.ok (), changed)
      | .error .notFound =>
        match makeMissing above tree with
        | (.error error, changed) => (.error error, changed)
        | (.ok (), changed) =>
          match changed.makeFolder path with
          | .ok final => (.ok (), final)
          | .error error => unlessFolder path error changed
      | .error error => unlessFolder path error tree

/-- Makes a folder and the missing folders that it is in, unless it is there already. -/
def makeFolders (path : Path) : Changes FileError Unit := makeMissing (path :: path.parents)

end FileTree

end FileQuery
