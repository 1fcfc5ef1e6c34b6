import FileQuery.FileTree.Error
import FileQuery.FileTree.Node
import FileQuery.Path
import FileQuery.Text.Utf8

/-!
# Following paths

A file tree has a root folder, a folder from which relative paths start, and the time at which
everything in it happens. Following a path goes down a name at a time. Two dots go up, links on
the way are followed, and so is a link at the end if that is asked for. What comes out is the
place that the path leads to, where there may or may not be a node.

The names of a path cannot be longer than 255 bytes, nor the path as long as 4096, and no more
than 40 links are followed.
-/

namespace FileQuery

/-- A file tree at a moment. -/
structure FileTree where
  root : Node
  /-- The folder from which relative paths start. -/
  working : Place
  /-- The time. -/
  now : Instant
  deriving Repr

/-- What becomes of a link at the end of a path. -/
inductive LastLink
  | follow | keep
  deriving DecidableEq, Repr

/-- Where a path leads. -/
structure Destination where
  place : Place
  /-- What is there. -/
  node? : Option Node
  /-- Whether slashes follow the last name of the path. -/
  slash : Bool
  deriving Repr

namespace FileTree

/-- The largest number of bytes of a name. -/
def nameLimit : Nat := 255

/-- The number of bytes that no path reaches. -/
def pathLimit : Nat := 4096

/-- The largest number of links that are followed. -/
def linkLimit : Nat := 40

/-- The node at a place. -/
def get? (tree : FileTree) (place : Place) : Option Node := tree.root.get? place

/-- The segments of a path, as names. -/
def names (path : String) : List String :=
  (Path.segments path.toList).map String.ofList

/-- Where a path starts. -/
def start (path : String) (here : Place) : Place :=
  if (Path.mk path).isAbsolute then [] else here

/-- Goes down from the folder at a place by the segments of a path. -/
def descend (tree : FileTree) (last : LastLink) (links : Nat) (here : Place)
    (segments : List String) : Except FileError Destination :=
  match segments with
  | [] => .ok ⟨here, tree.get? here, false⟩
  | name :: rest =>
    if name = "" ∨ name = "." then descend tree last links here rest
    else if name = ".." then descend tree last links here.dropLast rest
    else if nameLimit < Text.byteLength name.toList then .error .nameTooLong
    else
      let place := here ++ [name]
      let final := rest.all (· == "")
      match tree.get? place with
      | none => if final then .ok ⟨place, none, !rest.isEmpty⟩ else .error .notFound
      | some (.folder stamps entries) =>
        if final then .ok ⟨place, some (.folder stamps entries), !rest.isEmpty⟩
        else descend tree last links place rest
      | some (.file stamps executable bytes) =>
        if final then .ok ⟨place, some (.file stamps executable bytes), !rest.isEmpty⟩
        else .error .notFolder
      | some (.link target) =>
        if final && last == .keep then .ok ⟨place, some (.link target), !rest.isEmpty⟩
        else
          match links with
          | 0 => .error .tooManyLinks
          | links + 1 => descend tree last links (start target here) (names target ++ rest)
termination_by (links, segments.length)

/-- Why a text is no path at all, if it is none. -/
def checkPath (text : String) : Except FileError Unit :=
  if text.toList.contains '\x00' then .error .nullInPath
  else if text = "" then .error .notFound
  else if pathLimit ≤ Text.byteLength text.toList then .error .nameTooLong
  else .ok ()

/-- Follows a path. -/
def resolve (tree : FileTree) (last : LastLink) (path : Path) : Except FileError Destination :=
  match checkPath path.text with
  | .error error => .error error
  | .ok () => descend tree last linkLimit (start path.text tree.working) (names path.text)

/-- What a path leads to, and where. A path that ends in a slash leads to no file. -/
def locate (tree : FileTree) (last : LastLink) (path : Path) : Except FileError (Place × Node) :=
  match tree.resolve last path with
  | .error error => .error error
  | .ok ⟨_, none, _⟩ => .error .notFound
  | .ok ⟨place, some node, slash⟩ =>
    if node.isFile && slash then .error .notFolder else .ok (place, node)

/-- What a path leads to when every link is followed. -/
def find (tree : FileTree) (path : Path) : Except FileError Node :=
  (tree.locate .follow path).map (·.2)

/-- What a path itself names, which may be a link. -/
def findLink (tree : FileTree) (path : Path) : Except FileError Node :=
  (tree.locate .keep path).map (·.2)

/-- Whether a path leads to a folder. -/
def isFolder (tree : FileTree) (path : Path) : Bool :=
  match tree.find path with
  | .ok node => node.isFolder
  | .error _ => false

/-- Whether a path leads to a file. -/
def isFile (tree : FileTree) (path : Path) : Bool :=
  match tree.find path with
  | .ok node => node.isFile
  | .error _ => false

/-- The entries of the folder that a path leads to. -/
def list (tree : FileTree) (path : Path) : Except FileError (List (String × Node)) :=
  match tree.find path with
  | .error error => .error error
  | .ok (.folder _ entries) => .ok entries
  | .ok (.file ..) | .ok (.link _) => .error .notFolder

/-- The bytes of the file that a path leads to. -/
def read (tree : FileTree) (path : Path) : Except FileError (List UInt8) :=
  match tree.find path with
  | .error error => .error error
  | .ok (.file _ _ bytes) => .ok bytes
  | .ok (.folder ..) => .error .isFolder
  | .ok (.link _) => .error .tooManyLinks

/-- The text of the file that a path leads to. -/
def readText (tree : FileTree) (path : Path) : Except FileError String :=
  match tree.read path with
  | .error error => .error error
  | .ok bytes =>
    match Text.decode? bytes with
    | some text => .ok text
    | none => .error .notText

end FileTree

end FileQuery
