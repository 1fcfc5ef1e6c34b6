import FileQuery.Execution.Report
import FileQuery.FileTree.Resolution
import FileQuery.Plan

/-!
# Matches

The matches of a plan are the entries of its source folder that are of the target's kind and fulfil
the condition. Links are of no kind. Folders below the source are not searched.
-/

namespace FileQuery

/-- The name of files that are never matched. -/
def ignoredName : String := ".DS_Store"

/-- Whether a node is of the kind that a target selects. -/
def Target.accepts : Target → Node → Bool
  | files, node => node.isFile
  | folders, node => node.isFolder

namespace Attributes

/-- The number of bytes that a folder counts for. -/
def folderSize : Nat := 4096

/-- What is known of the file or folder at a path. The content of a file is read only if it is
    asked for. -/
def ofNode (path : Path) (withContent : Bool) (node : Node) : Attributes :=
  let (stamps, size, content) : Stamps × Nat × Option String :=
    match node with
    | .file stamps _ bytes =>
      (stamps, bytes.length, if withContent then some (Text.decodeLossy bytes) else none)
    | .folder stamps _ => (stamps, folderSize, none)
    | .link target => (.ofInstant .epoch, target.utf8ByteSize, none)
  { name := path.stem?.getD ""
    extension := path.extension?.getD ""
    size := size
    content := content
    created := stamps.created
    modified := stamps.modified
    accessed := stamps.accessed }

/-- What is known of the file or folder that a path leads to. -/
def read (tree : FileTree) (path : Path) (withContent : Bool) : Except FileError Attributes :=
  (tree.find path).map (ofNode path withContent)

end Attributes

/-- Whether a condition holds for the file or folder at a path. A literal alone looks at the path
    only. -/
def Condition.holdsAt (tree : FileTree) (path : Path) (condition : Condition) :
    Except ExecutionError Bool :=
  match condition with
  | .literal value => .ok (occursIn value.toList path.text.toList)
  | .binary operator left right =>
    match Attributes.read tree path (Condition.binary operator left right).needsContent with
    | .error error => .error (.file path error)
    | .ok attributes =>
      ((Condition.binary operator left right).evaluate path.text attributes).mapError .condition

namespace Plan

/-- Whether an entry is of the target's kind and fulfils the condition. An entry that vanishes
    meanwhile does not match. -/
def admits (plan : Plan) (tree : FileTree) (path : Path) (node : Node) :
    Except ExecutionError Bool :=
  if !plan.target.accepts node then .ok false
  else
    match plan.condition with
    | none => .ok true
    | some condition =>
      match condition.holdsAt tree path with
      | .error error => if error.isNotFound then .ok false else .error error
      | .ok holds => .ok holds

/-- The matches among entries of a folder, or the error of the first entry that has one. -/
def matchesAmong (plan : Plan) (tree : FileTree) (folder : Path) :
    List (String × Node) → Except ExecutionError (List Path)
  | [] => .ok []
  | (name, node) :: rest =>
    if name = ignoredName then matchesAmong plan tree folder rest
    else
      match plan.admits tree (folder.child name) node with
      | .error error => .error error
      | .ok false => matchesAmong plan tree folder rest
      | .ok true => (matchesAmong plan tree folder rest).map (folder.child name :: ·)

/-- The folder whose entries a plan is about. -/
def folder (plan : Plan) (root : Path) : Path := root.join ⟨plan.source⟩

/-- The matches of a plan, in the order of the listing. -/
def findMatches (plan : Plan) (tree : FileTree) (root : Path) :
    Except ExecutionError (List Path) :=
  let folder := plan.folder root
  match tree.find folder with
  | .error .notFound => .error (.folderNotFound folder)
  | .error error => .error (.file folder error)
  | .ok (.folder _ entries) => plan.matchesAmong tree folder entries
  | .ok (.file ..) | .ok (.link _) => .error (.notFolder folder)

end Plan

end FileQuery
