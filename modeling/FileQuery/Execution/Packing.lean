import FileQuery.Archive.Extraction
import FileQuery.Execution.Report
import FileQuery.FileTree.Node
import FileQuery.Plan

/-!
# Packing and unpacking

All matches are packed into one archive: files under their names, and folders with all that is
below them. The archive itself is never packed. Matches that are archives, by their extension, are
unpacked into one folder, one after another.
-/

namespace FileQuery

namespace Packing

/-- The name of a node in an archive: the names on the way down to it from the folder that holds
    the match. -/
def memberName (path : Path) (place : Place) : String :=
  String.intercalate "/" (path.fileName?.toList ++ place)

/-- The name of a folder in an archive ends in a slash of either kind. -/
def folderName (name : String) : String :=
  match name.toList.getLast? with
  | some last => if last = '/' ∨ last = '\\' then name else name ++ "/"
  | none => name ++ "/"

/-- The members that a match adds to an archive, and the error that ends the packing of the match,
    if one does. A link to a file is packed as that file. A link to a folder cannot be packed, but
    a member is begun for it before that is found out. -/
def membersOf (tree : FileTree) (archive path : Path) :
    List (Place × Node) → List Archive.Member × Except ExecutionError Unit
  | [] => ([], .ok ())
  | (place, node) :: rest =>
    let here := place.foldl Path.child path
    if here.same archive then membersOf tree archive path rest
    else
      let name := memberName path place
      let more (member : Archive.Member) :=
        let (later, result) := membersOf tree archive path rest
        (member :: later, result)
      if node.isFolder then more ⟨folderName name, none⟩
      else
        match tree.find here with
        | .error error => ([], .error (.file here error))
        | .ok (.file _ _ bytes) => more ⟨name, some bytes⟩
        | .ok (.folder ..) | .ok (.link _) =>
          ([⟨name, some []⟩], .error (.file here .isFolder))

/-- The members that a match adds to an archive, those of a folder in the order of their names. -/
def members (tree : FileTree) (archive path : Path) :
    List Archive.Member × Except ExecutionError Unit :=
  match tree.findLink path with
  | .error error => ([], .error (.file path error))
  | .ok node => membersOf tree archive path (node.sorted.walk [])

/-- The members that matches add to an archive, with the result for each match, up to the first
    error that is more than a vanished match. -/
def collect (tree : FileTree) (archive : Path) : List Path →
    List Archive.Member × Except ExecutionError (List (Except ExecutionError Unit))
  | [] => ([], .ok [])
  | path :: rest =>
    let (own, result) := members tree archive path
    let more :=
      let (later, results) := collect tree archive rest
      (own ++ later, results.map (result :: ·))
    match result with
    | .ok () => more
    | .error error => if error.isNotFound then more else (own, .error error)

/-- Writes matches to an archive. What has been collected is written even when an error ends the
    packing. -/
def writeArchive (archive : Path) (found : List Path) :
    Changes ExecutionError (List (Except ExecutionError Unit)) := do
  (Changes.ofChange fun tree => tree.write archive []).at archive
  let (members, results) ← Changes.look fun tree => .ok (collect tree archive found)
  (Changes.ofChange fun tree => tree.write archive (Archive.encode members)).at archive
  Changes.look fun _ => results

/-- A report with the results for matches. -/
def recordAll (root : Path) : List (Path × Except ExecutionError Unit) → Report →
    Except ExecutionError Report
  | [], report => .ok report
  | (path, result) :: rest, report =>
    match report.record root path result with
    | .error error => .error error
    | .ok recorded => recordAll root rest recorded

/-- Packs matches into an archive. -/
def archive (root : Path) (destination : String) (found : List Path) :
    Changes ExecutionError Report := do
  let archive := root.join ⟨destination⟩
  let report := (found.filter (·.same archive)).foldl (fun report path => report.skip root path)
    (Report.start .archive (some destination) root found)
  let packed := found.filter (!·.same archive)
  if packed.isEmpty then return report
  match archive.parent? with
  | some parent => (FileTree.makeFolders parent).at parent
  | none => pure ()
  let results ← writeArchive archive packed
  Changes.look fun _ => recordAll root (packed.zip results) report

/-- Whether a match is an archive. -/
def isArchive (path : Path) : Bool := path.extension? == some "zip"

/-- The treatment that unpacks archives into a folder. -/
def into (folder : Path) : Treatment := fun path =>
  if isArchive path then
    some ((Archive.extract path folder).mapError (ExecutionError.ofArchive path))
  else none

/-- Unpacks the archives among matches into a folder, which is made if there are any. -/
def unarchive (root : Path) (destination : String) (found : List Path) :
    Changes ExecutionError Report := do
  let folder := root.join ⟨destination⟩
  if found.any isArchive then (FileTree.makeFolders folder).at folder
  (into folder).all root found (Report.start .unarchive (some destination) root found)

end Packing

end FileQuery
