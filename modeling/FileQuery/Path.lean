/-!
# Paths

A path is a text in which slashes separate segments. Empty segments and segments of a single dot
say nothing, except for a dot at the start of a relative path. What remains are the components,
and paths with equal components are the same path, whatever their texts.
-/

namespace FileQuery

/-- A path, as it was written. -/
structure Path where
  text : String
  deriving DecidableEq, Repr

/-- The parts of a path that say where it leads. -/
inductive Component
  /-- The root of the file system, at the start of an absolute path. -/
  | root
  /-- The dot at the start of a relative path. -/
  | here
  /-- Two dots. -/
  | parent
  | name (name : String)
  deriving DecidableEq, Repr

/-- The text of a component. -/
def Component.text : Component → String
  | root => "/"
  | here => "."
  | parent => ".."
  | name text => text

namespace Path

/-- The segments between the slashes of a text. -/
def segments : List Char → List (List Char)
  | [] => [[]]
  | c :: rest =>
    if c = '/' then [] :: segments rest
    else
      match segments rest with
      | first :: more => (c :: first) :: more
      | [] => [[c]]

/-- The text of segments with slashes between them. -/
def joined : List (List Char) → List Char
  | [] => []
  | [last] => last
  | first :: rest => first ++ '/' :: joined rest

/-- The component that a segment stands for, if it is not at the start of a path. -/
def component? (segment : List Char) : Option Component :=
  if segment = [] ∨ segment = ['.'] then none
  else if segment = ['.', '.'] then some .parent
  else some (.name (String.ofList segment))

/-- Whether a path starts at the root of the file system. -/
def isAbsolute (path : Path) : Bool := path.text.toList.head? == some '/'

/-- The segments of a path after the root, each with the component that it stands for. -/
def pieces (path : Path) : List (List Char × Option Component) :=
  match segments path.text.toList with
  | [] => []
  | first :: rest =>
    let later := rest.map fun segment => (segment, component? segment)
    if path.isAbsolute then later
    else (first, if first = ['.'] then some .here else component? first) :: later

/-- The components of a path. -/
def components (path : Path) : List Component :=
  (if path.isAbsolute then [.root] else []) ++ path.pieces.filterMap (·.2)

/-- Whether two paths have equal components. -/
def same (first second : Path) : Bool := first.components == second.components

/-- Whether a path leads to a place at or below another. -/
def startsWith (path base : Path) : Bool := base.components.isPrefixOf path.components

/-- The name that a path ends with, if it ends with one. -/
def fileName? (path : Path) : Option String :=
  match path.components.getLast? with
  | some (.name name) => some name
  | _ => none

/-- A name before and after its last dot, if there is one and it is not the first character. -/
def splitName (name : String) : String × Option String :=
  let characters := name.toList
  let after := (characters.reverse.takeWhile (· ≠ '.')).reverse
  let before := characters.take (characters.length - after.length - 1)
  if after.length = characters.length ∨ before = [] then (name, none)
  else (String.ofList before, some (String.ofList after))

/-- The file name without its extension. -/
def stem? (path : Path) : Option String := path.fileName?.map fun name => (splitName name).1

/-- The extension of the file name. It may be empty after a final dot. -/
def extension? (path : Path) : Option String := path.fileName?.bind fun name => (splitName name).2

/-- Pieces without those at the end that say nothing. -/
def trimPieces (pieces : List (List Char × Option Component)) :
    List (List Char × Option Component) :=
  (pieces.reverse.dropWhile (·.2.isNone)).reverse

/-- The text of the remaining pieces of a path. -/
def ofPieces (absolute : Bool) (pieces : List (List Char × Option Component)) : Path :=
  ⟨String.ofList ((if absolute then ['/'] else []) ++ joined (pieces.map (·.1)))⟩

/-- The path without its last component. A root and an empty path have no parent. -/
def parent? (path : Path) : Option Path :=
  match trimPieces path.pieces with
  | [] => none
  | pieces => some (ofPieces path.isAbsolute (trimPieces pieces.dropLast))

/-- The paths above pieces that are given from the last to the first. -/
def parentsOf (absolute : Bool) : List (List Char × Option Component) → List Path
  | [] => []
  | (_, none) :: above => parentsOf absolute above
  | (_, some _) :: above =>
    ofPieces absolute (trimPieces above.reverse) :: parentsOf absolute above

/-- The parent of a path, the parent of that, and so on. -/
def parents (path : Path) : List Path := parentsOf path.isAbsolute path.pieces.reverse

/-- The absolute path that goes down by names. -/
def ofPlace (names : List String) : Path := ⟨"/" ++ String.intercalate "/" names⟩

/-- A path followed from another. An absolute path leads away from where it is followed. -/
def join (base path : Path) : Path :=
  if path.isAbsolute then path
  else if base.text.isEmpty || base.text.toList.getLast? == some '/' then ⟨base.text ++ path.text⟩
  else ⟨base.text ++ "/" ++ path.text⟩

/-- A path followed by a name. -/
def child (base : Path) (name : String) : Path := base.join ⟨name⟩

/-- Pieces after the given components. -/
def afterComponents : List Component → List (List Char × Option Component) →
    Option (List (List Char × Option Component))
  | [], pieces => some pieces
  | _ :: _, [] => none
  | first :: rest, (_, none) :: pieces => afterComponents (first :: rest) pieces
  | first :: rest, (_, some found) :: pieces =>
    if first = found then afterComponents rest pieces else none

/-- What leads from a path to another at or below it. -/
def stripPrefix? (path base : Path) : Option Path :=
  if base.components = [] then some path
  else if path.isAbsolute = base.isAbsolute then
    (afterComponents (base.pieces.filterMap (·.2)) path.pieces).map fun pieces =>
      ofPieces false (trimPieces (pieces.dropWhile (·.2.isNone)))
  else none

/-- A path as seen from another: what leads there from it, or else the path itself. -/
def relativeTo (path base : Path) : Path := (path.stripPrefix? base).getD path

/-- Where an absolute path starts. Two slashes alone may stand for another root than one does. -/
def absoluteStart (path : Path) : Path :=
  match path.text.toList with
  | ['/', '/'] => ⟨"//"⟩
  | '/' :: '/' :: third :: _ => if third = '/' then ⟨"/"⟩ else ⟨"//"⟩
  | _ => ⟨"/"⟩

/-- The absolute path to where a path leads from a folder. Parts that say nothing are left out,
    except for a slash at the end. -/
def absolute (working path : Path) : Path :=
  let start := if path.isAbsolute then path.absoluteStart else working
  let names := (path.components.filter fun part => part ≠ .root ∧ part ≠ .here).map Component.text
  let whole := names.foldl child start
  if path.text.toList.getLast? = some '/' then whole.child "" else whole

/-- A path with another file name. -/
def withFileName (path : Path) (name : String) : Path :=
  match path.fileName? with
  | some _ => (path.parent?.getD ⟨""⟩).child name
  | none => path.child name

/-- Joining the segments of a text gives the text back. -/
theorem joined_segments (text : List Char) : joined (segments text) = text := by
  induction text with
  | nil => rfl
  | cons c rest inductionHypothesis =>
    by_cases slash : c = '/'
    · subst slash
      cases found : segments rest with
      | nil => cases rest <;> simp_all [segments, joined]
      | cons first more => simp_all [segments, joined]
    · cases found : segments rest with
      | nil => simp_all [segments, joined]
      | cons first more =>
        cases more with
        | nil => simp_all [segments, joined]
        | cons second later => simp_all [segments, joined]

end Path

end FileQuery
