import FileQuery.FileTree.Resolution
import FileQuery.FileTree.Node
import FileQuery.Script.Wildcard

/-!
# Fields

What a word stands for is split into fields where an unquoted part brings separators with it. A
field with the characters of a pattern stands for the paths that the pattern matches, if there are
any.
-/

namespace FileQuery.Script

/-- A piece of what a word stands for. -/
inductive Piece
  /-- A character of the word. -/
  | letter (found : Letter)
  /-- A character that an unquoted part brings with it. -/
  | brought (char : Char)
  /-- A quoted text stands here, which may be empty. -/
  | quote
  /-- One field ends here and another one starts. -/
  | border
  deriving DecidableEq, Repr

namespace Piece

/-- The pieces of a text that a part stands for. -/
def ofText (quoted : Bool) (text : String) : List Piece :=
  if quoted then quote :: text.toList.map fun c => letter ⟨c, true⟩ else text.toList.map brought

/-- The pieces of texts that are fields of their own. -/
def ofTexts (quoted : Bool) (texts : List String) : List Piece :=
  List.intercalate [border] (texts.map (ofText quoted))

/-- The letters of a single field. -/
def letters (pieces : List Piece) : List Letter :=
  pieces.filterMap fun piece => match piece with
    | letter found => some found
    | brought char => some ⟨char, false⟩
    | border => some ⟨' ', false⟩
    | quote => none

/-- The text of a single field. -/
def text (pieces : List Piece) : String :=
  String.ofList ((letters pieces).map (·.char))

/-- The fields of pieces. The state has the letters of the field that has started, if one has, and
    whether blanks ended the field before. -/
def split (separators : List Char) :
    Option (List Letter) → Bool → List Piece → List (List Letter)
  | current, _, [] => current.toList
  | current, _, letter found :: rest =>
    split separators (some (current.getD [] ++ [found])) false rest
  | current, _, quote :: rest => split separators (some (current.getD [])) false rest
  | current, _, border :: rest => current.toList ++ split separators none false rest
  | current, blank, brought char :: rest =>
    if !separators.contains char then
      split separators (some (current.getD [] ++ [⟨char, false⟩])) false rest
    else if char = ' ' ∨ char = '\t' ∨ char = '\n' then
      match current with
      | some found => found :: split separators none true rest
      | none => split separators none blank rest
    else
      match current with
      | some found => found :: split separators none false rest
      | none =>
        if blank then split separators none false rest
        else [] :: split separators none false rest

/-- The fields of pieces. -/
def fields (separators : List Char) (pieces : List Piece) : List (List Letter) :=
  split separators none false pieces

end Piece

namespace Letter

/-- The text of letters. -/
def text (letters : List Letter) : String := String.ofList (letters.map (·.char))

/-- The segments of letters between slashes. -/
def segments : List Letter → List (List Letter)
  | [] => [[]]
  | letter :: rest =>
    match letter.char, segments rest with
    | '/', found => [] :: found
    | _, [] => [[letter]]
    | _, first :: more => (letter :: first) :: more

/-- The names in a folder that a segment matches. A name that starts with a point has to be matched
    by a segment that does. -/
def matching (tree : FileTree) (before : String) (segment : List Letter) : List String :=
  let folder : Path := ⟨if before.isEmpty then "." else before⟩
  match tree.list folder with
  | .error _ => []
  | .ok entries =>
    let names := (entries.mergeSort Node.namedBefore).map (·.1)
    names.filter fun name =>
      Wildcard.matchesAll (Wildcard.ofLetters segment) name.toList &&
        (name.toList.head? != some '.' || (segment.head?.map (·.char)) == some '.')

/-- The paths that segments match, below a path. -/
def paths (tree : FileTree) (before : String) : List (List Letter) → List String
  | [] => []
  | [segment] =>
    if Wildcard.isActive segment then (matching tree before segment).map (before ++ ·)
    else
      let path := before ++ text segment
      if (tree.findLink ⟨path⟩).isOk then [path] else []
  | segment :: next :: rest =>
    if Wildcard.isActive segment then
      (matching tree before segment).flatMap fun name =>
        if tree.isFolder ⟨before ++ name⟩ then paths tree (before ++ name ++ "/") (next :: rest)
        else []
    else paths tree (before ++ text segment ++ "/") (next :: rest)

/-- The texts that a field stands for. -/
def expand (tree : FileTree) (field : List Letter) : List String :=
  if Wildcard.isActive field then
    match paths tree "" (segments field) with
    | [] => [text field]
    | found => found
  else [text field]

end Letter

end FileQuery.Script
