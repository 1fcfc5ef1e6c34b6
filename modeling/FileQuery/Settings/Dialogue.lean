import FileQuery.FileTree.Resolution
import FileQuery.Settings
import FileQuery.Text.Blank

/-!
# The dialogue

Settings that are not known are asked for. A question takes lines of the input up to the first one
that answers it, and complains about every line before. Where the lines run out there are no
settings.
-/

namespace FileQuery.Settings

/-- Why a line does not answer a question. -/
inductive Complaint
  | noDirectory
  | notDirectory
  | noQueries
  | notQueries
  | notYesOrNo
  deriving DecidableEq, Repr

/-- What is printed about a line. -/
def Complaint.message : Complaint → String
  | noDirectory => "Please enter a directory"
  | notDirectory => "Please enter a valid directory"
  | noQueries => "Please enter a file path"
  | notQueries => "Please enter a valid file path"
  | notYesOrNo => "Please answer yes or no"

/-- What comes of questions: the complaints about lines, and the answer with the lines after it,
    unless the lines ran out. -/
structure Asked (α : Type) where
  complaints : List Complaint
  answer : Option (α × List String)
  deriving Repr

namespace Asked

/-- An answer that needs no line. -/
def known {α : Type} (value : α) (lines : List String) : Asked α := ⟨[], some (value, lines)⟩

/-- Questions that follow others. -/
def andThen {α β : Type} (asked : Asked α) (next : α → List String → Asked β) : Asked β :=
  match asked.answer with
  | none => ⟨asked.complaints, none⟩
  | some (value, lines) =>
    let later := next value lines
    ⟨asked.complaints ++ later.complaints, later.answer⟩

end Asked

/-- Asks until a line is accepted. -/
def ask {α : Type} (accept : String → Except Complaint α) : List String → Asked α
  | [] => ⟨[], none⟩
  | line :: rest =>
    match accept line with
    | .ok value => .known value rest
    | .error complaint =>
      let later := ask accept rest
      ⟨complaint :: later.complaints, later.answer⟩

/-- A line without the blanks around it and without quotes. -/
def cleaned (line : String) : Path :=
  ⟨String.ofList ((Text.trim line.toList).filter fun c => c != '\'' && c != '"')⟩

/-- Accepts the path of a directory. -/
def acceptDirectory (tree : FileTree) (line : String) : Except Complaint Path :=
  let path := cleaned line
  if path.text.isEmpty then .error .noDirectory
  else if tree.isFolder path then .ok (Path.absolute (.ofPlace tree.working) path)
  else .error .notDirectory

/-- Accepts the path of a file. -/
def acceptQueries (tree : FileTree) (line : String) : Except Complaint Path :=
  let path := cleaned line
  if path.text.isEmpty then .error .noQueries
  else if tree.isFile path then .ok (Path.absolute (.ofPlace tree.working) path)
  else .error .notQueries

/-- Accepts yes or no in any case, and an empty line for what is set already. -/
def acceptWatch (current : Bool) (line : String) : Except Complaint Bool :=
  let answer := String.ofList ((Text.trim line.toList).map Char.toLower)
  if answer.isEmpty then .ok current
  else if ["y", "yes"].contains answer then .ok true
  else if ["n", "no"].contains answer then .ok false
  else .error .notYesOrNo

/-- Asks for a path, unless it is known and need not be asked for again. -/
def askPath (everything : Bool) (current : Option Path)
    (accept : String → Except Complaint Path) (lines : List String) : Asked Path :=
  match everything, current with
  | false, some path => .known path lines
  | _, _ => ask accept lines

/-- Asks for the settings that are not known, or for all of them. -/
def askAll (tree : FileTree) (everything : Bool) (current : Settings) (lines : List String) :
    Asked Settings :=
  (askPath everything current.directory (acceptDirectory tree) lines).andThen
    fun directory lines =>
      (askPath everything current.queries (acceptQueries tree) lines).andThen
        fun queries lines =>
          (if everything then ask (acceptWatch current.watch) lines
            else .known current.watch lines).andThen
            fun watch lines => .known ⟨some directory, some queries, watch⟩ lines

end FileQuery.Settings
