import FileQuery.Condition.Check
import FileQuery.Media
import FileQuery.Path

/-!
# Plans

A plan is a statement that passed every check for which no file has to be looked at: its target is
known, its destination suits the operation, its paths stay inside the directory of the query, and
its condition has no fault.

The checks come in this order: the target, what the operation requires, the FROM path, the TO path
and the condition.
-/

namespace FileQuery

/-- What a statement selects. -/
inductive Target
  | files | folders
  deriving DecidableEq, Repr

namespace Target

/-- How a target is written. -/
def text : Target → String
  | files => "files"
  | folders => "folders"

/-- The target that is written in a given way. -/
def ofText? (written : String) : Option Target :=
  [files, folders].find? (·.text == written)

end Target

/-- What is done with the selected entries. -/
inductive Action
  | select
  | delete
  | move (destination : String)
  | copy (destination : String)
  | archive (destination : String)
  | unarchive (destination : String)
  | convert (format : MediaFormat)
  deriving DecidableEq, Repr

namespace Action

/-- The operation of an action. -/
def operation : Action → Operation
  | select => .select
  | delete => .delete
  | move _ => .move
  | copy _ => .copy
  | archive _ => .archive
  | unarchive _ => .unarchive
  | convert _ => .convert

/-- The path that an action writes to, where it is given as one. -/
def destination? : Action → Option String
  | move destination | copy destination => some destination
  | archive destination | unarchive destination => some destination
  | select | delete | convert _ => none

end Action

/-- A statement that can be carried out. -/
structure Plan where
  target : Target
  source : String
  condition : Option Condition
  action : Action
  deriving DecidableEq, Repr

/-- Why a statement is refused before any file is looked at. -/
inductive ValidationError
  | unsupportedTarget (target : String)
  | sameLocation (operation : Operation) (location : String)
  | destinationNotFile (operation : Operation) (destination : String)
  | destinationNotDirectory (operation : Operation) (destination : String)
  | foldersNotAllowed (operation : Operation)
  | sameFormat (format : String)
  | unsupportedFormat (format : String)
  | outsideDirectory (operation : Operation) (path : String)
  | invalidCondition (error : ConditionError)
  deriving DecidableEq, Repr

namespace ValidationError

/-- The operation that a message is about, between brackets. -/
def label (operation : Operation) : String := "[" ++ operation.keyword ++ "] "

/-- The description of an error. -/
def message : ValidationError → String
  | unsupportedTarget target =>
    "Unsupported target: '" ++ target ++ "', expected 'files' or 'folders'"
  | sameLocation operation location =>
    label operation ++ "Cannot use the source '" ++ location ++ "' as destination"
  | destinationNotFile operation destination =>
    label operation ++ "Destination must be a file, got directory '" ++ destination ++ "'"
  | destinationNotDirectory operation destination =>
    label operation ++ "Destination must be a directory, got file '" ++ destination ++ "'"
  | foldersNotAllowed operation => label operation ++ "Invalid target: 'folders', must be 'files'"
  | sameFormat format =>
    label .convert ++ "Cannot convert to the same format: '" ++ format ++ "'"
  | unsupportedFormat format => label .convert ++ "Invalid format: '" ++ format ++ "'"
  | outsideDirectory operation path =>
    label operation ++ "Path must stay inside the query directory: '" ++ path ++ "'"
  | invalidCondition error => "Invalid WHERE clause: " ++ error.message

end ValidationError

namespace Plan

/-- Refuses a destination that is the source. -/
def rejectSameLocation (operation : Operation) (source destination : String) :
    Except ValidationError Unit :=
  if Path.same ⟨destination⟩ ⟨source⟩ then .error (.sameLocation operation destination) else .ok ()

/-- Refuses a path that leads to the root, or to the parent of a folder. -/
def confine (operation : Operation) (path : String) : Except ValidationError Unit :=
  if (Path.mk path).components.any fun part => part == .root || part == .parent then
    .error (.outsideDirectory operation path)
  else .ok ()

/-- Whether the last name of a path has an extension. -/
def hasExtension (path : String) : Bool := (Path.mk path).extension?.isSome

/-- The action of a statement, if the statement has what its operation requires. -/
def actionOf (target : Target) : Statement → Except ValidationError Action
  | .select _ => .ok .select
  | .delete _ => .ok .delete
  | .move selection destination => do
    rejectSameLocation .move selection.source destination
    return .move destination
  | .copy selection destination => do
    rejectSameLocation .copy selection.source destination
    return .copy destination
  | .archive selection destination => do
    if !hasExtension destination then throw (.destinationNotFile .archive destination)
    rejectSameLocation .archive selection.source destination
    return .archive destination
  | .unarchive selection destination => do
    if target = .folders then throw (.foldersNotAllowed .unarchive)
    if hasExtension destination then throw (.destinationNotDirectory .unarchive destination)
    rejectSameLocation .unarchive selection.source destination
    return .unarchive destination
  | .convert selection destination => do
    if target = .folders then throw (.foldersNotAllowed .convert)
    if selection.source = destination then throw (.sameFormat destination)
    match MediaFormat.ofText? destination with
    | some format => return .convert format
    | none => throw (.unsupportedFormat destination)

/-- The target that a statement names. -/
def targetOf (written : String) : Except ValidationError Target :=
  match Target.ofText? written with
  | some target => .ok target
  | none => .error (.unsupportedTarget written)

/-- Refuses an action that writes to a path outside the directory of the query. -/
def confineAction (action : Action) : Except ValidationError Unit :=
  match action.destination? with
  | some destination => confine action.operation destination
  | none => .ok ()

/-- Refuses a condition with a fault. -/
def checkCondition : Option Condition → Except ValidationError Unit
  | some condition => condition.check.mapError .invalidCondition
  | none => .ok ()

/-- The plan of a statement, or why it is refused. -/
def ofStatement (statement : Statement) : Except ValidationError Plan := do
  let selection := statement.selection
  let target ← targetOf selection.target
  let action ← actionOf target statement
  confine action.operation selection.source
  confineAction action
  checkCondition selection.condition
  return ⟨target, selection.source, selection.condition, action⟩

end Plan

end FileQuery
