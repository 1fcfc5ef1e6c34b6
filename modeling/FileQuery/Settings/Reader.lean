import FileQuery.Json.Scan
import FileQuery.Settings

/-!
# Reading settings

Settings are read from a JSON object, whose members may stand in any order and may be missing. A
member with another name is skipped. A list of up to three values is read as the values of the
members in their order.
-/

namespace FileQuery.Settings

open JsonText

/-- The members that have been read so far. -/
structure Found where
  directory : Option (Option Path)
  queries : Option (Option Path)
  watch : Option Bool
  deriving DecidableEq, Repr

namespace Found

/-- Nothing has been read. -/
def nothing : Found := ⟨none, none, none⟩

/-- The settings that were read. What is missing is not known. -/
def settings (found : Found) : Settings :=
  ⟨found.directory.join, found.queries.join, found.watch.getD false⟩

end Found

/-- A path, or null. -/
def readPath (text : List Char) : Except JsonError (Option Path × List Char) :=
  match skipSpace text with
  | [] => .error (.before .endInValue [])
  | 'n' :: rest => (readWord ['u', 'l', 'l'] rest).map fun after => (none, after)
  | '"' :: rest =>
    (readString rest).map fun (read, after) => (some ⟨String.ofList read⟩, after)
  | other => .error (mismatch "path string" other)

/-- A truth value. -/
def readFlag (text : List Char) : Except JsonError (Bool × List Char) :=
  match skipSpace text with
  | [] => .error (.before .endInValue [])
  | 't' :: rest => (readWord ['r', 'u', 'e'] rest).map fun after => (true, after)
  | 'f' :: rest => (readWord ['a', 'l', 's', 'e'] rest).map fun after => (false, after)
  | other => .error (mismatch "a boolean" other)

/-- The text after the colon that should follow a key. -/
def readColon (text : List Char) : Except JsonError (List Char) :=
  match skipSpace text with
  | [] => .error (.before .endInObject [])
  | ':' :: rest => .ok rest
  | other => .error (.within .noColon 1 other)

/-- The error of a member that has been read before. The text after its key may end the object. -/
def duplicate (name : String) (text : List Char) : JsonError :=
  match skipSpace text with
  | '\x7d' :: rest => .before (.duplicate name) rest
  | other => .before (.duplicate name) other

/-- The member that follows its key. -/
def readMember (key : String) (found : Found) (text : List Char) :
    Except JsonError (Found × List Char) :=
  if key = "directory" then
    if found.directory.isSome then .error (duplicate key text)
    else do
      let (path, rest) ← readPath (← readColon text)
      return ({ found with directory := some path }, rest)
  else if key = "queries" then
    if found.queries.isSome then .error (duplicate key text)
    else do
      let (path, rest) ← readPath (← readColon text)
      return ({ found with queries := some path }, rest)
  else if key = "watch" then
    if found.watch.isSome then .error (duplicate key text)
    else do
      let (flag, rest) ← readFlag (← readColon text)
      return ({ found with watch := some flag }, rest)
  else do
    let rest ← skipValue (← readColon text)
    return (found, rest)

/-- Members up to the end of the object. The text starts with the key of one. Every member takes
    a character at least, which bounds their number. -/
def readMembers : Nat → Found → List Char → Except JsonError (Found × List Char)
  | 0, _, text => .error (.before .noValue text)
  | count + 1, found, text =>
    match text with
    | '"' :: rest => do
      let (key, rest) ← readString rest
      let (found, rest) ← readMember (String.ofList key) found rest
      match skipSpace rest with
      | [] => throw (.before .endInObject [])
      | '\x7d' :: rest => return (found, rest)
      | ',' :: rest =>
        match skipSpace rest with
        | [] => throw (.before .endInValue [])
        | '\x7d' :: rest => throw (.within .trailingComma 1 ('\x7d' :: rest))
        | next => readMembers count found next
      | other => throw (.within .noCommaInObject 1 other)
    | other => .error (.within .keyNotString 1 other)

/-- The members of an object after its brace. -/
def readObject (text : List Char) : Except JsonError (Found × List Char) :=
  match skipSpace text with
  | [] => .error (.before .endInObject [])
  | '\x7d' :: rest => .ok (.nothing, rest)
  | first => readMembers (first.length + 1) .nothing first

/-- The place of the next item of a list, if the list does not end there. -/
def nextItem (first : Bool) (text : List Char) : Except JsonError (Option (List Char)) :=
  match skipSpace text with
  | [] => .error (.before .endInList [])
  | ']' :: _ => .ok none
  | ',' :: rest =>
    if first then .ok (some (',' :: rest))
    else
      match skipSpace rest with
      | [] => .error (.before .endInValue [])
      | ']' :: rest => .error (.within .trailingComma 1 (']' :: rest))
      | next => .ok (some next)
  | other => if first then .ok (some other) else .error (.within .noCommaInList 1 other)

/-- The end of a list that has no more items to read. -/
def readListEnd (text : List Char) : Except JsonError (List Char) :=
  match skipSpace text with
  | [] => .error (.before .endInList [])
  | ']' :: rest => .ok rest
  | ',' :: rest =>
    match skipSpace rest with
    | ']' :: rest => .error (.within .trailingComma 1 (']' :: rest))
    | other => .error (.within .trailingCharacters 1 other)
  | other => .error (.within .trailingCharacters 1 other)

/-- The items of a list after its bracket. -/
def readList (text : List Char) : Except JsonError (Found × List Char) := do
  match ← nextItem true text with
  | none => return (.nothing, ← readListEnd text)
  | some item =>
    let (directory, text) ← readPath item
    match ← nextItem false text with
    | none => return (⟨directory, none, none⟩, ← readListEnd text)
    | some item =>
      let (queries, text) ← readPath item
      match ← nextItem false text with
      | none => return (⟨directory, queries, none⟩, ← readListEnd text)
      | some item =>
        let (watch, text) ← readFlag item
        return (⟨directory, queries, watch⟩, ← readListEnd text)

/-- The settings of the characters of a text. -/
def readCharacters (text : List Char) : Except JsonError Settings := do
  let (found, rest) ← match skipSpace text with
    | [] => throw (.before .endInValue [])
    | '[' :: rest => readList rest
    | '\x7b' :: rest => readObject rest
    | other => throw (mismatch "struct Config" other)
  match skipSpace rest with
  | [] => return found.settings
  | other => throw (.within .trailingCharacters 1 other)

/-- The settings of a text. -/
def read (text : String) : Except JsonError Settings := readCharacters text.toList

end FileQuery.Settings
