import FileQuery.Script.Arithmetic
import FileQuery.Script.Syntax

/-!
# Tokens of scripts

A script is read a token at a time: words, keywords, the signs between commands, and the signs of
redirections. Whether a word is a keyword depends on where it stands. The text of a document that
a line announces follows the line, and is taken out of what is still to be read.
-/

namespace FileQuery.Script

/-- A token of a script. -/
inductive Token
  | finish
  | newline
  | sign (text : String)
  /-- The sign of a redirection, with the stream that it redirects. -/
  | redirection (stream : Stream) (sign : String)
  | word (parts : Word)
  | keyword (text : String)

namespace WordPart

/-- A word with one more character at its start. -/
def cons (c : Char) (quoted : Bool) : Word → Word
  | text value other :: rest =>
    if quoted = other then text (String.ofList (c :: value.toList)) quoted :: rest
    else text (String.ofList [c]) quoted :: text value other :: rest
  | word => text (String.ofList [c]) quoted :: word

/-- The text of a word that is not quoted and takes nothing from elsewhere. -/
def plain? : Word → Option String
  | [text value false] => some value
  | _ => none

/-- The text of a word without its quotes, and whether it has any. -/
def unquoted (word : Word) : String × Bool :=
  (String.join (word.map fun part => match part with
    | text value _ => value
    | _ => ""),
    word.any fun part => match part with
      | text _ quoted => quoted
      | _ => false)

end WordPart

namespace Token

/-- The words that have a meaning where a command starts. -/
def keywords : List String :=
  ["!", "case", "do", "done", "elif", "else", "esac", "fi", "for", "if", "in", "then", "until",
    "while", "\x7b", "\x7d"]

/-- The signs between commands. Of signs that start alike the longer one is first. -/
def signs : List String := ["&&", "||", ";;", ";", "&", "|", "(", ")"]

/-- The signs of redirections. Of signs that start alike the longer one is first. -/
def redirectionSigns : List String :=
  ["<<-", "<<", "<&", "<>", "<", ">>", ">&", ">|", ">"]

/-- The sign at the start of a text. -/
def signOf? (signs : List String) (text : List Char) : Option String :=
  signs.find? fun sign => sign.toList.isPrefixOf text

/-- The stream that the sign of a redirection means without a number. -/
def streamOf (sign : String) : Stream := if sign.toList.head? = some '<' then 0 else 1

/-- What a token is called. -/
def name : Token → String
  | finish => "end of file"
  | newline => "newline"
  | redirection .. => "redirection"
  | word _ => "word"
  | sign text | keyword text => "\"" ++ text ++ "\""

/-- A word is a keyword if it is one of these. -/
def asKeyword : Token → Token
  | word parts =>
    match WordPart.plain? parts with
    | some text => if keywords.contains text then keyword text else word parts
    | none => word parts
  | token => token

/-- Whether a token is a sign or a keyword. -/
def isText (expected : String) : Token → Bool
  | sign text | keyword text => text = expected
  | _ => false

/-- Whether a token ends a list of commands. -/
def endsList : Token → Bool
  | sign text => [")", ";;"].contains text
  | keyword text =>
    ["do", "done", "elif", "else", "esac", "fi", "then", "\x7d"].contains text
  | _ => false

end Token

/-- Where the reading of a script has come to. -/
structure Cursor where
  rest : List Char
  line : Nat
  /-- The number of lines that documents took out of what follows the line. -/
  taken : Nat
  /-- A token that is read again. -/
  pending : Option Token

namespace Cursor

/-- Where the reading of a text starts. -/
def start (text : List Char) (line : Nat) : Cursor := ⟨text, line, 0, none⟩

/-- The cursor after a character. -/
def skip (cursor : Cursor) : Cursor :=
  match cursor.rest with
  | [] => cursor
  | c :: rest =>
    if c = '\n' then
      { cursor with rest := rest, line := cursor.line + 1 + cursor.taken, taken := 0 }
    else { cursor with rest := rest }

/-- The cursor after some characters. -/
def skips : Nat → Cursor → Cursor
  | 0, cursor => cursor
  | count + 1, cursor => skips count cursor.skip

/-- The lines of a document up to the mark that ends it, what follows the mark, and the number of
    lines of both. -/
def documentLines (strip : Bool) (mark : List Char) :
    Nat → List Char → List Char × List Char × Nat
  | 0, text => ([], text, 0)
  | _, [] => ([], [], 0)
  | fuel + 1, text =>
    let whole := text.takeWhile (· != '\n')
    let line := if strip then whole.dropWhile (· = '\t') else whole
    let rest := text.drop (whole.length + 1)
    if line = mark then ([], rest, 1)
    else
      let (lines, rest, count) := documentLines strip mark fuel rest
      (line ++ '\n' :: lines, rest, count + 1)

/-- Takes a document out of what follows the line. -/
def takeDocument (strip : Bool) (mark : String) (cursor : Cursor) : List Char × Cursor :=
  let line := cursor.rest.takeWhile (· != '\n')
  let (text, rest, count) :=
    documentLines strip mark.toList cursor.rest.length (cursor.rest.drop (line.length + 1))
  (text, { cursor with rest := line ++ '\n' :: rest, taken := cursor.taken + count })

end Cursor

/-- Something that is read from a script. -/
abbrev Reading := StateT Cursor (Except SyntaxFlaw)

namespace Reading

/-- The script cannot be read. -/
def fail {α : Type} (message : String) : Reading α := fun cursor => .error ⟨cursor.line, message⟩

/-- A token is not what it should be. -/
def unexpected {α : Type} (token : Token) : Reading α := fail (token.name ++ " unexpected")

/-- A token is not the one that has to come. -/
def expecting {α : Type} (expected : String) (token : Token) : Reading α :=
  fail (token.name ++ " unexpected (expecting " ++ expected ++ ")")

/-- What is still to be read. -/
def rest : Reading (List Char) := fun cursor => .ok (cursor.rest, cursor)

/-- The line that is read. -/
def line : Reading Nat := fun cursor => .ok (cursor.line, cursor)

/-- Leaves out some characters. -/
def skip (count : Nat) : Reading Unit := fun cursor => .ok ((), cursor.skips count)

/-- The characters at the start that are of a kind. -/
def takeWhile (kind : Char → Bool) : Reading (List Char) := fun cursor =>
  let found := cursor.rest.takeWhile kind
  .ok (found, cursor.skips found.length)

/-- A token is read again. -/
def push (token : Token) : Reading Unit := fun cursor =>
  .ok ((), { cursor with pending := some token })

/-- The token that is read again, if there is one. -/
def pop : Reading (Option Token) := fun cursor =>
  .ok (cursor.pending, { cursor with pending := none })

/-- The text of a document that ends at a mark. -/
def document (strip : Bool) (mark : String) : Reading (List Char) := fun cursor =>
  .ok (cursor.takeDocument strip mark)

/-- What is read from another text, which starts at a line. -/
def within {α : Type} (text : List Char) (line : Nat) (reading : Reading α) : Reading α :=
  fun cursor =>
    match reading (.start text line) with
    | .error flaw => .error flaw
    | .ok (found, _) => .ok (found, cursor)

end Reading

end FileQuery.Script
