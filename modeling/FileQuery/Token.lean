/-!
# Tokens

A query text is a sequence of tokens: keywords, operators, quoted strings and the semicolon that
separates statements. A token keeps the slice of the text that it was read from.
-/

namespace FileQuery

/-- The kinds of tokens. -/
inductive TokenKind
  | select | delete | move | copy | archive | unarchive | convert
  | source | condition | destination
  | and | or
  | like | equal | notEqual | greater | less | greaterOrEqual | lessOrEqual
  | string
  | semicolon
  deriving DecidableEq, Repr

namespace TokenKind

/-- All kinds, in the order of their declaration. -/
def all : List TokenKind := [
  select, delete, move, copy, archive, unarchive, convert, source, condition, destination,
  and, or, like, equal, notEqual, greater, less, greaterOrEqual, lessOrEqual, string, semicolon]

/-- How a message speaks of a kind: keywords as they are written, signs between apostrophes. -/
def display : TokenKind → String
  | select => "SELECT"
  | delete => "DELETE"
  | move => "MOVE"
  | copy => "COPY"
  | archive => "ARCHIVE"
  | unarchive => "UNARCHIVE"
  | convert => "CONVERT"
  | source => "FROM"
  | condition => "WHERE"
  | destination => "TO"
  | and => "AND"
  | or => "OR"
  | like => "LIKE"
  | equal => "'='"
  | notEqual => "'!='"
  | greater => "'>'"
  | less => "'<'"
  | greaterOrEqual => "'>='"
  | lessOrEqual => "'<='"
  | string => "string"
  | semicolon => "';'"

/-- The name of a kind in the token listing. -/
def name : TokenKind → String
  | select => "Select"
  | delete => "Delete"
  | move => "Move"
  | copy => "Copy"
  | archive => "Archive"
  | unarchive => "Unarchive"
  | convert => "Convert"
  | source => "From"
  | condition => "Where"
  | destination => "To"
  | and => "And"
  | or => "Or"
  | like => "Like"
  | equal => "Equals"
  | notEqual => "NotEquals"
  | greater => "GreaterThan"
  | less => "LessThan"
  | greaterOrEqual => "GreaterThanOrEqual"
  | lessOrEqual => "LessThanOrEqual"
  | string => "String"
  | semicolon => "Semicolon"

/-- Every kind is listed. -/
theorem mem_all (kind : TokenKind) : kind ∈ all := by cases kind <;> decide

end TokenKind

/-- A token: its kind and the slice of the text it stands for. A quoted string keeps its
    quotes. -/
structure Token where
  kind : TokenKind
  lexeme : String
  deriving DecidableEq, Repr

end FileQuery
