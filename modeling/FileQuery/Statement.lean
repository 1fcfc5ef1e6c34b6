/-!
# Statements

A statement selects entries of a folder and says what becomes of them. Its condition is a tree of
comparisons joined by AND and OR. Written back as text a statement has one line, one blank
between tokens, and no parentheses: AND and OR join from left to right.
-/

namespace FileQuery

/-- The operators of conditions. -/
inductive Operator
  | like | equal | notEqual | less | greater | lessOrEqual | greaterOrEqual
  | and | or
  deriving DecidableEq, Repr

namespace Operator

/-- The sign or word of an operator. -/
def text : Operator → String
  | like => "LIKE"
  | equal => "="
  | notEqual => "!="
  | less => "<"
  | greater => ">"
  | lessOrEqual => "<="
  | greaterOrEqual => ">="
  | and => "AND"
  | or => "OR"

/-- The name of an operator in a syntax tree. -/
def name : Operator → String
  | like => "Like"
  | equal => "Eq"
  | notEqual => "NotEq"
  | less => "Lt"
  | greater => "Gt"
  | lessOrEqual => "LtEq"
  | greaterOrEqual => "GtEq"
  | and => "And"
  | or => "Or"

/-- Whether an operator joins conditions. All others compare a property with a value. -/
def isLogical : Operator → Bool
  | and | or => true
  | _ => false

/-- Whether an operator compares by order. -/
def isOrdering : Operator → Bool
  | less | greater | lessOrEqual | greaterOrEqual => true
  | _ => false

end Operator

/-- A condition: a quoted text, or two conditions with an operator between them. -/
inductive Condition
  | literal (text : String)
  | binary (operator : Operator) (left right : Condition)
  deriving DecidableEq, Repr

/-- A text between quotes. Double quotes are used only where the text holds a single one; a text
    with quotes of both kinds has no faithful form. -/
def quoted (text : String) : String :=
  if text.toList.contains '\'' then "\"" ++ text ++ "\"" else "'" ++ text ++ "'"

namespace Condition

/-- A condition as it is written in a query. -/
def text : Condition → String
  | literal value => quoted value
  | binary operator left right => left.text ++ " " ++ operator.text ++ " " ++ right.text

/-- The comparisons of a condition from left to right. A comparison may have operands that are
    not literals, and these are not searched. -/
def comparisons : Condition → List (Operator × Condition × Condition)
  | literal _ => []
  | binary operator left right =>
    if operator.isLogical then left.comparisons ++ right.comparisons
    else [(operator, left, right)]

end Condition

/-- The clauses that all statements share. -/
structure Selection where
  /-- What is selected, as it was written. -/
  target : String
  /-- The folder whose entries are selected. -/
  source : String
  condition : Option Condition
  deriving DecidableEq, Repr

/-- What can become of the selected entries. -/
inductive Operation
  | select | delete | move | copy | archive | unarchive | convert
  deriving DecidableEq, Repr

namespace Operation

/-- The word for an operation in a query and in messages. -/
def keyword : Operation → String
  | select => "SELECT"
  | delete => "DELETE"
  | move => "MOVE"
  | copy => "COPY"
  | archive => "ARCHIVE"
  | unarchive => "UNARCHIVE"
  | convert => "CONVERT"

/-- The name of an operation in a syntax tree. -/
def name : Operation → String
  | select => "Select"
  | delete => "Delete"
  | move => "Move"
  | copy => "Copy"
  | archive => "Archive"
  | unarchive => "Unarchive"
  | convert => "Convert"

end Operation

/-- A statement: what becomes of the selected entries and, for most, where. -/
inductive Statement
  | select (selection : Selection)
  | delete (selection : Selection)
  | move (selection : Selection) (destination : String)
  | copy (selection : Selection) (destination : String)
  | archive (selection : Selection) (destination : String)
  | unarchive (selection : Selection) (destination : String)
  | convert (selection : Selection) (destination : String)
  deriving DecidableEq, Repr

namespace Statement

/-- The clauses shared with all statements. -/
def selection : Statement → Selection
  | select s | delete s => s
  | move s _ | copy s _ | archive s _ | unarchive s _ | convert s _ => s

/-- The text of the TO clause, if the statement has one. -/
def destination? : Statement → Option String
  | select _ | delete _ => none
  | move _ destination | copy _ destination => some destination
  | archive _ destination | unarchive _ destination => some destination
  | convert _ destination => some destination

/-- The operation that a statement asks for. -/
def operation : Statement → Operation
  | select _ => .select
  | delete _ => .delete
  | move _ _ => .move
  | copy _ _ => .copy
  | archive _ _ => .archive
  | unarchive _ _ => .unarchive
  | convert _ _ => .convert

/-- The word that begins a statement. -/
def keyword (statement : Statement) : String := statement.operation.keyword

/-- The WHERE clause of a statement as it is written, if there is one. -/
def filterText : Option Condition → String
  | some condition => " WHERE " ++ condition.text
  | none => ""

/-- The TO clause of a statement as it is written, if there is one. -/
def goalText : Option String → String
  | some destination => " TO " ++ quoted destination
  | none => ""

/-- A statement as it is written in a query. -/
def text (statement : Statement) : String :=
  let selection := statement.selection
  statement.keyword ++ " " ++ quoted selection.target ++ " FROM " ++ quoted selection.source
    ++ filterText selection.condition ++ goalText statement.destination?

end Statement

end FileQuery
