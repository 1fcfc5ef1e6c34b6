import FileQuery.Statement
import FileQuery.Token.Scan

/-!
# Queries

A query is a text of statements. Semicolons may stand before, between and after statements, and
are not required. A query is read from a source of tokens that shows one token ahead. When the
source leaves that token it looks for the one after it, and a place where no token can be read is
reported then.

The main statements say that every reader makes its source smaller (`selection_shorter`,
`statement_shorter`), which is why reading a query ends.
-/

namespace FileQuery

/-- What can be wrong with a query text. -/
inductive ParseError
  /-- No token can be read at a place. -/
  | unexpectedInput (failure : UnexpectedInput)
  /-- A token is not of an expected kind. -/
  | unexpectedToken (expected : List TokenKind) (found : String)
  /-- The text ends where a token is expected. -/
  | unexpectedEnd (expected : List TokenKind)
  deriving DecidableEq, Repr

namespace ParseError

/-- The expected kinds in words. -/
def alternatives (expected : List TokenKind) : String :=
  String.intercalate " or " (expected.map TokenKind.display)

/-- The description of an error. -/
def message : ParseError → String
  | unexpectedInput ⟨position, remaining⟩ =>
    "Unexpected input at position " ++ toString position ++ ": \"" ++ remaining ++ "\""
  | unexpectedToken expected found =>
    "Unexpected token '" ++ found ++ "', expected " ++ alternatives expected
  | unexpectedEnd expected => "Unexpected end of input, expected " ++ alternatives expected

/-- The description of an error as the reason why a query is refused. -/
def report (error : ParseError) : String :=
  match error with
  | unexpectedInput ⟨position, _⟩ =>
    "Lexical error at position " ++ toString position ++ ": " ++ error.message
  | unexpectedToken .. | unexpectedEnd .. => "Syntax error: " ++ error.message

end ParseError

namespace TokenKind

/-- The operator that a kind of token stands for. -/
def operator? : TokenKind → Option Operator
  | like => some .like
  | equal => some .equal
  | notEqual => some .notEqual
  | less => some .less
  | greater => some .greater
  | lessOrEqual => some .lessOrEqual
  | greaterOrEqual => some .greaterOrEqual
  | and => some .and
  | or => some .or
  | _ => none

/-- The kinds that can begin a statement, and the semicolon. -/
def statementStarts : List TokenKind :=
  [select, delete, move, copy, archive, unarchive, convert, semicolon]

/-- The kinds that compare a property with a value. -/
def comparisonOperators : List TokenKind :=
  [like, equal, notEqual, greater, less, greaterOrEqual, lessOrEqual]

/-- The kinds that join comparisons. -/
def logicalOperators : List TokenKind := [and, or]

end TokenKind

/-- A source of tokens that shows one token ahead. -/
class TokenSource (σ : Type) where
  /-- The token that comes next, if there is one. -/
  next? : σ → Option Token
  /-- Leaves the token that comes next and looks for the one after it, where it may be that no
      token can be read. -/
  leave : σ → Except UnexpectedInput Unit × σ
  /-- A number that gets smaller with each token that is left. -/
  size : σ → Nat
  size_leave : ∀ {source after : σ} {token : Token}, next? source = some token →
    leave source = (.ok (), after) → size after < size source

namespace Query

/-- Reading from a source of tokens. It comes to a value or an error, and leaves the source where
    it stopped. -/
abbrev Reading (σ α : Type) : Type := σ → Except ParseError α × σ

instance {σ : Type} : Monad (Reading σ) where
  pure value := fun source => (.ok value, source)
  bind first second := fun source =>
    match first source with
    | (.ok value, after) => second value after
    | (.error error, after) => (.error error, after)

/-- Two readers in sequence: the second one reads what the first one leaves. -/
theorem bind_apply {σ α β : Type} (first : Reading σ α) (second : α → Reading σ β) (source : σ) :
    (first >>= second) source =
      match first source with
      | (.ok value, after) => second value after
      | (.error error, after) => (.error error, after) := rfl

/-- Two readers in sequence come to a value if both do. -/
theorem bind_eq_ok {σ α β : Type} {first : Reading σ α} {second : α → Reading σ β}
    {source final : σ} {result : β} (read : (first >>= second) source = (.ok result, final)) :
    ∃ value middle, first source = (.ok value, middle) ∧
      second value middle = (.ok result, final) := by
  rw [bind_apply] at read
  split at read
  · rename_i value middle readFirst
    exact ⟨value, middle, readFirst, read⟩
  · simp at read

section
variable {σ : Type} [TokenSource σ]

/-- Reads nothing and comes to an error. -/
def refuse {α : Type} (error : ParseError) : Reading σ α := fun source => (.error error, source)

/-- Whether the next token is of one of the given kinds. -/
def ahead (kinds : List TokenKind) (source : σ) : Bool :=
  match TokenSource.next? source with
  | none => false
  | some token => kinds.contains token.kind

/-- Reads a token of an expected kind. When no token can be read after it, that is what comes of
    it. -/
def take (expected : List TokenKind) : Reading σ Token := fun source =>
  match TokenSource.next? source with
  | none => (.error (.unexpectedEnd expected), source)
  | some token =>
    if expected.contains token.kind then
      match TokenSource.leave source with
      | (.ok (), after) => (.ok token, after)
      | (.error failure, after) => (.error (.unexpectedInput failure), after)
    else (.error (.unexpectedToken expected token.lexeme), source)

/-- The characters between the quotes of a quoted string. -/
def unquote (lexeme : String) : String := String.ofList (lexeme.toList.drop 1).dropLast

/-- Reads a quoted string. -/
def string : Reading σ String := do
  let token ← take [.string]
  return unquote token.lexeme

/-- The operator that a token stands for. Other tokens are refused. -/
def operatorOf (kinds : List TokenKind) (token : Token) : Reading σ Operator :=
  match token.kind.operator? with
  | some operator => return operator
  | none => refuse (.unexpectedToken kinds token.lexeme)

/-- Reads an operator of the given kinds. -/
def operator (kinds : List TokenKind) : Reading σ Operator := do
  operatorOf kinds (← take kinds)

/-- Reads a comparison: a quoted property, an operator and a quoted value. -/
def comparison : Reading σ Condition := do
  let left ← string
  let operator ← operator TokenKind.comparisonOperators
  let right ← string
  return .binary operator (.literal left) (.literal right)

/-- Reads AND or OR and the comparison after it. -/
def continuation : Reading σ (Operator × Condition) := do
  let operator ← operator TokenKind.logicalOperators
  let right ← comparison
  return (operator, right)

/-- A reader makes its source smaller. -/
def Shortens {α : Type} (reader : Reading σ α) : Prop :=
  ∀ source value after, reader source = (.ok value, after) →
    TokenSource.size after < TokenSource.size source

/-- A reader does not make its source larger. -/
def Keeps {α : Type} (reader : Reading σ α) : Prop :=
  ∀ source value after, reader source = (.ok value, after) →
    TokenSource.size after ≤ TokenSource.size source

theorem Shortens.keeps {α : Type} {reader : Reading σ α} (shortens : Shortens reader) :
    Keeps reader :=
  fun source value after read => Nat.le_of_lt (shortens source value after read)

theorem keeps_pure {α : Type} (value : α) : Keeps (pure value : Reading σ α) := by
  intro source result after read
  have same : source = after := (Prod.mk.inj read).2
  exact Nat.le_of_eq (congrArg TokenSource.size same.symm)

theorem Keeps.bind {α β : Type} {first : Reading σ α} {second : α → Reading σ β}
    (keeps : Keeps first) (later : ∀ value, Keeps (second value)) : Keeps (first >>= second) := by
  intro source result final read
  obtain ⟨value, middle, readFirst, readSecond⟩ := bind_eq_ok read
  exact Nat.le_trans (later value middle result final readSecond)
    (keeps source value middle readFirst)

/-- Two readers in sequence make their source smaller if the first one does. -/
theorem Shortens.bind {α β : Type} {first : Reading σ α} {second : α → Reading σ β}
    (shortens : Shortens first) (later : ∀ value, Keeps (second value)) :
    Shortens (first >>= second) := by
  intro source result final read
  obtain ⟨value, middle, readFirst, readSecond⟩ := bind_eq_ok read
  exact Nat.lt_of_le_of_lt (later value middle result final readSecond)
    (shortens source value middle readFirst)

theorem take_shorter (expected : List TokenKind) : Shortens (take expected : Reading σ Token) := by
  intro source token after read
  simp only [take] at read
  split at read
  · simp at read
  · rename_i found shown
    split at read
    · split at read
      · rename_i left
        have same := (Prod.mk.inj read).2
        exact same ▸ TokenSource.size_leave shown left
      · simp at read
    · simp at read

theorem string_shorter : Shortens (string : Reading σ String) :=
  (take_shorter _).bind fun token => keeps_pure (unquote token.lexeme)

theorem operator_shorter (kinds : List TokenKind) :
    Shortens (operator kinds : Reading σ Operator) := by
  refine (take_shorter kinds).bind fun token => ?_
  unfold operatorOf
  cases token.kind.operator? with
  | some operator => exact keeps_pure operator
  | none =>
    intro source value after read
    cases (Prod.mk.inj read).1

theorem comparison_shorter : Shortens (comparison : Reading σ Condition) :=
  string_shorter.bind fun _ =>
    ((operator_shorter _).bind fun _ => (string_shorter.bind fun _ => keeps_pure _).keeps).keeps

theorem continuation_shorter : Shortens (continuation : Reading σ (Operator × Condition)) :=
  (operator_shorter _).bind fun _ => (comparison_shorter.bind fun _ => keeps_pure _).keeps

/-- Reads what AND and OR join to a condition. Each joins all that stands before it. -/
def continuations (left : Condition) (source : σ) : Except ParseError Condition × σ :=
  if ahead TokenKind.logicalOperators source then
    match _read : continuation source with
    | (.error error, after) => (.error error, after)
    | (.ok (operator, right), after) => continuations (.binary operator left right) after
  else (.ok left, source)
termination_by TokenSource.size source
decreasing_by exact continuation_shorter source _ _ _read

/-- Reads a condition: comparisons joined by AND and OR. -/
def condition : Reading σ Condition := do
  let first ← comparison
  continuations first

/-- Reads a WHERE clause if there is one. -/
def whereClause : Reading σ (Option Condition) := fun source =>
  if ahead [.condition] source then
    (do
      let _ ← take [.condition]
      let found ← condition
      return some found : Reading σ (Option Condition)) source
  else (.ok none, source)

/-- Reads a statement's keyword and the clauses that all statements share. -/
def selection (keyword : TokenKind) : Reading σ Selection := do
  let _ ← take [keyword]
  let target ← string
  let _ ← take [.source]
  let source ← string
  let condition ← whereClause
  return ⟨target, source, condition⟩

/-- Reads a statement that has a TO clause after the shared clauses. -/
def transfer (keyword : TokenKind) (make : Selection → String → Statement) :
    Reading σ Statement := do
  let selection ← selection keyword
  let _ ← take [.destination]
  let destination ← string
  return make selection destination

/-- Reads a statement without a TO clause. -/
def plain (keyword : TokenKind) (make : Selection → Statement) : Reading σ Statement := do
  let selection ← selection keyword
  return make selection

/-- Reads a statement. Its first token tells which. -/
def statement : Reading σ Statement := fun source =>
  match TokenSource.next? source with
  | none => (.error (.unexpectedEnd TokenKind.statementStarts), source)
  | some token =>
    match token.kind with
    | .select => plain .select .select source
    | .delete => plain .delete .delete source
    | .move => transfer .move .move source
    | .copy => transfer .copy .copy source
    | .archive => transfer .archive .archive source
    | .unarchive => transfer .unarchive .unarchive source
    | .convert => transfer .convert .convert source
    | _ => (.error (.unexpectedToken TokenKind.statementStarts token.lexeme), source)

theorem continuations_keeps (left : Condition) :
    Keeps (continuations left : Reading σ Condition) := by
  intro source value after read
  fun_induction continuations left source with
  | case1 => simp at read
  | case2 _ _ _ _ _ _ continued inductionHypothesis =>
    have shorter := continuation_shorter _ _ _ continued
    exact Nat.le_trans (inductionHypothesis read) (Nat.le_of_lt shorter)
  | case3 =>
    have same := (Prod.mk.inj read).2
    exact Nat.le_of_eq (congrArg TokenSource.size same.symm)

theorem condition_shorter : Shortens (condition : Reading σ Condition) :=
  comparison_shorter.bind fun first => continuations_keeps first

theorem whereClause_keeps : Keeps (whereClause : Reading σ (Option Condition)) := by
  intro source value after read
  unfold whereClause at read
  split at read
  · have keeps : Keeps (do
        let _ ← take [.condition]
        let found ← condition
        return some found : Reading σ (Option Condition)) :=
      ((take_shorter _).bind fun _ => (condition_shorter.bind fun _ => keeps_pure _).keeps).keeps
    exact keeps source value after read
  · have same := (Prod.mk.inj read).2
    exact Nat.le_of_eq (congrArg TokenSource.size same.symm)

/-- The shared clauses take a token at least. -/
theorem selection_shorter (keyword : TokenKind) :
    Shortens (selection keyword : Reading σ Selection) :=
  (take_shorter _).bind fun _ => string_shorter.keeps.bind fun _ =>
    (take_shorter _).keeps.bind fun _ => string_shorter.keeps.bind fun _ =>
      whereClause_keeps.bind fun _ => keeps_pure _

theorem plain_shorter (keyword : TokenKind) (make : Selection → Statement) :
    Shortens (plain keyword make : Reading σ Statement) :=
  (selection_shorter keyword).bind fun _ => keeps_pure _

theorem transfer_shorter (keyword : TokenKind) (make : Selection → String → Statement) :
    Shortens (transfer keyword make : Reading σ Statement) :=
  (selection_shorter keyword).bind fun _ => (take_shorter _).keeps.bind fun _ =>
    string_shorter.keeps.bind fun _ => keeps_pure _

/-- A statement takes a token at least. -/
theorem statement_shorter : Shortens (statement : Reading σ Statement) := by
  intro source value after read
  simp only [statement] at read
  split at read
  · simp at read
  · split at read
    case h_8 => simp at read
    all_goals first
      | exact plain_shorter _ _ _ _ _ read
      | exact transfer_shorter _ _ _ _ _ read

/-- Reads statements up to the end. -/
def statements (source : σ) : Except ParseError (List Statement) × σ :=
  if (TokenSource.next? source).isNone then (.ok [], source)
  else if ahead [.semicolon] source then
    match _read : take [.semicolon] source with
    | (.error error, after) => (.error error, after)
    | (.ok _, after) => statements after
  else
    match _read : statement source with
    | (.error error, after) => (.error error, after)
    | (.ok first, after) =>
      match statements after with
      | (.error error, final) => (.error error, final)
      | (.ok more, final) => (.ok (first :: more), final)
termination_by TokenSource.size source
decreasing_by
  · exact take_shorter _ source _ _ _read
  · exact statement_shorter source _ _ _read

end

end Query

/-- A parser: the one token that it has read ahead, and the place after it. -/
structure Parser where
  cursor : Cursor
  lookahead : Option Token
  deriving DecidableEq, Repr

namespace Parser

/-- A parser that has read nothing yet. -/
def fresh : Parser := ⟨Cursor.start "", none⟩

/-- Replaces the token that has been read ahead by the one after it. Where none can be read it
    stays. -/
def leave (parser : Parser) : Except UnexpectedInput Unit × Parser :=
  match parser.cursor.next with
  | (.ok token?, after) => (.ok (), ⟨after, token?⟩)
  | (.error failure, after) => (.error failure, ⟨after, parser.lookahead⟩)

/-- The text before the cursor, and one more for the token that has been read ahead. -/
def size (parser : Parser) : Nat :=
  match parser.lookahead with
  | none => 0
  | some _ => parser.cursor.rest.length + 1

theorem size_leave {parser after : Parser} {token : Token}
    (shown : parser.lookahead = some token) (left : parser.leave = (.ok (), after)) :
    after.size < parser.size := by
  unfold leave at left
  split at left
  · rename_i token? cursor read
    obtain ⟨-, rfl⟩ := Prod.mk.inj left
    cases token? with
    | none => simp [size, shown]
    | some next =>
      have readNext : parser.cursor.next.1 = .ok (some next) := by rw [read]
      have shorter := Cursor.next_shorter readNext
      simp only [read] at shorter
      simp only [size, shown]
      omega
  · simp at left

instance : TokenSource Parser where
  next? := lookahead
  leave := leave
  size := size
  size_leave := size_leave

/-- Reads a query text from its start, whatever was read before. The first token is read ahead
    before any is asked for. -/
def parse (text : String) : Query.Reading Parser (List Statement) := fun parser =>
  match Parser.leave ⟨Cursor.start text, parser.lookahead⟩ with
  | (.ok (), started) => Query.statements started
  | (.error failure, started) => (.error (.unexpectedInput failure), started)

end Parser

/-- The statements of a query text, or the first error. No statement of a text with an error is
    returned. -/
def Query.parse (text : String) : Except ParseError (List Statement) :=
  (Parser.parse text Parser.fresh).1

end FileQuery
