import FileQuery.Proofs.Query.Lookahead
import FileQuery.Proofs.Query.Sentences
import FileQuery.Proofs.Token.Tiling
import FileQuery.Statement

/-!
# Written tokens and statements

A statement is written as tokens with a blank between them. A token that is written as its kind
demands, with a blank or the end of the text after it, is read as that token, whatever the strings
around it hold. So a text of such tokens scans as these tokens. In the other direction, a string
that any text scans as stands between two equal quotes and does not hold that quote.
-/

namespace FileQuery

namespace TokenKind

/-- How a kind is written. A string has more than one form, of which this is the empty one. -/
def spelling : TokenKind → String
  | select => "SELECT"
  | delete => "DELETE"
  | move => "MOVE"
  | copy => "COPY"
  | archive => "ARCHIVE"
  | unarchive => "UNARCHIVE"
  | convert => "CONVERT"
  | source => "FROM"
  | condition => "WHERE"
  | destination => "TO"
  | and => "AND"
  | or => "OR"
  | like => "LIKE"
  | equal => "="
  | notEqual => "!="
  | greater => ">"
  | less => "<"
  | greaterOrEqual => ">="
  | lessOrEqual => "<="
  | string => "''"
  | semicolon => ";"

end TokenKind

namespace Token

/-- A token that is written as its kind demands: a string between two equal quotes that it does
    not hold itself, and anything else as it is spelled. -/
inductive WellWritten : Token → Prop
  | spelled (kind : TokenKind) : WellWritten ⟨kind, kind.spelling⟩
  | quoted {quote : Char} {body : List Char} (sign : quote = '\'' ∨ quote = '"')
    (absent : quote ∉ body) :
    WellWritten ⟨.string, String.ofList (quote :: (body ++ [quote]))⟩

end Token

/-- What comes after a token in a written statement: nothing, or a blank before the next one. -/
inductive Spaced : List Char → Prop
  | nothing : Spaced []
  | blank (rest : List Char) : Spaced (' ' :: rest)

namespace Rule

/-- What a kind is spelled as is matched by the rule for that kind and by none before it. -/
theorem firstMatch_spelling (kind : TokenKind) {rest : List Char} (spaced : Spaced rest) :
    firstMatch table (kind.spelling.toList ++ rest) =
      some (some kind, kind.spelling.toList.length) := by
  cases spaced <;> cases kind <;> rfl

/-- No rule but the one for strings matches a quote. -/
theorem firstMatch_quoted {quote : Char} {body : List Char} (sign : quote = '\'' ∨ quote = '"')
    (absent : quote ∉ body) (rest : List Char) :
    firstMatch table (quote :: (body ++ quote :: rest)) =
      some (some .string, body.length + 2) := by
  have others : firstMatch table (quote :: (body ++ quote :: rest)) =
      firstMatch [⟨.quoted, some .string⟩] (quote :: (body ++ quote :: rest)) := by
    rcases sign with rfl | rfl <;> rfl
  rw [others]
  rcases sign with rfl | rfl <;>
    simp [firstMatch, Shape.length?, Shape.closing?_append absent]

/-- A well written token is read as its kind, up to its end. -/
theorem firstMatch_wellWritten {token : Token} (written : token.WellWritten) {rest : List Char}
    (spaced : Spaced rest) :
    firstMatch table (token.lexeme.toList ++ rest) =
      some (some token.kind, token.lexeme.toList.length) := by
  cases written with
  | spelled kind => exact firstMatch_spelling kind spaced
  | @quoted quote body sign absent => simpa using firstMatch_quoted sign absent rest

/-- What is matched as a string stands between two equal quotes and does not hold that quote. -/
theorem quoted_of_firstMatch {text : List Char} {count : Nat}
    (matched : firstMatch table text = some (some .string, count)) :
    (Token.mk .string (String.ofList (text.take count))).WellWritten := by
  obtain ⟨lexeme, rest, rfl, rfl, -, rule, listed, made, fits, -⟩ := exists_lexeme matched
  rw [table_strings rule listed made] at fits
  rw [List.take_left]
  cases fits with
  | quoted mark absent => exact .quoted mark absent

end Rule

namespace Token

/-- A well written token is not empty. -/
theorem WellWritten.lexeme_cons {token : Token} (written : token.WellWritten) :
    ∃ first rest, token.lexeme.toList = first :: rest := by
  cases written with
  | spelled kind => cases kind <;> exact ⟨_, _, rfl⟩
  | quoted => exact ⟨_, _, String.toList_ofList⟩

/-- Tokens as a text, with a blank before each. -/
def spaced (tokens : List Token) : List Char :=
  tokens.flatMap fun token => ' ' :: token.lexeme.toList

@[simp] theorem spaced_nil : spaced [] = [] := rfl

@[simp] theorem spaced_cons (token : Token) (rest : List Token) :
    spaced (token :: rest) = ' ' :: (token.lexeme.toList ++ spaced rest) := rfl

@[simp] theorem spaced_append (first second : List Token) :
    spaced (first ++ second) = spaced first ++ spaced second := List.flatMap_append

/-- After a token comes a blank or nothing. -/
theorem spaced_spaced : (tokens : List Token) → Spaced (spaced tokens)
  | [] => .nothing
  | _ :: _ => .blank _

/-- Tokens as a text, with a blank between them. -/
def written : List Token → List Char
  | [] => []
  | first :: rest => first.lexeme.toList ++ spaced rest

end Token

namespace Cursor

/-- A well written token is read, and the cursor stands behind it. -/
theorem next_wellWritten {token : Token} (written : token.WellWritten) {rest : List Char}
    (spaced : Spaced rest) (position : Nat) :
    ∃ after, next ⟨position, token.lexeme.toList ++ rest⟩ = (.ok (some token), ⟨after, rest⟩) := by
  obtain ⟨first, more, equal⟩ := written.lexeme_cons
  have matched := Rule.firstMatch_wellWritten written spaced
  rw [equal, List.cons_append, List.length_cons] at matched
  have whole : (first :: (more ++ rest)).take (more.length + 1) = first :: more := by
    simp
  have lexeme : String.ofList (first :: more) = token.lexeme := by
    rw [← equal, String.ofList_toList]
  have behind : (first :: (more ++ rest)).drop (more.length + 1) = rest := by
    simp
  rw [equal, List.cons_append, next]
  simp only [matched, whole, advance, lexeme, behind]
  exact ⟨_, rfl⟩

/-- A string that is read is well written. -/
theorem next_string {cursor : Cursor} {token : Token} (read : cursor.next.1 = .ok (some token))
    (quoted : token.kind = .string) : token.WellWritten := by
  fun_induction next cursor with
  | case1 => simp at read
  | case2 _ _ _ _ kind _ matched =>
    obtain rfl : _ = token := Option.some.inj (Except.ok.inj read)
    obtain rfl : kind = .string := quoted
    exact Rule.quoted_of_firstMatch matched
  | case3 _ _ _ _ _ _ inductionHypothesis => exact inductionHypothesis read
  | case4 => simp at read

end Cursor

namespace Scan

/-- The tokens of a text in which each has a blank before it. -/
theorem ofCursor_spaced {tokens : List Token} (wellWritten : ∀ token ∈ tokens, token.WellWritten)
    (position : Nat) : ofCursor ⟨position, Token.spaced tokens⟩ = ⟨tokens, none⟩ := by
  induction tokens generalizing position with
  | nil => rw [scan_next, Token.spaced_nil, Cursor.next]
  | cons token rest inductionHypothesis =>
    obtain ⟨first, later⟩ := List.forall_mem_cons.mp wellWritten
    have passed := Cursor.next_blank (by decide : Text.isBlank ' ' = true)
      (token.lexeme.toList ++ Token.spaced rest) position
    obtain ⟨after, read⟩ := Cursor.next_wellWritten first (Token.spaced_spaced rest) _
    rw [scan_next, Token.spaced_cons, passed, read]
    simp only [inductionHypothesis later after]

/-- The tokens of a written text are the ones that were written. -/
theorem ofCursor_written {tokens : List Token} (wellWritten : ∀ token ∈ tokens, token.WellWritten)
    (position : Nat) : ofCursor ⟨position, Token.written tokens⟩ = ⟨tokens, none⟩ := by
  cases tokens with
  | nil => exact ofCursor_spaced wellWritten position
  | cons token rest =>
    obtain ⟨first, later⟩ := List.forall_mem_cons.mp wellWritten
    obtain ⟨after, read⟩ := Cursor.next_wellWritten first (Token.spaced_spaced rest) position
    rw [scan_next, Token.written, read]
    simp only [ofCursor_spaced later after]

/-- The strings of a scan are well written, whatever else the text holds. -/
theorem ofCursor_string (cursor : Cursor) :
    ∀ token ∈ (ofCursor cursor).tokens, token.kind = .string → token.WellWritten := by
  intro token member quoted
  fun_induction ofCursor cursor with
  | case1 cursor first after read later inductionHypothesis =>
    rcases List.mem_cons.mp member with rfl | among
    · exact Cursor.next_string (by rw [read]) quoted
    · exact inductionHypothesis among
  | case2 => simp at member
  | case3 => simp at member

end Scan

/-!
## Statements that survive being written

A statement that is written and read again is itself under two conditions. None of its literals
holds quotes of both kinds, for then there is a quote for each to stand between; and its condition
joins comparisons from left to right, for it is written without parentheses. Every statement that
is read from a text meets both, and no other statement is read from any text.
-/

/-- A text that can stand between quotes, as it holds one kind of them at most. -/
def Quotable (text : String) : Prop := ¬ ('\'' ∈ text.toList ∧ '"' ∈ text.toList)

namespace Condition

/-- The literals of a condition, at whatever depth. -/
def literals : Condition → List String
  | literal value => [value]
  | binary _ left right => left.literals ++ right.literals

/-- Two literals with an operator between them that does not join conditions. -/
inductive IsComparison : Condition → Prop
  | mk {operator : Operator} (name value : String) (compares : operator.isLogical = false) :
    IsComparison (binary operator (literal name) (literal value))

/-- Comparisons that AND and OR join from left to right. -/
inductive IsChain : Condition → Prop
  | comparison {condition : Condition} (compares : condition.IsComparison) : IsChain condition
  | joined {operator : Operator} {left right : Condition} (joins : operator.isLogical = true)
    (first : IsChain left) (last : right.IsComparison) : IsChain (binary operator left right)

end Condition

namespace Statement

/-- The literals of a statement: its target and folders and the operands of its condition. -/
def literals (statement : Statement) : List String :=
  statement.selection.target :: statement.selection.source ::
    ((statement.selection.condition.map Condition.literals).getD [] ++
      statement.destination?.toList)

/-- A statement that can be told from its text. -/
structure Faithful (statement : Statement) : Prop where
  quotable : ∀ literal ∈ statement.literals, Quotable literal
  chained : ∀ condition ∈ statement.selection.condition, condition.IsChain

end Statement

/-! ### The tokens that a statement is written with -/

/-- The token that a kind is spelled as. -/
def Token.ofKind (kind : TokenKind) : Token := ⟨kind, kind.spelling⟩

/-- The token that a literal is quoted as. -/
def Token.ofLiteral (text : String) : Token := ⟨.string, quoted text⟩

/-- The kind of token that an operator is written as. -/
def Operator.kind : Operator → TokenKind
  | like => .like
  | equal => .equal
  | notEqual => .notEqual
  | less => .less
  | greater => .greater
  | lessOrEqual => .lessOrEqual
  | greaterOrEqual => .greaterOrEqual
  | and => .and
  | or => .or

/-- The kind of token that a statement of an operation begins with. -/
def Operation.kind : Operation → TokenKind
  | select => .select
  | delete => .delete
  | move => .move
  | copy => .copy
  | archive => .archive
  | unarchive => .unarchive
  | convert => .convert

/-- The tokens of a condition. -/
def Condition.tokens : Condition → List Token
  | literal value => [.ofLiteral value]
  | binary operator left right => left.tokens ++ .ofKind operator.kind :: right.tokens

namespace Statement

/-- The tokens of the WHERE clause, if there is one. -/
def filterTokens : Option Condition → List Token
  | none => []
  | some condition => .ofKind .condition :: condition.tokens

/-- The tokens of the TO clause, if there is one. -/
def goalTokens : Option String → List Token
  | none => []
  | some destination => [.ofKind .destination, .ofLiteral destination]

/-- The tokens of a statement. -/
def tokens (statement : Statement) : List Token :=
  .ofKind statement.operation.kind :: .ofLiteral statement.selection.target ::
    .ofKind .source :: .ofLiteral statement.selection.source ::
    (filterTokens statement.selection.condition ++ goalTokens statement.destination?)

end Statement

theorem Operator.text_eq_spelling (operator : Operator) :
    operator.text = operator.kind.spelling := by
  cases operator <;> rfl

theorem Operation.keyword_eq_spelling (operation : Operation) :
    operation.keyword = operation.kind.spelling := by
  cases operation <;> rfl

/-- The text of a condition is its tokens with blanks between them. -/
theorem Condition.spaced_tokens (condition : Condition) :
    Token.spaced condition.tokens = ' ' :: condition.text.toList := by
  induction condition with
  | literal value => simp [tokens, Token.ofLiteral, text]
  | binary operator left right leftSpaced rightSpaced =>
    simp [tokens, text, leftSpaced, rightSpaced, Token.ofKind, operator.text_eq_spelling]

namespace Statement

/-- The text of a statement is its tokens with blanks between them. -/
theorem text_eq_written (statement : Statement) :
    statement.text.toList = Token.written statement.tokens := by
  have filter : Token.spaced (filterTokens statement.selection.condition) =
      (filterText statement.selection.condition).toList := by
    cases statement.selection.condition with
    | none => rfl
    | some condition =>
      simp [filterTokens, filterText, Token.ofKind, condition.spaced_tokens]
      rfl
  have goal : Token.spaced (goalTokens statement.destination?) =
      (goalText statement.destination?).toList := by
    cases statement.destination? with
    | none => rfl
    | some destination =>
      simp [goalTokens, goalText, Token.ofKind, Token.ofLiteral]
      rfl
  simp only [text, tokens, Token.written, Token.spaced_cons, Token.spaced_append, filter, goal]
  simp [Token.ofKind, Token.ofLiteral, keyword, Operation.keyword_eq_spelling]
  rfl

end Statement

/-! ### What is written is read -/

/-- A literal that can stand between quotes does. -/
theorem Token.ofLiteral_wellWritten {text : String} (quotable : Quotable text) :
    (ofLiteral text).WellWritten := by
  by_cases single : '\'' ∈ text.toList
  · have double : '"' ∉ text.toList := fun double => quotable ⟨single, double⟩
    have between : quoted text = String.ofList ('"' :: (text.toList ++ ['"'])) := by
      simp [quoted, single, ← String.toList_inj]
    rw [ofLiteral, between]
    exact .quoted (.inr rfl) double
  · have between : quoted text = String.ofList ('\'' :: (text.toList ++ ['\''])) := by
      simp [quoted, single, ← String.toList_inj]
    rw [ofLiteral, between]
    exact .quoted (.inl rfl) single

/-- The characters between the quotes of a literal are the literal. -/
theorem unquote_quoted (text : String) : Query.unquote (quoted text) = text := by
  unfold quoted
  split <;> simp [Query.unquote]

/-- The tokens of a condition with quotable literals are well written. -/
theorem Condition.tokens_wellWritten {condition : Condition}
    (quotable : ∀ literal ∈ condition.literals, Quotable literal) :
    ∀ token ∈ condition.tokens, token.WellWritten := by
  induction condition with
  | literal value =>
    have isQuotable : Quotable value := quotable value (by simp [literals])
    simpa [tokens] using Token.ofLiteral_wellWritten isQuotable
  | binary operator left right leftWritten rightWritten =>
    simp only [literals, List.mem_append, or_imp, forall_and] at quotable
    simp only [tokens, List.mem_append, List.mem_cons, or_imp, forall_and, forall_eq]
    exact ⟨leftWritten quotable.1, .spelled operator.kind, rightWritten quotable.2⟩

/-- The tokens of a statement with quotable literals are well written. -/
theorem Statement.tokens_wellWritten {statement : Statement}
    (quotable : ∀ literal ∈ statement.literals, Quotable literal) :
    ∀ token ∈ statement.tokens, token.WellWritten := by
  simp only [literals, List.mem_cons, List.mem_append, or_imp, forall_and, forall_eq] at quotable
  obtain ⟨target, source, condition, destination⟩ := quotable
  have filter : ∀ token ∈ filterTokens statement.selection.condition, token.WellWritten := by
    cases present : statement.selection.condition with
    | none => simp [filterTokens]
    | some found =>
      rw [present] at condition
      exact List.forall_mem_cons.mpr ⟨.spelled .condition, Condition.tokens_wellWritten condition⟩
  have goal : ∀ token ∈ goalTokens statement.destination?, token.WellWritten := by
    cases present : statement.destination? with
    | none => simp [goalTokens]
    | some found =>
      have last := Token.ofLiteral_wellWritten (destination found (by simp [present]))
      simpa [goalTokens] using ⟨.spelled .destination, last⟩
  simp only [tokens, List.mem_cons, List.mem_append, or_imp, forall_and, forall_eq]
  exact ⟨.spelled _, Token.ofLiteral_wellWritten target, .spelled .source,
    Token.ofLiteral_wellWritten source, filter, goal⟩

namespace Grammar

theorem isString_ofLiteral (text : String) : IsString [Token.ofLiteral text] text := by
  have string : IsString [Token.ofLiteral text] (Query.unquote (quoted text)) := .token rfl
  rwa [unquote_quoted] at string

theorem isComparison_tokens {condition : Condition} (compares : condition.IsComparison) :
    IsComparison condition.tokens condition := by
  obtain ⟨name, value, compares⟩ := compares
  rename_i operator
  refine .mk (isString_ofLiteral name) (.token ?_ ?_) (isString_ofLiteral value)
  · cases operator <;> simp_all [Operator.isLogical] <;> decide
  · cases operator <;> rfl

theorem isCondition_tokens {condition : Condition} (chained : condition.IsChain) :
    IsCondition condition.tokens condition := by
  induction chained with
  | comparison compares => exact .comparison (isComparison_tokens compares)
  | @joined operator left right joins first last inductionHypothesis =>
    refine .joined inductionHypothesis (.token ?_ ?_) (isComparison_tokens last)
    · cases operator <;> simp_all [Operator.isLogical] <;> decide
    · cases operator <;> rfl

theorem isWhereClause_tokens {condition : Option Condition}
    (chained : ∀ found ∈ condition, found.IsChain) :
    IsWhereClause (Statement.filterTokens condition) condition := by
  cases condition with
  | none => exact .absent
  | some condition => exact .present rfl (isCondition_tokens (chained condition rfl))

/-- The clauses that all statements share are read from the tokens they are written with. -/
theorem isSelection_tokens (keyword : TokenKind) {selection : Selection}
    (chained : ∀ condition ∈ selection.condition, condition.IsChain) :
    IsSelection keyword (.ofKind keyword :: ([.ofLiteral selection.target] ++ .ofKind .source ::
      ([.ofLiteral selection.source] ++ Statement.filterTokens selection.condition))) selection :=
  .mk rfl (isString_ofLiteral _) rfl (isString_ofLiteral _) (isWhereClause_tokens chained)

/-- A statement whose condition is a chain is read from the tokens it is written with. -/
theorem isStatement_tokens {statement : Statement}
    (chained : ∀ condition ∈ statement.selection.condition, condition.IsChain) :
    IsStatement statement.tokens statement := by
  cases statement with
  | select selection | delete selection =>
    rw [Statement.tokens]
    simp only [Statement.destination?, Statement.goalTokens, List.append_nil]
    exact .plain rfl (isSelection_tokens _ chained)
  | move selection destination | copy selection destination | archive selection destination
  | unarchive selection destination | convert selection destination =>
    exact .transfer rfl (isSelection_tokens _ chained) rfl (isString_ofLiteral destination)

end Grammar

/-! ### What is read can be told from its text -/

/-- Tokens among which the strings are well written, as they are in a scan. -/
def StringsWritten (tokens : List Token) : Prop :=
  ∀ token ∈ tokens, token.kind = .string → token.WellWritten

@[simp] theorem stringsWritten_append (first second : List Token) :
    StringsWritten (first ++ second) ↔ StringsWritten first ∧ StringsWritten second := by
  simp [StringsWritten, or_imp, forall_and]

@[simp] theorem stringsWritten_cons (token : Token) (rest : List Token) :
    StringsWritten (token :: rest) ↔
      (token.kind = .string → token.WellWritten) ∧ StringsWritten rest := by
  simp [StringsWritten]

/-- The characters between two equal quotes hold no such quote. -/
theorem Token.WellWritten.quotable {token : Token} (written : token.WellWritten)
    (string : token.kind = .string) : Quotable (Query.unquote token.lexeme) := by
  cases written with
  | spelled kind =>
    obtain rfl : kind = .string := string
    simp [Query.unquote, TokenKind.spelling, Quotable]
  | @quoted quote body sign absent =>
    rintro ⟨single, double⟩
    simp only [Query.unquote, String.toList_ofList, List.drop_one, List.tail_cons,
      List.dropLast_concat] at single double
    rcases sign with rfl | rfl
    · exact absent single
    · exact absent double

namespace Grammar

variable {tokens : List Token}

theorem IsString.quotable {text : String} (string : IsString tokens text)
    (written : StringsWritten tokens) : Quotable text := by
  obtain ⟨quoted⟩ := string
  exact (written _ List.mem_cons_self quoted).quotable quoted

theorem IsOperator.isLogical {kinds : List TokenKind} {operator : Operator}
    (means : IsOperator kinds tokens operator) :
    (kinds = TokenKind.comparisonOperators → operator.isLogical = false) ∧
      (kinds = TokenKind.logicalOperators → operator.isLogical = true) := by
  obtain ⟨listed, means⟩ := means
  rename_i token
  constructor <;> rintro rfl <;> cases kind : token.kind <;>
    simp_all [TokenKind.comparisonOperators, TokenKind.logicalOperators, TokenKind.operator?] <;>
    subst means <;> rfl

theorem IsComparison.faithful {condition : Condition} (compares : IsComparison tokens condition)
    (written : StringsWritten tokens) :
    condition.IsComparison ∧ ∀ literal ∈ condition.literals, Quotable literal := by
  obtain ⟨property, sign, value⟩ := compares
  simp only [stringsWritten_append] at written
  refine ⟨.mk _ _ (sign.isLogical.1 rfl), ?_⟩
  simp only [Condition.literals, List.cons_append, List.nil_append, List.forall_mem_cons]
  exact ⟨property.quotable written.1, value.quotable written.2.2, List.forall_mem_nil _⟩

theorem IsCondition.faithful {condition : Condition} (holds : IsCondition tokens condition)
    (written : StringsWritten tokens) :
    condition.IsChain ∧ ∀ literal ∈ condition.literals, Quotable literal := by
  induction holds with
  | comparison compares =>
    obtain ⟨compares, quotable⟩ := compares.faithful written
    exact ⟨.comparison compares, quotable⟩
  | joined first joins last inductionHypothesis =>
    simp only [stringsWritten_append] at written
    obtain ⟨chained, quotable⟩ := inductionHypothesis written.1
    obtain ⟨compares, quotable'⟩ := last.faithful written.2.2
    refine ⟨.joined (joins.isLogical.2 rfl) chained compares, ?_⟩
    exact List.forall_mem_append.mpr ⟨quotable, quotable'⟩

theorem IsWhereClause.faithful {condition : Option Condition}
    (filters : IsWhereClause tokens condition) (written : StringsWritten tokens) :
    ∀ found ∈ condition, found.IsChain ∧ ∀ literal ∈ found.literals, Quotable literal := by
  cases filters with
  | absent => simp
  | present begins holds =>
    rintro found ⟨⟩
    exact holds.faithful ((stringsWritten_cons _ _).mp written).2

theorem IsSelection.faithful {keyword : TokenKind} {selection : Selection}
    (selects : IsSelection keyword tokens selection) (written : StringsWritten tokens) :
    Quotable selection.target ∧ Quotable selection.source ∧ ∀ found ∈ selection.condition,
      found.IsChain ∧ ∀ literal ∈ found.literals, Quotable literal := by
  obtain ⟨begins, target, preposition, source, filter⟩ := selects
  simp only [stringsWritten_append, stringsWritten_cons] at written
  obtain ⟨-, targetWritten, -, sourceWritten, filterWritten⟩ := written
  exact ⟨target.quotable targetWritten, source.quotable sourceWritten,
    filter.faithful filterWritten⟩

/-- A statement whose clauses can be told from their text can be told from its text. -/
theorem faithful_of_clauses {statement : Statement}
    (clauses : Quotable statement.selection.target ∧ Quotable statement.selection.source ∧
      ∀ found ∈ statement.selection.condition,
        found.IsChain ∧ ∀ literal ∈ found.literals, Quotable literal)
    (goal : ∀ destination ∈ statement.destination?, Quotable destination) :
    statement.Faithful := by
  obtain ⟨target, source, condition⟩ := clauses
  refine ⟨?_, fun found present => (condition found present).1⟩
  simp only [Statement.literals, List.mem_cons, List.mem_append, or_imp, forall_and, forall_eq]
  refine ⟨target, source, ?_, by simpa using goal⟩
  cases present : statement.selection.condition with
  | none => simp
  | some found => simpa using (condition found present).2

theorem IsStatement.faithful {statement : Statement} (stands : IsStatement tokens statement)
    (written : StringsWritten tokens) : statement.Faithful := by
  cases stands with
  | @plain keyword make _ selection makes selects =>
    have clauses := selects.faithful written
    have same : (make selection).selection = selection ∧ (make selection).destination? = none := by
      cases keyword <;> simp_all [plain?] <;> subst makes <;> exact ⟨rfl, rfl⟩
    exact faithful_of_clauses (by rwa [same.1]) (by simp [same.2])
  | @transfer keyword make word _ goal selection destination makes selects preposition located =>
    simp only [stringsWritten_append, stringsWritten_cons] at written
    have clauses := selects.faithful written.1
    have same : (make selection destination).selection = selection ∧
        (make selection destination).destination? = some destination := by
      cases keyword <;> simp_all [transfer?] <;> subst makes <;> exact ⟨rfl, rfl⟩
    refine faithful_of_clauses (by rwa [same.1]) ?_
    simpa [same.2] using located.quotable written.2.2

theorem IsQuery.faithful {statements : List Statement} (sentence : IsQuery tokens statements)
    (written : StringsWritten tokens) : ∀ statement ∈ statements, statement.Faithful := by
  induction sentence with
  | empty => simp
  | semicolon separates later inductionHypothesis =>
    exact inductionHypothesis ((stringsWritten_cons _ _).mp written).2
  | statement stands later inductionHypothesis =>
    simp only [stringsWritten_append] at written
    exact List.forall_mem_cons.mpr ⟨stands.faithful written.1, inductionHypothesis written.2⟩

end Grammar

namespace Query

/-- A statement that can be told from its text is read from it, and nothing else is. -/
theorem parse_text {statement : Statement} (faithful : statement.Faithful) :
    parse statement.text = .ok [statement] := by
  have scan : Scan.ofText statement.text = ⟨statement.tokens, none⟩ := by
    rw [Scan.ofText, Cursor.start, statement.text_eq_written]
    exact Scan.ofCursor_written (Statement.tokens_wellWritten faithful.quotable) 0
  have settled : (Scan.ofText statement.text).Settled := by
    simp [scan, Scan.Settled]
  have sentence : Grammar.IsQuery statement.tokens [statement] := by
    simpa using Grammar.IsQuery.statement (Grammar.isStatement_tokens faithful.chained) .empty
  rw [parse, Parser.parse_of_settled Parser.fresh settled, scan, statements_accepts sentence]

/-- Whatever is read from a text can be told from its own text. -/
theorem faithful_of_parse {text : String} {statements : List Statement}
    (read : parse text = .ok statements) : ∀ statement ∈ statements, statement.Faithful := by
  have written : StringsWritten (Scan.ofText text).tokens := Scan.ofCursor_string _
  rcases (Scan.ofText text).settled_or with settled | ⟨failure, breaks⟩
  · rw [parse, Parser.parse_of_settled Parser.fresh settled] at read
    obtain ⟨sentence, -, -⟩ := statements_accepted (Prod.ext read rfl) settled
    exact sentence.faithful written
  · rw [parse, Parser.parse_of_failure Parser.fresh breaks] at read
    contradiction

/-- A statement is read back from its text, alone and unchanged, if and only if no literal of it
    holds quotes of both kinds and its condition joins comparisons from left to right. All
    statements of all queries are such statements. -/
theorem parse_text_eq_iff :
    (∀ statement : Statement, parse statement.text = .ok [statement] ↔ statement.Faithful) ∧
    (∀ text statements, parse text = .ok statements → ∀ statement ∈ statements,
      statement.Faithful ∧ parse statement.text = .ok [statement]) := by
  have reads_back (statement : Statement) :
      parse statement.text = .ok [statement] ↔ statement.Faithful :=
    ⟨fun read => faithful_of_parse read statement List.mem_cons_self, parse_text⟩
  refine ⟨reads_back, fun text statements read statement member => ?_⟩
  have faithful := faithful_of_parse read statement member
  exact ⟨faithful, (reads_back statement).mpr faithful⟩

end Query

end FileQuery
