import FileQuery.Query

/-!
# The grammar of queries

A grammar says which sequences of tokens are sentences and what they stand for. It is given by
relations between tokens and what is read from them, and not by the readers: each rule puts the
tokens of its parts one after another. AND and OR have one level of precedence and join from left
to right.

A sequence of tokens is open when it can be extended to a sentence.
-/

namespace FileQuery.Grammar

open Query (unquote)

/-- One token of the given kinds. -/
def IsOne (kinds : List TokenKind) (tokens : List Token) (token : Token) : Prop :=
  tokens = [token] ∧ token.kind ∈ kinds

/-- A quoted string, which stands for the characters between its quotes. -/
inductive IsString : List Token → String → Prop
  | token {token : Token} (quoted : token.kind = .string) :
    IsString [token] (unquote token.lexeme)

/-- A token of the given kinds that stands for an operator. -/
inductive IsOperator (kinds : List TokenKind) : List Token → Operator → Prop
  | token {token : Token} {operator : Operator} (listed : token.kind ∈ kinds)
    (means : token.kind.operator? = some operator) : IsOperator kinds [token] operator

/-- A quoted property, an operator and a quoted value. -/
inductive IsComparison : List Token → Condition → Prop
  | mk {left sign right : List Token} {name value : String} {operator : Operator}
    (property : IsString left name)
    (compares : IsOperator TokenKind.comparisonOperators sign operator)
    (literal : IsString right value) :
    IsComparison (left ++ (sign ++ right)) (.binary operator (.literal name) (.literal value))

/-- Comparisons joined by AND and OR. What is joined last is the outermost. -/
inductive IsCondition : List Token → Condition → Prop
  | comparison {tokens : List Token} {condition : Condition}
    (compares : IsComparison tokens condition) : IsCondition tokens condition
  | joined {before word after : List Token} {left right : Condition} {operator : Operator}
    (first : IsCondition before left)
    (joins : IsOperator TokenKind.logicalOperators word operator)
    (last : IsComparison after right) :
    IsCondition (before ++ (word ++ after)) (.binary operator left right)

/-- A WHERE clause, or nothing. -/
inductive IsWhereClause : List Token → Option Condition → Prop
  | absent : IsWhereClause [] none
  | present {word : Token} {tokens : List Token} {condition : Condition}
    (begins : word.kind = .condition) (holds : IsCondition tokens condition) :
    IsWhereClause (word :: tokens) (some condition)

/-- A target, a FROM clause and a WHERE clause after a keyword. -/
inductive IsSelection (keyword : TokenKind) : List Token → Selection → Prop
  | mk {first word : Token} {target source filter : List Token} {name folder : String}
    {condition : Option Condition} (begins : first.kind = keyword) (selects : IsString target name)
    (preposition : word.kind = .source) (located : IsString source folder)
    (filters : IsWhereClause filter condition) :
    IsSelection keyword (first :: (target ++ word :: (source ++ filter)))
      ⟨name, folder, condition⟩

/-- What a keyword makes of the shared clauses, if no TO clause comes after them. -/
def plain? : TokenKind → Option (Selection → Statement)
  | .select => some .select
  | .delete => some .delete
  | _ => none

/-- What a keyword makes of the shared clauses and the TO clause after them. -/
def transfer? : TokenKind → Option (Selection → String → Statement)
  | .move => some .move
  | .copy => some .copy
  | .archive => some .archive
  | .unarchive => some .unarchive
  | .convert => some .convert
  | _ => none

/-- A statement, with a TO clause if its keyword wants one. -/
inductive IsStatement : List Token → Statement → Prop
  | plain {keyword : TokenKind} {make : Selection → Statement} {tokens : List Token}
    {selection : Selection} (makes : plain? keyword = some make)
    (selects : IsSelection keyword tokens selection) : IsStatement tokens (make selection)
  | transfer {keyword : TokenKind} {make : Selection → String → Statement} {word : Token}
    {tokens goal : List Token} {selection : Selection} {destination : String}
    (makes : transfer? keyword = some make) (selects : IsSelection keyword tokens selection)
    (preposition : word.kind = .destination) (located : IsString goal destination) :
    IsStatement (tokens ++ word :: goal) (make selection destination)

/-- Statements and semicolons in any order: the sentences of the grammar. -/
inductive IsQuery : List Token → List Statement → Prop
  | empty : IsQuery [] []
  | semicolon {token : Token} {rest : List Token} {statements : List Statement}
    (separates : token.kind = .semicolon) (later : IsQuery rest statements) :
    IsQuery (token :: rest) statements
  | statement {first rest : List Token} {statement : Statement} {statements : List Statement}
    (stands : IsStatement first statement) (later : IsQuery rest statements) :
    IsQuery (first ++ rest) (statement :: statements)

/-- Tokens with which something in a language begins. -/
def Open {α : Type} (language : List Token → α → Prop) (tokens : List Token) : Prop :=
  ∃ more value, language (tokens ++ more) value

/-- The beginnings of sentences. -/
def Viable (tokens : List Token) : Prop := Open IsQuery tokens

/-- What a beginning begins with is a beginning too. -/
theorem Open.of_prefix {α : Type} {language : List Token → α → Prop} {start tokens : List Token}
    (continues : Open language tokens) (begins : start <+: tokens) : Open language start := by
  obtain ⟨more, value, member⟩ := continues
  obtain ⟨rest, rfl⟩ := begins
  exact ⟨rest ++ more, value, by simpa using member⟩

/-- The shared clauses begin with the keyword. -/
theorem IsSelection.head_kind {keyword : TokenKind} {tokens : List Token} {selection : Selection}
    (selects : IsSelection keyword tokens selection) :
    ∃ first rest, tokens = first :: rest ∧ first.kind = keyword := by
  obtain ⟨begins, -, -, -, -⟩ := selects
  exact ⟨_, _, rfl, begins⟩

/-- A statement begins with a keyword that makes one. -/
theorem IsStatement.head_kind {tokens : List Token} {statement : Statement}
    (stands : IsStatement tokens statement) :
    ∃ first rest, tokens = first :: rest ∧
      first.kind ∈ TokenKind.statementStarts ∧ first.kind ≠ .semicolon := by
  cases stands with
  | @plain keyword _ _ _ makes selects =>
    obtain ⟨first, rest, rfl, rfl⟩ := selects.head_kind
    refine ⟨first, rest, rfl, ?_⟩
    cases kind : first.kind <;> simp_all [plain?, TokenKind.statementStarts]
  | @transfer keyword _ word _ goal _ _ makes selects =>
    obtain ⟨first, rest, rfl, rfl⟩ := selects.head_kind
    refine ⟨first, rest ++ word :: goal, rfl, ?_⟩
    cases kind : first.kind <;> simp_all [transfer?, TokenKind.statementStarts]

/-- A query is empty or begins with a statement or a semicolon. -/
theorem IsQuery.head_kind {tokens : List Token} {statements : List Statement}
    (sentence : IsQuery tokens statements) :
    ∀ first ∈ tokens.head?, first.kind ∈ TokenKind.statementStarts := by
  intro first shown
  cases sentence with
  | empty => simp at shown
  | semicolon separates later =>
    obtain rfl := Option.some.inj shown
    simp [separates, TokenKind.statementStarts]
  | statement stands later =>
    obtain ⟨token, rest, rfl, listed, -⟩ := stands.head_kind
    obtain rfl := Option.some.inj shown
    exact listed

/-- A sequence that can begin a query does not go on with what a WHERE clause would take. -/
theorem IsQuery.stops {tokens : List Token} {found : List Statement}
    (sentence : IsQuery tokens found) :
    ∀ first ∈ tokens.head?, first.kind ∉ [TokenKind.condition, .and, .or] := by
  intro first shown listed
  have starts := sentence.head_kind first shown
  simp only [List.mem_cons, List.not_mem_nil, or_false] at listed
  rcases listed with kind | kind | kind <;> simp [kind, TokenKind.statementStarts] at starts

end FileQuery.Grammar
