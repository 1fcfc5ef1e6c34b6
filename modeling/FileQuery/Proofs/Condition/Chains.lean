import FileQuery.Proofs.Condition.Checking
import FileQuery.Proofs.Query.RoundTrip

/-!
# What a WHERE clause means

A WHERE clause is a chain: comparisons with AND or OR between each two of them. The chain is given
as it is written, as a list and not as a tree. Its value is gathered from left to right, whatever
the words between the comparisons are, and its fault is that of the leftmost comparison that is
faulty alone. A comparison after one that already decides the value counts all the same.
-/

namespace FileQuery

/-- A word between two comparisons. -/
inductive Connective
  | and | or
  deriving DecidableEq, Repr

namespace Connective

/-- The operator of a word. -/
def operator : Connective → Operator
  | and => .and
  | or => .or

/-- What a word makes of the values on both sides of it. -/
def apply : Connective → Bool → Bool → Bool
  | and => Bool.and
  | or => Bool.or

@[simp] theorem operator_isLogical (connective : Connective) :
    connective.operator.isLogical = true := by
  cases connective <;> rfl

/-- All operators that join conditions are words. -/
theorem exists_operator {operator : Operator} (joins : operator.isLogical = true) :
    ∃ connective : Connective, connective.operator = operator := by
  cases operator with
  | and => exact ⟨.and, rfl⟩
  | or => exact ⟨.or, rfl⟩
  | _ => contradiction

end Connective

/-- A property and a value as they are written, and an operator that compares them. -/
structure Comparison where
  property : String
  operator : Operator
  value : String
  compares : operator.isLogical = false

namespace Comparison

/-- The condition that a comparison is alone. -/
def condition (comparison : Comparison) : Condition :=
  .binary comparison.operator (.literal comparison.property) (.literal comparison.value)

/-- A comparison as it is written. -/
def text (comparison : Comparison) : String :=
  quoted comparison.property ++ " " ++ comparison.operator.text ++ " " ++ quoted comparison.value

/-- Three tokens that spell a comparison, whatever quotes and blanks they are written with. -/
inductive Spelled (comparison : Comparison) : List Token → Prop
  | mk {left sign right : Token} (names : left.kind = .string)
    (property : Query.unquote left.lexeme = comparison.property)
    (operator : sign.kind.operator? = some comparison.operator) (quotes : right.kind = .string)
    (value : Query.unquote right.lexeme = comparison.value) : Spelled comparison [left, sign, right]

/-- What a comparison comes to for a file, if no other stands beside it. -/
def alone (path : String) (attributes : Attributes) (comparison : Comparison) :
    Except ConditionError Bool :=
  comparison.condition.evaluate path attributes

end Comparison

/-- A condition with comparisons joined to it. What is joined last is the outermost. -/
def Condition.joinAll (left : Condition) (joined : List (Connective × Comparison)) : Condition :=
  joined.foldl (fun before joint => .binary joint.1.operator before joint.2.condition) left

/-- Comparisons with a word between each two of them. -/
structure Chain where
  first : Comparison
  joined : List (Connective × Comparison)

namespace Chain

/-- The comparisons of a chain from left to right. -/
def comparisons (chain : Chain) : List Comparison := chain.first :: chain.joined.map Prod.snd

/-- A text with words and the comparisons after them. -/
def writeAll (before : String) (joined : List (Connective × Comparison)) : String :=
  joined.foldl
    (fun before joint => before ++ " " ++ joint.1.operator.text ++ " " ++ joint.2.text) before

/-- A chain as it is written. -/
def text (chain : Chain) : String := writeAll chain.first.text chain.joined

/-- The tree of a chain. -/
def condition (chain : Chain) : Condition := chain.first.condition.joinAll chain.joined

/-- A value to which the values of comparisons are joined from left to right. -/
def accumulateAll (value : Comparison → Bool) (before : Bool)
    (joined : List (Connective × Comparison)) : Bool :=
  joined.foldl (fun before joint => joint.1.apply before (value joint.2)) before

/-- The value of a chain, gathered from left to right from the values of its comparisons. -/
def accumulate (value : Comparison → Bool) (chain : Chain) : Bool :=
  accumulateAll value (value chain.first) chain.joined

/-- Tokens that spell words and the comparisons after them. -/
inductive SpelledAfter : List (Connective × Comparison) → List Token → Prop
  | nil : SpelledAfter [] []
  | cons {connective : Connective} {comparison : Comparison} {word : Token}
    {tokens more : List Token} {rest : List (Connective × Comparison)}
    (joins : word.kind.operator? = some connective.operator) (first : comparison.Spelled tokens)
    (later : SpelledAfter rest more) :
    SpelledAfter ((connective, comparison) :: rest) ([word] ++ tokens ++ more)

/-- Tokens that spell a chain. -/
inductive Spelled (chain : Chain) : List Token → Prop
  | mk {before after : List Token} (first : chain.first.Spelled before)
    (later : SpelledAfter chain.joined after) : Spelled chain (before ++ after)

/-- A result is what a chain means if it is the fault of the leftmost comparison that is faulty
    alone, and if there is none, the value gathered from left to right. -/
structure Means (chain : Chain) (alone : Comparison → Except ConditionError Bool)
    (result : Except ConditionError Bool) : Prop where
  fault : ∀ before comparison after error, chain.comparisons = before ++ comparison :: after →
    (∀ earlier ∈ before, ∃ value, alone earlier = .ok value) →
    alone comparison = .error error → result = .error error
  value : ∀ value : Comparison → Bool,
    (∀ comparison ∈ chain.comparisons, alone comparison = .ok (value comparison)) →
    result = .ok (chain.accumulate value)

end Chain

/-! ## Trees of chains -/

namespace Condition

@[simp] theorem joinAll_nil (left : Condition) : left.joinAll [] = left := rfl

@[simp] theorem joinAll_cons (left : Condition) (joint : Connective × Comparison)
    (rest : List (Connective × Comparison)) :
    left.joinAll (joint :: rest) =
      (binary joint.1.operator left joint.2.condition).joinAll rest := rfl

variable (left : Condition) (joined : List (Connective × Comparison))

/-- A condition with comparisons joined to it has its own comparisons and then theirs. -/
theorem comparisons_joinAll :
    (left.joinAll joined).comparisons = left.comparisons ++ joined.map fun joint =>
      (joint.2.operator, literal joint.2.property, literal joint.2.value) := by
  induction joined generalizing left with
  | nil => simp
  | cons joint rest inductionHypothesis =>
    rw [joinAll_cons, inductionHypothesis, comparisons]
    simp [Comparison.condition, comparisons, joint.2.compares]

variable {left}

/-- To join comparisons from the right leaves a chain a chain. -/
theorem IsChain.joinAll (chained : left.IsChain) : (left.joinAll joined).IsChain := by
  induction joined generalizing left with
  | nil => exact chained
  | cons joint rest inductionHypothesis =>
    have last : joint.2.condition.IsComparison := .mk _ _ joint.2.compares
    exact inductionHypothesis (.joined (Connective.operator_isLogical _) chained last)

/-- What is joined to a condition is written after it. -/
theorem text_joinAll {before : String} (written : left.text = before) :
    (left.joinAll joined).text = Chain.writeAll before joined := by
  induction joined generalizing left before with
  | nil => exact written
  | cons joint rest inductionHypothesis =>
    have writtenLonger : (binary joint.1.operator left joint.2.condition).text =
        before ++ " " ++ joint.1.operator.text ++ " " ++ joint.2.text := by
      rw [text, written]
      rfl
    exact inductionHypothesis writtenLonger

/-- The literals of a condition with comparisons joined to it are its own and theirs. -/
theorem mem_literals_joinAll {value : String} (member : value ∈ (left.joinAll joined).literals) :
    value ∈ left.literals ∨ ∃ joint ∈ joined, value ∈ joint.2.condition.literals := by
  induction joined generalizing left with
  | nil => exact .inl member
  | cons joint rest inductionHypothesis =>
    rcases inductionHypothesis member with here | ⟨later, present, found⟩
    · rcases List.mem_append.mp here with before | last
      · exact .inl before
      · exact .inr ⟨joint, List.mem_cons_self, last⟩
    · exact .inr ⟨later, List.mem_cons_of_mem _ present, found⟩

end Condition

namespace Chain

theorem comparisons_condition (chain : Chain) :
    chain.condition.comparisons = chain.comparisons.map fun comparison =>
      (comparison.operator, .literal comparison.property, .literal comparison.value) := by
  rw [condition, Condition.comparisons_joinAll, comparisons]
  simp [Comparison.condition, Condition.comparisons, chain.first.compares]

/-- The tree of a chain joins its comparisons from left to right. -/
theorem isChain_condition (chain : Chain) : chain.condition.IsChain :=
  .joinAll chain.joined (.comparison (.mk _ _ chain.first.compares))

/-- One more comparison can be joined to a chain. -/
theorem condition_concat (chain : Chain) (connective : Connective) (comparison : Comparison) :
    (Chain.mk chain.first (chain.joined ++ [(connective, comparison)])).condition =
      .binary connective.operator chain.condition comparison.condition := by
  simp [condition, Condition.joinAll]

/-- A condition that joins comparisons from left to right is the tree of a chain. -/
theorem exists_of_isChain {condition : Condition} (chained : condition.IsChain) :
    ∃ chain : Chain, chain.condition = condition := by
  induction chained with
  | comparison compares =>
    obtain ⟨name, value, compares⟩ := compares
    exact ⟨⟨⟨name, _, value, compares⟩, []⟩, rfl⟩
  | joined joins first last inductionHypothesis =>
    obtain ⟨chain, rfl⟩ := inductionHypothesis
    obtain ⟨name, value, compares⟩ := last
    obtain ⟨connective, rfl⟩ := Connective.exists_operator joins
    exact ⟨_, chain.condition_concat connective ⟨name, _, value, compares⟩⟩

/-- Each condition of a query is the tree of a chain. -/
theorem exists_of_parse {text : String} {statements : List Statement}
    (read : Query.parse text = .ok statements) :
    ∀ statement ∈ statements, ∀ condition ∈ statement.selection.condition,
      ∃ chain : Chain, chain.condition = condition := by
  intro statement member condition present
  have faithful := Query.faithful_of_parse read statement member
  exact exists_of_isChain (faithful.chained condition present)

/-- A chain and its tree are written alike. -/
theorem text_condition (chain : Chain) : chain.condition.text = chain.text :=
  Condition.text_joinAll chain.joined rfl

/-- The literals of the tree of a chain are those of its comparisons. -/
theorem mem_literals_condition {chain : Chain} {value : String}
    (member : value ∈ chain.condition.literals) :
    ∃ comparison ∈ chain.comparisons, value = comparison.property ∨ value = comparison.value := by
  have literals (comparison : Comparison) : value ∈ comparison.condition.literals ↔
      value = comparison.property ∨ value = comparison.value := by
    simp [Comparison.condition, Condition.literals]
  rcases Condition.mem_literals_joinAll chain.joined member with here | ⟨joint, present, found⟩
  · exact ⟨chain.first, List.mem_cons_self, (literals _).mp here⟩
  · have member := List.mem_map_of_mem (f := Prod.snd) present
    exact ⟨joint.2, List.mem_cons_of_mem _ member, (literals _).mp found⟩

end Chain

/-! ## What the tree of a chain comes to -/

namespace Chain

variable {path : String} {attributes : Attributes}

/-- A comparison of a property with a value compares them. -/
theorem alone_text (property : Property) {operator : Operator} (value : String)
    (compares : operator.isLogical = false) :
    Comparison.alone path attributes ⟨property.text, operator, value, compares⟩ =
      Condition.compare operator property value attributes := by
  rw [Comparison.alone, Comparison.condition, Condition.evaluate, compares,
    Condition.operands, Property.ofText?_text]
  rfl

/-- The fault of a comparison in a tree is its fault alone. -/
theorem evaluatedFault_comparison (comparison : Comparison) :
    Condition.evaluatedFault attributes
      (comparison.operator, .literal comparison.property, .literal comparison.value) =
      faultOf (comparison.alone path attributes) := by
  rw [Comparison.alone, Comparison.condition, Condition.evaluate, comparison.compares]
  rfl

/-- The tree of a chain has the fault of the leftmost comparison that is faulty alone. -/
theorem faultOf_condition (chain : Chain) :
    faultOf (chain.condition.evaluate path attributes) =
      chain.comparisons.findSome? fun comparison =>
        faultOf (comparison.alone path attributes) := by
  rw [Condition.faultOf_evaluate, comparisons_condition, List.findSome?_map]
  congr 1
  funext comparison
  exact evaluatedFault_comparison comparison

theorem findSome?_faultOf_of_split {alone : Comparison → Except ConditionError Bool}
    {before after : List Comparison} {comparison : Comparison} {error : ConditionError}
    (sound : ∀ earlier ∈ before, ∃ value, alone earlier = .ok value)
    (fails : alone comparison = .error error) :
    (before ++ comparison :: after).findSome? (fun comparison => faultOf (alone comparison)) =
      some error := by
  have unfaulty : before.findSome? (fun comparison => faultOf (alone comparison)) = none := by
    refine List.findSome?_eq_none_iff.mpr fun earlier member => ?_
    obtain ⟨value, holds⟩ := sound earlier member
    rw [holds]
    rfl
  rw [List.findSome?_append, unfaulty, List.findSome?_cons, fails]
  rfl

/-- Where both sides of a word have a value, the word is applied to the two values. -/
theorem evaluate_joint {connective : Connective} {left right : Condition} {first second : Bool}
    (holdsLeft : left.evaluate path attributes = .ok first)
    (holdsRight : right.evaluate path attributes = .ok second) :
    (Condition.binary connective.operator left right).evaluate path attributes =
      .ok (connective.apply first second) := by
  rw [Condition.evaluate, if_pos (Connective.operator_isLogical connective), holdsLeft, holdsRight]
  cases connective <;> rfl

/-- Comparisons that are joined to a condition are gathered after its value. -/
theorem evaluate_joined {value : Comparison → Bool} {left : Condition} {before : Bool}
    (joined : List (Connective × Comparison))
    (holds : left.evaluate path attributes = .ok before)
    (later : ∀ joint ∈ joined, joint.2.alone path attributes = .ok (value joint.2)) :
    (left.joinAll joined).evaluate path attributes =
      .ok (accumulateAll value before joined) := by
  induction joined generalizing left before with
  | nil => exact holds
  | cons joint rest inductionHypothesis =>
    have last := later joint List.mem_cons_self
    exact inductionHypothesis (evaluate_joint holds last)
      fun other member => later other (List.mem_cons_of_mem _ member)

/-- The evaluation of the tree of a chain is what the chain means. -/
theorem means_condition (chain : Chain) :
    chain.Means (Comparison.alone path attributes) (chain.condition.evaluate path attributes) where
  fault := by
    intro before comparison after error split sound fails
    rw [← faultOf_eq_some, faultOf_condition, split]
    exact findSome?_faultOf_of_split sound fails
  value := by
    intro value holds
    refine evaluate_joined chain.joined (holds chain.first List.mem_cons_self) ?_
    intro joint member
    exact holds joint.2 (List.mem_cons_of_mem _ (List.mem_map_of_mem member))

end Chain

/-! ## Chains that are read -/

namespace Chain

open Grammar

/-- A token that stands for a comparing operator is of a comparing kind. -/
theorem isOperator_comparison {token : Token} {operator : Operator}
    (means : token.kind.operator? = some operator) (compares : operator.isLogical = false) :
    IsOperator TokenKind.comparisonOperators [token] operator := by
  refine .token ?_ means
  cases kind : token.kind <;> simp only [kind, TokenKind.operator?] at means
  case and | or => simp_all [Operator.isLogical, ← Option.some.inj means]
  all_goals first | contradiction | decide

/-- A token that stands for a word is of a joining kind. -/
theorem isOperator_connective {token : Token} {connective : Connective}
    (means : token.kind.operator? = some connective.operator) :
    IsOperator TokenKind.logicalOperators [token] connective.operator := by
  refine .token ?_ means
  cases kind : token.kind <;> cases connective <;>
    simp_all [TokenKind.operator?, Connective.operator] <;> decide

theorem isComparison_of_spelled {comparison : Comparison} {tokens : List Token}
    (spelled : comparison.Spelled tokens) : IsComparison tokens comparison.condition := by
  obtain ⟨names, property, operator, quotes, value⟩ := spelled
  rw [Comparison.condition, ← property, ← value]
  exact .mk (.token names) (isOperator_comparison operator comparison.compares) (.token quotes)

/-- What is spelled after a condition is joined to it. -/
theorem isCondition_joined {joined : List (Connective × Comparison)} {after : List Token}
    (later : SpelledAfter joined after) {before : List Token} {left : Condition}
    (first : IsCondition before left) :
    IsCondition (before ++ after) (left.joinAll joined) := by
  induction later generalizing before left with
  | nil => simpa using first
  | @cons connective comparison word tokens more rest joins spelled later inductionHypothesis =>
    have longer := first.joined (isOperator_connective joins) (isComparison_of_spelled spelled)
    simpa using inductionHypothesis longer

/-- Tokens that spell a chain are read as its tree. -/
theorem isCondition_of_spelled {chain : Chain} {tokens : List Token}
    (spelled : chain.Spelled tokens) : IsCondition tokens chain.condition := by
  obtain ⟨first, later⟩ := spelled
  exact isCondition_joined later (.comparison (isComparison_of_spelled first))

/-- The tokens of a statement whose WHERE clause has the given tokens. -/
inductive Filters (condition : List Token) : List Token → Prop
  | plain {first target preposition source word : Token}
    (begins : first.kind ∈ [.select, .delete]) (selects : target.kind = .string)
    (leads : preposition.kind = .source) (located : source.kind = .string)
    (filters : word.kind = .condition) :
    Filters condition ([first, target, preposition, source, word] ++ condition)
  | transfer {first target preposition source word : Token} {towards goal : Token}
    (begins : first.kind ∈ [.move, .copy, .archive, .unarchive, .convert])
    (selects : target.kind = .string) (leads : preposition.kind = .source)
    (located : source.kind = .string) (filters : word.kind = .condition)
    (ends : towards.kind = .destination) (placed : goal.kind = .string) :
    Filters condition ([first, target, preposition, source, word] ++ condition ++ [towards, goal])

/-- The clauses before and in a WHERE clause are read as a selection with its condition. -/
theorem isSelection_of_spelled {chain : Chain} {tokens : List Token}
    (spelled : chain.Spelled tokens) (first : Token) {target preposition source word : Token}
    (selects : target.kind = .string) (leads : preposition.kind = .source)
    (located : source.kind = .string) (filters : word.kind = .condition) :
    IsSelection first.kind ([first, target, preposition, source, word] ++ tokens)
      ⟨Query.unquote target.lexeme, Query.unquote source.lexeme, some chain.condition⟩ := by
  have clause : IsWhereClause (word :: tokens) (some chain.condition) :=
    .present filters (isCondition_of_spelled spelled)
  have name : IsString [target] (Query.unquote target.lexeme) := .token selects
  have folder : IsString [source] (Query.unquote source.lexeme) := .token located
  have selection : IsSelection first.kind
      (first :: ([target] ++ preposition :: ([source] ++ word :: tokens))) _ :=
    .mk rfl name leads folder clause
  exact selection

/-- A statement whose WHERE clause spells a chain is read with the tree of the chain. -/
theorem exists_isStatement {chain : Chain} {tokens all : List Token}
    (spelled : chain.Spelled tokens) (filters : Filters tokens all) :
    ∃ statement, IsStatement all statement ∧
      statement.selection.condition = some chain.condition := by
  cases filters with
  | @plain first target preposition source word begins selects leads located filters =>
    have selection := isSelection_of_spelled spelled first selects leads located filters
    obtain ⟨make, makes, keeps⟩ : ∃ make, plain? first.kind = some make ∧
        ∀ selection, (make selection).selection = selection := by
      simp only [List.mem_cons, List.not_mem_nil, or_false] at begins
      rcases begins with kind | kind <;> rw [kind] <;> exact ⟨_, rfl, fun _ => rfl⟩
    exact ⟨make _, .plain makes selection, by rw [keeps]⟩
  | @transfer first target preposition source word towards goal begins selects leads located
      filters ends placed =>
    have selection := isSelection_of_spelled spelled first selects leads located filters
    obtain ⟨make, makes, keeps⟩ : ∃ make, transfer? first.kind = some make ∧
        ∀ selection destination, (make selection destination).selection = selection := by
      simp only [List.mem_cons, List.not_mem_nil, or_false] at begins
      rcases begins with kind | kind | kind | kind | kind <;> rw [kind] <;>
        exact ⟨_, rfl, fun _ _ => rfl⟩
    exact ⟨make _ _, .transfer makes selection ends (.token placed), by rw [keeps]⟩

/-- A text whose only statement has a WHERE clause that spells a chain is read with its tree. -/
theorem parse_spelled {chain : Chain} {tokens all : List Token} {text : String}
    (spelled : chain.Spelled tokens) (filters : Filters tokens all)
    (scanned : Scan.ofText text = ⟨all, none⟩) :
    ∃ statement, Query.parse text = .ok [statement] ∧
      statement.selection.condition = some chain.condition := by
  obtain ⟨statement, stands, present⟩ := exists_isStatement spelled filters
  have sentence : IsQuery all [statement] := by
    simpa using IsQuery.statement stands .empty
  have settled : (Scan.ofText text).Settled := by
    rw [scanned]
    exact fun _ => rfl
  refine ⟨statement, ?_, present⟩
  rw [Query.parse, Parser.parse_of_settled Parser.fresh settled, scanned,
    Query.statements_accepts sentence]

/-- A chain that is written after a selection is read as its tree. -/
theorem parse_written {chain : Chain} {target source : String} (selects : Quotable target)
    (located : Quotable source)
    (quotable : ∀ comparison ∈ chain.comparisons,
      Quotable comparison.property ∧ Quotable comparison.value) :
    Query.parse ("SELECT " ++ quoted target ++ " FROM " ++ quoted source ++
      " WHERE " ++ chain.text) = .ok [.select ⟨target, source, some chain.condition⟩] := by
  let statement : Statement := .select ⟨target, source, some chain.condition⟩
  have faithful : statement.Faithful := by
    refine faithful_of_clauses ⟨selects, located, ?_⟩ (by simp [statement, Statement.destination?])
    rintro condition ⟨⟩
    refine ⟨chain.isChain_condition, fun literal member => ?_⟩
    obtain ⟨comparison, present, rfl | rfl⟩ := mem_literals_condition member
    · exact (quotable comparison present).1
    · exact (quotable comparison present).2
  have written : statement.text = "SELECT " ++ quoted target ++ " FROM " ++ quoted source ++
      " WHERE " ++ chain.text := by
    rw [← chain.text_condition]
    simp [statement, Statement.text, Statement.keyword, Statement.operation, Operation.keyword,
      Statement.selection, Statement.destination?, Statement.filterText, Statement.goalText,
      String.append_assoc]
  rw [← written]
  exact Query.parse_text faithful

/-- A WHERE clause that spells a chain, in a statement of any kind and however it is spelled, is
    read as the tree of the chain. For any path and any file the tree comes to the fault of the
    leftmost comparison that is faulty alone, and if there is none to the value gathered from left
    to right: AND takes no precedence over OR, and no operand is left out. -/
theorem parse_evaluates (chain : Chain) :
    (∀ tokens all text, chain.Spelled tokens → Filters tokens all →
      Scan.ofText text = ⟨all, none⟩ →
      ∃ statement, Query.parse text = .ok [statement] ∧
        statement.selection.condition = some chain.condition) ∧
    (∀ target source, Quotable target → Quotable source →
      (∀ comparison ∈ chain.comparisons,
        Quotable comparison.property ∧ Quotable comparison.value) →
      Query.parse ("SELECT " ++ quoted target ++ " FROM " ++ quoted source ++
        " WHERE " ++ chain.text) = .ok [.select ⟨target, source, some chain.condition⟩]) ∧
    ∀ path attributes,
      chain.Means (Comparison.alone path attributes)
        (chain.condition.evaluate path attributes) :=
  ⟨fun _ _ _ spelled filters scanned => parse_spelled spelled filters scanned,
    fun _ _ selects located quotable => parse_written selects located quotable,
    fun _ _ => chain.means_condition⟩

/-- In `true OR true AND false` the part before AND counts as a whole. -/
theorem parse_evaluates_leftmost :
    ∃ condition, Query.parse ("SELECT 'files' FROM 'in' WHERE 'created' < '2021-01-01' " ++
        "OR 'modified' < '2021-01-01' AND 'accessed' > '2021-01-01'") =
        .ok [.select ⟨"files", "in", some condition⟩] ∧
      condition.evaluate "in/a" ⟨"a", "", 5, none, .epoch, .epoch, .epoch⟩ = .ok false := by
  let before (property : Property) : Comparison := ⟨property.text, .less, "2021-01-01", rfl⟩
  let after (property : Property) : Comparison := ⟨property.text, .greater, "2021-01-01", rfl⟩
  let chain : Chain := ⟨before .created, [(.or, before .modified), (.and, after .accessed)]⟩
  obtain ⟨-, written, means⟩ := parse_evaluates chain
  refine ⟨chain.condition, ?_, ?_⟩
  · have quotable : ∀ comparison ∈ chain.comparisons,
        Quotable comparison.property ∧ Quotable comparison.value := by
      simp [chain, before, after, comparisons, Quotable, Property.text]
    have read := written "files" "in" (by simp [Quotable]) (by simp [Quotable]) quotable
    simpa [chain, before, after, text, writeAll, Comparison.text, quoted, Connective.operator,
      Operator.text, Property.text] using read
  · refine (means _ _).value (fun comparison => comparison.operator == .less) ?_
    intro comparison member
    simp only [chain, comparisons, List.map_cons, List.map_nil, List.mem_cons, List.not_mem_nil,
      or_false] at member
    rcases member with rfl | rfl | rfl <;> exact alone_text _ _ rfl

end Chain

end FileQuery
