import FileQuery.Proofs.Query.Reading

/-!
# What the readers of a query read

Each reader reads the language that the grammar gives to it. The two loops, over what AND and OR
join and over statements, go by induction: on the grammar for what they take, and on the run for
what becomes of any scan.
-/

namespace FileQuery.Query

open Grammar

/-! ### One token -/

theorem take_listed {expected : List TokenKind} {token : Token} {rest : List Token}
    {failure : Option UnexpectedInput} (listed : token.kind ∈ expected)
    (goesOn : rest = [] → failure = none) :
    take expected (⟨token :: rest, failure⟩ : Scan) = (.ok token, ⟨rest, failure⟩) := by
  simp [take, listed, Scan.leave_cons goesOn]

theorem take_last {expected : List TokenKind} {token : Token} (failure : UnexpectedInput)
    (listed : token.kind ∈ expected) :
    take expected (⟨[token], some failure⟩ : Scan) =
      (.error (.unexpectedInput failure), ⟨[token], some failure⟩) := by
  simp [take, listed, Scan.leave]

theorem take_unlisted {expected : List TokenKind} {token : Token} (rest : List Token)
    (failure : Option UnexpectedInput) (unlisted : token.kind ∉ expected) :
    take expected (⟨token :: rest, failure⟩ : Scan) =
      (.error (.unexpectedToken expected token.lexeme), ⟨token :: rest, failure⟩) := by
  simp [take, unlisted]

/-- Taking a token reads one token. -/
theorem take_reads {expected : List TokenKind} (some_listed : expected ≠ []) :
    Reads [] (IsOne expected) (take expected) where
  accepts := by
    rintro used rest failure token ⟨rfl, listed⟩ _ goesOn
    exact take_listed listed goesOn
  accepted := by
    rintro ⟨tokens, failure⟩ after token read settled
    cases tokens with
    | nil => simp [take, TokenSource.next?] at read
    | cons first rest =>
      by_cases listed : first.kind ∈ expected
      · by_cases goesOn : rest = [] → failure = none
        · rw [take_listed listed goesOn] at read
          obtain ⟨same, rfl⟩ := Prod.mk.inj read
          obtain rfl := Except.ok.inj same
          exact ⟨[first], rfl, ⟨rfl, listed⟩, goesOn, fun _ _ _ goesOn => take_listed listed goesOn⟩
        · obtain ⟨rfl, fails⟩ := Classical.not_imp.mp goesOn
          obtain ⟨found, rfl⟩ := Option.ne_none_iff_exists'.mp fails
          simp [take_last found listed] at read
      · simp [take_unlisted rest failure listed] at read
  refused := by
    have opens : ∃ token : Token, token.kind ∈ expected := by
      obtain ⟨kind, listed⟩ := List.exists_mem_of_ne_nil expected some_listed
      exact ⟨⟨kind, ""⟩, listed⟩
    obtain ⟨wanted, wantedListed⟩ := opens
    rintro ⟨tokens, failure⟩ after error read settled
    cases tokens with
    | nil =>
      obtain ⟨same, -⟩ := Prod.mk.inj read
      obtain rfl := Except.error.inj same
      exact .ending (settled rfl) ⟨[wanted], wanted, rfl, wantedListed⟩
    | cons first rest =>
      by_cases listed : first.kind ∈ expected
      · by_cases goesOn : rest = [] → failure = none
        · simp [take_listed listed goesOn] at read
        · obtain ⟨rfl, fails⟩ := Classical.not_imp.mp goesOn
          obtain ⟨found, rfl⟩ := Option.ne_none_iff_exists'.mp fails
          simp only [take_last found listed, Prod.mk.injEq, Except.error.injEq] at read
          obtain ⟨rfl, -⟩ := read
          exact .failing rfl ⟨[], first, rfl, listed⟩
      · simp only [take_unlisted rest failure listed, Prod.mk.injEq, Except.error.injEq] at read
        obtain ⟨rfl, -⟩ := read
        refine .token [] rest rfl ⟨[wanted], wanted, rfl, wantedListed⟩ ?_
        intro more failure
        simp [take_unlisted more failure listed]

theorem string_reads : Reads [] IsString string := by
  refine ((take_reads (by decide)).map fun token : Token => unquote token.lexeme).congr ?_
  intro tokens value
  constructor
  · rintro ⟨token, ⟨rfl, listed⟩, rfl⟩
    exact .token (by simpa using listed)
  · rintro ⟨quoted⟩
    exact ⟨_, ⟨rfl, by simpa using quoted⟩, rfl⟩

/-- Nothing stops a reader that never takes more than it needs. -/
theorem stops_nil (tokens : List Token) : Stops [] tokens := fun _ _ => List.not_mem_nil

/-- Reading nothing reads the empty sequence. -/
theorem pure_reads {α : Type} (value : α) :
    Reads [] (fun tokens found => tokens = [] ∧ found = value) (pure value) where
  accepts := by
    rintro used rest failure found ⟨rfl, rfl⟩ _ _
    rfl
  accepted := by
    intro scan after found read settled
    obtain ⟨same, rfl⟩ := Prod.mk.inj read
    obtain rfl := Except.ok.inj same
    exact ⟨[], rfl, ⟨rfl, rfl⟩, settled, fun _ _ _ _ => rfl⟩
  refused := by
    intro scan after error read settled
    simp [pure] at read

theorem operator_reads {kinds : List TokenKind} (some_listed : kinds ≠ [])
    (meaningful : ∀ kind ∈ kinds, kind.operator?.isSome) :
    Reads [] (IsOperator kinds) (operator kinds) := by
  have readsMeaning : ∀ token, (∃ tokens, IsOne kinds tokens token) →
      Reads [] (fun tokens operator => tokens = [] ∧ token.kind.operator? = some operator)
        (operatorOf kinds token) := by
    rintro token ⟨tokens, -, listed⟩
    obtain ⟨operator, means⟩ := Option.isSome_iff_exists.mp (meaningful token.kind listed)
    rw [operatorOf, means]
    refine (pure_reads operator).congr fun tokens found => ?_
    simp [eq_comm]
  refine ((take_reads some_listed).bind readsMeaning fun _ _ _ _ _ _ => stops_nil _).congr ?_
  intro tokens operator
  constructor
  · rintro ⟨before, after, token, rfl, ⟨rfl, listed⟩, rfl, means⟩
    exact .token listed means
  · rintro ⟨listed, means⟩
    exact ⟨_, [], _, rfl, ⟨rfl, listed⟩, rfl, means⟩

/-! ### Conditions -/

theorem comparison_reads : Reads [] IsComparison comparison := by
  have reads : Reads [] _ comparison :=
    string_reads.bind (fun name _ =>
      (operator_reads (by decide) (by decide)).bind (fun operator _ =>
        string_reads.map fun value => Condition.binary operator (.literal name) (.literal value))
        fun _ _ _ _ _ _ => stops_nil _)
      fun _ _ _ _ _ _ => stops_nil _
  refine reads.congr fun tokens condition => ?_
  constructor
  · rintro ⟨left, _, name, rfl, property, sign, right, operator, rfl, compares, value, literal, rfl⟩
    exact .mk property compares literal
  · rintro ⟨property, compares, literal⟩
    exact ⟨_, _, _, rfl, property, _, _, _, rfl, compares, _, literal, rfl⟩

/-- AND or OR and the comparison after it. -/
def IsContinuation (tokens : List Token) (joint : Operator × Condition) : Prop :=
  ∃ word after, tokens = word ++ after ∧
    IsOperator TokenKind.logicalOperators word joint.1 ∧ IsComparison after joint.2

theorem continuation_reads : Reads [] IsContinuation continuation := by
  have reads : Reads [] _ continuation :=
    (operator_reads (by decide) (by decide)).bind (fun operator _ =>
      comparison_reads.map fun right => (operator, right))
      fun _ _ _ _ _ _ => stops_nil _
  refine reads.congr fun tokens joint => ?_
  constructor
  · rintro ⟨word, after, operator, rfl, joins, right, compares, rfl⟩
    exact ⟨word, after, rfl, joins, compares⟩
  · rintro ⟨word, after, rfl, joins, compares⟩
    exact ⟨word, after, joint.1, rfl, joins, joint.2, compares, rfl⟩

/-! ### Looking ahead -/

theorem ahead_iff (kinds : List TokenKind) (scan : Scan) :
    ahead kinds scan = true ↔ ∃ token ∈ scan.tokens.head?, token.kind ∈ kinds := by
  rw [ahead, Scan.next?_eq]
  cases scan.tokens.head? <;> simp

/-- Where a reader is stopped, no token of the stopping kinds is ahead. -/
theorem ahead_of_stops {kinds : List TokenKind} {tokens : List Token}
    (stopped : Stops kinds tokens) (failure : Option UnexpectedInput) :
    ahead kinds (⟨tokens, failure⟩ : Scan) = false := by
  rw [← Bool.not_eq_true, ahead_iff]
  rintro ⟨token, shown, listed⟩
  exact stopped token shown listed

/-- Looking ahead sees the first token only. -/
theorem ahead_congr {kinds : List TokenKind} {scan other : Scan}
    (same : other.tokens.head? = scan.tokens.head?) : ahead kinds other = ahead kinds scan := by
  rw [Bool.eq_iff_iff, ahead_iff, ahead_iff, same]

/-! ### Joined conditions -/

/-- What AND and OR join to a condition, and the condition that comes of it. -/
inductive Joins : Condition → List Token → Condition → Prop
  | done {left : Condition} : Joins left [] left
  | joined {left right result : Condition} {operator : Operator} {before after : List Token}
    (joint : IsContinuation before (operator, right))
    (later : Joins (.binary operator left right) after result) :
    Joins left (before ++ after) result

/-- What AND or OR joins begins with it. -/
theorem IsContinuation.head_kind {tokens : List Token} {joint : Operator × Condition}
    (continues : IsContinuation tokens joint) :
    ∃ first rest, tokens = first :: rest ∧ first.kind ∈ TokenKind.logicalOperators := by
  obtain ⟨word, after, rfl, ⟨listed, -⟩, -⟩ := continues
  exact ⟨_, after, rfl, listed⟩

theorem ahead_continuation {tokens : List Token} {joint : Operator × Condition}
    (continues : IsContinuation tokens joint) (rest : List Token)
    (failure : Option UnexpectedInput) :
    ahead TokenKind.logicalOperators (⟨tokens ++ rest, failure⟩ : Scan) = true := by
  obtain ⟨first, more, rfl, listed⟩ := continues.head_kind
  exact (ahead_iff _ _).mpr ⟨first, rfl, listed⟩

/-- Where AND or OR is ahead, it is read with its comparison, and then what comes after. -/
theorem continuations_ahead {left : Condition} {scan : Scan}
    (shown : ahead TokenKind.logicalOperators scan = true) :
    continuations left scan =
      (continuation >>= fun joint => continuations (.binary joint.1 left joint.2)) scan := by
  rw [continuations, if_pos shown, bind_apply]
  split <;> rename_i read <;> simp [read]

theorem continuations_done {left : Condition} {scan : Scan}
    (done : ahead TokenKind.logicalOperators scan = false) :
    continuations left scan = (.ok left, scan) := by
  rw [continuations, if_neg (by simp [done])]

theorem continuations_accepts {left value : Condition} {used rest : List Token}
    {failure : Option UnexpectedInput} (joins : Joins left used value)
    (stopped : Stops TokenKind.logicalOperators rest) (goesOn : rest = [] → failure = none) :
    continuations left (⟨used ++ rest, failure⟩ : Scan) = (.ok value, ⟨rest, failure⟩) := by
  induction joins with
  | done => exact continuations_done (ahead_of_stops stopped failure)
  | @joined left right result operator before after joint later inductionHypothesis =>
    have goesOn' : after ++ rest = [] → failure = none := fun nothing =>
      goesOn (List.append_eq_nil_iff.mp nothing).2
    rw [List.append_assoc, continuations_ahead (ahead_continuation joint _ failure), bind_apply,
      continuation_reads.accepts joint (stops_nil _) goesOn']
    exact inductionHypothesis

theorem continuations_accepted {left value : Condition} {scan after : Scan}
    (read : continuations left scan = (.ok value, after)) (settled : scan.Settled) :
    ∃ used, scan = ⟨used ++ after.tokens, after.failure⟩ ∧ Joins left used value ∧
      after.Settled ∧
      ∀ more failure, more.head? = after.tokens.head? → (more = [] → failure = none) →
        continuations left (⟨used ++ more, failure⟩ : Scan) = (.ok value, ⟨more, failure⟩) := by
  fun_induction continuations left scan with
  | case1 => simp at read
  | case2 left scan _ operator right middle continued inductionHypothesis =>
    obtain ⟨before, split, joint, settled', leads⟩ := continuation_reads.accepted continued settled
    obtain ⟨used, split', joins, settled'', leads'⟩ := inductionHypothesis read settled'
    refine ⟨before ++ used, ?_, .joined joint joins, settled'', ?_⟩
    · rw [split, List.append_assoc]
      simp [congrArg Scan.tokens split', congrArg Scan.failure split']
    · intro more failure shown goesOn
      have shown' : (used ++ more).head? = middle.tokens.head? := by
        rw [congrArg Scan.tokens split', List.head?_append, List.head?_append, shown]
      have goesOn' : used ++ more = [] → failure = none := fun nothing =>
        goesOn (List.append_eq_nil_iff.mp nothing).2
      rw [List.append_assoc, continuations_ahead (ahead_continuation joint _ failure), bind_apply,
        leads (used ++ more) failure shown' goesOn']
      exact leads' more failure shown goesOn
  | case3 left scan done =>
    obtain ⟨same, rfl⟩ := Prod.mk.inj read
    obtain rfl := Except.ok.inj same
    refine ⟨[], rfl, .done, settled, fun more failure shown _ => ?_⟩
    have done' : ahead TokenKind.logicalOperators (⟨more, failure⟩ : Scan) = false := by
      rw [ahead_congr shown]
      simpa using done
    exact continuations_done done'

theorem continuations_refused {left : Condition} {scan after : Scan} {error : ParseError}
    (read : continuations left scan = (.error error, after)) (settled : scan.Settled) :
    Refusal (Joins left) (continuations left) scan error := by
  fun_induction continuations left scan with
  | case1 left scan shown found middle continued =>
    obtain ⟨same, -⟩ := Prod.mk.inj read
    obtain rfl := Except.error.inj same
    refine (continuation_reads.refused continued settled).first ?_ ?_
    · intro other error same fails
      rw [continuations_ahead ((ahead_congr same).trans shown)]
      exact bind_fails fails
    · rintro tokens ⟨more, joint, continues⟩
      refine ⟨more, .binary joint.1 left joint.2, ?_⟩
      simpa using Joins.joined continues .done
  | case2 left scan shown operator right middle continued inductionHypothesis =>
    obtain ⟨before, split, joint, settled', leads⟩ := continuation_reads.accepted continued settled
    refine (inductionHypothesis read settled').later split ?_ ?_
    · intro more failure error shown goesOn fails
      rw [continuations_ahead (ahead_continuation joint _ failure), bind_apply,
        leads more failure shown goesOn]
      exact fails
    · rintro tokens ⟨more, value, joins⟩
      refine ⟨more, value, ?_⟩
      simpa using Joins.joined joint joins
  | case3 => simp at read

theorem continuations_reads (left : Condition) :
    Reads TokenKind.logicalOperators (Joins left) (continuations left) where
  accepts := continuations_accepts
  accepted := continuations_accepted
  refused := continuations_refused

/-- What is joined to a condition makes it a longer one. -/
theorem condition_append {left value : Condition} {before after : List Token}
    (stands : IsCondition before left) (joins : Joins left after value) :
    IsCondition (before ++ after) value := by
  induction joins generalizing before with
  | done => simpa using stands
  | joined joint later inductionHypothesis =>
    obtain ⟨word, tokens, rfl, connects, compares⟩ := joint
    have longer := inductionHypothesis (stands.joined connects compares)
    simpa using longer

/-- One more comparison can be joined to what has been joined before. -/
theorem Joins.snoc {left middle right : Condition} {operator : Operator}
    {before after : List Token} (joins : Joins left before middle)
    (joint : IsContinuation after (operator, right)) :
    Joins left (before ++ after) (.binary operator middle right) := by
  induction joins with
  | done => simpa using Joins.joined joint .done
  | joined first later inductionHypothesis =>
    rw [List.append_assoc]
    exact .joined first inductionHypothesis

/-- A condition is a comparison and what is joined to it. -/
theorem isCondition_iff (tokens : List Token) (condition : Condition) :
    IsCondition tokens condition ↔ Then IsComparison Joins tokens condition := by
  constructor
  · intro stands
    induction stands with
    | comparison compares => exact ⟨_, [], _, by simp, compares, .done⟩
    | joined first connects last inductionHypothesis =>
      obtain ⟨before, after, left, rfl, compares, joins⟩ := inductionHypothesis
      refine ⟨before, _, left, List.append_assoc .., compares, joins.snoc ?_⟩
      exact ⟨_, _, rfl, connects, last⟩
  · rintro ⟨before, after, left, rfl, compares, joins⟩
    exact condition_append (.comparison compares) joins

theorem condition_reads : Reads TokenKind.logicalOperators IsCondition condition :=
  (comparison_reads.bind (fun left _ => continuations_reads left)
    fun _ _ _ _ _ _ => stops_nil _).congr fun tokens value =>
      (isCondition_iff tokens value).symm

/-! ### Clauses and statements -/

/-- The kinds that would be taken by a WHERE clause if they came after it. -/
def filterStops : List TokenKind := [.condition, .and, .or]

/-- A WHERE clause that is ahead is read as its word and its condition. -/
theorem whereClause_ahead {scan : Scan} (shown : ahead [.condition] scan = true) :
    whereClause scan =
      (take [.condition] >>= fun _ => condition >>= fun found => pure (some found)) scan := by
  rw [whereClause, if_pos shown]

theorem whereClause_done {scan : Scan} (done : ahead [.condition] scan = false) :
    whereClause scan = (.ok none, scan) := by
  rw [whereClause, if_neg (by simp [done])]

/-- A WHERE clause that is there. -/
def IsFilter : List Token → Option Condition → Prop :=
  Then (IsOne [.condition]) fun _ => Mapped IsCondition some

theorem filter_reads : Reads TokenKind.logicalOperators IsFilter
    (take [.condition] >>= fun _ => condition >>= fun found => pure (some found)) :=
  (take_reads (by decide)).bind (fun _ _ => condition_reads.map some)
    fun _ _ _ _ _ _ => stops_nil _

theorem isFilter_iff (tokens : List Token) (found : Option Condition) :
    IsFilter tokens found ↔ ∃ word rest condition, tokens = word :: rest ∧
      word.kind = .condition ∧ IsCondition rest condition ∧ found = some condition := by
  constructor
  · rintro ⟨_, rest, word, rfl, ⟨rfl, listed⟩, condition, holds, rfl⟩
    exact ⟨word, rest, condition, rfl, by simpa using listed, holds, rfl⟩
  · rintro ⟨word, rest, condition, rfl, begins, holds, rfl⟩
    exact ⟨[word], rest, word, rfl, ⟨rfl, by simpa using begins⟩, condition, holds, rfl⟩

theorem ahead_filter {tokens : List Token} {found : Option Condition}
    (filters : IsFilter tokens found) (rest : List Token) (failure : Option UnexpectedInput) :
    ahead [.condition] (⟨tokens ++ rest, failure⟩ : Scan) = true := by
  obtain ⟨word, more, condition, rfl, begins, -, -⟩ := (isFilter_iff _ _).mp filters
  exact (ahead_iff _ _).mpr ⟨word, rfl, by simp [begins]⟩

theorem isWhereClause_iff (tokens : List Token) (found : Option Condition) :
    IsWhereClause tokens found ↔ (tokens = [] ∧ found = none) ∨ IsFilter tokens found := by
  rw [isFilter_iff]
  constructor
  · rintro (_ | ⟨begins, holds⟩)
    · exact .inl ⟨rfl, rfl⟩
    · exact .inr ⟨_, _, _, rfl, begins, holds, rfl⟩
  · rintro (⟨rfl, rfl⟩ | ⟨word, rest, condition, rfl, begins, holds, rfl⟩)
    · exact .absent
    · exact .present begins holds

theorem whereClause_reads : Reads filterStops IsWhereClause whereClause where
  accepts := by
    intro used rest failure found clause stopped goesOn
    rcases (isWhereClause_iff used found).mp clause with ⟨rfl, rfl⟩ | filters
    · have stopped' : Stops [.condition] rest := fun token shown listed =>
        stopped token shown (by simp_all [filterStops])
      exact whereClause_done (ahead_of_stops stopped' failure)
    · have stopped' : Stops TokenKind.logicalOperators rest := fun token shown listed =>
        stopped token shown (by
          simp only [TokenKind.logicalOperators, List.mem_cons, List.not_mem_nil, or_false]
            at listed
          simp [filterStops, listed])
      rw [whereClause_ahead (ahead_filter filters rest failure)]
      exact filter_reads.accepts filters stopped' goesOn
  accepted := by
    intro scan after found read settled
    by_cases shown : ahead [.condition] scan = true
    · rw [whereClause_ahead shown] at read
      obtain ⟨used, split, filters, settled', leads⟩ := filter_reads.accepted read settled
      refine ⟨used, split, (isWhereClause_iff _ _).mpr (.inr filters), settled', ?_⟩
      intro more failure same goesOn
      rw [whereClause_ahead (ahead_filter filters more failure)]
      exact leads more failure same goesOn
    · have done : ahead [.condition] scan = false := by simpa using shown
      rw [whereClause_done done] at read
      obtain ⟨same, rfl⟩ := Prod.mk.inj read
      obtain rfl := Except.ok.inj same
      refine ⟨[], rfl, .absent, settled, fun more failure same _ => whereClause_done ?_⟩
      exact (ahead_congr same).trans done
  refused := by
    intro scan after error read settled
    by_cases shown : ahead [.condition] scan = true
    · rw [whereClause_ahead shown] at read
      refine (filter_reads.refused read settled).first ?_ ?_
      · intro other error same fails
        rw [whereClause_ahead ((ahead_congr same).trans shown)]
        exact fails
      · rintro tokens ⟨more, found, filters⟩
        exact ⟨more, found, (isWhereClause_iff _ _).mpr (.inr filters)⟩
    · simp [whereClause_done (by simpa using shown : ahead [.condition] scan = false)] at read

theorem selection_reads (keyword : TokenKind) :
    Reads filterStops (IsSelection keyword) (selection keyword) := by
  have reads : Reads filterStops _ (selection keyword) :=
    (take_reads (List.cons_ne_nil keyword [])).bind (fun _ _ =>
      string_reads.bind (fun target _ =>
        (take_reads (List.cons_ne_nil TokenKind.source [])).bind (fun _ _ =>
          string_reads.bind (fun source _ =>
            whereClause_reads.map fun condition => (⟨target, source, condition⟩ : Selection))
            fun _ _ _ _ _ _ => stops_nil _)
          fun _ _ _ _ _ _ => stops_nil _)
        fun _ _ _ _ _ _ => stops_nil _)
      fun _ _ _ _ _ _ => stops_nil _
  refine reads.congr fun tokens selection => ?_
  constructor
  · rintro ⟨_, _, first, rfl, ⟨rfl, begins⟩, target, _, name, rfl, selects, _, _, word, rfl,
      ⟨rfl, preposition⟩, source, filter, folder, rfl, located, condition, filters, rfl⟩
    have clauses : IsSelection keyword (first :: (target ++ word :: (source ++ filter)))
        ⟨name, folder, condition⟩ :=
      .mk (by simpa using begins) selects (by simpa using preposition) located filters
    exact clauses
  · rintro ⟨begins, selects, preposition, located, filters⟩
    exact ⟨[_], _, _, rfl, ⟨rfl, by simpa using begins⟩, _, _, _, rfl, selects, [_], _, _, rfl,
      ⟨rfl, by simpa using preposition⟩, _, _, _, rfl, located, _, filters, rfl⟩

theorem plain_reads (keyword : TokenKind) (make : Selection → Statement) :
    Reads filterStops (Mapped (IsSelection keyword) make) (plain keyword make) :=
  (selection_reads keyword).map make

/-- The shared clauses and a TO clause. -/
def IsTransfer (keyword : TokenKind) (make : Selection → String → Statement)
    (tokens : List Token) (statement : Statement) : Prop :=
  ∃ clauses word goal selection destination, tokens = clauses ++ word :: goal ∧
    IsSelection keyword clauses selection ∧ word.kind = .destination ∧
    IsString goal destination ∧ statement = make selection destination

theorem transfer_reads (keyword : TokenKind) (make : Selection → String → Statement) :
    Reads [] (IsTransfer keyword make) (transfer keyword make) := by
  have apart : ∀ (tokens rest : List Token) (word : Token), word.kind = .destination →
      Stops filterStops (word :: tokens ++ rest) := by
    intro tokens rest word preposition token shown listed
    obtain rfl := Option.some.inj shown
    simp [preposition, filterStops] at listed
  have reads : Reads [] _ (transfer keyword make) :=
    (selection_reads keyword).bind (fun selection _ =>
      (take_reads (List.cons_ne_nil TokenKind.destination [])).bind (fun _ _ =>
        string_reads.map fun destination => make selection destination)
        fun _ _ _ _ _ _ => stops_nil _)
      (by
        rintro selection tokens rest statement ⟨_, goal, word, rfl, ⟨rfl, preposition⟩, -⟩ _
        exact apart goal rest word (by simpa using preposition))
  refine reads.congr fun tokens statement => ?_
  constructor
  · rintro ⟨clauses, _, selection, rfl, selects, _, goal, word, rfl, ⟨rfl, preposition⟩,
      destination, located, rfl⟩
    exact ⟨clauses, word, goal, selection, destination, rfl, selects,
      by simpa using preposition, located, rfl⟩
  · rintro ⟨clauses, word, goal, selection, destination, rfl, selects, preposition, located, rfl⟩
    exact ⟨clauses, _, selection, rfl, selects, [word], goal, word, rfl,
      ⟨rfl, by simpa using preposition⟩, destination, located, rfl⟩

theorem statement_plain {scan : Scan} {token : Token} {make : Selection → Statement}
    (shown : scan.tokens.head? = some token) (makes : plain? token.kind = some make) :
    statement scan = plain token.kind make scan := by
  rw [statement, Scan.next?_eq, shown]
  cases kind : token.kind <;> simp_all [plain?]

theorem statement_transfer {scan : Scan} {token : Token}
    {make : Selection → String → Statement} (shown : scan.tokens.head? = some token)
    (makes : transfer? token.kind = some make) :
    statement scan = transfer token.kind make scan := by
  rw [statement, Scan.next?_eq, shown]
  cases kind : token.kind <;> simp_all [transfer?]

theorem statement_other {scan : Scan} {token : Token} (shown : scan.tokens.head? = some token)
    (notPlain : plain? token.kind = none) (notTransfer : transfer? token.kind = none) :
    statement scan =
      (.error (.unexpectedToken TokenKind.statementStarts token.lexeme), scan) := by
  rw [statement, Scan.next?_eq, shown]
  cases kind : token.kind <;> simp_all [plain?, transfer?]

/-- Some query selects files: the tokens with which a statement can begin. -/
theorem open_statement : Open IsStatement [] := by
  obtain ⟨more, selection, selects⟩ := (selection_reads .select).open_nil
  exact ⟨more, .select selection, .plain rfl selects⟩

theorem statement_accepts {used rest : List Token} {failure : Option UnexpectedInput}
    {value : Statement} (stands : IsStatement used value) (stopped : Stops filterStops rest)
    (goesOn : rest = [] → failure = none) :
    statement (⟨used ++ rest, failure⟩ : Scan) = (.ok value, ⟨rest, failure⟩) := by
  cases stands with
  | @plain keyword make tokens selection makes selects =>
    obtain ⟨first, more, rfl, rfl⟩ := selects.head_kind
    rw [statement_plain rfl makes]
    exact (plain_reads _ make).accepts ⟨selection, selects, rfl⟩ stopped goesOn
  | @transfer keyword make word tokens goal selection destination makes selects preposition
      located =>
    obtain ⟨first, more, rfl, rfl⟩ := selects.head_kind
    rw [statement_transfer rfl makes]
    exact (transfer_reads _ make).accepts
      ⟨_, word, goal, selection, destination, rfl, selects, preposition, located, rfl⟩
      (stops_nil _) goesOn

theorem statement_reads : Reads filterStops IsStatement statement where
  accepts := statement_accepts
  accepted := by
    intro scan after value read settled
    rcases shown : scan.tokens.head? with _ | token
    · simp [statement, shown] at read
    · rcases makes : plain? token.kind with _ | make
      · rcases makes' : transfer? token.kind with _ | make
        · simp [statement_other shown makes makes'] at read
        · rw [statement_transfer shown makes'] at read
          obtain ⟨_, split, ⟨clauses, word, goal, selection, destination, rfl, selects, preposition,
            located, rfl⟩, settled', leads⟩ := (transfer_reads _ make).accepted read settled
          refine ⟨_, split, .transfer makes' selects preposition located, settled', ?_⟩
          obtain ⟨first, rest, rfl, begins⟩ := selects.head_kind
          intro more failure same goesOn
          rw [← begins] at leads makes'
          rw [statement_transfer rfl makes']
          exact leads more failure same goesOn
      · rw [statement_plain shown makes] at read
        obtain ⟨used, split, ⟨selection, selects, rfl⟩, settled', leads⟩ :=
          (plain_reads _ make).accepted read settled
        refine ⟨used, split, .plain makes selects, settled', ?_⟩
        obtain ⟨first, rest, rfl, begins⟩ := selects.head_kind
        intro more failure same goesOn
        rw [← begins] at leads makes
        rw [statement_plain rfl makes]
        exact leads more failure same goesOn
  refused := by
    intro scan after error read settled
    rcases shown : scan.tokens.head? with _ | token
    · simp only [statement, Scan.next?_eq, shown, Prod.mk.injEq, Except.error.injEq] at read
      obtain ⟨rfl, -⟩ := read
      have nothing : scan.tokens = [] := List.head?_eq_none_iff.mp shown
      exact .ending (settled nothing) (nothing ▸ open_statement)
    · rcases makes : plain? token.kind with _ | make
      · rcases makes' : transfer? token.kind with _ | make
        · rw [statement_other shown makes makes'] at read
          obtain ⟨same, -⟩ := Prod.mk.inj read
          obtain rfl := Except.error.inj same
          obtain ⟨rest, split⟩ := List.head?_eq_some_iff.mp shown
          refine .token [] rest split open_statement fun more failure => ?_
          rw [statement_other rfl makes makes']
        · rw [statement_transfer shown makes'] at read
          refine ((transfer_reads _ make).refused read settled).first ?_ ?_
          · intro other error same fails
            rw [statement_transfer (same.trans shown) makes']
            exact fails
          · rintro tokens ⟨more, _, clauses, word, goal, selection, destination, split, selects,
              preposition, located, rfl⟩
            refine ⟨more, make selection destination, ?_⟩
            rw [split]
            exact .transfer makes' selects preposition located
      · rw [statement_plain shown makes] at read
        refine ((plain_reads _ make).refused read settled).first ?_ ?_
        · intro other error same fails
          rw [statement_plain (same.trans shown) makes]
          exact fails
        · rintro tokens ⟨more, _, selection, selects, rfl⟩
          exact ⟨more, make selection, .plain makes selects⟩

/-! ### Queries -/

theorem statements_empty (failure : Option UnexpectedInput) :
    statements (⟨[], failure⟩ : Scan) = (.ok [], ⟨[], failure⟩) := by
  rw [statements]
  simp

/-- A semicolon is passed over. -/
theorem statements_semicolon {scan : Scan} (shown : ahead [.semicolon] scan = true) :
    statements scan = (take [.semicolon] >>= fun _ => statements) scan := by
  obtain ⟨token, head, -⟩ := (ahead_iff _ _).mp shown
  have some_ahead : scan.tokens.head? = some token := head
  rw [statements, bind_apply]
  simp only [Scan.next?_eq, some_ahead, Option.isNone_some, Bool.false_eq_true, if_false, shown,
    if_true]
  split <;> rename_i read <;> simp [read]

/-- Any other token begins a statement, after which there are more. -/
theorem statements_statement {scan : Scan} {token : Token}
    (shown : scan.tokens.head? = some token) (other : token.kind ≠ .semicolon) :
    statements scan =
      (statement >>= fun first => statements >>= fun more => pure (first :: more)) scan := by
  have notAhead : ahead [.semicolon] scan = false := by
    rw [← Bool.not_eq_true, ahead_iff, shown]
    simpa using other
  rw [statements, bind_apply]
  simp only [Scan.next?_eq, shown, Option.isNone_some, Bool.false_eq_true, if_false, notAhead]
  split
  · rename_i read
    simp [read]
  · rename_i first after read
    simp only [read, bind_apply]
    split <;> rename_i readMore <;> simp [readMore, pure]

/-- The statements of a query come before those of what follows it, if that does not go on with
    what a WHERE clause would take. -/
theorem statements_append {used rest : List Token} {failure : Option UnexpectedInput}
    {value : List Statement} (sentence : IsQuery used value) (stopped : Stops filterStops rest)
    (goesOn : rest = [] → failure = none) :
    statements (⟨used ++ rest, failure⟩ : Scan) =
      (statements >>= fun more => pure (value ++ more) : Reading Scan (List Statement))
        ⟨rest, failure⟩ := by
  have goesOn' {later : List Token} (nothing : later ++ rest = []) : failure = none :=
    goesOn (List.append_eq_nil_iff.mp nothing).2
  induction sentence with
  | empty =>
    rw [bind_apply, List.nil_append]
    rcases statements (⟨rest, failure⟩ : Scan) with ⟨error | more, after⟩ <;> rfl
  | @semicolon token later found separates _ inductionHypothesis =>
    have listed : token.kind ∈ [TokenKind.semicolon] := by simp [separates]
    rw [List.cons_append, statements_semicolon ((ahead_iff _ _).mpr ⟨token, rfl, listed⟩),
      bind_apply, take_listed listed goesOn']
    exact inductionHypothesis
  | @statement first later value found stands laterSentence inductionHypothesis =>
    obtain ⟨token, more, rfl, -, other⟩ := stands.head_kind
    have stopped' : Stops filterStops (later ++ rest) := by
      cases later with
      | nil => exact stopped
      | cons next more => exact laterSentence.stops
    rw [List.append_assoc, statements_statement rfl other, bind_apply,
      statement_reads.accepts stands stopped' goesOn']
    simp only [bind_apply, inductionHypothesis]
    rcases statements (⟨rest, failure⟩ : Scan) with ⟨error | more, after⟩ <;> rfl

theorem statements_accepts {used : List Token} {value : List Statement}
    (sentence : IsQuery used value) :
    statements (⟨used, none⟩ : Scan) = (.ok value, ⟨[], none⟩) := by
  have stopped : Stops filterStops [] := nofun
  have goesOn : ([] : List Token) = [] → (none : Option UnexpectedInput) = none := fun _ => rfl
  have read := statements_append sentence stopped goesOn
  rw [List.append_nil, bind_apply, statements_empty] at read
  simpa [pure] using read

theorem statements_accepted {scan after : Scan} {value : List Statement}
    (read : statements scan = (.ok value, after)) (settled : scan.Settled) :
    IsQuery scan.tokens value ∧ scan.failure = none ∧ after.tokens = [] := by
  fun_induction statements scan generalizing value after with
  | case1 scan nothing =>
    obtain ⟨same, rfl⟩ := Prod.mk.inj read
    obtain rfl := Except.ok.inj same
    have noTokens : scan.tokens = [] := by simpa using nothing
    exact ⟨noTokens ▸ .empty, settled noTokens, noTokens⟩
  | case2 => simp at read
  | case3 scan _ shown token middle taken inductionHypothesis =>
    obtain ⟨used, split, ⟨rfl, listed⟩, settled', -⟩ :=
      (take_reads (by decide)).accepted taken settled
    obtain ⟨sentence, ends, noTokens⟩ := inductionHypothesis read settled'
    rw [split]
    exact ⟨.semicolon (by simpa using listed) sentence, ends, noTokens⟩
  | case4 => simp at read
  | case5 => simp at read
  | case6 scan _ other first middle readFirst more final readMore inductionHypothesis =>
    obtain ⟨same, rfl⟩ := Prod.mk.inj read
    obtain rfl := Except.ok.inj same
    obtain ⟨used, split, stands, settled', -⟩ := statement_reads.accepted readFirst settled
    obtain ⟨sentence, ends, noTokens⟩ := inductionHypothesis readMore settled'
    rw [split]
    exact ⟨.statement stands sentence, ends, noTokens⟩

theorem statements_refused {scan after : Scan} {error : ParseError}
    (read : statements scan = (.error error, after)) (settled : scan.Settled) :
    Refusal IsQuery statements scan error := by
  fun_induction statements scan generalizing after with
  | case1 => simp at read
  | case2 scan some_ahead shown found middle taken =>
    obtain ⟨same, -⟩ := Prod.mk.inj read
    obtain rfl := Except.error.inj same
    refine ((take_reads (by decide)).refused taken settled).first ?_ ?_
    · intro other error same fails
      rw [statements_semicolon ((ahead_congr same).trans shown)]
      exact bind_fails fails
    · rintro tokens ⟨more, token, one, listed⟩
      refine ⟨more, [], ?_⟩
      rw [one]
      exact .semicolon (by simpa using listed) .empty
  | case3 scan some_ahead shown token middle taken inductionHypothesis =>
    obtain ⟨used, split, ⟨rfl, listed⟩, settled', leads⟩ :=
      (take_reads (by decide)).accepted taken settled
    refine (inductionHypothesis read settled').later split ?_ ?_
    · intro more failure error same goesOn fails
      rw [statements_semicolon ((ahead_iff _ _).mpr ⟨token, rfl, listed⟩), bind_apply,
        leads more failure same goesOn]
      exact fails
    · rintro tokens ⟨more, found, sentence⟩
      exact ⟨more, found, .semicolon (by simpa using listed) sentence⟩
  | case4 scan some_ahead other found middle readFirst =>
    obtain ⟨same, -⟩ := Prod.mk.inj read
    obtain rfl := Except.error.inj same
    have notEmpty : scan.tokens.head? ≠ none := by simpa using some_ahead
    obtain ⟨token, shown⟩ := Option.ne_none_iff_exists'.mp notEmpty
    have different : token.kind ≠ .semicolon := fun separates =>
      other ((ahead_iff _ _).mpr ⟨token, shown, by simp [separates]⟩)
    refine (statement_reads.refused readFirst settled).first ?_ ?_
    · intro other error same fails
      rw [statements_statement (same.trans shown) different]
      exact bind_fails fails
    · rintro tokens ⟨more, value, stands⟩
      refine ⟨more, [value], ?_⟩
      simpa using IsQuery.statement stands .empty
  | case5 scan some_ahead other first middle readFirst found final readMore inductionHypothesis =>
    obtain ⟨same, -⟩ := Prod.mk.inj read
    obtain rfl := Except.error.inj same
    obtain ⟨used, split, stands, settled', leads⟩ := statement_reads.accepted readFirst settled
    obtain ⟨token, rest, rfl, -, different⟩ := stands.head_kind
    refine (inductionHypothesis readMore settled').later split ?_ ?_
    · intro more failure error same goesOn fails
      rw [statements_statement rfl different, bind_apply, leads more failure same goesOn]
      exact bind_fails fails
    · rintro tokens ⟨more, found, sentence⟩
      refine ⟨more, first :: found, ?_⟩
      rw [List.append_assoc]
      exact .statement stands sentence
  | case6 => simp at read

end FileQuery.Query
