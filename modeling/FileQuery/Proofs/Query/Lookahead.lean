import FileQuery.Proofs.Query.Reading
import FileQuery.Proofs.Query.Sentences

/-!
# A parser reads the scan of its text

A parser reads its text bit by bit: it holds one token and a cursor, and it does not look for the
next token before the one that it holds is accepted. What it still has before it is a scan, and a
reader does with the parser what it does with that scan. So the statements of a text depend on its
scan alone, and not on what the parser has read before.
-/

namespace FileQuery

/-- Where no token can be read, none can be read again. -/
theorem Cursor.next_stays {cursor after : Cursor} {failure : UnexpectedInput}
    (fails : cursor.next = (.error failure, after)) : after.next = (.error failure, after) := by
  fun_induction Cursor.next cursor with
  | case1 => simp at fails
  | case2 => simp at fails
  | case3 _ _ _ _ _ _ inductionHypothesis => exact inductionHypothesis fails
  | case4 cursor first rest found unmatched unmatched' =>
    obtain ⟨same, rfl⟩ := Prod.mk.inj fails
    obtain rfl := Except.error.inj same
    rw [Cursor.next]
    split <;> simp_all

namespace Parser

/-- What a parser still has before it. -/
def scan (parser : Parser) : Scan :=
  match parser.lookahead with
  | none => ⟨[], none⟩
  | some token =>
    ⟨token :: (Scan.ofCursor parser.cursor).tokens, (Scan.ofCursor parser.cursor).failure⟩

@[simp] theorem next?_eq (parser : Parser) : TokenSource.next? parser = parser.lookahead := rfl

@[simp] theorem leave_eq (parser : Parser) : TokenSource.leave parser = parser.leave := rfl

theorem next?_scan (parser : Parser) :
    TokenSource.next? parser.scan = TokenSource.next? parser := by
  rw [Scan.next?_eq, next?_eq, scan]
  split <;> simp_all

/-- Leaving a token leaves it in the scan. -/
theorem leave_scan {parser : Parser} {token : Token} (shown : parser.lookahead = some token) :
    parser.scan.leave = (parser.leave.1, parser.leave.2.scan) := by
  have later := Scan.scan_next parser.cursor
  rcases read : parser.cursor.next with ⟨failure | found, after⟩
  · have again := Scan.scan_next after
    rw [Cursor.next_stays read] at again
    rw [read] at later
    simp [scan, shown, leave, read, later, again, Scan.leave]
  · rw [read] at later
    cases found with
    | none => simp [scan, shown, leave, read, later, Scan.leave]
    | some next => simp [scan, shown, leave, read, later, Scan.leave]

end Parser

namespace Query

variable {α β : Type}

/-- A reader does with every parser what another one does with its scan. -/
def Mirrors (reader : Reading Parser α) (image : Reading Scan α) : Prop :=
  ∀ parser, image parser.scan = ((reader parser).1, (reader parser).2.scan)

theorem Mirrors.bind {first : Reading Parser α} {image : Reading Scan α}
    {second : α → Reading Parser β} {later : α → Reading Scan β} (mirrors : Mirrors first image)
    (mirrorsLater : ∀ value, Mirrors (second value) (later value)) :
    Mirrors (first >>= second) (image >>= later) := by
  intro parser
  rw [bind_apply, bind_apply, mirrors parser]
  rcases first parser with ⟨error | value, after⟩
  · rfl
  · exact mirrorsLater value after

theorem mirrors_pure (value : α) : Mirrors (pure value) (pure value) := fun _ => rfl

theorem mirrors_refuse (error : ParseError) :
    Mirrors (refuse error : Reading Parser α) (refuse error) := fun _ => rfl

theorem ahead_scan (kinds : List TokenKind) (parser : Parser) :
    ahead kinds parser.scan = ahead kinds parser := by
  rw [ahead, ahead, Parser.next?_scan]

theorem take_mirrors (expected : List TokenKind) : Mirrors (take expected) (take expected) := by
  intro parser
  rw [take, take, Parser.next?_scan]
  cases shown : TokenSource.next? parser with
  | none => rfl
  | some token =>
    dsimp only
    split
    · rw [Scan.leave_eq, Parser.leave_scan shown, Parser.leave_eq]
      rcases parser.leave with ⟨failure | left, after⟩ <;> rfl
    · rfl

theorem string_mirrors : Mirrors string string :=
  (take_mirrors _).bind fun _ => mirrors_pure _

theorem operator_mirrors (kinds : List TokenKind) : Mirrors (operator kinds) (operator kinds) := by
  refine (take_mirrors kinds).bind fun token => ?_
  unfold operatorOf
  cases token.kind.operator? with
  | none => exact mirrors_refuse _
  | some operator => exact mirrors_pure operator

theorem comparison_mirrors : Mirrors comparison comparison :=
  string_mirrors.bind fun _ => (operator_mirrors _).bind fun _ =>
    string_mirrors.bind fun _ => mirrors_pure _

theorem continuation_mirrors : Mirrors continuation continuation :=
  (operator_mirrors _).bind fun _ => comparison_mirrors.bind fun _ => mirrors_pure _

theorem continuations_mirrors (left : Condition) :
    Mirrors (continuations left) (continuations left) := by
  intro parser
  fun_induction continuations left parser with
  | case1 left parser shown error after read =>
    rw [continuations, if_pos ((ahead_scan _ parser).trans shown)]
    have image := continuation_mirrors parser
    rw [read] at image
    split <;> simp_all
  | case2 left parser shown operator right after read inductionHypothesis =>
    rw [continuations, if_pos ((ahead_scan _ parser).trans shown)]
    have image := continuation_mirrors parser
    rw [read] at image
    split
    · simp_all
    · rename_i imageRead
      obtain ⟨same, rfl⟩ := Prod.mk.inj (image.symm.trans imageRead)
      obtain ⟨rfl, rfl⟩ := Prod.mk.inj (Except.ok.inj same)
      exact inductionHypothesis
  | case3 left parser done =>
    rw [continuations, if_neg (by rwa [ahead_scan])]

theorem condition_mirrors : Mirrors condition condition :=
  comparison_mirrors.bind continuations_mirrors

theorem whereClause_mirrors : Mirrors whereClause whereClause := by
  intro parser
  rw [whereClause, whereClause, ahead_scan]
  split
  · exact ((take_mirrors _).bind fun _ => condition_mirrors.bind fun found =>
      mirrors_pure (some found)) parser
  · rfl

theorem selection_mirrors (keyword : TokenKind) :
    Mirrors (selection keyword) (selection keyword) :=
  (take_mirrors _).bind fun _ => string_mirrors.bind fun _ => (take_mirrors _).bind fun _ =>
    string_mirrors.bind fun _ => whereClause_mirrors.bind fun _ => mirrors_pure _

theorem plain_mirrors (keyword : TokenKind) (make : Selection → Statement) :
    Mirrors (plain keyword make) (plain keyword make) :=
  (selection_mirrors keyword).bind fun _ => mirrors_pure _

theorem transfer_mirrors (keyword : TokenKind) (make : Selection → String → Statement) :
    Mirrors (transfer keyword make) (transfer keyword make) :=
  (selection_mirrors keyword).bind fun _ => (take_mirrors _).bind fun _ =>
    string_mirrors.bind fun _ => mirrors_pure _

theorem statement_mirrors : Mirrors statement statement := by
  intro parser
  rw [statement, statement, Parser.next?_scan]
  cases TokenSource.next? parser with
  | none => rfl
  | some token =>
    dsimp only
    split <;> first
      | exact plain_mirrors _ _ parser
      | exact transfer_mirrors _ _ parser
      | rfl

theorem statements_mirrors : Mirrors statements statements := by
  intro parser
  fun_induction statements parser with
  | case1 parser nothing =>
    rw [statements, if_pos (by rwa [Parser.next?_scan])]
  | case2 parser something shown error after read =>
    have image := take_mirrors [.semicolon] parser
    rw [read] at image
    rw [statements, if_neg (by rwa [Parser.next?_scan]), if_pos ((ahead_scan _ parser).trans shown)]
    split <;> simp_all
  | case3 parser something shown token after read inductionHypothesis =>
    have image := take_mirrors [.semicolon] parser
    rw [read] at image
    rw [statements, if_neg (by rwa [Parser.next?_scan]), if_pos ((ahead_scan _ parser).trans shown)]
    split <;> simp_all
  | case4 parser something other error after read =>
    have image := statement_mirrors parser
    rw [read] at image
    rw [statements, if_neg (by rwa [Parser.next?_scan]), if_neg (by rwa [ahead_scan])]
    split <;> simp_all
  | case5 parser something other first after read error final readMore inductionHypothesis =>
    have image := statement_mirrors parser
    rw [read] at image
    rw [statements, if_neg (by rwa [Parser.next?_scan]), if_neg (by rwa [ahead_scan])]
    rw [readMore] at inductionHypothesis
    split <;> simp_all
  | case6 parser something other first after read more final readMore inductionHypothesis =>
    have image := statement_mirrors parser
    rw [read] at image
    rw [statements, if_neg (by rwa [Parser.next?_scan]), if_neg (by rwa [ahead_scan])]
    rw [readMore] at inductionHypothesis
    split <;> simp_all

end Query

namespace Parser

variable (parser : Parser) {text : String}

/-- A text that breaks off before its first token is refused at once. -/
theorem parse_of_failure {failure : UnexpectedInput}
    (breaks : Scan.ofText text = ⟨[], some failure⟩) :
    (parse text parser).1 = .error (.unexpectedInput failure) := by
  have later := Scan.scan_next (Cursor.start text)
  rw [← Scan.ofText, breaks] at later
  unfold parse leave
  rcases read : (Cursor.start text).next with ⟨found | _ | token, after⟩
  all_goals simp_all

/-- A parser makes of a text what a reader of the scan makes of it, whatever it has read before. -/
theorem parse_of_settled (settled : (Scan.ofText text).Settled) :
    (parse text parser).1 = (Query.statements (Scan.ofText text)).1 := by
  have later := Scan.scan_next (Cursor.start text)
  rw [← Scan.ofText] at later
  unfold parse leave
  rcases read : (Cursor.start text).next with ⟨failure | found, after⟩
  · rw [read] at later
    simp [later, Scan.Settled] at settled
  · rw [read] at later
    have image := congrArg Prod.fst (Query.statements_mirrors ⟨after, found⟩)
    cases found with
    | none => simpa [later, scan] using image.symm
    | some next => simpa [later, scan] using image.symm

end Parser

/-!
## A parser finds the first token that does not fit

A parser with one token of lookahead decides the grammar, and its errors come as early as they
can. As long as the tokens that it has read can still become a query it goes on. The first token
with which they cannot is the one that it complains of, whatever comes after it in the text. Only
if there is no such token does it matter how the text ends: it may break off at a place where no
token can be read, it may end too early, or it may be a query, which then has one reading.
-/

section

open Grammar

namespace Query

/-- A query has one reading. -/
theorem isQuery_unique {tokens : List Token} {statements other : List Statement}
    (sentence : IsQuery tokens statements) (sentence' : IsQuery tokens other) :
    other = statements := by
  have same := (statements_accepts sentence').symm.trans (statements_accepts sentence)
  exact Except.ok.inj (Prod.mk.inj same).1

/-- A token that is refused whatever comes after it cannot go on to a query. -/
theorem not_viable_of_sticks {before : List Token} {found : Token} {error : ParseError}
    (sticks : ∀ more failure,
      (statements (⟨before ++ found :: more, failure⟩ : Scan)).1 = .error error) :
    ¬ Viable (before ++ [found]) := by
  rintro ⟨more, value, sentence⟩
  have accepted : statements (⟨before ++ found :: more, none⟩ : Scan) = (.ok value, ⟨[], none⟩) :=
    statements_accepts (by simpa using sentence)
  have refused := sticks more none
  simp [accepted] at refused

/-- The shortest beginning of tokens that cannot go on to a query, and its last token. -/
def Misfit (tokens before : List Token) (token : Token) : Prop :=
  before ++ [token] <+: tokens ∧ ¬ Viable (before ++ [token]) ∧
    ∀ start, start <+: tokens → start.length ≤ before.length → Viable start

/-- What a scan of tokens is read as, if the text does not break off before the first one. -/
theorem statements_decide {scan : Scan} (settled : scan.Settled) :
    ((∃ start, start <+: scan.tokens ∧ ¬ Viable start) →
      ∃ before token expected, Misfit scan.tokens before token ∧
        (statements scan).1 = .error (.unexpectedToken expected token.lexeme)) ∧
    ((∀ start, start <+: scan.tokens → Viable start) →
      (∀ failure, scan.failure = some failure →
        (statements scan).1 = .error (.unexpectedInput failure)) ∧
      (scan.failure = none →
        (∀ found, IsQuery scan.tokens found → (statements scan).1 = .ok found) ∧
        ((∀ found, ¬ IsQuery scan.tokens found) →
          ∃ expected, (statements scan).1 = .error (.unexpectedEnd expected)))) := by
  have extends_ : Viable scan.tokens → ∀ start, start <+: scan.tokens → Viable start :=
    fun viable start begins => viable.of_prefix begins
  rcases read : statements scan with ⟨error | found, after⟩
  · cases statements_refused read settled with
    | @token before rest found expected split continues sticks =>
      have misfits : Misfit scan.tokens before found := by
        refine ⟨⟨rest, by simp [split]⟩, not_viable_of_sticks sticks, ?_⟩
        intro start begins short
        have within : before <+: scan.tokens := ⟨found :: rest, split.symm⟩
        exact continues.of_prefix (List.prefix_of_prefix_length_le begins within short)
      refine ⟨fun _ => ⟨before, found, expected, misfits, rfl⟩, fun viable => ?_⟩
      exact absurd (viable _ misfits.1) misfits.2.1
    | @ending expected ends viable =>
      refine ⟨fun ⟨start, begins, dead⟩ => absurd (extends_ viable start begins) dead, fun _ => ?_⟩
      refine ⟨fun failure breaks => by simp [ends] at breaks, fun _ => ⟨?_, ?_⟩⟩
      · intro found sentence
        have accepted := statements_accepts sentence
        rw [← ends] at accepted
        simp [accepted] at read
      · exact fun _ => ⟨expected, rfl⟩
    | @failing failure breaks viable =>
      refine ⟨fun ⟨start, begins, dead⟩ => absurd (extends_ viable start begins) dead, fun _ => ?_⟩
      refine ⟨fun other breaks' => ?_, fun ends => by simp [ends] at breaks⟩
      obtain rfl := Option.some.inj (breaks.symm.trans breaks')
      rfl
  · obtain ⟨sentence, ends, -⟩ := statements_accepted read settled
    have viable : Viable scan.tokens := ⟨[], found, by simpa using sentence⟩
    refine ⟨fun ⟨start, begins, dead⟩ => absurd (extends_ viable start begins) dead, fun _ => ?_⟩
    refine ⟨fun failure breaks => by simp [ends] at breaks, fun _ => ⟨?_, ?_⟩⟩
    · intro other sentence'
      rw [isQuery_unique sentence sentence']
    · intro none_found
      exact absurd sentence (none_found found)

end Query

/-- A parser decides the grammar, whatever it has read before, and finds the first fault of a text.
    If some of the tokens of a text cannot go on to a query, it complains of the last one of the
    fewest such tokens, even if the text breaks off later. Else, if the text breaks off, it reports
    the place. Else the text is a query, of which it returns the one reading, or ends too early. -/
theorem Parser.parse_decides (parser : Parser) (text : String) :
    let scan := Scan.ofText text
    let result := (Parser.parse text parser).1
    ((∃ start, start <+: scan.tokens ∧ ¬ Viable start) →
      ∃ before token expected, Query.Misfit scan.tokens before token ∧
        result = .error (.unexpectedToken expected token.lexeme)) ∧
    ((∀ start, start <+: scan.tokens → Viable start) →
      (∀ failure, scan.failure = some failure → result = .error (.unexpectedInput failure)) ∧
      (scan.failure = none →
        (∀ statements, IsQuery scan.tokens statements →
          result = .ok statements ∧ ∀ other, IsQuery scan.tokens other → other = statements) ∧
        ((∀ statements, ¬ IsQuery scan.tokens statements) →
          ∃ expected, result = .error (.unexpectedEnd expected)))) := by
  intro scan result
  rcases scan.settled_or with settled | ⟨failure, breaks⟩
  · have read : result = (Query.statements scan).1 := parser.parse_of_settled settled
    obtain ⟨misfits, fits⟩ := Query.statements_decide settled
    rw [read]
    refine ⟨misfits, fun viable => ⟨(fits viable).1, fun ends => ⟨?_, ((fits viable).2 ends).2⟩⟩⟩
    intro statements sentence
    exact ⟨((fits viable).2 ends).1 statements sentence,
      fun other sentence' => Query.isQuery_unique sentence sentence'⟩
  · have read : result = .error (.unexpectedInput failure) := parser.parse_of_failure breaks
    refine ⟨?_, fun _ => ⟨?_, fun ends => by simp [breaks] at ends⟩⟩
    · rintro ⟨start, begins, dead⟩
      obtain rfl : start = [] := by simpa [breaks] using begins
      exact absurd ⟨[], [], .empty⟩ dead
    · intro other same
      obtain rfl : failure = other := by simpa [breaks] using same
      exact read

end

end FileQuery
