import FileQuery.Execution.Matches
import FileQuery.Proofs.Plan.Acceptance

/-!
# Checking a condition and evaluating it

Checking looks at the comparisons of a condition from left to right, and evaluation descends into
the tree. Both end with the fault of the first faulty comparison, so they agree wherever they agree
on single comparisons. They do so with one exception: to compare the size by order with a literal
that is read as what is not a number passes the check, and then it has no answer for any file.
-/

namespace FileQuery

/-- The fault with which a check or an evaluation ends, if it does. -/
def faultOf {ε α : Type} : Except ε α → Option ε
  | .error error => some error
  | .ok _ => none

@[simp] theorem faultOf_eq_some {ε α : Type} {result : Except ε α} {error : ε} :
    faultOf result = some error ↔ result = .error error := by
  cases result <;> simp [faultOf]

/-- Of two steps in sequence the first fault counts. -/
theorem faultOf_bind {ε α β : Type} {first : Except ε α} {second : α → Except ε β}
    {later : Option ε} (same : ∀ value, faultOf (second value) = later) :
    faultOf (first >>= second) = (faultOf first).or later := by
  cases first with
  | error error => rfl
  | ok value => exact same value

/-- A property has an order with every value of its type but for what is not a number. -/
theorem Attributes.compare?_eq_none_iff (attributes : Attributes) {property : Property}
    {value : Value} (typed : value.type = property.valueType) :
    (attributes.value property).compare? value = none ↔ value = .number .notANumber := by
  cases property <;> cases value <;>
    simp_all [Attributes.value, Value.compare?, Value.type, Property.valueType,
      Number.compare?_eq_none_iff, Number.ofNat_ne_notANumber]

namespace Condition

/-- A comparison of the size by order with a literal that is read as what is not a number. -/
inductive Incomparable : Operator × Condition × Condition → Prop
  | mk {operator : Operator} {value : String} (orders : operator.isOrdering = true)
    (undefined : Number.read? value = some .notANumber) :
    Incomparable (operator, literal Property.size.text, literal value)

theorem Incomparable.left_eq {comparison : Operator × Condition × Condition}
    (incomparable : Incomparable comparison) :
    comparison.2.1 = literal Property.size.text := by
  cases incomparable
  rfl

/-- The fault of a comparison that checking finds. -/
def checkedFault (comparison : Operator × Condition × Condition) : Option ConditionError :=
  faultOf (checkComparison comparison.1 comparison.2.1 comparison.2.2)

/-- The fault of a comparison that evaluation finds. -/
def evaluatedFault (attributes : Attributes) (comparison : Operator × Condition × Condition) :
    Option ConditionError :=
  faultOf do
    let (property, value) ← operands comparison.2.1 comparison.2.2
    compare comparison.1 property value attributes

/-! ## Both find the first fault -/

/-- Checking finds the first fault of a comparison. -/
theorem faultOf_check (condition : Condition) :
    faultOf condition.check = condition.comparisons.findSome? checkedFault := by
  unfold check
  induction condition.comparisons with
  | nil => rfl
  | cons comparison rest inductionHypothesis =>
    rw [List.forM, faultOf_bind fun _ => inductionHypothesis, List.findSome?_cons]
    rw [checkedFault]
    cases faultOf (checkComparison comparison.1 comparison.2.1 comparison.2.2) <;> rfl

/-- Evaluation finds the first fault of a comparison, for AND and OR evaluate both sides. -/
theorem faultOf_evaluate (path : String) (attributes : Attributes) (condition : Condition) :
    faultOf (condition.evaluate path attributes) =
      condition.comparisons.findSome? (evaluatedFault attributes) := by
  induction condition with
  | literal value => rfl
  | binary operator left right leftFault rightFault =>
    rw [evaluate, comparisons]
    split
    case isTrue logical =>
      have second (first : Bool) : faultOf (do
          let second ← right.evaluate path attributes
          return if operator = .and then first && second else first || second) =
          right.comparisons.findSome? (evaluatedFault attributes) := by
        rw [← rightFault]
        cases right.evaluate path attributes <;> rfl
      rw [faultOf_bind second, leftFault, List.findSome?_append]
    case isFalse compares =>
      rw [List.findSome?_cons, List.findSome?_nil, evaluatedFault]
      split <;> simp_all

/-! ## Where both differ on a comparison -/

/-- The properties whose values are numbers. -/
theorem eq_size_of_valueType {property : Property} (typed : property.valueType = .number) :
    property = .size := by
  cases property <;> simp [Property.valueType] at typed
  rfl

/-- A literal that is read as what is not a number is compared with the size. -/
theorem read?_of_ofLiteral? {property : Property} {value : String}
    (read : Value.ofLiteral? property value = some (.number .notANumber)) :
    property = .size ∧ Number.read? value = some .notANumber := by
  have same : property = .size := eq_size_of_valueType (Value.type_ofLiteral? read).symm
  subst same
  simpa [Value.ofLiteral?, Property.valueType] using read

/-- The property of a comparison is written on its left, and the literal on its right. -/
theorem operands_eq_ok {left right : Condition} {property : Property} {value : String}
    (read : operands left right = .ok (property, value)) :
    left = literal property.text ∧ right = literal value := by
  unfold operands at read
  split at read
  · split at read
    · rename_i found
      obtain ⟨rfl, rfl⟩ := Prod.mk.inj (Except.ok.inj read)
      rw [Property.eq_text_of_ofText? found]
      exact ⟨rfl, rfl⟩
    · contradiction
  · contradiction

/-- The fault that checking finds in a comparison of a property with a literal. -/
theorem checkedFault_text (operator : Operator) (property : Property) (value : String) :
    checkedFault (operator, literal property.text, literal value) =
      if operator.isOrdering then faultOf (coerce property value)
      else faultOf (pattern value) := by
  rw [checkedFault, checkComparison, operands, Property.ofText?_text]
  simp only [bind, Except.bind]
  split
  · cases coerce property value <;> rfl
  · cases pattern value <;> rfl

/-- The fault that evaluation finds in a comparison of a property with a literal. -/
theorem evaluatedFault_text (attributes : Attributes) (operator : Operator) (property : Property)
    (value : String) :
    evaluatedFault attributes (operator, literal property.text, literal value) =
      faultOf (compare operator property value attributes) := by
  rw [evaluatedFault, operands, Property.ofText?_text]
  rfl

/-- A comparison by order with a value that has no order has no answer. -/
theorem evaluatedFault_unordered (attributes : Attributes) {operator : Operator}
    {property : Property} {value : String} {expected : Value}
    (orders : operator.isOrdering = true) (read : coerce property value = .ok expected)
    (unordered : (attributes.value property).compare? expected = none) :
    evaluatedFault attributes (operator, literal property.text, literal value) =
      some (.invalidValue property value) := by
  rw [evaluatedFault_text, compare, if_pos orders, read]
  simp only [bind, Except.bind, unordered]
  rfl

/-- On all other comparisons checking and evaluation agree. -/
theorem evaluatedFault_eq_checkedFault (attributes : Attributes)
    {comparison : Operator × Condition × Condition} (comparable : ¬ Incomparable comparison) :
    evaluatedFault attributes comparison = checkedFault comparison := by
  obtain ⟨operator, left, right⟩ := comparison
  cases known : operands left right with
  | error error =>
    simp only [evaluatedFault, checkedFault, checkComparison, known]
    rfl
  | ok operand =>
    obtain ⟨property, value⟩ := operand
    obtain ⟨rfl, rfl⟩ := operands_eq_ok known
    rw [evaluatedFault_text, checkedFault_text, compare]
    by_cases orders : operator.isOrdering = true
    · rw [if_pos orders, if_pos orders, coerce]
      cases read : Value.ofLiteral? property value with
      | none => rfl
      | some expected =>
        have typed := Value.type_ofLiteral? read
        cases ordered : (attributes.value property).compare? expected with
        | none =>
          rw [(attributes.compare?_eq_none_iff typed).mp ordered] at read
          obtain ⟨rfl, undefined⟩ := read?_of_ofLiteral? read
          exact absurd (.mk orders undefined) comparable
        | some order => simp [bind, Except.bind, pure, Except.pure, ordered, faultOf]
    · rw [if_neg orders, if_neg orders]
      cases pattern value <;> rfl

/-- The check finds a literal to be no value only if it is not read as one. -/
theorem ofLiteral?_of_checkedFault {comparison : Operator × Condition × Condition}
    {property : Property} {value : String}
    (refused : checkedFault comparison = some (.invalidValue property value)) :
    Value.ofLiteral? property value = none := by
  obtain ⟨operator, left, right⟩ := comparison
  cases known : operands left right with
  | error error =>
    obtain rfl : error = .invalidValue property value := by
      simpa [checkedFault, checkComparison, known, bind, Except.bind] using refused
    unfold operands at known
    split at known
    · split at known <;> simp at known
    · simp at known
  | ok operand =>
    obtain ⟨rfl, rfl⟩ := operands_eq_ok known
    rw [checkedFault_text] at refused
    split at refused
    · rw [faultOf_eq_some, coerce] at refused
      split at refused
      · contradiction
      · rename_i unread
        obtain ⟨rfl, rfl⟩ := ConditionError.invalidValue.inj (Except.error.inj refused)
        exact unread
    · rw [faultOf_eq_some, pattern] at refused
      cases compiled : Pattern.compile operand.2 <;>
        simp [compiled, mapError_ok, mapError_error] at refused

/-- A comparison without an answer passes the check, and its evaluation fails for every file, with
    a fault that the check finds only in literals that are not read at all. -/
theorem Incomparable.faults {comparison : Operator × Condition × Condition}
    (incomparable : Incomparable comparison) (attributes : Attributes) :
    checkedFault comparison = none ∧ ∃ error, evaluatedFault attributes comparison = some error ∧
      ∀ other, checkedFault other ≠ some error := by
  obtain ⟨orders, undefined⟩ := incomparable
  rename_i operator value
  have read : coerce .size value = .ok (.number .notANumber) := by
    simp [coerce, Value.ofLiteral?, Property.valueType, undefined]
  have unordered : (attributes.value .size).compare? (.number .notANumber) = none :=
    (attributes.compare?_eq_none_iff rfl).mpr rfl
  refine ⟨by rw [checkedFault_text, if_pos orders, read]; rfl, .invalidValue .size value,
    evaluatedFault_unordered attributes orders read unordered, ?_⟩
  intro other refused
  have unread := ofLiteral?_of_checkedFault refused
  simp [Value.ofLiteral?, Property.valueType, undefined] at unread

/-! ## Where both differ on a condition -/

/-- Before each comparison that has no answer stands one that the check refuses. -/
def Decided (comparisons : List (Operator × Condition × Condition)) : Prop :=
  ∀ before comparison after, comparisons = before ++ comparison :: after →
    Incomparable comparison → ∃ earlier ∈ before, ∃ error, checkedFault earlier = some error

/-- The first comparison of a list can be left out if it is neither refused nor without answer. -/
theorem decided_cons {comparison : Operator × Condition × Condition}
    {rest : List (Operator × Condition × Condition)} (comparable : ¬ Incomparable comparison)
    (passes : checkedFault comparison = none) : Decided (comparison :: rest) ↔ Decided rest := by
  constructor
  · intro decided before second after split incomparable
    have longer : comparison :: rest = (comparison :: before) ++ second :: after := by
      rw [split, List.cons_append]
    obtain ⟨earlier, member, error, refused⟩ :=
      decided (comparison :: before) second after longer incomparable
    rcases List.mem_cons.mp member with rfl | member
    · simp [passes] at refused
    · exact ⟨earlier, member, error, refused⟩
  · intro decided before second after split incomparable
    cases before with
    | nil =>
      obtain ⟨rfl, rfl⟩ := List.cons.inj split
      exact absurd incomparable comparable
    | cons first before =>
      obtain ⟨rfl, split'⟩ := List.cons.inj split
      obtain ⟨earlier, member, refused⟩ := decided before second after split' incomparable
      exact ⟨earlier, List.mem_cons_of_mem _ member, refused⟩

/-- The first fault is the same for both just where every comparison is decided. -/
theorem firstFault_eq_iff (attributes : Attributes)
    (comparisons : List (Operator × Condition × Condition)) :
    comparisons.findSome? (evaluatedFault attributes) = comparisons.findSome? checkedFault ↔
      Decided comparisons := by
  induction comparisons with
  | nil => simp [Decided]
  | cons comparison rest inductionHypothesis =>
    rw [List.findSome?_cons, List.findSome?_cons]
    by_cases incomparable : Incomparable comparison
    · obtain ⟨passes, error, fails, unseen⟩ := incomparable.faults attributes
      rw [passes, fails]
      constructor
      · intro same
        obtain ⟨other, -, refused⟩ := List.exists_of_findSome?_eq_some same.symm
        exact absurd refused (unseen other)
      · intro decided
        obtain ⟨earlier, member, -⟩ := decided [] comparison rest rfl incomparable
        contradiction
    · rw [evaluatedFault_eq_checkedFault attributes incomparable]
      cases refused : checkedFault comparison with
      | none => exact inductionHypothesis.trans (decided_cons incomparable refused).symm
      | some error =>
        refine iff_of_true rfl ?_
        intro before second after split found
        cases before with
        | nil =>
          obtain ⟨rfl, rfl⟩ := List.cons.inj split
          exact absurd found incomparable
        | cons first before =>
          obtain ⟨rfl, -⟩ := List.cons.inj split
          exact ⟨comparison, List.mem_cons_self, error, refused⟩

/-- The evaluation of a condition that passes the check fails just where some comparison of it has
    no answer, and then for every file. -/
theorem evaluate_fails_iff {condition : Condition} (passes : condition.check = .ok ())
    (path : String) (attributes : Attributes) :
    (∃ error, condition.evaluate path attributes = .error error) ↔
      ∃ comparison ∈ condition.comparisons, Incomparable comparison := by
  have unrefused : ∀ comparison ∈ condition.comparisons, checkedFault comparison = none := by
    have none_found := condition.faultOf_check
    rw [passes] at none_found
    exact List.findSome?_eq_none_iff.mp none_found.symm
  have first := condition.faultOf_evaluate path attributes
  constructor
  · rintro ⟨error, fails⟩
    rw [fails] at first
    obtain ⟨comparison, member, fault⟩ := List.exists_of_findSome?_eq_some first.symm
    refine ⟨comparison, member, Classical.byContradiction fun comparable => ?_⟩
    rw [evaluatedFault_eq_checkedFault attributes comparable, unrefused comparison member] at fault
    contradiction
  · rintro ⟨comparison, member, incomparable⟩
    obtain ⟨-, fault, fails, -⟩ := incomparable.faults attributes
    cases evaluated : condition.evaluate path attributes with
    | error error => exact ⟨error, rfl⟩
    | ok holds =>
      rw [evaluated] at first
      have none_found := List.findSome?_eq_none_iff.mp first.symm comparison member
      simp [fails] at none_found

/-- The condition of an accepted statement fails for an entry just where the entry can be read and
    some comparison has no answer. -/
theorem holdsAt_fails_iff {condition : Condition} (passes : condition.check = .ok ())
    (tree : FileTree) (path : Path) :
    (∃ error, condition.holdsAt tree path = .error (.condition error)) ↔
      (∃ attributes, Attributes.read tree path condition.needsContent = .ok attributes) ∧
        ∃ comparison ∈ condition.comparisons, Incomparable comparison := by
  cases condition with
  | literal value => simp [holdsAt, comparisons]
  | binary operator left right =>
    rw [holdsAt]
    cases read : Attributes.read tree path (binary operator left right).needsContent with
    | error error => simp
    | ok attributes =>
      rw [← evaluate_fails_iff passes path.text attributes]
      cases evaluated : (binary operator left right).evaluate path.text attributes <;>
        simp [evaluated, mapError_ok, mapError_error]

end Condition

namespace Plan

variable {plan : Plan} {tree : FileTree}

/-- An entry is admitted or not without a fault of the condition, if the condition has none. -/
theorem admits_ne_condition (sound : ∀ condition ∈ plan.condition, ∀ path error,
      condition.holdsAt tree path ≠ .error (.condition error)) (path : Path) (node : Node)
    (error : ConditionError) : plan.admits tree path node ≠ .error (.condition error) := by
  unfold admits
  split
  · simp
  cases present : plan.condition with
  | none => simp
  | some condition =>
    have unfailing := sound condition present path error
    dsimp only
    cases held : condition.holdsAt tree path with
    | ok holds => simp
    | error fault =>
      dsimp only
      split
      · simp
      · rintro ⟨⟩
        exact unfailing held

/-- The matches among entries are found without a fault of the condition, if it has none. -/
theorem matchesAmong_ne_condition (sound : ∀ condition ∈ plan.condition, ∀ path error,
      condition.holdsAt tree path ≠ .error (.condition error)) (folder : Path)
    (entries : List (String × Node)) (error : ConditionError) :
    plan.matchesAmong tree folder entries ≠ .error (.condition error) := by
  induction entries with
  | nil => simp [matchesAmong]
  | cons entry rest inductionHypothesis =>
    obtain ⟨name, node⟩ := entry
    have first := admits_ne_condition sound (folder.child name) node error
    rw [matchesAmong]
    split
    · exact inductionHypothesis
    · split
      · rename_i failed
        rintro ⟨⟩
        exact first failed
      · exact inductionHypothesis
      · cases later : plan.matchesAmong tree folder rest <;> simp_all [Except.map]

/-- The matches of a plan are found without a fault of the condition, if it has none. -/
theorem findMatches_ne_condition (sound : ∀ condition ∈ plan.condition, ∀ path error,
      condition.holdsAt tree path ≠ .error (.condition error)) (root : Path)
    (error : ConditionError) : plan.findMatches tree root ≠ .error (.condition error) := by
  unfold findMatches
  dsimp only
  split
  · simp
  · simp
  · exact matchesAmong_ne_condition sound _ _ error
  · simp
  · simp

end Plan

namespace Condition

/-- Checking and evaluation agree on a condition, whatever the file, if and only if before each
    comparison that has no answer stands one that the check refuses. So the condition of an
    accepted statement fails for just those entries that can be read, if some comparison has no
    answer, and if all have one it never fails. -/
theorem evaluate_agrees_iff (condition : Condition) (path : String) (attributes : Attributes) :
    ((∀ error, condition.evaluate path attributes = .error error ↔
      condition.check = .error error) ↔ Decided condition.comparisons) ∧
    ∀ statement plan, Plan.ofStatement statement = .ok plan → plan.condition = some condition →
      (∀ tree entry, (∃ error, condition.holdsAt tree entry = .error (.condition error)) ↔
        (∃ attributes, Attributes.read tree entry condition.needsContent = .ok attributes) ∧
          ∃ comparison ∈ condition.comparisons, Incomparable comparison) ∧
      ((∀ comparison ∈ condition.comparisons, ¬ Incomparable comparison) →
        ∀ tree root error, plan.findMatches tree root ≠ .error (.condition error)) := by
  refine ⟨?_, fun statement plan accepted present => ?_⟩
  · rw [← firstFault_eq_iff attributes, ← faultOf_evaluate path, ← faultOf_check]
    constructor
    · intro agree
      ext error
      simpa using agree error
    · intro same error
      rw [← faultOf_eq_some, same, faultOf_eq_some]
  · have accepts := (Plan.ofStatement_eq_ok_iff statement plan).mp accepted
    have passes : condition.check = .ok () :=
      accepts.condition condition (accepts.sameCondition ▸ present)
    refine ⟨fun tree entry => holdsAt_fails_iff passes tree entry, fun comparable tree root => ?_⟩
    refine Plan.findMatches_ne_condition (fun other present' entry error fails => ?_) root
    obtain rfl := Option.some.inj (present.symm.trans present')
    obtain ⟨-, comparison, member, incomparable⟩ :=
      (holdsAt_fails_iff passes tree entry).mp ⟨error, fails⟩
    exact comparable comparison member incomparable

/-- A statement that compares a time is accepted, and its condition fails for no entry. -/
theorem evaluate_modified_agrees :
    ∃ statement plan condition, Plan.ofStatement statement = .ok plan ∧
      plan.condition = some condition ∧
      condition.comparisons = [(.less, literal "modified", literal "2021-01-01")] ∧
      ∀ tree root error, plan.findMatches tree root ≠ .error (.condition error) := by
  let condition := binary .less (literal "modified") (literal "2021-01-01")
  have accepted : Plan.ofStatement (.select ⟨"files", "", some condition⟩) =
      .ok ⟨.files, "", some condition, .select⟩ := rfl
  obtain ⟨-, decides⟩ := evaluate_agrees_iff condition "" ⟨"", "", 0, none, .epoch, .epoch, .epoch⟩
  refine ⟨_, _, condition, accepted, rfl, rfl, (decides _ _ accepted rfl).2 ?_⟩
  intro comparison member incomparable
  obtain rfl := List.mem_singleton.mp member
  exact absurd incomparable.left_eq (by decide)

/-- A comparison of the size with `nan` passes the check, and its evaluation fails. -/
theorem evaluate_nan_disagrees :
    ¬ ∀ (condition : Condition) (path : String) (attributes : Attributes) (error : ConditionError),
      condition.evaluate path attributes = .error error ↔ condition.check = .error error := by
  intro agree
  obtain ⟨attributes⟩ : Nonempty Attributes := ⟨⟨"note", "txt", 2, none, .epoch, .epoch, .epoch⟩⟩
  have passes : (binary .greater (literal "size") (literal "nan")).check = .ok () := rfl
  obtain ⟨error, fails⟩ := (evaluate_fails_iff passes "note.txt" attributes).mpr
    ⟨_, List.mem_singleton.mpr rfl, .mk rfl rfl⟩
  have refused := (agree _ "note.txt" attributes error).mp fails
  simp [passes] at refused

end Condition

end FileQuery
