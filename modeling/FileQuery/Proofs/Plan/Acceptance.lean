import FileQuery.Plan

/-!
# Accepted statements

A statement has a plan if and only if each of the checks lets it pass, and the plan says what the
statement says.
-/

namespace FileQuery

/-- Two steps in sequence succeed if both do. -/
theorem bind_eq_ok_iff {ε α β : Type} {first : Except ε α} {second : α → Except ε β} {value : β} :
    first >>= second = .ok value ↔ ∃ middle, first = .ok middle ∧ second middle = .ok value := by
  cases first with
  | error error => simp [bind, Except.bind]
  | ok middle => simp [bind, Except.bind]

/-- Two steps in sequence fail if the first one fails, or the second one after it. -/
theorem bind_eq_error_iff {ε α β : Type} {first : Except ε α} {second : α → Except ε β}
    {error : ε} : first >>= second = .error error ↔
      first = .error error ∨ ∃ middle, first = .ok middle ∧ second middle = .error error := by
  cases first with
  | error other => simp [bind, Except.bind]
  | ok middle => simp [bind, Except.bind]

theorem mapError_ok {ε δ α : Type} (rename : ε → δ) (value : α) :
    (Except.ok value).mapError rename = .ok value := rfl

theorem mapError_error {ε δ α : Type} (rename : ε → δ) (error : ε) :
    (Except.error error : Except ε α).mapError rename = .error (rename error) := rfl

namespace Plan

/-- A statement passes every check, and a plan says the same. -/
structure Accepts (statement : Statement) (plan : Plan) : Prop where
  target : Target.ofText? statement.selection.target = some plan.target
  action : actionOf plan.target statement = .ok plan.action
  source : confine plan.action.operation statement.selection.source = .ok ()
  destination : ∀ destination ∈ plan.action.destination?,
    confine plan.action.operation destination = .ok ()
  condition : ∀ condition ∈ statement.selection.condition, condition.check = .ok ()
  sameSource : plan.source = statement.selection.source
  sameCondition : plan.condition = statement.selection.condition

theorem targetOf_eq_ok_iff {written : String} {target : Target} :
    targetOf written = .ok target ↔ Target.ofText? written = some target := by
  unfold targetOf
  cases Target.ofText? written <;> simp

theorem confineAction_eq_ok_iff {action : Action} :
    confineAction action = .ok () ↔
      ∀ destination ∈ action.destination?, confine action.operation destination = .ok () := by
  unfold confineAction
  cases action.destination? <;> simp

theorem checkCondition_eq_ok_iff {condition : Option Condition} :
    checkCondition condition = .ok () ↔ ∀ found ∈ condition, found.check = .ok () := by
  cases condition with
  | none => simp [checkCondition]
  | some condition =>
    cases checked : condition.check <;> simp [checkCondition, checked, mapError_ok, mapError_error]

/-- The plan of a statement is found if and only if the statement passes every check. -/
theorem ofStatement_eq_ok_iff (statement : Statement) (plan : Plan) :
    ofStatement statement = .ok plan ↔ Accepts statement plan := by
  unfold ofStatement
  simp only [bind_eq_ok_iff, targetOf_eq_ok_iff]
  constructor
  · rintro ⟨target, selects, action, suits, ⟨⟩, source, ⟨⟩, destination, ⟨⟩, condition, same⟩
    obtain rfl := Except.ok.inj same
    exact ⟨selects, suits, source, confineAction_eq_ok_iff.mp destination,
      checkCondition_eq_ok_iff.mp condition, rfl, rfl⟩
  · intro accepts
    obtain ⟨target, source, condition, action⟩ := plan
    obtain ⟨selects, suits, inside, destination, checked, rfl, rfl⟩ := accepts
    exact ⟨target, selects, action, suits, (), inside, (), confineAction_eq_ok_iff.mpr destination,
      (), checkCondition_eq_ok_iff.mpr checked, rfl⟩

/-- What the action of a statement has of the statement: it is the statement's operation, an archive
    has a name with an extension, and files are converted to a format that is known. -/
structure Suits (target : Target) (statement : Statement) (action : Action) : Prop where
  operation : action.operation = statement.operation
  archive : ∀ destination, action = .archive destination → hasExtension destination = true
  convert : ∀ format, action = .convert format →
    target = .files ∧ ∃ written, MediaFormat.ofText? written = some format

/-- The action of a statement suits the statement. -/
theorem suits_of_actionOf {target : Target} {statement : Statement} {action : Action}
    (does : actionOf target statement = .ok action) : Suits target statement action := by
  unfold actionOf at does
  cases statement with
  | select | delete =>
    obtain rfl := Except.ok.inj does
    exact ⟨rfl, by simp, by simp⟩
  | move | copy =>
    obtain ⟨_, -, same⟩ := bind_eq_ok_iff.mp does
    obtain rfl := Except.ok.inj same
    exact ⟨rfl, by simp, by simp⟩
  | archive =>
    dsimp only at does
    split at does
    · contradiction
    · rename_i extended
      obtain ⟨_, -, same⟩ := bind_eq_ok_iff.mp does
      obtain rfl := Except.ok.inj same
      refine ⟨rfl, fun destination same => ?_, by simp⟩
      obtain rfl := Action.archive.inj same
      simpa using extended
  | unarchive =>
    dsimp only at does
    split at does
    · contradiction
    split at does
    · contradiction
    · obtain ⟨_, -, same⟩ := bind_eq_ok_iff.mp does
      obtain rfl := Except.ok.inj same
      exact ⟨rfl, by simp, by simp⟩
  | convert =>
    dsimp only at does
    split at does
    · contradiction
    rename_i notFolders
    split at does
    · contradiction
    split at does
    · rename_i reads
      obtain rfl := Except.ok.inj does
      refine ⟨rfl, by simp, fun format same => ?_⟩
      obtain rfl := Action.convert.inj same
      refine ⟨?_, _, reads⟩
      cases target with
      | files => rfl
      | folders => exact absurd rfl notFolders
    · contradiction

end Plan

end FileQuery
