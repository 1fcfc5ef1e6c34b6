import FileQuery.Proofs.Execution.Accounting
import FileQuery.Proofs.Path.Steps
import FileQuery.Proofs.Plan.Acceptance

/-!
# Statements from a place to the same place

Two paths name the same place below a folder if they take the same steps. A statement from a place
to the same place is refused if both of its paths have the same components, and what keeps paths of
the same steps from that is the dot at the start of one of them, which is a component. So such a
statement is accepted if just one of its paths begins with a dot, and refused else. The matches of
an accepted one are moved or copied to where they are.
-/

namespace FileQuery

open FileTree (steps)

namespace Plan

variable {statement : Statement} {destination : String} {target : Target}

/-! ## Acceptance -/

/-- What the operation of a statement demands of its target and its destination. -/
structure Demands (target : Target) (operation : Operation) (destination : String) : Prop where
  archive : operation = .archive → hasExtension destination = true
  unarchive : operation = .unarchive → target = .files ∧ hasExtension destination = false

/-- A statement passes each check but the one for its location. -/
structure SuitsElse (statement : Statement) (destination : String) : Prop where
  target : ∃ target, Target.ofText? statement.selection.target = some target ∧
    Demands target statement.operation destination
  source : confine statement.operation statement.selection.source = .ok ()
  destination : confine statement.operation destination = .ok ()
  condition : ∀ condition ∈ statement.selection.condition, condition.check = .ok ()

theorem rejectSameLocation_eq_ok_iff {operation : Operation} {source destination : String} :
    rejectSameLocation operation source destination = .ok () ↔
      Path.same ⟨destination⟩ ⟨source⟩ = false := by
  unfold rejectSameLocation
  cases Path.same ⟨destination⟩ ⟨source⟩ <;> simp

/-- An action that writes to a path is what its operation makes of the path. -/
theorem action_eq_iff {made action : Action} (goal : made.destination? = some destination) :
    made = action ↔ action.operation = made.operation ∧ action.destination? = some destination := by
  constructor
  · rintro rfl
    exact ⟨rfl, goal⟩
  · rintro ⟨operation, goal'⟩
    cases made <;> cases action <;> simp_all [Action.operation, Action.destination?]

/-- An action is made of a statement if its location passes. -/
theorem located_eq_ok_iff {operation : Operation} {source : String} {made action : Action}
    (goal : made.destination? = some destination) :
    (do rejectSameLocation operation source destination; return made) = Except.ok action ↔
      Path.same ⟨destination⟩ ⟨source⟩ = false ∧ action.operation = made.operation ∧
        action.destination? = some destination := by
  rw [bind_eq_ok_iff, ← action_eq_iff goal]
  constructor
  · rintro ⟨_, passes, same⟩
    exact ⟨rejectSameLocation_eq_ok_iff.mp passes, Except.ok.inj same⟩
  · rintro ⟨differs, rfl⟩
    exact ⟨(), rejectSameLocation_eq_ok_iff.mpr differs, rfl⟩

/-- A statement from one path to another has an action if what its operation demands is given and
    its location passes, and the action writes to the other path. -/
theorem actionOf_eq_ok_iff {action : Action} (goal : statement.destination? = some destination)
    (transfers : statement.operation ≠ .convert) :
    actionOf target statement = .ok action ↔ Demands target statement.operation destination ∧
      Path.same ⟨destination⟩ ⟨statement.selection.source⟩ = false ∧
      action.operation = statement.operation ∧ action.destination? = some destination := by
  cases statement with
  | select | delete => cases goal
  | convert => exact absurd rfl transfers
  | move selection other | copy selection other =>
    obtain rfl := Option.some.inj goal
    exact (located_eq_ok_iff rfl).trans (and_iff_right ⟨nofun, nofun⟩).symm
  | archive selection other =>
    obtain rfl := Option.some.inj goal
    cases extended : hasExtension other with
    | false =>
      refine iff_of_false (fun does => ?_) fun ⟨demands, _⟩ => ?_
      · simp [actionOf, extended, bind, Except.bind] at does
      · simpa [extended] using demands.archive rfl
    | true =>
      have demands : Demands target .archive other := ⟨fun _ => extended, nofun⟩
      simp only [actionOf, extended, Bool.not_true, Bool.false_eq_true, if_false]
      exact (located_eq_ok_iff rfl).trans (and_iff_right demands).symm
  | unarchive selection other =>
    obtain rfl := Option.some.inj goal
    by_cases fits : target = .files ∧ hasExtension other = false
    · obtain ⟨rfl, plain⟩ := fits
      have demands : Demands .files .unarchive other := ⟨nofun, fun _ => ⟨rfl, plain⟩⟩
      simp only [actionOf, plain, reduceCtorEq, Bool.false_eq_true, if_false]
      exact (located_eq_ok_iff rfl).trans (and_iff_right demands).symm
    · refine iff_of_false (fun does => ?_) fun ⟨demands, _⟩ => fits (demands.unarchive rfl)
      cases target with
      | files =>
        have extended : hasExtension other = true := by simpa using fits
        simp [actionOf, extended, bind, Except.bind] at does
      | folders => simp [actionOf, bind, Except.bind] at does

/-- A statement from one path to another is accepted if it passes each other check and its paths
    differ in a component. -/
theorem exists_plan_iff (goal : statement.destination? = some destination)
    (transfers : statement.operation ≠ .convert) :
    (∃ plan, ofStatement statement = .ok plan) ↔ SuitsElse statement destination ∧
      Path.same ⟨destination⟩ ⟨statement.selection.source⟩ = false := by
  simp only [ofStatement_eq_ok_iff]
  constructor
  · rintro ⟨plan, target, does, source, inside, condition, -, -⟩
    obtain ⟨demands, differs, operation, writes⟩ := (actionOf_eq_ok_iff goal transfers).mp does
    rw [operation] at source inside
    exact ⟨⟨⟨plan.target, target, demands⟩, source, inside destination writes, condition⟩, differs⟩
  · rintro ⟨⟨⟨target, named, demands⟩, source, inside, condition⟩, differs⟩
    obtain ⟨action, operation, writes⟩ : ∃ action : Action,
        action.operation = statement.operation ∧ action.destination? = some destination := by
      cases statement with
      | select | delete => cases goal
      | convert => exact absurd rfl transfers
      | move => exact ⟨.move destination, rfl, rfl⟩
      | copy => exact ⟨.copy destination, rfl, rfl⟩
      | archive => exact ⟨.archive destination, rfl, rfl⟩
      | unarchive => exact ⟨.unarchive destination, rfl, rfl⟩
    have does := (actionOf_eq_ok_iff goal transfers).mpr ⟨demands, differs, operation, writes⟩
    refine ⟨⟨target, statement.selection.source, statement.selection.condition, action⟩, named,
      does, operation ▸ source, fun other isGoal => ?_, condition, rfl, rfl⟩
    obtain rfl : destination = other := Option.some.inj (writes.symm.trans isGoal)
    exact operation ▸ inside

/-! ## Refusal -/

variable {operation : Operation} {location : String}

theorem located_eq_error_iff {source : String} {made : Operation} {action : Action} :
    (do rejectSameLocation made source destination; return action) =
      Except.error (.sameLocation operation location) ↔
      Path.same ⟨destination⟩ ⟨source⟩ = true ∧ made = operation ∧ destination = location := by
  unfold rejectSameLocation
  cases Path.same ⟨destination⟩ ⟨source⟩ <;> simp [bind, Except.bind, pure, Except.pure]

/-- What is refused for its location writes to the path that it comes from, with the operation and
    the destination in the refusal. -/
theorem actionOf_sameLocation
    (refused : actionOf target statement = .error (.sameLocation operation location)) :
    statement.operation = operation ∧ operation ≠ .convert ∧
      statement.destination? = some location ∧
      Path.same ⟨location⟩ ⟨statement.selection.source⟩ = true := by
  unfold actionOf at refused
  cases statement with
  | select | delete => cases refused
  | move | copy =>
    obtain ⟨same, rfl, rfl⟩ := located_eq_error_iff.mp refused
    exact ⟨rfl, by decide, rfl, same⟩
  | archive =>
    dsimp only at refused
    split at refused
    · cases refused
    · obtain ⟨same, rfl, rfl⟩ := located_eq_error_iff.mp refused
      exact ⟨rfl, by decide, rfl, same⟩
  | unarchive =>
    dsimp only at refused
    split at refused
    · cases refused
    split at refused
    · cases refused
    · obtain ⟨same, rfl, rfl⟩ := located_eq_error_iff.mp refused
      exact ⟨rfl, by decide, rfl, same⟩
  | convert =>
    dsimp only at refused
    split at refused
    · cases refused
    split at refused
    · cases refused
    split at refused <;> cases refused

/-- Only a statement to the path that it comes from is refused for its location. -/
theorem ofStatement_sameLocation
    (refused : ofStatement statement = .error (.sameLocation operation location)) :
    statement.operation = operation ∧ operation ≠ .convert ∧
      statement.destination? = some location ∧
      Path.same ⟨location⟩ ⟨statement.selection.source⟩ = true := by
  have confines {operation' : Operation} {path : String} :
      confine operation' path ≠ .error (.sameLocation operation location) := by
    unfold confine
    split <;> simp
  simp only [ofStatement, bind_eq_error_iff] at refused
  rcases refused with unknown | ⟨target, -, does | ⟨action, -, source | ⟨_, -, inside |
    ⟨_, -, checked | ⟨_, -, done⟩⟩⟩⟩⟩
  · unfold targetOf at unknown
    split at unknown <;> cases unknown
  · exact actionOf_sameLocation does
  · exact absurd source confines
  · unfold confineAction at inside
    split at inside
    · exact absurd inside confines
    · cases inside
  · unfold checkCondition at checked
    split at checked
    · rename_i condition _
      cases found : condition.check <;> simp [found, mapError_ok, mapError_error] at checked
    · cases checked
  · cases done

/-! ## The same place -/

/-- The place in a folder that a match is moved or copied to is its own place if and only if the
    folder is where the match is. -/
theorem steps_target_iff {plan : Plan} {tree : FileTree} {root path : Path} {found : List Path}
    (accepted : ofStatement statement = .ok plan)
    (goal : plan.action.destination? = some destination)
    (named : tree.Named) (finds : plan.findMatches tree root = .ok found) (member : path ∈ found) :
    ∃ name, path.fileName? = some name ∧
      (steps ((root.join ⟨destination⟩).child name) = steps path ↔
        steps ⟨statement.selection.source⟩ = steps ⟨destination⟩) := by
  have accepts := (ofStatement_eq_ok_iff statement plan).mp accepted
  obtain ⟨relative, -⟩ := Path.isName_of_confine accepts.source
  obtain ⟨relative', -⟩ := Path.isName_of_confine (accepts.destination destination goal)
  obtain ⟨_, _, _, _, -, -, all⟩ := exists_of_findMatches named finds
  obtain ⟨name, _, isName, rfl, -, -⟩ := all path member
  have down (base : Path) : steps (base.child name) = steps base ++ [name] := by
    rw [Path.child, Path.steps_join isName.relative, Path.steps_of_isName isName]
  refine ⟨name, Path.fileName?_child _ isName, ?_⟩
  rw [down, down, folder, accepts.sameSource, Path.steps_join relative, Path.steps_join relative',
    List.append_cancel_right_eq, List.append_cancel_left_eq, eq_comm]

/-- Which statements from a place to the same place are refused, and why. A statement whose paths
    take the same steps is refused unless it passes each other check and just one of its paths
    begins with a dot. Statements are refused for their location only if their paths take the same
    steps. A match of an accepted statement is moved or copied to its own place if and only if the
    paths of the statement take the same steps, and then just one of them begins with a dot. -/
theorem rejects_samePlace_iff (goal : statement.destination? = some destination)
    (transfers : statement.operation ≠ .convert) :
    let source : Path := ⟨statement.selection.source⟩
    let target : Path := ⟨destination⟩
    ((steps source = steps target → ∃ error, ofStatement statement = .error error) ↔
      ¬ (SuitsElse statement destination ∧ steps source = steps target ∧
        source.startsHere ≠ target.startsHere)) ∧
    (∀ operation location,
      ofStatement statement = .error (.sameLocation operation location) →
        operation = statement.operation ∧ location = destination ∧ steps source = steps target) ∧
    (∀ plan, ofStatement statement = .ok plan → statement.operation = .move ∨
      statement.operation = .copy → ∀ tree root found, tree.Named →
        plan.findMatches tree root = .ok found → ∀ path ∈ found,
          ∃ name, path.fileName? = some name ∧
            (steps ((root.join target).child name) = steps path ↔
              steps source = steps target ∧ source.startsHere ≠ target.startsHere)) := by
  intro source target
  have accepted_iff := exists_plan_iff goal transfers
  have differs (suits : SuitsElse statement destination) (same : steps source = steps target) :
      target.same source = false ↔ source.startsHere ≠ target.startsHere := by
    have relative := (Path.isName_of_confine suits.source).1
    have relative' := (Path.isName_of_confine suits.destination).1
    rw [← Bool.not_eq_true, Path.same_iff, relative, relative', same]
    simp [eq_comm]
  refine ⟨⟨fun refuses => ?_, fun unsuited same => ?_⟩, ?_, ?_⟩
  · rintro ⟨suits, same, apart⟩
    obtain ⟨plan, accepted⟩ := accepted_iff.mpr ⟨suits, (differs suits same).mpr apart⟩
    obtain ⟨error, refused⟩ := refuses same
    cases accepted.symm.trans refused
  · cases made : ofStatement statement with
    | error error => exact ⟨error, rfl⟩
    | ok plan =>
      obtain ⟨suits, other⟩ := accepted_iff.mp ⟨plan, made⟩
      exact absurd ⟨suits, same, (differs suits same).mp other⟩ unsuited
  · intro operation location refused
    obtain ⟨rfl, -, isGoal, same⟩ := ofStatement_sameLocation refused
    obtain rfl : destination = location := Option.some.inj (goal.symm.trans isGoal)
    exact ⟨rfl, rfl, (Path.same_iff.mp same).2.2.symm⟩
  · intro plan accepted _ tree root found named finds path member
    have accepts := (ofStatement_eq_ok_iff statement plan).mp accepted
    obtain ⟨-, -, -, writes⟩ := (actionOf_eq_ok_iff goal transfers).mp accepts.action
    obtain ⟨suits, other⟩ := accepted_iff.mp ⟨plan, accepted⟩
    obtain ⟨name, ends, itself⟩ := steps_target_iff accepted writes named finds member
    exact ⟨name, ends, itself.trans (iff_self_and.mpr fun same => (differs suits same).mp other)⟩

/-- A dot at the end of a path does not hide where it leads. -/
theorem rejects_samePlace_dotted :
    (Statement.copy ⟨"files", "a", none⟩ "a/.").destination? = some "a/." ∧
    (Statement.copy ⟨"files", "a", none⟩ "a/.").operation ≠ .convert ∧
    ∃ error, ofStatement (.copy ⟨"files", "a", none⟩ "a/.") = .error error := by
  have goal : (Statement.copy ⟨"files", "a", none⟩ "a/.").destination? = some "a/." := rfl
  have transfers : (Statement.copy ⟨"files", "a", none⟩ "a/.").operation ≠ .convert := by decide
  have refuses := (rejects_samePlace_iff goal transfers).1.mpr fun ⟨_, _, apart⟩ => apart rfl
  exact ⟨goal, transfers, refuses (by decide)⟩

/-- Not every statement from a place to the same place is refused: a dot at the start of one path
    hides where it leads. -/
theorem not_forall_rejects_samePlace :
    ¬ ∀ (statement : Statement) (destination : String),
      statement.destination? = some destination → statement.operation ≠ .convert →
        steps ⟨statement.selection.source⟩ = steps ⟨destination⟩ →
          ∃ error, ofStatement statement = .error error := by
  intro refuses
  obtain ⟨error, refused⟩ := refuses (.move ⟨"files", "a", none⟩ "./a") "./a" rfl (by decide)
    (by decide)
  have accepted : ofStatement (.move ⟨"files", "a", none⟩ "./a") =
      .ok ⟨.files, "a", none, .move "./a"⟩ := rfl
  cases accepted.symm.trans refused

end Plan

end FileQuery
