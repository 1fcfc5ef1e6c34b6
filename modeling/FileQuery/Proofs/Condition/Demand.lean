import FileQuery.Proofs.Condition.Checking
import FileQuery.Proofs.Transfer.Protection

/-!
# Contents on demand

The content of a file is read only for a condition that compares it. What a condition comes to, a
value or a fault, depends on nothing but the path and the properties that its comparisons name on
their left, so a content that was not read is not missed: the answer is the same as if the content
had been read for every condition.
-/

namespace FileQuery

variable {tree : FileTree} {path : Path} {text : String} {node : Node}
  {first second : Attributes} {property : Property}

/-- Two descriptions of files tell the same of the properties that comparisons name on their
    left. -/
def Attributes.AgreeOn (comparisons : List (Operator × Condition × Condition))
    (first second : Attributes) : Prop :=
  ∀ comparison ∈ comparisons, ∀ property : Property,
    comparison.2.1 = .literal property.text → first.value property = second.value property

/-- A description with the content and one without it differ in nothing else. -/
theorem Attributes.value_ofNode (other : property ≠ .content) (withContent withContent' : Bool) :
    (ofNode path withContent node).value property =
      (ofNode path withContent' node).value property := by
  cases property with
  | content => contradiction
  | _ => cases node <;> rfl

namespace Condition

/-- What a comparison comes to depends on the property that it names on its left. -/
theorem compare_congr (same : first.value property = second.value property)
    (operator : Operator) (value : String) :
    compare operator property value first = compare operator property value second := by
  unfold compare
  rw [same]

/-- What a condition comes to depends on the properties that its comparisons name on their left.
    AND and OR ask no property, and comparisons are not searched for others. -/
theorem evaluate_congr {condition : Condition}
    (agree : Attributes.AgreeOn condition.comparisons first second) :
    condition.evaluate text first = condition.evaluate text second := by
  induction condition with
  | literal value => rfl
  | binary operator left right inductionLeft inductionRight =>
    rw [evaluate, evaluate]
    rw [comparisons] at agree
    by_cases logical : operator.isLogical
    · rw [if_pos logical] at agree
      rw [if_pos logical, if_pos logical,
        inductionLeft fun comparison member => agree comparison (List.mem_append_left _ member),
        inductionRight fun comparison member => agree comparison (List.mem_append_right _ member)]
    · rw [if_neg logical] at agree
      rw [if_neg logical, if_neg logical]
      cases read : operands left right with
      | error error => rfl
      | ok named =>
        obtain ⟨property, value⟩ := named
        obtain ⟨isProperty, -⟩ := operands_eq_ok read
        exact compare_congr (agree _ (List.mem_singleton.mpr rfl) property isProperty) operator
          value

/-- A condition that needs no content names the content in no comparison. -/
theorem agreeOn_of_needsContent {condition : Condition} (spared : condition.needsContent = false) :
    Attributes.AgreeOn condition.comparisons (.ofNode path false node)
      (.ofNode path true node) := by
  intro comparison member property named
  refine Attributes.value_ofNode (fun isContent => ?_) _ _
  subst isContent
  have asks := List.any_eq_false.mp spared comparison member
  exact asks (beq_iff_eq.mpr named)

/-- What is read for a condition is as good as what is read with the content. -/
theorem evaluate_ofNode (condition : Condition) (path : Path) (text : String) (node : Node) :
    condition.evaluate text (.ofNode path condition.needsContent node) =
      condition.evaluate text (.ofNode path true node) := by
  cases needed : condition.needsContent with
  | true => rfl
  | false => exact evaluate_congr (agreeOn_of_needsContent needed)

/-- To read contents on demand changes no answer. What a condition comes to for a file or folder is
    what it comes to with the content read, and a fault of reading it is the same; only a literal
    alone reads nothing. And any two descriptions that tell the same of the properties which the
    comparisons name on their left have the same answer. -/
theorem holdsAt_eq_evaluate (condition : Condition) (tree : FileTree) (path : Path) :
    (∀ attributes, Attributes.read tree path true = .ok attributes →
      condition.holdsAt tree path =
        (condition.evaluate path.text attributes).mapError .condition) ∧
    (∀ error, Attributes.read tree path true = .error error →
      (∀ value, condition ≠ .literal value) →
        condition.holdsAt tree path = .error (.file path error)) ∧
    ∀ (text : String) (first second : Attributes),
      Attributes.AgreeOn condition.comparisons first second →
        condition.evaluate text first = condition.evaluate text second := by
  refine ⟨fun attributes reads => ?_, fun error fails notLiteral => ?_,
    fun text first second => evaluate_congr⟩
  · unfold Attributes.read at reads
    cases condition with
    | literal value => rfl
    | binary operator left right =>
      rw [holdsAt, Attributes.read]
      cases found : tree.find path with
      | error error =>
        rw [found] at reads
        cases reads
      | ok node =>
        rw [found] at reads
        obtain rfl := Except.ok.inj reads
        exact congrArg (Except.mapError ExecutionError.condition)
          (evaluate_ofNode (.binary operator left right) path path.text node)
  · unfold Attributes.read at fails
    cases condition with
    | literal value => exact absurd rfl (notLiteral value)
    | binary operator left right =>
      rw [holdsAt, Attributes.read]
      cases found : tree.find path with
      | error error' =>
        rw [found] at fails
        obtain rfl := Except.error.inj fails
        rfl
      | ok node =>
        rw [found] at fails
        cases fails

/-- A condition on the name is answered for a file without its content as it is with it, a missing
    file cannot be read with or without it, and nothing but the name is asked. -/
theorem holdsAt_eq_evaluate_oneFile :
    ∃ attributes, Attributes.read (.oneFile [104, 105]) ⟨"/a/x"⟩ true = .ok attributes ∧
      Attributes.read (.oneFile [104, 105]) ⟨"/a/y"⟩ true = .error .notFound ∧
      attributes.content = some "hi" ∧
      (binary .less (literal "name") (literal "y")).holdsAt (.oneFile [104, 105]) ⟨"/a/x"⟩ =
        ((binary .less (literal "name") (literal "y")).evaluate "/a/x" attributes).mapError
          .condition ∧
      (binary .less (literal "name") (literal "y")).holdsAt (.oneFile [104, 105]) ⟨"/a/y"⟩ =
        .error (.file ⟨"/a/y"⟩ .notFound) ∧
      (binary .less (literal "name") (literal "y")).evaluate "/a/x" attributes =
        (binary .less (literal "name") (literal "y")).evaluate "/a/x"
          { attributes with size := 0, content := none } := by
  obtain ⟨-, -, leads, -⟩ := FileTree.resolve_oneFile [104, 105] .follow
  have reads : Attributes.read (.oneFile [104, 105]) ⟨"/a/x"⟩ true =
      .ok (.ofNode ⟨"/a/x"⟩ true (.file (.ofInstant .epoch) false [104, 105])) := by
    rw [Attributes.read, FileTree.find, FileTree.locate, leads]
    rfl
  have missing : (FileTree.oneFile [104, 105]).resolve .follow ⟨"/a/y"⟩ =
      .ok ⟨["a", "y"], none, false⟩ := by
    simp [FileTree.oneFile, FileTree.resolve, FileTree.checkPath, FileTree.pathLimit,
      FileTree.names, Path.segments, FileTree.descend, FileTree.start, Path.isAbsolute,
      FileTree.get?, Node.get?, FileTree.nameLimit, Text.byteLength, Char.utf8Size,
      List.lookup_cons]
  have fails : Attributes.read (.oneFile [104, 105]) ⟨"/a/y"⟩ true = .error .notFound := by
    rw [Attributes.read, FileTree.find, FileTree.locate, missing]
    rfl
  have agree : Attributes.AgreeOn (binary .less (literal "name") (literal "y")).comparisons
      (.ofNode ⟨"/a/x"⟩ true (.file (.ofInstant .epoch) false [104, 105]))
      { Attributes.ofNode ⟨"/a/x"⟩ true (.file (.ofInstant .epoch) false [104, 105]) with
        size := 0, content := none } := by
    intro comparison member property named
    obtain rfl := List.mem_singleton.mp member
    obtain rfl : property = .name := by
      cases property <;> simp [Property.text] at named ⊢
    rfl
  have laws := holdsAt_eq_evaluate (binary .less (literal "name") (literal "y"))
    (.oneFile [104, 105])
  exact ⟨_, reads, fails, by decide +kernel, (laws ⟨"/a/x"⟩).1 _ reads,
    (laws ⟨"/a/y"⟩).2.1 _ fails (fun _ same => by cases same), (laws ⟨"/a/x"⟩).2.2 _ _ _ agree⟩

end Condition

end FileQuery
