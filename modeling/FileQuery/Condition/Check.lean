import FileQuery.Pattern
import FileQuery.Property
import FileQuery.Statement

/-!
# Checking and evaluating conditions

A comparison has a property on its left and a literal on its right. LIKE and `=` test whether the
literal, as a pattern, occurs in the text of the property's value, and `!=` whether it does not.
The other operators compare by order. AND and OR evaluate both sides, so a faulty comparison is
found wherever it stands.

A condition can be checked without a file: `Condition.check` finds the first comparison with an
unknown property, a literal that is no pattern, or a literal that is no value.
-/

namespace FileQuery

/-- What can be wrong with a comparison. -/
inductive ConditionError
  | unsupportedProperty (name : String)
  | invalidPattern (pattern reason : String)
  | invalidValue (property : Property) (value : String)
  | invalidExpression (left right : Condition)
  deriving DecidableEq, Repr

/-- The description of an error. -/
def ConditionError.message : ConditionError → String
  | unsupportedProperty name => "Unsupported property: '" ++ name ++ "'"
  | invalidPattern pattern reason => "Invalid pattern '" ++ pattern ++ "': " ++ reason
  | invalidValue property value =>
    "Invalid value '" ++ value ++ "' for property '" ++ property.text ++ "'"
  | invalidExpression left right => "Invalid expression: " ++ left.text ++ " / " ++ right.text

namespace Condition

/-- The property and the literal of a comparison. -/
def operands : Condition → Condition → Except ConditionError (Property × String)
  | literal name, literal value =>
    match Property.ofText? name with
    | some property => .ok (property, value)
    | none => .error (.unsupportedProperty name)
  | left, right => .error (.invalidExpression left right)

/-- The regular expression of a literal. -/
def pattern (literal : String) : Except ConditionError Pattern.Regular :=
  (Pattern.compile literal).mapError (ConditionError.invalidPattern literal)

/-- The value of a literal for a property. -/
def coerce (property : Property) (literal : String) : Except ConditionError Value :=
  match Value.ofLiteral? property literal with
  | some value => .ok value
  | none => .error (.invalidValue property literal)

/-- Whether an order is one that an operator accepts. -/
def accepts : Operator → Ordering → Bool
  | .less, order => order == .lt
  | .greater, order => order == .gt
  | .lessOrEqual, order => order != .gt
  | .greaterOrEqual, order => order != .lt
  | _, _ => false

/-- Whether a comparison of a property with a literal holds. -/
def compare (operator : Operator) (property : Property) (literal : String)
    (attributes : Attributes) : Except ConditionError Bool := do
  let actual := attributes.value property
  if operator.isOrdering then
    let expected ← coerce property literal
    match actual.compare? expected with
    | some order => return accepts operator order
    | none => throw (.invalidValue property literal)
  else
    let regular ← pattern literal
    let found := Pattern.matchesText regular actual.asText
    return if operator = .notEqual then !found else found

/-- Whether a text occurs in another. -/
def occursIn (part : List Char) : List Char → Bool
  | [] => part.isEmpty
  | c :: rest => part.isPrefixOf (c :: rest) || occursIn part rest

/-- Whether a condition holds for a file or folder. A literal alone asks whether it occurs in the
    path. -/
def evaluate (path : String) (attributes : Attributes) : Condition → Except ConditionError Bool
  | literal value => .ok (occursIn value.toList path.toList)
  | binary operator left right =>
    if operator.isLogical then do
      let first ← left.evaluate path attributes
      let second ← right.evaluate path attributes
      return if operator = .and then first && second else first || second
    else do
      let (property, value) ← operands left right
      compare operator property value attributes

/-- Checks one comparison. -/
def checkComparison (operator : Operator) (left right : Condition) :
    Except ConditionError Unit := do
  let (property, value) ← operands left right
  if operator.isOrdering then
    let _ ← coerce property value
  else
    let _ ← pattern value

/-- Checks the comparisons of a condition from left to right, up to the first faulty one. -/
def check (condition : Condition) : Except ConditionError Unit :=
  condition.comparisons.forM fun (operator, left, right) => checkComparison operator left right

/-- Whether the content of files has to be read to evaluate a condition. -/
def needsContent (condition : Condition) : Bool :=
  condition.comparisons.any fun (_, left, _) => left == literal Property.content.text

end Condition

end FileQuery
