import FileQuery.FileTree.Resolution
import FileQuery.Script.Arithmetic

/-!
# Conditions of scripts

What `test` decides: texts, numbers and files are compared and looked at, and conditions are joined.
-/

namespace FileQuery.Script.Condition

/-- Whether the node that a path leads to has a property. -/
def holds (tree : FileTree) (path : String) (property : Node → Bool) : Bool :=
  match tree.find ⟨path⟩ with
  | .ok node => property node
  | .error _ => false

/-- Whether a node can be executed, or is a folder. -/
def isOpen : Node → Bool
  | .file _ executable _ => executable
  | .folder .. => true
  | .link _ => false

/-- The condition on a single operand that a sign stands for. -/
def single? (tree : FileTree) (sign operand : String) : Option Bool :=
  match sign with
  | "-n" => some !operand.isEmpty
  | "-z" => some operand.isEmpty
  | "-e" | "-r" | "-w" | "-O" | "-G" => some (holds tree operand fun _ => true)
  | "-f" => some (tree.isFile ⟨operand⟩)
  | "-d" => some (tree.isFolder ⟨operand⟩)
  | "-s" => some (holds tree operand fun node => node.isFolder || !node.bytes.isEmpty)
  | "-x" => some (holds tree operand isOpen)
  | "-h" | "-L" =>
    match tree.findLink ⟨operand⟩ with
    | .ok node => some node.isLink
    | .error _ => some false
  | "-b" | "-c" | "-g" | "-k" | "-p" | "-S" | "-t" | "-u" => some false
  | _ => none

/-- The number that an operand writes in decimal, with blanks around it. -/
def decimal? (text : String) : Option Int :=
  let digits := Expression.skipBlanks text.toList
  let (negative, digits) := match digits with
    | '-' :: rest => (true, rest)
    | '+' :: rest => (false, rest)
    | _ => (false, digits)
  let (value, rest) := spanNumber 10 digits
  if digits.head?.any Char.isDigit && (Expression.skipBlanks rest).isEmpty then
    some (if negative then -(value : Int) else value)
  else none

/-- The comparison of numbers that a sign stands for. -/
def numeric? : String → Option (Int → Int → Bool)
  | "-eq" => some fun left right => left == right
  | "-ne" => some fun left right => left != right
  | "-lt" => some fun left right => left < right
  | "-le" => some fun left right => left ≤ right
  | "-gt" => some fun left right => right < left
  | "-ge" => some fun left right => right ≤ left
  | _ => none

/-- The comparison of texts or files that a sign stands for. -/
def textual? (tree : FileTree) : String → Option (String → String → Bool)
  | "=" => some fun left right => left == right
  | "!=" => some fun left right => left != right
  | "<" => some fun left right => left < right
  | ">" => some fun left right => right < left
  | "-ef" => some fun left right =>
    match tree.locate .follow ⟨left⟩, tree.locate .follow ⟨right⟩ with
    | .ok (first, _), .ok (second, _) => first == second
    | _, _ => false
  | "-nt" | "-ot" => some fun _ _ => false
  | _ => none

/-- Whether a sign compares two operands. -/
def isComparison (tree : FileTree) (sign : String) : Bool :=
  (numeric? sign).isSome || (textual? tree sign).isSome

/-- The value of a comparison, or its error. -/
def compare (tree : FileTree) (left sign right : String) : Except String Bool :=
  match numeric? sign, textual? tree sign with
  | some relation, _ =>
    match decimal? left, decimal? right with
    | none, _ => .error ("Illegal number: " ++ left)
    | _, none => .error ("Illegal number: " ++ right)
    | some first, some second => .ok (relation first second)
  | none, some relation => .ok (relation left right)
  | none, none => .error (sign ++ ": unexpected operator")

mutual

/-- The value of the conditions at the start, of which one has to hold, and the rest. -/
def anyOf (tree : FileTree) : Nat → List String → Except String (Bool × List String)
  | 0, operands => .ok (false, operands)
  | fuel + 1, operands =>
    match allOf tree fuel operands with
    | .error message => .error message
    | .ok (value, "-o" :: rest) =>
      (anyOf tree fuel rest).map fun (other, rest) => (value || other, rest)
    | .ok (value, rest) => .ok (value, rest)

/-- The value of the conditions at the start, which all have to hold, and the rest. -/
def allOf (tree : FileTree) : Nat → List String → Except String (Bool × List String)
  | 0, operands => .ok (false, operands)
  | fuel + 1, operands =>
    match oneOf tree fuel operands with
    | .error message => .error message
    | .ok (value, "-a" :: rest) =>
      (allOf tree fuel rest).map fun (other, rest) => (value && other, rest)
    | .ok (value, rest) => .ok (value, rest)

/-- The value of the condition at the start, and the rest. -/
def oneOf (tree : FileTree) : Nat → List String → Except String (Bool × List String)
  | 0, operands => .ok (false, operands)
  | _, [] => .error "argument expected"
  | fuel + 1, first :: rest =>
    let compared := match rest with
      | sign :: right :: rest =>
        if isComparison tree sign then
          some ((compare tree first sign right).map fun value => (value, rest))
        else none
      | _ => none
    match compared with
    | some result => result
    | none =>
      if first = "!" ∧ !rest.isEmpty then
        (oneOf tree fuel rest).map fun (value, rest) => (!value, rest)
      else if first = "(" ∧ !rest.isEmpty then
        match anyOf tree fuel rest with
        | .error message => .error message
        | .ok (value, ")" :: rest) => .ok (value, rest)
        | .ok _ => .error "closing paren expected"
      else
        match rest with
        | [] => .ok (!first.isEmpty, [])
        | operand :: after =>
          match single? tree first operand with
          | some value => .ok (value, after)
          | none => .ok (!first.isEmpty, rest)

end

/-- Whether a condition holds, or why it has no value. What is left over is reported by the operand
    before it. -/
def value (tree : FileTree) (operands : List String) : Except String Bool :=
  if operands.isEmpty then .ok false
  else
    match anyOf tree (4 * (operands.length + 1)) operands with
    | .error message => .error message
    | .ok (value, []) => .ok value
    | .ok (_, rest) =>
      let last := operands.getD (operands.length - rest.length - 1) ""
      .error (last ++ ": unexpected operator")

end FileQuery.Script.Condition
