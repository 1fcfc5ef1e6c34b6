/-!
# Arithmetic of scripts

Expressions over whole numbers of 64 bits. What goes beyond 64 bits wraps around.
-/

namespace FileQuery.Script

/-- An arithmetic expression. -/
inductive Expression
  | number (value : Int)
  /-- What a variable holds. -/
  | content (name : String)
  | signed (sign : Char) (operand : Expression)
  /-- Two expressions with the sign of an operation between them. -/
  | operation (sign : String) (left right : Expression)
  | choice (condition accepted refused : Expression)
  /-- The variable is set to the value, or to what the operation makes of its own value and it. -/
  | assignment (name sign : String) (value : Expression)
  deriving DecidableEq, Repr

/-- Why an expression has no value. -/
inductive ArithmeticFlaw
  /-- Something else is expected in the text. -/
  | expecting (what : String)
  | divisionByZero
  /-- The value of a variable is no number. -/
  | noNumber (text : String)
  deriving DecidableEq, Repr

namespace ArithmeticFlaw

/-- What is reported of an expression. -/
def message (expression : String) : ArithmeticFlaw → String
  | expecting what => "arithmetic expression: expecting " ++ what ++ ": \"" ++ expression ++ "\""
  | divisionByZero => "arithmetic expression: division by zero: \"" ++ expression ++ "\""
  | noNumber text => "Illegal number: " ++ text

end ArithmeticFlaw

/-! ### Numbers -/

/-- Whether a character may stand in the name of a variable. -/
def isNameCharacter (c : Char) : Bool := c.isAlphanum || c == '_'

/-- Whether a text is the name of a variable. -/
def isName (name : List Char) : Bool :=
  match name with
  | [] => false
  | first :: _ => !first.isDigit && name.all isNameCharacter

/-- A number of 64 bits that a number wraps around to. -/
def wrapped (value : Int) : Int := value.bmod 18446744073709551616

/-- The value of a digit of bases up to sixteen. -/
def digitValue? (c : Char) : Option Nat :=
  if '0' ≤ c ∧ c ≤ '9' then some (c.toNat - '0'.toNat)
  else if 'a' ≤ c ∧ c ≤ 'f' then some (c.toNat - 'a'.toNat + 10)
  else if 'A' ≤ c ∧ c ≤ 'F' then some (c.toNat - 'A'.toNat + 10)
  else none

/-- Whether a character is a digit of a base. -/
def isDigitOf (base : Nat) (c : Char) : Bool :=
  match digitValue? c with
  | some value => value < base
  | none => false

/-- The number that digits of a base write, and the rest of a text. -/
def spanNumber (base : Nat) (text : List Char) : Nat × List Char :=
  let digits := text.takeWhile (isDigitOf base)
  (digits.foldl (fun value c => base * value + (digitValue? c).getD 0) 0,
    text.drop digits.length)

/-- The number at the start of a text, and the rest. A zero starts a number of base eight, and a
    zero with an x one of base sixteen. -/
def leadingNumber (text : List Char) : Nat × List Char :=
  match text with
  | '0' :: x :: digit :: rest =>
    if (x = 'x' ∨ x = 'X') ∧ isDigitOf 16 digit then spanNumber 16 (digit :: rest)
    else spanNumber 8 text
  | '0' :: _ => spanNumber 8 text
  | _ => spanNumber 10 text

/-- The number of a text with an optional sign and blanks around it, and what is after it. -/
def signedNumber (text : List Char) : Option (Int × List Char) :=
  let body := text.dropWhile fun c => c = ' ' ∨ c = '\t' ∨ c = '\n'
  let (negative, digits) := match body with
    | '-' :: rest => (true, rest)
    | '+' :: rest => (false, rest)
    | _ => (false, body)
  match digits with
  | first :: _ =>
    if first.isDigit then
      let (value, rest) := leadingNumber digits
      some (if negative then -(value : Int) else value, rest)
    else none
  | [] => none

/-- The number that the whole of a text writes. -/
def wholeNumber? (text : String) : Option Int :=
  match signedNumber text.toList with
  | some (value, rest) => if rest.all (· = ' ') then some value else none
  | none => none

namespace Expression

/-! ### Reading -/

/-- The signs of two operands, from those that bind least to those that bind most. -/
def levels : List (List String) :=
  [["|"], ["^"], ["&"], ["==", "!="], ["<=", ">=", "<", ">"], ["<<", ">>"], ["+", "-"],
    ["*", "/", "%"]]

/-- All signs. Of signs that start alike the longer one is first. -/
def signs : List String :=
  ["<<=", ">>=", "&&", "||", "==", "!=", "<=", ">=", "<<", ">>", "+=", "-=", "*=", "/=", "%=", "&=",
    "^=", "|=", "|", "^", "&", "<", ">", "+", "-", "*", "/", "%", "=", "?", ":", "(", ")", "!", "~"]

/-- A text without blanks at its start. -/
def skipBlanks (text : List Char) : List Char :=
  text.dropWhile fun c => c = ' ' ∨ c = '\t' ∨ c = '\n'

/-- The sign at the start of a text, and the rest. -/
def sign? (text : List Char) : Option (String × List Char) :=
  let text := skipBlanks text
  (signs.find? fun sign => sign.toList.isPrefixOf text).map fun sign =>
    (sign, text.drop sign.length)

/-- The text after a sign that has to be there. -/
def afterSign (sign : String) (text : List Char) : Except ArithmeticFlaw (List Char) :=
  match sign? text with
  | some (found, rest) =>
    if found = sign then .ok rest else .error (.expecting ("'" ++ sign ++ "'"))
  | none => .error (.expecting ("'" ++ sign ++ "'"))

/-- The operation of a sign that sets a variable. -/
def assignedSign? (sign : String) : Option String :=
  if sign = "=" then some ""
  else if ["<<=", ">>=", "+=", "-=", "*=", "/=", "%=", "&=", "^=", "|="].contains sign then
    some (String.ofList sign.toList.dropLast)
  else none

mutual

/-- A number, a variable, or an expression in parentheses, with signs before it. -/
def readOperand : Nat → List Char → Except ArithmeticFlaw (Expression × List Char)
  | 0, _ => .error (.expecting "primary")
  | fuel + 1, text =>
    match skipBlanks text with
    | [] => .error (.expecting "primary")
    | c :: rest =>
      if c.isDigit then
        let (value, rest) := leadingNumber (c :: rest)
        .ok (number (wrapped value), rest)
      else if isNameCharacter c then
        let name := (c :: rest).takeWhile isNameCharacter
        .ok (content (String.ofList name), (c :: rest).drop name.length)
      else if c = '(' then
        match readAssignment fuel rest with
        | .error flaw => .error flaw
        | .ok (inner, rest) => (afterSign ")" rest).map fun rest => (inner, rest)
      else if c = '+' then readOperand fuel rest
      else if c = '-' ∨ c = '!' ∨ c = '~' then
        (readOperand fuel rest).map fun (operand, rest) => (signed c operand, rest)
      else .error (.expecting "primary")

/-- Operands with signs of some levels between them. -/
def readLevels : Nat → List (List String) → List Char →
    Except ArithmeticFlaw (Expression × List Char)
  | 0, _, _ => .error (.expecting "primary")
  | fuel + 1, [], text => readOperand fuel text
  | fuel + 1, level :: levels, text =>
    match readLevels fuel levels text with
    | .error flaw => .error flaw
    | .ok (first, rest) => readMore fuel level levels first rest

/-- More operands with signs of a level before them. -/
def readMore : Nat → List String → List (List String) → Expression → List Char →
    Except ArithmeticFlaw (Expression × List Char)
  | 0, _, _, _, _ => .error (.expecting "primary")
  | fuel + 1, level, levels, first, text =>
    match sign? text with
    | none => .ok (first, text)
    | some (sign, rest) =>
      if level.contains sign then
        match readLevels fuel levels rest with
        | .error flaw => .error flaw
        | .ok (second, rest) => readMore fuel level levels (operation sign first second) rest
      else .ok (first, text)

/-- Operands that all have to hold, or of which one has to hold. -/
def readLogic : Nat → List String → List Char → Except ArithmeticFlaw (Expression × List Char)
  | 0, _, _ => .error (.expecting "primary")
  | fuel + 1, [], text => readLevels fuel levels text
  | fuel + 1, sign :: signs, text =>
    match readLogic fuel signs text with
    | .error flaw => .error flaw
    | .ok (first, rest) =>
      match sign? rest with
      | none => .ok (first, rest)
      | some (found, after) =>
        if found = sign then
          (readLogic fuel (sign :: signs) after).map fun (second, rest) =>
            (operation sign first second, rest)
        else .ok (first, rest)

/-- A condition with what holds in either case, or a plain expression. -/
def readChoice : Nat → List Char → Except ArithmeticFlaw (Expression × List Char)
  | 0, _ => .error (.expecting "primary")
  | fuel + 1, text =>
    match readLogic fuel ["||", "&&"] text with
    | .error flaw => .error flaw
    | .ok (condition, rest) =>
      match sign? rest with
      | some ("?", after) =>
        match readAssignment fuel after with
        | .error flaw => .error flaw
        | .ok (accepted, rest) =>
          match afterSign ":" rest with
          | .error flaw => .error flaw
          | .ok rest =>
            (readChoice fuel rest).map fun (refused, rest) =>
              (choice condition accepted refused, rest)
      | _ => .ok (condition, rest)

/-- An expression. -/
def readAssignment : Nat → List Char → Except ArithmeticFlaw (Expression × List Char)
  | 0, _ => .error (.expecting "primary")
  | fuel + 1, text =>
    let name := (skipBlanks text).takeWhile isNameCharacter
    match sign? ((skipBlanks text).drop name.length) with
    | some (sign, rest) =>
      match assignedSign? sign, isName name with
      | some changed, true =>
        (readAssignment fuel rest).map fun (value, rest) =>
          (assignment (String.ofList name) changed value, rest)
      | _, _ => readChoice fuel text
    | none => readChoice fuel text

end

/-- The expression that a text denotes. -/
def ofText (text : List Char) : Except ArithmeticFlaw Expression :=
  match readAssignment (32 * (text.length + 1)) text with
  | .error flaw => .error flaw
  | .ok (expression, rest) =>
    if (skipBlanks rest).isEmpty then .ok expression else .error (.expecting "EOF")

/-! ### Values -/

/-- The value of an operation. A comparison is one or zero. -/
def operate (sign : String) (left right : Int) : Except ArithmeticFlaw Int :=
  let truth (holds : Bool) : Except ArithmeticFlaw Int := .ok (if holds then 1 else 0)
  let bits (value : Int) : UInt64 := UInt64.ofInt value
  let ofBits (value : UInt64) : Except ArithmeticFlaw Int := .ok (wrapped value.toNat)
  match sign with
  | "+" => .ok (wrapped (left + right))
  | "-" => .ok (wrapped (left - right))
  | "*" => .ok (wrapped (left * right))
  | "/" => if right = 0 then .error .divisionByZero else .ok (wrapped (left.tdiv right))
  | "%" => if right = 0 then .error .divisionByZero else .ok (left.tmod right)
  | "<<" => ofBits (bits left <<< bits right)
  | ">>" => .ok (left / Int.ofNat (Nat.pow 2 (bits right % 64).toNat))
  | "&" => ofBits (bits left &&& bits right)
  | "^" => ofBits (bits left ^^^ bits right)
  | "|" => ofBits (bits left ||| bits right)
  | "<" => truth (left < right)
  | ">" => truth (right < left)
  | "<=" => truth (left ≤ right)
  | ">=" => truth (right ≤ left)
  | "==" => truth (left = right)
  | "!=" => truth (left ≠ right)
  | _ => .ok right

/-- The number that a variable holds. One that is not set, or is empty, holds zero. -/
def held (known : List (String × String)) (name : String) : Except ArithmeticFlaw Int :=
  match known.lookup name with
  | none | some "" => .ok 0
  | some text =>
    match wholeNumber? text with
    | some value => .ok (wrapped value)
    | none => .error (.noNumber text)

/-- The value of an expression, and the variables after it. -/
def value (known : List (String × String)) :
    Expression → Except ArithmeticFlaw (Int × List (String × String))
  | number value => .ok (value, known)
  | content name => (held known name).map fun value => (value, known)
  | signed sign operand =>
    (operand.value known).map fun (value, known) =>
      (wrapped (if sign = '-' then -value else if sign = '~' then -value - 1
        else if value = 0 then 1 else 0), known)
  | operation sign left right =>
    match left.value known with
    | .error flaw => .error flaw
    | .ok (first, known) =>
      if sign = "&&" ∧ first = 0 then .ok (0, known)
      else if sign = "||" ∧ first ≠ 0 then .ok (1, known)
      else
        match right.value known with
        | .error flaw => .error flaw
        | .ok (second, known) =>
          if sign = "&&" ∨ sign = "||" then .ok (if second = 0 then 0 else 1, known)
          else (operate sign first second).map fun value => (value, known)
  | choice condition accepted refused =>
    match condition.value known with
    | .error flaw => .error flaw
    | .ok (holds, known) =>
      if holds = 0 then refused.value known else accepted.value known
  | assignment name sign assigned =>
    match assigned.value known with
    | .error flaw => .error flaw
    | .ok (second, known) =>
      let result := if sign = "" then .ok second else (held known name).bind fun first =>
        operate sign first second
      result.map fun value => (value, (name, toString value) :: known)

end Expression

/-- The value of the expression that a text denotes, and the variables after it. -/
def evaluate (known : List (String × String)) (text : String) :
    Except ArithmeticFlaw (Int × List (String × String)) :=
  match Expression.ofText text.toList with
  | .error flaw => .error flaw
  | .ok expression => expression.value known

end FileQuery.Script
