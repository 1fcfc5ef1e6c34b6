/-!
# JSON values

The values that listings, reports and settings are written as. Members of an object keep their
order. The printed form has one element or member a line, two blanks of indentation a level, and
escapes nothing but quotes, backslashes and control characters.
-/

namespace FileQuery

/-- A JSON value. The only numbers are natural ones. -/
inductive Json
  | null
  | bool (value : Bool)
  | number (value : Nat)
  | string (value : String)
  | list (items : List Json)
  | object (members : List (String × Json))
  deriving Repr

namespace Json

/-- The hexadecimal digit of a number below sixteen. -/
def hexDigit (value : Nat) : Char :=
  if value < 10 then Char.ofNat ('0'.toNat + value) else Char.ofNat ('a'.toNat + (value - 10))

/-- A character between the quotes of a string. -/
def escape (c : Char) : List Char :=
  if c = '"' then ['\\', '"']
  else if c = '\\' then ['\\', '\\']
  else if c = '\n' then ['\\', 'n']
  else if c = '\r' then ['\\', 'r']
  else if c = '\t' then ['\\', 't']
  else if c = '\x08' then ['\\', 'b']
  else if c = '\x0c' then ['\\', 'f']
  else if c.toNat < 32 then
    ['\\', 'u', '0', '0', hexDigit (c.toNat / 16), hexDigit (c.toNat % 16)]
  else [c]

/-- A string between quotes. -/
def quote (text : String) : List Char := '"' :: (text.toList.flatMap escape ++ ['"'])

/-- A new line, indented to a level. -/
def newLine (level : Nat) : List Char := '\n' :: List.replicate (2 * level) ' '

mutual

/-- The printed form of a value at a level of indentation. -/
def print (level : Nat) : Json → List Char
  | null => ['n', 'u', 'l', 'l']
  | bool true => ['t', 'r', 'u', 'e']
  | bool false => ['f', 'a', 'l', 's', 'e']
  | number value => (toString value).toList
  | string value => quote value
  | list [] => ['[', ']']
  | list (first :: rest) =>
    '[' :: newLine (level + 1) ++ print (level + 1) first ++ printItems (level + 1) rest
      ++ newLine level ++ [']']
  | object [] => ['\x7b', '\x7d']
  | object ((name, first) :: rest) =>
    '\x7b' :: newLine (level + 1) ++ quote name ++ [':', ' '] ++ print (level + 1) first
      ++ printMembers (level + 1) rest ++ newLine level ++ ['\x7d']

/-- The printed form of the items after the first. -/
def printItems (level : Nat) : List Json → List Char
  | [] => []
  | item :: rest => ',' :: newLine level ++ print level item ++ printItems level rest

/-- The printed form of the members after the first. -/
def printMembers (level : Nat) : List (String × Json) → List Char
  | [] => []
  | (name, value) :: rest =>
    ',' :: newLine level ++ quote name ++ [':', ' '] ++ print level value
      ++ printMembers level rest

end

/-- The printed form of a value. -/
def text (value : Json) : String := String.ofList (print 0 value)

/-- A string, or null for none. -/
def ofOption : Option String → Json
  | some value => string value
  | none => null

end Json

end FileQuery
