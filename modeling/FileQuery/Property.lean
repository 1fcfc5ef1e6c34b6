import FileQuery.Instant.Reader
import FileQuery.Number.Text

/-!
# Properties

What a condition can ask of a file or folder. Each property has values of one type, and a literal
of a query is read as a value of the type of the property that it is compared with.
-/

namespace FileQuery

/-- The types of values. -/
inductive ValueType
  | text | number | timestamp
  deriving DecidableEq, Repr

/-- The name of a type. -/
def ValueType.name : ValueType → String
  | text => "Text"
  | number => "Number"
  | timestamp => "Timestamp"

/-- The properties of files and folders. -/
inductive Property
  | name | extension | size | content | created | modified | accessed
  deriving DecidableEq, Repr

namespace Property

/-- How a property is written in a query. -/
def text : Property → String
  | name => "name"
  | extension => "extension"
  | size => "size"
  | content => "content"
  | created => "created"
  | modified => "modified"
  | accessed => "accessed"

/-- All properties. -/
def all : List Property := [name, extension, size, content, created, modified, accessed]

/-- The property that is written in a given way. -/
def ofText? (written : String) : Option Property := all.find? (·.text == written)

/-- The type of the values of a property. -/
def valueType : Property → ValueType
  | name | extension | content => .text
  | size => .number
  | created | modified | accessed => .timestamp

/-- Reading the written form of a property gives the property. -/
theorem ofText?_text (property : Property) : ofText? property.text = some property := by
  cases property <;> decide

/-- Only the written form of a property is read as that property. -/
theorem eq_text_of_ofText? {written : String} {property : Property}
    (read : ofText? written = some property) : written = property.text := by
  have same := List.find?_some read
  exact (eq_of_beq same).symm

end Property

/-- A value of a property. -/
inductive Value
  | text (text : String)
  | number (number : Number)
  | timestamp (instant : Instant)
  deriving DecidableEq, Repr

namespace Value

/-- The type of a value. -/
def type : Value → ValueType
  | text _ => .text
  | number _ => .number
  | timestamp _ => .timestamp

/-- The text that patterns are matched against. -/
def asText : Value → String
  | text content => content
  | number quantity => quantity.text
  | timestamp instant => instant.text

/-- The value of a literal for a property, if it denotes one. Every text is a text value. -/
def ofLiteral? (property : Property) (literal : String) : Option Value :=
  match property.valueType with
  | .text => some (text literal)
  | .number => (Number.read? literal).map number
  | .timestamp => (Instant.read? literal).map timestamp

/-- The order of two texts by code points, which is also the order of their bytes. -/
def compareTexts : List Char → List Char → Ordering
  | [], [] => .eq
  | [], _ :: _ => .lt
  | _ :: _, [] => .gt
  | a :: first, b :: second => (compare a.toNat b.toNat).then (compareTexts first second)

/-- The order of two values, if they have one: values of two types have none, and neither has
    what is not a number. -/
def compare? : Value → Value → Option Ordering
  | text first, text second => some (compareTexts first.toList second.toList)
  | number first, number second => first.compare? second
  | timestamp first, timestamp second => some (first.compare second)
  | _, _ => none

/-- The value of a literal has the type of the property. -/
theorem type_ofLiteral? {property : Property} {literal : String} {value : Value}
    (read : ofLiteral? property literal = some value) : value.type = property.valueType := by
  unfold ofLiteral? at read
  split at read
  · simp only [Option.some.injEq] at read
    subst read
    simp_all [type]
  · obtain ⟨found, _, rfl⟩ := Option.map_eq_some_iff.mp read
    simp_all [type]
  · obtain ⟨found, _, rfl⟩ := Option.map_eq_some_iff.mp read
    simp_all [type]

end Value

/-- What is known of a file or folder when a condition is evaluated. -/
structure Attributes where
  /-- The file name without its extension. -/
  name : String
  extension : String
  /-- The number of bytes of a file. -/
  size : Nat
  /-- The text of a file, if it has been read. -/
  content : Option String
  created : Instant
  modified : Instant
  accessed : Instant
  deriving DecidableEq, Repr

/-- The value of a property. Content that has not been read counts as empty. -/
def Attributes.value (attributes : Attributes) : Property → Value
  | .name => .text attributes.name
  | .extension => .text attributes.extension
  | .size => .number (.ofNat attributes.size)
  | .content => .text (attributes.content.getD "")
  | .created => .timestamp attributes.created
  | .modified => .timestamp attributes.modified
  | .accessed => .timestamp attributes.accessed

/-- The value of a property has the type of the property. -/
theorem Attributes.type_value (attributes : Attributes) (property : Property) :
    (attributes.value property).type = property.valueType := by
  cases property <;> rfl

end FileQuery
