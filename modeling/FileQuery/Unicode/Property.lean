import FileQuery.Unicode.Age
import FileQuery.Unicode.Binary
import FileQuery.Unicode.Category
import FileQuery.Unicode.Script
import FileQuery.Unicode.ScriptExtension
import FileQuery.Unicode.Segmentation
import FileQuery.Unicode.CharSet

/-!
# Properties by name

Names of properties and of their values are compared loosely: case, blanks, hyphens, underscores
and a leading `is` do not count. A bare name is that of a binary property, a general category or
a script, in this order. A name with a value speaks of the general category, the script, the
script extensions, the version that a character came with, or one of the properties of
segmentation.
-/

namespace FileQuery.Unicode

/-- Why no class belongs to a property. -/
inductive PropertyProblem
  | unknownProperty
  | unknownValue
  deriving DecidableEq, Repr

/-- The form in which names are compared: ASCII, in lower case, without separators and without a
    leading `is`. The name `isc` is complete and keeps its beginning. -/
def looseName (name : String) : String :=
  let lower := name.toList.map Char.toLower
  let starts := ['i', 's'].isPrefixOf lower
  let kept := (if starts then lower.drop 2 else lower).filter fun c =>
    c.toNat < 0x80 && c != ' ' && c != '_' && c != '-'
  if starts && kept == ['c'] then "isc" else String.ofList kept

/-- The characters of a class of a table. -/
def NamedClass.charSet (found : NamedClass) : CharSet := .ranges (Ranges.read found.text)

/-- The class of a table under a name. -/
def classNamed? (classes : List NamedClass) (name : String) : Option CharSet :=
  (findClass? classes name).map NamedClass.charSet

/-- The union of sets. -/
def unionOf (sets : List CharSet) : CharSet := sets.foldr .union .empty

/-- Whether a name is that of a general category. -/
def isCategory (name : String) : Bool :=
  ["any", "assigned", "ascii"].contains name || (findClass? categories name).isSome
    || groupedCategories.any (·.1.contains name) || surrogateCategory.contains name

/-- The characters of a general category, if it has any. -/
def category? (name : String) : Option CharSet :=
  if name = "any" then some (.complement .empty)
  else if name = "assigned" then
    (classNamed? categories "cn").map fun unassigned => .complement (.union unassigned .surrogates)
  else if name = "ascii" then some (.ranges [(0, 0x7F)])
  else
    (classNamed? categories name).orElse fun _ =>
      (groupedCategories.find? (·.1.contains name)).map fun (_, parts) =>
        unionOf (parts.filterMap (classNamed? categories))

/-- Whether a name is that of a script. -/
def isScript (name : String) : Bool :=
  (findClass? scripts name).isSome || scriptsWithoutClass.contains name

/-- The characters of a script, if it has any. -/
def script? (name : String) : Option CharSet := classNamed? scripts name

/-- The characters that are used with a script. -/
def scriptExtension? (name : String) : Option CharSet :=
  (script? name).map fun set =>
    match classNamed? scriptExtensionChanges name with
    | some changes => .symmetricDifference set changes
    | none => set

/-- The characters that a version of the standard has: all that were added up to it. -/
def age? (name : String) : Option CharSet :=
  match ages.findIdx? (·.names.contains name) with
  | some index => some (unionOf ((ages.take (index + 1)).map NamedClass.charSet))
  | none => none

/-- Names that belong to a general category although a property has the same name. -/
def categoryNames : List String := ["cf", "sc", "lc"]

/-- The properties that have values, by their spellings, each with the characters of a value. -/
def valuedProperties : List (List String × (String → Option CharSet)) := [
  (["gc", "generalcategory"], category?),
  (["sc", "script"], script?),
  (["scx", "scriptextensions"], scriptExtension?),
  (["age"], age?),
  (["gcb", "graphemeclusterbreak"], classNamed? graphemeBreaks),
  (["wb", "wordbreak"], classNamed? wordBreaks),
  (["sb", "sentencebreak"], classNamed? sentenceBreaks)]

/-- Whether a name is that of a property. -/
def isProperty (name : String) : Bool :=
  (findClass? binaryProperties name).isSome || otherProperties.contains name
    || valuedProperties.any (·.1.contains name)

/-- A set that may be missing, as the class of the value of a property. -/
def valueClass : Option CharSet → Except PropertyProblem CharSet
  | some set => .ok set
  | none => .error .unknownValue

/-- The characters that a bare name stands for. -/
def namedProperty (name : String) : Except PropertyProblem CharSet :=
  let name := looseName name
  if isProperty name && !categoryNames.contains name then
    match classNamed? binaryProperties name with
    | some set => .ok set
    | none => .error .unknownProperty
  else if isCategory name then valueClass (category? name)
  else if isScript name then valueClass (script? name)
  else .error .unknownProperty

/-- The characters for which a property has a value. -/
def valuedProperty (property value : String) : Except PropertyProblem CharSet :=
  let property := looseName property
  match valuedProperties.find? (·.1.contains property) with
  | some (_, values) => valueClass (values (looseName value))
  | none => .error (if isProperty property then .unknownValue else .unknownProperty)

end FileQuery.Unicode
