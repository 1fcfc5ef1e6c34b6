import FileQuery.Pattern.Meaning
import FileQuery.Pattern.Size

/-!
# Patterns

Patterns are what LIKE, `=` and `!=` test the text of a property with. A pattern matches a text
when it occurs anywhere in it.
-/

namespace FileQuery.Pattern

/-- The regular expression of a pattern, or the reason why the text is not a pattern. -/
def compile (pattern : String) : Except String Regular :=
  match Syntax.parse pattern >>= Syntax.regular with
  | .error flaw => .error (flaw.report pattern)
  | .ok regular =>
    if regular.tooLarge then
      .error ("Compiled regex exceeds size limit of " ++ toString sizeLimit ++ " bytes.")
    else .ok regular

/-- Whether a regular expression occurs in a text. -/
def matchesText (pattern : Regular) (text : String) : Bool := pattern.occurs text.toList

end FileQuery.Pattern
