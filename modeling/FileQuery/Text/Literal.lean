import FileQuery.Unicode.Recent

/-!
# Literals

A text that a message quotes is written as a literal, in which every character can be seen. What
cannot be printed alone is written as its code point.
-/

namespace FileQuery.Text

/-- The code points of controls, of characters that only affect others, of those that are not
    assigned or for private use, and of separators. -/
def hiddenRanges : List Unicode.Ranges :=
  ["cc", "cf", "cn", "co", "cs", "zl", "zp", "zs"].map
    (Unicode.classRanges Unicode.categories)

/-- Whether a character is written as its code point. -/
def isHidden (c : Char) : Bool :=
  if c.toNat < 0x7F then c.toNat < 0x20
  else
    Unicode.isExtender c || Unicode.ignorableRanges.contains c.toNat ||
      (Unicode.isAmong hiddenRanges c && !Unicode.isRecent c)

/-- A character between the quotes of a literal. -/
def literalCharacter (c : Char) : List Char :=
  if c = '\t' then ['\\', 't']
  else if c = '\r' then ['\\', 'r']
  else if c = '\n' then ['\\', 'n']
  else if c = '\x00' then ['\\', '0']
  else if c = '"' ∨ c = '\\' then ['\\', c]
  else if isHidden c then
    ['\\', 'u', '\x7b'] ++ Nat.toDigits 16 c.toNat ++ ['\x7d']
  else [c]

/-- A text as a literal. -/
def literal (text : String) : String :=
  String.ofList ('"' :: (text.toList.flatMap literalCharacter ++ ['"']))

end FileQuery.Text
