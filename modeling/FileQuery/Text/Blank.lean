import FileQuery.Unicode.Ranges

/-!
# Blank characters

A blank is a character with the White_Space property of the Unicode standard. Blanks separate
tokens, and the values of properties are read without the blanks around them.
-/

namespace FileQuery.Text

/-- The code points of the blanks. -/
def blankRanges : Unicode.Ranges := [
  (0x9, 0xD), (0x20, 0x20), (0x85, 0x85), (0xA0, 0xA0), (0x1680, 0x1680), (0x2000, 0x200A),
  (0x2028, 0x2029), (0x202F, 0x202F), (0x205F, 0x205F), (0x3000, 0x3000)]

/-- Whether a character is a blank. -/
def isBlank (c : Char) : Bool := blankRanges.contains c.toNat

/-- A text without the blanks at its start. -/
def trimStart (text : List Char) : List Char := text.dropWhile isBlank

/-- A text without the blanks at its end. -/
def trimEnd (text : List Char) : List Char := (text.reverse.dropWhile isBlank).reverse

/-- A text without the blanks at its start and at its end. -/
def trim (text : List Char) : List Char := trimEnd (trimStart text)

/-- The blanks that core's class names are blanks here too. -/
theorem isBlank_of_isWhitespace {c : Char} (white : c.isWhitespace = true) :
    isBlank c = true := by
  simp only [Char.isWhitespace, Bool.or_eq_true, decide_eq_true_eq] at white
  rcases white with ((rfl | rfl) | rfl) | rfl <;> decide

/-- Trimming the start leaves a text that is empty or starts with no blank. -/
theorem trimStart_head {text : List Char} {first : Char} {rest : List Char}
    (trimmed : trimStart text = first :: rest) : isBlank first = false := by
  induction text with
  | nil => simp [trimStart] at trimmed
  | cons c more inductionHypothesis =>
    by_cases blank : isBlank c
    · apply inductionHypothesis
      simpa [trimStart, List.dropWhile_cons, blank] using trimmed
    · have same : c :: more = first :: rest := by
        simpa [trimStart, List.dropWhile_cons, blank] using trimmed
      obtain ⟨rfl, _⟩ := List.cons.inj same
      simpa using blank

end FileQuery.Text
