/-!
# Lines

A line ends before a line feed, or before a carriage return and a line feed, or with the text.
-/

namespace FileQuery.Text

/-- The lines of a text. There is none after a line feed at the end. -/
def lines : List Char → List (List Char)
  | [] => []
  | c :: rest =>
    if c = '\n' then [] :: lines rest
    else if c = '\r' ∧ rest.head? = some '\n' then lines rest
    else
      match lines rest with
      | [] => [[c]]
      | first :: more => (c :: first) :: more

/-- No line holds a line feed. -/
theorem not_mem_lines (text : List Char) : ∀ line ∈ lines text, '\n' ∉ line := by
  induction text with
  | nil => simp [lines]
  | cons c rest inductionHypothesis =>
    by_cases feed : c = '\n'
    · simpa [lines, feed] using inductionHypothesis
    · by_cases returns : c = '\r' ∧ rest.head? = some '\n'
      · rw [lines, if_neg feed, if_pos returns]
        exact inductionHypothesis
      · rw [lines, if_neg feed, if_neg returns]
        cases found : lines rest with
        | nil => simpa using Ne.symm feed
        | cons first more =>
          rw [found] at inductionHypothesis
          intro line inside
          rcases List.mem_cons.1 inside with rfl | later
          · have := inductionHypothesis first (by simp)
            simpa [Ne.symm feed] using this
          · exact inductionHypothesis line (by simp [later])

end FileQuery.Text
