import FileQuery.Proofs.Token.Tiling
import Mathlib.Data.List.MinMax

/-!
# The longest match

A cursor takes the first match of the table. It could as well look for the longest one among all
rules, and then the order of the rules would not matter: of the rules that match somewhere one takes
more than all others (`exists_isLongest`), and it is the one that matches first
(`longestMatch_eq_firstMatch`). A text that is read by choosing the longest match each time has the
same tokens and the same failure (`byChoice_firstMatch`).

Keywords exclude each other, since none begins another one (`keyword_unique`).
-/

namespace FileQuery

namespace Rule

variable {rules : List Rule} {rule : Rule} {text : List Char} {count : Nat}

/-- Whether a rule matches at the start of a text. -/
def matchesAt (text : List Char) (rule : Rule) : Bool := (rule.shape.length? text).isSome

/-- What the rules that match make of the start of a text. -/
def allMatches (rules : List Rule) (text : List Char) : List (Option TokenKind × Nat) :=
  rules.filterMap fun rule => (rule.shape.length? text).map (rule.kind, ·)

/-- What a longest match among rules makes of the start of a text. -/
def longestMatch (rules : List Rule) (text : List Char) : Option (Option TokenKind × Nat) :=
  (allMatches rules text).argmax (·.2)

/-- Whether a rule is that of a keyword. -/
def IsKeyword (rule : Rule) : Prop := ∃ characters, rule.shape = .word characters

/-- A keyword does not match where one that outreaches it does: it would begin that one, and no
    keyword begins another one. -/
theorem keyword_excludes {first second : Rule} (listed : first ∈ table) (listed' : second ∈ table)
    (keyword : first.IsKeyword) (keyword' : second.IsKeyword)
    (outreaches : first.shape.outreaches second.shape = true)
    (taken : first.matchesAt text = true) : second.matchesAt text = false := by
  obtain ⟨longer, word⟩ := keyword
  obtain ⟨shorter, word'⟩ := keyword'
  refine Bool.eq_false_iff.mpr fun taken' => ?_
  obtain ⟨count, taken⟩ := Option.isSome_iff_exists.mp taken
  obtain ⟨count', taken'⟩ := Option.isSome_iff_exists.mp taken'
  obtain ⟨lexeme, rest, rfl, -, fits, -⟩ := Shape.exists_lexeme taken
  obtain ⟨lexeme', rest', same, -, fits', -⟩ := Shape.exists_lexeme taken'
  have spelled : first.shape.spelled? = some longer := by rw [word]; rfl
  have spelled' : second.shape.spelled? = some shorter := by rw [word']; rfl
  obtain ⟨begins, less⟩ := prefix_of_outreaches listed listed' outreaches fits fits' same
  rw [fits.eq_spelled spelled, fits'.eq_spelled spelled'] at begins less
  have differs : shorter ≠ longer := fun equal => Nat.ne_of_lt less (congrArg List.length equal)
  obtain ⟨sign, -⟩ :=
    table_signs second listed' first listed shorter spelled' longer spelled begins differs
  rw [word'] at sign
  contradiction

/-- Only one keyword matches at a place. -/
theorem keyword_unique {first second : Rule} (listed : first ∈ table) (listed' : second ∈ table)
    (keyword : first.IsKeyword) (keyword' : second.IsKeyword)
    (taken : first.matchesAt text = true) (taken' : second.matchesAt text = true) :
    first = second := by
  by_contra differs
  rcases outreaches_or listed listed' differs with more | less
  · rw [keyword_excludes listed listed' keyword keyword' more taken] at taken'
    contradiction
  · rw [keyword_excludes listed' listed keyword' keyword less taken'] at taken
    contradiction

/-- The first rule that matches is what matches first. -/
theorem firstMatch_of_find? (found : rules.find? (matchesAt text) = some rule)
    (taken : rule.shape.length? text = some count) :
    firstMatch rules text = some (rule.kind, count) := by
  obtain ⟨-, before, after, rfl, unmatched⟩ := List.find?_eq_some_iff_append.mp found
  refine List.findSome?_eq_some_iff.mpr ⟨before, rule, after, rfl, by rw [taken]; rfl, ?_⟩
  intro earlier member
  have passed := unmatched earlier member
  simpa [matchesAt] using passed

/-- The first rule that matches takes more than every other rule that matches. -/
theorem isLongest_of_find? (found : table.find? (matchesAt text) = some rule) :
    ∃ count, IsLongest text rule count := by
  have matched : rule.matchesAt text = true := List.find?_some found
  obtain ⟨count, taken⟩ := Option.isSome_iff_exists.mp matched
  obtain ⟨longest, -, listed, taken', most⟩ :=
    exists_isLongest (firstMatch_of_find? found taken)
  by_cases same : rule = longest
  · subst same
    exact ⟨count, listed, taken', most⟩
  · have less := most rule (List.mem_of_find?_eq_some found) same count taken
    exact absurd less (Nat.lt_irrefl count)

/-- What a rule makes of a text is among what all rules make of it. -/
theorem mem_allMatches {found : Option TokenKind × Nat} : found ∈ allMatches rules text ↔
    ∃ rule ∈ rules, rule.kind = found.1 ∧ rule.shape.length? text = some found.2 := by
  simp only [allMatches, List.mem_filterMap, Option.map_eq_some_iff]
  constructor
  · rintro ⟨rule, listed, count, taken, rfl⟩
    exact ⟨rule, listed, rfl, taken⟩
  · rintro ⟨rule, listed, made, taken⟩
    exact ⟨rule, listed, found.2, taken, by rw [made]⟩

/-- The longest match among the rules of the table, in any order, is what matches first. -/
theorem longestMatch_eq_firstMatch (reordered : rules.Perm table) (text : List Char) :
    longestMatch rules text = firstMatch table text := by
  cases first : firstMatch table text with
  | none =>
    have unmatched := firstMatch_eq_none_iff.mp first
    have nothing : allMatches rules text = [] := by
      refine List.eq_nil_iff_forall_not_mem.mpr fun found member => ?_
      obtain ⟨rule, listed, -, taken⟩ := mem_allMatches.mp member
      rw [unmatched rule (reordered.mem_iff.mp listed)] at taken
      contradiction
    rw [longestMatch, nothing, List.argmax_nil]
  | some made =>
    obtain ⟨kind, count⟩ := made
    obtain ⟨rule, rfl, listed, taken, most⟩ := exists_isLongest first
    have member : (rule.kind, count) ∈ allMatches rules text :=
      mem_allMatches.mpr ⟨rule, reordered.mem_iff.mpr listed, rfl, taken⟩
    have some_match : longestMatch rules text ≠ none := fun none =>
      List.ne_nil_of_mem member (List.argmax_eq_none.mp none)
    obtain ⟨found, longest⟩ := Option.ne_none_iff_exists'.mp some_match
    obtain ⟨other, listed', made, taken'⟩ := mem_allMatches.mp (List.argmax_mem longest)
    have atLeast : count ≤ found.2 := List.le_of_mem_argmax member longest
    by_cases same : other = rule
    · subst same
      have lengths := Option.some.inj (taken.symm.trans taken')
      rw [longest, made, lengths]
    · have less := most other (reordered.mem_iff.mp listed') same found.2 taken'
      omega

end Rule

namespace Scan

variable {cursor : Cursor}

/-- The scan of the text before a cursor, where a choice says what is read at the start of a
    text. -/
def byChoice (choose : List Char → Option (Option TokenKind × Nat)) (cursor : Cursor) : Scan :=
  match _found : cursor.rest with
  | [] => ⟨[], none⟩
  | _ :: _ =>
    match choose cursor.rest with
    | some (kind?, count + 1) =>
      let token? := kind?.map (⟨·, String.ofList (cursor.rest.take (count + 1))⟩)
      let later := byChoice choose (cursor.advance (count + 1))
      ⟨token?.toList ++ later.tokens, later.failure⟩
    | _ => ⟨[], some ⟨cursor.position, String.ofList cursor.rest⟩⟩
termination_by cursor.rest.length
decreasing_by
  simp only [Cursor.advance, _found, List.length_drop, List.length_cons]
  omega

/-- A slice that is matched is read before what follows it. -/
theorem ofCursor_matched {slice : Slice} {rest : List Char} (heads : slice.Heads rest)
    (position : Nat) : ofCursor ⟨position, slice.characters ++ rest⟩ =
      let later := ofCursor ⟨position + Text.byteLength slice.characters, rest⟩
      ⟨slice.token?.toList ++ later.tokens, later.failure⟩ := by
  have alone : Slice.Tiled [slice] rest := .matched heads (.nothing rest)
  have scans := ofCursor_tiled alone position
  simp only [Slice.woven_cons, Slice.woven_nil, List.append_nil] at scans
  rw [scans, Slice.tokens, List.filterMap_cons]
  cases slice.token? <;> rfl

/-- A scan reads what matches first. -/
theorem byChoice_firstMatch (cursor : Cursor) :
    byChoice (Rule.firstMatch Rule.table) cursor = ofCursor cursor := by
  fun_induction byChoice (Rule.firstMatch Rule.table) cursor with
  | case1 cursor nothing =>
    obtain ⟨position, text⟩ := cursor
    obtain rfl : text = [] := nothing
    have unmatched : Rule.firstMatch Rule.table [] = none := rfl
    exact (ofCursor_halt unmatched position).symm
  | case2 cursor c more found kind? count matched token? later inductionHypothesis =>
    obtain ⟨position, text⟩ := cursor
    obtain ⟨lexeme, rest, split, length, -⟩ := Rule.exists_lexeme matched
    obtain rfl : text = lexeme ++ rest := split
    have heads : Slice.Heads ⟨kind?, lexeme⟩ rest := by
      rw [Slice.Heads, matched, length]
    have taken : (lexeme ++ rest).take (count + 1) = lexeme := List.take_left' length.symm
    have left : (lexeme ++ rest).drop (count + 1) = rest := List.drop_left' length.symm
    have scans := ofCursor_matched heads position
    dsimp only at scans
    rw [scans]
    simp only [token?, later, inductionHypothesis, Cursor.advance, Slice.token?, taken, left]
  | case3 cursor c more found unmatched =>
    obtain ⟨position, text⟩ := cursor
    obtain rfl : text = c :: more := found
    have none : Rule.firstMatch Rule.table (c :: more) = none := by
      refine Option.eq_none_iff_forall_ne_some.mpr ?_
      rintro ⟨kind?, count⟩ matched
      obtain ⟨lexeme, rest, -, rfl, nonempty, -⟩ := Rule.exists_lexeme matched
      obtain ⟨first, characters, rfl⟩ := List.exists_cons_of_ne_nil nonempty
      exact unmatched kind? characters.length matched
    have halts := ofCursor_halt none position
    rw [if_neg (List.cons_ne_nil c more)] at halts
    exact halts.symm

end Scan

namespace Rule

/-- If rules match at the start of a text, the first one of the table takes more than each other
    one; keywords never match together; and a text is read as it is when the longest match is chosen
    each time, whatever the order of the rules is. -/
theorem first_is_longest :
    (∀ text, ∀ matching ∈ table, matching.matchesAt text = true → ∃ rule count,
      table.find? (matchesAt text) = some rule ∧ IsLongest text rule count) ∧
    (∀ text, ∀ first ∈ table, ∀ second ∈ table, first.IsKeyword → second.IsKeyword →
      first.matchesAt text = true → second.matchesAt text = true → first = second) ∧
    ∀ rules, rules.Perm table → ∀ text,
      Scan.byChoice (longestMatch rules) (.start text) = Scan.ofText text := by
  refine ⟨fun text matching listed matched => ?longest, fun text first listed second listed' =>
    keyword_unique listed listed', fun rules reordered text => ?stream⟩
  case longest =>
    have matches_some : table.find? (matchesAt text) ≠ none := fun none =>
      List.find?_eq_none.mp none matching listed matched
    obtain ⟨rule, found⟩ := Option.ne_none_iff_exists'.mp matches_some
    obtain ⟨count, longest⟩ := isLongest_of_find? found
    exact ⟨rule, count, found, longest⟩
  case stream =>
    have same : longestMatch rules = firstMatch table :=
      funext (longestMatch_eq_firstMatch reordered)
    rw [same, Scan.byChoice_firstMatch, Scan.ofText]

/-- Where `<=` stands, `<` matches too, but not first. A keyword is not the one that it ends with,
    also when the rules stand the other way around. -/
theorem first_is_longest_reversed :
    (∃ count, IsLongest "<=".toList ⟨.sign ['<', '='], some .lessOrEqual⟩ count) ∧
      Scan.byChoice (longestMatch table.reverse) (.start "UNARCHIVE<='--'--") =
        ⟨[⟨.unarchive, "UNARCHIVE"⟩, ⟨.lessOrEqual, "<="⟩, ⟨.string, "'--'"⟩], none⟩ := by
  obtain ⟨longest, -, stream⟩ := first_is_longest
  refine ⟨?_, ?_⟩
  · obtain ⟨rule, count, found, isLongest⟩ :=
      longest "<=".toList ⟨.sign ['<'], some .less⟩ (by decide) (by decide)
    have first : table.find? (matchesAt "<=".toList) =
        some ⟨.sign ['<', '='], some .lessOrEqual⟩ := by decide +kernel
    obtain rfl := Option.some.inj (found.symm.trans first)
    exact ⟨count, isLongest⟩
  · have tiled : Slice.Tiled [⟨some .unarchive, "UNARCHIVE".toList⟩,
        ⟨some .lessOrEqual, "<=".toList⟩, ⟨some .string, "'--'".toList⟩, ⟨none, "--".toList⟩] [] :=
      .matched rfl (.matched rfl (.matched rfl (.matched rfl (.nothing []))))
    have scan := Scan.ofCursor_tiled tiled 0
    have whole : Slice.woven [⟨some .unarchive, "UNARCHIVE".toList⟩,
        ⟨some .lessOrEqual, "<=".toList⟩, ⟨some .string, "'--'".toList⟩, ⟨none, "--".toList⟩] ++
          [] = "UNARCHIVE<='--'--".toList := by decide
    rw [whole, ← Cursor.start, ← Scan.ofText, Scan.ofCursor_halt rfl] at scan
    rw [stream table.reverse (List.reverse_perm table), scan]
    rfl

end Rule

end FileQuery
