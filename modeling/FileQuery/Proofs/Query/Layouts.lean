import FileQuery.Proofs.Query.Lookahead
import FileQuery.Proofs.Token.Tiling

/-!
# Layouts

Tokens can be laid out in many ways: blanks and comments may stand before and behind each of them,
as long as something stands between two. Neither a blank nor a hyphen goes on with any token, so
each token ends where its gap begins, and a comment goes on to the line feed that ends it and not
into the next token. So the tokens of a text are the same in each layout, and what they are read as
is too.
-/

namespace FileQuery

/-- Texts of blanks, and of comments with the line feeds that end them. -/
inductive IsGap : List Char → Prop
  | nothing : IsGap []
  | blank {c : Char} {rest : List Char} (isBlank : Text.isBlank c = true) (later : IsGap rest) :
    IsGap (c :: rest)
  | comment {line rest : List Char} (oneLine : '\n' ∉ line) (later : IsGap rest) :
    IsGap ('-' :: '-' :: (line ++ '\n' :: rest))

/-! ## Where tokens end -/

/-- Whether a character can begin a gap. -/
def beginsGap (c : Char) : Bool := Text.isBlank c || c == '-'

/-- A gap is empty or begins as gaps do. -/
theorem IsGap.begins {gap : List Char} (isGap : IsGap gap) :
    ∀ c ∈ gap.head?, beginsGap c = true := by
  cases isGap with
  | nothing => exact nofun
  | blank isBlank =>
    rintro c ⟨⟩
    simp [beginsGap, isBlank]
  | comment =>
    rintro c ⟨⟩
    decide

/-- A code point of ranges lies between the ends of one. -/
theorem Unicode.Ranges.exists_of_contains {ranges : Ranges} {code : Nat}
    (member : ranges.contains code = true) : ∃ range ∈ ranges, range.1 ≤ code ∧ code ≤ range.2 := by
  induction ranges with
  | nil => contradiction
  | cons range rest inductionHypothesis =>
    obtain ⟨low, high⟩ := range
    rw [contains] at member
    split at member
    · contradiction
    split at member
    · exact ⟨(low, high), List.mem_cons_self, by omega, by omega⟩
    · obtain ⟨range, listed, between⟩ := inductionHypothesis member
      exact ⟨range, List.mem_cons_of_mem _ listed, between⟩

/-- A blank is no part of a word. -/
theorem Text.isWord_of_isBlank {c : Char} (blank : isBlank c = true) :
    Unicode.isWord c = false := by
  have apart : ∀ range ∈ blankRanges, ∀ offset ≤ range.2 - range.1,
      Unicode.wordRanges.contains (range.1 + offset) = false := by
    decide +kernel
  obtain ⟨range, listed, low, high⟩ := Unicode.Ranges.exists_of_contains blank
  have outside := apart range listed (c.toNat - range.1) (by omega)
  rwa [Nat.add_sub_cancel' low] at outside

namespace Rule

variable {rule : Rule} {c : Char}

/-- No sign holds a character that can begin a gap. -/
theorem table_solid :
    ∀ rule ∈ table, ∀ characters ∈ rule.shape.spelled?, characters.any beginsGap = false := by
  decide +kernel

/-- A token stops where a gap begins. -/
theorem stops_of_beginsGap (listed : rule ∈ table) (made : rule.kind ≠ none)
    (begins : beginsGap c = true) : rule.Stops (some c) := by
  constructor
  · have notGaps : ∀ rule ∈ table, rule.kind ≠ none →
        rule.shape ≠ .blanks ∧ rule.shape ≠ .comment := by
      decide
    obtain ⟨notBlanks, notComment⟩ := notGaps rule listed made
    cases shape : rule.shape with
    | blanks => exact absurd shape notBlanks
    | comment => exact absurd shape notComment
    | word =>
      rintro _ ⟨⟩
      rcases Bool.or_eq_true_iff.mp begins with blank | hyphen
      · exact Text.isWord_of_isBlank blank
      · rw [eq_of_beq hyphen]
        decide
    | sign | quoted => trivial
  · rintro _ ⟨⟩ characters - other listed' sign
    have solid := table_solid other listed' (characters ++ [c]) (by simp [sign, Shape.spelled?])
    simp [begins] at solid

end Rule

namespace Slice

variable {slice : Slice} {slices : List Slice} {rest other : List Char}

/-- A token is the same where a gap begins behind it, and at the end of the text. -/
theorem Heads.before_gap (heads : slice.Heads rest) (made : slice.kind ≠ none)
    (begins : ∀ c ∈ other.head?, beginsGap c = true) : slice.Heads other := by
  obtain ⟨rule, listed, isKind, fits, -⟩ := heads_iff.mp heads
  refine heads_iff.mpr ⟨rule, listed, isKind, fits, ?_⟩
  cases next : other.head? with
  | none => exact rule.stops_none
  | some c => exact Rule.stops_of_beginsGap listed (isKind ▸ made) (begins c next)

end Slice

/-- A token that is read somewhere. -/
def Token.Occurs (token : Token) : Prop :=
  ∃ rest, Slice.Heads ⟨some token.kind, token.lexeme.toList⟩ rest

/-- The tokens of slices occur. -/
theorem Slice.occurs_of_mem {slices : List Slice} {rest : List Char} {token : Token}
    (tiled : Tiled slices rest) (member : token ∈ tokens slices) : token.Occurs := by
  obtain ⟨slice, listed, made⟩ := List.mem_filterMap.mp member
  obtain ⟨before, behind, rfl⟩ := List.append_of_mem listed
  obtain ⟨kind, isKind, rfl⟩ := Option.map_eq_some_iff.mp made
  refine ⟨woven behind ++ rest, ?_⟩
  have heads := tiled.heads
  rwa [Heads, isKind, ← String.toList_ofList (l := slice.characters)] at heads

/-! ## Gaps -/

/-- A gap is passed over, whatever follows it. -/
theorem Cursor.next_gap {gap : List Char} (isGap : IsGap gap) (text : List Char) (position : Nat) :
    next ⟨position, gap ++ text⟩ = next ⟨position + Text.byteLength gap, text⟩ := by
  induction isGap generalizing position with
  | nothing => rfl
  | blank isBlank _ inductionHypothesis =>
    rw [List.cons_append, next_blank isBlank, inductionHypothesis, Text.byteLength_cons,
      Nat.add_assoc]
  | @comment line rest oneLine _ inductionHypothesis =>
    have listed : (⟨.comment, none⟩ : Rule) ∈ Rule.table := by decide
    have heads : Slice.Heads ⟨none, '-' :: '-' :: line⟩ ('\n' :: (rest ++ text)) := by
      refine Slice.heads_iff.mpr ⟨_, listed, rfl, .comment oneLine, ?_, nofun⟩
      rintro c ⟨⟩
      rfl
    have newline : Text.isBlank '\n' = true := by decide
    have passed := next_skipped heads rfl position
    simp only [List.cons_append, List.append_assoc] at passed ⊢
    rw [passed, next_blank newline, inductionHypothesis]
    simp only [Text.byteLength_cons, Text.byteLength_append, Nat.add_assoc]

/-! ## Laid out tokens -/

/-- Tokens with a text behind each of them. -/
def laidOut (pieces : List (Token × String)) : List Char :=
  pieces.flatMap fun (token, gap) => token.lexeme.toList ++ gap.toList

theorem laidOut_cons (token : Token) (gap : String) (rest : List (Token × String)) :
    laidOut ((token, gap) :: rest) = token.lexeme.toList ++ (gap.toList ++ laidOut rest) := by
  simp [laidOut]

/-- Tokens with gaps behind them are read as these tokens. Only the last gap may be empty. -/
theorem Scan.ofCursor_laidOut {pieces : List (Token × String)}
    (occur : ∀ piece ∈ pieces, piece.1.Occurs) (areGaps : ∀ piece ∈ pieces, IsGap piece.2.toList)
    (apart : ∀ piece ∈ pieces.dropLast, piece.2 ≠ "") (position : Nat) :
    ofCursor ⟨position, laidOut pieces⟩ = ⟨pieces.map (·.1), none⟩ := by
  induction pieces generalizing position with
  | nil =>
    have ends : Rule.firstMatch Rule.table [] = none := rfl
    simpa [laidOut] using ofCursor_halt ends position
  | cons piece rest inductionHypothesis =>
    obtain ⟨token, gap⟩ := piece
    obtain ⟨occurs, occur'⟩ := List.forall_mem_cons.mp occur
    obtain ⟨isGap, areGaps'⟩ := List.forall_mem_cons.mp areGaps
    obtain ⟨other, heads⟩ := occurs
    have apart' : ∀ piece ∈ rest.dropLast, piece.2 ≠ "" := by
      cases rest with
      | nil => simp
      | cons => exact (List.forall_mem_cons.mp apart).2
    -- What follows the token is the gap, or nothing at all behind the last token.
    have begins : ∀ c ∈ (gap.toList ++ laidOut rest).head?, beginsGap c = true := by
      cases text : gap.toList with
      | cons first more =>
        have begins := isGap.begins
        simpa [text] using begins
      | nil =>
        cases rest with
        | nil => simp [laidOut]
        | cons => exact absurd (String.toList_eq_nil_iff.mp text) (apart _ List.mem_cons_self)
    have read := Cursor.next_token (heads.before_gap (by simp) begins) rfl position
    rw [laidOut_cons, scan_next, read]
    have later := inductionHypothesis occur' areGaps' apart'
    simp [ofCursor_congr (Cursor.next_gap isGap _ _), later, String.ofList_toList]

/-- A text that does not break off is read as its tokens, and each of them occurs. -/
theorem Scan.ofText_of_tokenize {text : String} {tokens : List Token}
    (scans : tokenize text = .ok tokens) :
    ofText text = ⟨tokens, none⟩ ∧ ∀ token ∈ tokens, token.Occurs := by
  obtain ⟨slices, rest, whole, tiled, unmatched⟩ := Slice.exists_tiled text.toList
  have scan := ofCursor_tiled tiled 0
  rw [← whole, ← Cursor.start, ← ofText, ofCursor_halt unmatched] at scan
  obtain rfl : rest = [] := by
    by_contra left
    simp [tokenize, scan, left] at scans
  obtain rfl : Slice.tokens slices = tokens := by simpa [tokenize, scan] using scans
  exact ⟨by simpa using scan, fun token member => Slice.occurs_of_mem tiled member⟩

namespace Query

/-- The tokens of a text are the tokens of each text in which they stand in the same order with
    gaps before, between and behind them, of which only the first and the last may be empty. So both
    texts are read alike: as the same statements, or with the same error. -/
theorem parse_laidOut {text first : String} {pieces : List (Token × String)}
    (scans : Scan.tokenize text = .ok (pieces.map (·.1))) (isGap : IsGap first.toList)
    (areGaps : ∀ piece ∈ pieces, IsGap piece.2.toList)
    (apart : ∀ piece ∈ pieces.dropLast, piece.2 ≠ "") :
    let other := String.ofList (first.toList ++ laidOut pieces)
    Scan.tokenize other = .ok (pieces.map (·.1)) ∧ parse other = parse text := by
  intro other
  obtain ⟨scan, occur⟩ := Scan.ofText_of_tokenize scans
  have occur' : ∀ piece ∈ pieces, piece.1.Occurs := fun piece member =>
    occur _ (List.mem_map_of_mem member)
  have scan' : Scan.ofText other = ⟨pieces.map (·.1), none⟩ := by
    rw [Scan.ofText, Cursor.start, String.toList_ofList,
      Scan.ofCursor_congr (Cursor.next_gap isGap _ _), Scan.ofCursor_laidOut occur' areGaps apart]
  have settled {text : String} (scan : Scan.ofText text = ⟨pieces.map (·.1), none⟩) :
      (Scan.ofText text).Settled := by
    rw [scan]
    exact fun _ => rfl
  refine ⟨by simp [Scan.tokenize, scan'], ?_⟩
  rw [parse, parse, Parser.parse_of_settled _ (settled scan'),
    Parser.parse_of_settled _ (settled scan), scan, scan']

/-- A comment behind a word and one behind a sign, and a string that holds hyphens. -/
theorem parse_laidOut_comments :
    let text := "WHERE<'--'"
    let pieces : List (Token × String) :=
      [(⟨.condition, "WHERE"⟩, "--\n"), (⟨.less, "<"⟩, "--'\n\u2003"), (⟨.string, "'--'"⟩, "")]
    Scan.tokenize text = .ok (pieces.map (·.1)) ∧ IsGap "".toList ∧
    (∀ piece ∈ pieces, IsGap piece.2.toList) ∧ (∀ piece ∈ pieces.dropLast, piece.2 ≠ "") ∧
    Scan.tokenize "WHERE--\n<--'\n\u2003'--'" = .ok (pieces.map (·.1)) ∧
    parse "WHERE--\n<--'\n\u2003'--'" = parse text := by
  intro text pieces
  have scans : Scan.tokenize text = .ok (pieces.map (·.1)) := by
    have tiled : Slice.Tiled [⟨some .condition, "WHERE".toList⟩, ⟨some .less, "<".toList⟩,
        ⟨some .string, "'--'".toList⟩] [] :=
      .matched rfl (.matched rfl (.matched rfl (.nothing [])))
    have scan := Scan.ofCursor_tiled tiled 0
    have whole : Slice.woven [⟨some .condition, "WHERE".toList⟩, ⟨some .less, "<".toList⟩,
        ⟨some .string, "'--'".toList⟩] ++ [] = text.toList := by decide
    rw [whole, ← Cursor.start, ← Scan.ofText, Scan.ofCursor_halt rfl] at scan
    simp [Scan.tokenize, scan]
    rfl
  have areGaps : ∀ piece ∈ pieces, IsGap piece.2.toList := by
    intro piece member
    simp only [pieces, List.mem_cons, List.not_mem_nil, or_false] at member
    rcases member with rfl | rfl | rfl
    · exact .comment (by decide : '\n' ∉ []) .nothing
    · exact .comment (by decide : '\n' ∉ ['\'']) (.blank (by decide) .nothing)
    · exact .nothing
  have apart : ∀ piece ∈ pieces.dropLast, piece.2 ≠ "" := by decide
  have empty : IsGap "".toList := .nothing
  obtain ⟨scans', same⟩ := parse_laidOut scans empty areGaps apart
  exact ⟨scans, empty, areGaps, apart, scans', same⟩

end Query

end FileQuery
