import FileQuery.Proofs.Query.RoundTrip
import FileQuery.Proofs.Query.Lookahead

/-!
# Queries one after another

Two query texts with a semicolon on a line of its own between them are read as the one and then the
other. The line feed ends whatever stands before it: a word, a sign, and a comment too. The
semicolon ends the statement before it, which could go on with a WHERE clause or its conditions
else. So nothing of the first text reaches the second one, but the places in the second one are as
many bytes further on as stand before it.
-/

namespace FileQuery

/-! ## The seam between two texts -/

/-- The text between two query texts. -/
def Query.seam : String := "\n;\n"

/-- A failure so many bytes further on. -/
def UnexpectedInput.moved (bytes : Nat) (failure : UnexpectedInput) : UnexpectedInput :=
  { failure with position := failure.position + bytes }

namespace Slice

variable {slice : Slice} {slices : List Slice} {rest other : List Char}

/-- A token is the same before a line feed. -/
theorem Heads.before_newline (heads : slice.Heads rest) (made : slice.kind ≠ none)
    (seam : other.head? = rest.head? ∨ other.head? = some '\n') : slice.Heads other := by
  obtain ⟨rule, listed, isKind, fits, stops⟩ := heads_iff.mp heads
  refine heads_iff.mpr ⟨rule, listed, isKind, fits, ?_⟩
  rcases seam with same | newline
  · rwa [same]
  · rw [newline]
    exact Rule.stops_newline listed (isKind ▸ made)

end Slice

namespace Cursor

open Slice

variable {slice : Slice} {rest other : List Char}

/-- What is passed over is passed over before a line feed, though blanks may go on with it. -/
theorem next_skipped_newline (heads : slice.Heads rest) (skipped : slice.kind = none)
    (seam : other.head? = rest.head? ∨ other.head? = some '\n') (position : Nat) :
    next ⟨position, slice.characters ++ other⟩ =
      next ⟨position + Text.byteLength slice.characters, other⟩ := by
  obtain ⟨rule, listed, isKind, fits, stops⟩ := heads_iff.mp heads
  rcases Rule.table_gaps rule listed (isKind.trans skipped) with shape | shape
  · rw [shape] at fits
    cases fits with
    | blanks some_run blank => exact next_blanks blank other position
  · have ends : ∀ c ∈ other.head?, c = '\n' := by
      rcases seam with same | newline
      · have stopped := stops.1
        rw [shape] at stopped
        exact same ▸ stopped
      · simp [newline]
    have stops' : rule.Stops other.head? :=
      ⟨shape ▸ ends, fun _ _ _ sign => by simp [shape] at sign⟩
    have heads' : slice.Heads other := heads_iff.mpr ⟨rule, listed, isKind, fits, stops'⟩
    exact next_skipped heads' (Option.map_eq_none_iff.mpr skipped) position

end Cursor

namespace Scan

open Slice

variable {slices : List Slice} {more : List Char}

/-- The tokens of a text that does not break off come before those of what stands on the lines
    after it. -/
theorem ofCursor_newline (tiled : Tiled slices []) (more : List Char) (position : Nat) :
    ofCursor ⟨position, woven slices ++ '\n' :: more⟩ =
      let later := ofCursor ⟨position + Text.byteLength (woven slices), '\n' :: more⟩
      ⟨Slice.tokens slices ++ later.tokens, later.failure⟩ := by
  induction slices generalizing position with
  | nil => simp
  | cons first slices inductionHypothesis =>
    obtain ⟨heads, later⟩ := tiled_cons.mp tiled
    have scans := inductionHypothesis later (position + Text.byteLength first.characters)
    have seam : (woven slices ++ '\n' :: more).head? = (woven slices ++ []).head? ∨
        (woven slices ++ '\n' :: more).head? = some '\n' := by
      cases woven slices <;> simp
    rw [woven_cons, List.append_assoc]
    cases made : first.token? with
    | none =>
      have skipped := Option.map_eq_none_iff.mp made
      rw [ofCursor_congr (Cursor.next_skipped_newline heads skipped seam position), scans,
        tokens_cons_none slices made]
      simp [Nat.add_assoc]
    | some token =>
      have isToken : first.kind ≠ none := by
        rintro skipped
        simp [token?, skipped] at made
      rw [scan_next, Cursor.next_token (heads.before_newline isToken seam) made position,
        tokens_cons_some slices made]
      simp [scans, Nat.add_assoc]

/-- A scan from a place further on differs in the place of its failure only. -/
theorem ofCursor_moved (text : List Char) (bytes position : Nat) :
    ofCursor ⟨position + bytes, text⟩ =
      ⟨(ofCursor ⟨position, text⟩).tokens,
        (ofCursor ⟨position, text⟩).failure.map (.moved bytes)⟩ := by
  obtain ⟨slices, rest, rfl, tiled, unmatched⟩ := exists_tiled text
  simp only [ofCursor_tiled tiled, ofCursor_halt unmatched]
  by_cases ends : rest = []
  · simp [ends]
  · simp [ends, UnexpectedInput.moved]
    omega

/-- The semicolon between two texts. -/
def separator : Token := ⟨.semicolon, ";"⟩

/-- What a seam and a text after it are read as. -/
theorem ofCursor_seam (text : List Char) (position : Nat) :
    ofCursor ⟨position, Query.seam.toList ++ text⟩ =
      let later := ofCursor ⟨position + 3, text⟩
      ⟨separator :: later.tokens, later.failure⟩ := by
  have newline : Text.isBlank '\n' = true := by decide
  have heads : Slice.Heads ⟨some .semicolon, [';']⟩ ('\n' :: text) := rfl
  have read : Cursor.next ⟨position + 1, ';' :: '\n' :: text⟩ =
      (.ok (some separator), ⟨position + 2, '\n' :: text⟩) :=
    Cursor.next_token heads rfl (position + 1)
  calc
    ofCursor ⟨position, '\n' :: ';' :: '\n' :: text⟩
    _ = ofCursor ⟨position + 1, ';' :: '\n' :: text⟩ :=
      ofCursor_congr (Cursor.next_blank newline (';' :: '\n' :: text) position)
    _ = let later := ofCursor ⟨position + 2, '\n' :: text⟩
        ⟨separator :: later.tokens, later.failure⟩ := by rw [scan_next, read]
    _ = let later := ofCursor ⟨position + 3, text⟩
        ⟨separator :: later.tokens, later.failure⟩ := by
      rw [ofCursor_congr (Cursor.next_blank newline text (position + 2))]
      rfl

/-- The tokens of two texts with a seam between them are those of the one, a semicolon and those of
    the other, if the first text does not break off. -/
theorem ofText_seam {first : String} (ends : (ofText first).failure = none) (second : String) :
    ofText (first ++ Query.seam ++ second) =
      ⟨(ofText first).tokens ++ separator :: (ofText second).tokens,
        (ofText second).failure.map (.moved (first ++ Query.seam).utf8ByteSize)⟩ := by
  obtain ⟨slices, rest, whole, tiled, unmatched⟩ := exists_tiled first.toList
  have scan := ofCursor_tiled tiled 0
  rw [← whole, ← Cursor.start, ← ofText, ofCursor_halt unmatched] at scan
  obtain rfl : rest = [] := by
    by_contra left
    simp [scan, left] at ends
  rw [List.append_nil] at whole
  have size : (first ++ Query.seam).utf8ByteSize = Text.byteLength (woven slices) + 3 := by
    rw [String.utf8ByteSize_append, ← Text.byteLength_toList, whole]
    rfl
  have moved := ofCursor_moved second.toList (Text.byteLength (woven slices) + 3) 0
  have texts : (first ++ Query.seam ++ second).toList =
      woven slices ++ '\n' :: ';' :: '\n' :: second.toList := by
    rw [String.toList_append, String.toList_append, whole, List.append_assoc]
    rfl
  have behind := ofCursor_seam second.toList (Text.byteLength (woven slices))
  rw [Nat.zero_add] at moved
  rw [moved] at behind
  calc
    ofText (first ++ Query.seam ++ second)
    _ = ofCursor ⟨0, woven slices ++ '\n' :: ';' :: '\n' :: second.toList⟩ := by
      rw [ofText, Cursor.start, texts]
    _ = let later := ofCursor ⟨Text.byteLength (woven slices), Query.seam.toList ++ second.toList⟩
        ⟨Slice.tokens slices ++ later.tokens, later.failure⟩ := by
      rw [ofCursor_newline tiled, Nat.zero_add]
      rfl
    _ = _ := by
      rw [behind, scan, size]
      simp [ofText, Cursor.start]

end Scan

/-! ## Reading both texts -/

/-- An error with its place so many bytes further on. Only an error at which the text breaks off has
    one. -/
def ParseError.moved (bytes : Nat) : ParseError → ParseError
  | unexpectedInput failure => unexpectedInput (failure.moved bytes)
  | unexpectedToken expected found => unexpectedToken expected found
  | unexpectedEnd expected => unexpectedEnd expected

namespace Query

open Grammar

variable {first second : String} {statements : List Statement} {tokens : List Token}
  {failure : Option UnexpectedInput}

/-- Where a text breaks off does not matter to what the tokens before are read as. -/
theorem statements_moved (settled : Scan.Settled ⟨tokens, failure⟩) (bytes : Nat) :
    (Query.statements (⟨tokens, failure.map (.moved bytes)⟩ : Scan)).1 =
      (Query.statements (⟨tokens, failure⟩ : Scan)).1.mapError (.moved bytes) := by
  rcases read : Query.statements (⟨tokens, failure⟩ : Scan) with ⟨error | found, after⟩
  · cases statements_refused read settled with
    | token before rest split continues sticks =>
      obtain rfl : tokens = _ := split
      rw [sticks]
      rfl
    | ending ends _ =>
      obtain rfl : failure = none := ends
      rw [Option.map_none, read]
      rfl
    | @failing found breaks viable =>
      obtain rfl : failure = some found := breaks
      have settled' : Scan.Settled ⟨tokens, some (found.moved bytes)⟩ := fun nothing =>
        absurd (settled nothing) (Option.some_ne_none found)
      have fits := (statements_decide settled').2 fun _ begins => viable.of_prefix begins
      exact fits.1 _ rfl
  · obtain ⟨-, ends, -⟩ := statements_accepted read settled
    obtain rfl : failure = none := ends
    rw [Option.map_none, read]
    rfl

/-- A text that is read has the tokens of a query, and does not break off. -/
theorem isQuery_of_parse (read : parse first = .ok statements) :
    IsQuery (Scan.ofText first).tokens statements ∧ (Scan.ofText first).failure = none := by
  rcases (Scan.ofText first).settled_or with settled | ⟨failure, breaks⟩
  · rw [parse, Parser.parse_of_settled Parser.fresh settled] at read
    obtain ⟨sentence, ends, -⟩ := statements_accepted (Prod.ext read rfl) settled
    exact ⟨sentence, ends⟩
  · rw [parse, Parser.parse_of_failure Parser.fresh breaks] at read
    contradiction

/-- A reader whose value is changed comes to the changed value. -/
theorem map_apply {α β : Type} (reader : Reading Scan α) (change : α → β) (scan : Scan) :
    ((reader >>= fun value => pure (change value) : Reading Scan β) scan).1 =
      (reader scan).1.map change := by
  rw [bind_apply]
  rcases reader scan with ⟨error | value, after⟩ <;> rfl

/-- A semicolon before a text is passed over. -/
theorem statements_separator (second : String) (bytes : Nat) :
    (Query.statements (⟨Scan.separator :: (Scan.ofText second).tokens,
      (Scan.ofText second).failure.map (.moved bytes)⟩ : Scan)).1 =
      (parse second).mapError (.moved bytes) := by
  have listed : Scan.separator.kind ∈ [TokenKind.semicolon] := by decide
  rw [statements_semicolon ((ahead_iff _ _).mpr ⟨Scan.separator, rfl, listed⟩), bind_apply, parse]
  rcases (Scan.ofText second).settled_or with settled | ⟨failure, breaks⟩
  · have goesOn (nothing : (Scan.ofText second).tokens = []) :
        (Scan.ofText second).failure.map (UnexpectedInput.moved bytes) = none := by
      rw [settled nothing, Option.map_none]
    rw [take_listed listed goesOn, Parser.parse_of_settled Parser.fresh settled]
    exact statements_moved settled bytes
  -- A text that breaks off at once is refused when its place is looked for behind the semicolon.
  · rw [Parser.parse_of_failure Parser.fresh breaks, breaks, Option.map_some,
      take_last (failure.moved bytes) listed]
    rfl

/-- Two texts with a seam between them are read as the one and then the other. -/
theorem parse_seam (read : parse first = .ok statements) (second : String) :
    parse (first ++ seam ++ second) = ((parse second).map (statements ++ ·)).mapError
      (.moved (first ++ seam).utf8ByteSize) := by
  obtain ⟨sentence, ends⟩ := isQuery_of_parse read
  have scan := Scan.ofText_seam ends second
  have settled : (Scan.ofText (first ++ seam ++ second)).Settled := by
    rw [scan]
    intro nothing
    simp at nothing
  have stopped : Stops filterStops (Scan.separator :: (Scan.ofText second).tokens) := by
    rintro token ⟨⟩
    decide
  have goesOn (nothing : Scan.separator :: (Scan.ofText second).tokens = []) :
      (Scan.ofText second).failure.map (UnexpectedInput.moved (first ++ seam).utf8ByteSize) =
        none :=
    absurd nothing (List.cons_ne_nil _ _)
  rw [parse, Parser.parse_of_settled Parser.fresh settled, scan,
    statements_append sentence stopped goesOn, map_apply, statements_separator]
  cases parse second <;> rfl

/-- What is read from two query texts with a semicolon on a line of its own between them, where the
    first one can be read: the statements of both, if the second one can be read as well, and else
    the error of the second one. A place that it reports is as many bytes further on as stand before
    the second text, and what is left there is the same. -/
theorem parse_append (read : parse first = .ok statements) (second : String) :
    let whole := first ++ "\n;\n" ++ second
    let bytes := (first ++ "\n;\n").utf8ByteSize
    (∀ found, parse whole = .ok found ↔
      ∃ more, parse second = .ok more ∧ found = statements ++ more) ∧
    (∀ expected found, parse second = .error (.unexpectedToken expected found) →
      parse whole = .error (.unexpectedToken expected found)) ∧
    (∀ expected, parse second = .error (.unexpectedEnd expected) →
      parse whole = .error (.unexpectedEnd expected)) ∧
    (∀ position remaining, parse second = .error (.unexpectedInput ⟨position, remaining⟩) →
      ∃ error, parse whole = .error error ∧
        error = .unexpectedInput ⟨position + bytes, remaining⟩ ∧
        error.message = "Unexpected input at position " ++ toString (position + bytes) ++ ": \"" ++
          remaining ++ "\"" ∧
        error.report = "Lexical error at position " ++ toString (position + bytes) ++ ": " ++
          error.message) := by
  intro whole bytes
  have both : parse whole = ((parse second).map (statements ++ ·)).mapError (.moved bytes) :=
    parse_seam read second
  rw [both]
  clear_value bytes
  refine ⟨fun found => ?_, fun expected found fails => ?_, fun expected fails => ?_,
    fun position remaining fails => ?_⟩
  · cases parse second with
    | error error =>
      constructor
      · intro succeeds
        cases succeeds
      · rintro ⟨_, reads, -⟩
        cases reads
    | ok more =>
      constructor
      · rintro ⟨⟩
        exact ⟨more, rfl, rfl⟩
      · rintro ⟨_, ⟨⟩, rfl⟩
        rfl
  · rw [fails]
    rfl
  · rw [fails]
    rfl
  · rw [fails]
    exact ⟨.unexpectedInput ⟨position + bytes, remaining⟩, rfl, rfl, rfl, rfl⟩

/-- The place of the fault in the second text counts the bytes of the first one, in which an
    accented letter has two. -/
theorem parse_append_accented :
    parse "DELETE 'é' FROM ''" = .ok [.delete ⟨"é", "", none⟩] ∧ parse "?" =
      .error (.unexpectedInput ⟨0, "?"⟩) ∧ parse ("DELETE 'é' FROM ''" ++ "\n;\n" ++ "?") =
      .error (.unexpectedInput ⟨22, "?"⟩) := by
  have faithful : Statement.Faithful (.delete ⟨"é", "", none⟩) :=
    faithful_of_clauses ⟨by simp [Quotable, Statement.selection],
      by simp [Quotable, Statement.selection], nofun⟩ nofun
  have text : Statement.text (.delete ⟨"é", "", none⟩) = "DELETE 'é' FROM ''" := by decide
  have read : parse "DELETE 'é' FROM ''" = .ok [.delete ⟨"é", "", none⟩] := by
    rw [← text, parse_text faithful]
  have breaks : parse "?" = .error (.unexpectedInput ⟨0, "?"⟩) := by
    refine Parser.parse_of_failure Parser.fresh ?_
    exact Scan.ofCursor_halt rfl 0
  obtain ⟨-, -, -, moved⟩ := parse_append read "?"
  obtain ⟨error, fails, same, -, -⟩ := moved 0 "?" breaks
  have place : 0 + ("DELETE 'é' FROM ''" ++ "\n;\n").utf8ByteSize = 22 := by decide
  rw [same, place] at fails
  exact ⟨read, breaks, fails⟩

end Query

end FileQuery
