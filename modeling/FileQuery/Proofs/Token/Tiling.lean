import FileQuery.Proofs.Token.Lexemes
import FileQuery.Query

/-!
# Tilings

The calls of a cursor cut a text into slices. Each is what matches first at its place: a token, or
blanks or a comment between tokens. The cursor stands between two slices, and it goes on until
nothing is left or nothing matches.

Whether a slice matches depends on the text after it by one character only, and a slice that is not
the last one has the next one after it. So the slices stay what they are when the text is cut off
behind them (`Tiled.congr`).
-/

namespace FileQuery

/-- What one match takes from a text: the kind of token that it makes, if it makes one, and the
    characters. -/
structure Slice where
  kind : Option TokenKind
  characters : List Char

namespace Slice

variable {slice : Slice} {slices before behind : List Slice} {rest other : List Char}

/-- The token that a slice makes. -/
def token? (slice : Slice) : Option Token :=
  slice.kind.map fun kind => ⟨kind, String.ofList slice.characters⟩

/-- The text of slices, one after another. -/
def woven (slices : List Slice) : List Char := slices.flatMap characters

/-- The tokens that slices make. -/
def tokens (slices : List Slice) : List Token := slices.filterMap token?

@[simp] theorem woven_nil : woven [] = [] := rfl

@[simp] theorem woven_cons (slice : Slice) (slices : List Slice) :
    woven (slice :: slices) = slice.characters ++ woven slices := rfl

@[simp] theorem woven_append (before behind : List Slice) :
    woven (before ++ behind) = woven before ++ woven behind := List.flatMap_append

@[simp] theorem tokens_nil : tokens [] = [] := rfl

theorem tokens_cons_some {token : Token} (slices : List Slice) (made : slice.token? = some token) :
    tokens (slice :: slices) = token :: tokens slices := List.filterMap_cons_some made

theorem tokens_cons_none (slices : List Slice) (skipped : slice.token? = none) :
    tokens (slice :: slices) = tokens slices := List.filterMap_cons_none skipped

/-- A slice is what matches first where it is followed by a text. -/
def Heads (slice : Slice) (rest : List Char) : Prop :=
  Rule.firstMatch Rule.table (slice.characters ++ rest) = some (slice.kind, slice.characters.length)

/-- A slice is a lexeme of a rule that stops there. -/
theorem heads_iff : slice.Heads rest ↔ ∃ rule ∈ Rule.table, rule.kind = slice.kind ∧
    rule.shape.Fits slice.characters ∧ rule.Stops rest.head? :=
  Rule.firstMatch_append_iff

/-- A slice is not empty. -/
theorem Heads.nonempty (heads : slice.Heads rest) : slice.characters ≠ [] := by
  obtain ⟨rule, listed, -, fits, -⟩ := heads_iff.mp heads
  exact Rule.lexeme_ne_nil listed fits

/-- A slice that matches somewhere matches at the end of a text, and wherever the next character is
    the same. -/
theorem Heads.congr (heads : slice.Heads rest)
    (seam : other.head? = rest.head? ∨ other = []) : slice.Heads other := by
  obtain ⟨rule, listed, made, fits, stops⟩ := heads_iff.mp heads
  refine heads_iff.mpr ⟨rule, listed, made, fits, ?_⟩
  rcases seam with same | rfl
  · rwa [same]
  · exact rule.stops_none

/-- A slice that makes no token is a run of blanks, or a comment within a line. -/
theorem Heads.skipped (heads : slice.Heads rest) (none : slice.kind = none) :
    (∀ c ∈ slice.characters, Text.isBlank c = true) ∨
      ∃ line, slice.characters = '-' :: '-' :: line ∧ '\n' ∉ line := by
  obtain ⟨rule, listed, made, fits, -⟩ := heads_iff.mp heads
  rcases Rule.table_gaps rule listed (made.trans none) with shape | shape <;> rw [shape] at fits
  · cases fits with
    | blanks some_run blank => exact .inl blank
  · generalize slice.characters = characters at fits
    cases fits with
    | comment oneLine => exact .inr ⟨_, rfl, oneLine⟩

/-- A slice that makes a string stands between two equal quotes and does not hold that quote. -/
theorem Heads.quoted (heads : slice.Heads rest) (string : slice.kind = some .string) :
    ∃ quote body, (quote = '\'' ∨ quote = '"') ∧ quote ∉ body ∧
      slice.characters = quote :: (body ++ [quote]) := by
  obtain ⟨rule, listed, made, fits, -⟩ := heads_iff.mp heads
  rw [Rule.table_strings rule listed (made.trans string)] at fits
  generalize slice.characters = characters at fits
  cases fits with
  | quoted mark absent => exact ⟨_, _, mark, absent, rfl⟩

/-- Slices that match one after the other, the last one before the rest of a text. -/
inductive Tiled : List Slice → List Char → Prop
  | nothing (rest : List Char) : Tiled [] rest
  | matched {slice : Slice} {slices : List Slice} {rest : List Char}
    (heads : slice.Heads (woven slices ++ rest)) (later : Tiled slices rest) :
    Tiled (slice :: slices) rest

theorem tiled_cons : Tiled (slice :: slices) rest ↔
    slice.Heads (woven slices ++ rest) ∧ Tiled slices rest := by
  constructor
  · rintro (_ | ⟨heads, later⟩)
    exact ⟨heads, later⟩
  · rintro ⟨heads, later⟩
    exact .matched heads later

/-- Every slice matches before what follows it. -/
theorem Tiled.heads (tiled : Tiled (before ++ slice :: behind) rest) :
    slice.Heads (woven behind ++ rest) := by
  induction before with
  | nil => exact (tiled_cons.mp tiled).1
  | cons first before inductionHypothesis => exact inductionHypothesis (tiled_cons.mp tiled).2

/-- Slices match alike at the end of a text, and wherever the character after the last one is the
    same. -/
theorem Tiled.congr (tiled : Tiled slices rest)
    (seam : other.head? = rest.head? ∨ other = []) : Tiled slices other := by
  induction tiled with
  | nothing => exact .nothing other
  | @matched slice slices rest heads later inductionHypothesis =>
    refine .matched (heads.congr ?_) (inductionHypothesis seam)
    cases later with
    | nothing => exact seam
    | @matched next more _ nextHeads _ =>
      -- The next slice has a character, which follows whatever comes behind it.
      obtain ⟨c, characters, begins⟩ := List.exists_cons_of_ne_nil nextHeads.nonempty
      simp [begins]

/-- A text has slices up to where nothing matches. -/
theorem exists_tiled (text : List Char) : ∃ slices rest, text = woven slices ++ rest ∧
    Tiled slices rest ∧ Rule.firstMatch Rule.table rest = none := by
  cases matched : Rule.firstMatch Rule.table text with
  | none => exact ⟨[], text, rfl, .nothing text, matched⟩
  | some found =>
    obtain ⟨kind, count⟩ := found
    obtain ⟨lexeme, later, rfl, rfl, nonempty, -⟩ := Rule.exists_lexeme matched
    have shorter := List.length_pos_iff.mpr nonempty
    obtain ⟨slices, rest, rfl, tiled, ends⟩ := exists_tiled later
    exact ⟨⟨kind, lexeme⟩ :: slices, rest, by simp, .matched matched tiled, ends⟩
termination_by text.length
decreasing_by
  simp_all only [List.length_append]
  omega

end Slice

namespace Cursor

open Slice

variable {slice : Slice} {slices before behind : List Slice} {rest : List Char} {cursor : Cursor}

/-! ## Calls -/

/-- What a call returns where nothing matches: no token at the end of a text, and a failure
    before it. -/
def halt (cursor : Cursor) : Except UnexpectedInput (Option Token) :=
  if cursor.rest = [] then .ok none else .error ⟨cursor.position, String.ofList cursor.rest⟩

/-- Where nothing matches, a call returns at once, and the cursor stays. -/
theorem next_halt (unmatched : Rule.firstMatch Rule.table rest = none) (position : Nat) :
    next ⟨position, rest⟩ = (halt ⟨position, rest⟩, ⟨position, rest⟩) := by
  cases rest with
  | nil => rw [next, halt, if_pos rfl]
  | cons first more =>
    rw [next, halt, if_neg (List.cons_ne_nil first more)]
    simp only [unmatched]

/-- A slice that makes a token is returned by a call, and the cursor stands behind it then. -/
theorem next_token {token : Token} (heads : slice.Heads rest) (made : slice.token? = some token)
    (position : Nat) : next ⟨position, slice.characters ++ rest⟩ =
      (.ok (some token), ⟨position + Text.byteLength slice.characters, rest⟩) := by
  obtain ⟨kind, isKind, rfl⟩ := Option.map_eq_some_iff.mp made
  have matched := heads
  obtain ⟨c, characters, begins⟩ := List.exists_cons_of_ne_nil heads.nonempty
  rw [Heads, isKind, begins, List.length_cons, List.cons_append] at matched
  rw [begins, List.cons_append, next]
  simp only [matched, advance]
  simp

/-- A slice that makes no token is passed over by a call. -/
theorem next_skipped (heads : slice.Heads rest) (skipped : slice.token? = none)
    (position : Nat) : next ⟨position, slice.characters ++ rest⟩ =
      next ⟨position + Text.byteLength slice.characters, rest⟩ := by
  have none : slice.kind = none := Option.map_eq_none_iff.mp skipped
  have matched := heads
  obtain ⟨c, characters, begins⟩ := List.exists_cons_of_ne_nil heads.nonempty
  rw [Heads, none, begins, List.length_cons, List.cons_append] at matched
  rw [begins, List.cons_append, next]
  simp only [matched, advance]
  simp

/-- A blank is passed over, whatever follows it. -/
theorem next_blank {c : Char} (blank : Text.isBlank c = true) (text : List Char)
    (position : Nat) : next ⟨position, c :: text⟩ = next ⟨position + c.utf8Size, text⟩ := by
  obtain ⟨rest, split, blanks, ends⟩ := Shape.exists_run Text.isBlank text
  have listed : (⟨.blanks, none⟩ : Rule) ∈ Rule.table := by decide
  have stops : Rule.Stops ⟨.blanks, none⟩ rest.head? := ⟨ends, nofun⟩
  have passes {run : List Char} (some_run : run ≠ [])
      (blanks : ∀ c ∈ run, Text.isBlank c = true) (position : Nat) :
      next ⟨position, run ++ rest⟩ = next ⟨position + Text.byteLength run, rest⟩ := by
    have heads : Heads ⟨none, run⟩ rest :=
      heads_iff.mpr ⟨_, listed, rfl, .blanks some_run blanks, stops⟩
    exact next_skipped heads rfl position
  -- The blank is passed over together with those that follow it.
  generalize text.takeWhile Text.isBlank = run at split blanks
  subst split
  have together := passes (List.cons_ne_nil c run) (by simpa [blank] using blanks) position
  rw [List.cons_append] at together
  rw [together, Text.byteLength_cons, ← Nat.add_assoc]
  cases run with
  | nil => rfl
  | cons next more => exact (passes (List.cons_ne_nil next more) blanks _).symm

/-- Blanks are passed over, whatever follows them. -/
theorem next_blanks {run : List Char} (blanks : ∀ c ∈ run, Text.isBlank c = true)
    (text : List Char) (position : Nat) :
    next ⟨position, run ++ text⟩ = next ⟨position + Text.byteLength run, text⟩ := by
  induction run generalizing position with
  | nil => rfl
  | cons c run inductionHypothesis =>
    obtain ⟨blank, blanks⟩ := List.forall_mem_cons.mp blanks
    rw [List.cons_append, next_blank blank, inductionHypothesis blanks, Text.byteLength_cons,
      Nat.add_assoc]

/-- The cursor after a number of calls. -/
def after (cursor : Cursor) : Nat → Cursor
  | 0 => cursor
  | calls + 1 => cursor.next.2.after calls

/-- Cursors that do the same in a call do the same in later calls. -/
theorem next_after_congr {other : Cursor} (same : cursor.next = other.next) (calls : Nat) :
    (cursor.after calls).next = (other.after calls).next := by
  cases calls with
  | zero => exact same
  | succ calls => rw [after, after, same]

/-- After as many calls as there are tokens before a slice, the next call returns its token. -/
theorem next_after_token {token : Token} (tiled : Tiled (before ++ slice :: behind) rest)
    (made : slice.token? = some token) (position : Nat) :
    next (Cursor.after ⟨position, woven (before ++ slice :: behind) ++ rest⟩
        (tokens before).length) =
      (.ok (some token), ⟨position + Text.byteLength (woven before ++ slice.characters),
        woven behind ++ rest⟩) := by
  induction before generalizing position with
  | nil => simpa [Cursor.after] using next_token (tiled_cons.mp tiled).1 made position
  | cons first before inductionHypothesis =>
    rw [List.cons_append] at tiled ⊢
    obtain ⟨heads, later⟩ := tiled_cons.mp tiled
    have reads := inductionHypothesis later (position + Text.byteLength first.characters)
    rw [woven_cons, List.append_assoc]
    cases madeFirst : first.token? with
    | none =>
      rw [tokens_cons_none before madeFirst,
        next_after_congr (next_skipped heads madeFirst position), reads]
      simp [Nat.add_assoc]
    | some earlier =>
      rw [tokens_cons_some before madeFirst, List.length_cons, Cursor.after,
        next_token heads madeFirst position, reads]
      simp [Nat.add_assoc]

/-- When all tokens have been returned, each call returns the same, and the cursor stays. -/
theorem next_after_tokens (tiled : Tiled slices rest)
    (unmatched : Rule.firstMatch Rule.table rest = none) (position : Nat) {calls : Nat}
    (enough : (tokens slices).length ≤ calls) :
    (Cursor.after ⟨position, woven slices ++ rest⟩ calls).next =
      (halt ⟨position + Text.byteLength (woven slices), rest⟩,
        ⟨position + Text.byteLength (woven slices), rest⟩) := by
  induction tiled generalizing position calls with
  | nothing rest =>
    have stays := next_halt unmatched position
    induction calls with
    | zero => exact stays
    | succ calls inductionHypothesis => simpa [Cursor.after, stays] using inductionHypothesis
  | @matched first slices rest heads later inductionHypothesis =>
    have stays {calls : Nat} (enough : (tokens slices).length ≤ calls) :=
      inductionHypothesis unmatched (position + Text.byteLength first.characters) enough
    simp only [woven_cons, List.append_assoc, Text.byteLength_append, ← Nat.add_assoc]
    cases made : first.token? with
    | none =>
      rw [tokens_cons_none slices made] at enough
      rw [next_after_congr (next_skipped heads made position), stays enough]
    | some token =>
      rw [tokens_cons_some slices made, List.length_cons] at enough
      obtain ⟨calls, rfl⟩ := Nat.exists_eq_add_of_le' (Nat.le_of_add_left_le enough)
      rw [Cursor.after, next_token heads made position, stays (by omega)]

/-! ## Places -/

/-- A cursor that stands in a text between two characters. -/
def Within (text : List Char) (cursor : Cursor) : Prop :=
  ∃ before, text = before ++ cursor.rest ∧ cursor.position = Text.byteLength before

variable {text : List Char}

/-- A cursor that goes on by whole characters stands between two. -/
theorem Within.advance (within : cursor.Within text) (count : Nat) :
    (cursor.advance count).Within text := by
  obtain ⟨before, rfl, position⟩ := within
  refine ⟨before ++ cursor.rest.take count, ?_, ?_⟩
  · simp [Cursor.advance]
  · simp [Cursor.advance, position]

/-- A call leaves a cursor between two characters. -/
theorem Within.next (within : cursor.Within text) : cursor.next.2.Within text := by
  fun_induction Cursor.next cursor with
  | case1 => exact within
  | case2 => exact within.advance _
  | case3 _ _ _ _ _ _ inductionHypothesis => exact inductionHypothesis (within.advance _)
  | case4 => exact within

/-- So do any number of calls. -/
theorem Within.after (within : cursor.Within text) (calls : Nat) :
    (cursor.after calls).Within text := by
  induction calls generalizing cursor with
  | zero => exact within
  | succ calls inductionHypothesis => exact inductionHypothesis within.next

theorem within_start (text : String) : (start text).Within text.toList := ⟨[], rfl, rfl⟩

/-- The position of a cursor between two characters of a text is a boundary. -/
theorem Within.isValid {text : String} (within : cursor.Within text.toList) :
    String.Pos.Raw.IsValid text ⟨cursor.position⟩ := by
  obtain ⟨before, whole, position⟩ := within
  refine String.Pos.Raw.isValid_iff_exists_append.mpr
    ⟨String.ofList before, String.ofList cursor.rest, ?_, ?_⟩
  · rw [← String.ofList_append, ← whole, String.ofList_toList]
  · rw [position, ← Text.utf8ByteSize_ofList]
    rfl

end Cursor

namespace Scan

open Slice

variable {slices : List Slice} {rest : List Char} {cursor : Cursor}

/-- The scan before a cursor depends on what a call does there. -/
theorem ofCursor_congr {other : Cursor} (same : cursor.next = other.next) :
    ofCursor cursor = ofCursor other := by
  rw [scan_next, scan_next other, same]

/-- A scan where nothing matches has no tokens. -/
theorem ofCursor_halt (unmatched : Rule.firstMatch Rule.table rest = none) (position : Nat) :
    ofCursor ⟨position, rest⟩ =
      ⟨[], if rest = [] then none else some ⟨position, String.ofList rest⟩⟩ := by
  rw [scan_next, Cursor.next_halt unmatched, Cursor.halt]
  by_cases empty : rest = [] <;> simp [empty]

/-- A scan has the tokens of the slices, and then those of what follows the slices. -/
theorem ofCursor_tiled (tiled : Tiled slices rest) (position : Nat) :
    ofCursor ⟨position, woven slices ++ rest⟩ =
      let later := ofCursor ⟨position + Text.byteLength (woven slices), rest⟩
      ⟨Slice.tokens slices ++ later.tokens, later.failure⟩ := by
  induction tiled generalizing position with
  | nothing => simp
  | @matched first slices rest heads later inductionHypothesis =>
    have scans := inductionHypothesis (position + Text.byteLength first.characters)
    rw [woven_cons, List.append_assoc]
    cases made : first.token? with
    | none =>
      rw [ofCursor_congr (Cursor.next_skipped heads made position), scans,
        tokens_cons_none slices made]
      simp [Nat.add_assoc]
    | some token =>
      rw [scan_next, Cursor.next_token heads made position, tokens_cons_some slices made]
      simp [scans, Nat.add_assoc]

end Scan

/-- A string token is cut out of its quotes. -/
theorem Slice.quoted_of_mem {slices : List Slice} {rest : List Char} {token : Token}
    (tiled : Tiled slices rest) (member : token ∈ tokens slices) (string : token.kind = .string) :
    ∃ quote body, (quote = '\'' ∨ quote = '"') ∧ quote ∉ body ∧
      token.lexeme = String.ofList (quote :: (body ++ [quote])) ∧
      2 ≤ token.lexeme.utf8ByteSize ∧ String.Pos.Raw.IsValid token.lexeme ⟨1⟩ ∧
      String.Pos.Raw.IsValid token.lexeme ⟨token.lexeme.utf8ByteSize - 1⟩ ∧
      Query.unquote token.lexeme = String.ofList body := by
  obtain ⟨slice, listed, made⟩ := List.mem_filterMap.mp member
  obtain ⟨before, behind, rfl⟩ := List.append_of_mem listed
  obtain ⟨kind, isKind, rfl⟩ := Option.map_eq_some_iff.mp made
  obtain rfl : kind = .string := string
  obtain ⟨quote, body, mark, absent, characters⟩ := tiled.heads.quoted isKind
  have size : quote.utf8Size = 1 := by rcases mark with rfl | rfl <;> rfl
  have whole : (String.ofList slice.characters).utf8ByteSize = Text.byteLength body + 2 := by
    rw [Text.utf8ByteSize_ofList, characters]
    simp [size]
    omega
  refine ⟨quote, body, mark, absent, congrArg String.ofList characters, ?_, ?_, ?_, ?_⟩
  · rw [whole]
    omega
  · have within : Cursor.Within (String.ofList slice.characters).toList ⟨1, body ++ [quote]⟩ :=
      ⟨[quote], by simp [characters], by simp [size]⟩
    exact within.isValid
  · have within : Cursor.Within (String.ofList slice.characters).toList
        ⟨Text.byteLength body + 1, [quote]⟩ :=
      ⟨quote :: body, by simp [characters], by simp [size, Nat.add_comm]⟩
    rw [whole]
    exact within.isValid
  · simp [Query.unquote, characters]

/-- What the calls of a cursor make of a text from its start on: the slices that match one after
    another, and the rest of the text, at which nothing matches. -/
structure Tiling (text : String) (slices : List Slice) (rest : List Char) : Prop where
  /-- The slices and the rest are the text, and nothing is left out or taken twice. -/
  whole : text.toList = Slice.woven slices ++ rest
  /-- Each slice is what matches first where the cursor stands behind the slices before it. The
      match moves the cursor on, and to a place between two characters. -/
  matched : ∀ before slice behind, slices = before ++ slice :: behind →
    let cursor : Cursor := ⟨Text.byteLength (Slice.woven before),
      slice.characters ++ (Slice.woven behind ++ rest)⟩
    let moved := cursor.advance slice.characters.length
    Rule.firstMatch Rule.table cursor.rest = some (slice.kind, slice.characters.length) ∧
      moved = ⟨Text.byteLength (Slice.woven (before ++ [slice])), Slice.woven behind ++ rest⟩ ∧
      cursor.position < moved.position ∧ String.Pos.Raw.IsValid text ⟨moved.position⟩
  /-- A slice that makes no token is a run of blanks or a comment within a line. -/
  skipped : ∀ slice ∈ slices, slice.kind = none →
    (∀ c ∈ slice.characters, Text.isBlank c = true) ∨
      ∃ line, slice.characters = '-' :: '-' :: line ∧ '\n' ∉ line
  /-- A slice that makes a token is what a call returns after the calls for the tokens before it.
      The cursor stands behind the slice then. -/
  returned : ∀ before slice behind kind, slices = before ++ slice :: behind →
    slice.kind = some kind →
      ((Cursor.start text).after (Slice.tokens before).length).next =
        (.ok (some ⟨kind, String.ofList slice.characters⟩),
          ⟨Text.byteLength (Slice.woven (before ++ [slice])), Slice.woven behind ++ rest⟩)
  /-- After any number of calls the cursor stands between two characters, and what is before it
      is the rest of the text. -/
  placed : ∀ calls, let cursor := (Cursor.start text).after calls
    String.Pos.Raw.IsValid text ⟨cursor.position⟩ ∧
      ∃ before, text = before ++ String.ofList cursor.rest ∧ cursor.position = before.utf8ByteSize
  /-- A string has two quotes at least, the same one at both ends and none between them, so it can
      be cut between the characters next to its ends, which leaves what is between the quotes. -/
  quoted : ∀ token ∈ Slice.tokens slices, token.kind = .string →
    ∃ quote body, (quote = '\'' ∨ quote = '"') ∧ quote ∉ body ∧
      token.lexeme = String.ofList (quote :: (body ++ [quote])) ∧
      2 ≤ token.lexeme.utf8ByteSize ∧ String.Pos.Raw.IsValid token.lexeme ⟨1⟩ ∧
      String.Pos.Raw.IsValid token.lexeme ⟨token.lexeme.utf8ByteSize - 1⟩ ∧
      Query.unquote token.lexeme = String.ofList body
  /-- If nothing is left, the text has the tokens of the slices, and all later calls return none
      at the end of the text. -/
  ended : rest = [] → Scan.tokenize text = .ok (Slice.tokens slices) ∧
    ∀ calls, (Slice.tokens slices).length ≤ calls →
      ((Cursor.start text).after calls).next = (.ok none, ⟨text.utf8ByteSize, []⟩)
  /-- If something is left, no rule matches there, the text before it has the tokens of the slices,
      and all later calls fail alike and leave the cursor there. -/
  failed : rest ≠ [] →
    let failure : UnexpectedInput := ⟨Text.byteLength (Slice.woven slices), String.ofList rest⟩
    (∀ rule ∈ Rule.table, rule.shape.length? rest = none) ∧
      Scan.tokenize text = .error failure ∧
      Scan.tokenize (String.ofList (Slice.woven slices)) = .ok (Slice.tokens slices) ∧
      ∀ calls, (Slice.tokens slices).length ≤ calls →
        ((Cursor.start text).after calls).next = (.error failure, ⟨failure.position, rest⟩)

/-- Every text has a tiling. -/
theorem exists_tiling (text : String) : ∃ slices rest, Tiling text slices rest := by
  obtain ⟨slices, rest, whole, tiled, unmatched⟩ := Slice.exists_tiled text.toList
  have start : Cursor.start text = ⟨0, Slice.woven slices ++ rest⟩ := by rw [Cursor.start, whole]
  have scan := Scan.ofCursor_tiled tiled 0
  have stays {calls : Nat} (enough : (Slice.tokens slices).length ≤ calls) :=
    Cursor.next_after_tokens tiled unmatched 0 enough
  rw [← start, ← Scan.ofText, Nat.zero_add, Scan.ofCursor_halt unmatched] at scan
  simp only [← start, Nat.zero_add] at stays
  refine ⟨slices, rest, whole, ?matched, ?skipped, ?returned, ?placed, ?quoted, ?ended, ?failed⟩
  case matched =>
    rintro before slice behind rfl
    have heads := tiled.heads
    have grows := Text.byteLength_pos heads.nonempty
    have moved : Cursor.Within text.toList
        ⟨Text.byteLength (Slice.woven (before ++ [slice])), Slice.woven behind ++ rest⟩ :=
      ⟨Slice.woven (before ++ [slice]), by simp [whole], rfl⟩
    refine ⟨heads, ?_, ?_, ?_⟩
    · simp [Cursor.advance]
    · simpa [Cursor.advance] using grows
    · simpa [Cursor.advance] using moved.isValid
  case skipped =>
    intro slice listed none
    obtain ⟨before, behind, rfl⟩ := List.append_of_mem listed
    exact tiled.heads.skipped none
  case returned =>
    rintro before slice behind kind rfl isKind
    have made : slice.token? = some ⟨kind, String.ofList slice.characters⟩ := by
      rw [Slice.token?, isKind, Option.map_some]
    rw [start, Cursor.next_after_token tiled made]
    simp
  case placed =>
    intro calls
    have within := (Cursor.within_start text).after calls
    have valid := within.isValid
    obtain ⟨before, split, position⟩ := within
    refine ⟨valid, String.ofList before, ?_, ?_⟩
    · rw [← String.ofList_append, ← split, String.ofList_toList]
    · rw [position, Text.utf8ByteSize_ofList]
  case quoted => exact fun token member => Slice.quoted_of_mem tiled member
  case ended =>
    rintro rfl
    refine ⟨?_, fun calls enough => ?_⟩
    · simp [Scan.tokenize, scan]
    · rw [stays enough, Cursor.halt, if_pos rfl, ← Text.byteLength_toList, whole, List.append_nil]
  case failed =>
    intro left
    refine ⟨Rule.firstMatch_eq_none_iff.mp unmatched, ?_, ?_, fun calls enough => ?_⟩
    · simp [Scan.tokenize, scan, left]
    -- Behind the slices nothing is left of the prefix, and there they match as before.
    · have cut := Scan.ofCursor_tiled (tiled.congr (.inr rfl)) 0
      have nothing : Rule.firstMatch Rule.table [] = none := rfl
      rw [List.append_nil, Scan.ofCursor_halt nothing] at cut
      simp [Scan.tokenize, Scan.ofText, Cursor.start, cut]
    · rw [stays enough, Cursor.halt, if_neg left]

end FileQuery
