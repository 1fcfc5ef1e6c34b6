import FileQuery.Text.Blank
import FileQuery.Text.Utf8
import FileQuery.Token
import FileQuery.Unicode.Word

/-!
# Rules and scanning

A text is read by lexical rules, one token after the other.
-/

/-!
## Lexical rules

A rule says what a token, or a stretch of text between tokens, looks like. The rules stand in a
table, and the first rule that matches at the start of a text decides what is read there.
-/

namespace FileQuery

/-- The shapes of lexemes. -/
inductive Shape
  /-- One or more blanks. -/
  | blanks
  /-- Two hyphens and the rest of the line. -/
  | comment
  /-- The given characters, whatever follows them. -/
  | sign (characters : List Char)
  /-- The given characters, when no word character follows them. -/
  | word (characters : List Char)
  /-- A quote, characters other than it, and the same quote. -/
  | quoted
  deriving DecidableEq, Repr

namespace Shape

/-- The number of characters up to and with the first closing quote. -/
def closing? (quote : Char) : List Char → Option Nat
  | [] => none
  | c :: rest => if c = quote then some 1 else (closing? quote rest).map (· + 1)

/-- Whether a text is empty or starts with no word character. -/
def atBoundary : List Char → Bool
  | [] => true
  | c :: _ => !Unicode.isWord c

/-- The number of characters that a shape takes from the start of a text, if it matches there. -/
def length? : Shape → List Char → Option Nat
  | blanks, text =>
    match (text.takeWhile Text.isBlank).length with
    | 0 => none
    | count + 1 => some (count + 1)
  | comment, '-' :: '-' :: rest => some ((rest.takeWhile (· ≠ '\n')).length + 2)
  | comment, _ => none
  | sign characters, text => if characters.isPrefixOf text then some characters.length else none
  | word characters, text =>
    if characters.isPrefixOf text && atBoundary (text.drop characters.length) then
      some characters.length
    else none
  | quoted, '\'' :: rest => (closing? '\'' rest).map (· + 1)
  | quoted, '"' :: rest => (closing? '"' rest).map (· + 1)
  | quoted, _ => none

end Shape

/-- A rule: a shape and the kind of token that it makes, or none for text between tokens. -/
structure Rule where
  shape : Shape
  kind : Option TokenKind
  deriving DecidableEq, Repr

namespace Rule

/-- The table of rules. A sign of two characters stands before the signs that it begins with. -/
def table : List Rule := [
  ⟨.blanks, none⟩,
  ⟨.comment, none⟩,
  ⟨.sign [';'], some .semicolon⟩,
  ⟨.word ['S', 'E', 'L', 'E', 'C', 'T'], some .select⟩,
  ⟨.word ['D', 'E', 'L', 'E', 'T', 'E'], some .delete⟩,
  ⟨.word ['M', 'O', 'V', 'E'], some .move⟩,
  ⟨.word ['C', 'O', 'P', 'Y'], some .copy⟩,
  ⟨.word ['A', 'R', 'C', 'H', 'I', 'V', 'E'], some .archive⟩,
  ⟨.word ['U', 'N', 'A', 'R', 'C', 'H', 'I', 'V', 'E'], some .unarchive⟩,
  ⟨.word ['C', 'O', 'N', 'V', 'E', 'R', 'T'], some .convert⟩,
  ⟨.word ['F', 'R', 'O', 'M'], some .source⟩,
  ⟨.word ['W', 'H', 'E', 'R', 'E'], some .condition⟩,
  ⟨.word ['T', 'O'], some .destination⟩,
  ⟨.word ['L', 'I', 'K', 'E'], some .like⟩,
  ⟨.sign ['='], some .equal⟩,
  ⟨.sign ['!', '='], some .notEqual⟩,
  ⟨.sign ['<', '>'], some .notEqual⟩,
  ⟨.sign ['<', '='], some .lessOrEqual⟩,
  ⟨.sign ['<'], some .less⟩,
  ⟨.sign ['>', '='], some .greaterOrEqual⟩,
  ⟨.sign ['>'], some .greater⟩,
  ⟨.word ['A', 'N', 'D'], some .and⟩,
  ⟨.word ['O', 'R'], some .or⟩,
  ⟨.quoted, some .string⟩]

/-- What the first matching rule of a list makes of the start of a text: the kind of token, if
    any, and the number of characters. -/
def firstMatch (rules : List Rule) (text : List Char) : Option (Option TokenKind × Nat) :=
  rules.findSome? fun rule => (rule.shape.length? text).map (rule.kind, ·)

end Rule

end FileQuery

/-!
## Scanning

A cursor stands at a place of a text and reads one token after the other. A scan is what becomes
of a whole text: the tokens before its end, or before the first place where no rule matches, and
the failure at that place.

The main statements are `next_shorter`, by which a scan ends, and `scan_next`, by which the
tokens of a scan are what one call of `next` after the other returns.
-/

namespace FileQuery

/-- A text that no rule of the table matches at its start, and its place in the whole text. -/
structure UnexpectedInput where
  /-- The number of bytes before the place. -/
  position : Nat
  /-- The text from the place to the end. -/
  remaining : String
  deriving DecidableEq, Repr

/-- A place in a text. -/
structure Cursor where
  /-- The number of bytes before the place. -/
  position : Nat
  /-- The text from the place to the end. -/
  rest : List Char
  deriving DecidableEq, Repr

namespace Cursor

/-- The start of a text. -/
def start (text : String) : Cursor := ⟨0, text.toList⟩

/-- The place a number of characters further on. -/
def advance (cursor : Cursor) (count : Nat) : Cursor :=
  ⟨cursor.position + Text.byteLength (cursor.rest.take count), cursor.rest.drop count⟩

/-- The next token, or none at the end of the text, and the place after it. Text between tokens
    is skipped. Where no rule matches the cursor stays, so a second call fails alike. -/
def next (cursor : Cursor) : Except UnexpectedInput (Option Token) × Cursor :=
  match _found : cursor.rest with
  | [] => (.ok none, cursor)
  | _ :: _ =>
    match Rule.firstMatch Rule.table cursor.rest with
    | some (some kind, count + 1) =>
      (.ok (some ⟨kind, String.ofList (cursor.rest.take (count + 1))⟩), cursor.advance (count + 1))
    | some (none, count + 1) => (cursor.advance (count + 1)).next
    | _ => (.error ⟨cursor.position, String.ofList cursor.rest⟩, cursor)
termination_by cursor.rest.length
decreasing_by
  simp only [advance, _found, List.length_drop, List.length_cons]
  omega

/-- A cursor that has read a token has less text before it. -/
theorem next_shorter {cursor : Cursor} {token : Token}
    (read : cursor.next.1 = .ok (some token)) :
    cursor.next.2.rest.length < cursor.rest.length := by
  fun_induction next cursor with
  | case1 => simp at read
  | case2 _ _ _ found _ count =>
    simp only [advance, List.length_drop, found, List.length_cons]
    omega
  | case3 cursor first rest found count matched inductionHypothesis =>
    have shorter := inductionHypothesis read
    simp only [advance, List.length_drop, found, List.length_cons] at shorter
    simp only [advance, found, List.length_cons]
    omega
  | case4 => simp at read

end Cursor

/-- What becomes of a text. -/
structure Scan where
  /-- The tokens before the end or the first failure. -/
  tokens : List Token
  /-- The first failure, if there is one. -/
  failure : Option UnexpectedInput
  deriving DecidableEq, Repr

namespace Scan

/-- The scan of the text before a cursor. -/
def ofCursor (cursor : Cursor) : Scan :=
  match _read : cursor.next with
  | (.ok (some token), after) =>
    let later := ofCursor after
    ⟨token :: later.tokens, later.failure⟩
  | (.ok none, _) => ⟨[], none⟩
  | (.error failure, _) => ⟨[], some failure⟩
termination_by cursor.rest.length
decreasing_by
  have read : cursor.next.1 = .ok (some token) := by rw [_read]
  have shorter := Cursor.next_shorter read
  rw [_read] at shorter
  exact shorter

/-- The scan of a whole text. -/
def ofText (text : String) : Scan := ofCursor (Cursor.start text)

/-- The scan before a cursor begins with the token that the cursor reads next. -/
theorem scan_next (cursor : Cursor) :
    ofCursor cursor =
      match cursor.next with
      | (.ok (some token), after) =>
        ⟨token :: (ofCursor after).tokens, (ofCursor after).failure⟩
      | (.ok none, _) => ⟨[], none⟩
      | (.error failure, _) => ⟨[], some failure⟩ := by
  rw [ofCursor]
  split <;> rename_i read <;> simp [read]

/-- All tokens of a text, or its first failure. -/
def tokenize (text : String) : Except UnexpectedInput (List Token) :=
  let scan := ofText text
  match scan.failure with
  | some failure => .error failure
  | none => .ok scan.tokens

end Scan

end FileQuery
