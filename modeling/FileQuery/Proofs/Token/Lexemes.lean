import FileQuery.Token.Scan
import Mathlib.Data.List.Pairwise

/-!
# Lexemes

What a rule takes from the start of a text is decided by the lexeme and by the one character after
it. A rule takes a lexeme just when the lexeme is of the rule's shape and the character after it
does not go on with it (`exists_lexeme`, `length?_append`).

More than one rule can match at a place, since one sign can begin with another. Of two such rules
the one that stands first in the table takes more (`table_outreaches`), so the first match is the
longest one, and no other match is as long (`firstMatch_append_iff`).
-/

namespace FileQuery

namespace Shape

variable {shape : Shape} {text lexeme rest : List Char} {count : Nat}

/-- The lexemes of a shape. -/
inductive Fits : Shape → List Char → Prop
  | blanks {run : List Char} (some_run : run ≠ []) (blank : ∀ c ∈ run, Text.isBlank c = true) :
    Fits .blanks run
  | comment {line : List Char} (oneLine : '\n' ∉ line) : Fits .comment ('-' :: '-' :: line)
  | sign (characters : List Char) : Fits (.sign characters) characters
  | word (characters : List Char) : Fits (.word characters) characters
  | quoted {quote : Char} {body : List Char} (mark : quote = '\'' ∨ quote = '"')
    (absent : quote ∉ body) : Fits .quoted (quote :: (body ++ [quote]))

/-- Whether a lexeme of a shape is at its end before a character, or at the end of the text. -/
def EndsBefore : Shape → Option Char → Prop
  | blanks, next => ∀ c ∈ next, Text.isBlank c = false
  | comment, next => ∀ c ∈ next, c = '\n'
  | word _, next => ∀ c ∈ next, Unicode.isWord c = false
  | sign _, _ | quoted, _ => True

/-- At the end of the text every lexeme is at its end. -/
theorem endsBefore_none (shape : Shape) : shape.EndsBefore none := by
  cases shape <;> simp [EndsBefore]

/-! ## What a shape takes -/

/-- A run of characters ends before one that is not among them. -/
theorem takeWhile_run {member : Char → Bool} (run : ∀ c ∈ lexeme, member c = true)
    (ends : ∀ c ∈ rest.head?, member c = false) : (lexeme ++ rest).takeWhile member = lexeme := by
  rw [List.takeWhile_append_of_pos run]
  cases rest with
  | nil => simp
  | cons c more => simp [ends c rfl]

/-- A text is the run at its start and what comes after it. -/
theorem exists_run (member : Char → Bool) (text : List Char) :
    ∃ rest, text = text.takeWhile member ++ rest ∧ (∀ c ∈ text.takeWhile member, member c = true) ∧
      ∀ c ∈ rest.head?, member c = false := by
  refine ⟨text.dropWhile member, List.takeWhile_append_dropWhile.symm,
    List.all_eq_true.mp List.all_takeWhile, fun c next => ?_⟩
  have stops := List.head?_dropWhile_not member text
  rw [next] at stops
  simpa using stops

/-- The closing quote is the first one after the opening quote. -/
theorem closing?_append {quote : Char} {body : List Char} (absent : quote ∉ body)
    (rest : List Char) : closing? quote (body ++ quote :: rest) = some (body.length + 1) := by
  induction body with
  | nil => simp [closing?]
  | cons c body inductionHypothesis =>
    obtain ⟨differs, later⟩ : quote ≠ c ∧ quote ∉ body := by simpa using absent
    simp [closing?, Ne.symm differs, inductionHypothesis later]

/-- A closing quote that is found stands behind characters other than it. -/
theorem closing?_eq_some {quote : Char} (found : closing? quote text = some count) :
    ∃ body rest, text = body ++ quote :: rest ∧ quote ∉ body ∧ count = body.length + 1 := by
  induction text generalizing count with
  | nil => simp [closing?] at found
  | cons c text inductionHypothesis =>
    rw [closing?] at found
    split at found
    case isTrue same => exact ⟨[], text, by simp [same], by simp, by simpa using found.symm⟩
    case isFalse differs =>
      obtain ⟨shorter, found', rfl⟩ := Option.map_eq_some_iff.mp found
      obtain ⟨body, rest, rfl, absent, rfl⟩ := inductionHypothesis found'
      exact ⟨c :: body, rest, rfl, by simp [absent, Ne.symm differs], rfl⟩

/-- A word ends where no word character follows it. -/
theorem atBoundary_iff : atBoundary text = true ↔ ∀ c ∈ text.head?, Unicode.isWord c = false := by
  cases text <;> simp [atBoundary]

/-- A lexeme of a shape is taken where it is at its end. -/
theorem length?_append (fits : shape.Fits lexeme) (ends : shape.EndsBefore rest.head?) :
    shape.length? (lexeme ++ rest) = some lexeme.length := by
  cases fits with
  | blanks some_run blank =>
    obtain ⟨first, run, rfl⟩ := List.exists_cons_of_ne_nil some_run
    rw [length?, takeWhile_run blank ends]
    rfl
  | @comment line oneLine =>
    have within : ∀ c ∈ line, decide (c ≠ '\n') = true := fun c member =>
      decide_eq_true fun newline => oneLine (newline ▸ member)
    have outside : ∀ c ∈ rest.head?, decide (c ≠ '\n') = false := fun c next => by
      simpa using ends c next
    simp only [List.cons_append, length?, takeWhile_run within outside, List.length_cons]
  | sign characters => simp [length?]
  | word characters =>
    have boundary : atBoundary rest = true := atBoundary_iff.mpr ends
    simp [length?, boundary]
  | @quoted quote body mark absent =>
    have closes := closing?_append absent rest
    rcases mark with rfl | rfl <;> simp [length?, closes]

/-- What a shape takes from a text is a lexeme of it, which is at its end there. -/
theorem exists_lexeme (taken : shape.length? text = some count) :
    ∃ lexeme rest, text = lexeme ++ rest ∧ count = lexeme.length ∧ shape.Fits lexeme ∧
      shape.EndsBefore rest.head? := by
  unfold length? at taken
  split at taken
  · obtain ⟨rest, split, blank, ends⟩ := exists_run Text.isBlank text
    split at taken
    · contradiction
    · rename_i length
      have some_run : text.takeWhile Text.isBlank ≠ [] := by
        rw [← List.length_pos_iff, length]
        exact Nat.succ_pos _
      exact ⟨_, rest, split, length ▸ (Option.some.inj taken).symm, .blanks some_run blank, ends⟩
  · rename_i line
    obtain ⟨rest, split, within, ends⟩ := exists_run (fun c => decide (c ≠ '\n')) line
    have oneLine : '\n' ∉ line.takeWhile fun c => decide (c ≠ '\n') := fun member =>
      absurd (within _ member) (by decide)
    refine ⟨_, rest, congrArg (fun line => '-' :: '-' :: line) split, ?_, .comment oneLine, ?_⟩
    · exact (Option.some.inj taken).symm
    · exact fun c next => by simpa using ends c next
  · contradiction
  · rename_i characters
    split at taken
    · rename_i begins
      obtain ⟨rest, rfl⟩ := List.isPrefixOf_iff_prefix.mp begins
      exact ⟨characters, rest, rfl, (Option.some.inj taken).symm, .sign characters, trivial⟩
    · contradiction
  · rename_i characters
    split at taken
    · rename_i begins
      obtain ⟨begins, boundary⟩ := Bool.and_eq_true_iff.mp begins
      obtain ⟨rest, rfl⟩ := List.isPrefixOf_iff_prefix.mp begins
      rw [List.drop_left] at boundary
      exact ⟨characters, rest, rfl, (Option.some.inj taken).symm, .word characters,
        atBoundary_iff.mp boundary⟩
    · contradiction
  all_goals first
    | contradiction
    | obtain ⟨shorter, closes, rfl⟩ := Option.map_eq_some_iff.mp taken
      obtain ⟨body, rest, rfl, absent, rfl⟩ := closing?_eq_some closes
      exact ⟨_, rest, by simp, by simp, .quoted (by simp) absent, trivial⟩

/-! ## Shapes that match at one place -/

/-- The characters of a sign or a word. -/
def spelled? : Shape → Option (List Char)
  | sign characters | word characters => some characters
  | blanks | comment | quoted => none

/-- Whether a lexeme of a shape can begin with a character. -/
def begins : Shape → Char → Bool
  | blanks, c => Text.isBlank c
  | comment, c => c == '-'
  | sign characters, c | word characters, c => characters.head? == some c
  | quoted, c => c == '\'' || c == '"'

/-- The characters that a lexeme of a shape can begin with, where they can be listed. -/
def initials? : Shape → Option (List Char)
  | blanks => none
  | comment => some ['-']
  | sign characters | word characters => some (characters.take 1)
  | quoted => some ['\'', '"']

/-- Whether a shape takes more than another one wherever both match. A sign or a word that does not
    begin another one takes more than that one if both match, and shapes that begin with different
    characters never both match. -/
def outreaches (first second : Shape) : Bool :=
  match first.spelled?, second.spelled? with
  | some longer, some shorter => !longer.isPrefixOf shorter
  | _, _ => (second.initials?.map (·.all (!first.begins ·))).getD false

/-- A lexeme that is not empty begins with a character that its shape allows. -/
theorem Fits.begins {c : Char} (fits : shape.Fits (c :: lexeme)) : shape.begins c = true := by
  cases fits with
  | blanks _ blank => exact blank c List.mem_cons_self
  | comment | sign | word => simp [Shape.begins]
  | quoted mark => simpa [Shape.begins] using mark

/-- What a lexeme begins with is listed, if it can be. -/
theorem Fits.mem_initials {c : Char} {initials : List Char} (fits : shape.Fits (c :: lexeme))
    (listed : shape.initials? = some initials) : c ∈ initials := by
  cases fits with
  | blanks => cases listed
  | comment | sign | word =>
    obtain rfl := Option.some.inj listed
    simp
  | quoted mark =>
    obtain rfl := Option.some.inj listed
    simpa using mark

/-- The characters of a sign or a word are its only lexeme. -/
theorem Fits.eq_spelled {characters : List Char} (fits : shape.Fits lexeme)
    (spelled : shape.spelled? = some characters) : lexeme = characters := by
  cases fits with
  | blanks | comment | quoted => cases spelled
  | sign | word => exact Option.some.inj spelled

/-- A lexeme is empty only if it is spelled so. -/
theorem Fits.nonempty (fits : shape.Fits lexeme) (spelled : shape.spelled? ≠ some []) :
    lexeme ≠ [] := by
  rintro rfl
  cases fits with
  | blanks some_run => exact some_run rfl
  | sign | word => exact spelled rfl

/-- Where a shape and one that it outreaches both have a lexeme, the two are spelled, and the first
    one does not begin the second one. -/
theorem spelled_of_outreaches {first second : Shape} {longer shorter rest' : List Char}
    (outreaches : first.outreaches second = true) (fits : first.Fits longer)
    (fits' : second.Fits shorter) (nonempty : longer ≠ []) (nonempty' : shorter ≠ [])
    (same : longer ++ rest = shorter ++ rest') :
    first.spelled? = some longer ∧ second.spelled? = some shorter ∧ ¬ longer <+: shorter := by
  unfold Shape.outreaches at outreaches
  split at outreaches
  · rename_i spelled spelled'
    obtain rfl := fits.eq_spelled spelled
    obtain rfl := fits'.eq_spelled spelled'
    refine ⟨spelled, spelled', fun begins => ?_⟩
    simp [List.isPrefixOf_iff_prefix.mpr begins] at outreaches
  · obtain ⟨c, _, rfl⟩ := List.exists_cons_of_ne_nil nonempty
    obtain ⟨c', _, rfl⟩ := List.exists_cons_of_ne_nil nonempty'
    obtain ⟨rfl, -⟩ := List.cons.inj same
    cases listed : second.initials? with
    | none => simp [listed] at outreaches
    | some initials =>
      rw [listed] at outreaches
      have excluded := List.all_eq_true.mp outreaches c (fits'.mem_initials listed)
      simp [fits.begins] at excluded

end Shape

namespace Rule

variable {rule : Rule} {kind : Option TokenKind} {text lexeme rest : List Char} {count : Nat}

/-! ## The table -/

/-- A rule outreaches those that stand after it in the table. -/
theorem table_outreaches :
    table.Pairwise fun first second => first.shape.outreaches second.shape = true := by
  decide +kernel

/-- No sign and no word of the table is empty. -/
theorem table_spelled : ∀ rule ∈ table, rule.shape.spelled? ≠ some [] := by
  decide

/-- Where a sign or a word of the table begins another one, both are signs, and the longer one has
    one character more. -/
theorem table_signs : ∀ first ∈ table, ∀ second ∈ table, ∀ shorter ∈ first.shape.spelled?,
    ∀ longer ∈ second.shape.spelled?, shorter <+: longer → shorter ≠ longer →
      first.shape = .sign shorter ∧ second.shape = .sign longer ∧
        longer.length = shorter.length + 1 := by
  decide +kernel

/-- A lexeme of a rule of the table is not empty. -/
theorem lexeme_ne_nil (listed : rule ∈ table) (fits : rule.shape.Fits lexeme) : lexeme ≠ [] :=
  fits.nonempty (table_spelled rule listed)

/-- Of two rules one outreaches the other one. -/
theorem outreaches_or {first second : Rule} (listed : first ∈ table) (listed' : second ∈ table)
    (differs : first ≠ second) :
    first.shape.outreaches second.shape = true ∨ second.shape.outreaches first.shape = true := by
  let comparable (first second : Rule) : Prop :=
    first.shape.outreaches second.shape = true ∨ second.shape.outreaches first.shape = true
  have symmetric : Std.Symm comparable := ⟨fun _ _ => Or.symm⟩
  have compared : table.Pairwise comparable := table_outreaches.imp Or.inl
  exact compared.forall listed listed' differs

/-- What a rule takes begins with what a rule takes that it outreaches, and is longer. -/
theorem prefix_of_outreaches {first second : Rule} {longer shorter rest' : List Char}
    (listed : first ∈ table) (listed' : second ∈ table)
    (outreaches : first.shape.outreaches second.shape = true) (fits : first.shape.Fits longer)
    (fits' : second.shape.Fits shorter) (same : longer ++ rest = shorter ++ rest') :
    shorter <+: longer ∧ shorter.length < longer.length := by
  obtain ⟨-, -, notBegun⟩ := Shape.spelled_of_outreaches outreaches fits fits'
    (lexeme_ne_nil listed fits) (lexeme_ne_nil listed' fits') same
  have begins : longer <+: longer ++ rest := List.prefix_append longer rest
  have begins' : shorter <+: longer ++ rest := ⟨rest', same.symm⟩
  have less : shorter.length < longer.length := Nat.lt_of_not_le fun long =>
    notBegun (List.prefix_of_prefix_length_le begins begins' long)
  exact ⟨List.prefix_of_prefix_length_le begins' begins (Nat.le_of_lt less), less⟩

/-- Of two rules that match, one that outreaches the other one takes more. -/
theorem length_lt {first second : Rule} {shorter : Nat} (listed : first ∈ table)
    (listed' : second ∈ table) (outreaches : first.shape.outreaches second.shape = true)
    (taken : first.shape.length? text = some count)
    (taken' : second.shape.length? text = some shorter) : shorter < count := by
  obtain ⟨lexeme, rest, rfl, rfl, fits, -⟩ := Shape.exists_lexeme taken
  obtain ⟨lexeme', rest', same, rfl, fits', -⟩ := Shape.exists_lexeme taken'
  exact (prefix_of_outreaches listed listed' outreaches fits fits' same).2

/-! ## The longest match -/

/-- A rule that takes so much from a text, and more than every other rule that matches. -/
def IsLongest (text : List Char) (rule : Rule) (count : Nat) : Prop :=
  rule ∈ table ∧ rule.shape.length? text = some count ∧
    ∀ other ∈ table, other ≠ rule → ∀ length, other.shape.length? text = some length →
      length < count

/-- What matches first is the longest match, since a rule outreaches those after it. -/
theorem exists_isLongest (matched : firstMatch table text = some (kind, count)) :
    ∃ rule, rule.kind = kind ∧ IsLongest text rule count := by
  obtain ⟨before, rule, after, split, made, unmatched⟩ := List.findSome?_eq_some_iff.mp matched
  obtain ⟨length, taken, same⟩ := Option.map_eq_some_iff.mp made
  obtain ⟨rfl, rfl⟩ := Prod.mk.inj same
  have listed : rule ∈ table := by simp [split]
  refine ⟨rule, rfl, listed, taken, fun other listed' differs shorter taken' => ?_⟩
  have member := listed'
  rw [split, List.mem_append, List.mem_cons] at member
  rcases member with earlier | rfl | later
  · have none := unmatched other earlier
    simp [taken'] at none
  · exact absurd rfl differs
  · have ordered := table_outreaches
    rw [split, List.pairwise_append, List.pairwise_cons] at ordered
    exact length_lt listed listed' (ordered.2.1.1 other later) taken taken'

/-- What matches first takes more than anything else that matches. -/
theorem firstMatch_eq_some_iff : firstMatch table text = some (kind, count) ↔
    ∃ rule, rule.kind = kind ∧ IsLongest text rule count := by
  refine ⟨exists_isLongest, ?_⟩
  rintro ⟨rule, rfl, listed, taken, most⟩
  have found : firstMatch table text ≠ none := by
    intro none
    have unmatched := List.findSome?_eq_none_iff.mp none rule listed
    simp [taken] at unmatched
  obtain ⟨⟨kind, count'⟩, matched⟩ := Option.ne_none_iff_exists'.mp found
  obtain ⟨rule', rfl, listed', taken', most'⟩ := exists_isLongest matched
  by_cases same : rule' = rule
  · obtain rfl := same
    rw [matched, Option.some.inj (taken'.symm.trans taken)]
  · have less := most rule' listed' same count' taken'
    have more := most' rule listed (Ne.symm same) count taken
    omega

/-- Where nothing matches first, no rule matches. -/
theorem firstMatch_eq_none_iff :
    firstMatch table text = none ↔ ∀ rule ∈ table, rule.shape.length? text = none := by
  simp [firstMatch]

/-- Whether a lexeme of a rule is the longest match before a character, or at the end of the text:
    it is at its end, and if it is a sign, then no sign has that character more. -/
def Stops (rule : Rule) (next : Option Char) : Prop :=
  rule.shape.EndsBefore next ∧ ∀ c ∈ next, ∀ characters, rule.shape = .sign characters →
    ∀ other ∈ table, other.shape ≠ .sign (characters ++ [c])

/-- At the end of the text every lexeme stops. -/
theorem stops_none (rule : Rule) : rule.Stops none :=
  ⟨rule.shape.endsBefore_none, nofun⟩

/-- A lexeme is what matches first if and only if it is a lexeme of some rule and stops there. -/
theorem firstMatch_append_iff :
    firstMatch table (lexeme ++ rest) = some (kind, lexeme.length) ↔
      ∃ rule ∈ table, rule.kind = kind ∧ rule.shape.Fits lexeme ∧ rule.Stops rest.head? := by
  rw [firstMatch_eq_some_iff]
  constructor
  · rintro ⟨rule, made, listed, taken, most⟩
    obtain ⟨lexeme', rest', same, length, fits, ends⟩ := Shape.exists_lexeme taken
    obtain ⟨rfl, rfl⟩ := List.append_inj same length
    refine ⟨rule, listed, made, fits, ends, fun c next characters sign other listed' longer => ?_⟩
    obtain ⟨more, rfl⟩ := List.head?_eq_some_iff.mp next
    rw [sign] at fits
    obtain rfl := fits.eq_spelled rfl
    have taken' : other.shape.length? (lexeme ++ c :: more) = some (lexeme.length + 1) := by
      simp [longer, Shape.length?]
    have differs : other ≠ rule := by
      rintro rfl
      simp [sign] at longer
    have less := most other listed' differs _ taken'
    omega
  · rintro ⟨rule, listed, made, fits, ends, noLonger⟩
    have taken := Shape.length?_append fits ends
    refine ⟨rule, made, listed, taken, fun other listed' differs length taken' => ?_⟩
    rcases outreaches_or listed listed' (Ne.symm differs) with less | more
    · exact length_lt listed listed' less taken taken'
    -- The other rule would take a longer sign that begins with the lexeme, which has stopped.
    · obtain ⟨longer, rest', same, rfl, fits', -⟩ := Shape.exists_lexeme taken'
      obtain ⟨spelled, spelled', notBegun⟩ := Shape.spelled_of_outreaches more fits' fits
        (lexeme_ne_nil listed' fits') (lexeme_ne_nil listed fits) same.symm
      obtain ⟨begins, -⟩ := prefix_of_outreaches listed' listed more fits' fits same.symm
      have differs' : lexeme ≠ longer := by
        rintro rfl
        exact notBegun List.prefix_rfl
      obtain ⟨sign, sign', oneMore⟩ := table_signs rule listed other listed' lexeme spelled' longer
        spelled begins differs'
      obtain ⟨after, rfl⟩ := begins
      obtain ⟨c, rfl⟩ : ∃ c, after = [c] := List.length_eq_one_iff.mp (by simpa using oneMore)
      rw [List.append_assoc] at same
      obtain rfl := List.append_cancel_left same
      exact absurd sign' (noLonger c rfl lexeme sign other listed')

/-- What matches first is a lexeme of a rule, which stops there. -/
theorem exists_lexeme (matched : firstMatch table text = some (kind, count)) :
    ∃ lexeme rest, text = lexeme ++ rest ∧ count = lexeme.length ∧ lexeme ≠ [] ∧
      ∃ rule ∈ table, rule.kind = kind ∧ rule.shape.Fits lexeme ∧ rule.Stops rest.head? := by
  obtain ⟨rule, -, listed, taken, -⟩ := firstMatch_eq_some_iff.mp matched
  obtain ⟨lexeme, rest, rfl, rfl, fits, -⟩ := Shape.exists_lexeme taken
  exact ⟨lexeme, rest, rfl, rfl, lexeme_ne_nil listed fits, firstMatch_append_iff.mp matched⟩

/-! ## Tokens and what is between them -/

/-- Only blanks and comments make no token. -/
theorem table_gaps :
    ∀ rule ∈ table, rule.kind = none → rule.shape = .blanks ∨ rule.shape = .comment := by
  decide

/-- Only what stands between quotes is a string. -/
theorem table_strings : ∀ rule ∈ table, rule.kind = some .string → rule.shape = .quoted := by
  decide

/-- No sign goes on over the end of a line. -/
theorem table_lines : ∀ rule ∈ table, ∀ characters ∈ rule.shape.spelled?, '\n' ∉ characters := by
  decide

/-- A token stops at the end of a line. -/
theorem stops_newline (listed : rule ∈ table) (made : rule.kind ≠ none) :
    rule.Stops (some '\n') := by
  constructor
  · have notBlanks : ∀ rule ∈ table, rule.kind ≠ none → rule.shape ≠ .blanks := by decide
    have differs := notBlanks rule listed made
    cases shape : rule.shape with
    | blanks => exact absurd shape differs
    | comment | word =>
      rintro c ⟨⟩
      decide
    | sign | quoted => trivial
  · rintro c ⟨⟩ characters - other listed' sign
    have free := table_lines other listed' (characters ++ ['\n']) (by simp [sign, Shape.spelled?])
    simp at free

end Rule

end FileQuery
