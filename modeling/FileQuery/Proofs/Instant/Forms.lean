import FileQuery.Proofs.Instant.Reading

/-!
# Forms of instants

An instant can be written in seven forms, which are tried one after the other. What a form reads of
a text besides digits and blanks are marks: hyphens, slashes, points, colons, letters. There may be
more or fewer digits and blanks, but the marks that a form reads are one of a few sequences
(`marks_mem_of_read?`), and no sequence belongs to two forms (`all_disjoint`). So at most one form
accepts a text (`eq_of_accepts`), and it does not matter in which order the forms are tried
(`acceptedIn_eq_some_iff`).
-/

namespace FileQuery.Instant

variable {text middle rest : List Char} {c : Char} {value : Nat} {fields fields' : Fields}
  {instant : Instant} {choices : List (List Char)} {later : List (List (List Char))}

/-! ## Marks -/

/-- Whether a character is neither a digit nor a blank. -/
def isMark (c : Char) : Bool := !(c.isDigit || Text.isBlank c)

/-- The marks of a text. -/
def marks (text : List Char) : List Char := text.filter isMark

theorem marks_append (first second : List Char) :
    marks (first ++ second) = marks first ++ marks second := List.filter_append ..

theorem marks_cons (mark : isMark c = true) (text : List Char) :
    marks (c :: text) = c :: marks text := List.filter_cons_of_pos mark

theorem marks_eq_nil (markless : ∀ c ∈ text, isMark c = false) : marks text = [] := by
  simpa [marks] using markless

/-- Characters at the start that are no marks can be left out. -/
theorem marks_dropWhile {member : Char → Bool} (markless : ∀ c, member c = true → isMark c = false)
    (text : List Char) : marks (text.dropWhile member) = marks text := by
  have nothing : marks (text.takeWhile member) = [] :=
    marks_eq_nil fun c taken => markless c (List.mem_takeWhile_imp taken)
  have split := marks_append (text.takeWhile member) (text.dropWhile member)
  rw [List.takeWhile_append_dropWhile, nothing, List.nil_append] at split
  exact split.symm

theorem marks_trimStart (text : List Char) : marks (Text.trimStart text) = marks text :=
  marks_dropWhile (fun c blank => by simp [isMark, blank]) text

theorem isMark_of_isDigit (digit : c.isDigit = true) : isMark c = false := by simp [isMark, digit]

/-- A number has no marks. -/
theorem marks_of_number {least most : Nat} (read : number least most text = some (value, rest)) :
    marks text = marks rest := by
  have digits : (text.take most).takeWhile Char.isDigit <+: text :=
    (List.takeWhile_prefix _).trans (List.take_prefix most text)
  have nothing : marks ((text.take most).takeWhile Char.isDigit) = [] :=
    marks_eq_nil fun c taken => isMark_of_isDigit (List.mem_takeWhile_imp taken)
  simp only [number, Option.ite_none_left_eq_some, Option.some.injEq, Prod.mk.injEq] at read
  obtain ⟨-, -, rfl⟩ := read
  conv_lhs => rw [← List.prefix_iff_eq_append.mp digits, marks_append, nothing]
  rfl

theorem eq_cons_of_sign (read : sign c text = some rest) : text = c :: rest := by
  cases text with
  | nil => simp [sign] at read
  | cons first more =>
    simp only [sign, Option.ite_none_right_eq_some, Option.some.injEq] at read
    rw [read.1, read.2]

/-! ## Sequences of marks -/

/-- From a text to what is left of it, one of some sequences of marks is read. -/
def Reads (choices : List (List Char)) (text rest : List Char) : Prop :=
  ∃ taken ∈ choices, marks text = taken ++ marks rest

/-- The sequences that are made of one choice each. -/
def sequences : List (List (List Char)) → List (List Char)
  | [] => [[]]
  | choices :: later => choices.flatMap fun taken => (sequences later).map (taken ++ ·)

/-- No mark is read. -/
theorem Reads.nothing (same : marks text = marks rest) : Reads [[]] text rest :=
  ⟨[], List.mem_singleton_self [], same⟩

theorem Reads.refl (text : List Char) : Reads (sequences []) text text := .nothing rfl

/-- What is read is one sequence after another. -/
theorem Reads.cons (first : Reads choices text middle)
    (more : Reads (sequences later) middle rest) :
    Reads (sequences (choices :: later)) text rest := by
  obtain ⟨taken, listed, split⟩ := first
  obtain ⟨taken', listed', split'⟩ := more
  refine ⟨taken ++ taken', ?_, by rw [split, split', List.append_assoc]⟩
  exact List.mem_flatMap.mpr ⟨taken, listed, List.mem_map.mpr ⟨taken', listed', rfl⟩⟩

theorem reads_of_number {least most : Nat} (read : number least most text = some (value, rest)) :
    Reads [[]] text rest := .nothing (marks_of_number read)

theorem reads_of_sign (read : sign c text = some rest) : Reads [marks [c]] text rest := by
  obtain rfl := eq_cons_of_sign read
  exact ⟨marks [c], List.mem_singleton_self _, marks_append [c] rest⟩

/-! ## Plain forms -/

/-- The sequences of marks that a piece can read. -/
def Piece.marks : Piece → List (List Char)
  | year => [[], ['-'], ['+']]
  | month | day | hour | minute | second | gap => [[]]
  | mark c => [Instant.marks [c]]

theorem reads_of_shortNumber (read : shortNumber text = some (value, rest)) :
    Reads [[]] text rest :=
  .nothing ((marks_trimStart text).symm.trans (marks_of_number read))

theorem reads_of_yearNumber {value : Int} (read : yearNumber text = some (value, rest)) :
    Reads (Piece.marks .year) text rest := by
  have trimmed := marks_trimStart text
  unfold yearNumber at read
  split at read
  · rename_i digits starts
    obtain ⟨⟨value, after⟩, number, same⟩ := Option.map_eq_some_iff.mp read
    obtain ⟨-, rfl⟩ := Prod.mk.inj same
    refine ⟨['-'], by simp [Piece.marks], ?_⟩
    rw [← trimmed, starts, ← marks_of_number number]
    rfl
  · rename_i digits starts
    obtain ⟨⟨value, after⟩, number, same⟩ := Option.map_eq_some_iff.mp read
    obtain ⟨-, rfl⟩ := Prod.mk.inj same
    refine ⟨['+'], by simp [Piece.marks], ?_⟩
    rw [← trimmed, starts, ← marks_of_number number]
    rfl
  · obtain ⟨⟨value, after⟩, number, same⟩ := Option.map_eq_some_iff.mp read
    obtain ⟨-, rfl⟩ := Prod.mk.inj same
    refine ⟨[], by simp [Piece.marks], ?_⟩
    rw [← trimmed, ← marks_of_number number]
    rfl

/-- A piece reads one of its sequences of marks. -/
theorem Piece.reads {piece : Piece} (read : piece.read fields text = some (fields', rest)) :
    Reads piece.marks text rest := by
  cases piece with
  | year =>
    obtain ⟨⟨value, after⟩, number, same⟩ := Option.map_eq_some_iff.mp read
    obtain ⟨-, rfl⟩ := Prod.mk.inj same
    exact reads_of_yearNumber number
  | month | day | hour | minute | second =>
    obtain ⟨⟨value, after⟩, number, same⟩ := Option.map_eq_some_iff.mp read
    obtain ⟨-, rfl⟩ := Prod.mk.inj same
    exact reads_of_shortNumber number
  | mark c =>
    obtain ⟨after, sign, same⟩ := Option.map_eq_some_iff.mp read
    obtain ⟨-, rfl⟩ := Prod.mk.inj same
    exact reads_of_sign sign
  | gap =>
    obtain ⟨-, rfl⟩ := Prod.mk.inj (Option.some.inj read)
    exact .nothing (marks_trimStart text).symm

/-- The pieces of a plain form read one sequence after another. -/
theorem reads_of_follow {layout : List Piece} (read : follow fields layout text = some instant) :
    Reads (sequences (layout.map Piece.marks)) text [] := by
  induction layout generalizing fields text with
  | nil =>
    rw [follow_nil, Option.ite_none_right_eq_some] at read
    rw [List.isEmpty_iff.mp read.1]
    exact .refl []
  | cons piece layout inductionHypothesis =>
    rw [follow_cons] at read
    obtain ⟨⟨fields, after⟩, first, more⟩ := Option.bind_eq_some_iff.mp read
    exact .cons (Piece.reads first) (inductionHypothesis more)

/-! ## The form of RFC 3339 -/

theorem reads_of_fraction (read : fraction text = some (value, rest)) :
    Reads [[], ['.']] text rest := by
  unfold fraction at read
  split at read
  · rename_i digits
    obtain ⟨⟨value, after⟩, number, same⟩ := Option.bind_eq_some_iff.mp read
    obtain ⟨-, rfl⟩ := Prod.mk.inj (Option.some.inj same)
    refine ⟨['.'], by simp, ?_⟩
    rw [marks_dropWhile (fun c => isMark_of_isDigit), ← marks_of_number number]
    rfl
  · obtain ⟨-, rfl⟩ := Prod.mk.inj (Option.some.inj read)
    exact ⟨[], by simp, rfl⟩

/-- The sequences of marks that a time zone can have. -/
def zoneMarks : List (List Char) := [['Z'], ['z'], ['+', ':'], ['-', ':'], ['\u2212', ':']]

/-- What is read of a time zone after its sign. -/
theorem marks_of_zone {direction value : Int} (read : (do
    let (hours, rest) ← number 2 2 text
    let rest ← sign ':' rest
    let (minutes, rest) ← number 2 2 rest
    if hours < 24 ∧ minutes < 60 then
      some (direction * (hours * 3600 + minutes * 60 : Nat), rest)
    else none) = some (value, rest)) : marks text = ':' :: marks rest := by
  obtain ⟨⟨hours, afterHours⟩, isHour, read⟩ := Option.bind_eq_some_iff.mp read
  obtain ⟨afterColon, colon, read⟩ := Option.bind_eq_some_iff.mp read
  obtain ⟨⟨minutes, afterMinutes⟩, isMinute, read⟩ := Option.bind_eq_some_iff.mp read
  obtain ⟨-, same⟩ := Option.ite_none_right_eq_some.mp read
  obtain ⟨-, rfl⟩ := Prod.mk.inj (Option.some.inj same)
  rw [marks_of_number isHour, eq_cons_of_sign colon, ← marks_of_number isMinute]
  rfl

theorem reads_of_offset {value : Int} (read : offset text = some (value, rest)) :
    Reads zoneMarks text rest := by
  unfold offset at read
  split at read
  · obtain ⟨-, rfl⟩ := Prod.mk.inj (Option.some.inj read)
    exact ⟨['Z'], by simp [zoneMarks], rfl⟩
  · obtain ⟨-, rfl⟩ := Prod.mk.inj (Option.some.inj read)
    exact ⟨['z'], by simp [zoneMarks], rfl⟩
  · rename_i first digits _ _
    -- The sign is one of three, and what follows it is read alike.
    dsimp only at read
    split at read
    · rename_i plus
      subst plus
      refine ⟨['+', ':'], by simp [zoneMarks], ?_⟩
      rw [marks_cons (by decide), marks_of_zone read]
      rfl
    split at read
    · rename_i minus
      rcases minus with rfl | rfl
      · refine ⟨['-', ':'], by simp [zoneMarks], ?_⟩
        rw [marks_cons (by decide), marks_of_zone read]
        rfl
      · refine ⟨['\u2212', ':'], by simp [zoneMarks], ?_⟩
        rw [marks_cons (by decide), marks_of_zone read]
        rfl
    · contradiction
  · contradiction

/-- The sequences of marks of the form of RFC 3339, part by part. -/
def fullMarks : List (List (List Char)) := [
  [[]], [['-']], [[]], [['-']], [[]], [['T'], ['t'], []], [[]], [[':']], [[]], [[':']], [[]],
  [[], ['.']], zoneMarks]

/-- A part that is read with a value, and then what is read after it. -/
theorem reads_of_bind {α : Type} {part : Option (α × List Char)}
    {next : α × List Char → Option Instant} (read : (part >>= next) = some instant)
    (first : ∀ {value rest}, part = some (value, rest) → Reads choices text rest)
    (more : ∀ value rest, next (value, rest) = some instant → Reads (sequences later) rest []) :
    Reads (sequences (choices :: later)) text [] := by
  obtain ⟨⟨value, rest⟩, found, read⟩ := Option.bind_eq_some_iff.mp read
  exact .cons (first found) (more value rest read)

/-- A sign that is read, and then what is read after it. -/
theorem reads_of_bind_sign {part : Option (List Char)} {next : List Char → Option Instant}
    (read : (part >>= next) = some instant)
    (first : ∀ {rest}, part = some rest → Reads choices text rest)
    (more : ∀ rest, next rest = some instant → Reads (sequences later) rest []) :
    Reads (sequences (choices :: later)) text [] := by
  obtain ⟨rest, found, read⟩ := Option.bind_eq_some_iff.mp read
  exact .cons (first found) (more rest read)

theorem reads_of_separator
    (read : ((sign 'T' text).orElse fun _ => (sign 't' text).orElse fun _ => sign ' ' text) =
      some rest) : Reads [['T'], ['t'], []] text rest := by
  simp only [Option.orElse_eq_or, Option.or_eq_some_iff] at read
  rcases read with capital | ⟨-, small | ⟨-, blank⟩⟩
  · obtain rfl := eq_cons_of_sign capital
    exact ⟨['T'], by simp, rfl⟩
  · obtain rfl := eq_cons_of_sign small
    exact ⟨['t'], by simp, rfl⟩
  · obtain rfl := eq_cons_of_sign blank
    exact ⟨[], by simp, rfl⟩

theorem reads_of_ofRfc3339? (read : ofRfc3339? text = some instant) :
    Reads (sequences fullMarks) text [] := by
  unfold ofRfc3339? at read
  refine reads_of_bind read reads_of_number fun year text read => ?_
  refine reads_of_bind_sign read reads_of_sign fun text read => ?_
  refine reads_of_bind read reads_of_number fun month text read => ?_
  refine reads_of_bind_sign read reads_of_sign fun text read => ?_
  refine reads_of_bind read reads_of_number fun day text read => ?_
  refine reads_of_bind_sign read reads_of_separator fun text read => ?_
  refine reads_of_bind read reads_of_number fun hour text read => ?_
  refine reads_of_bind_sign read reads_of_sign fun text read => ?_
  refine reads_of_bind read reads_of_number fun minute text read => ?_
  refine reads_of_bind_sign read reads_of_sign fun text read => ?_
  refine reads_of_bind read reads_of_number fun second text read => ?_
  refine reads_of_bind read reads_of_fraction fun nanoseconds text read => ?_
  refine reads_of_bind read reads_of_offset fun zone text read => ?_
  cases text with
  | nil => exact .refl []
  | cons c rest => contradiction

/-! ## Forms -/

/-- The forms in which an instant can be written. -/
inductive Form
  /-- The form of RFC 3339. -/
  | full
  | plain (layout : List Piece)
  deriving DecidableEq, Repr

namespace Form

/-- The instant that a text denotes in a form, if the form accepts it. -/
def read? : Form → List Char → Option Instant
  | full, text => ofRfc3339? text
  | plain layout, text => ofLayout? layout text

/-- The forms in the order in which they are tried. -/
def all : List Form := .full :: layouts.map .plain

/-- The sequences of marks that a form reads. -/
def marks : Form → List (List Char)
  | full => sequences fullMarks
  | plain layout => sequences (layout.map Piece.marks)

/-- A text that a form accepts has one of the sequences of marks of the form. -/
theorem marks_mem_of_read? {form : Form} (read : form.read? text = some instant) :
    Instant.marks text ∈ form.marks := by
  have reads : Reads form.marks text [] := by
    cases form with
    | full => exact reads_of_ofRfc3339? read
    | plain layout => exact reads_of_follow ((ofLayout?_eq layout text).symm.trans read)
  obtain ⟨taken, listed, same⟩ := reads
  rw [same]
  simpa [Instant.marks] using listed

/-- No sequence of marks belongs to two forms. -/
theorem all_disjoint : ∀ first ∈ all, ∀ second ∈ all, ∀ taken ∈ first.marks,
    taken ∈ second.marks → first = second := by
  decide +kernel

/-- At most one form accepts a text. -/
theorem eq_of_accepts {first second : Form} {instant' : Instant} (listed : first ∈ all)
    (listed' : second ∈ all) (read : first.read? text = some instant)
    (read' : second.read? text = some instant') : first = second :=
  all_disjoint first listed second listed' _ (marks_mem_of_read? read) (marks_mem_of_read? read')

/-- The first form of some forms that accepts a text without the blanks around it, and the instant
    that the text denotes in it. -/
def acceptedIn (order : List Form) (text : String) : Option (Form × Instant) :=
  order.findSome? fun form => (form.read? (Text.trim text.toList)).map (form, ·)

/-- What is accepted is what the one form reads that accepts the text, wherever it stands. -/
theorem acceptedIn_eq_some_iff {order : List Form} (reordered : order.Perm all) {text : String}
    {form : Form} : acceptedIn order text = some (form, instant) ↔
      form ∈ all ∧ form.read? (Text.trim text.toList) = some instant := by
  have accepted {form : Form} {instant : Instant}
      (found : acceptedIn order text = some (form, instant)) :
      form ∈ all ∧ form.read? (Text.trim text.toList) = some instant := by
    obtain ⟨form', listed, made⟩ := List.exists_of_findSome?_eq_some found
    obtain ⟨instant', read, same⟩ := Option.map_eq_some_iff.mp made
    obtain ⟨rfl, rfl⟩ := Prod.mk.inj same
    exact ⟨reordered.mem_iff.mp listed, read⟩
  refine ⟨accepted, fun ⟨listed, read⟩ => ?_⟩
  have some_form : acceptedIn order text ≠ none := by
    intro none
    have refused := List.findSome?_eq_none_iff.mp none form (reordered.mem_iff.mpr listed)
    rw [read] at refused
    contradiction
  obtain ⟨⟨form', instant'⟩, found⟩ := Option.ne_none_iff_exists'.mp some_form
  obtain ⟨listed', read'⟩ := accepted found
  obtain rfl := eq_of_accepts listed listed' read read'
  rw [found, Option.some.inj (read.symm.trans read')]

/-- An instant is read in the first form that accepts the text. -/
theorem read?_eq_acceptedIn (text : String) :
    Instant.read? text = (acceptedIn all text).map (·.2) := by
  have same : (acceptedIn all text).map (·.2) =
      all.findSome? (·.read? (Text.trim text.toList)) := by
    rw [acceptedIn, List.map_findSome?]
    congr 1
    funext form
    simp [Function.comp_def]
  rw [same, all, List.findSome?_cons, List.findSome?_map, Instant.read?]
  cases full : ofRfc3339? (Text.trim text.toList) with
  | none => simp [read?, full, Function.comp_def]
  | some instant => simp [read?, full]

/-- At most one of the seven forms accepts a text, and in whatever order they are tried, the same
    one accepts it, with the instant that is read of the text. -/
theorem forms_exclusive :
    all.length = 7 ∧
    (∀ text : String, ∀ first ∈ all, ∀ second ∈ all,
      (first.read? (Text.trim text.toList)).isSome → (second.read? (Text.trim text.toList)).isSome →
        first = second) ∧
    ∀ order, order.Perm all → ∀ text, acceptedIn order text = acceptedIn all text ∧
      Instant.read? text = (acceptedIn order text).map (·.2) := by
  refine ⟨rfl, fun text first listed second listed' accepts accepts' => ?_,
    fun order reordered text => ?_⟩
  · obtain ⟨instant, read⟩ := Option.isSome_iff_exists.mp accepts
    obtain ⟨instant', read'⟩ := Option.isSome_iff_exists.mp accepts'
    exact eq_of_accepts listed listed' read read'
  · have same : acceptedIn order text = acceptedIn all text := by
      refine Option.ext fun ⟨form, instant⟩ => ?_
      rw [acceptedIn_eq_some_iff reordered, acceptedIn_eq_some_iff (.refl all)]
    exact ⟨same, by rw [same, read?_eq_acceptedIn]⟩

/-- A day with blanks in it and a sign before its year is written in one form only, which is found
    when the forms are tried the other way around. -/
theorem forms_exclusive_signed :
    let text := " 1/ 2/+2024"
    (∀ form ∈ all, (form.read? (Text.trim text.toList)).isSome → form = .plain (monthFirst '/')) ∧
      acceptedIn all.reverse text = some (.plain (monthFirst '/'), ⟨1704153600, 0⟩) ∧
      Instant.read? text = some ⟨1704153600, 0⟩ := by
  intro text
  obtain ⟨-, exclude, any⟩ := forms_exclusive
  have listed : Form.plain (monthFirst '/') ∈ all := by decide +kernel
  have read : (Form.plain (monthFirst '/')).read? (Text.trim text.toList) =
      some ⟨1704153600, 0⟩ := by decide +kernel
  obtain ⟨same, reads⟩ := any all.reverse (List.reverse_perm all) text
  have accepted := (acceptedIn_eq_some_iff (.refl all)).mpr ⟨listed, read⟩
  refine ⟨fun form listed' accepts => ?_, same.trans accepted, ?_⟩
  · exact exclude text form listed' _ listed accepts (by rw [read]; rfl)
  · rw [reads, same, accepted]
    rfl

end Form

end FileQuery.Instant
