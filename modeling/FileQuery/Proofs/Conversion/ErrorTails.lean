import FileQuery.Media.Encoder
import FileQuery.Proofs.Instant.Reading
import FileQuery.Proofs.Text.Utf8

/-!
# What is reported of a failed encoder

Of what an encoder has written to its errors the end is reported: a suffix of the text without the
blanks around it, which starts at a character of it. The suffix is the longest one of at most
401 characters (`isLongestSuffix_reported`), one more than the tail is meant to have. So it is the
longest one of at most 400 characters just where the whole text has no more
(`isLongestSuffix_iff_of_succ`).
-/

namespace FileQuery.Encoder

variable {limit : Nat} {text suffix : List Char}

/-- A suffix of a text that has at most so many characters, and that no such suffix exceeds. -/
structure IsLongestSuffix (limit : Nat) (text suffix : List Char) : Prop where
  isSuffix : suffix <:+ text
  fits : suffix.length ≤ limit
  longest : ∀ other, other <:+ text → other.length ≤ limit → other.length ≤ suffix.length

theorem isLongestSuffix_drop (limit : Nat) (text : List Char) :
    IsLongestSuffix limit text (text.drop (text.length - limit)) := by
  refine ⟨List.drop_suffix _ _, ?_, fun other isSuffix fits => ?_⟩
  · rw [List.length_drop]
    omega
  · have shorter := isSuffix.length_le
    rw [List.length_drop]
    omega

/-- There is one longest suffix, which is what is left when enough has been dropped. -/
theorem isLongestSuffix_iff :
    IsLongestSuffix limit text suffix ↔ suffix = text.drop (text.length - limit) := by
  constructor
  · intro longest
    have dropped := isLongestSuffix_drop limit text
    have same : suffix.length = (text.drop (text.length - limit)).length :=
      Nat.le_antisymm (dropped.longest _ longest.isSuffix longest.fits)
        (longest.longest _ dropped.isSuffix dropped.fits)
    exact (List.suffix_of_suffix_length_le longest.isSuffix dropped.isSuffix same.le).eq_of_length
      same
  · rintro rfl
    exact isLongestSuffix_drop limit text

/-- The longest suffix of some length is also the longest one of a lower length just where the whole
    text has that length. -/
theorem isLongestSuffix_iff_of_succ (longest : IsLongestSuffix (limit + 1) text suffix) :
    IsLongestSuffix limit text suffix ↔ text.length ≤ limit := by
  obtain rfl := isLongestSuffix_iff.mp longest
  rw [isLongestSuffix_iff]
  constructor
  · intro same
    have lengths := congrArg List.length same
    simp only [List.length_drop] at lengths
    omega
  · intro short
    rw [Nat.sub_eq_zero_of_le short, Nat.sub_eq_zero_of_le (Nat.le_succ_of_le short)]

/-- A suffix of a text is the slice of it from a character on, or from its end. -/
theorem exists_sliceFrom (isSuffix : suffix <:+ text) : ∃ start : (String.ofList text).Pos,
    ((String.ofList text).sliceFrom start).copy = String.ofList suffix := by
  obtain ⟨before, rfl⟩ := isSuffix
  have whole : String.ofList (before ++ suffix) = String.ofList before ++ String.ofList suffix :=
    String.ofList_append
  have boundary : String.Pos.Raw.IsValid (String.ofList (before ++ suffix))
      (String.ofList before).rawEndPos :=
    String.Pos.Raw.isValid_iff_exists_append.mpr ⟨_, _, whole, rfl⟩
  exact ⟨⟨_, boundary⟩, String.copy_sliceFrom_eq_iff_exists_splits.mpr ⟨_, whole, rfl⟩⟩

/-! ## What an encoder has said -/

/-- The text of the bytes that an encoder wrote to its errors, without the blanks around it. -/
def said (errors : List UInt8) : List Char := Text.trim (Text.decodeLossy errors).toList

theorem toList_reported (errors : List UInt8) : (reported errors).toList = tail (said errors) :=
  String.toList_ofList

/-- What is reported has a character more than the tail is meant to have. -/
theorem isLongestSuffix_reported (errors : List UInt8) :
    IsLongestSuffix (tailLength + 1) (said errors) (reported errors).toList := by
  rw [toList_reported]
  exact isLongestSuffix_drop _ _

/-- Where a program has run and failed, the error tells how it ended and then the end of what it
    said. -/
theorem converter_of_failed {environment : Environment} {input output : Path} {kind : MediaKind}
    {tree : FileTree} {result : Script.ProcessResult} (streamed : kind ≠ .image)
    (ran : Script.runProgram tree environment (programName environment) (arguments input output)
      (unread tree) = .ok result)
    (failed : result.ending.isSuccess = false) :
    (converter environment input output kind tree).1 =
      .error (failure (programName environment) result.ending result.errors) := by
  have encodes : (encode environment input output tree).1 =
      .error (failure (programName environment) result.ending result.errors) := by
    rw [encode, ran]
    simp [failed]
  cases kind with
  | image => contradiction
  | audio | video => exact encodes

/-- Behind how the program ended stands the longest suffix of what it said that has at most 401
    characters, and it starts at a character. This is the longest suffix of at most 400 characters
    if and only if nothing longer was said. -/
theorem failures_tell_tails (errors : List UInt8) :
    (∀ (environment : Environment) (input output : Path) (kind : MediaKind) (tree : FileTree)
        (result : Script.ProcessResult), kind ≠ .image →
      Script.runProgram tree environment (programName environment) (arguments input output)
        (unread tree) = .ok result → result.ending.isSuccess = false → result.errors = errors →
      (converter environment input output kind tree).1 =
        .error (.failed (programName environment ++ " exited with " ++ result.ending.text ++ ": " ++
          reported errors))) ∧
    IsLongestSuffix (tailLength + 1) (said errors) (reported errors).toList ∧
    (∃ start : (String.ofList (said errors)).Pos,
      ((String.ofList (said errors)).sliceFrom start).copy = reported errors) ∧
    (IsLongestSuffix tailLength (said errors) (reported errors).toList ↔
      (said errors).length ≤ tailLength) := by
  have longest := isLongestSuffix_reported errors
  refine ⟨fun _ _ _ _ _ result streamed ran failed wrote => ?_, longest, ?_,
    isLongestSuffix_iff_of_succ longest⟩
  · rw [converter_of_failed streamed ran failed, failure, wrote]
  · rw [← (reported errors).ofList_toList]
    exact exists_sliceFrom longest.isSuffix

/-- A tree without entries. -/
def bare : FileTree := ⟨.folder (.ofInstant .epoch) [], [], .epoch⟩

/-- A program of the system is found by its path. -/
theorem find_cat (environment : Environment) :
    Script.Program.find bare environment "/bin/cat" = .ok (⟨"/bin/cat"⟩, .tool "cat" []) := by
  have slashed : "/bin/cat".toList.contains '/' = true := by decide +kernel
  have missing : bare.locate .follow ⟨"/bin/cat"⟩ = .error .notFound := by
    simp [bare, FileTree.locate, FileTree.resolve, FileTree.checkPath, FileTree.pathLimit,
      FileTree.names, Path.segments, FileTree.descend, FileTree.start, Path.isAbsolute,
      FileTree.get?, Node.get?, FileTree.nameLimit, Text.byteLength, Char.utf8Size]
  have known : Script.Program.ofSystemPath? ⟨"/bin/cat"⟩ = some (.tool "cat" []) := by
    decide +kernel
  rw [Script.Program.find, if_neg (by decide), if_pos slashed, Script.Program.depthLimit,
    Script.Program.atPath, missing]
  dsimp only
  rw [known]
  rfl

/-- A program that is no encoder refuses the first option. -/
theorem failures_tell_tails_refused :
    let environment : Environment := [("SORTQL_FFMPEG", "/bin/cat")]
    let words := arguments ⟨"a.wav"⟩ ⟨"a.mp3"⟩
    ∃ result, Script.runProgram bare environment (programName environment) words (unread bare) =
        .ok result ∧ result.ending.isSuccess = false ∧
      (converter environment ⟨"a.wav"⟩ ⟨"a.mp3"⟩ .audio bare).1 =
        .error (.failed ("/bin/cat exited with exit status: 1: " ++
          "cat: invalid option -- 'y'\nTry 'cat --help' for more information.")) := by
  intro environment words
  obtain ⟨result, ran, ending, errors⟩ : ∃ result, Script.runProgram bare environment
      (programName environment) words (unread bare) = .ok result ∧ result.ending = .exited 1 ∧
      result.errors = Text.encode
        "cat: invalid option -- 'y'\nTry 'cat --help' for more information.\n" := by
    have found : Script.Program.find bare environment (programName environment) = _ :=
      find_cat environment
    rw [Script.runProgram, found]
    exact ⟨_, rfl, by decide +kernel, by decide +kernel⟩
  have failed : result.ending.isSuccess = false := by rw [ending]; rfl
  obtain ⟨tells, -⟩ := failures_tell_tails result.errors
  refine ⟨result, ran, failed, (tells _ _ _ _ _ _ (by decide) ran failed rfl).trans ?_⟩
  rw [ending, errors]
  decide +kernel

/-- Of 401 characters all are reported. -/
theorem not_forall_isLongestSuffix :
    ¬ ∀ errors, IsLongestSuffix tailLength (said errors) (reported errors).toList := by
  intro claimed
  let whole := List.replicate 401 'a'
  have solid : ∀ c ∈ whole, Text.isBlank c = false := fun c member => by
    rw [List.eq_of_mem_replicate member]
    decide
  have trimmed : said (Text.encode (String.ofList whole)) = whole := by
    rw [said, Text.decodeLossy_encode, String.toList_ofList]
    exact Text.trim_eq_self (fun c first => solid c (List.mem_of_mem_head? first))
      (fun c last => solid c (List.mem_of_mem_getLast? last))
  have short := (isLongestSuffix_iff_of_succ (isLongestSuffix_reported _)).mp
    (claimed (Text.encode (String.ofList whole)))
  rw [trimmed, List.length_replicate] at short
  exact absurd short (by decide)

end FileQuery.Encoder
