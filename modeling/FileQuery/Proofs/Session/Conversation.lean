import FileQuery.Proofs.Session.ExitStatus

/-!
# The conversation of a session

A question takes the lines of the input up to the first that answers it, and there is one complaint
for each line before (`Question.Takes`). The questions for the directory, the queries and watching
follow each other, each on the lines that the one before has left, and a setting that is known is
not asked for (`Conversation`). This is what the dialogue does with any lines (`conversation_iff`).
Where the lines run out in a question, the session fails and leaves the tree as it was.
-/

namespace FileQuery

namespace Settings

variable {α : Type} {accept : String → Except Complaint α} {tree : FileTree} {everything : Bool}
  {current : Settings} {lines : List String} {complaints : List Complaint}

/-! ## Questions -/

/-- A question: which lines answer it, what they answer, and what is said of the others. -/
structure Question (α : Type) where
  Answers : String → Prop
  value : String → α
  complaint : String → Complaint

namespace Question

variable {question : Question α} {answer : Option (α × List String)}

/-- A question takes the lines up to the first that answers it, or all lines if none does. -/
inductive Takes (question : Question α) :
    List String → List Complaint → Option (α × List String) → Prop
  | answered {rejected rest : List String} {line : String}
      (before : ∀ other ∈ rejected, ¬ question.Answers other) (answers : question.Answers line) :
      Takes question (rejected ++ line :: rest) (rejected.map question.complaint)
        (some (question.value line, rest))
  | exhausted {lines : List String} (unanswered : ∀ line ∈ lines, ¬ question.Answers line) :
      Takes question lines (lines.map question.complaint) none

/-- Lines are accepted as the question says. -/
structure Governs (question : Question α) (accept : String → Except Complaint α) : Prop where
  accepts {line : String} (answers : question.Answers line) : accept line = .ok (question.value line)
  rejects {line : String} (answers : ¬ question.Answers line) :
    accept line = .error (question.complaint line)

/-- A line that does not answer a question is passed over. -/
theorem Takes.skip {line : String} (rejected : ¬ question.Answers line)
    (takes : question.Takes lines complaints answer) :
    question.Takes (line :: lines) (question.complaint line :: complaints) answer := by
  cases takes with
  | answered before answers =>
    exact .answered (List.forall_mem_cons.mpr ⟨rejected, before⟩) answers
  | exhausted unanswered => exact .exhausted (List.forall_mem_cons.mpr ⟨rejected, unanswered⟩)

/-- Asking takes lines as the question does. -/
theorem Governs.takes_ask (governs : question.Governs accept) (lines : List String) :
    question.Takes lines (ask accept lines).complaints (ask accept lines).answer := by
  induction lines with
  | nil => exact .exhausted nofun
  | cons line rest inductionHypothesis =>
    rw [ask]
    by_cases answers : question.Answers line
    · rw [governs.accepts answers]
      exact .answered (List.forall_mem_nil _) answers
    · rw [governs.rejects answers]
      exact inductionHypothesis.skip answers

/-- A question takes lines in one way. -/
theorem Governs.ask_of_takes (governs : question.Governs accept)
    (takes : question.Takes lines complaints answer) :
    ask accept lines = ⟨complaints, answer⟩ := by
  cases takes with
  | @answered rejected rest line before answers =>
    induction rejected with
    | nil => rw [List.nil_append, ask, governs.accepts answers]; rfl
    | cons other rejected inductionHypothesis =>
      obtain ⟨refused, before⟩ := List.forall_mem_cons.mp before
      rw [List.cons_append, ask, governs.rejects refused, inductionHypothesis before]
      rfl
  | exhausted unanswered =>
    induction lines with
    | nil => rfl
    | cons line rest inductionHypothesis =>
      obtain ⟨refused, unanswered⟩ := List.forall_mem_cons.mp unanswered
      rw [ask, governs.rejects refused, inductionHypothesis unanswered]
      rfl

/-- A question is asked if its answer is not known. -/
inductive Settles (question : Question α) :
    Option α → List String → List Complaint → Option (α × List String) → Prop
  | known (value : α) (lines : List String) :
      Settles question (some value) lines [] (some (value, lines))
  | asked {lines : List String} {complaints : List Complaint}
      {answer : Option (α × List String)} (takes : question.Takes lines complaints answer) :
      Settles question none lines complaints answer

/-- What comes of a question whose answer may be known. -/
def reply (accept : String → Except Complaint α) (known : Option α) (lines : List String) :
    Asked α :=
  match known with
  | some value => .known value lines
  | none => ask accept lines

theorem Governs.settles_iff (governs : question.Governs accept) {known : Option α} :
    question.Settles known lines complaints answer ↔
      reply accept known lines = ⟨complaints, answer⟩ := by
  cases known with
  | some value =>
    constructor
    · rintro ⟨⟩
      rfl
    · rintro ⟨⟩
      exact .known value lines
  | none =>
    constructor
    · rintro ⟨⟩
      rename_i takes
      exact governs.ask_of_takes takes
    · intro (same : ask accept lines = _)
      have takes := governs.takes_ask lines
      rw [same] at takes
      exact .asked takes

end Question

/-! ## The questions of the dialogue -/

/-- Asks for a path that leads to something of a kind. The others are empty or not such paths. -/
def pathQuestion (tree : FileTree) (leads : Path → Bool) (empty wrong : Complaint) :
    Question Path where
  Answers line := leads (cleaned line) = true
  value line := Path.absolute (.ofPlace tree.working) (cleaned line)
  complaint line := if (cleaned line).text = "" then empty else wrong

/-- Asks for a directory: a line that names a folder. -/
def directoryQuestion (tree : FileTree) : Question Path :=
  pathQuestion tree tree.isFolder .noDirectory .notDirectory

/-- Asks for the queries: a line that names a regular file. -/
def queriesQuestion (tree : FileTree) : Question Path :=
  pathQuestion tree tree.isFile .noQueries .notQueries

/-- A line says a word, in any case of ASCII letters and with blanks around it. -/
def Says (line word : String) : Prop :=
  (Text.trim line.toList).map Char.toLower = word.toList

instance (line word : String) : Decidable (Says line word) :=
  inferInstanceAs (Decidable (_ = _))

/-- Asks whether to watch: a line that says yes or no, or nothing for what is set already. -/
def watchQuestion (current : Bool) : Question Bool where
  Answers line := ∃ word ∈ ["", "y", "yes", "n", "no"], Says line word
  value line := if Says line "" then current else decide (Says line "y" ∨ Says line "yes")
  complaint _ := .notYesOrNo

/-- The empty path leads to nothing. -/
theorem find_empty (tree : FileTree) : tree.find ⟨""⟩ = .error .notFound := rfl

theorem pathQuestion_governs {leads : Path → Bool} {empty wrong : Complaint}
    (nothing : leads ⟨""⟩ = false) :
    (pathQuestion tree leads empty wrong).Governs fun line =>
      if (cleaned line).text.isEmpty then .error empty
      else if leads (cleaned line) then .ok (Path.absolute (.ofPlace tree.working) (cleaned line))
      else .error wrong where
  accepts {line} answers := by
    have leads_ : leads (cleaned line) = true := answers
    have named : (cleaned line).text ≠ "" := by
      intro empty
      rw [show cleaned line = ⟨""⟩ from congrArg Path.mk empty, nothing] at leads_
      contradiction
    simp [named, leads_, pathQuestion]
  rejects {line} refused := by
    have refused : leads (cleaned line) = false := Bool.not_eq_true _ ▸ refused
    by_cases named : (cleaned line).text = "" <;> simp [named, refused, pathQuestion]

theorem directoryQuestion_governs : (directoryQuestion tree).Governs (acceptDirectory tree) :=
  pathQuestion_governs (by rw [FileTree.isFolder, find_empty])

theorem queriesQuestion_governs : (queriesQuestion tree).Governs (acceptQueries tree) :=
  pathQuestion_governs (by rw [FileTree.isFile, find_empty])

theorem says_iff {line word : String} :
    Says line word ↔ String.ofList ((Text.trim line.toList).map Char.toLower) = word := by
  rw [Says, ← String.toList_inj, String.toList_ofList]

theorem watchQuestion_governs {watch : Bool} :
    (watchQuestion watch).Governs (acceptWatch watch) where
  accepts {line} answers := by
    obtain ⟨word, listed, said⟩ := answers
    simp only [watchQuestion, says_iff, acceptWatch] at said ⊢
    rw [said]
    revert word
    simp
  rejects {line} refused := by
    simp only [watchQuestion, says_iff, acceptWatch] at refused ⊢
    generalize String.ofList ((Text.trim line.toList).map Char.toLower) = answer at refused
    simp at refused ⊢
    simp [refused]

/-! ## The dialogue -/

/-- A setting that is not asked for, if it is known and not everything is. -/
def unasked (everything : Bool) (setting : Option α) : Option α :=
  if everything then none else setting

/-- The questions of the dialogue, each on the lines that the one before has left. The lines may
    run out in any of them. -/
inductive Conversation (tree : FileTree) (everything : Bool) (current : Settings) :
    List String → List Complaint → Option (Settings × List String) → Prop
  | noDirectory {lines : List String} {complaints : List Complaint}
      (directory : (directoryQuestion tree).Settles (unasked everything current.directory) lines
        complaints none) :
      Conversation tree everything current lines complaints none
  | noQueries {lines left : List String} {first second : List Complaint} {folder : Path}
      (directory : (directoryQuestion tree).Settles (unasked everything current.directory) lines
        first (some (folder, left)))
      (queries : (queriesQuestion tree).Settles (unasked everything current.queries) left
        second none) :
      Conversation tree everything current lines (first ++ second) none
  | noWatch {lines left left' : List String} {first second third : List Complaint}
      {folder file : Path}
      (directory : (directoryQuestion tree).Settles (unasked everything current.directory) lines
        first (some (folder, left)))
      (queries : (queriesQuestion tree).Settles (unasked everything current.queries) left
        second (some (file, left')))
      (watch : (watchQuestion current.watch).Settles (unasked everything (some current.watch))
        left' third none) :
      Conversation tree everything current lines (first ++ second ++ third) none
  | complete {lines left left' rest : List String} {first second third : List Complaint}
      {folder file : Path} {watches : Bool}
      (directory : (directoryQuestion tree).Settles (unasked everything current.directory) lines
        first (some (folder, left)))
      (queries : (queriesQuestion tree).Settles (unasked everything current.queries) left
        second (some (file, left')))
      (watch : (watchQuestion current.watch).Settles (unasked everything (some current.watch))
        left' third (some (watches, rest))) :
      Conversation tree everything current lines (first ++ second ++ third)
        (some (⟨some folder, some file, watches⟩, rest))

/-- The dialogue as replies to its questions. -/
theorem askAll_eq : askAll tree everything current lines =
    (Question.reply (acceptDirectory tree) (unasked everything current.directory) lines).andThen
      fun folder lines =>
        (Question.reply (acceptQueries tree) (unasked everything current.queries) lines).andThen
          fun file lines =>
            (Question.reply (acceptWatch current.watch) (unasked everything (some current.watch))
              lines).andThen fun watches lines => .known ⟨some folder, some file, watches⟩ lines := by
  have paths (accept : String → Except Complaint Path) (known : Option Path)
      (lines : List String) :
      askPath everything known accept lines =
        Question.reply accept (unasked everything known) lines := by
    cases everything <;> cases known <;> rfl
  have flag (lines : List String) :
      (if everything then ask (acceptWatch current.watch) lines else .known current.watch lines) =
        Question.reply (acceptWatch current.watch) (unasked everything (some current.watch))
          lines := by
    cases everything <;> rfl
  simp only [askAll, paths, flag]

/-- The lines run out in a first question, or what follows it goes on where it ended. -/
theorem Asked.andThen_eq_iff {β : Type} {asked : Asked α} {next : α → List String → Asked β}
    {answer : Option (β × List String)} : asked.andThen next = ⟨complaints, answer⟩ ↔
      (asked = ⟨complaints, none⟩ ∧ answer = none) ∨
        ∃ first value left second, asked = ⟨first, some (value, left)⟩ ∧
          next value left = ⟨second, answer⟩ ∧ complaints = first ++ second := by
  obtain ⟨first, _ | ⟨value, left⟩⟩ := asked
  · simp [andThen, eq_comm]
  · constructor
    · rintro ⟨⟩
      exact .inr ⟨first, value, left, _, rfl, rfl, rfl⟩
    · rintro (⟨⟨⟩, -⟩ | ⟨_, _, _, second, ⟨⟩, follows, rfl⟩)
      simp [andThen, follows]

/-- The dialogue holds the conversation that its lines make. -/
theorem conversation_iff {answer : Option (Settings × List String)} :
    Conversation tree everything current lines complaints answer ↔
      askAll tree everything current lines = ⟨complaints, answer⟩ := by
  simp only [askAll_eq, Asked.andThen_eq_iff, ← directoryQuestion_governs.settles_iff,
    ← queriesQuestion_governs.settles_iff, ← watchQuestion_governs.settles_iff]
  constructor
  · intro conversation
    cases conversation with
    | noDirectory directory => exact .inl ⟨directory, rfl⟩
    | noQueries directory queries =>
      exact .inr ⟨_, _, _, _, directory, .inl ⟨queries, rfl⟩, rfl⟩
    | noWatch directory queries watch =>
      exact .inr ⟨_, _, _, _, directory, .inr ⟨_, _, _, _, queries, .inl ⟨watch, rfl⟩, rfl⟩,
        List.append_assoc ..⟩
    | complete directory queries watch =>
      refine .inr ⟨_, _, _, _, directory, .inr ⟨_, _, _, _, queries,
        .inr ⟨_, _, _, [], watch, rfl, rfl⟩, rfl⟩, ?_⟩
      rw [List.append_nil, List.append_assoc]
  · rintro (⟨directory, rfl⟩ | ⟨first, folder, left, _, directory, rest, rfl⟩)
    · exact .noDirectory directory
    rcases rest with ⟨queries, rfl⟩ | ⟨second, file, left', _, queries, rest, rfl⟩
    · exact .noQueries directory queries
    rw [← List.append_assoc]
    rcases rest with ⟨watch, rfl⟩ | ⟨third, watches, left'', _, watch, ⟨⟩, rfl⟩
    · exact .noWatch directory queries watch
    · rw [List.append_nil]
      exact .complete directory queries watch

end Settings

/-! ## The dialogue in a session -/

/-- What a transcript prints to the errors. -/
def Transcript.errorLines (transcript : Transcript) : Transcript :=
  transcript.filter fun printed => match printed with
    | .output _ => false
    | .errors _ => true

/-- What is printed about lines. -/
def Transcript.complaining (complaints : List Settings.Complaint) : Transcript :=
  complaints.map fun complaint => Transcript.complaint complaint.message

namespace Transcript

variable {first second : Transcript} {complaints : List Settings.Complaint}

@[simp] theorem errorLines_append :
    errorLines (first ++ second) = errorLines first ++ errorLines second :=
  List.filter_append ..

@[simp] theorem errorLines_nil : errorLines [] = [] := rfl

@[simp] theorem errorLines_output (line : String) (rest : Transcript) :
    errorLines (.output line :: rest) = errorLines rest := rfl

@[simp] theorem errorLines_errors (line : String) (rest : Transcript) :
    errorLines (.errors line :: rest) = .errors line :: errorLines rest := rfl

@[simp] theorem errorLines_complaining :
    errorLines (complaining complaints) = complaining complaints := by
  rw [errorLines, List.filter_eq_self]
  intro printed member
  obtain ⟨complaint, -, rfl⟩ := List.mem_map.mp member
  rfl

end Transcript

namespace Session

open Settings (Conversation Complaint)

variable {tree : FileTree} {options : Options} {current : Settings} {invocation : Invocation}
  {lines : List String} {complaints : List Complaint}

/-- Before the questions nothing is printed to the errors. -/
theorem errorLines_opening (reconfigure : Bool) (complaints : List Complaint) :
    Transcript.errorLines ((if reconfigure then []
        else [Transcript.warning "No complete .sortql config found"]) ++
      [Transcript.step "Entering configuration mode...", .output ""] ++
      Transcript.complaining complaints) = Transcript.complaining complaints := by
  cases reconfigure <;> simp [Transcript.warning, Transcript.step]

/-- A dialogue that ends prints its complaints, and saves the settings. -/
theorem configure_of_complete {settings : Settings} {rest : List String}
    (conversation : Conversation tree options.reconfigure current lines complaints
      (some (settings, rest))) (path : Path) :
    let session := configure options path current lines tree
    Transcript.errorLines session.transcript = Transcript.complaining complaints ∧
      session.tree = (settings.save path tree).2 ∧
      session.result = ((settings.save path tree).1.map fun _ => settings).mapError (·.message) := by
  rw [configure, Settings.conversation_iff.mp conversation]
  dsimp only
  rcases settings.save path tree with ⟨error | _, changed⟩
  · exact ⟨errorLines_opening options.reconfigure complaints, rfl, rfl⟩
  · refine ⟨?_, rfl, rfl⟩
    rw [Transcript.errorLines_append, Transcript.success, Transcript.errorLines_output,
      Transcript.errorLines_nil, List.append_nil]
    exact errorLines_opening options.reconfigure complaints

/-- A dialogue whose lines run out prints its complaints, and leaves the tree. -/
theorem configure_of_exhausted
    (conversation : Conversation tree options.reconfigure current lines complaints none)
    (path : Path) :
    let session := configure options path current lines tree
    Transcript.errorLines session.transcript = Transcript.complaining complaints ∧
      session.tree = tree ∧ session.result = .error "Configuration cancelled" := by
  rw [configure, Settings.conversation_iff.mp conversation]
  exact ⟨errorLines_opening options.reconfigure complaints, rfl, rfl⟩

/-- A session whose settings are not settled fails. -/
theorem run_of_settle_error {message : String}
    (understood : Options.ofArguments invocation.arguments = .ok options)
    (unsettled : (settle options invocation tree).result = .error message) :
    run invocation tree = ⟨Transcript.banner ++ ((settle options invocation tree).transcript ++
      [Transcript.fatal message]), (settle options invocation tree).tree, .failure⟩ := by
  rw [run, understood]
  simp only [withOptions, andThen, print, unsettled, fail]

/-- Settings that are not complete, or not to be kept, are asked for. -/
theorem settle_of_asks (known : Settings.load tree options invocation.environment = .ok current)
    (wanting : asks options current = true) :
    settle options invocation tree =
      (print [Transcript.step "Checking for .sortql config file..."] tree).andThen fun tree _ =>
        configure options (Settings.path options invocation.environment) current
          invocation.lines tree := by
  rw [settle, known]
  dsimp only
  rw [if_pos wanting]

/-- A session whose lines run out in the dialogue prints its complaints, fails, and leaves the
    tree. -/
theorem run_of_exhausted (understood : Options.ofArguments invocation.arguments = .ok options)
    (known : Settings.load tree options invocation.environment = .ok current)
    (wanting : asks options current = true)
    (conversation : Conversation tree options.reconfigure current invocation.lines complaints
      none) :
    let session := run invocation tree
    Transcript.errorLines session.transcript =
        Transcript.complaining complaints ++ [Transcript.fatal "Configuration cancelled"] ∧
      session.tree = tree ∧ session.result = .failure := by
  obtain ⟨prints, leaves, fails⟩ := configure_of_exhausted conversation
    (Settings.path options invocation.environment)
  have settled := settle_of_asks known wanting
  rw [run_of_settle_error understood (by rw [settled]; exact fails), settled]
  refine ⟨?_, leaves, rfl⟩
  simp only [andThen, print, Transcript.errorLines_append, prints]
  rfl

/-- The dialogue holds one conversation, whatever the lines are: each question that it asks takes
    the lines up to the first that answers it, and of the others one complaint each is printed. A
    dialogue that ends gives the answers, if they can be saved. Where the lines run out, the session
    fails and leaves the tree, and so the file with the settings. -/
theorem dialogue_converses (tree : FileTree) (options : Options) (current : Settings)
    (lines : List String) (complaints : List Complaint)
    (answer : Option (Settings × List String)) :
    (Conversation tree options.reconfigure current lines complaints answer ↔
      Settings.askAll tree options.reconfigure current lines = ⟨complaints, answer⟩) ∧
    (Conversation tree options.reconfigure current lines complaints answer → ∀ path,
      let session := configure options path current lines tree
      Transcript.errorLines session.transcript = Transcript.complaining complaints ∧
      (∀ settings rest, answer = some (settings, rest) →
        session.result =
          ((settings.save path tree).1.map fun _ => settings).mapError (·.message)) ∧
      (answer = none → session.tree = tree ∧ session.result = .error "Configuration cancelled")) ∧
    ∀ invocation, Options.ofArguments invocation.arguments = .ok options →
      Settings.load tree options invocation.environment = .ok current →
      asks options current = true → invocation.lines = lines →
      Conversation tree options.reconfigure current lines complaints none →
      let session := run invocation tree
      Transcript.errorLines session.transcript =
          Transcript.complaining complaints ++ [Transcript.fatal "Configuration cancelled"] ∧
        session.tree = tree ∧ session.result = .failure := by
  refine ⟨Settings.conversation_iff, fun conversation path => ?_, ?_⟩
  · cases answer with
    | none =>
      obtain ⟨prints, leaves, fails⟩ := configure_of_exhausted conversation path
      exact ⟨prints, nofun, fun _ => ⟨leaves, fails⟩⟩
    | some given =>
      obtain ⟨prints, -, ends⟩ := configure_of_complete conversation path
      refine ⟨prints, ?_, nofun⟩
      rintro settings rest ⟨⟩
      exact ends
  · rintro invocation understood known wanting rfl conversation
    exact run_of_exhausted understood known wanting conversation

/-- Who asks for new settings and then names no directory keeps the old ones. -/
theorem dialogue_converses_unnamed :
    let invocation : Invocation := ⟨["--reconfigure"], withoutArguments.environment, "\"\"\n"⟩
    let current : Settings := ⟨some ⟨"/data"⟩, some ⟨"/queries"⟩, false⟩
    Conversation (withQueries "") true current invocation.lines [.noDirectory] none ∧
      (run invocation (withQueries "")).tree = withQueries "" ∧
      (run invocation (withQueries "")).result = .failure := by
  intro invocation current
  have lines : invocation.lines = ["\"\""] := by decide +kernel
  obtain ⟨holds, -, ends⟩ := dialogue_converses (withQueries "")
    { Options.ofGiven [] with reconfigure := true } current ["\"\""] [.noDirectory] none
  have conversation : Conversation (withQueries "") true current ["\"\""] [.noDirectory] none :=
    holds.mpr rfl
  obtain ⟨-, leaves, fails⟩ := ends invocation (by decide +kernel) (ready_withQueries "").known rfl
    lines conversation
  exact ⟨lines ▸ conversation, leaves, fails⟩

end Session

end FileQuery
