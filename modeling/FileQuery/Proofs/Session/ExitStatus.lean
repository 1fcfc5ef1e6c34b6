import FileQuery.Proofs.Execution.Untouched
import FileQuery.Proofs.Text.Utf8
import FileQuery.Session

/-!
# Exit codes of sessions

A session whose settings are known and whose queries can be read ends with success or failure. It
ends with success if the queries parse and each statement of them is completed and has no failures.
A session that is asked for listings runs nothing, and ends with success if what it has to list can
be read. Only a run changes the tree: the input of the session, which programs find among the
devices while the queries run, is taken away again (`detach_attach`).
-/

namespace FileQuery

namespace Encoder

/-! ## The input among the devices -/

/-- A folder in which a name is given back what it stood for is as it was. -/
theorem atEntry_atEntry {name : String} {node : Node} (change : Option Node → Node)
    (restore : Option Node → Option Node)
    (restores : ∀ stamps entries, node = .folder stamps entries →
      restore (some (change (entries.lookup name))) = entries.lookup name) :
    atEntry name restore (atEntry name (fun found => some (change found)) node) = node := by
  cases node with
  | file | link => rfl
  | folder stamps entries =>
    simp only [atEntry, Node.lookup_put_self, restores stamps entries rfl]
    cases found : entries.lookup name with
    | none => simp only [Node.drop_put found]
    | some held => simp only [Node.put_put, Node.put_of_lookup found]

/-- A tree that the input of a session is given to and taken from is the tree before. -/
theorem detach_attach (bytes : List UInt8) (tree : FileTree) :
    detach tree (attach bytes tree) = tree := by
  have whole : (detach tree (attach bytes tree)).root = tree.root := by
    simp only [detach, attach]
    refine atEntry_atEntry _ _ fun stamps entries isFolder => ?_
    have lookup : tree.get? ["dev"] = entries.lookup "dev" := by
      rw [FileTree.get?, isFolder]
      cases found : entries.lookup "dev" <;> simp [Node.get?, found]
    rw [lookup]
    cases found : entries.lookup "dev" with
    | none => rfl
    | some devices =>
      refine congrArg some (atEntry_atEntry _ _ fun stamps entries isFolder => ?_)
      rw [isFolder]
      cases held : entries.lookup "stdin" <;> simp [Node.get?, held]
  exact congrArg (fun root => { tree with root }) whole

end Encoder

/-! ## What goes wrong -/

/-- A statement that is completed without failures. -/
def Outcome.IsClean (outcome : Outcome) : Prop :=
  ∃ report, outcome = .completed report ∧ report.failures = []

theorem Outcome.isFailure_eq_false_iff {outcome : Outcome} :
    outcome.isFailure = false ↔ outcome.IsClean := by
  cases outcome <;> simp [isFailure, IsClean]

/-- Nothing went wrong in a query if no statement of it has failures. -/
theorem RunReport.hasFailures_eq_false_iff {report : RunReport} :
    report.hasFailures = false ↔ ∀ outcome ∈ report.outcomes, outcome.2.IsClean := by
  simp only [hasFailures, List.any_eq_false, Bool.not_eq_true, Outcome.isFailure_eq_false_iff]

theorem isOk_eq_false_iff {ε α : Type} {result : Except ε α} :
    result.isOk = false ↔ ∃ error, result = .error error := by
  cases result <;> simp [Except.isOk, Except.toBool]

namespace ExitCode

variable {good : Bool}

theorem ofSuccess_eq_success_iff : ofSuccess good = success ↔ good = true := by
  cases good <;> simp [ofSuccess]

theorem ofSuccess_eq_failure_iff : ofSuccess good = failure ↔ good = false := by
  cases good <;> simp [ofSuccess]

theorem ofSuccess_or (good : Bool) : ofSuccess good = success ∨ ofSuccess good = failure := by
  cases good <;> simp [ofSuccess]

end ExitCode

namespace Session

variable {invocation : Invocation} {tree : FileTree} {options : Options} {settings : Settings}
  {directory queries : Path} {text : String}

/-! ## Parts of a session -/

/-- A listing ends with success if the text has tokens. -/
theorem listTokens_ends (text : String) (tree : FileTree) :
    (listTokens text tree).tree = tree ∧
      (listTokens text tree).result = .ofSuccess (Scan.tokenize text).isOk := by
  unfold listTokens
  cases Scan.tokenize text <;> exact ⟨rfl, rfl⟩

/-- A listing ends with success if the text has statements. -/
theorem listStatements_ends (directory : Path) (text : String) (tree : FileTree) :
    (listStatements directory text tree).tree = tree ∧
      (listStatements directory text tree).result = .ofSuccess (Query.parse text).isOk := by
  unfold listStatements
  cases Query.parse text <;> exact ⟨rfl, rfl⟩

/-- Listings leave the tree, and end with success if each that is asked for does. -/
theorem inspect_ends (options : Options) (directory : Path)
    (readable : tree.readText queries = .ok text) :
    (inspect options directory queries tree).tree = tree ∧
      (inspect options directory queries tree).result =
        .ofSuccess ((!options.tokens || (Scan.tokenize text).isOk) &&
          (!options.ast || (Query.parse text).isOk)) := by
  have tokens := listTokens_ends text tree
  have statements := listStatements_ends directory text tree
  unfold inspect
  rw [readable]
  cases options.tokens <;> cases options.ast <;> cases reads : (Scan.tokenize text).isOk <;>
    simp [andThen, tokens, statements, reads, ExitCode.ofSuccess]

/-- A query that is not read leaves the tree, and the run of it ends with failure. -/
theorem runQueries_of_error {error : ParseError} (options : Options) (environment : Environment)
    (input : List UInt8) (directory : Path) (readable : tree.readText queries = .ok text)
    (refused : Query.parse text = .error error) :
    (runQueries options environment input directory queries tree).tree = tree ∧
      (runQueries options environment input directory queries tree).result = .failure := by
  unfold runQueries Client.run
  rw [readable]
  dsimp only
  rw [refused]
  exact ⟨Encoder.detach_attach input tree, rfl⟩

/-- The run of a query that is read ends with success if nothing went wrong in it. -/
theorem runQueries_of_parse {statements : List Statement} (options : Options)
    (environment : Environment) (input : List UInt8) (directory : Path)
    (readable : tree.readText queries = .ok text) (read : Query.parse text = .ok statements) :
    let run := Query.runAll directory (Encoder.converter environment) statements
      (Encoder.attach input tree)
    (runQueries options environment input directory queries tree).tree =
        Encoder.detach tree run.2 ∧
      (runQueries options environment input directory queries tree).result =
        .ofSuccess !(RunReport.mk directory run.1).hasFailures := by
  unfold runQueries Client.run
  rw [readable]
  dsimp only
  rw [read]
  exact ⟨rfl, rfl⟩

/-! ## Whole sessions -/

/-- A session that has all settings, from whatever sources, and is not asked for new ones. The
    queries of its file are a text. -/
structure Ready (invocation : Invocation) (tree : FileTree) (options : Options)
    (settings : Settings) (directory queries : Path) (text : String) : Prop where
  understood : Options.ofArguments invocation.arguments = .ok options
  known : Settings.load tree options invocation.environment = .ok settings
  runsIn : settings.directory = some directory
  readsFrom : settings.queries = some queries
  keeps : options.reconfigure = false
  readable : tree.readText queries = .ok text

/-- A session that has all settings asks for none. -/
theorem Ready.asks (ready : Ready invocation tree options settings directory queries text) :
    asks options settings = false := by
  simp [Session.asks, Settings.isComplete, ready.keeps, ready.runsIn, ready.readsFrom]

/-- A session that has all settings goes on to do what it is asked for, with all of its input. -/
theorem Ready.run (ready : Ready invocation tree options settings directory queries text) :
    let rest := perform options invocation.environment (Text.encode invocation.input) settings tree
    (run invocation tree).tree = rest.tree ∧ (run invocation tree).result = rest.result := by
  have input : inputLeft options invocation tree = Text.encode invocation.input := by
    unfold inputLeft
    rw [ready.known]
    simp only [ready.asks, Bool.false_eq_true, if_false]
  obtain ⟨transcript, settled⟩ :
      ∃ transcript, settle options invocation tree = ⟨transcript, tree, .ok settings⟩ := by
    unfold settle
    rw [ready.known]
    dsimp only
    rw [ready.asks]
    exact ⟨_, rfl⟩
  unfold Session.run withOptions
  rw [ready.understood]
  dsimp only
  rw [input]
  simp only [andThen, print, settled, and_self]

/-- What is left to do when listings are asked for. -/
theorem Ready.perform_listing
    (ready : Ready invocation tree options settings directory queries text)
    (asked : options.tokens = true ∨ options.ast = true) (input : List UInt8) :
    perform options invocation.environment input settings tree =
      inspect options directory queries tree := by
  simp [perform, ready.runsIn, ready.readsFrom, asked]

/-- What is left to do when the queries are to run. -/
theorem Ready.perform_plain
    (ready : Ready invocation tree options settings directory queries text)
    (noTokens : options.tokens = false) (noStatements : options.ast = false)
    (input : List UInt8) :
    let rest := runQueries options invocation.environment input directory queries tree
    (perform options invocation.environment input settings tree).tree = rest.tree ∧
      (perform options invocation.environment input settings tree).result = rest.result := by
  unfold perform
  rw [ready.runsIn, ready.readsFrom, noTokens, noStatements]
  exact ⟨rfl, rfl⟩

/-- How a session ends that has all settings and whose queries are a text. If it runs the queries
    once, it ends with success if and only if the text is read and each of its statements is
    completed without failures. A text that is not read leaves the tree, and another leaves what
    its statements do. If the session is asked for the tokens or the statements of the text, it
    leaves the tree whatever the text says, and ends with failure if and only if the text has no
    tokens, or no statements, and is asked for them. Where it does not end with success it ends
    with failure. -/
theorem run_ends (ready : Ready invocation tree options settings directory queries text) :
    let session := run invocation tree
    let execute := fun statements =>
      Query.runAll directory (Encoder.converter invocation.environment) statements
        (Encoder.attach (Text.encode invocation.input) tree)
    (options.tokens = false → options.ast = false → (settings.watch && !options.once) = false →
      (session.result = .success ∨ session.result = .failure) ∧
      (session.result = .success ↔ ∃ statements, Query.parse text = .ok statements ∧
        ∀ outcome ∈ (execute statements).1, outcome.2.IsClean) ∧
      (∀ error, Query.parse text = .error error → session.tree = tree) ∧
      ∀ statements, Query.parse text = .ok statements →
        (execute statements).1.map (·.1) = statements ∧
        session.tree = Encoder.detach tree (execute statements).2) ∧
    (options.tokens = true ∨ options.ast = true →
      session.tree = tree ∧
      (session.result = .success ∨ session.result = .failure) ∧
      (session.result = .failure ↔
        options.tokens = true ∧ (∃ failure, Scan.tokenize text = .error failure) ∨
        options.ast = true ∧ ∃ error, Query.parse text = .error error)) := by
  intro session execute
  obtain ⟨sameTree, sameResult⟩ := ready.run
  constructor
  · intro noTokens noStatements _
    obtain ⟨sameTree', sameResult'⟩ :=
      ready.perform_plain noTokens noStatements (Text.encode invocation.input)
    rw [sameTree, sameTree', sameResult, sameResult']
    cases read : Query.parse text with
    | error error =>
      obtain ⟨leaves, fails⟩ := runQueries_of_error options invocation.environment
        (Text.encode invocation.input) directory ready.readable read
      rw [leaves, fails]
      simp
    | ok statements =>
      obtain ⟨leaves, ends⟩ := runQueries_of_parse options invocation.environment
        (Text.encode invocation.input) directory ready.readable read
      rw [leaves, ends]
      refine ⟨ExitCode.ofSuccess_or _, ?_, nofun, ?_⟩
      · rw [ExitCode.ofSuccess_eq_success_iff, Bool.not_eq_true',
          RunReport.hasFailures_eq_false_iff]
        constructor
        · exact fun clean => ⟨statements, rfl, clean⟩
        · rintro ⟨_, ⟨⟩, clean⟩
          exact clean
      · rintro _ ⟨⟩
        exact ⟨Query.map_fst_runAll .., rfl⟩
  · intro asked
    obtain ⟨leaves, ends⟩ := inspect_ends options directory ready.readable
    rw [sameTree, sameResult, ready.perform_listing asked, leaves, ends]
    refine ⟨rfl, ExitCode.ofSuccess_or _, ?_⟩
    simp only [ExitCode.ofSuccess_eq_failure_iff, Bool.and_eq_false_iff, Bool.or_eq_false_iff,
      Bool.not_eq_false', isOk_eq_false_iff]

/-! ### A session with its settings in the environment -/

/-- A tree with a file of queries. -/
def withQueries (text : String) : FileTree :=
  ⟨.folder (.ofInstant .epoch) [("queries", .file (.ofInstant .epoch) false (Text.encode text))],
    [], .epoch⟩

/-- The program is started without arguments. -/
def withoutArguments : Invocation :=
  ⟨[], [("SORTQL_DIRECTORY", "/data"), ("SORTQL_QUERIES", "/queries")], ""⟩

theorem ready_withQueries (text : String) :
    Ready withoutArguments (withQueries text) (.ofGiven [])
      ⟨some ⟨"/data"⟩, some ⟨"/queries"⟩, false⟩ ⟨"/data"⟩ ⟨"/queries"⟩ text where
  understood := rfl
  known := by
    have missing : (withQueries text).resolve .follow ⟨"/root/.sortql"⟩ = .error .notFound := by
      simp [withQueries, FileTree.resolve, FileTree.checkPath, FileTree.pathLimit, FileTree.names,
        Path.segments, FileTree.descend, FileTree.start, Path.isAbsolute, FileTree.get?, Node.get?,
        List.lookup_cons, FileTree.nameLimit, Text.byteLength, Char.utf8Size]
    have unread : (withQueries text).readText ⟨"/root/.sortql"⟩ = .error .notFound := by
      rw [FileTree.readText, FileTree.read, FileTree.find, FileTree.locate, missing]
      rfl
    have inHome : Settings.path (.ofGiven []) withoutArguments.environment =
        ⟨"/root/.sortql"⟩ := rfl
    unfold Settings.load Settings.ofFile
    rw [inHome, unread]
    rfl
  runsIn := rfl
  readsFrom := rfl
  keeps := rfl
  readable := by
    have leads : (withQueries text).resolve .follow ⟨"/queries"⟩ =
        .ok ⟨["queries"], (withQueries text).get? ["queries"], false⟩ := by
      simp [withQueries, FileTree.resolve, FileTree.checkPath, FileTree.pathLimit, FileTree.names,
        Path.segments, FileTree.descend, FileTree.start, Path.isAbsolute, FileTree.get?, Node.get?,
        FileTree.nameLimit, Text.byteLength, Char.utf8Size]
    have bytes : (withQueries text).read ⟨"/queries"⟩ = .ok (Text.encode text) := by
      rw [FileTree.read, FileTree.find, FileTree.locate, leads]
      rfl
    rw [FileTree.readText, bytes]
    dsimp only
    rw [Text.decode?_encode]

/-- A statement that is refused ends the session with failure. -/
theorem run_ends_refused :
    let text := (Statement.delete ⟨"files", "..", none⟩).text
    Ready withoutArguments (withQueries text) (.ofGiven [])
      ⟨some ⟨"/data"⟩, some ⟨"/queries"⟩, false⟩ ⟨"/data"⟩ ⟨"/queries"⟩ text ∧
    (run withoutArguments (withQueries text)).result = .failure := by
  intro text
  have ready := ready_withQueries text
  have read : Query.parse text = .ok [.delete ⟨"files", "..", none⟩] := by
    refine Query.parse_text ⟨?_, by simp [Statement.selection]⟩
    simp [Statement.literals, Statement.selection, Statement.destination?, Quotable]
  obtain ⟨ends, succeeds, -, -⟩ := (run_ends ready).1 rfl rfl rfl
  refine ⟨ready, ends.resolve_left fun success => ?_⟩
  obtain ⟨statements, read', clean⟩ := succeeds.mp success
  obtain rfl := Except.ok.inj (read.symm.trans read')
  obtain ⟨report, completed, -⟩ := clean _ (List.mem_singleton_self _)
  cases completed

end Session

end FileQuery
