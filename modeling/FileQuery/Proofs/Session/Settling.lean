import FileQuery.Proofs.Session.Conversation
import FileQuery.Proofs.Settings.RoundTrip

/-!
# Where the settings of a session come from

A path is that of the flag, or else that of the variable, or else that of the file, and whether to
watch is settled likewise (`Prevails`). What is not known is asked for, and when the dialogue ends
the file is written, if it can be (`Settlement`). Then the settings of the session are read from it.
-/

namespace FileQuery

namespace Settings

variable {tree : FileTree} {options : Options} {environment : Environment} {working : Path}
  {file known : Settings}

/-! ## Precedence -/

/-- A text spells a truth value: it says one of the words for it. -/
def SpellsFlag (text : String) (value : Bool) : Prop :=
  ∃ word ∈ if value then ["1", "true", "yes", "on"] else ["0", "false", "no", "off"], Says text word

theorem flag?_eq_some_iff {text : String} {value : Bool} :
    flag? text = some value ↔ SpellsFlag text value := by
  simp only [flag?, SpellsFlag, says_iff]
  generalize String.ofList ((Text.trim text.toList).map Char.toLower) = spelled
  cases value <;> simp only [List.contains_eq_mem, decide_eq_true_eq] <;> grind

/-- A path is that of a flag, or else that of a variable, or else that of the file. -/
inductive PathPrevails (working : Path) (flag : Option Path) (exported : Option String)
    (file : Option Path) : Option Path → Prop
  | flag {path : Path} (given : flag = some path) :
      PathPrevails working flag exported file (some (Path.absolute working path))
  | exported {text : String} (unset : flag = none) (given : exported = some text) :
      PathPrevails working flag exported file (some ⟨text⟩)
  | file (unset : flag = none) (unset' : exported = none) :
      PathPrevails working flag exported file file

/-- A truth value is true for a flag, or else what a variable spells, or else that of the file. -/
inductive FlagPrevails (flag : Bool) (exported : Option String) (file : Bool) : Bool → Prop
  | flag (given : flag = true) : FlagPrevails flag exported file true
  | exported {text : String} {value : Bool} (unset : flag = false)
      (given : exported = some text) (spells : SpellsFlag text value) :
      FlagPrevails flag exported file value
  | file (unset : flag = false)
      (unspelled : ∀ text value, exported = some text → ¬ SpellsFlag text value) :
      FlagPrevails flag exported file file

/-- Settings that prevail over those of the file, for the arguments and the environment. -/
structure Prevails (options : Options) (environment : Environment) (working : Path)
    (file known : Settings) : Prop where
  directory : PathPrevails working options.directory (environment.get? "SORTQL_DIRECTORY")
    file.directory known.directory
  queries : PathPrevails working options.queries (environment.get? "SORTQL_QUERIES")
    file.queries known.queries
  watch : FlagPrevails options.watch (environment.get? "SORTQL_WATCH") file.watch known.watch

theorem pathPrevails_iff {flag found effective : Option Path} {exported : Option String} :
    PathPrevails working flag exported found effective ↔
      effective = (flag.map (Path.absolute working)).or ((exported.map Path.mk).or found) := by
  constructor
  · rintro (⟨rfl⟩ | ⟨rfl, rfl⟩ | ⟨rfl, rfl⟩) <;> rfl
  · rintro rfl
    cases flag with
    | some path => exact .flag rfl
    | none =>
      cases exported with
      | some text => exact .exported rfl rfl
      | none => exact .file rfl rfl

theorem flagPrevails_iff {flag found effective : Bool} {exported : Option String} :
    FlagPrevails flag exported found effective ↔
      effective = (flag || (exported.bind flag?).getD found) := by
  constructor
  · intro prevails
    cases prevails with
    | flag given => rw [given, Bool.true_or]
    | exported unset given spells =>
      rw [unset, given, Option.bind_some, flag?_eq_some_iff.mpr spells]
      rfl
    | file unset unspelled =>
      have nothing : exported.bind flag? = none := by
        refine Option.eq_none_iff_forall_ne_some.mpr fun value spelled => ?_
        obtain ⟨text, given, spells⟩ := Option.bind_eq_some_iff.mp spelled
        exact unspelled text value given (flag?_eq_some_iff.mp spells)
      rw [unset, nothing]
      rfl
  · rintro rfl
    cases flag with
    | true => exact .flag rfl
    | false =>
      rw [Bool.false_or]
      cases spelled : exported.bind flag? with
      | some value =>
        obtain ⟨text, given, spells⟩ := Option.bind_eq_some_iff.mp spelled
        exact .exported rfl given (flag?_eq_some_iff.mp spells)
      | none =>
        refine .file rfl fun text value given spells => ?_
        rw [given, Option.bind_some, flag?_eq_some_iff.mpr spells] at spelled
        contradiction

theorem prevails_iff : Prevails options environment working file known ↔
    known = (file.withEnvironment environment).withOptions options working := by
  constructor
  · rintro ⟨directory, queries, watch⟩
    rw [pathPrevails_iff] at directory queries
    rw [flagPrevails_iff] at watch
    obtain ⟨_, _, _⟩ := known
    simp only at directory queries watch
    rw [directory, queries, watch]
    rfl
  · rintro rfl
    exact ⟨pathPrevails_iff.mpr rfl, pathPrevails_iff.mpr rfl, flagPrevails_iff.mpr rfl⟩

/-- The settings of all sources are those that prevail. -/
theorem load_eq_ok_iff : load tree options environment = .ok known ↔
    ∃ file, ofFile tree (path options environment) = .ok file ∧
      Prevails options environment (.ofPlace tree.working) file known := by
  simp only [prevails_iff, load]
  cases ofFile tree (path options environment) with
  | error error => simp
  | ok file => simp [eq_comm]

/-! ## What is asked for -/

/-- Settings that need not be asked for are the ones that are known. -/
structure Retains (everything : Bool) (known settings : Settings) : Prop where
  directory {path : Path} (unasked : everything = false) (given : known.directory = some path) :
    settings.directory = some path
  queries {path : Path} (unasked : everything = false) (given : known.queries = some path) :
    settings.queries = some path
  watch (unasked : everything = false) : settings.watch = known.watch

/-- A conversation leaves the settings that it does not ask for. -/
theorem Conversation.retains {everything : Bool} {lines rest : List String}
    {complaints : List Complaint} {settings : Settings}
    (conversation : Conversation tree everything known lines complaints (some (settings, rest))) :
    Retains everything known settings := by
  cases conversation with
  | complete directory queries watch =>
    refine ⟨?_, ?_, ?_⟩
    · rintro path rfl given
      rw [given] at directory
      cases directory
      rfl
    · rintro path rfl given
      rw [given] at queries
      cases queries
      rfl
    · rintro rfl
      cases watch
      rfl

end Settings

/-! ## Settling -/

namespace Session

open Settings (Conversation Complaint Prevails Retains)

variable {tree : FileTree} {options : Options} {invocation : Invocation} {known : Settings}

/-- Settings are asked for if all are to be replaced, or if a path is not known. -/
def Wanting (options : Options) (known : Settings) : Prop :=
  options.reconfigure = true ∨ known.directory = none ∨ known.queries = none

theorem asks_eq_true_iff : asks options known = true ↔ Wanting options known := by
  obtain ⟨directory, queries, watch⟩ := known
  cases directory <;> cases queries <;> simp [asks, Settings.isComplete, Wanting]

/-- What comes of a tree and of the settings that are known for it. -/
inductive Settlement (tree : FileTree) (path : Path) (options : Options) (known : Settings)
    (lines : List String) : FileTree → Except String Settings → Prop
  /-- Nothing has to be asked for, and nothing is written. -/
  | unasked (complete : ¬ Wanting options known) :
      Settlement tree path options known lines tree (.ok known)
  /-- The lines run out, and nothing is written. -/
  | cancelled {complaints : List Complaint} (wanting : Wanting options known)
      (exhausted : Conversation tree options.reconfigure known lines complaints none) :
      Settlement tree path options known lines tree (.error "Configuration cancelled")
  /-- The settings are written, and can be read back. -/
  | saved {complaints : List Complaint} {settings : Settings} {rest : List String}
      {later : FileTree} (wanting : Wanting options known)
      (answered : Conversation tree options.reconfigure known lines complaints
        (some (settings, rest)))
      (retains : Retains options.reconfigure known settings)
      (saves : settings.save path tree = (.ok (), later))
      (readsBack : Settings.ofFile later path = .ok settings) :
      Settlement tree path options known lines later (.ok settings)
  /-- The settings cannot be written, and no file is changed. -/
  | unsaved {complaints : List Complaint} {settings : Settings} {rest : List String}
      {later : FileTree} {error : FileError} (wanting : Wanting options known)
      (answered : Conversation tree options.reconfigure known lines complaints
        (some (settings, rest)))
      (unwritable : ¬ tree.Writable path)
      (fails : settings.save path tree = (.error error, later)) (adds : tree.AddsFolders later) :
      Settlement tree path options known lines later (.error error.message)

/-- Where the dialogue ends, the settings are written by a path that can be written. -/
theorem Settlement.of_writable {path : Path} {lines rest : List String}
    {complaints : List Complaint} {settings : Settings} {later : FileTree}
    {result : Except String Settings}
    (settlement : Settlement tree path options known lines later result)
    (wanting : Wanting options known)
    (answered : Conversation tree options.reconfigure known lines complaints
      (some (settings, rest)))
    (writable : tree.Writable path) :
    result = .ok settings ∧ Settings.ofFile later path = .ok settings := by
  have talks := Settings.conversation_iff.mp answered
  cases settlement with
  | unasked complete => exact absurd wanting complete
  | cancelled _ exhausted =>
    cases talks.symm.trans (Settings.conversation_iff.mp exhausted)
  | saved _ answered' _ _ readsBack =>
    cases talks.symm.trans (Settings.conversation_iff.mp answered')
    exact ⟨rfl, readsBack⟩
  | unsaved _ _ unwritable => exact absurd writable unwritable

/-- Settings that are asked for are settled as the dialogue and the file allow. -/
theorem settlement_of_configure (grounded : tree.Grounded) (wanting : Wanting options known)
    (path : Path) (lines : List String) :
    Settlement tree path options known lines (configure options path known lines tree).tree
      (configure options path known lines tree).result := by
  obtain ⟨complaints, answer, asked⟩ : ∃ complaints answer,
      Settings.askAll tree options.reconfigure known lines = ⟨complaints, answer⟩ := ⟨_, _, rfl⟩
  have conversation := Settings.conversation_iff.mpr asked
  cases answer with
  | none =>
    obtain ⟨-, leaves, fails⟩ := configure_of_exhausted conversation path
    rw [leaves, fails]
    exact .cancelled wanting conversation
  | some given =>
    obtain ⟨settings, rest⟩ := given
    obtain ⟨-, becomes, ends⟩ := configure_of_complete conversation path
    rw [becomes, ends]
    rcases saves : settings.save path tree with ⟨error | _, later⟩
    · have unwritable : ¬ tree.Writable path := fun writable => by
        have saved := Settings.save_of_writable grounded settings writable
        rw [saves] at saved
        contradiction
      have adds : tree.AddsFolders later := by
        obtain ⟨middle, adds, ⟨_, fails⟩ | ⟨changed, -, succeeds⟩⟩ :=
          Settings.save_cases grounded settings path
        · obtain ⟨-, rfl⟩ := Prod.mk.inj (saves.symm.trans fails)
          exact adds
        · cases saves.symm.trans succeeds
      exact .unsaved wanting conversation unwritable saves adds
    · have readsBack := Settings.ofFile_of_save grounded (congrArg Prod.fst saves)
      rw [saves] at readsBack
      exact .saved wanting conversation conversation.retains saves readsBack

/-- A session whose file is no settings leaves the tree. -/
theorem settle_of_load_error {error : SettingsError}
    (unknown : Settings.load tree options invocation.environment = .error error) :
    (settle options invocation tree).tree = tree ∧
      (settle options invocation tree).result = .error error.message := by
  rw [settle, unknown]
  exact ⟨rfl, rfl⟩

/-- Known settings are settled as the dialogue and the file allow, if any of them is asked for. -/
theorem settlement_of_load (grounded : tree.Grounded)
    (loaded : Settings.load tree options invocation.environment = .ok known) :
    Settlement tree (Settings.path options invocation.environment) options known invocation.lines
      (settle options invocation tree).tree (settle options invocation tree).result := by
  by_cases wanting : asks options known = true
  · rw [settle_of_asks loaded wanting]
    exact settlement_of_configure grounded (asks_eq_true_iff.mp wanting) _ invocation.lines
  · rw [settle, loaded]
    dsimp only
    rw [if_neg wanting]
    exact .unasked (asks_eq_true_iff.not.mp wanting)

/-- A session whose settings are settled goes on with them. -/
theorem run_of_settle_ok {settings : Settings}
    (understood : Options.ofArguments invocation.arguments = .ok options)
    (settled : (settle options invocation tree).result = .ok settings) :
    let rest := perform options invocation.environment (inputLeft options invocation tree) settings
      (settle options invocation tree).tree
    (run invocation tree).tree = rest.tree ∧ (run invocation tree).result = rest.result := by
  rw [run, understood]
  simp only [withOptions, andThen, print, settled, and_self]

/-- The settings of a session are those of the file, with those of the environment and of the
    arguments in their place. A file that is no settings ends the session and stays as it is. What is
    not known is asked for, and then the file is written, if that can be done, so that the settings
    are read from it. -/
theorem settings_settled (grounded : tree.Grounded)
    (understood : Options.ofArguments invocation.arguments = .ok options) :
    let path := Settings.path options invocation.environment
    let session := settle options invocation tree
    (tree.readText path = .error .notFound → Settings.ofFile tree path = .ok .initial) ∧
    (∀ directory queries watch,
      tree.readText path = .ok (Settings.partialText directory queries watch) →
      Settings.ofFile tree path = .ok ⟨directory, queries, watch.getD false⟩) ∧
    (∀ error, Settings.ofFile tree path = .error error →
      session.tree = tree ∧ session.result = .error error.message) ∧
    (∀ file, Settings.ofFile tree path = .ok file → ∃ known,
      Prevails options invocation.environment (.ofPlace tree.working) file known ∧
      Settlement tree path options known invocation.lines session.tree session.result) ∧
    (∀ message, session.result = .error message →
      (run invocation tree).tree = session.tree ∧ (run invocation tree).result = .failure) ∧
    ∀ settings, session.result = .ok settings →
      let rest := perform options invocation.environment (inputLeft options invocation tree) settings
        session.tree
      (run invocation tree).tree = rest.tree ∧ (run invocation tree).result = rest.result := by
  intro path session
  refine ⟨fun missing => ?_, fun directory queries watch reads => ?_, fun error fails => ?_,
    fun file found => ?_, fun message unsettled => ?_, fun settings settled => ?_⟩
  · rw [Settings.ofFile, missing]
  · rw [Settings.ofFile, reads]
    dsimp only
    rw [Settings.read_partialText]
    rfl
  · exact settle_of_load_error (by rw [Settings.load, fails])
  · have prevails : Prevails options invocation.environment (.ofPlace tree.working) file _ :=
      Settings.prevails_iff.mpr rfl
    have loaded := Settings.load_eq_ok_iff.mpr ⟨file, found, prevails⟩
    exact ⟨_, prevails, settlement_of_load grounded loaded⟩
  · rw [run_of_settle_error understood unsettled]
    exact ⟨rfl, rfl⟩
  · exact run_of_settle_ok understood settled

/-! ### A session that is told its directory -/

/-- The program is started without a directory, and told one. -/
def undirected (config : String) : Invocation :=
  ⟨[], [("SORTQL_CONFIG", config), ("SORTQL_QUERIES", "queries")], ".\n"⟩

/-- The settings of which the directory has to be asked for. -/
def withoutDirectory : Settings := ⟨none, some ⟨"queries"⟩, false⟩

/-- A path without a file leads to nothing, whether a slash ends it or not. -/
theorem resolve_withQueries (slash : Bool) :
    (withQueries "").resolve .follow ⟨if slash then "settings/" else "settings"⟩ =
      .ok ⟨["settings"], none, slash⟩ := by
  cases slash <;>
    simp [withQueries, FileTree.resolve, FileTree.checkPath, FileTree.pathLimit, FileTree.names,
      Path.segments, FileTree.descend, FileTree.start, Path.isAbsolute, FileTree.get?, Node.get?,
      List.lookup_cons, FileTree.nameLimit, Text.byteLength, Char.utf8Size]

theorem readText_withQueries (slash : Bool) :
    (withQueries "").readText ⟨if slash then "settings/" else "settings"⟩ = .error .notFound := by
  rw [FileTree.readText, FileTree.read, FileTree.find, FileTree.locate, resolve_withQueries]
  rfl

/-- The line names the working folder. -/
theorem conversation_undirected (config : String) :
    Conversation (withQueries "") (Options.ofGiven []).reconfigure withoutDirectory
      (undirected config).lines []
      (some ({ withoutDirectory with directory := some ⟨"/"⟩ }, [])) := by
  have lines : (undirected config).lines = ["."] := by
    change (Text.lines ".\n".toList).map String.ofList = ["."]
    decide +kernel
  have cleans : Settings.cleaned "." = ⟨"."⟩ := by decide +kernel
  have leads : (withQueries "").resolve .follow ⟨"."⟩ =
      .ok ⟨[], (withQueries "").get? [], false⟩ := by
    simp [withQueries, FileTree.resolve, FileTree.checkPath, FileTree.pathLimit, FileTree.names,
      Path.segments, FileTree.descend, FileTree.start, Path.isAbsolute, Text.byteLength,
      Char.utf8Size]
  have isFolder : (withQueries "").isFolder ⟨"."⟩ = true := by
    rw [FileTree.isFolder, FileTree.find, FileTree.locate, leads]
    rfl
  have accepts : Settings.acceptDirectory (withQueries "") "." = .ok ⟨"/"⟩ := by
    rw [Settings.acceptDirectory, cleans]
    dsimp only
    rw [if_neg (by decide), if_pos isFolder]
    rfl
  change Conversation _ false _ _ _ _
  rw [Settings.conversation_iff, lines, Settings.askAll]
  simp only [Settings.askPath, withoutDirectory, Settings.ask, accepts]
  rfl

theorem prevails_undirected (config : String) :
    Prevails (.ofGiven []) (undirected config).environment (.ofPlace (withQueries "").working)
      .initial withoutDirectory :=
  Settings.prevails_iff.mpr rfl

/-- The settings are written where nothing is, and read back. -/
theorem settings_settled_undirected :
    let invocation := undirected "settings"
    let session := settle (.ofGiven []) invocation (withQueries "")
    let settings : Settings := { withoutDirectory with directory := some ⟨"/"⟩ }
    (withQueries "").Grounded ∧
      Options.ofArguments invocation.arguments = .ok (.ofGiven []) ∧
      session.result = .ok settings ∧ Settings.ofFile session.tree ⟨"settings"⟩ = .ok settings := by
  intro invocation session settings
  have grounded : (withQueries "").Grounded := ⟨_, _, rfl⟩
  have understood : Options.ofArguments invocation.arguments = .ok (.ofGiven []) := rfl
  obtain ⟨missing, -, -, settles, -⟩ := settings_settled grounded understood
  obtain ⟨known, prevails, settlement⟩ := settles .initial (missing (readText_withQueries false))
  obtain rfl : known = withoutDirectory :=
    (Settings.prevails_iff.mp prevails).trans
      (Settings.prevails_iff.mp (prevails_undirected "settings")).symm
  refine ⟨grounded, understood, settlement.of_writable (.inr (.inl rfl))
    (conversation_undirected "settings") ⟨["settings"], none, resolve_withQueries false, nofun⟩⟩

/-- Settings that are asked for are not always written: the path of the file may end in a slash. -/
theorem not_settings_written : ¬ ∀ (tree : FileTree) (invocation : Invocation) (options : Options)
    (file known settings : Settings) (complaints : List Complaint) (rest : List String),
    tree.Grounded → Options.ofArguments invocation.arguments = .ok options →
    let path := Settings.path options invocation.environment
    Settings.ofFile tree path = .ok file →
    Prevails options invocation.environment (.ofPlace tree.working) file known →
    Wanting options known →
    Conversation tree options.reconfigure known invocation.lines complaints
      (some (settings, rest)) →
    Settings.ofFile (settle options invocation tree).tree path = .ok settings := by
  intro claimed
  have unread : (withQueries "").readText ⟨"settings/"⟩ = .error .notFound :=
    readText_withQueries true
  have missing : Settings.ofFile (withQueries "") ⟨"settings/"⟩ = .ok .initial := by
    rw [Settings.ofFile, unread]
  have prevails := prevails_undirected "settings/"
  have conversation := conversation_undirected "settings/"
  have wanting : Wanting (.ofGiven []) withoutDirectory := .inr (.inl rfl)
  have saved := claimed (withQueries "") (undirected "settings/") (.ofGiven []) .initial
    withoutDirectory _ [] [] ⟨_, _, rfl⟩ rfl missing prevails wanting conversation
  have loaded := Settings.load_eq_ok_iff.mpr ⟨_, missing, prevails⟩
  have leads : (withQueries "").resolve .follow ⟨"settings/"⟩ = .ok ⟨["settings"], none, true⟩ :=
    resolve_withQueries true
  have leaves (settings : Settings) :
      (settings.save ⟨"settings/"⟩ (withQueries "")).2 = withQueries "" := by
    have above : (Path.mk "settings/").parent? = some ⟨""⟩ := by decide +kernel
    rw [Settings.save, above]
    dsimp only
    rw [if_pos (by decide), Changes.ofChange, FileTree.write, FileTree.truncate, leads]
    rfl
  obtain ⟨-, becomes, -⟩ := configure_of_complete conversation ⟨"settings/"⟩
  have stays : (settle (.ofGiven []) (undirected "settings/") (withQueries "")).tree =
      withQueries "" := by
    rw [settle_of_asks loaded (asks_eq_true_iff.mpr wanting)]
    exact becomes.trans (leaves _)
  rw [stays] at saved
  cases missing.symm.trans saved

end Session

end FileQuery
