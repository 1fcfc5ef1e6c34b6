import FileQuery.Display.Transcript
import FileQuery.Media.Encoder
import FileQuery.Settings.Sources

/-!
# Sessions

A session of the program: what it prints, what becomes of the file tree, and the exit code, for the
arguments, the environment and the input that it is started with.
-/

namespace FileQuery

/-- What the program is started with. -/
structure Invocation where
  arguments : List String
  environment : Environment
  /-- The text of the input. -/
  input : String

/-- The lines of the input. -/
def Invocation.lines (invocation : Invocation) : List String :=
  (Text.lines invocation.input.toList).map String.ofList

/-- What a session, or a part of it, comes to. -/
structure Session (α : Type) where
  transcript : Transcript
  tree : FileTree
  result : α

namespace Session

/-- A part of a session that only prints. -/
def print (transcript : Transcript) (tree : FileTree) : Session Unit := ⟨transcript, tree, ()⟩

/-- A session that goes on with a part that depends on what came before. -/
def andThen {α β : Type} (session : Session α) (next : FileTree → α → Session β) : Session β :=
  let later := next session.tree session.result
  ⟨session.transcript ++ later.transcript, later.tree, later.result⟩

end Session

/-- The codes that a session ends with. -/
inductive ExitCode
  | success
  | failure
  /-- The arguments are not understood. -/
  | usage
  deriving DecidableEq, Repr

namespace ExitCode

/-- The number of an exit code. -/
def number : ExitCode → Nat
  | success => 0
  | failure => 1
  | usage => 2

/-- The exit code of a session that goes well or not. -/
def ofSuccess (good : Bool) : ExitCode := if good then success else failure

end ExitCode

namespace Session

/-- The end of a session at an error. -/
def fail (message : String) (tree : FileTree) : Session ExitCode :=
  ⟨[Transcript.fatal message], tree, .failure⟩

/-! ### Settings -/

/-- Whether a session asks for settings. -/
def asks (options : Options) (settings : Settings) : Bool :=
  options.reconfigure || !settings.isComplete

/-- Whether a session needs one more line of input than it has. -/
def wantsLine (invocation : Invocation) (tree : FileTree) : Bool :=
  match Options.ofArguments invocation.arguments with
  | .error _ => false
  | .ok options =>
    match Settings.load tree options invocation.environment with
    | .error _ => false
    | .ok settings =>
      asks options settings &&
        (Settings.askAll tree options.reconfigure settings invocation.lines).answer.isNone

/-- Asks for settings and saves them. -/
def configure (options : Options) (path : Path) (current : Settings) (lines : List String)
    (tree : FileTree) : Session (Except String Settings) :=
  let asked := Settings.askAll tree options.reconfigure current lines
  let before :=
    (if options.reconfigure then []
      else [Transcript.warning "No complete .sortql config found"]) ++
    [Transcript.step "Entering configuration mode...", .output ""] ++
    asked.complaints.map fun complaint => Transcript.complaint complaint.message
  match asked.answer with
  | none => ⟨before, tree, .error "Configuration cancelled"⟩
  | some (settings, _) =>
    match settings.save path tree with
    | (.error error, changed) => ⟨before, changed, .error error.message⟩
    | (.ok (), changed) =>
      ⟨before ++ [Transcript.success ("Saved .sortql config to " ++ path.text)], changed,
        .ok settings⟩

/-- The settings of a session, from all sources and the dialogue if something is not known. -/
def settle (options : Options) (invocation : Invocation) (tree : FileTree) :
    Session (Except String Settings) :=
  let path := Settings.path options invocation.environment
  let step := [Transcript.step "Checking for .sortql config file..."]
  match Settings.load tree options invocation.environment with
  | .error error => ⟨step, tree, .error error.message⟩
  | .ok settings =>
    if asks options settings then
      (print step tree).andThen fun tree _ =>
        configure options path settings invocation.lines tree
    else
      ⟨step ++ [Transcript.success ("Using .sortql config from " ++ path.text)], tree,
        .ok settings⟩

/-! ### Listings instead of a run -/

/-- Prints the tokens of a text. -/
def listTokens (text : String) (tree : FileTree) : Session ExitCode :=
  match Scan.tokenize text with
  | .ok tokens =>
    ⟨[.output (Json.list (tokens.map Token.json)).text], tree, .success⟩
  | .error failure =>
    ⟨Transcript.queryError (ParseError.unexpectedInput failure).message text, tree, .failure⟩

/-- Prints the statements of a text. -/
def listStatements (directory : Path) (text : String) (tree : FileTree) : Session ExitCode :=
  match Query.parse text with
  | .ok statements =>
    ⟨[.output (Query.json directory.text statements).text], tree, .success⟩
  | .error error => ⟨Transcript.queryError error.report text, tree, .failure⟩

/-- Prints the listings that are asked for, up to the first error. -/
def inspect (options : Options) (directory queries : Path) (tree : FileTree) : Session ExitCode :=
  match tree.readText queries with
  | .error error => fail error.message tree
  | .ok text =>
    let tokens := if options.tokens then listTokens text tree else ⟨[], tree, .success⟩
    tokens.andThen fun tree code =>
      if code = .success ∧ options.ast then listStatements directory text tree
      else ⟨[], tree, code⟩

/-! ### Runs -/

/-- The number of bytes that are taken from the input at once. -/
def pieceSize : Nat := 8192

/-- What is left of the input when lines of it have been read. It is taken in pieces, of which the
    last one may hold more than the lines. -/
def inputAfter (lines : Nat) (bytes : List UInt8) : List UInt8 :=
  let read := ((bytes.splitBy fun byte _ => byte != 10).take lines).flatten.length
  bytes.drop ((read + pieceSize - 1) / pieceSize * pieceSize)

/-- What is left of the input of a session when its settings are known. -/
def inputLeft (options : Options) (invocation : Invocation) (tree : FileTree) : List UInt8 :=
  let bytes := Text.encode invocation.input
  match Settings.load tree options invocation.environment with
  | .error _ => bytes
  | .ok settings =>
    if asks options settings then
      match (Settings.askAll tree options.reconfigure settings invocation.lines).answer with
      | some (_, rest) => inputAfter (invocation.lines.length - rest.length) bytes
      | none => []
    else bytes

/-- Runs the queries of a file and prints the report. Programs that convert files may read what is
    left of the input. -/
def runQueries (options : Options) (environment : Environment) (input : List UInt8)
    (directory queries : Path) (tree : FileTree) : Session ExitCode :=
  let step := [Transcript.step "Parsing queries..."]
  match tree.readText queries with
  | .error error => (print step tree).andThen fun tree _ => fail error.message tree
  | .ok text =>
    let client : Client := ⟨directory, Encoder.converter environment⟩
    let (result, changed) := client.run text (Encoder.attach input tree)
    let changed := Encoder.detach tree changed
    match result with
    | .ok report =>
      ⟨step ++ Transcript.report options.json report, changed, .ofSuccess !report.hasFailures⟩
    | .error (.unreadable error) =>
      ⟨step ++ Transcript.queryError error.report text, changed, .failure⟩
    | .error (.file error) =>
      ⟨step ++ [Transcript.fatal (RunError.file error).message], changed, .failure⟩

/-- What a session does once its settings are known. Queries that are to run again whenever the
    directory changes run once here. -/
def perform (options : Options) (environment : Environment) (input : List UInt8)
    (settings : Settings) (tree : FileTree) : Session ExitCode :=
  match settings.directory, settings.queries with
  | some directory, some queries =>
    if options.tokens || options.ast then inspect options directory queries tree
    else
      let heading := Transcript.banner ++
        Transcript.setting directory queries (settings.watch && !options.once)
      (print heading tree).andThen fun tree _ =>
        runQueries options environment input directory queries tree
  | _, _ => fail "Both a directory and a queries file are required" tree

/-- A session with options. -/
def withOptions (options : Options) (invocation : Invocation) (tree : FileTree) :
    Session ExitCode :=
  let input := inputLeft options invocation tree
  (print Transcript.banner tree).andThen fun tree _ =>
    (settle options invocation tree).andThen fun tree settings =>
      match settings with
      | .error message => fail message tree
      | .ok settings => perform options invocation.environment input settings tree

/-- A session. -/
def run (invocation : Invocation) (tree : FileTree) : Session ExitCode :=
  match Options.ofArguments invocation.arguments with
  | .ok options => withOptions options invocation tree
  | .error .help => ⟨Usage.help.map .output, tree, .success⟩
  | .error .version => ⟨[.output Usage.version], tree, .success⟩
  | .error (.wrong error) => ⟨[.errors error.message], tree, .usage⟩

end Session

end FileQuery
