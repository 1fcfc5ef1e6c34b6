import FileQuery.Script.Program
import FileQuery.Script.Reader

/-!
# Running scripts

Words are expanded and commands run one within the other, since a word may take the output of
commands. What a script does takes a number of steps, and a script that takes too many is killed.
-/

namespace FileQuery.Script

open Acting

/-! ### Streams -/

/-- The reason why a file cannot be opened. -/
def openingError (shell : Shell) (writes : Bool) (path : String) (error : FileError) : String :=
  match shell.dialect with
  | .extended => path ++ ": " ++ error.words
  | .plain =>
    let words := match error with
      | .notFound => if writes then "Directory nonexistent" else "No such file"
      | other => other.words
    "cannot " ++ (if writes then "create " else "open ") ++ path ++ ": " ++ words

/-- The stream that a device is, if it is one. -/
def deviceStream? (path : String) : Option Stream :=
  match path with
  | "/dev/stdin" => some 0
  | "/dev/stdout" => some 1
  | "/dev/stderr" => some 2
  | _ =>
    if path.startsWith "/dev/fd/" then (String.ofList (path.toList.drop 8)).toNat? else none

/-- Opens a file for a stream, or reports why it cannot be opened. -/
def openWriting (stream : Stream) (appends : Bool) (path : String) : Acting Bool := do
  let shell ← get
  match path == "/dev/null", (deviceStream? path).bind shell.port with
  | true, _ => do set (shell.connect stream .nowhere); return true
  | _, some port => do set (shell.connect stream port); return true
  | false, none =>
    if path = "/dev/tty" then do
      complain "cannot create /dev/tty: No such device or address"
      return false
    else
      let opened := if appends && shell.tree.isFile ⟨path⟩ then .ok shell.tree
        else shell.tree.write ⟨path⟩ []
      match opened with
      | .ok changed => do
        set ({ shell with tree := changed }.connect stream (.file (shell.absolute path)))
        return true
      | .error error => do
        complain (openingError shell true path error)
        return false

/-- Opens a file for a stream that reads it, or reports why it cannot be opened. -/
def openReading (stream : Stream) (path : String) : Acting Bool := do
  let shell ← get
  match path == "/dev/null", (deviceStream? path).bind shell.port with
  | true, _ => do set (shell.connect stream .nowhere); return true
  | _, some port => do set (shell.connect stream port); return true
  | false, none =>
    match shell.tree.read ⟨path⟩ with
    | .ok bytes => do
      let (number, opened) := shell.openChannel bytes
      set (opened.connect stream (.channel number))
      return true
    | .error .isFolder => do set (shell.connect stream .nowhere); return true
    | .error error => do
      complain (openingError shell false path error)
      return false

/-- Makes a stream what another one is, or closes it. -/
def duplicate (stream : Stream) (other : String) : Acting Bool := do
  let shell ← get
  if other = "-" then do
    set { shell with ports := shell.ports.filter (·.1 != stream) }
    return true
  else
    match other.toNat? with
    | none => fail "Syntax error: Bad fd number"
    | some number =>
      match shell.port number with
      | some port => do set (shell.connect stream port); return true
      | none => do complain (other ++ ": Bad file descriptor"); return false

/-! ### Fields -/

/-- The fields that pieces are split into, with the paths that they match. -/
def fieldsOf (shell : Shell) (pieces : List Piece) : List String :=
  let fields := Piece.fields shell.separators pieces
  if shell.hasOption 'f' then fields.map Letter.text
  else fields.flatMap (Letter.expand shell.tree)

/-- Pieces of a word that stands in the place of an unquoted parameter. -/
def asBrought (pieces : List Piece) : List Piece :=
  pieces.map fun piece => match piece with
    | .letter ⟨c, false⟩ => .brought c
    | other => other

/-- What a parameter stands for, as pieces. -/
def parameterPieces (shell : Shell) (name : String) (quoted : Bool) : List Piece :=
  if name = "@" then Piece.ofTexts quoted shell.arguments
  else if name = "*" then
    if quoted then
      let separator := String.ofList (shell.separators.take 1)
      Piece.ofText true (String.intercalate separator shell.arguments)
    else Piece.ofTexts false shell.arguments
  else Piece.ofText quoted ((shell.parameter? name).getD "")

/-- Bytes without the line ends at their end. -/
def withoutLastEnds (bytes : List UInt8) : List UInt8 :=
  (bytes.reverse.dropWhile (· = 10)).reverse

/-- Whether a parameter may be missing where missing parameters are errors. -/
def mayBeMissing (name : String) : Bool := ["@", "*", "#", "?", "$", "!", "-"].contains name

/-! ### Shells -/

/-- The shell that a script starts in, with its arguments. -/
def Shell.initial (tree : FileTree) (environment : Environment) (dialect : Dialect) (name : String)
    (arguments : List String) : Shell where
  tree := tree
  channels := [[], [], []]
  ports := [(0, .channel 0), (1, .channel 1), (2, .channel 2)]
  dialect := dialect
  name := name
  arguments := arguments
  bindings :=
    [("PWD", (Path.ofPlace tree.working).text), ("OPTIND", "1"), ("PS4", "+ ")] ++
      environment.filter fun (name, _) => isName name.toList && name != "IFS"
  exported := (environment.map (·.1)).filter (fun name => isName name.toList) ++ ["PWD"]
  constants := []
  functions := []
  depth := 0
  loops := 0
  hidden := []
  options := []
  traps := []
  arrived := []
  status := 0
  behind := none
  taken := 0
  line := 0
  source := ""

/-- The shell that a program starts in that is called from another one. -/
def Shell.called (shell : Shell) (dialect : Dialect) (name : String) (arguments : List String) :
    Shell :=
  { Shell.initial shell.tree shell.environment dialect name arguments with
    channels := shell.channels
    ports := shell.ports }

/-- A shell after a function was left: the variables that were its own hold what they held. -/
def Shell.restore (shell outer : Shell) : Shell :=
  let unhidden := shell.hidden.foldl (fun (inner : Shell) (name, value) =>
    match value with
    | some value => inner.bind name value
    | none => inner.unbind name) shell
  { unhidden with
    arguments := outer.arguments
    hidden := outer.hidden
    depth := outer.depth
    loops := outer.loops }

/-- How a shell is called: its options, and the text that it runs. -/
inductive ShellText
  /-- A text among the words, with a name and arguments. -/
  | given (text name : String) (arguments : List String)
  | file (path : String) (arguments : List String)
  | input
  deriving DecidableEq, Repr

/-- The text that a shell is called with, after the words of its options. -/
def shellText (isGiven : Bool) (name : String) : List String → ShellText
  | [] => .input
  | first :: rest =>
    if isGiven then .given first (rest.headD name) (rest.drop 1) else .file first rest

/-- A report of a shell that cannot read its script. -/
def unreadable (dialect : Dialect) (name path : String) (error : FileError) : String :=
  match dialect with
  | .plain =>
    let words := match error with
      | .notFound => "No such file"
      | other => other.words
    name ++ ": 0: cannot open " ++ path ++ ": " ++ words ++ "\n"
  | .extended => name ++ ": " ++ path ++ ": " ++ error.words ++ "\n"

/-- Runs a program on its own in a shell of its own. -/
def inShell (inner : Shell → Shell) (action : Acting Unit) : Acting Unit := fun shell =>
  let (result, after) := (action.run).run (inner shell)
  let outer := shell.after after
  match result with
  | .error (.ended (.exited code)) => (.ok (), { outer with status := code })
  | .error (.ended (.killed signal)) => (.error (.ended (.killed signal)), outer)
  | .error _ | .ok () => (.ok (), { outer with status := after.status })

/-- Goes on after a program that may have been killed. -/
def afterProgram : Except Stop Unit → Acting Unit
  | .error (.ended (.killed signal)) => do
    match Signal.description? signal with
    | some text => writeText 2 (text ++ "\n")
    | none => pure ()
    finish (128 + signal)
  | .error reason => stop reason
  | .ok () => return ()

/-- Goes on after a loop that was left, or that goes on itself. -/
def afterLoop : Except Stop Unit → Acting Unit
  | .ok () => return ()
  | .error (.broken 0) => finish 0
  | .error (.continued 0) => return ()
  | .error (.broken (loops + 1)) => stop (.broken loops)
  | .error (.continued (loops + 1)) => stop (.continued loops)
  | .error reason => stop reason

/-- Whether a loop goes on after its body. -/
def afterBody : Except Stop Unit → Acting Unit
  | .ok () | .error (.continued 0) => return ()
  | .error reason => stop reason

/-- Writes what runs, if that is asked for. -/
def trace (words : List String) : Acting Unit := do
  let shell ← get
  if shell.hasOption 'x' then writeText 2 ("+ " ++ String.intercalate " " words ++ "\n")

/-- Where a name leads. -/
inductive Callee
  | function (body : Command)
  | builtin (act : List String → Acting Unit)
  /-- A command of the shell that runs others. -/
  | running
  | program (path : Path) (program : Program)
  /-- A file that names no interpreter. -/
  | text (path : Path)
  | missing (error : FileError)

/-- Where a name leads, leaving out functions if that is asked for. -/
def calleeOf (shell : Shell) (functions : Bool) (name : String) : Callee :=
  match (if functions then shell.functions.lookup name else none), Builtin.all.lookup name with
  | some body, _ => .function body
  | none, some act => .builtin act
  | none, none =>
    if Builtin.running.contains name then .running
    else
      let environment := shell.bindings.filter (·.1 = "PATH")
      match Program.find shell.tree environment name with
      | .ok (path, program) => .program path program
      | .error .notProgram =>
        if name.toList.contains '/' then .text ⟨name⟩ else .missing .notFound
      | .error error => .missing error

/-- What is said of a name that is looked for. -/
def described (name : String) : Callee → Option (String × String)
  | .function _ => some (name ++ " is a shell function", name)
  | .builtin _ | .running => some (name ++ (if Builtin.special.contains name then
      " is a special shell builtin" else " is a shell builtin"), name)
  | .program path _ | .text path => some (name ++ " is " ++ path.text, path.text)
  | .missing _ => none

/-- Reports that a name leads nowhere. -/
def reportMissing (before name : String) (error : FileError) : Acting Unit := do
  match (← get).dialect, error with
  | .plain, .denied => do
    complainWithin (before ++ name ++ ": Permission denied")
    finish 126
  | .plain, _ => do
    complainWithin (before ++ name ++ ": not found")
    finish 127
  | .extended, .denied => do
    complainWithin (before ++ name ++ ": Permission denied")
    finish 126
  | .extended, _ => do
    complainWithin (before ++ name ++
      (if name.toList.contains '/' then ": No such file or directory" else ": command not found"))
    finish 127

mutual

/-- The pieces that a part of a word stands for. -/
def expandPart : Nat → WordPart → Acting (List Piece)
  | 0, _ => stop (.ended (.killed 9))
  | fuel + 1, part => do
    match part with
    | .text value quoted =>
      let letters := value.toList.map fun c => Piece.letter ⟨c, quoted⟩
      return if quoted then .quote :: letters else letters
    | .parameter name quoted => do
      let shell ← get
      if shell.hasOption 'u' && !mayBeMissing name && (shell.parameter? name).isNone then
        failWithin (name ++ ": parameter not set")
      else return parameterPieces shell name quoted
    | .length name quoted => do
      let value := ((← get).parameter? name).getD ""
      return Piece.ofText quoted (toString (FileQuery.Text.byteLength value.toList))
    | .altered name alteration word quoted => do
      let before := (← get).parameter? name
      let isMissing (emptyCounts : Bool) := before.isNone || (emptyCounts && before = some "")
      let substitute : Acting (List Piece) := do
        let pieces ← expandParts fuel word
        return if quoted then .quote :: pieces else asBrought pieces
      let value := before.getD ""
      match alteration with
      | .fallback emptyCounts =>
        if isMissing emptyCounts then substitute
        else return parameterPieces (← get) name quoted
      | .replaced emptyCounts =>
        if isMissing emptyCounts then return Piece.ofText quoted "" else substitute
      | .assigned emptyCounts =>
        if isMissing emptyCounts then do
          let text := Piece.text (← expandParts fuel word)
          assign name text
          return Piece.ofText quoted text
        else return parameterPieces (← get) name quoted
      | .required emptyCounts =>
        if isMissing emptyCounts then do
          let text := Piece.text (← expandParts fuel word)
          let plain := "parameter not set" ++ (if emptyCounts then " or null" else "")
          failWithin (name ++ ": " ++ (if word.isEmpty then plain else text))
        else return parameterPieces (← get) name quoted
      | .withoutStart longest => do
        let pattern := Wildcard.ofLetters (Piece.letters (← expandParts fuel word))
        return Piece.ofText quoted
          (String.ofList (Wildcard.withoutStart longest pattern value.toList))
      | .withoutEnd longest => do
        let pattern := Wildcard.ofLetters (Piece.letters (← expandParts fuel word))
        return Piece.ofText quoted
          (String.ofList (Wildcard.withoutEnd longest pattern value.toList))
    | .arithmetic expression quoted => do
      let text := Piece.text (← expandParts fuel expression)
      match evaluate (← get).bindings text with
      | .ok (value, bindings) => do
        modify fun shell => { shell with bindings := bindings }
        return Piece.ofText quoted (toString value)
      | .error flaw => failWithin (flaw.message text)
    | .output command quoted => do
      let bytes ← capture fuel command
      return Piece.ofText quoted (FileQuery.Text.decodeLossy (withoutLastEnds bytes))
    | .mistaken => failWithin "Bad substitution"

/-- The pieces that parts of a word stand for. -/
def expandParts : Nat → List WordPart → Acting (List Piece)
  | 0, _ => stop (.ended (.killed 9))
  | _, [] => return []
  | fuel + 1, part :: rest => do
    let pieces ← expandPart fuel part
    return pieces ++ (← expandParts fuel rest)

/-- The fields that words stand for. -/
def expandWords : Nat → List Word → Acting (List String)
  | 0, _ => stop (.ended (.killed 9))
  | _, [] => return []
  | fuel + 1, word :: rest => do
    let pieces ← expandParts fuel word
    let fields := fieldsOf (← get) pieces
    return fields ++ (← expandWords fuel rest)

/-- The values of assignments. -/
def expandAssignments : Nat → List (String × Word) → Acting (List (String × String))
  | 0, _ => stop (.ended (.killed 9))
  | _, [] => return []
  | fuel + 1, (name, word) :: rest => do
    let value := Piece.text (← expandParts fuel word)
    assign name value
    return (name, value) :: (← expandAssignments fuel rest)

/-- The output of a command that runs on its own. -/
def capture : Nat → Command → Acting (List UInt8)
  | 0, _ => stop (.ended (.killed 9))
  | fuel + 1, command => do
    let before ← get
    let (number, opened) := before.openChannel []
    set (opened.connect 1 (.channel number))
    apart (run fuel false command)
    let shell ← get
    set { shell with
      channels := shell.channels.take number
      ports := before.ports
      taken := shell.status
      status := before.status }
    return shell.channel number

/-- Redirects streams one after another, up to the first that cannot be redirected. -/
def redirect : Nat → List Redirection → Acting Bool
  | 0, _ => stop (.ended (.killed 9))
  | _, [] => return true
  | fuel + 1, redirection :: rest => do
    let done ← match redirection with
      | .stream stream other => do duplicate stream (Piece.text (← expandParts fuel other))
      | .write stream appends name => do
        openWriting stream appends (Piece.text (← expandParts fuel name))
      | .read stream name => do openReading stream (Piece.text (← expandParts fuel name))
      | .document stream text => do
        let bytes := FileQuery.Text.encode (Piece.text (← expandParts fuel text))
        let (number, opened) := (← get).openChannel bytes
        set (opened.connect stream (.channel number))
        pure true
    if done then redirect fuel rest else return false

/-- Runs a command with its streams redirected, unless they cannot be. -/
def withStreams : Nat → List Redirection → Acting Unit → Acting Unit → Acting Unit
  | 0, _, _, _ => stop (.ended (.killed 9))
  | fuel + 1, redirections, refused, action => do
    let before := (← get).ports
    let restore : Acting Unit := modify fun shell => { shell with ports := before }
    if ← redirect fuel redirections then do
      let result ← catching action
      restore
      match result with
      | .ok () => return ()
      | .error reason => stop reason
    else do
      restore
      finish 2
      refused

/-- Runs the text of a command that comes from elsewhere. -/
def runText : Nat → Bool → String → String → Acting Unit
  | 0, _, _, _ => stop (.ended (.killed 9))
  | fuel + 1, tested, source, text => do
    let before ← get
    modify fun shell => { shell with source := source, status := 0 }
    runContents fuel tested (Contents.ofText text.toList)
    modify fun shell => { shell with source := before.source, line := before.line }

/-- Runs the commands of a script. -/
def runContents : Nat → Bool → Contents → Acting Unit
  | 0, _, _ => stop (.ended (.killed 9))
  | fuel + 1, tested, contents =>
    match contents with
    | ⟨command :: rest, flaw⟩ => do
      run fuel tested command
      runContents fuel tested ⟨rest, flaw⟩
    | ⟨[], some flaw⟩ => do
      modify fun shell => { shell with line := flaw.line }
      failWithin ("Syntax error: " ++ flaw.message)
    | ⟨[], none⟩ => return ()

/-- Runs the commands for the signals that have come. -/
def answer : Nat → Acting Unit
  | 0 => stop (.ended (.killed 9))
  | fuel + 1 => do
    let shell ← get
    match shell.arrived with
    | [] => return ()
    | signal :: rest => do
      set { shell with arrived := rest }
      runText fuel false "" ((shell.traps.lookup signal).getD "")
      finish shell.status
      answer fuel

/-- Runs a script from its start to its end, with the commands that are set to run then. -/
def runWhole : Nat → String → Acting Unit
  | 0, _ => stop (.ended (.killed 9))
  | fuel + 1, text => do
    let result ← catching (runContents fuel false (Contents.ofText text.toList))
    match result with
    | .error (.ended (.killed signal)) => stop (.ended (.killed signal))
    | _ => do
      match result with
      | .error (.ended (.exited code)) => finish code
      | _ => pure ()
      let shell ← get
      match shell.traps.lookup 0 with
      | none => pure ()
      | some action => do
        set { shell with traps := shell.traps.filter (·.1 != 0) }
        runText fuel false "" action
        finish shell.status

/-- Runs a shell with the words that it is called with. -/
def runShell : Nat → Dialect → String → List String → Acting Unit
  | 0, _, _, _ => stop (.ended (.killed 9))
  | fuel + 1, dialect, name, words => do
    let isOption (word : String) : Bool := 2 ≤ word.length && word.startsWith "-"
    let options := words.takeWhile isOption
    let letters := options.flatMap fun word => word.toList.drop 1
    let enter (shell : Shell) : Shell :=
      { shell with options := (letters.filter fun c => Builtin.optionNames.any (·.2 = c)) }
    match shellText (letters.contains 'c') name (words.dropWhile isOption) with
    | .given text called arguments =>
      inShell (fun shell => enter (shell.called dialect called arguments)) (runWhole fuel text)
    | .file path arguments => do
      match (← get).tree.read ⟨path⟩ with
      | .ok bytes =>
        inShell (fun shell => enter (shell.called dialect path arguments))
          (runWhole fuel (FileQuery.Text.decodeLossy bytes))
      | .error error => do
        writeText 2 (unreadable dialect name path error)
        finish (if dialect = .plain then 2 else 127)
    | .input => do
      let bytes ← readAll
      inShell (fun shell => enter (shell.called dialect name []))
        (runWhole fuel (FileQuery.Text.decodeLossy bytes))

/-- Runs a program with the variables of words before the name of the program. -/
def runWith : Nat → List String → Acting Unit
  | 0, _ => stop (.ended (.killed 9))
  | fuel + 1, words => do
    match words with
    | "-i" :: rest => do
      modify fun shell => { shell with
        bindings := shell.bindings.filter (·.1 = "PATH"), exported := [] }
      runWith fuel rest
    | word :: rest =>
      if word.toList.contains '=' then do
        let (name, value) := Builtin.splitAssignment word
        modify fun shell =>
          let bound := shell.bind name (value.getD "")
          { bound with exported := bound.exported.filter (· != name) ++ [name] }
        runWith fuel rest
      else do
        match Program.find (← get).tree (← get).bindings word with
        | .ok (path, program) =>
          launch fuel program (if word.toList.contains '/' then path.text else word) rest
        | .error .notProgram => runShell fuel .plain word (word :: rest)
        | .error error => do
          writeText 2 ("env: '" ++ word ++ "': " ++ error.words ++ "\n")
          finish (if error = .notFound then 127 else 126)
    | [] => do
      let environment := (← get).environment
      writeText 1 (String.join (environment.map fun (name, value) => name ++ "=" ++ value ++ "\n"))

/-- Runs a program with words. -/
def launch : Nat → Program → String → List String → Acting Unit
  | 0, _, _, _ => stop (.ended (.killed 9))
  | fuel + 1, program, name, words => do
    match program with
    | .shell dialect before => runShell fuel dialect name (before ++ words)
    | .tool "env" before => inShell id (do finish 0; runWith fuel (before ++ words))
    | .tool "which" before => inShell id do
      finish 0
      (before ++ words).forM fun name => do
        let shell ← get
        match Program.find shell.tree shell.environment name with
        | .ok (path, _) => writeText 1 (path.text ++ "\n")
        | .error _ => finish 1
    | .tool tool before =>
      match (Builtin.all.lookup tool).or (Tool.all.lookup tool) with
      | some act => inShell id (do finish 0; act (before ++ words))
      | none => finish 127

/-- Runs what a name leads to. -/
def call : Nat → Bool → String → List String → Callee → Acting Unit
  | 0, _, _, _, _ => stop (.ended (.killed 9))
  | fuel + 1, tested, name, words, callee => do
    match callee with
    | .function body => do
      let outer ← get
      set { outer with arguments := words, hidden := [], depth := outer.depth + 1, loops := 0 }
      let result ← catching (run fuel tested body)
      modify fun shell => shell.restore outer
      match result with
      | .error (.ended ending) => stop (.ended ending)
      | _ => return ()
    | .builtin act => do
      if name != "exit" && name != "return" then finish 0
      act words
    | .running => callRunning fuel tested name words
    | .program path program => do
      let name := if name.toList.contains '/' then path.text else name
      afterProgram (← catching (launch fuel program name words))
    | .text path => do
      afterProgram (← catching (runShell fuel .plain path.text (path.text :: words)))
    | .missing error => reportMissing "" name error

/-- Runs a command of the shell that runs others. -/
def callRunning : Nat → Bool → String → List String → Acting Unit
  | 0, _, _, _ => stop (.ended (.killed 9))
  | fuel + 1, tested, name, words => do
    match name, words with
    | "eval", _ => runText fuel tested "eval: " (String.intercalate " " words)
    | "command", "-v" :: names => do
      finish 0
      names.forM fun name => do
        match described name (calleeOf (← get) true name) with
        | some (_, path) => writeText 1 (path ++ "\n")
        | none => finish 127
    | "command", first :: rest => do
      call fuel tested first rest (calleeOf (← get) false first)
    | "type", names => do
      finish 0
      names.forM fun name => do
        match described name (calleeOf (← get) true name) with
        | some (text, _) => writeText 1 (text ++ "\n")
        | none => do
          writeText 1 (name ++ ": not found\n")
          finish 127
    | "exec", first :: rest => do
      match calleeOf (← get) false first with
      | .missing error => do
        reportMissing "exec: " first error
        exit (← get).status
      | .program _ program => do
        launch fuel program first rest
        exit (← get).status
      | callee => do
        call fuel tested first rest callee
        exit (← get).status
    | ".", path :: _ => do
      match (← get).tree.read ⟨path⟩ with
      | .ok bytes => do
        let text := FileQuery.Text.decodeLossy bytes
        let result ← catching (runText fuel tested (path ++ ": ") text)
        match result with
        | .error .returned | .ok () => return ()
        | .error reason => stop reason
      | .error _ =>
        if path.toList.contains '/' then fail (".: cannot open " ++ path ++ ": No such file")
        else fail (".: " ++ path ++ ": not found")
    | _, _ => finish 0

/-- Runs a simple command after its words were expanded. -/
def runSimple : Nat → Bool → List (String × Word) → List String → List Redirection → Acting Unit
  | 0, _, _, _, _ => stop (.ended (.killed 9))
  | fuel + 1, tested, assignments, texts, redirections => do
    match texts with
    | [] => do
      let act : Acting Unit := do
        let values ← expandAssignments fuel assignments
        finish (← get).taken
        if !values.isEmpty then trace (values.map fun (name, value) => name ++ "=" ++ value)
      withStreams fuel redirections (pure ()) act
    | name :: words => do
      let callee := calleeOf (← get) true name
      let isSpecial := Builtin.special.contains name
      let refused : Acting Unit := if isSpecial then do exit 2 else return ()
      let before ← get
      let act : Acting Unit := do
        let values ← expandAssignments fuel assignments
        trace ((values.map fun (name, value) => name ++ "=" ++ value) ++ name :: words)
        modify fun shell =>
          { shell with exported := shell.exported ++ (values.map (·.1)).filter fun name =>
              !shell.exported.contains name }
        call fuel tested name words callee
        if !isSpecial && !values.isEmpty then
          modify fun shell => values.foldl (fun (inner : Shell) (name, _) =>
            match before.bindings.lookup name with
            | some value => inner.bind name value
            | none => inner.unbind name) { shell with exported := before.exported }
      if name = "exec" && words.isEmpty then do
        if ← redirect fuel redirections then finish 0 else exit 2
      else withStreams fuel redirections refused act

/-- Runs commands with pipes between them. -/
def runPiped : Nat → Bool → List Command → Acting Unit
  | 0, _, _ => stop (.ended (.killed 9))
  | _, _, [] => return ()
  | fuel + 1, tested, [last] => apart (run fuel tested last)
  | fuel + 1, tested, first :: rest => do
    let before ← get
    let (number, opened) := before.openChannel []
    set (opened.connect 1 (.channel number))
    apart (run fuel true first)
    modify fun shell => { shell with ports := before.ports }.connect 0 (.channel number)
    runPiped fuel tested rest
    modify fun shell => { shell with ports := before.ports }

/-- Runs a body as long as a condition holds. The status is that of the body. -/
def runLoop : Nat → Bool → Bool → Command → Command → Nat → Acting Unit
  | 0, _, _, _, _, _ => stop (.ended (.killed 9))
  | fuel + 1, tested, until_, condition, body, status => do
    run fuel true condition
    if ((← get).status = 0) != until_ then do
      afterBody (← catching (run fuel tested body))
      runLoop fuel tested until_ condition body (← get).status
    else finish status

/-- Runs a body for each of some texts. -/
def runEach : Nat → Bool → String → List String → Command → Acting Unit
  | 0, _, _, _, _ => stop (.ended (.killed 9))
  | _, _, _, [], _ => return ()
  | fuel + 1, tested, name, text :: rest, body => do
    assign name text
    afterBody (← catching (run fuel tested body))
    runEach fuel tested name rest body

/-- Whether a text matches one of some patterns. -/
def matchesAny : Nat → List Char → List Word → Acting Bool
  | 0, _, _ => stop (.ended (.killed 9))
  | _, _, [] => return false
  | fuel + 1, text, word :: rest => do
    let pattern := Wildcard.ofLetters (Piece.letters (← expandParts fuel word))
    if Wildcard.matchesAll pattern text then return true else matchesAny fuel text rest

/-- Runs the first branch with a pattern that a text matches. -/
def runBranches : Nat → Bool → List Char → List (List Word × Option Command) → Acting Unit
  | 0, _, _, _ => stop (.ended (.killed 9))
  | _, _, _, [] => finish 0
  | fuel + 1, tested, text, (patterns, body) :: rest => do
    if ← matchesAny fuel text patterns then
      match body with
      | some body => run fuel tested body
      | none => finish 0
    else runBranches fuel tested text rest

/-- Runs a command. Where it is tested, it may fail without ending the script. -/
def run : Nat → Bool → Command → Acting Unit
  | 0, _, _ => stop (.ended (.killed 9))
  | fuel + 1, tested, command => do
    let check : Acting Unit := do
      let shell ← get
      if shell.status != 0 && !tested && shell.hasOption 'e' then exit shell.status
    let inLoop (action : Acting Unit) : Acting Unit := do
      modify fun shell => { shell with loops := shell.loops + 1 }
      let result ← catching action
      modify fun shell => { shell with loops := shell.loops - 1 }
      afterLoop result
    match command with
    | .simple line assignments words redirections => do
      if !(assignments.isEmpty && words.isEmpty && redirections.isEmpty) then do
        modify fun shell => { shell with line := line, taken := 0 }
        let texts ← expandWords fuel words
        runSimple fuel tested assignments texts redirections
        answer fuel
        check
    | .sequence first second => do
      run fuel tested first
      run fuel tested second
    | .both first second => do
      run fuel true first
      if (← get).status = 0 then run fuel tested second
    | .either first second => do
      run fuel true first
      if (← get).status != 0 then run fuel tested second
    | .negated command => do
      run fuel true command
      finish (if (← get).status = 0 then 1 else 0)
    | .piped commands => do
      runPiped fuel tested commands
      answer fuel
      check
    | .choice condition accepted refused => do
      run fuel true condition
      if (← get).status = 0 then run fuel tested accepted
      else
        match refused with
        | some refused => run fuel tested refused
        | none => finish 0
    | .loop until_ condition body => inLoop (runLoop fuel tested until_ condition body 0)
    | .each line name words body => do
      modify fun shell => { shell with line := line }
      let texts ← expandWords fuel words
      finish 0
      inLoop (runEach fuel tested name texts body)
    | .select line word branches => do
      modify fun shell => { shell with line := line }
      let text := Piece.text (← expandParts fuel word)
      runBranches fuel tested text.toList branches
    | .define _ name body => do
      modify fun shell =>
        { shell with functions := (name, body) :: shell.functions.filter (·.1 != name) }
      finish 0
    | .apart command => do
      apart (run fuel tested command)
      answer fuel
      check
    | .behind command => do
      let before ← get
      set (before.connect 0 .nowhere)
      apart (run fuel true command)
      modify fun shell =>
        { shell with ports := before.ports, behind := some shell.status, status := 0 }
    | .redirected line command redirections => do
      modify fun shell => { shell with line := line }
      withStreams fuel redirections (pure ()) (run fuel tested command)
      check

end

/-- The number of steps that a script may take one within the other. -/
def stepLimit : Nat := 100000

/-- What a process leaves: how it ended, what it wrote to its errors, what it left of its input, and
    the file tree. -/
structure ProcessResult where
  ending : Ending
  errors : List UInt8
  input : List UInt8
  tree : FileTree

/-- Runs a program that is found by its name. -/
def runProgram (tree : FileTree) (environment : Environment) (name : String)
    (arguments : List String) (input : List UInt8) : Except FileError ProcessResult :=
  match Program.find tree environment name with
  | .error error => .error error
  | .ok (path, program) =>
    let shell := (Shell.initial tree environment .plain path.text []).setChannel 0 input
    let (result, after) := ((launch stepLimit program path.text arguments).run).run shell
    let ending := match result with
      | .error (.ended ending) => ending
      | .error _ | .ok () => .exited after.status
    .ok ⟨ending, after.channel 2, after.channel 0, after.tree⟩

end FileQuery.Script
