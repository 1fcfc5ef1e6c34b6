import FileQuery.Script.Call
import FileQuery.Script.Condition
import FileQuery.Script.Format
import FileQuery.Script.Ending
import FileQuery.Script.Tool

/-!
# Commands of the shell

The commands that a shell runs itself, since they look at the shell or change it.
-/

namespace FileQuery.Script.Builtin

open Acting

/-! ### Output -/

/-- Writes a text. -/
def echo (words : List String) : Acting Unit := do
  match (← get).dialect with
  | .plain =>
    match words with
    | "-n" :: rest => writeBytes 1 (echoed true false rest)
    | _ => writeBytes 1 (echoed true true words)
  | .extended =>
    let isOption (word : String) : Bool :=
      match word.toList with
      | '-' :: c :: rest => (c :: rest).all fun c => c = 'n' || c = 'e' || c = 'E'
      | _ => false
    let options := (words.takeWhile isOption).flatMap fun word => word.toList.drop 1
    let rest := words.dropWhile isOption
    writeBytes 1 (echoed (options.contains 'e') (!options.contains 'n') rest)

/-- Writes operands in a format. -/
def printf (words : List String) : Acting Unit := do
  let act (format : String) (operands : List String) : Acting Unit := do
    let found := Formatted.all operands.length format.toList operands
    found.complaints.forM fun message => complain ("printf: " ++ message)
    if !found.complaints.isEmpty then finish 1
    match found.flaw with
    | some flaw => refuse ("printf: " ++ flaw)
    | none => pure ()
    writeBytes 1 found.bytes
  match words with
  | "--" :: format :: operands => act format operands
  | [] | ["--"] => refuse "printf: usage: printf format [arg ...]"
  | format :: operands =>
    match format.toList with
    | '-' :: c :: _ => refuse ("printf: Illegal option -" ++ String.ofList [c])
    | _ => act format operands

/-- Decides a condition. -/
def test (name : String) (words : List String) : Acting Unit := do
  let shell ← get
  let words := if shell.dialect = .extended then
      words.map fun word => if word = "==" then "=" else word
    else words
  match Condition.value shell.tree words with
  | .ok value => finish (if value then 0 else 1)
  | .error message => refuse (name ++ ": " ++ message)

/-- Decides a condition between brackets. -/
def bracket (words : List String) : Acting Unit :=
  if words.getLast? = some "]" then test "[" words.dropLast else refuse "[: missing ]"

/-! ### Folders -/

/-- Goes to another folder. -/
def cd (words : List String) : Acting Unit := do
  let shell ← get
  let words := words.filter fun word => word != "-P" && word != "-L" && word != "--"
  let target := match words with
    | [] => (shell.bindings.lookup "HOME").getD ""
    | ["-"] => (shell.bindings.lookup "OLDPWD").getD ""
    | word :: _ => word
  match shell.tree.locate .follow ⟨target⟩ with
  | .ok (place, .folder ..) => do
    let before := shell.absolute "."
    let moved := { shell with tree := { shell.tree with working := place } }
    set ((moved.bind "OLDPWD" before.text).bind "PWD" (Path.ofPlace place).text)
    if words = ["-"] then writeText 1 (target ++ "\n")
  | _ => refuse ("cd: can't cd to " ++ target)

/-- Writes the path of the folder. -/
def pwd (_ : List String) : Acting Unit := do
  writeText 1 ((Path.ofPlace (← get).tree.working).text ++ "\n")

/-! ### Variables -/

/-- The name and the value of a word with an equals sign. -/
def splitAssignment (word : String) : String × Option String :=
  let name := word.toList.takeWhile (· != '=')
  match word.toList.drop name.length with
  | [] => (word, none)
  | _ :: value => (String.ofList name, some (String.ofList value))

/-- Sets the variable of a word, if the word has a value, and does something with its name. -/
def declare (command : String) (mark : String → Shell → Shell) (words : List String) :
    Acting Unit :=
  words.forM fun word => do
    let (name, value) := splitAssignment word
    if !isName name.toList then fail (command ++ ": " ++ name ++ ": bad variable name")
    else do
      match value with
      | some value => assign name value
      | none => pure ()
      modify (mark name)

/-- Gives variables to programs. -/
def «export» (words : List String) : Acting Unit :=
  declare "export" (fun name shell =>
    { shell with exported := shell.exported.filter (· != name) ++ [name] })
    (words.filter (· != "-p"))

/-- Lets variables be set no more. -/
def readonly (words : List String) : Acting Unit :=
  declare "readonly" (fun name shell => { shell with constants := name :: shell.constants })
    (words.filter (· != "-p"))

/-- Gives variables back their values when the function is left. -/
def «local» (words : List String) : Acting Unit := do
  if (← get).depth = 0 then fail "local: not in a function"
  else
    words.forM fun word => do
      let (name, value) := splitAssignment word
      modify fun shell =>
        { shell with hidden := (name, shell.bindings.lookup name) :: shell.hidden }
      match value with
      | some value => assign name value
      | none => pure ()

/-- Forgets variables or functions. -/
def unset (words : List String) : Acting Unit := do
  let functions := words.contains "-f"
  (words.filter fun word => word != "-f" && word != "-v").forM fun name => do
    let shell ← get
    if functions then set { shell with functions := shell.functions.filter (·.1 != name) }
    else if shell.constants.contains name then fail ("unset: " ++ name ++ ": is read only")
    else if !isName name.toList then fail ("unset: " ++ name ++ ": bad variable name")
    else set (shell.unbind name)

/-- A number among the operands of a command. -/
def number (command word : String) : Acting Nat := do
  match word.toNat? with
  | some value => if word.all Char.isDigit then return value else illegal
  | none => illegal
where
  /-- The report of an operand that is no number. -/
  illegal : Acting Nat := fail (command ++ ": Illegal number: " ++ word)

/-- Leaves out arguments. -/
def shift (words : List String) : Acting Unit := do
  let count ← match words with
    | [] => pure 1
    | word :: _ => number "shift" word
  let shell ← get
  if shell.arguments.length < count then
    match shell.dialect with
    | .plain => fail "shift: can't shift that many"
    | .extended => finish 1
  else set { shell with arguments := shell.arguments.drop count }

/-- The options of the shell with their names. -/
def optionNames : List (String × Char) := [
  ("errexit", 'e'), ("noglob", 'f'), ("nounset", 'u'), ("xtrace", 'x'), ("verbose", 'v'),
  ("noexec", 'n'), ("noclobber", 'C'), ("allexport", 'a'), ("notify", 'b'), ("monitor", 'm'),
  ("ignoreeof", 'I'), ("interactive", 'i'), ("vi", 'V'), ("emacs", 'E'), ("stdin", 's'),
  ("nolog", 'o'), ("debug", 'd')]

/-- A shell with an option, or without it. -/
def setOption (option : Char) (on : Bool) (shell : Shell) : Shell :=
  let others := shell.options.filter (· != option)
  { shell with options := if on then others ++ [option] else others }

/-- Sets options of a word, of which one may be named by the word after it. -/
def setOptions (command : String) (on : Bool) : List Char → List String → Acting (List String)
  | [], words => return words
  | 'o' :: rest, words =>
    match words with
    | [] => return words
    | name :: words => do
      match optionNames.lookup name, (← get).dialect with
      | some option, _ => do
        modify (setOption option on)
        setOptions command on rest words
      | none, .extended => setOptions command on rest words
      | none, .plain =>
        fail (command ++ "Illegal option " ++ (if on then "-" else "+") ++ "o " ++ name)
  | option :: rest, words => do
    if optionNames.any (·.2 = option) then do
      modify (setOption option on)
      setOptions command on rest words
    else fail (command ++ "Illegal option -" ++ String.ofList [option])

/-- Sets options and arguments. -/
def setAll (command : String) : Nat → List String → Acting (Option (List String))
  | 0, _ => return none
  | _, [] => return none
  | fuel + 1, word :: rest => do
    match word.toList with
    | ['-', '-'] => return some rest
    | '-' :: option :: options => do
      setAll command fuel (← setOptions command true (option :: options) rest)
    | '+' :: option :: options => do
      setAll command fuel (← setOptions command false (option :: options) rest)
    | _ => return some (word :: rest)

/-- Sets options and arguments. -/
def «set» (words : List String) : Acting Unit := do
  match ← setAll "set: " words.length words with
  | some arguments => modify fun shell => { shell with arguments := arguments }
  | none => pure ()

/-! ### Input -/

/-- The letters of the line that is read next, whether it has an end, and what is after it. A
    backslash takes the meaning from the next character, unless it has none itself. -/
def inputLine (raw : Bool) : Nat → List Char → List Letter × Bool × List Char
  | 0, text => ([], false, text)
  | _, [] => ([], false, [])
  | fuel + 1, c :: rest =>
    if c = '\n' then ([], true, rest)
    else if c = '\\' && !raw then
      match rest with
      | [] => ([], false, [])
      | d :: rest =>
        let (letters, ended, after) := inputLine raw fuel rest
        if d = '\n' then (letters, ended, after) else (⟨d, true⟩ :: letters, ended, after)
    else
      let (letters, ended, after) := inputLine raw fuel rest
      (⟨c, false⟩ :: letters, ended, after)

/-- Whether a letter separates fields. -/
def separates (separators : List Char) (letter : Letter) : Bool :=
  !letter.quoted && separators.contains letter.char

/-- Whether a letter is a blank that separates fields. -/
def isBlankSeparator (separators : List Char) (letter : Letter) : Bool :=
  separates separators letter && [' ', '\t', '\n'].contains letter.char

/-- Letters without the blanks at their end. -/
def trimmedEnd (separators : List Char) (letters : List Letter) : List Letter :=
  (letters.reverse.dropWhile (isBlankSeparator separators)).reverse

/-- The values of variables that a line is split into. The last one has all that is left. -/
def readFields (separators : List Char) : List String → List Letter → List (String × String)
  | [], _ => []
  | [last], letters =>
    let rest := trimmedEnd separators (letters.dropWhile (isBlankSeparator separators))
    let single := rest.takeWhile fun letter => !separates separators letter
    let whole := if rest.length = single.length + 1 then single else rest
    [(last, Letter.text whole)]
  | name :: names, letters =>
    let letters := letters.dropWhile (isBlankSeparator separators)
    let field := letters.takeWhile fun letter => !separates separators letter
    let rest := (letters.drop field.length).dropWhile (isBlankSeparator separators)
    let rest := match rest, letters.drop field.length with
      | next :: after, gap :: _ =>
        if separates separators gap && !isBlankSeparator separators gap then
          (letters.drop (field.length + 1))
        else if separates separators next && !isBlankSeparator separators next then after
        else rest
      | _, _ => rest
    (name, Letter.text field) :: readFields separators names rest

/-- The options of `read`, and those of them that have a value. -/
def readOptions : Dialect → List Char × List Char
  | .plain => (['r'], ['p'])
  | .extended => (['r', 's'], ['p', 't', 'n', 'd', 'a'])

/-- The first option of a word that is not among some. -/
def strayOption (known : List Char) (words : List String) : String :=
  let letters := (words.filter (·.startsWith "-")).flatMap fun word => word.toList.drop 1
  String.ofList ((letters.find? fun c => !known.contains c).toList)

/-- Reads a line into variables. -/
def read (words : List String) : Acting Unit := do
  let shell ← get
  let (known, valued) := readOptions shell.dialect
  match Call.ofWords "read" known valued words with
  | .error _ => refuse ("read: Illegal option -" ++ strayOption (known ++ valued) words)
  | .ok call => do
    let names := if call.operands.isEmpty && shell.dialect = .extended then ["REPLY"]
      else call.operands
    if names.isEmpty then refuse "read: arg count"
    else
      let text := (FileQuery.Text.decodeLossy (shell.unread 0)).toList
      let (letters, ended, rest) := inputLine (call.has 'r') (text.length + 1) text
      Acting.finish (if ended then 0 else 1)
      modify fun shell => shell.leave 0 (FileQuery.Text.encode (String.ofList rest))
      (readFields shell.separators names letters).forM fun (name, value) => assign name value

/-! ### Signals -/

/-- Sends a signal to the script itself. Commands may be set to run for it. -/
def receive (signal : Nat) : Acting Unit := do
  let shell ← get
  match (if Signal.isAnswered signal then shell.traps.lookup signal else none) with
  | some "" => pure ()
  | some _ => modify fun shell => { shell with arrived := shell.arrived ++ [signal] }
  | none =>
    if Signal.isIgnored signal then pure () else stop (.ended (.killed signal))

/-- Sends a signal to processes. Only the script itself is known. -/
def send (signal : Nat) (targets : List String) : Acting Unit := do
  if targets.isEmpty then usage
  else
    targets.forM fun target => do
      if target = Shell.processNumber then receive signal
      else if target.toList.head? = some '%' then refuse ("kill: No such job: " ++ target)
      else
        match target.toInt? with
        | some _ => do
          complain "kill: No such process\n"
          finish 1
        | none => refuse ("kill: Illegal number: " ++ target)
where
  /-- The report of a call that is not understood. -/
  usage : Acting Unit :=
    refuse ("kill: Usage: kill [-s sigspec | -signum | -sigspec] [pid | job]... or\n" ++
      "kill -l [exitstatus]")

/-- Writes the names of signals. -/
def listSignals : List String → Acting Unit
  | [] => writeText 1 (String.intercalate "\n" ("0" :: Signal.names) ++ "\n")
  | words => words.forM fun word =>
    match word.toNat? with
    | some number => writeText 1 (((Signal.name? (number % 128)).getD (toString number)) ++ "\n")
    | none => refuse ("kill: Illegal number: " ++ word)

/-- Sends a signal to processes, or writes the names of signals. -/
def kill (words : List String) : Acting Unit := do
  let wrong (name : String) : Acting Unit :=
    refuse ("kill: invalid signal number or name: " ++ name)
  match words with
  | "-l" :: rest => listSignals rest
  | "--" :: rest => send 15 rest
  | ["-s"] => refuse "kill: No arg for -s option"
  | "-s" :: name :: rest =>
    match Signal.ofText? name with
    | some signal => send signal (rest.dropWhile (· = "--"))
    | none => wrong name
  | word :: rest =>
    match word.toList with
    | '-' :: c :: more =>
      match Signal.ofText? (String.ofList (c :: more)) with
      | some signal => send signal rest
      | none =>
        if (← get).dialect = .extended then
          match Signal.ofText? (String.ofList ((c :: more).drop 3)) with
          | some signal => send signal rest
          | none => complain ("kill: " ++ String.ofList (c :: more) ++
              ": invalid signal specification") *> finish 1
        else if c = 's' then wrong (String.ofList more)
        else refuse ("kill: Illegal option -" ++ String.ofList [c])
    | _ => send 15 words
  | [] => send 15 []

/-- Sets the commands that run for signals. -/
def trap (words : List String) : Acting Unit := do
  let signal? (name : String) : Option Nat :=
    if name = "EXIT" then some 0 else Signal.ofText? name
  let each (names : List String) (change : Nat → List (Nat × String) → List (Nat × String)) :
      Acting Unit :=
    names.forM fun name => do
      match signal? name with
      | some signal => modify fun shell => { shell with traps := change signal shell.traps }
      | none => do
        writeText 2 ("trap: " ++ name ++ ": bad trap\n")
        finish 1
  match words.dropWhile (· = "--") with
  | [] => pure ()
  | [name] => each [name] fun signal traps => traps.filter (·.1 != signal)
  | "-" :: names => each names fun signal traps => traps.filter (·.1 != signal)
  | action :: names => each names fun signal traps =>
    (signal, action) :: traps.filter (·.1 != signal)

/-! ### Leaving -/

/-- Leaves the script. -/
def leave (words : List String) : Acting Unit := do
  match words with
  | [] => exit (← get).status
  | word :: _ => exit ((← number "exit" word) % 256)

/-- Leaves a function, or the script outside of one. -/
def «return» (words : List String) : Acting Unit := do
  match words with
  | [] => pure ()
  | word :: _ => finish ((← number "return" word) % 256)
  stop .returned

/-- Leaves loops, or goes on with one, if there are any. -/
def jump (command : String) (reason : Nat → Stop) (words : List String) : Acting Unit := do
  let count ← match words with
    | [] => pure 1
    | word :: _ => number command word
  if count = 0 then fail (command ++ ": Illegal number: 0")
  else
    let loops := (← get).loops
    if loops = 0 then pure () else stop (reason (min count loops - 1))

/-- Gives the exit code of the command that was not waited for. -/
def wait (words : List String) : Acting Unit := do
  match words with
  | [] => pure ()
  | _ => finish ((← get).behind.getD 127)

/-! ### All commands -/

/-- The commands of the shell that run nothing else. -/
def all : List (String × (List String → Acting Unit)) := [
  (":", fun _ => pure ()), ("true", fun _ => pure ()), ("false", fun _ => finish 1),
  ("echo", echo), ("printf", printf), ("test", test "test"), ("[", bracket), ("cd", cd),
  ("pwd", pwd), ("export", «export»), ("readonly", readonly), ("local", «local»), ("unset", unset),
  ("shift", shift), ("set", «set»), ("read", read), ("kill", kill), ("trap", trap), ("exit", leave),
  ("return", «return»), ("break", jump "break" .broken), ("continue", jump "continue" .continued),
  ("wait", wait), ("umask", fun words => if words.isEmpty then writeText 1 "0022\n" else pure ()),
  ("ulimit", fun _ => pure ()), ("jobs", fun _ => pure ()), ("times", fun _ => pure ()),
  ("alias", fun _ => pure ()), ("unalias", fun _ => pure ()), ("hash", fun _ => pure ())]

/-- The commands that run others. -/
def running : List String := [".", "eval", "exec", "command", "type"]

/-- The commands that end the script at an error. -/
def special : List String :=
  [".", ":", "break", "continue", "eval", "exec", "exit", "export", "readonly", "return", "set",
    "shift", "times", "trap", "unset"]

/-- Whether a name is that of a command of the shell. -/
def isName (name : String) : Bool := all.any (·.1 = name) || running.contains name

end FileQuery.Script.Builtin
