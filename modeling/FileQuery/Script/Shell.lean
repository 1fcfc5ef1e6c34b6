import FileQuery.FileTree.Change
import FileQuery.Script.Arithmetic
import FileQuery.Script.Ending
import FileQuery.Script.Field
import FileQuery.Script.Syntax

/-!
# Shells

What a script runs in: a file tree, the streams of its commands, variables and functions. A stream
is the end of a channel, or of a file that is written. What is written to a channel stays there
until it is read.

Commands act on a shell. An action may stop what it is a part of: a loop, a function or the whole
script.
-/

namespace FileQuery.Script

/-- Where a stream comes from or goes to. -/
inductive Port
  | channel (number : Nat)
  | file (path : Path)
  | nowhere
  deriving DecidableEq, Repr

/-- The kinds of shells. -/
inductive Dialect
  | plain
  /-- A shell with more commands, which words its errors in another way. -/
  | extended
  deriving DecidableEq, Repr

/-- What a script runs in. -/
structure Shell where
  tree : FileTree
  /-- The bytes in the channels. -/
  channels : List (List UInt8)
  ports : List (Stream × Port)
  dialect : Dialect
  /-- The script as it was called. -/
  name : String
  arguments : List String
  bindings : List (String × String)
  /-- The variables that programs are called with. -/
  exported : List String
  /-- The variables that cannot be set. -/
  constants : List String
  functions : List (String × Command)
  /-- The number of functions that run. -/
  depth : Nat
  /-- The number of loops that run. -/
  loops : Nat
  /-- What the variables of a function that are its own held before. -/
  hidden : List (String × Option String)
  options : List Char
  /-- The commands that run when a signal comes, and at the end. -/
  traps : List (Nat × String)
  /-- The signals that have come and that commands run for. -/
  arrived : List Nat
  /-- The exit code of the last command. -/
  status : Nat
  /-- The exit code of the last command that was not waited for. -/
  behind : Option Nat
  /-- The exit code of the last commands that a word took the output of. -/
  taken : Nat
  /-- The line of the command. -/
  line : Nat
  /-- The command that runs a text, if the commands are not those of the script itself. -/
  source : String

/-- Why commands stop. -/
inductive Stop
  | ended (ending : Ending)
  /-- A loop is left, after some loops within it. -/
  | broken (loops : Nat)
  /-- A loop goes on, after some loops within it are left. -/
  | continued (loops : Nat)
  /-- A function is left. -/
  | returned
  deriving DecidableEq, Repr

/-- What acts on a shell. -/
abbrev Acting := ExceptT Stop (StateM Shell)

namespace Shell

/-- The number by which a script knows itself. -/
def processNumber : String := "1000"

/-- Whether an option is set. -/
def hasOption (shell : Shell) (option : Char) : Bool := shell.options.contains option

/-- The text that a parameter stands for, if it is set. -/
def parameter? (shell : Shell) (name : String) : Option String :=
  match name with
  | "#" => some (toString shell.arguments.length)
  | "?" => some (toString shell.status)
  | "$" => some processNumber
  | "!" => shell.behind.map fun _ => "1001"
  | "-" => some (String.ofList shell.options)
  | "*" | "@" =>
    if shell.arguments.isEmpty then none else some (String.intercalate " " shell.arguments)
  | _ =>
    match name.toNat? with
    | some 0 => some shell.name
    | some (place + 1) => shell.arguments[place]?
    | none => shell.bindings.lookup name

/-- The characters that separate fields. -/
def separators (shell : Shell) : List Char :=
  match shell.bindings.lookup "IFS" with
  | some text => text.toList
  | none => [' ', '\t', '\n']

/-- The variables that programs are called with. -/
def environment (shell : Shell) : List (String × String) :=
  shell.exported.filterMap fun name => (shell.bindings.lookup name).map fun value => (name, value)

/-- A shell with a variable. -/
def bind (shell : Shell) (name value : String) : Shell :=
  { shell with
    bindings := (name, value) :: shell.bindings.filter (·.1 != name)
    exported := if shell.hasOption 'a' && !shell.exported.contains name
      then shell.exported ++ [name] else shell.exported }

/-- A shell without a variable. -/
def unbind (shell : Shell) (name : String) : Shell :=
  { shell with
    bindings := shell.bindings.filter (·.1 != name)
    exported := shell.exported.filter (· != name) }

/-- Where a stream goes. -/
def port (shell : Shell) (stream : Stream) : Option Port := shell.ports.lookup stream

/-- A shell with a stream that goes elsewhere. -/
def connect (shell : Shell) (stream : Stream) (port : Port) : Shell :=
  { shell with ports := (stream, port) :: shell.ports.filter (·.1 != stream) }

/-- A shell with one more channel, and the number of the channel. -/
def openChannel (shell : Shell) (bytes : List UInt8) : Nat × Shell :=
  (shell.channels.length, { shell with channels := shell.channels ++ [bytes] })

/-- The bytes in a channel. -/
def channel (shell : Shell) (number : Nat) : List UInt8 := shell.channels.getD number []

/-- A shell with other bytes in a channel. -/
def setChannel (shell : Shell) (number : Nat) (bytes : List UInt8) : Shell :=
  { shell with channels := shell.channels.set number bytes }

/-- A shell after bytes were written to a file. -/
def appendFile (shell : Shell) (path : Path) (bytes : List UInt8) : Shell :=
  match shell.tree.read path with
  | .error _ => shell
  | .ok before =>
    match shell.tree.write path (before ++ bytes) with
    | .error _ => shell
    | .ok changed => { shell with tree := changed }

/-- A shell after bytes were written to a stream. -/
def write (shell : Shell) (stream : Stream) (bytes : List UInt8) : Shell :=
  match shell.port stream with
  | some (.channel number) => shell.setChannel number (shell.channel number ++ bytes)
  | some (.file path) => shell.appendFile path bytes
  | some .nowhere | none => shell

/-- What is left in the channel that a stream reads. -/
def unread (shell : Shell) (stream : Stream) : List UInt8 :=
  match shell.port stream with
  | some (.channel number) => shell.channel number
  | some (.file _) | some .nowhere | none => []

/-- A shell in which a stream has other bytes left to read. -/
def leave (shell : Shell) (stream : Stream) (bytes : List UInt8) : Shell :=
  match shell.port stream with
  | some (.channel number) => shell.setChannel number bytes
  | some (.file _) | some .nowhere | none => shell

/-- A shell after commands that ran on their own: what they wrote stays, and what they set does
    not. -/
def after (shell inner : Shell) : Shell :=
  { shell with
    tree := { inner.tree with working := shell.tree.working }
    channels := inner.channels }

/-- The path of the file in the folder of a shell. -/
def absolute (shell : Shell) (path : String) : Path :=
  Path.absolute (.ofPlace shell.tree.working) ⟨path⟩

/-- A report of a shell about a line. -/
def complaint (shell : Shell) (message : String) : String :=
  let place := match shell.dialect with
    | .plain => toString shell.line
    | .extended => "line " ++ toString shell.line
  shell.name ++ ": " ++ place ++ ": " ++ message ++ "\n"

end Shell

namespace Acting

/-- Stops what runs. -/
def stop {α : Type} (reason : Stop) : Acting α := throw reason

/-- Leaves the script. -/
def exit {α : Type} (code : Nat) : Acting α := stop (.ended (.exited code))

/-- Sets the exit code of a command. -/
def finish (code : Nat) : Acting Unit := modify fun shell => { shell with status := code }

/-- Writes bytes to a stream. -/
def writeBytes (stream : Stream) (bytes : List UInt8) : Acting Unit :=
  modify fun shell => shell.write stream bytes

/-- Writes a text to a stream. -/
def writeText (stream : Stream) (text : String) : Acting Unit :=
  writeBytes stream (FileQuery.Text.encode text)

/-- Reports something about a line. -/
def complain (message : String) : Acting Unit :=
  do writeText 2 ((← get).complaint message)

/-- Reports something about a line of a text that a command runs. -/
def complainWithin (message : String) : Acting Unit :=
  do complain ((← get).source ++ message)

/-- Ends a command that reports an error. -/
def refuse (message : String) : Acting Unit := do
  complain message
  finish 2

/-- Ends a script at an error. -/
def fail {α : Type} (message : String) : Acting α := do
  complain message
  exit 2

/-- Ends a script at an error that a command finds in a text that it runs. -/
def failWithin {α : Type} (message : String) : Acting α := do
  complainWithin message
  exit 2

/-- All that is left of the input. -/
def readAll : Acting (List UInt8) := do
  let shell ← get
  set (shell.leave 0 [])
  return shell.unread 0

/-- Sets a variable, unless it cannot be set. -/
def assign (name value : String) : Acting Unit := do
  let shell ← get
  if shell.constants.contains name then fail (name ++ ": is read only")
  else set (shell.bind name value)

/-- Changes the file tree, and reports the error if it cannot be changed. -/
def change (complaint : FileError → String) (result : FileTree → Except FileError FileTree) :
    Acting Unit := do
  let shell ← get
  match result shell.tree with
  | .ok changed => set { shell with tree := changed }
  | .error error => do
    writeText 2 (complaint error)
    finish 1

/-- The result of an action that may stop. -/
def catching {α : Type} (action : Acting α) : Acting (Except Stop α) := fun shell =>
  let (result, shell) := (action.run).run shell
  (.ok result, shell)

/-- Runs an action on its own. What kills it kills the script, and all else only ends it. -/
def apart (action : Acting Unit) : Acting Unit := fun shell =>
  let (result, inner) := (action.run).run { shell with traps := [] }
  let outer := shell.after inner
  match result with
  | .error (.ended (.killed signal)) => (.error (.ended (.killed signal)), outer)
  | .error (.ended (.exited code)) => (.ok (), { outer with status := code })
  | .error _ | .ok () => (.ok (), { outer with status := inner.status })

end Acting

end FileQuery.Script
