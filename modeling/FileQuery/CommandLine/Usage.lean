/-!
# Flags and usage

The flags of the command line, and the texts that tell how they are used.
-/

/-!
## Flags

The flags of the command line. Each has a long name, some have a letter, and some take a value.
-/

namespace FileQuery

/-- A flag of the command line. -/
inductive Flag
  | directory
  | queries
  | watch
  | once
  | config
  | reconfigure
  | json
  | ast
  | tokens
  | verbose
  | help
  | version
  deriving DecidableEq, Repr

namespace Flag

/-- All flags, in the order in which they are listed. -/
def all : List Flag :=
  [directory, queries, watch, once, config, reconfigure, json, ast, tokens, verbose, help, version]

/-- The name of a flag, after two hyphens. -/
def name : Flag → String
  | directory => "directory"
  | queries => "queries"
  | watch => "watch"
  | once => "once"
  | config => "config"
  | reconfigure => "reconfigure"
  | json => "json"
  | ast => "ast"
  | tokens => "tokens"
  | verbose => "verbose"
  | help => "help"
  | version => "version"

/-- The letter of a flag, after one hyphen. -/
def letter? : Flag → Option Char
  | directory => some 'd'
  | queries => some 'q'
  | watch => some 'w'
  | config => some 'c'
  | verbose => some 'v'
  | help => some 'h'
  | version => some 'V'
  | once | reconfigure | json | ast | tokens => none

/-- Whether a flag takes a value. -/
def takesValue : Flag → Bool
  | directory | queries | config => true
  | _ => false

/-- Whether a flag asks for a run of the program, and not for a text about it. -/
def asksForRun : Flag → Bool
  | help | version => false
  | _ => true

/-- What a flag is for. -/
def purpose : Flag → String
  | directory => "Directory the queries run against"
  | queries => "File holding the queries"
  | watch => "Re-run the queries whenever the directory changes"
  | once => "Run once even if the config enables watching"
  | config => "Config file (default: ~/.sortql)"
  | reconfigure => "Ask for every setting again and rewrite the config file"
  | json => "Print the run report as JSON"
  | ast => "Print the parsed queries as JSON and exit"
  | tokens => "Print the token stream and exit"
  | verbose => "Enable debug logging"
  | help => "Print help"
  | version => "Print version"

/-- A flag as it is written, with a word for its value. -/
def written (flag : Flag) : String :=
  "--" ++ flag.name ++
    (if flag.takesValue then " <" ++ String.ofList (flag.name.toList.map Char.toUpper) ++ ">"
    else "")

/-- The flag with a name. -/
def ofName? (name : String) : Option Flag := all.find? (·.name == name)

/-- The flag with a letter. -/
def ofLetter? (letter : Char) : Option Flag := all.find? (·.letter? == some letter)

/-- No two flags have the same name. -/
theorem ofName?_name (flag : Flag) : ofName? flag.name = some flag := by
  cases flag <;> rfl

end Flag

end FileQuery

/-!
## Usage

The texts that explain the command line, and why a command line cannot be understood.
-/

namespace FileQuery

/-- The name of the program. -/
def programName : String := "sortql"

/-- The version of the program. -/
def programVersion : String := "0.1.0"

/-- Why a command line cannot be understood. The usage that is shown with some of the errors names
    flags that were understood. -/
inductive UsageError
  /-- An argument that is neither a flag nor the value of one. -/
  | unexpected (argument : String) (similar : Option Flag) (used : List Flag)
  | missingValue (flag : Flag)
  /-- A value of a flag that takes none, with whether other flags were understood before. -/
  | needlessValue (flag : Flag) (value : String) (others : Bool)
  | repeated (flag : Flag)
  | conflict (flag other : Flag) (used : List Flag)
  deriving DecidableEq, Repr

namespace Usage

/-- How the program is called, with some words after its name. -/
def lineWith (words : List String) : String :=
  "Usage: " ++ programName ++ String.join (words.map (" " ++ ·))

/-- How the program is called, with some flags or any. -/
def line (used : List Flag) : String :=
  lineWith (if used.isEmpty then ["[OPTIONS]"] else used.map Flag.written)

/-- The choice of a flag that asks for a run of the program. -/
def choice : String :=
  "<" ++ String.intercalate "|" ((Flag.all.filter Flag.asksForRun).map Flag.written) ++ ">"

/-- How the program is called, with a flag and, if there are others, the choice of them. -/
def lineAmong (flag : Flag) (others : Bool) : String :=
  if others then lineWith ((if flag.asksForRun then [] else [flag.written]) ++ [choice])
  else line [flag]

/-- The letter and the name of a flag in the list of flags. -/
def entry (flag : Flag) : String :=
  match flag.letter? with
  | some letter => "  -" ++ String.ofList [letter] ++ ", " ++ flag.written
  | none => "      " ++ flag.written

/-- The number of characters before the purpose of a flag. -/
def entryWidth : Nat := ((Flag.all.map fun flag => (entry flag).length).foldl max 0) + 2

/-- A flag in the list of flags. -/
def listed (flag : Flag) : String :=
  let start := entry flag
  start ++ String.ofList (List.replicate (entryWidth - start.length) ' ') ++ flag.purpose

/-- The explanation of the command line. -/
def help : List String :=
  ["Sort files with SQL-like queries", "", line [], "", "Options:"] ++ Flag.all.map listed

/-- The name and the version of the program. -/
def version : String := programName ++ " " ++ programVersion

end Usage

namespace UsageError

/-- What is wrong. -/
def reason : UsageError → String
  | unexpected argument _ _ => "unexpected argument '" ++ argument ++ "' found"
  | missingValue flag =>
    "a value is required for '" ++ flag.written ++ "' but none was supplied"
  | needlessValue flag value _ =>
    "unexpected value '" ++ value ++ "' for '" ++ flag.written ++ "' found; no more were expected"
  | repeated flag => "the argument '" ++ flag.written ++ "' cannot be used multiple times"
  | conflict flag other _ =>
    "the argument '" ++ flag.written ++ "' cannot be used with '" ++ other.written ++ "'"

/-- What might have been meant, and how the program is called. -/
def advice : UsageError → List String
  | unexpected _ similar used =>
    (match similar with
      | some flag => ["  tip: a similar argument exists: '--" ++ flag.name ++ "'"]
      | none => []) ++ [Usage.line used]
  | missingValue _ => []
  | needlessValue flag _ others => [Usage.lineAmong flag others]
  | repeated _ => [Usage.line []]
  | conflict _ _ used => [Usage.line used]

/-- The description of an error. -/
def message (error : UsageError) : String :=
  String.intercalate "\n\n" (["error: " ++ error.reason] ++ error.advice ++
    ["For more information, try '--help'."])

end UsageError

end FileQuery
