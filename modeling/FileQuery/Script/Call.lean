import FileQuery.Script.Shell

/-!
# Calls of programs

The words that a program is called with are options and operands. What a program reads comes from
the files among its operands, or from its input.
-/

namespace FileQuery.Script

/-- How a program is called. -/
structure Call where
  options : List Char
  /-- The options that have a value. -/
  values : List (Char × String)
  operands : List String
  deriving DecidableEq, Repr

namespace Call

/-- What a program says of a mistaken call. -/
def hint (name message : String) : String :=
  (if message.isEmpty then "" else name ++ ": " ++ message ++ "\n") ++
    "Try '" ++ name ++ " --help' for more information.\n"

/-- The options of a word, without its dash. -/
def readOptions (name : String) (known valued : List Char) :
    List Char → List String → Call → Except String (List String × Call)
  | [], words, call => .ok (words, call)
  | c :: rest, words, call =>
    if valued.contains c then
      match rest, words with
      | _ :: _, words =>
        .ok (words, { call with values := call.values ++ [(c, String.ofList rest)] })
      | [], value :: words => .ok (words, { call with values := call.values ++ [(c, value)] })
      | [], [] =>
        .error (hint name ("option requires an argument -- '" ++ String.ofList [c] ++ "'"))
    else if known.contains c then
      readOptions name known valued rest words { call with options := call.options ++ [c] }
    else .error (hint name ("invalid option -- '" ++ String.ofList [c] ++ "'"))

/-- The options and operands of words. All words after two dashes are operands. -/
def read (name : String) (known valued : List Char) :
    Nat → List String → Call → Except String Call
  | 0, _, call => .ok call
  | _, [], call => .ok call
  | fuel + 1, word :: rest, call =>
    match word.toList with
    | ['-', '-'] => .ok { call with operands := call.operands ++ rest }
    | '-' :: '-' :: _ => .error (hint name ("unrecognized option '" ++ word ++ "'"))
    | '-' :: c :: more =>
      match readOptions name known valued (c :: more) rest call with
      | .error message => .error message
      | .ok (rest, call) => read name known valued fuel rest call
    | _ => read name known valued fuel rest { call with operands := call.operands ++ [word] }

/-- The options and operands of words. -/
def ofWords (name : String) (known valued : List Char) (words : List String) :
    Except String Call :=
  read name known valued words.length words ⟨[], [], []⟩

/-- Whether a program is called with an option. -/
def has (call : Call) (option : Char) : Bool := call.options.contains option

/-- The last value of an option. -/
def value? (call : Call) (option : Char) : Option String :=
  (call.values.reverse.lookup option)

end Call

namespace Acting

/-- The bytes that are read from a path. -/
def readPath (path : String) : Acting (Except FileError (List UInt8)) := do
  match path with
  | "-" | "/dev/stdin" | "/dev/fd/0" | "/proc/self/fd/0" => return .ok (← readAll)
  | "/dev/null" => return .ok []
  | "/dev/zero" => return .ok (List.replicate 65536 0)
  | _ => return (← get).tree.read ⟨path⟩

/-- What is read from files, or from the input if there are none. A file that cannot be read is
    reported, and leaves an exit code. -/
def readFiles (report : String → FileError → String) (code : Nat) :
    List String → Acting (List (String × List UInt8))
  | [] => return []
  | path :: rest => do
    match ← readPath path with
    | .ok bytes => return (path, bytes) :: (← readFiles report code rest)
    | .error error => do
      writeText 2 (report path error)
      let found ← readFiles report code rest
      finish code
      return found

/-- What is read from files, or from the input if there are none. -/
def readInputs (report : String → FileError → String) (code : Nat) (paths : List String) :
    Acting (List (String × List UInt8)) :=
  readFiles report code (if paths.isEmpty then ["-"] else paths)

/-- Ends a program that is called in the wrong way. -/
def reject (code : Nat) (message : String) : Acting Unit := do
  writeText 2 message
  finish code

/-- A path where something is put: in a folder under its own name, or at the path itself. -/
def targetOf (tree : FileTree) (source target : String) : Path :=
  if tree.isFolder ⟨target⟩ then
    (Path.mk target).child (((Path.mk source).fileName?).getD source)
  else ⟨target⟩

end Acting

end FileQuery.Script
