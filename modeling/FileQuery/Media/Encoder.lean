import FileQuery.Media.Picture
import FileQuery.Script.Run

/-!
# The encoder

Sound and video are converted by a program that is called with the input and the output. Where the
program fails, the report has the end of what it wrote to its errors. The program may read what is
left of the input of the session, which is a file among the devices.
-/

namespace FileQuery.Encoder

/-- The name of the program, unless a variable has another one. -/
def programName (environment : Environment) : String :=
  (environment.get? "SORTQL_FFMPEG").getD "ffmpeg"

/-- The arguments of the program. -/
def arguments (input output : Path) : List String :=
  ["-y", "-loglevel", "error", "-i", input.text, output.text]

/-- The number of characters at the end of a text that come after the cut. The character before
    them is kept as well. -/
def tailLength : Nat := 400

/-- The end of a text, after a cut between characters. -/
def tail (text : List Char) : List Char := text.drop (text.length - (tailLength + 1))

/-- What is reported of the bytes that a program wrote to its errors. -/
def reported (errors : List UInt8) : String :=
  String.ofList (tail (Text.trim (Text.decodeLossy errors).toList))

/-- The error of a program that failed. -/
def failure (name : String) (ending : Script.Ending) (errors : List UInt8) : ConversionError :=
  .failed (name ++ " exited with " ++ ending.text ++ ": " ++ reported errors)

/-- The path of what is left of the input of the session. -/
def standardInput : Path := ⟨"/dev/stdin"⟩

/-- The bytes that are left of the input of the session. -/
def unread (tree : FileTree) : List UInt8 := (tree.read standardInput).toOption.getD []

/-- A tree in which other bytes are left of the input of the session, if it has one. -/
def leave (tree : FileTree) (bytes : List UInt8) : FileTree :=
  if tree.isFile standardInput then (tree.write standardInput bytes).toOption.getD tree else tree

/-- A folder with a change to what one of its names stands for. Its stamps stay. -/
def atEntry (name : String) (change : Option Node → Option Node) : Node → Node
  | .folder stamps entries =>
    match change (entries.lookup name) with
    | some node => .folder stamps (Node.put name node entries)
    | none => .folder stamps (Node.drop name entries)
  | other => other

/-- A tree with the input of a session, unless what should be the folder of the devices is none. -/
def attach (bytes : List UInt8) (tree : FileTree) : FileTree :=
  let devices := fun found => some (match found with
    | none => Node.folder (.ofInstant tree.now) [("stdin", .file (.ofInstant tree.now) false bytes)]
    | some node => atEntry "stdin" (fun _ => some (.file (.ofInstant tree.now) false bytes)) node)
  { tree with root := atEntry "dev" devices tree.root }

/-- A tree without the input of a session, given the tree before it had one. -/
def detach (before tree : FileTree) : FileTree :=
  let devices := fun found => match before.get? ["dev"] with
    | none => none
    | some node => found.map (atEntry "stdin" fun _ => node.get? ["stdin"])
  { tree with root := atEntry "dev" devices tree.root }

/-- Converts a file by the program. -/
def encode (environment : Environment) (input output : Path) : Changes ConversionError Unit :=
  fun tree =>
    let name := programName environment
    match Script.runProgram tree environment name (arguments input output) (unread tree) with
    | .error error => (.error (.file error), tree)
    | .ok result =>
      let outcome := if result.ending.isSuccess then .ok ()
        else .error (failure name result.ending result.errors)
      (outcome, leave result.tree result.input)

/-- The converter for all kinds of media. -/
def converter (environment : Environment) : Converter := fun input output kind =>
  match kind with
  | .image => PictureFormat.convert input output
  | .audio | .video => encode environment input output

end FileQuery.Encoder
