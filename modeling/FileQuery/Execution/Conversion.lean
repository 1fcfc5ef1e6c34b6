import FileQuery.Execution.Report
import FileQuery.Plan

/-!
# Converting

Matches are converted by a converter, each into a file next to it. A failed conversion is a failed
match and changes nothing for the others.
-/

namespace FileQuery

/-- Why a file cannot be converted. -/
inductive ConversionError
  | noConverter
  | file (error : FileError)
  | unsupported (reason : String)
  | failed (reason : String)
  deriving DecidableEq, Repr

/-- The description of an error. -/
def ConversionError.message : ConversionError → String
  | noConverter => "No conversion backend configured"
  | file error => "IO error: " ++ error.message
  | unsupported reason => "Unsupported conversion: " ++ reason
  | failed reason => "Conversion failed: " ++ reason

/-- What converts a file of a kind into another file. The format is that of the other file's
    extension. -/
abbrev Converter := Path → Path → MediaKind → Changes ConversionError Unit

/-- The converter that converts nothing. -/
def Converter.none : Converter := fun _ _ _ => throw .noConverter

namespace Conversion

/-- A text with ASCII letters in lower case. -/
def lowered (text : String) : List Char := text.toList.map Char.toLower

/-- Whether a match has the extension of a format already, in any case. -/
def isFormat (format : MediaFormat) (path : Path) : Bool :=
  match path.extension? with
  | some extension => lowered extension == lowered format.extension
  | none => false

/-- A file name up to its first dot, or all of it if it starts with the dot. -/
def stem (name : String) : String :=
  let before := name.toList.takeWhile (· ≠ '.')
  if before = [] then name else String.ofList before

/-- The path that a match is converted to. -/
def output (format : MediaFormat) (input : Path) : Path :=
  input.withFileName (stem (input.fileName?.getD "") ++ "." ++ format.extension)

/-- The report of matches that are converted one after another. -/
def convertAll (converter : Converter) (format : MediaFormat) (root : Path) :
    List Path → Report → StateM FileTree Report
  | [], report => pure report
  | path :: rest, report => fun tree =>
    if isFormat format path then
      convertAll converter format root rest (report.skip root path) tree
    else
      match converter path (output format path) format.kind tree with
      | (.ok (), changed) => convertAll converter format root rest report.succeed changed
      | (.error error, changed) =>
        convertAll converter format root rest (report.fail root path error.message) changed

/-- Converts matches to a format. -/
def convert (converter : Converter) (root : Path) (format : MediaFormat) (found : List Path) :
    StateM FileTree Report :=
  convertAll converter format root found
    (Report.start .convert (some format.extension) root found)

end Conversion

end FileQuery
