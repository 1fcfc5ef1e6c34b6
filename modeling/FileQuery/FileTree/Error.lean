import FileQuery.Compression.Flaw

/-!
# File errors

Why something cannot be done with a file, a folder or a link. Errors of the operating system have
a number.
-/

namespace FileQuery

/-- Why something cannot be done with a file. -/
inductive FileError
  | notFound
  /-- An executable file is no program. -/
  | notProgram
  | denied
  | alreadyExists
  | notFolder
  | isFolder
  | invalid
  | nameTooLong
  | notEmpty
  | tooManyLinks
  /-- A path holds the null character. -/
  | nullInPath
  /-- A path has no part that could be created. -/
  | noFolderAbove
  /-- What is to be copied is not a file. -/
  | notRegular
  /-- Bytes that are to be read as a text are not UTF-8. -/
  | notText
  /-- Bytes end too early. -/
  | truncated
  /-- Bytes end where another one is wanted. -/
  | endOfFile
  /-- Compressed bytes have a flaw. -/
  | compressed (flaw : CompressionFlaw)
  deriving DecidableEq, Repr

namespace FileError

/-- The number of an error of the operating system. -/
def number? : FileError → Option Nat
  | notFound => some 2
  | notProgram => some 8
  | denied => some 13
  | alreadyExists => some 17
  | notFolder => some 20
  | isFolder => some 21
  | invalid => some 22
  | nameTooLong => some 36
  | notEmpty => some 39
  | tooManyLinks => some 40
  | nullInPath | noFolderAbove | notRegular | notText | truncated | endOfFile | compressed _ => none

/-- The words for an error. -/
def words : FileError → String
  | notFound => "No such file or directory"
  | notProgram => "Exec format error"
  | denied => "Permission denied"
  | alreadyExists => "File exists"
  | notFolder => "Not a directory"
  | isFolder => "Is a directory"
  | invalid => "Invalid argument"
  | nameTooLong => "File name too long"
  | notEmpty => "Directory not empty"
  | tooManyLinks => "Too many levels of symbolic links"
  | nullInPath => "file name contained an unexpected NUL byte"
  | noFolderAbove => "failed to create whole tree"
  | notRegular => "the source path is neither a regular file nor a symlink to a regular file"
  | notText => "stream did not contain valid UTF-8"
  | truncated => "failed to fill whole buffer"
  | endOfFile => "unexpected end of file"
  | compressed flaw => flaw.message

/-- The description of an error. -/
def message (error : FileError) : String :=
  match error.number? with
  | some number => error.words ++ " (os error " ++ toString number ++ ")"
  | none => error.words

end FileError

end FileQuery
