import FileQuery.FileTree.Change
import FileQuery.Script.Call
import FileQuery.Script.Condition
import FileQuery.Script.Filter

/-!
# Tools

The programs of the system that scripts call. They read files or their input, write to their output
and change the file tree.
-/

namespace FileQuery.Script.Tool

open Acting

/-! ### Reports -/

/-- A report of a program about an error with a path. -/
def report (name : String) (path : String) (error : FileError) : String :=
  name ++ ": " ++ path ++ ": " ++ error.words ++ "\n"

/-- A report of a program that cannot do something with a path. -/
def reportOf (name action : String) (path : String) (error : FileError) : String :=
  name ++ ": " ++ action ++ " '" ++ path ++ "': " ++ error.words ++ "\n"

/-- Goes on with a call, or rejects it. -/
def withCall (code : Nat) (call : Except String Call) (act : Call → Acting Unit) : Acting Unit :=
  match call with
  | .ok call => act call
  | .error message => reject code message

/-- Goes on with at least one operand. -/
def withOperands (name what : String) (call : Call) (act : List String → Acting Unit) :
    Acting Unit :=
  if call.operands.isEmpty then reject 1 (Call.hint name ("missing " ++ what))
  else act call.operands

/-! ### Reading -/

/-- Lines with their numbers. -/
def numbered (bytes : List UInt8) : List UInt8 :=
  ((byteLines bytes).zipIdx 1).flatMap fun (line, number) =>
    FileQuery.Text.encode (aligned 6 number ++ "\t") ++ line

/-- Writes what files hold. -/
def cat (words : List String) : Acting Unit :=
  withCall 1 (Call.ofWords "cat" ['n', 'u'] [] words) fun call => do
    let found ← readInputs (report "cat") 1 call.operands
    let bytes := found.flatMap (·.2)
    writeBytes 1 (if call.has 'n' then numbered bytes else bytes)

/-- The part that a call of `head` or `tail` asks for, or why there is none. -/
def portion (name : String) (atEnd : Bool) (call : Call) : Except String (Bool × Portion) :=
  let (bytes, text) := match call.values.reverse with
    | ('c', text) :: _ => (true, text)
    | (_, text) :: _ => (false, text)
    | [] => (false, "10")
  let sign := text.toList.head?
  let digits := text.toList.dropWhile fun c => c = '-' || c = '+'
  match (String.ofList digits).toNat? with
  | none =>
    .error (name ++ ": invalid number of " ++ (if bytes then "bytes" else "lines") ++ ": '" ++
      text ++ "'\n")
  | some count =>
    .ok (bytes,
      if atEnd then (if sign = some '+' then .start count else .last count)
      else if sign = some '-' then .allBut count
      else .first count)

/-- Words in which a number after a dash is a number of lines. -/
def countedWords : List String → List String
  | [] => []
  | word :: rest =>
    match word.toList with
    | '-' :: c :: more =>
      if c.isDigit && more.all Char.isDigit then "-n" :: String.ofList (c :: more) :: rest
      else word :: rest
    | _ => word :: rest

/-- Writes the starts or the ends of files. -/
def ends (name : String) (atEnd : Bool) (words : List String) : Acting Unit :=
  withCall 1 (Call.ofWords name ['q', 'v'] ['n', 'c'] (countedWords words)) fun call =>
    match portion name atEnd call with
    | .error message => reject 1 message
    | .ok (bytes, portion) => do
      let refused (path : String) (error : FileError) : String :=
        name ++ ": cannot open '" ++ path ++ "' for reading: " ++ error.words ++ "\n"
      let found ← readInputs refused 1 call.operands
      let part (content : List UInt8) : List UInt8 :=
        if bytes then portion.of content else (portion.of (byteLines content)).flatten
      let shown := found.zipIdx.map fun ((path, content), place) =>
        let heading := if call.operands.length < 2 || call.has 'q' then ""
          else (if place = 0 then "" else "\n") ++ "==> " ++ path ++ " <==\n"
        FileQuery.Text.encode heading ++ part content
      writeBytes 1 shown.flatten

/-- Writes numbers of lines, words and bytes. -/
def wc (words : List String) : Acting Unit :=
  withCall 1 (Call.ofWords "wc" ['l', 'w', 'c', 'm'] [] words) fun call => do
    let found ← readInputs (report "wc") 1 call.operands
    let rows := found.map fun (path, bytes) => (path, counts call.options bytes)
    let columns := if call.options.isEmpty then 3 else call.options.eraseDups.length
    let size := (found.map fun (_, bytes) => bytes.length).foldl (· + ·) 0
    let width := if call.operands.isEmpty then (if columns = 1 then 1 else 7)
      else if columns = 1 && found.length < 2 then 1
      else (toString size).length
    let total := rows.foldl (fun sums (_, row) =>
      if sums.isEmpty then row else sums.zipWith (· + ·) row) []
    let line (name : String) (row : List Nat) : String :=
      String.intercalate " " (row.map (aligned width)) ++
        (if name.isEmpty || call.operands.isEmpty then "" else " " ++ name) ++ "\n"
    let all := rows ++ (if 2 ≤ call.operands.length then [("total", total)] else [])
    writeText 1 (String.join (all.map fun (name, row) => line name row))

/-- Writes the lines of files in order. -/
def sort (words : List String) : Acting Unit :=
  withCall 2 (Call.ofWords "sort" ['n', 'r', 'u', 'f', 'b'] ['k', 't'] words) fun call => do
    let found ← readInputs (fun path error =>
      "sort: cannot read: " ++ path ++ ": " ++ error.words ++ "\n") 2 call.operands
    let lines := found.flatMap fun (_, bytes) => byteLines bytes
    writeBytes 1 (sortedLines call.options lines).flatten

/-- Writes lines that follow each other and are alike once. -/
def uniq (words : List String) : Acting Unit :=
  withCall 1 (Call.ofWords "uniq" ['c', 'd', 'u'] [] words) fun call => do
    let found ← readInputs (report "uniq") 1 (call.operands.take 1)
    let groups := groupedLines (found.flatMap fun (_, bytes) => byteLines bytes)
    let kept := groups.filter fun group =>
      (!call.has 'd' || 1 < group.length) && (!call.has 'u' || group.length = 1)
    writeBytes 1 (kept.flatMap fun group =>
      (if call.has 'c' then FileQuery.Text.encode (aligned 7 group.length ++ " ") else []) ++
        group.headD [])

/-- Replaces or leaves out bytes. -/
def tr (words : List String) : Acting Unit :=
  withCall 1 (Call.ofWords "tr" ['c', 'C', 'd', 's', 't'] [] words) fun call =>
    match call.operands with
    | [] => reject 1 (Call.hint "tr" "missing operand")
    | first :: rest =>
      if rest.isEmpty && !call.has 'd' && !call.has 's' then
        reject 1 (Call.hint "tr"
          ("missing operand after '" ++ first ++ "'\n" ++
            "Two strings must be given when translating."))
      else do writeBytes 1 (translated call.options call.operands (← readAll))

/-- Writes parts of lines. -/
def cut (words : List String) : Acting Unit :=
  withCall 1 (Call.ofWords "cut" ['s', 'n'] ['b', 'c', 'd', 'f'] words) fun call => do
    let act (change : List UInt8 → List UInt8) : Acting Unit := do
      let found ← readInputs (report "cut") 1 call.operands
      writeBytes 1 ((found.flatMap fun (_, bytes) => byteLines bytes).flatMap change)
    match call.value? 'f', (call.value? 'c').or (call.value? 'b') with
    | some list, _ =>
      let separator := ((FileQuery.Text.encode ((call.value? 'd').getD "\t")).headD 9)
      act (cutFields separator (placeRanges list))
    | none, some list => act fun line => atPlaces (placeRanges list) (withoutEnd line) ++ [10]
    | none, none =>
      reject 1 (Call.hint "cut" "you must specify a list of bytes, characters, or fields")

/-- Writes lines from their ends to their starts. -/
def rev (words : List String) : Acting Unit :=
  withCall 1 (Call.ofWords "rev" [] [] words) fun call => do
    let found ← readInputs (fun path error =>
      "rev: cannot open " ++ path ++ ": " ++ error.words ++ "\n") 1 call.operands
    writeBytes 1 ((found.flatMap fun (_, bytes) => byteLines bytes).flatMap fun line =>
      (withoutEnd line).reverse ++ (if line.getLast? = some 10 then [10] else []))

/-- Writes lines from the last to the first. -/
def tac (words : List String) : Acting Unit :=
  withCall 1 (Call.ofWords "tac" [] [] words) fun call => do
    let found ← readInputs (fun path error =>
      "tac: failed to open '" ++ path ++ "' for reading: " ++ error.words ++ "\n") 1 call.operands
    writeBytes 1 (found.flatMap fun (_, bytes) => (byteLines bytes).reverse.flatten)

/-- Writes the lines that have a text. -/
def grep (words : List String) : Acting Unit :=
  withCall 2 (Call.ofWords "grep" ['c', 'E', 'F', 'h', 'i', 'n', 'o', 'q', 's', 'v'] ['e'] words)
    fun call => do
    let (text, paths) := match call.value? 'e' with
      | some text => (some text, call.operands)
      | none => (call.operands.head?, call.operands.drop 1)
    match text with
    | none =>
      reject 2 ("Usage: grep [OPTION]... PATTERNS [FILE]...\n" ++ Call.hint "grep" "")
    | some text => do
      let found : List (String × List UInt8) ← readInputs (report "grep") 2 paths
      let wanted := FileQuery.Text.encode text
      let fits (line : List UInt8) : Bool :=
        (if call.has 'i' then hasText (loweredBytes wanted) (loweredBytes (withoutEnd line))
          else hasText wanted (withoutEnd line)) != call.has 'v'
      let rows : List (String × List (List UInt8 × Nat)) := found.map fun (path, bytes) =>
        (path, ((byteLines bytes).zipIdx 1).filter fun (line, _) => fits line)
      let heading (path : String) : String :=
        if 2 ≤ paths.length && !call.has 'h' then path ++ ":" else ""
      if !call.has 'q' then
        rows.forM fun (path, lines) =>
          if call.has 'c' then writeText 1 (heading path ++ toString lines.length ++ "\n")
          else lines.forM fun (line, number) => do
            writeText 1 (heading path ++ (if call.has 'n' then toString number ++ ":" else ""))
            writeBytes 1 (withEnd line)
      if (← get).status = 0 && rows.all (·.2.isEmpty) then finish 1

/-- Writes the input to the output and to files. -/
def tee (words : List String) : Acting Unit :=
  withCall 1 (Call.ofWords "tee" ['a', 'i'] [] words) fun call => do
    let bytes ← readAll
    call.operands.forM fun path =>
      if path = "/dev/stderr" then writeBytes 2 bytes
      else if path.startsWith "/dev/" then pure ()
      else change (report "tee" path) fun tree =>
        let before := if call.has 'a' then (tree.read ⟨path⟩).toOption.getD [] else []
        tree.write ⟨path⟩ (before ++ bytes)
    writeBytes 1 bytes

/-! ### Texts -/

/-- Writes numbers in steps. -/
def seq (words : List String) : Acting Unit :=
  let isOption (word : String) : Bool := (word.toList.drop 1).head?.any fun c => !c.isDigit
  let (options, numbers) := match words with
    | "-s" :: separator :: rest => ((separator, false), rest)
    | "-w" :: rest => (("\n", true), rest)
    | word :: rest =>
      if word.startsWith "-s" && isOption word then
        ((String.ofList (word.toList.drop 2), false), rest)
      else (("\n", false), words)
    | [] => (("\n", false), [])
  let (separator, wide) := options
  match numbers with
  | [] => reject 1 (Call.hint "seq" "missing operand")
  | _ =>
    match numbers.find? fun word => word.toInt?.isNone with
    | some word => reject 1 (Call.hint "seq" ("invalid floating point argument: '" ++ word ++ "'"))
    | none =>
      let values := numbers.map fun word => word.toInt?.getD 0
      let (first, step, last) := match values with
        | [last] => (1, 1, last)
        | [first, last] => (first, 1, last)
        | first :: step :: last :: _ => (first, step, last)
        | [] => (1, 1, 0)
      let count := if step = 0 then 0 else ((last - first) / step + 1).toNat
      let texts := (List.range count).map fun (place : Nat) => toString (first + step * place)
      let width := texts.foldl (fun width text => max width text.length) 0
      let texts := if wide then
          texts.map fun text =>
            String.ofList (List.replicate (width - text.length) '0') ++ text
        else texts
      if texts.isEmpty then pure ()
      else writeText 1 (String.intercalate separator texts ++ "\n")

/-- A path without the slashes at its end. -/
def withoutSlashes (path : String) : String :=
  let kept := (path.toList.reverse.dropWhile (· = '/')).reverse
  if kept.isEmpty && !path.isEmpty then "/" else String.ofList kept

/-- The last name of a path, without an end that it may have. -/
def baseName (path ending : String) : String :=
  let path := withoutSlashes path
  let name := if path = "/" then path else
    String.ofList (path.toList.reverse.takeWhile (· != '/')).reverse
  if ending != "" && name != ending && name.endsWith ending then
    String.ofList (name.toList.take (name.length - ending.length))
  else name

/-- Writes last names of paths. -/
def basename (words : List String) : Acting Unit :=
  withCall 1 (Call.ofWords "basename" ['a'] ['s'] words) fun call =>
    withOperands "basename" "operand" call fun operands =>
      match call.value? 's' with
      | some ending =>
        operands.forM fun path => writeText 1 (baseName path ending ++ "\n")
      | none =>
        if call.has 'a' then operands.forM fun path => writeText 1 (baseName path "" ++ "\n")
        else
          match operands with
          | path :: rest =>
            match rest.drop 1 with
            | [] => writeText 1 (baseName path (rest.headD "") ++ "\n")
            | extra :: _ =>
              reject 1 (Call.hint "basename" ("extra operand '" ++ extra ++ "'"))
          | [] => pure ()

/-- A path without its last name. -/
def folderName (path : String) : String :=
  let path := withoutSlashes path
  let before := (path.toList.reverse.dropWhile (· != '/')).reverse
  if before.isEmpty then "." else withoutSlashes (String.ofList before)

/-- Writes paths without their last names. -/
def dirname (words : List String) : Acting Unit :=
  withCall 1 (Call.ofWords "dirname" [] [] words) fun call =>
    withOperands "dirname" "operand" call fun operands =>
      operands.forM fun path => writeText 1 (folderName path ++ "\n")

/-- Writes a line again and again, as long as there is someone to read it. -/
def yes (words : List String) : Acting Unit :=
  let words := if words.isEmpty then ["y"] else words
  let line := FileQuery.Text.encode (String.intercalate " " words)
    ++ [10]
  writeBytes 1 (List.replicate (65536 / line.length + 1) line).flatten

/-- The value of an expression of `expr`, or the error. -/
def exprValue (words : List String) : Except String String :=
  let number? (text : String) : Option Int := text.toInt?
  let arithmetic (left right : String) (act : Int → Int → Except String String) :
      Except String String :=
    match number? left, number? right with
    | some left, some right => act left right
    | _, _ => .error "expr: non-integer argument\n"
  let truth (holds : Bool) : Except String String := .ok (if holds then "1" else "0")
  let compared (left right : String) (numbers : Int → Int → Bool) (texts : String → String → Bool) :
      Except String String :=
    match number? left, number? right with
    | some left, some right => truth (numbers left right)
    | _, _ => truth (texts left right)
  match words with
  | [value] => .ok value
  | ["length", text] => .ok (toString text.length)
  | ["substr", text, start, count] =>
    .ok (String.ofList ((text.toList.drop (start.toNat?.getD 1 - 1)).take (count.toNat?.getD 0)))
  | [left, "+", right] => arithmetic left right fun a b => .ok (toString (a + b))
  | [left, "-", right] => arithmetic left right fun a b => .ok (toString (a - b))
  | [left, "*", right] => arithmetic left right fun a b => .ok (toString (a * b))
  | [left, "/", right] => arithmetic left right fun a b =>
    if b = 0 then .error "expr: division by zero\n" else .ok (toString (a.tdiv b))
  | [left, "%", right] => arithmetic left right fun a b =>
    if b = 0 then .error "expr: division by zero\n" else .ok (toString (a.tmod b))
  | [left, "=", right] => compared left right (· == ·) (· == ·)
  | [left, "!=", right] => compared left right (· != ·) (· != ·)
  | [left, "<", right] => compared left right (fun a b => a < b) (fun a b => a < b)
  | [left, "<=", right] => compared left right (fun a b => a ≤ b) (fun a b => a ≤ b)
  | [left, ">", right] => compared left right (fun a b => b < a) (fun a b => b < a)
  | [left, ">=", right] => compared left right (fun a b => b ≤ a) (fun a b => b ≤ a)
  | [left, "|", right] => .ok (if left.isEmpty || left = "0" then right else left)
  | [left, "&", right] =>
    .ok (if left.isEmpty || left = "0" || right.isEmpty || right = "0" then "0" else left)
  | [] => .error (Call.hint "expr" "missing operand")
  | _ => .error "expr: syntax error\n"

/-- Writes the value of an expression. -/
def expr (words : List String) : Acting Unit :=
  match exprValue words with
  | .error message => reject 2 message
  | .ok value => do
    writeText 1 (value ++ "\n")
    finish (if value.isEmpty || value = "0" then 1 else 0)

/-! ### Changing the file tree -/

/-- Makes folders. -/
def mkdir (words : List String) : Acting Unit :=
  withCall 1 (Call.ofWords "mkdir" ['p', 'v'] ['m'] words) fun call =>
    withOperands "mkdir" "operand" call fun operands =>
      operands.forM fun path =>
        change (reportOf "mkdir" "cannot create directory" path) fun tree =>
          if call.has 'p' then
            match FileTree.makeFolders ⟨path⟩ tree with
            | (.ok _, changed) => .ok changed
            | (.error error, _) => .error error
          else tree.makeFolder ⟨path⟩

/-- Removes a folder without entries. -/
def removeEmpty (tree : FileTree) (path : Path) : Except FileError FileTree :=
  match tree.list path with
  | .error error => .error error
  | .ok [] => tree.removeFolder path
  | .ok _ => .error .notEmpty

/-- Removes folders without entries. -/
def rmdir (words : List String) : Acting Unit :=
  withCall 1 (Call.ofWords "rmdir" ['p', 'v'] [] words) fun call =>
    withOperands "rmdir" "operand" call fun operands =>
      operands.forM fun path =>
        change (reportOf "rmdir" "failed to remove" path) (removeEmpty · ⟨path⟩)

/-- Removes files, and folders if that is asked for. -/
def rm (words : List String) : Acting Unit :=
  withCall 1 (Call.ofWords "rm" ['f', 'r', 'R', 'i', 'v', 'd'] [] words) fun call =>
    if call.has 'f' && call.operands.isEmpty then pure ()
    else withOperands "rm" "operand" call fun operands =>
      operands.forM fun path =>
        change (reportOf "rm" "cannot remove" path) fun tree =>
          let removed := match tree.findLink ⟨path⟩ with
            | .ok (.folder ..) =>
              if call.has 'r' || call.has 'R' then tree.removeFolder ⟨path⟩ else .error .isFolder
            | .ok _ => tree.removeFile ⟨path⟩
            | .error error => .error error
          match removed with
          | .error .notFound => if call.has 'f' then .ok tree else .error .notFound
          | other => other

/-- A tree with a copy of a node. -/
def copyNode (tree : FileTree) (source target : Path) : Except FileError FileTree :=
  match tree.find source with
  | .error error => .error error
  | .ok (.folder stamps entries) =>
    match tree.resolve .follow target with
    | .error error => .error error
    | .ok ⟨place, none, _⟩ => .ok (tree.insert place (.folder stamps entries))
    | .ok ⟨_, some _, _⟩ => .error .alreadyExists
  | .ok _ => tree.copyFile source target

/-- The operands before the last one, and the last one. Both have to be there. -/
def sourcesAndTarget (name : String) (call : Call) (act : List String → String → Acting Unit) :
    Acting Unit :=
  match call.operands with
  | [] => reject 1 (Call.hint name "missing file operand")
  | [only] => reject 1 (Call.hint name ("missing destination file operand after '" ++ only ++ "'"))
  | operands =>
    let sources := operands.dropLast
    let target := operands.getLast?.getD ""
    do
      if 2 ≤ sources.length && !(← get).tree.isFolder ⟨target⟩ then
        reject 1 (name ++ ": target '" ++ target ++ "': " ++
          (if ((← get).tree.find ⟨target⟩).isOk then "Not a directory\n"
            else "No such file or directory\n"))
      else act sources target

/-- Whether two paths lead to the same place. -/
def isSame (tree : FileTree) (first second : Path) : Bool :=
  match tree.locate .follow first, tree.locate .follow second with
  | .ok (first, _), .ok (second, _) => first == second
  | _, _ => false

/-- Copies files, and folders if that is asked for. -/
def cp (words : List String) : Acting Unit :=
  withCall 1 (Call.ofWords "cp" ['a', 'f', 'p', 'r', 'R', 'v', 'n', 'L', 'P'] [] words) fun call =>
    sourcesAndTarget "cp" call fun sources target =>
      sources.forM fun source => do
        let tree := (← get).tree
        let goal := targetOf tree source target
        match tree.find ⟨source⟩ with
        | .error error => reject 1 (reportOf "cp" "cannot stat" source error)
        | .ok node =>
          if node.isFolder && !(call.has 'r' || call.has 'R' || call.has 'a') then
            reject 1 ("cp: -r not specified; omitting directory '" ++ source ++ "'\n")
          else if isSame tree ⟨source⟩ goal then
            reject 1 ("cp: '" ++ source ++ "' and '" ++ goal.text ++ "' are the same file\n")
          else
            change (reportOf "cp" "cannot create regular file" goal.text)
              (copyNode · ⟨source⟩ goal)

/-- Gives files and folders other paths. -/
def mv (words : List String) : Acting Unit :=
  withCall 1 (Call.ofWords "mv" ['f', 'i', 'n', 'v'] [] words) fun call =>
    sourcesAndTarget "mv" call fun sources target =>
      sources.forM fun source => do
        let tree := (← get).tree
        let goal := targetOf tree source target
        match tree.findLink ⟨source⟩ with
        | .error error => reject 1 (reportOf "mv" "cannot stat" source error)
        | .ok _ =>
          if isSame tree ⟨source⟩ goal then
            reject 1 ("mv: '" ++ source ++ "' and '" ++ goal.text ++ "' are the same file\n")
          else
            change (fun error => "mv: cannot move '" ++ source ++ "' to '" ++ goal.text ++ "': " ++
              error.words ++ "\n") (·.rename ⟨source⟩ goal)

/-- Makes links. Only those to paths are made; others are copies. -/
def ln (words : List String) : Acting Unit :=
  withCall 1 (Call.ofWords "ln" ['s', 'f', 'n', 'v'] [] words) fun call =>
    withOperands "ln" "file operand" call fun operands => do
      let source := operands.headD ""
      let target := (operands.drop 1).headD (baseName source "")
      let goal := targetOf (← get).tree source target
      if call.has 's' then
        change (reportOf "ln" "failed to create symbolic link" goal.text) fun tree =>
          let tree := if call.has 'f' then (tree.removeFile goal).toOption.getD tree else tree
          tree.makeLink goal source
      else change (reportOf "ln" "failed to access" source) (·.copyFile ⟨source⟩ goal)

/-- Makes files, unless they are there. -/
def touch (words : List String) : Acting Unit :=
  withCall 1 (Call.ofWords "touch" ['a', 'c', 'm'] ['d', 'r', 't'] words) fun call =>
    withOperands "touch" "file operand" call fun operands =>
      operands.forM fun path =>
        change (reportOf "touch" "cannot touch" path) fun tree =>
          if (tree.find ⟨path⟩).isOk || call.has 'c' then .ok tree else tree.write ⟨path⟩ []

/-- Whether a mode makes files executable or takes that from them, if it is understood. -/
def executableMode? (mode : String) : Option (Option Bool) :=
  let letters := mode.toList.dropWhile fun c => ['u', 'g', 'o', 'a'].contains c
  match letters with
  | sign :: rights =>
    if ['+', '-', '='].contains sign
        && rights.all fun c => ['r', 'w', 'x', 'X', 's', 't'].contains c
    then
      some (if rights.contains 'x' then some (sign != '-')
        else if sign = '=' then some false else none)
    else if mode.toList.all isOctal then
      some (some (mode.toList.any fun c => ((digitValue? c).getD 0) % 2 = 1))
    else none
  | [] => none

/-- Makes files executable, or not. -/
def chmod (words : List String) : Acting Unit :=
  match words.filter fun word => !(["-R", "-v", "-f", "-c"].contains word) with
  | [] => reject 1 (Call.hint "chmod" "missing operand")
  | [mode] => reject 1 (Call.hint "chmod" ("missing operand after '" ++ mode ++ "'"))
  | mode :: paths =>
    match executableMode? mode with
    | none => reject 1 (Call.hint "chmod" ("invalid mode: '" ++ mode ++ "'"))
    | some executable =>
      paths.forM fun path =>
        change (reportOf "chmod" "cannot access" path) fun tree =>
          match executable with
          | some executable => tree.setExecutable ⟨path⟩ executable
          | none => (tree.find ⟨path⟩).map fun _ => tree

/-! ### Looking at the file tree -/

/-- The names in a folder that are listed. -/
def shownNames (call : Call) (node : Node) : List String :=
  let names := ((node.entries.mergeSort Node.namedBefore).map (·.1)).filter fun name =>
    call.has 'a' || call.has 'A' || !name.startsWith "."
  let names := if call.has 'a' then "." :: ".." :: names else names
  if call.has 'r' then names.reverse else names

/-- Lists folders and files. -/
def ls (words : List String) : Acting Unit :=
  let letters := ['a', 'A', '1', 'd', 'r', 'R', 'p', 'F', 'h', 'l', 't', 'C']
  withCall 2 (Call.ofWords "ls" letters [] words)
    fun call => do
      let operands := if call.operands.isEmpty then ["."] else call.operands
      let tree := (← get).tree
      let found := operands.map fun path => (path, tree.find ⟨path⟩)
      found.forM fun (path, node) =>
        match node with
        | .ok _ => pure ()
        | .error error => reject 2 (reportOf "ls" "cannot access" path error)
      let nodes := (found.filterMap fun (path, node) =>
        node.toOption.map fun node => (path, node)).mergeSort fun a b => a.1 ≤ b.1
      let (folders, files) := nodes.partition fun (_, node) => node.isFolder && !call.has 'd'
      let lines (names : List String) : String := String.join (names.map (· ++ "\n"))
      writeText 1 (lines (files.map (·.1)))
      folders.zipIdx.forM fun ((path, node), place) => do
        if 2 ≤ operands.length then
          writeText 1 ((if place = 0 && files.isEmpty then "" else "\n") ++ path ++ ":\n")
        writeText 1 (lines (shownNames call node))

/-- Writes the path that a path leads to. -/
def realpath (name : String) (words : List String) : Acting Unit :=
  withCall 1 (Call.ofWords name ['e', 'f', 'm', 'n', 's'] [] words) fun call =>
    withOperands name "operand" call fun operands =>
      operands.forM fun path => do
        match (← get).tree.resolve .follow ⟨path⟩ with
        | .ok found => writeText 1 ((Path.ofPlace found.place).text ++ "\n")
        | .error error => reject 1 (report name path error)

/-! ### Waiting -/

/-- Whether a text is a length of time. -/
def isDuration (text : String) : Bool :=
  match Decimal.read? text.toList with
  | some (value, rest) => !value.negative && ["", "s", "m", "h", "d"].contains (String.ofList rest)
  | none => false

/-- Waits, for which no time passes here. -/
def sleep (words : List String) : Acting Unit :=
  if words.isEmpty then reject 1 (Call.hint "sleep" "missing operand")
  else
    match words.find? fun word => !isDuration word with
    | some word => reject 1 (Call.hint "sleep" ("invalid time interval '" ++ word ++ "'"))
    | none => pure ()

/-- The programs of the system. -/
def all : List (String × (List String → Acting Unit)) := [
  ("basename", basename), ("cat", cat), ("chmod", chmod), ("cp", cp), ("cut", cut),
  ("dirname", dirname), ("expr", expr), ("grep", grep), ("head", ends "head" false),
  ("id", fun words => writeText 1 (if words.isEmpty then "uid=0(root) gid=0(root) groups=0(root)\n"
    else if words.all (·.toList.contains 'n') then "root\n" else "0\n")),
  ("ln", ln), ("ls", ls), ("mkdir", mkdir), ("mv", mv), ("readlink", realpath "readlink"),
  ("realpath", realpath "realpath"), ("rev", rev), ("rm", rm), ("rmdir", rmdir), ("seq", seq),
  ("sleep", sleep), ("sort", sort), ("sync", fun _ => pure ()), ("tac", tac),
  ("tail", ends "tail" true), ("tee", tee), ("touch", touch), ("tr", tr),
  ("uname", fun _ => writeText 1 "Linux\n"), ("uniq", uniq), ("wc", wc),
  ("whoami", fun _ => writeText 1 "root\n"), ("yes", yes)]

end FileQuery.Script.Tool
