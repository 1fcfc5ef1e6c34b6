import FileQuery.Script.Token

/-!
# Reading scripts

Words, commands and lists of commands are read one within the other, since a word may take the
output of commands. A list of commands ends at a token that closes or divides what it is in.
-/

namespace FileQuery.Script

open Reading

/-- What the parts of a word are read in. -/
inductive Surrounding
  | plain
  /-- Between double quotes. -/
  | quotes
  /-- Between braces, which may stand in double quotes. -/
  | braces (quoted : Bool)
  /-- Between double parentheses, after some parentheses that are open. -/
  | arithmetic (depth : Nat)
  /-- In the text of a document. -/
  | document
  deriving DecidableEq, Repr

namespace Surrounding

/-- Whether characters stand for themselves alone. -/
def isQuoted : Surrounding → Bool
  | plain => false
  | braces quoted => quoted
  | quotes | arithmetic _ | document => true

/-- Whether a quote of any kind starts a quoted text. -/
def hasQuotes : Surrounding → Bool
  | plain | braces false => true
  | quotes | braces true | arithmetic _ | document => false

/-- The error of a text that ends before what it is read in does. -/
def unfinished? : Surrounding → Option String
  | plain | document => none
  | quotes => some "Unterminated quoted string"
  | braces _ => some "Missing '\x7d'"
  | arithmetic _ => some "Missing '))'"

/-- The characters that a backslash takes the meaning from, where it is kept before others. -/
def escapes : Surrounding → List Char
  | document => ['$', '\x60', '\\', '\n']
  | braces _ => ['$', '\x60', '\\', '"', '\n', '\x7d']
  | plain | quotes | arithmetic _ => ['$', '\x60', '\\', '"', '\n']

/-- The number of characters that end what parts are read in, where they come first. A word that
    stands in nothing ends before them. -/
def closing? (surrounding : Surrounding) (text : List Char) : Option Nat :=
  match surrounding, text with
  | plain, c :: _ =>
    if [' ', '\t', '\n', ';', '&', '|', '<', '>', '(', ')'].contains c then some 0 else none
  | quotes, '"' :: _ => some 1
  | braces _, '\x7d' :: _ => some 1
  | arithmetic 0, ')' :: ')' :: _ => some 2
  | _, _ => none

/-- What the parts after a character are read in. -/
def after (surrounding : Surrounding) (c : Char) : Surrounding :=
  match surrounding with
  | arithmetic depth =>
    if c = '(' then arithmetic (depth + 1) else if c = ')' then arithmetic (depth - 1)
    else surrounding
  | _ => surrounding

end Surrounding

/-- The alteration at the start of a text, and the rest. -/
def alteration? (text : List Char) : Option (Alteration × List Char) :=
  let (emptyCounts, signs) := match text with
    | ':' :: rest => (true, rest)
    | _ => (false, text)
  match signs with
  | '-' :: rest => some (.fallback emptyCounts, rest)
  | '=' :: rest => some (.assigned emptyCounts, rest)
  | '?' :: rest => some (.required emptyCounts, rest)
  | '+' :: rest => some (.replaced emptyCounts, rest)
  | '#' :: '#' :: rest => if emptyCounts then none else some (.withoutStart true, rest)
  | '#' :: rest => if emptyCounts then none else some (.withoutStart false, rest)
  | '%' :: '%' :: rest => if emptyCounts then none else some (.withoutEnd true, rest)
  | '%' :: rest => if emptyCounts then none else some (.withoutEnd false, rest)
  | _ => none

/-- Whether a sign is the name of a parameter. -/
def isSpecial (c : Char) : Bool := ['@', '*', '#', '?', '-', '$', '!'].contains c

/-- The name of a parameter between braces, and the rest. -/
def bracedName (text : List Char) : List Char × List Char :=
  match text with
  | [] => ([], [])
  | c :: rest =>
    if c.isDigit then
      let name := text.takeWhile Char.isDigit
      (name, text.drop name.length)
    else if isNameCharacter c then
      let name := text.takeWhile isNameCharacter
      (name, text.drop name.length)
    else if isSpecial c then ([c], rest)
    else ([], text)

/-- What a text between backquotes holds, and the number of its characters with the last quote. A
    backslash takes the meaning from some characters. -/
def backquoted (escapes : List Char) : List Char → Option (List Char × Nat)
  | [] => none
  | '\x60' :: _ => some ([], 1)
  | '\\' :: c :: rest =>
    (backquoted escapes rest).map fun (text, count) =>
      (if escapes.contains c then c :: text else '\\' :: c :: text, count + 2)
  | c :: rest => (backquoted escapes rest).map fun (text, count) => (c :: text, count + 1)

/-- The command that does nothing. -/
def nothing : Command := .simple 0 [] [] []

/-- The variable and the value of an assignment. -/
def assignment? : Word → Option (String × Word)
  | .text value false :: rest =>
    let name := value.toList.takeWhile (· != '=')
    match value.toList.drop name.length with
    | [] => none
    | _ :: value =>
      if isName name then
        some (String.ofList name,
          if value.isEmpty then rest else .text (String.ofList value) false :: rest)
      else none
  | _ => none

/-- A list of commands, and what it may end at. -/
inductive ListKind
  /-- The commands of a line. -/
  | line
  /-- Commands up to what closes them. There is at least one. -/
  | block
  /-- Commands up to what closes them, if there are any. -/
  | branch
  deriving DecidableEq, Repr

/-- What has been read of a simple command. -/
structure Simple where
  assignments : List (String × Word)
  words : List Word
  redirections : List Redirection

/-- The command of what has been read. -/
def Simple.command (simple : Simple) (line : Nat) : Command :=
  .simple line simple.assignments simple.words simple.redirections

/-- A command with its redirections. -/
def withRedirections (line : Nat) (command : Command) : List Redirection → Command
  | [] => command
  | found => .redirected line command found

mutual

/-- The parts of a word up to the end of what it is read in. -/
def readParts : Nat → Surrounding → Reading Word
  | 0, _ => fail "word too long"
  | fuel + 1, surrounding => do
    let text ← rest
    match surrounding.closing? text, text with
    | some count, _ => do skip count; pure []
    | none, [] =>
      match surrounding.unfinished? with
      | some message => fail message
      | none => pure []
    | none, c :: following =>
      if c = '\\' then
        match following with
        | [] => do skip 1; pure [.text "\\" true]
        | d :: _ =>
          if d = '\n' then do skip 2; readParts fuel surrounding
          else if surrounding.hasQuotes || surrounding.escapes.contains d then do
            skip 2
            return WordPart.cons d true (← readParts fuel surrounding)
          else do
            skip 1
            return WordPart.cons '\\' true (← readParts fuel surrounding)
      else if c = '\'' && surrounding.hasQuotes then do
        skip 1
        let inner ← takeWhile (· != '\'')
        if (← rest).isEmpty then fail "Unterminated quoted string"
        else do
          skip 1
          return .text (String.ofList inner) true :: (← readParts fuel surrounding)
      else if c = '"' && surrounding != .document then do
        skip 1
        if surrounding.hasQuotes then do
          let inner ← readParts fuel .quotes
          return .text "" true :: inner ++ (← readParts fuel surrounding)
        else readParts fuel surrounding
      else if c = '$' then do
        skip 1
        let part ← readDollar fuel surrounding.isQuoted
        return part :: (← readParts fuel surrounding)
      else if c = '\x60' then do
        skip 1
        let part ← readBackquoted fuel surrounding.isQuoted
        return part :: (← readParts fuel surrounding)
      else do
        skip 1
        return WordPart.cons c surrounding.isQuoted (← readParts fuel (surrounding.after c))

/-- What follows a dollar sign. -/
def readDollar : Nat → Bool → Reading WordPart
  | 0, _ => fail "word too long"
  | fuel + 1, quoted => do
    match ← rest with
    | '(' :: '(' :: _ => do
      skip 2
      return .arithmetic (← readParts fuel (.arithmetic 0)) quoted
    | '(' :: _ => do
      skip 1
      let found ← readList fuel .branch true none
      let token ← readToken fuel true false
      if token.isText ")" then return .output (found.getD nothing) quoted
      else expecting "\")\"" token
    | '\x7b' :: _ => do skip 1; readBraces fuel quoted
    | c :: text =>
      if c.isDigit || isSpecial c then do
        skip 1
        return .parameter (String.ofList [c]) quoted
      else if isNameCharacter c then
        return .parameter (String.ofList (← takeWhile isNameCharacter)) quoted
      else return .text "$" (quoted || text.isEmpty)
    | [] => return .text "$" quoted

/-- A parameter after its opening brace. -/
def readBraces : Nat → Bool → Reading WordPart
  | 0, _ => fail "word too long"
  | fuel + 1, quoted => do
    let text ← rest
    let (measured, after) := bracedName (text.drop 1)
    if text.head? = some '#' && !measured.isEmpty && after.head? = some '\x7d' then do
      skip (measured.length + 2)
      return .length (String.ofList measured) quoted
    else
      let (name, after) := bracedName text
      skip name.length
      if name.isEmpty then do
        let _ ← readParts fuel (.braces quoted)
        return .mistaken
      else if after.head? = some '\x7d' then do
        skip 1
        return .parameter (String.ofList name) quoted
      else
        match alteration? after with
        | none => do
          let _ ← readParts fuel (.braces quoted)
          return .mistaken
        | some (alteration, inner) => do
          skip (after.length - inner.length)
          let trims := match alteration with
            | .withoutStart _ | .withoutEnd _ => true
            | _ => false
          let word ← readParts fuel (.braces (quoted && !trims))
          return .altered (String.ofList name) alteration word quoted

/-- Commands between backquotes, after the first one. -/
def readBackquoted : Nat → Bool → Reading WordPart
  | 0, _ => fail "word too long"
  | fuel + 1, quoted => do
    let escapes := if quoted then ['$', '\x60', '\\', '"'] else ['$', '\x60', '\\']
    match backquoted escapes (← rest) with
    | none => do
      skip (← rest).length
      fail "EOF in backquote substitution"
    | some (text, count) => do
      let found ← within text 1 (readList fuel .branch true none)
      skip count
      return .output (found.getD nothing) quoted

/-- A token. Words may be keywords, and the ends of lines may be left out. -/
def readToken : Nat → Bool → Bool → Reading Token
  | 0, _, _ => fail "script too long"
  | fuel + 1, keywords, lines => do
    match ← pop with
    | some .newline => if lines then readToken fuel keywords lines else return .newline
    | some token => return if keywords then token.asKeyword else token
    | none =>
      let text ← rest
      match text with
      | [] => return .finish
      | '\\' :: '\n' :: _ => do skip 2; readToken fuel keywords lines
      | c :: after =>
        if c = ' ' ∨ c = '\t' then do skip 1; readToken fuel keywords lines
        else if c = '#' then do
          let _ ← takeWhile (· != '\n')
          readToken fuel keywords lines
        else if c = '\n' then do
          skip 1
          if lines then readToken fuel keywords lines else return .newline
        else
          match Token.signOf? Token.signs text, Token.signOf? Token.redirectionSigns text with
          | some sign, _ => do skip sign.length; return .sign sign
          | none, some sign => do
            skip sign.length
            return .redirection (Token.streamOf sign) sign
          | none, none =>
            match c.isDigit, Token.signOf? Token.redirectionSigns after with
            | true, some sign => do
              skip (sign.length + 1)
              return .redirection (c.toNat - '0'.toNat) sign
            | _, _ => do
              let token := Token.word (← readWord fuel)
              return if keywords then token.asKeyword else token

/-- A word. A tilde at its start stands for the home folder. -/
def readWord : Nat → Reading Word
  | 0 => fail "word too long"
  | fuel + 1 => do
    let isHome := match ← rest with
      | '~' :: c :: _ => c = '/' || (Surrounding.plain.closing? [c]).isSome
      | ['~'] => true
      | _ => false
    if isHome then do
      skip 1
      let home := WordPart.altered "HOME" (.fallback false) [.text "~" true] true
      return home :: (← readParts fuel .plain)
    else readParts fuel .plain

/-- The commands of a list, after those that have been read. It may be required to go on. -/
def readList : Nat → ListKind → Bool → Option Command → Reading (Option Command)
  | 0, _, _, _ => fail "script too long"
  | fuel + 1, kind, mayEnd, before => do
    let token ← readToken fuel true (kind != .line)
    match token with
    | .newline => return before
    | .finish => do push token; return before
    | _ => do
      push token
      if mayEnd && kind != .line && token.endsList then return before
      else do
        let command ← readChain fuel
        let token ← readToken fuel false false
        let command := if token.isText "&" then .behind command else command
        let joined := match before with
          | some before => .sequence before command
          | none => command
        if token.isText "&" || token.isText ";" then readList fuel kind true (some joined)
        else
          match token with
          | .newline => do push token; readList fuel kind true (some joined)
          | .finish => do push token; return some joined
          | _ => if kind = .line then unexpected token else do push token; return some joined

/-- Commands that depend on the success of the ones before them. -/
def readChain : Nat → Reading Command
  | 0 => fail "script too long"
  | fuel + 1 => do readLinks fuel (← readPipe fuel false)

/-- The rest of a chain. -/
def readLinks : Nat → Command → Reading Command
  | 0, _ => fail "script too long"
  | fuel + 1, command => do
    let token ← readToken fuel false false
    if token.isText "&&" then do readLinks fuel (.both command (← readPipe fuel true))
    else if token.isText "||" then do readLinks fuel (.either command (← readPipe fuel true))
    else do
      push token
      return command

/-- Commands with pipes between them, which may be negated. -/
def readPipe : Nat → Bool → Reading Command
  | 0, _ => fail "script too long"
  | fuel + 1, lines => do
    let token ← readToken fuel true lines
    let isNegated := token.isText "!"
    if !isNegated then push token
    let first ← readCommand fuel false
    let rest ← readPiped fuel
    let command := if rest.isEmpty then first else .piped (first :: rest)
    return if isNegated then .negated command else command

/-- The commands after a first one that pipes go to. -/
def readPiped : Nat → Reading (List Command)
  | 0 => fail "script too long"
  | fuel + 1 => do
    let token ← readToken fuel false false
    if token.isText "|" then do
      let command ← readCommand fuel true
      return command :: (← readPiped fuel)
    else do
      push token
      return []

/-- A token that has to come. -/
def require : Nat → String → Bool → Reading Unit
  | 0, _, _ => fail "script too long"
  | fuel + 1, expected, lines => do
    let token ← readToken fuel true lines
    if token.isText expected then return ()
    else expecting ("\"" ++ expected ++ "\"") token

/-- The commands of a block. -/
def readBlock : Nat → Reading Command
  | 0 => fail "script too long"
  | fuel + 1 => do
    match ← readList fuel .block false none with
    | some command => return command
    | none => return nothing

/-- The rest of a choice after the keyword before a condition. -/
def readChoice : Nat → Reading Command
  | 0 => fail "script too long"
  | fuel + 1 => do
    let condition ← readBlock fuel
    require fuel "then" false
    let accepted ← readBlock fuel
    let token ← readToken fuel true false
    if token.isText "elif" then return .choice condition accepted (some (← readChoice fuel))
    else if token.isText "else" then do
      let refused ← readBlock fuel
      require fuel "fi" false
      return .choice condition accepted (some refused)
    else if token.isText "fi" then return .choice condition accepted none
    else expecting "\"fi\"" token

/-- The words before the body of a loop, and the token after them. -/
def readWords : Nat → Reading (List Word × Token)
  | 0 => fail "script too long"
  | fuel + 1 => do
    match ← readToken fuel false false with
    | .word parts => do
      let (words, token) ← readWords fuel
      return (parts :: words, token)
    | token => return ([], token)

/-- The rest of a loop over words after its keyword. -/
def readEach : Nat → Nat → Reading Command
  | 0, _ => fail "script too long"
  | fuel + 1, line => do
    let name := match ← readToken fuel false false with
      | .word parts => (WordPart.plain? parts).filter fun name => isName name.toList
      | _ => none
    match name with
    | none => fail "Bad for loop variable"
    | some name => do
      let token ← readToken fuel true true
      let words ←
        if token.isText "in" then do
          let (words, token) ← readWords fuel
          match token with
          | .newline => pure words
          | _ => if token.isText ";" then pure words else unexpected token
        else do
          if !token.isText ";" then push token
          pure [[WordPart.parameter "@" true]]
      require fuel "do" true
      let body ← readBlock fuel
      require fuel "done" false
      return .each line name words body

/-- The patterns of a branch after the first one. -/
def readPatterns : Nat → Word → Reading (List Word)
  | 0, _ => fail "script too long"
  | fuel + 1, first => do
    let token ← readToken fuel false false
    if token.isText "|" then do
      match ← readToken fuel false false with
      | .word next => return first :: (← readPatterns fuel next)
      | token => expecting "word" token
    else if token.isText ")" then return [first]
    else expecting "\")\"" token

/-- The branches of a selection up to its end. -/
def readBranches : Nat → Reading (List (List Word × Option Command))
  | 0 => fail "script too long"
  | fuel + 1 => do
    let token ← readToken fuel true true
    if token.isText "esac" then return []
    else do
      let token ← if token.isText "(" then readToken fuel false false else pure token
      match token with
      | .word _ | .keyword _ => do
        let first := match token with
          | .word parts => parts
          | other => [WordPart.text (other.name.replace "\"" "") false]
        let patterns ← readPatterns fuel first
        let body ← readList fuel .branch true none
        let token ← readToken fuel true true
        if token.isText "esac" then return [(patterns, body)]
        else if token.isText ";;" then return (patterns, body) :: (← readBranches fuel)
        else expecting "\";;\"" token
      | token => do
        let after ← readToken fuel false false
        if after.isText ")" then unexpected token else expecting "\")\"" after

/-- The rest of a selection after its keyword. -/
def readSelect : Nat → Nat → Reading Command
  | 0, _ => fail "script too long"
  | fuel + 1, line => do
    match ← readToken fuel false false with
    | .word word => do
      require fuel "in" true
      return .select line word (← readBranches fuel)
    | token => expecting "word" token

/-- The rest of a loop after its keyword. -/
def readLoop : Nat → Bool → Reading Command
  | 0, _ => fail "script too long"
  | fuel + 1, until_ => do
    let condition ← readBlock fuel
    require fuel "do" false
    let body ← readBlock fuel
    require fuel "done" false
    return .loop until_ condition body

/-- A command with its redirections. -/
def readCommand : Nat → Bool → Reading Command
  | 0, _ => fail "script too long"
  | fuel + 1, lines => do
    let token ← readToken fuel true lines
    let line ← Reading.line
    let compound (reading : Reading Command) : Reading Command := do
      return withRedirections line (← reading) (← readRedirections fuel)
    match token with
    | .word _ | .redirection .. => do
      push token
      readSimple fuel line ⟨[], [], []⟩
    | .keyword "if" => compound (readChoice fuel)
    | .keyword "while" => compound (readLoop fuel false)
    | .keyword "until" => compound (readLoop fuel true)
    | .keyword "for" => compound (readEach fuel line)
    | .keyword "case" => compound (readSelect fuel line)
    | .keyword "\x7b" => compound do
      let body ← readBlock fuel
      require fuel "\x7d" false
      return body
    | .sign "(" => compound do
      let body ← readBlock fuel
      require fuel ")" false
      return .apart body
    | _ => unexpected token

/-- Redirections, as far as there are any. -/
def readRedirections : Nat → Reading (List Redirection)
  | 0 => fail "script too long"
  | fuel + 1 => do
    match ← readToken fuel true false with
    | .redirection stream sign => do
      let redirection ← readRedirection fuel stream sign
      return redirection :: (← readRedirections fuel)
    | token => do
      push token
      return []

/-- A redirection after its sign. -/
def readRedirection : Nat → Stream → String → Reading Redirection
  | 0, _, _ => fail "script too long"
  | fuel + 1, stream, sign => do
    match ← readToken fuel false false with
    | .word word =>
      match sign with
      | "<" => return .read stream word
      | "<>" => return .read stream word
      | ">>" => return .write stream true word
      | "<&" | ">&" => return .stream stream word
      | "<<" | "<<-" => do
        let (mark, quoted) := WordPart.unquoted word
        let first := (← get).taken + (← Reading.line) + 1
        let text ← document (sign = "<<-") mark
        if quoted then return .document stream [.text (String.ofList text) true]
        else return .document stream (← within text first (readParts fuel .document))
      | _ => return .write stream false word
    | token => unexpected token

/-- The rest of a simple command, or of the definition of a function. -/
def readSimple : Nat → Nat → Simple → Reading Command
  | 0, _, _ => fail "script too long"
  | fuel + 1, line, simple => do
    match ← readToken fuel false false with
    | .word parts =>
      match (if simple.words.isEmpty then assignment? parts else none) with
      | some found =>
        readSimple fuel line { simple with assignments := simple.assignments ++ [found] }
      | none => readSimple fuel line { simple with words := simple.words ++ [parts] }
    | .redirection stream sign => do
      let found ← readRedirection fuel stream sign
      readSimple fuel line { simple with redirections := simple.redirections ++ [found] }
    | .sign "(" =>
      match simple with
      | ⟨[], [word], []⟩ => do
        require fuel ")" false
        match WordPart.plain? word with
        | some name =>
          if isName name.toList then do
            let line ← Reading.line
            return .define line name (← readCommand fuel true)
          else fail "Bad function name"
        | none => fail "Bad function name"
      | _ => do
        push (.sign "(")
        return simple.command line
    | token => do
      push token
      return simple.command line

end

/-- The commands of a line, if the text has one more. -/
def readLine (fuel : Nat) : Reading (Option Command × Bool) := do
  let command ← readList fuel .line true none
  match ← pop with
  | some .finish => return (command, true)
  | _ => return (command, (← rest).isEmpty)

/-- The commands of the lines after a cursor. -/
def readLines (fuel : Nat) : Nat → Cursor → Contents
  | 0, _ => ⟨[], none⟩
  | count + 1, cursor =>
    match readLine fuel cursor with
    | .error flaw => ⟨[], some flaw⟩
    | .ok ((command, isLast), cursor) =>
      let later := if isLast then ⟨[], none⟩ else readLines fuel count cursor
      ⟨command.toList ++ later.commands, later.flaw⟩

/-- What the text of a script holds. -/
def Contents.ofText (text : List Char) : Contents :=
  readLines (16 * (text.length + 4)) (text.length + 1) (.start text 1)

end FileQuery.Script
