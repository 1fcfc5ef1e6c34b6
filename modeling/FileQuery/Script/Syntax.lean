/-!
# Scripts

The parts of a shell script: words, redirections and commands.
-/

namespace FileQuery.Script

/-- What is done with the value of a parameter, given a word. -/
inductive Alteration
  /-- The word stands in for a parameter that is not set, or is empty if that counts. -/
  | fallback (emptyCounts : Bool)
  /-- As above, and the parameter is set to the word. -/
  | assigned (emptyCounts : Bool)
  /-- The word is the error of a parameter that is not set. -/
  | required (emptyCounts : Bool)
  /-- The word stands in for a parameter that is set. -/
  | replaced (emptyCounts : Bool)
  /-- The shortest or longest start that the word matches is left out. -/
  | withoutStart (longest : Bool)
  /-- The shortest or longest end that the word matches is left out. -/
  | withoutEnd (longest : Bool)
  deriving DecidableEq, Repr

/-- A stream of a command. The first three are its input, its output and its errors. -/
abbrev Stream := Nat

mutual

/-- A part of a word. What an unquoted part stands for is split at blanks, and its characters may
    be those of a pattern. -/
inductive WordPart
  | text (value : String) (quoted : Bool)
  | parameter (name : String) (quoted : Bool)
  /-- The number of characters of a parameter. -/
  | length (name : String) (quoted : Bool)
  | altered (name : String) (alteration : Alteration) (word : List WordPart) (quoted : Bool)
  | arithmetic (expression : List WordPart) (quoted : Bool)
  /-- The output of commands. -/
  | output (script : Command) (quoted : Bool)
  /-- What is between braces and no parameter. -/
  | mistaken

/-- Where a stream comes from or goes to. -/
inductive Redirection
  /-- A stream is what another one is, or is closed. -/
  | stream (stream : Stream) (other : List WordPart)
  | write (stream : Stream) (append : Bool) (name : List WordPart)
  | read (stream : Stream) (name : List WordPart)
  /-- The stream is a text of the script. -/
  | document (stream : Stream) (text : List WordPart)

/-- A command. The line is where it stands in the script. -/
inductive Command
  | simple (line : Nat) (assignments : List (String × List WordPart))
      (words : List (List WordPart)) (redirections : List Redirection)
  | sequence (first second : Command)
  /-- The second command runs if the first one succeeds. -/
  | both (first second : Command)
  /-- The second command runs if the first one fails. -/
  | either (first second : Command)
  | negated (command : Command)
  /-- The output of each command is the input of the next one. -/
  | piped (commands : List Command)
  | choice (condition accepted : Command) (refused : Option Command)
  /-- The body runs again as long as the condition succeeds, or fails if `until_` is set. -/
  | loop (until_ : Bool) (condition body : Command)
  | each (line : Nat) (name : String) (words : List (List WordPart)) (body : Command)
  /-- The first branch with a pattern that the word matches runs. -/
  | select (line : Nat) (word : List WordPart)
      (branches : List (List (List WordPart) × Option Command))
  | define (line : Nat) (name : String) (body : Command)
  /-- The command runs on its own, and what it sets is not kept. -/
  | apart (command : Command)
  /-- The command runs on its own, and is not waited for. -/
  | behind (command : Command)
  | redirected (line : Nat) (command : Command) (redirections : List Redirection)

end

/-- A word is made of parts that stand together. -/
abbrev Word := List WordPart

/-- Why the text of a script cannot be read, and in which line. -/
structure SyntaxFlaw where
  line : Nat
  message : String
  deriving DecidableEq, Repr

/-- What a script holds: the commands of its lines, up to the first that cannot be read. -/
structure Contents where
  commands : List Command
  flaw : Option SyntaxFlaw

end FileQuery.Script
