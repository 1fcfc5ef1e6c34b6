import FileQuery.CommandLine.Usage
import FileQuery.Path

/-!
# Reading the command line

What the arguments of the program say, and which flag is meant where none is named.
-/

/-!
## Similarity of texts

How much alike two texts are, from none to all in parts of a million. It counts the characters
that both texts have in nearly the same place, and of these the ones that are in another order.
-/

namespace FileQuery.Text

/-- The characters of a text from a place on, each with whether it has been matched, after the
    first one that can be is matched with a character. It has to lie in a range of places. -/
def claim (c : Char) (low high : Nat) : Nat → List (Char × Bool) → Option (List (Char × Bool))
  | _, [] => none
  | place, (d, matched) :: rest =>
    if low ≤ place ∧ place < high ∧ c = d ∧ !matched then some ((d, true) :: rest)
    else (claim c low high (place + 1) rest).map ((d, matched) :: ·)

/-- Matches the characters of a text from a place on with those of another one, and lists the
    matched characters of both. -/
def matchCharacters (range : Nat) : Nat → List Char → List (Char × Bool) → List Char × List Char
  | _, [], other => ([], (other.filter (·.2)).map (·.1))
  | place, c :: rest, other =>
    match claim c (place - range) (place + range + 1) 0 other with
    | some claimed =>
      let (mine, theirs) := matchCharacters range (place + 1) rest claimed
      (c :: mine, theirs)
    | none => matchCharacters range (place + 1) rest other

/-- How much alike two texts are, in parts of a million. -/
def similarity (first second : List Char) : Nat :=
  let range := max first.length second.length / 2 - 1
  let (mine, theirs) := matchCharacters range 0 first (second.map fun c => (c, false))
  let common := mine.length
  let swapped := ((mine.zip theirs).filter fun (c, d) => c ≠ d).length / 2
  if common = 0 then 0
  else
    1000000 * (common * common * (first.length + second.length)
      + (common - swapped) * first.length * second.length)
      / (3 * common * first.length * second.length)

end FileQuery.Text

/-!
## Options

What the arguments of the program say. Arguments are read one after another: a flag that takes a
value waits for it until the next flag, and a flag is given once. Letters may share a hyphen, and
the value of a flag may be part of the same argument.
-/

namespace FileQuery

/-- What the arguments of the program say. -/
structure Options where
  directory : Option Path
  queries : Option Path
  config : Option Path
  watch : Bool
  once : Bool
  reconfigure : Bool
  json : Bool
  ast : Bool
  tokens : Bool
  verbose : Bool
  deriving DecidableEq, Repr

/-- Why arguments do not come to a run of the program. -/
inductive OptionsStop
  | help
  | version
  | wrong (error : UsageError)
  deriving DecidableEq, Repr

namespace Options

/-- What has been read of the arguments. -/
structure Progress where
  /-- The flags that were given, with their values. -/
  given : List (Flag × String)
  /-- A flag that takes a value, with the value if that has been read. -/
  pending : Option (Flag × Option String)
  deriving DecidableEq, Repr

namespace Progress

/-- The start of the arguments. -/
def start : Progress := ⟨[], none⟩

/-- The flags that were given. -/
def used (progress : Progress) : List Flag := progress.given.map (·.1)

/-- Whether a flag waits for its value. -/
def awaits (progress : Progress) : Bool :=
  match progress.pending with
  | some (_, none) => true
  | _ => false

/-- One more flag is given. -/
def add (progress : Progress) (flag : Flag) (value : String) : Except OptionsStop Progress :=
  if progress.used.contains flag then .error (.wrong (.repeated flag))
  else if flag.takesValue && value.isEmpty then .error (.wrong (.missingValue flag))
  else .ok ⟨progress.given ++ [(flag, value)], none⟩

/-- The pending flag is given, if there is one. -/
def settle (progress : Progress) : Except OptionsStop Progress :=
  match progress.pending with
  | none => .ok progress
  | some (flag, none) => .error (.wrong (.missingValue flag))
  | some (flag, some value) => add progress flag value

/-- The pending flag is given, unless that is an error. -/
def settled (progress : Progress) : Progress := progress.settle.toOption.getD progress

/-- A flag is read, with the value that is part of the same argument. -/
def read (progress : Progress) (flag : Flag) (value : Option String) :
    Except OptionsStop Progress := do
  let progress ← progress.settle
  match flag, value with
  | .help, _ => throw .help
  | .version, _ => throw .version
  | flag, some value => progress.add flag value
  | flag, none =>
    if flag.takesValue then return { progress with pending := some (flag, none) }
    else progress.add flag ""

end Progress

/-- How much alike a name has to be, in parts of a million. -/
def leastSimilarity : Nat := 700000

/-- The flag whose name is most like a given one, if it is like enough. -/
def similarFlag? (name : List Char) : Option Flag :=
  let rated := Flag.all.map fun flag => (flag, Text.similarity name flag.name.toList)
  let best := rated.foldl (fun best candidate =>
    if best.2 ≤ candidate.2 then candidate else best) (Flag.help, 0)
  if leastSimilarity ≤ best.2 then some best.1 else none

/-- The error of a name that no flag has. A flag that may have been meant counts as used. -/
def unknownName (progress : Progress) (name : List Char) : UsageError :=
  let similar := similarFlag? name
  let used := progress.settled.used
  .unexpected ("--" ++ String.ofList name) similar
    (match similar with
      | some flag => if used.contains flag then used else used ++ [flag]
      | none => used)

/-- Reads a name after two hyphens, and the value after an equals sign. -/
def readName (progress : Progress) (text : List Char) : Except OptionsStop Progress :=
  let name := text.takeWhile (· ≠ '=')
  let value := (text.dropWhile (· ≠ '=')).tail?.map String.ofList
  match Flag.ofName? (String.ofList name) with
  | none => .error (.wrong (unknownName progress name))
  | some flag =>
    match value with
    | none => progress.read flag none
    | some value =>
      if flag.takesValue then progress.read flag (some value)
      else .error (.wrong (.needlessValue flag value (!progress.used.isEmpty)))

/-- Reads letters after a hyphen. What follows the letter of a flag that takes a value is the
    value, and an equals sign may come before it. -/
def readLetters (progress : Progress) : List Char → Except OptionsStop Progress
  | [] => .ok progress
  | letter :: rest =>
    match Flag.ofLetter? letter with
    | none => .error (.wrong (.unexpected (String.ofList ['-', letter]) none []))
    | some flag =>
      if flag.takesValue then
        progress.read flag (match rest with
          | [] => none
          | '=' :: value => some (String.ofList value)
          | value => some (String.ofList value))
      else
        match progress.read flag none with
        | .error stop => .error stop
        | .ok progress => readLetters progress rest

/-- Reads arguments. After two hyphens alone no argument is a flag or a value. -/
def readArguments (progress : Progress) : List String → Except OptionsStop Progress
  | [] => progress.settle
  | argument :: rest =>
    match argument.toList with
    | ['-', '-'] =>
      match rest with
      | [] => progress.settle
      | other :: _ => .error (.wrong (.unexpected other none []))
    | '-' :: '-' :: text =>
      match readName progress text with
      | .error stop => .error stop
      | .ok progress => readArguments progress rest
    | '-' :: letter :: letters =>
      match readLetters progress (letter :: letters) with
      | .error stop => .error stop
      | .ok progress => readArguments progress rest
    | _ =>
      match progress.pending with
      | some (flag, none) =>
        readArguments { progress with pending := some (flag, some argument) } rest
      | _ => .error (.wrong (.unexpected argument none []))

/-- The error of flags that exclude each other. The one that was given first is named first. -/
def conflict? (used : List Flag) : Option UsageError :=
  match used.filter fun flag => flag == .watch || flag == .once with
  | first :: second :: _ => some (.conflict first second (used.filter (· != second)))
  | _ => none

/-- The options that flags stand for. -/
def ofGiven (given : List (Flag × String)) : Options :=
  let path (flag : Flag) := (given.lookup flag).map Path.mk
  let has (flag : Flag) := (given.lookup flag).isSome
  { directory := path .directory
    queries := path .queries
    config := path .config
    watch := has .watch
    once := has .once
    reconfigure := has .reconfigure
    json := has .json
    ast := has .ast
    tokens := has .tokens
    verbose := has .verbose }

/-- The options of arguments. -/
def ofArguments (arguments : List String) : Except OptionsStop Options :=
  match readArguments .start arguments with
  | .error stop => .error stop
  | .ok progress =>
    match conflict? progress.used with
    | some error => .error (.wrong error)
    | none => .ok (ofGiven progress.given)

end Options

end FileQuery
