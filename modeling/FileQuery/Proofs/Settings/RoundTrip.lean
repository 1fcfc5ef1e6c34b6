import FileQuery.Proofs.Archive.Unpacked
import FileQuery.Proofs.FileTree.Missing
import FileQuery.Proofs.FileTree.Reordering
import FileQuery.Settings.Sources
import Mathlib.Tactic.IntervalCases

/-!
# Settings that are written and read back

A string that is printed between quotes is read as it was, whatever its characters are
(`readString_quoted`). The members of printed settings are read one after another
(`readMembers_printed`), so settings come back from their text (`read_text`), and so do those that
a file holds only some of (`read_partialText`).

Settings that are saved are read from the file (`ofFile_of_save`). By a path that leads to a file, or
to where nothing is in a folder, they can always be saved (`save_of_writable`). Where they cannot be
saved, no file is changed: at most folders are new (`FileTree.AddsFolders`).
-/

namespace FileQuery

/-! ## Strings -/

namespace JsonText

variable {c d : Char} {text rest after : List Char}

/-- A hexadecimal digit has the value that it is written for. -/
theorem hexDigit?_hexDigit {value : Nat} (small : value < 16) :
    Unicode.hexDigit? (Json.hexDigit value) = some value := by
  interval_cases value <;> rfl

/-- Four digits of a number below 256 are read as the number. -/
theorem readHex_byte {value : Nat} (small : value < 256) (rest : List Char) :
    readHex ('0' :: '0' :: Json.hexDigit (value / 16) :: Json.hexDigit (value % 16) :: rest) =
      .ok (value, rest) := by
  have high := hexDigit?_hexDigit (show value / 16 < 16 by omega)
  have low := hexDigit?_hexDigit (Nat.mod_lt value (by decide : 0 < 16))
  have zero : Unicode.hexDigit? '0' = some 0 := rfl
  have enough : ¬ Text.byteLength ('0' :: '0' :: Json.hexDigit (value / 16) ::
      Json.hexDigit (value % 16) :: rest) < 4 := by
    have first := (Json.hexDigit (value / 16)).utf8Size_pos
    have second := (Json.hexDigit (value % 16)).utf8Size_pos
    have zeros : '0'.utf8Size = 1 := rfl
    simp only [Text.byteLength_cons, zeros]
    omega
  rw [readHex, if_neg enough]
  simp only [List.take_succ_cons, List.take_zero, List.mapM_cons, List.mapM_nil, zero, high, low,
    Option.pure_def, Option.bind_eq_bind, Option.bind_some, List.drop_succ_cons, List.drop_zero,
    Nat.zero_mul, Nat.zero_add, Nat.div_add_mod']

/-- What is written after a backslash is read as its character. -/
theorem readString_backslash (read : readEscape text = .ok (c, after)) :
    readString ('\\' :: text) =
      (readString after).map fun (read, final) => (c :: read, final) := by
  rw [readString, if_neg (by decide), if_pos rfl]
  split
  · rename_i failed
    rw [read] at failed
    contradiction
  · rename_i found
    obtain ⟨rfl, rfl⟩ := Prod.mk.inj (Except.ok.inj (read.symm.trans found))
    rfl

/-- A control character is escaped as a code. -/
theorem readEscape_control (control : c.toNat < 32) (text : List Char) :
    readEscape ('u' :: '0' :: '0' :: Json.hexDigit (c.toNat / 16) ::
      Json.hexDigit (c.toNat % 16) :: text) = .ok (c, text) := by
  have noTrailing : isTrailing c.toNat = false := by
    simp only [isTrailing, Bool.and_eq_false_iff, decide_eq_false_iff_not]
    omega
  have noLeading : isLeading c.toNat = false := by
    simp only [isLeading, Bool.and_eq_false_iff, decide_eq_false_iff_not]
    omega
  change readCode _ = _
  rw [readCode, readHex_byte (control.trans (by decide))]
  simp only [noTrailing, noLeading, Bool.false_eq_true, if_false, Char.ofNat_toNat]

/-- A character is read as it was before it was escaped. -/
theorem readString_escape (c : Char) (text : List Char) :
    readString (Json.escape c ++ text) =
      (readString text).map fun (read, final) => (c :: read, final) := by
  by_cases named : c = '"' ∨ c = '\\' ∨ c = '\n' ∨ c = '\r' ∨ c = '\t' ∨ c = '\x08' ∨ c = '\x0c'
  · rcases named with rfl | rfl | rfl | rfl | rfl | rfl | rfl <;> exact readString_backslash rfl
  simp only [not_or] at named
  obtain ⟨noQuote, noBackslash, noFeed, noReturn, noTab, noBack, noForm⟩ := named
  simp only [Json.escape, noQuote, noBackslash, noFeed, noReturn, noTab, noBack, noForm, if_false]
  split
  · rename_i control
    exact readString_backslash (readEscape_control control text)
  · rename_i noControl
    rw [List.singleton_append, readString, if_neg noQuote, if_neg noBackslash, if_neg noControl]

/-- A string that is printed between quotes is read as it was. -/
theorem readString_quoted (text rest : List Char) :
    readString (text.flatMap Json.escape ++ '"' :: rest) = .ok (text, rest) := by
  induction text with
  | nil => rw [List.flatMap_nil, List.nil_append, readString, if_pos rfl]
  | cons c text inductionHypothesis =>
    rw [List.flatMap_cons, List.append_assoc, readString_escape, inductionHypothesis]
    rfl

end JsonText

/-! ## Members -/

namespace Settings

open JsonText

variable {found found' final : Found} {member : String × Json} {later : List (String × Json)}
  {settings : Settings}

/-- Reading a printed member after its key goes from what has been found to more. -/
def Takes (member : String × Json) (found found' : Found) : Prop :=
  ∀ rest, readMember member.1 found (':' :: ' ' :: (Json.print 1 member.2 ++ rest)) =
    .ok (found', rest)

/-- Reading printed members one after another. -/
inductive TakesAll : List (String × Json) → Found → Found → Prop
  | nil (found : Found) : TakesAll [] found found
  | cons {member : String × Json} {later : List (String × Json)} {found found' final : Found}
      (first : Takes member found found') (rest : TakesAll later found' final) :
      TakesAll (member :: later) found final

theorem readPath_printed (text : String) (rest : List Char) :
    readPath (' ' :: (Json.print 1 (.string text) ++ rest)) = .ok (some ⟨text⟩, rest) := by
  rw [Json.print, Json.quote, List.cons_append, List.append_assoc, List.singleton_append]
  change (readString _).map _ = _
  rw [readString_quoted]
  simp [Except.map]

theorem takes_directory (new : found.directory = none) (path : Path) :
    Takes ("directory", .string path.text) found { found with directory := some (some path) } := by
  intro rest
  rw [readMember, if_pos rfl, new]
  change (readPath _ >>= _) = _
  rw [readPath_printed]
  rfl

theorem takes_queries (new : found.queries = none) (path : Path) :
    Takes ("queries", .string path.text) found { found with queries := some (some path) } := by
  intro rest
  rw [readMember, if_neg (by simp), if_pos rfl, new]
  change (readPath _ >>= _) = _
  rw [readPath_printed]
  rfl

theorem takes_watch (new : found.watch = none) (watch : Bool) :
    Takes ("watch", .bool watch) found { found with watch := some watch } := by
  intro rest
  rw [readMember, if_neg (by simp), if_neg (by simp), if_pos rfl, new]
  cases watch <;> rfl

theorem printMembers_cons (member : String × Json) (later : List (String × Json))
    (text : List Char) : Json.printMembers 1 (member :: later) ++ text =
      ',' :: '\n' :: ' ' :: ' ' :: (Json.quote member.1 ++ ':' :: ' ' ::
        (Json.print 1 member.2 ++ (Json.printMembers 1 later ++ text))) := by
  simp [Json.printMembers, Json.newLine]

theorem readMembers_printed (takes : TakesAll (member :: later) found final) {count : Nat}
    (enough : later.length < count) :
    readMembers count found (Json.quote member.1 ++ ':' :: ' ' :: (Json.print 1 member.2 ++
      (Json.printMembers 1 later ++ ['\n', '\x7d']))) = .ok (final, []) := by
  induction later generalizing member found count with
  | nil =>
    obtain ⟨count, rfl⟩ := Nat.exists_eq_succ_of_ne_zero (Nat.ne_of_gt enough)
    cases takes with
    | cons first rest =>
      cases rest
      rw [Json.quote, List.cons_append, readMembers, List.append_assoc, List.singleton_append,
        readString_quoted]
      simp only [bind, Except.bind, String.ofList_toList]
      rw [first]
      rfl
  | cons next later inductionHypothesis =>
    obtain ⟨count, rfl⟩ := Nat.exists_eq_succ_of_ne_zero (Nat.ne_of_gt (Nat.zero_lt_of_lt enough))
    cases takes with
    | cons first rest =>
      rw [Json.quote, List.cons_append, readMembers, List.append_assoc, List.singleton_append,
        readString_quoted]
      simp only [bind, Except.bind, String.ofList_toList]
      rw [first, printMembers_cons]
      exact inductionHypothesis rest (Nat.lt_of_succ_lt_succ enough)

theorem length_le_printMembers (later : List (String × Json)) :
    later.length ≤ (Json.printMembers 1 later).length := by
  induction later with
  | nil => exact Nat.zero_le _
  | cons member later inductionHypothesis =>
    rw [Json.printMembers]
    simp only [List.length_append, List.length_cons]
    omega

/-- Settings are read from a printed object whose members are read. -/
theorem readCharacters_printed (takes : TakesAll (member :: later) .nothing final) :
    readCharacters (Json.print 0 (.object (member :: later))) = .ok final.settings := by
  obtain ⟨name, value⟩ := member
  have printed : Json.print 0 (.object ((name, value) :: later)) =
      '\x7b' :: '\n' :: ' ' :: ' ' :: (Json.quote name ++ ':' :: ' ' :: (Json.print 1 value ++
        (Json.printMembers 1 later ++ ['\n', '\x7d']))) := by
    simp [Json.print, Json.newLine]
  have enough : later.length < (Json.quote name ++ ':' :: ' ' :: (Json.print 1 value ++
      (Json.printMembers 1 later ++ ['\n', '\x7d']))).length + 1 := by
    have := length_le_printMembers later
    simp only [List.length_append, List.length_cons]
    omega
  have members : readObject ('\n' :: ' ' :: ' ' :: (Json.quote name ++ ':' :: ' ' ::
      (Json.print 1 value ++ (Json.printMembers 1 later ++ ['\n', '\x7d'])))) = .ok (final, []) :=
    readMembers_printed takes enough
  rw [printed]
  change (readObject _ >>= _) = _
  rw [members]
  rfl

/-- The member for a truth value, if there is one. -/
def flagMember (name : String) : Option Bool → List (String × Json)
  | some value => [(name, .bool value)]
  | none => []

/-- Members are read as what they are printed for. -/
theorem takesAll_members (directory queries : Option Path) (watch : Option Bool) :
    TakesAll (pathMember "directory" directory ++ pathMember "queries" queries ++
      flagMember "watch" watch) .nothing ⟨directory.map some, queries.map some, watch⟩ := by
  have last {found : Found} (new : found.watch = none) :
      TakesAll (flagMember "watch" watch) found { found with watch := watch } := by
    cases watch with
    | none =>
      obtain ⟨_, _, _⟩ := found
      obtain rfl := new
      exact .nil _
    | some value => exact .cons (takes_watch new value) (.nil _)
  cases directory with
  | none =>
    cases queries with
    | none => exact last rfl
    | some file => exact .cons (takes_queries rfl file) (last rfl)
  | some folder =>
    refine .cons (takes_directory rfl folder) ?_
    cases queries with
    | none => exact last rfl
    | some file => exact .cons (takes_queries rfl file) (last rfl)

/-- The text of a file that holds some of the settings. -/
def partialText (directory queries : Option Path) (watch : Option Bool) : String :=
  (Json.object (pathMember "directory" directory ++ pathMember "queries" queries ++
    flagMember "watch" watch)).text

/-- The settings that a file does not hold are not known, or are not to watch. -/
theorem read_partialText (directory queries : Option Path) (watch : Option Bool) :
    read (partialText directory queries watch) = .ok ⟨directory, queries, watch.getD false⟩ := by
  have takes := takesAll_members directory queries watch
  have settings : (Found.mk (directory.map some) (queries.map some) watch).settings =
      ⟨directory, queries, watch.getD false⟩ := by
    cases directory <;> cases queries <;> rfl
  rw [read, partialText, Json.text, String.toList_ofList]
  revert takes
  cases members : pathMember "directory" directory ++ pathMember "queries" queries ++
      flagMember "watch" watch with
  | nil =>
    intro takes
    generalize Found.mk (directory.map some) (queries.map some) watch = found at takes settings
    cases takes
    exact congrArg Except.ok settings
  | cons member later =>
    intro takes
    rw [readCharacters_printed takes, settings]

/-- Settings are read from their text. -/
theorem read_text (settings : Settings) : read settings.text = .ok settings :=
  read_partialText settings.directory settings.queries (some settings.watch)

end Settings

/-! ## Files -/

namespace FileTree

variable {tree later changed : FileTree} {path : Path} {place : Place} {bytes : List UInt8}

/-- A later tree is as before, but for folders where nothing was. -/
structure AddsFolders (tree later : FileTree) : Prop where
  keeps : tree.Keeps later
  substance : ∀ place, later.substance? place = tree.substance? place ∨
    tree.substance? place = none ∧ later.substance? place = some .folder

theorem AddsFolders.refl (tree : FileTree) : tree.AddsFolders tree :=
  ⟨.refl tree, fun _ => .inl rfl⟩

/-- A folder that is made is the only change. -/
theorem AddsFolders.makeFolder {before : FileTree} (adds : before.AddsFolders tree)
    (grounded : tree.Grounded) (made : tree.makeFolder path = .ok changed) :
    before.AddsFolders changed := by
  have keeps := keeps_makeFolder made
  obtain ⟨place, slash, leads, rfl⟩ := makeFolder_eq_ok made
  have free : tree.get? place = none := (resolve_node? leads).symm
  obtain ⟨folder, name, stamps, entries, rfl, -, isFolder⟩ :=
    (comesOut_of_resolve leads).exists_folder (exists_folder_at_start path.text grounded)
      (unslashed_names _) rfl
  refine ⟨adds.keeps.trans keeps, fun other => ?_⟩
  rw [substance?_insert isFolder free fun _ _ => rfl]
  split
  · rename_i same
    subst same
    refine .inr ⟨?_, rfl⟩
    have nothing : tree.substance? (folder ++ [name]) = none := by rw [substance?, free]; rfl
    rcases adds.substance (folder ++ [name]) with before | ⟨before, -⟩
    · exact before.symm.trans nothing
    · exact before
  · exact adds.substance other

/-- What holds on when a folder is made holds on when missing folders are. -/
theorem maintains_missing {holds : FileTree → Prop}
    (makes : ∀ path tree changed, holds tree → tree.makeFolder path = .ok changed → holds changed)
    (paths : List Path) : (makeMissing paths).Maintains holds := by
  induction paths with
  | nil => exact Changes.maintains_of_unchanged fun _ => rfl
  | cons path above inductionHypothesis =>
    intro tree initial
    have middle := inductionHypothesis tree initial
    unfold makeMissing
    split
    · exact initial
    split
    · rename_i made
      exact makes path tree _ initial made
    · rcases reached : makeMissing above tree with ⟨error | _, later⟩
      · rwa [reached] at middle
      · rw [reached] at middle
        dsimp only
        split
        · rename_i made
          exact makes path later _ middle made
        · exact middle
    · exact initial

/-- Missing folders that are made are the only change. -/
theorem addsFolders_makeFolders (grounded : tree.Grounded) (path : Path) :
    tree.AddsFolders (makeFolders path tree).2 := by
  refine (@maintains_missing (fun later => tree.AddsFolders later ∧ later.Grounded)
    (fun path stage changed adds made => ?_) _ tree ⟨.refl tree, grounded⟩).1
  exact ⟨adds.1.makeFolder adds.2 made, adds.2.keeps (keeps_makeFolder made)⟩

/-- The path by which a file was written leads to it. -/
theorem resolve_of_write (grounded : tree.Grounded)
    (written : tree.write path bytes = .ok changed) :
    ∃ place stamps executable, changed.resolve .follow path =
      .ok ⟨place, some (.file stamps executable bytes), false⟩ := by
  have keeps := keeps_write written
  unfold write at written
  split at written
  · contradiction
  rename_i opened place opens
  obtain rfl := Except.ok.inj written
  have empty : opened.substance? place = some (.file []) := by
    rw [(substance?_truncate grounded opens).1, if_pos rfl]
  obtain ⟨stamps, executable, found⟩ := substance?_eq_file.mp empty
  have holds : (opened.rewrite place (opened.isExecutable place) bytes).substance? place =
      some (.file bytes) := by
    rw [substance?_rewrite _ found, if_pos rfl]
  obtain ⟨_, _, isFile⟩ := substance?_eq_file.mp holds
  exact ⟨_, _, _, resolve_again opens keeps isFile⟩

/-- What is written can be read by the same path. -/
theorem read_of_write (grounded : tree.Grounded) (written : tree.write path bytes = .ok changed) :
    changed.read path = .ok bytes := by
  obtain ⟨place, stamps, executable, leads⟩ := resolve_of_write grounded written
  rw [read, find, locate, leads]
  rfl

/-- A path that can be written: it leads to a file, or to where nothing is in a folder. -/
def Writable (tree : FileTree) (path : Path) : Prop :=
  ∃ place node?, tree.resolve .follow path = .ok ⟨place, node?, false⟩ ∧
    ∀ node, node? = some node → node.isFile = true

theorem Writable.exists_write (writable : tree.Writable path) (bytes : List UInt8) :
    ∃ changed, tree.write path bytes = .ok changed := by
  obtain ⟨place, node?, leads, isFile⟩ := writable
  have opens : ∃ opened, tree.truncate path = .ok (opened, place) := by
    rw [truncate, leads]
    cases node? with
    | none => exact ⟨_, rfl⟩
    | some node =>
      cases node with
      | file => exact ⟨_, rfl⟩
      | folder | link => cases isFile _ rfl
  obtain ⟨opened, opens⟩ := opens
  exact ⟨_, by rw [write, opens]⟩

/-- A path that leads to a folder does not come out at anything else. -/
theorem isFolder_of_reaches {left : Nat} {goal : Place} {destination : Destination}
    (reaches : tree.Reaches path left goal)
    (isFolder : ∃ stamps entries, tree.get? goal = some (.folder stamps entries))
    (leads : tree.resolve .follow path = .ok destination) :
    ∃ stamps entries, destination.node? = some (.folder stamps entries) := by
  obtain ⟨stamps, entries, isFolder⟩ := isFolder
  obtain ⟨place, node, slash, goes, same⟩ := Leads.exists_destination reaches isFolder .follow
  obtain rfl := same rfl
  have found := resolve_node? leads
  unfold resolve at leads
  split at leads
  · contradiction
  obtain rfl := Except.ok.inj (goes.symm.trans leads)
  exact ⟨stamps, entries, found.trans isFolder⟩

/-- A path that leads to something other than a folder leads through the folder of its parent. -/
theorem exists_parent_of_resolve (grounded : tree.Grounded) {destination : Destination}
    (leads : tree.resolve .follow path = .ok destination)
    (notFolder : ∀ stamps entries, destination.node? ≠ some (.folder stamps entries)) :
    ∃ parent left goal stamps entries, path.parent? = some parent ∧
      parent.text.toList <+: path.text.toList ∧ tree.Reaches parent left goal ∧
      tree.get? goal = some (.folder stamps entries) := by
  have isFolder := exists_folder_at_start path.text grounded
  rcases List.eq_nil_or_concat (steps path) with none | ⟨front, last, taken⟩
  · obtain ⟨stamps, entries, found⟩ := isFolder_of_reaches (.of_silent none) isFolder leads
    exact absurd found (notFolder stamps entries)
  rw [List.concat_eq_append] at taken
  obtain ⟨parent, above, starts, start', taken'⟩ := Path.exists_parent taken
  obtain ⟨before, after, whole, first, second⟩ := List.filter_eq_append_iff.mp taken
  have goesOn : after.all (· == "") = false := not_final_of_speaks (by simp [second])
  have out := comesOut_of_resolve leads
  rw [whole] at out
  obtain ⟨left, goal, way, -⟩ := out.exists_leads goesOn
  obtain ⟨stamps, entries, found⟩ := way.exists_folder isFolder
  refine ⟨parent, left, goal, stamps, entries, above, starts, ?_, found⟩
  rw [Reaches, start, start']
  exact way.congr (taken'.trans first.symm)

end FileTree

namespace Settings

variable {tree : FileTree}

/-- To save settings is to write the file after the folder of it is made, if the path has one. -/
theorem exists_save_eq (path : Path) :
    ∃ prepare : Changes FileError Unit,
      (∀ settings : Settings, settings.save path = prepare >>= fun _ =>
        Changes.ofChange fun tree => tree.write path (Text.encode settings.text)) ∧
      (prepare = pure () ∨ ∃ folder, path.parent? = some folder ∧ folder.text ≠ "" ∧
        prepare = FileTree.makeFolders folder) := by
  unfold save
  cases path.parent? with
  | none => exact ⟨pure (), fun _ => rfl, .inl rfl⟩
  | some folder =>
    by_cases empty : folder.text.isEmpty = true
    · exact ⟨pure (), fun _ => if_pos empty, .inl rfl⟩
    · exact ⟨FileTree.makeFolders folder, fun _ => if_neg empty,
        .inr ⟨folder, rfl, by simpa using empty, rfl⟩⟩

/-- To save settings is to write the file when at most folders have been made. -/
theorem save_cases (grounded : tree.Grounded) (settings : Settings) (path : Path) :
    ∃ middle : FileTree, tree.AddsFolders middle ∧
      ((∃ error, settings.save path tree = (.error error, middle)) ∨
        ∃ changed, middle.write path (Text.encode settings.text) = .ok changed ∧
          settings.save path tree = (.ok (), changed)) := by
  obtain ⟨prepare, saves, prepares⟩ := exists_save_eq path
  have adds : tree.AddsFolders (prepare tree).2 := by
    rcases prepares with rfl | ⟨folder, -, -, rfl⟩
    · exact .refl tree
    · exact FileTree.addsFolders_makeFolders grounded folder
  refine ⟨(prepare tree).2, adds, ?_⟩
  rw [saves settings, Changes.bind_apply]
  rcases prepare tree with ⟨error | _, middle⟩
  · exact .inl ⟨error, rfl⟩
  dsimp only [Changes.ofChange]
  cases middle.write path (Text.encode settings.text) with
  | error error => exact .inl ⟨error, rfl⟩
  | ok changed => exact .inr ⟨changed, rfl, rfl⟩

/-- Settings can be saved by a path that can be written. -/
theorem save_of_writable (grounded : tree.Grounded) (settings : Settings) {path : Path}
    (writable : tree.Writable path) : (settings.save path tree).1 = .ok () := by
  obtain ⟨changed, written⟩ := writable.exists_write (Text.encode settings.text)
  obtain ⟨place, node?, leads, isFile⟩ := writable
  obtain ⟨parent, left, goal, stamps, entries, above, starts, reaches, isFolder⟩ :=
    FileTree.exists_parent_of_resolve grounded leads fun _ _ found => by cases isFile _ found
  obtain ⟨prepare, saves, prepares⟩ := exists_save_eq path
  have stays : prepare tree = (.ok (), tree) := by
    rcases prepares with rfl | ⟨folder, above', named, rfl⟩
    · rfl
    obtain rfl := Option.some.inj (above.symm.trans above')
    have check := FileTree.checkPath_of_prefix starts (by simpa using named)
      (FileTree.checkPath_of_resolve leads)
    refine Archive.makeFolders_of_reaches reaches ?_ ⟨stamps, entries, isFolder⟩
    rw [FileTree.isFolder, FileTree.find_of_reaches reaches isFolder check]
    rfl
  rw [saves settings, Changes.bind_apply, stays]
  dsimp only [Changes.ofChange]
  rw [written]

/-- Settings that are saved are read from the file. -/
theorem ofFile_of_save (grounded : tree.Grounded) {settings : Settings} {path : Path}
    (saved : (settings.save path tree).1 = .ok ()) :
    ofFile (settings.save path tree).2 path = .ok settings := by
  obtain ⟨middle, adds, ⟨error, fails⟩ | ⟨changed, written, saves⟩⟩ :=
    save_cases grounded settings path
  · rw [fails] at saved
    contradiction
  · have reads := FileTree.read_of_write (grounded.keeps adds.keeps) written
    rw [saves, ofFile, FileTree.readText, reads]
    dsimp only
    rw [Text.decode?_encode]
    dsimp only
    rw [read_text]
    rfl

end Settings

end FileQuery
