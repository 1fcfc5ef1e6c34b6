import FileQuery.Proofs.Confinement.Actions
import FileQuery.Proofs.FileTree.ClearWays

/-!
# Unpacking that stays below a folder

The entries of an archive are made by names from the place of the folder in which they are unpacked,
and on the way down no link is passed. So nothing is made elsewhere, whatever the entries are called
and wherever the links lead that they are. What was there before an entry was made is there after
it, so the next archive is unpacked in the same folder.
-/

namespace FileQuery

/-- A tree that came of another one by changes below a folder, in which a folder is that something
    is unpacked in. -/
structure Unpacking (place goal : Place) (before tree : FileTree) : Prop where
  enclosed : Enclosed (fun _ => True) place before tree
  isFolder : ∃ stamps entries, tree.get? goal = some (.folder stamps entries)

/-- Changes that are made while something is unpacked: from a tree with a first property they come
    to one with a last property, and what was there stays what it is. -/
def Changes.Unpacks {ε α : Type} (place goal : Place) (before : FileTree) (first : FileTree → Prop)
    (changes : Changes ε α) (last : α → FileTree → Prop) : Prop :=
  ∀ tree, Unpacking place goal before tree → first tree →
    Unpacking place goal before (changes tree).2 ∧ tree.Keeps (changes tree).2 ∧
      ∀ value, (changes tree).1 = .ok value → last value (changes tree).2

variable {place goal whole : Place} {before tree changed : FileTree} {path : Path} {name : String}

/-- The names on the way to what is below the folder are names, if those to the folder are. -/
theorem Enclosed.areNames {allowed : String → Prop} (enclosed : Enclosed allowed place before tree)
    (areNames : ∀ name ∈ place, IsName name) (placed : place <+: goal) {node : Node}
    (found : tree.get? goal = some node) : ∀ name ∈ goal, IsName name := by
  obtain ⟨below, rfl⟩ := placed
  obtain ⟨-, stamps, entries, isFolder, throughout⟩ := enclosed
  rw [FileTree.get?_append, isFolder] at found
  exact List.forall_mem_append.mpr ⟨areNames, throughout.areNames found⟩

namespace Unpacking

/-- What stays what it is is still being unpacked. -/
theorem later (unpacking : Unpacking place goal before tree) (keeps : tree.Keeps changed)
    (enclosed : Enclosed (fun _ => True) place before changed) :
    Unpacking place goal before changed := by
  obtain ⟨stamps, entries, isFolder⟩ := unpacking.isFolder
  exact ⟨enclosed, keeps.folders goal stamps entries isFolder⟩

theorem rootFolder (unpacking : Unpacking place goal before tree) :
    ∃ stamps entries, tree.get? [] = some (.folder stamps entries) := by
  obtain ⟨stamps, entries, isFolder⟩ := unpacking.isFolder
  by_cases atRoot : goal = []
  · exact ⟨stamps, entries, atRoot ▸ isFolder⟩
  · have found : tree.get? ([] ++ goal) = some (.folder stamps entries) := isFolder
    exact FileTree.exists_folder_above found atRoot

theorem clear (unpacking : Unpacking place goal before tree) : tree.Clear goal := by
  obtain ⟨stamps, entries, isFolder⟩ := unpacking.isFolder
  exact FileTree.clear_of_get? isFolder (by simp)

/-- Where nothing is, on the way down from the goal or up to it, is below the goal. -/
theorem goal_above (unpacking : Unpacking place goal before tree)
    (free : tree.get? (whole ++ [name]) = none)
    (near : goal <+: whole ++ [name] ∨ whole ++ [name] <+: goal) : goal <+: whole := by
  obtain ⟨stamps, entries, isFolder⟩ := unpacking.isFolder
  rcases near with below | ⟨rest, rfl⟩
  · rcases List.prefix_concat_iff.mp below with rfl | below
    · rw [free] at isFolder
      contradiction
    · exact below
  · rw [FileTree.get?_append, free] at isFolder
    contradiction

/-- Something without entries is put below the goal, where nothing was. -/
theorem insert (unpacking : Unpacking place goal before tree) (placed : place <+: goal)
    (below : goal <+: whole) (isName : IsName name)
    (free : tree.get? (whole ++ [name]) = none) {made : Node}
    (orderly : made.Throughout fun _ => True)
    (empty : ∀ next rest, made.get? (next :: rest) = none) :
    Unpacking place goal before (tree.insert (whole ++ [name]) made) ∧
      tree.Keeps (tree.insert (whole ++ [name]) made) := by
  have keeps := FileTree.keeps_insert free empty
  obtain ⟨rest, rfl⟩ := placed.trans below
  exact ⟨unpacking.later keeps (unpacking.enclosed.insert rest isName orderly), keeps⟩

/-- A file below the goal is written to. -/
theorem rewrite (unpacking : Unpacking place goal before tree) (placed : place <+: goal)
    (below : goal <+: whole) (executable : Bool) (bytes : List UInt8) :
    Unpacking place goal before (tree.rewrite whole executable bytes) ∧
      tree.Keeps (tree.rewrite whole executable bytes) := by
  have keeps : tree.Keeps (tree.rewrite whole executable bytes) :=
    FileTree.keeps_edit (fun _ _ _ => ⟨_, _, _, rfl⟩) (fun _ _ => rfl) fun _ => rfl
  obtain ⟨rest, rfl⟩ := placed.trans below
  exact ⟨unpacking.later keeps (unpacking.enclosed.rewrite rest executable bytes), keeps⟩

end Unpacking

namespace Changes

variable {ε δ α β : Type} {first other : FileTree → Prop} {last : α → FileTree → Prop}
  {final : β → FileTree → Prop}

theorem unpacks_of_unchanged {changes : Changes ε α} (same : ∀ tree, (changes tree).2 = tree)
    (tells : ∀ tree value, first tree → (changes tree).1 = .ok value → last value tree) :
    changes.Unpacks place goal before first last := by
  intro tree unpacking initial
  rw [same tree]
  exact ⟨unpacking, .refl tree, fun value => tells tree value initial⟩

theorem unpacks_ofChange {change : FileTree → Except ε FileTree} {last : FileTree → Prop}
    (makes : ∀ tree changed, Unpacking place goal before tree → first tree →
      change tree = .ok changed →
      Unpacking place goal before changed ∧ tree.Keeps changed ∧ last changed) :
    (ofChange change).Unpacks place goal before first fun _ => last := by
  intro tree unpacking initial
  unfold ofChange
  cases made : change tree with
  | error error => exact ⟨unpacking, .refl tree, by simp⟩
  | ok changed =>
    obtain ⟨unpacking', keeps, last⟩ := makes tree changed unpacking initial made
    exact ⟨unpacking', keeps, fun _ _ => last⟩

theorem Unpacks.mapError {changes : Changes ε α}
    (unpacks : changes.Unpacks place goal before first last) (rename : ε → δ) :
    (changes.mapError rename).Unpacks place goal before first last := by
  intro tree unpacking initial
  have comes := unpacks tree unpacking initial
  unfold Changes.mapError
  generalize changes tree = made at comes ⊢
  obtain ⟨error | value, changed⟩ := made
  · exact ⟨comes.1, comes.2.1, by simp⟩
  · exact ⟨comes.1, comes.2.1, fun value' same => comes.2.2 value' (by simpa using same)⟩

theorem Unpacks.bind {begin : Changes ε α} {next : α → Changes ε β}
    (unpacks : begin.Unpacks place goal before first last)
    (later : ∀ value, (next value).Unpacks place goal before (last value) final) :
    Changes.Unpacks place goal before first (begin >>= next) final := by
  intro tree unpacking initial
  obtain ⟨unpacking', keeps, tells⟩ := unpacks tree unpacking initial
  rw [bind_apply]
  generalize begin tree = made at unpacking' keeps tells ⊢
  obtain ⟨error | value, changed⟩ := made
  · exact ⟨unpacking', keeps, by simp⟩
  · obtain ⟨unpacking'', keeps', tells'⟩ := later value changed unpacking' (tells value rfl)
    exact ⟨unpacking'', keeps.trans keeps', tells'⟩

theorem Unpacks.of_first {changes : Changes ε α}
    (unpacks : changes.Unpacks place goal before first last)
    (implies : ∀ tree, other tree → first tree) : changes.Unpacks place goal before other last :=
  fun tree unpacking initial => unpacks tree unpacking (implies tree initial)

theorem unpacks_of_fact {fact : Prop} {changes : Changes ε α}
    (unpacks : fact → changes.Unpacks place goal before first last) :
    changes.Unpacks place goal before (fun tree => fact ∧ first tree) last :=
  fun tree unpacking initial => unpacks initial.1 tree unpacking initial.2

/-- A property stays that depends only on what is kept. -/
theorem Unpacks.frame {changes : Changes ε α}
    (unpacks : changes.Unpacks place goal before first last)
    (stays : ∀ tree later : FileTree, tree.Keeps later → other tree → other later) :
    changes.Unpacks place goal before (fun tree => first tree ∧ other tree)
      fun value tree => last value tree ∧ other tree := by
  intro tree unpacking initial
  obtain ⟨unpacking', keeps, tells⟩ := unpacks tree unpacking initial.1
  exact ⟨unpacking', keeps, fun value same =>
    ⟨tells value same, stays tree _ keeps initial.2⟩⟩

end Changes

/-! ## Folders -/

/-- Making a folder leaves ways clear. -/
theorem FileTree.Clear.insert {front : Place} (clear : tree.Clear whole)
    (free : tree.get? (front ++ [name]) = none) {stamps : Stamps} {entries : List (String × Node)}
    (isFolder : tree.get? front = some (.folder stamps entries)) (now : Instant) :
    (tree.insert (front ++ [name]) (.emptyFolder now)).Clear whole := by
  intro above target starts linked
  by_cases atPlace : above = front ++ [name]
  · rw [atPlace, FileTree.get?_insert_self _ isFolder] at linked
    cases linked
  have shows := FileTree.shell?_link linked
  by_cases atFolder : above = front
  · rw [atFolder, FileTree.shell?_insert_folder, FileTree.shell?_folder isFolder] at shows
    cases shows
  · rw [FileTree.shell?_insert_other free (fun _ _ => rfl) atFolder atPlace] at shows
    exact clear above target starts (FileTree.get?_of_shell?_link shows)

/-- Missing folders are made below the goal. -/
theorem unpacks_makeFolders (placed : place <+: goal) (within : Path.top.Within path whole)
    (below : goal <+: whole) :
    (FileTree.makeFolders path).Unpacks place goal before (·.Clear whole)
      fun _ tree => tree.Clear whole := by
  intro tree unpacking clear
  have maintains : (FileTree.makeFolders path).Maintains fun later =>
      Unpacking place goal before later ∧ tree.Keeps later ∧ later.Clear whole := by
    refine FileTree.maintains_makeMissing within.stops ?_ ?_
    · rintro path front name later changed within' starts ⟨unpacking, keeps, clear⟩ made
      obtain ⟨reached, slash, leads, rfl⟩ := FileTree.makeFolder_eq_ok made
      obtain ⟨rfl, inFolder⟩ :=
        FileTree.place_of_resolve within' (clear.mono starts) unpacking.rootFolder leads
      obtain ⟨folder, name', stamps, entries, ends, isFolder⟩ := inFolder rfl
      obtain ⟨rfl, -⟩ := List.append_inj' ends rfl
      have free : later.get? (front ++ [name]) = none := (FileTree.resolve_node? leads).symm
      have near := List.prefix_or_prefix_of_prefix below starts
      have isName := within'.areNames name (by simp)
      obtain ⟨unpacking', keeps'⟩ := unpacking.insert placed (unpacking.goal_above free near) isName
        free (Node.throughout_emptyFolder later.now) fun _ _ => rfl
      exact ⟨unpacking', keeps.trans keeps', clear.insert free isFolder _⟩
    · rintro path later within' ⟨unpacking, -, -⟩
      have nowhere : (FileTree.names path.text).filter FileTree.speaks = [] := within'.steps
      refine ⟨FileTree.linkLimit, [], ?_, unpacking.rootFolder⟩
      rw [FileTree.Reaches, FileTree.start_of_within within' _]
      exact .of_silent nowhere
  obtain ⟨unpacking', keeps, clear'⟩ := maintains tree ⟨unpacking, .refl tree, clear⟩
  exact ⟨unpacking', keeps, fun _ _ => clear'⟩

namespace Archive

/-! ## Ways down -/

/-- Settling a name on the way down leaves the way clear to it. -/
theorem unpacks_settle (placed : place <+: goal) (last : Bool)
    (within : Path.top.Within path whole) (below : goal <+: whole) (isName : IsName name) :
    (settle last (path.child name)).Unpacks place goal before (·.Clear whole)
      fun _ tree => tree.Clear (whole ++ [name]) := by
  have within' := within.child isName
  have below' : goal <+: whole ++ [name] := below.trans (List.prefix_append _ _)
  intro tree unpacking clear
  obtain ⟨absent, present⟩ := FileTree.findLink_child within clear isName
  unfold settle
  split
  · rename_i fails
    have free := absent fails
    have clear' : tree.Clear (whole ++ [name]) := clear.concat (by simp [free])
    split
    · exact ⟨unpacking, .refl tree, fun _ _ => clear'⟩
    · exact (unpacks_makeFolders placed within' below').mapError _ tree unpacking clear'
  · exact ⟨unpacking, .refl tree, by simp⟩
  · exact ⟨unpacking, .refl tree, by simp⟩
  all_goals
    rename_i found
    have clear' : tree.Clear (whole ++ [name]) := clear.concat (by simp [present _ found])
    exact ⟨unpacking, .refl tree, fun _ _ => clear'⟩

/-- Going down by names comes to a path on whose way no link is. -/
theorem unpacks_goDown (placed : place <+: goal) {names : List String}
    (areNames : ∀ name ∈ names, IsName name) (within : Path.top.Within path whole)
    (below : goal <+: whole) :
    (goDown names path).Unpacks place goal before (·.Clear whole) fun reached tree =>
      Path.top.Within reached (whole ++ names) ∧ tree.Clear (whole ++ names) := by
  induction names generalizing path whole with
  | nil =>
    rw [List.append_nil]
    refine Changes.unpacks_of_unchanged (fun _ => rfl) fun tree value clear same => ?_
    obtain rfl := Except.ok.inj same
    exact ⟨within, clear⟩
  | cons name rest inductionHypothesis =>
    obtain ⟨isName, areNames'⟩ := List.forall_mem_cons.mp areNames
    have below' : goal <+: whole ++ [name] := below.trans (List.prefix_append _ _)
    rw [List.append_cons]
    exact (unpacks_settle placed _ within below isName).bind fun _ =>
      inductionHypothesis areNames' (within.child isName) below'

/-! ## Entries -/

/-- A path leads to a file below a folder, and no link is on the way. -/
def Filed (goal : Place) (path : Path) (tree : FileTree) : Prop :=
  ∃ whole, Path.top.Within path whole ∧ goal <+: whole ∧
    ∃ stamps executable bytes, tree.get? whole = some (.file stamps executable bytes)

theorem Filed.keeps {later : FileTree} (filed : Filed goal path tree) (keeps : tree.Keeps later) :
    Filed goal path later := by
  obtain ⟨whole, within, below, stamps, executable, bytes, found⟩ := filed
  exact ⟨whole, within, below, keeps.files whole stamps executable bytes found⟩

/-- A link is made on a clear way. -/
theorem unpacks_makeLink (placed : place <+: goal) (within : Path.top.Within path whole)
    (below : goal <+: whole) (target : String) :
    (files (.ofChange fun tree => tree.makeLink path target)).Unpacks place goal before
      (·.Clear whole) fun _ _ => True := by
  refine (Changes.unpacks_ofChange fun tree changed unpacking clear made => ?_).mapError _
  unfold FileTree.makeLink at made
  split at made
  · contradiction
  · contradiction
  · contradiction
  rename_i leads
  split at made
  · contradiction
  obtain rfl := Except.ok.inj made
  obtain ⟨rfl, inFolder⟩ := FileTree.place_of_resolve within clear unpacking.rootFolder leads
  obtain ⟨folder, name, stamps, entries, rfl, -⟩ := inFolder rfl
  have free : tree.get? (folder ++ [name]) = none := (FileTree.resolve_node? leads).symm
  obtain ⟨unpacking', keeps⟩ := unpacking.insert placed (unpacking.goal_above free (.inl below))
    (within.areNames name (by simp)) free (Node.throughout_link trivial) fun _ _ => rfl
  exact ⟨unpacking', keeps, trivial⟩

/-- A file is written on a clear way. -/
theorem unpacks_write (placed : place <+: goal) (within : Path.top.Within path whole)
    (below : goal <+: whole) (bytes : List UInt8) :
    (files (.ofChange fun tree => tree.write path bytes)).Unpacks place goal before
      (·.Clear whole) fun _ tree => Filed goal path tree := by
  refine (Changes.unpacks_ofChange fun tree changed unpacking clear written => ?_).mapError _
  unfold FileTree.write at written
  split at written
  · contradiction
  rename_i opened reached opens
  obtain rfl := Except.ok.inj written
  obtain ⟨node?, slash, leads, made⟩ := FileTree.truncate_eq_ok opens
  obtain ⟨rfl, inFolder⟩ := FileTree.place_of_resolve within clear unpacking.rootFolder leads
  have found := FileTree.resolve_node? leads
  have opening : Unpacking place goal before opened ∧ tree.Keeps opened ∧
      ∃ stamps executable bytes, opened.get? reached = some (.file stamps executable bytes) := by
    rcases made with ⟨rfl, rfl⟩ | ⟨stamps, executable, bytes, rfl, rfl⟩
    · obtain ⟨folder, name, stamps, entries, rfl, isFolder⟩ := inFolder rfl
      have free : tree.get? (folder ++ [name]) = none := found.symm
      obtain ⟨unpacking', keeps⟩ := unpacking.insert placed
        (unpacking.goal_above free (.inl below)) (within.areNames name (by simp)) free
        (Node.throughout_file (.ofInstant tree.now) false []) fun _ _ => rfl
      exact ⟨unpacking', keeps, _, _, _, FileTree.get?_insert_self _ isFolder⟩
    · obtain ⟨unpacking', keeps⟩ := unpacking.rewrite placed below executable []
      exact ⟨unpacking', keeps, keeps.files _ _ _ _ found.symm⟩
  obtain ⟨unpacking', keeps, _, _, _, isFile⟩ := opening
  obtain ⟨unpacking'', keeps'⟩ :=
    unpacking'.rewrite placed below (opened.isExecutable reached) bytes
  exact ⟨unpacking'', keeps.trans keeps', reached, within, below, keeps'.files _ _ _ _ isFile⟩

/-- A file gets a mode. -/
theorem unpacks_setExecutable (placed : place <+: goal) (path : Path) (executable : Bool) :
    (files (.ofChange fun tree => tree.setExecutable path executable)).Unpacks place goal before
      (Filed goal path) fun _ _ => True := by
  refine (Changes.unpacks_ofChange fun tree changed unpacking filed made => ?_).mapError _
  obtain ⟨whole, within, below, stamps, executable', bytes, isFile⟩ := filed
  unfold FileTree.setExecutable at made
  split at made
  · contradiction
  rename_i reached node located
  obtain rfl := Except.ok.inj made
  obtain ⟨slash, leads, -⟩ := FileTree.locate_eq_ok located
  have clear := FileTree.clear_of_get? isFile (by simp)
  obtain ⟨rfl, -⟩ := FileTree.place_of_resolve within clear unpacking.rootFolder leads
  have keeps : tree.Keeps (tree.edit reached (.setExecutable executable)) :=
    FileTree.keeps_edit (fun _ _ _ => ⟨_, _, _, rfl⟩) (fun _ _ => rfl) fun _ => rfl
  obtain ⟨rest, rfl⟩ := placed.trans below
  exact ⟨unpacking.later keeps (unpacking.enclosed.setExecutable rest executable), keeps, trivial⟩

/-- What is simplified are names. -/
theorem areNames_simplified {components : List Component} {names simple : List String}
    (areNames : ∀ name, .name name ∈ components → IsName name)
    (before : ∀ name ∈ names, IsName name)
    (simplifies : Entry.simplified components names = some simple) :
    ∀ name ∈ simple, IsName name := by
  induction components generalizing names with
  | nil =>
    obtain rfl := Option.some.inj simplifies
    exact before
  | cons component rest inductionHypothesis =>
    have later (name : String) (member : .name name ∈ rest) : IsName name :=
      areNames name (List.mem_cons_of_mem _ member)
    cases component with
    | root => contradiction
    | here => exact inductionHypothesis later before simplifies
    | parent =>
      rw [Entry.simplified] at simplifies
      split at simplifies
      · contradiction
      · refine inductionHypothesis later (fun name member => ?_) simplifies
        exact before name ((List.dropLast_sublist _).subset member)
    | name next =>
      refine inductionHypothesis later (fun name member => ?_) simplifies
      rcases List.mem_append.mp member with old | new
      · exact before name old
      · exact List.mem_singleton.mp new ▸ areNames next List.mem_cons_self

/-- The names on the way to an entry are names. -/
theorem areNames_of_names? {entry : Entry} {names : List String}
    (reads : entry.names? = some names) : ∀ name ∈ names, IsName name := by
  unfold Entry.names? at reads
  split at reads
  · contradiction
  · exact areNames_simplified (fun _ among => (Path.isName_of_mem_components among).1) (by simp)
      reads

theorem unpacks_failWith {first : FileTree → Prop} (flaw : Option CompressionFlaw) :
    (failWith flaw).Unpacks place goal before first fun _ => first := by
  cases flaw with
  | none => exact Changes.unpacks_of_unchanged (fun _ => rfl) fun _ _ initial _ => initial
  | some => exact Changes.unpacks_of_unchanged (fun _ => rfl) fun _ _ initial _ => initial

section

variable (placed : place <+: goal) {base : Path} (within : Path.top.Within base goal)

include placed within

/-- An entry is made below the goal. -/
theorem unpacks_extractEntry (archive : List UInt8) (entry : Entry) :
    (extractEntry archive base entry).Unpacks place goal before (fun _ => True) fun mode tree =>
      ∀ file ∈ mode, Filed goal file.1 tree := by
  have looks : (Changes.look fun _ => entry.content archive).Unpacks place goal before
      (fun _ => True) fun _ tree => tree.Clear goal := by
    intro tree unpacking _
    exact ⟨unpacking, .refl tree, fun _ _ => unpacking.clear⟩
  refine looks.bind fun content => ?_
  obtain ⟨bytes, flaw⟩ := content
  dsimp only
  split
  · exact Changes.unpacks_of_unchanged (fun _ => rfl) fun _ _ _ same => by cases same
  rename_i names reads
  have areNames := areNames_of_names? reads
  refine (unpacks_goDown placed areNames within (List.prefix_refl _)).bind fun path => ?_
  refine Changes.unpacks_of_fact fun within' => ?_
  have below : goal <+: goal ++ names := List.prefix_append _ _
  have unfiled (first : FileTree → Prop) :
      (pure none : Changes ArchiveError (Option (Path × Bool))).Unpacks place goal before first
        fun mode tree => ∀ file ∈ mode, Filed goal file.1 tree := by
    refine Changes.unpacks_of_unchanged (fun _ => rfl) fun _ _ _ same => ?_
    obtain rfl := Except.ok.inj same
    simp
  split
  · refine (unpacks_failWith flaw).bind fun _ => ?_
    refine Changes.Unpacks.bind ?_ fun _ => unfiled fun _ => True
    unfold writeLink
    split
    · exact unpacks_makeLink placed within' below _
    · exact Changes.unpacks_of_unchanged (fun _ => rfl) fun _ _ _ _ => trivial
  split
  · exact ((unpacks_makeFolders placed within' below).mapError _).bind fun _ => unfiled _
  · refine (unpacks_write placed within' below bytes).bind fun _ => ?_
    refine (unpacks_failWith flaw).bind fun _ => ?_
    refine Changes.unpacks_of_unchanged (fun _ => rfl) fun tree _ filed same => ?_
    obtain rfl := Except.ok.inj same
    intro file member
    obtain ⟨mode, -, rfl⟩ := Option.map_eq_some_iff.mp member
    exact filed

/-- Entries are made below the goal. -/
theorem unpacks_extractEntries (archive : List UInt8) (entries : List Entry) :
    (extractEntries archive base entries).Unpacks place goal before (fun _ => True)
      fun modes tree => ∀ file ∈ modes, Filed goal file.1 tree := by
  induction entries with
  | nil =>
    refine Changes.unpacks_of_unchanged (fun _ => rfl) fun _ _ _ same => ?_
    obtain rfl := Except.ok.inj same
    simp
  | cons entry rest inductionHypothesis =>
    refine (unpacks_extractEntry placed within archive entry).bind fun mode => ?_
    have stays (tree later : FileTree) (keeps : tree.Keeps later)
        (filed : ∀ file ∈ mode, Filed goal file.1 tree) : ∀ file ∈ mode, Filed goal file.1 later :=
      fun file member => (filed file member).keeps keeps
    refine ((inductionHypothesis.frame stays).bind fun modes => ?_).of_first
      fun tree filed => ⟨trivial, filed⟩
    refine Changes.unpacks_of_unchanged (fun _ => rfl) fun tree _ filed same => ?_
    obtain rfl := Except.ok.inj same
    intro file member
    rcases List.mem_append.mp member with first | later
    · exact filed.2 file (Option.mem_toList.mp first)
    · exact filed.1 file later

omit within in
/-- Files get their modes. -/
theorem unpacks_setModes (modes : List (Path × Bool)) :
    Changes.Unpacks place goal before (fun tree => ∀ file ∈ modes, Filed goal file.1 tree)
      (modes.forM fun (path, executable) =>
        files (.ofChange fun tree => tree.setExecutable path executable)) fun _ _ => True := by
  induction modes with
  | nil => exact Changes.unpacks_of_unchanged (fun _ => rfl) fun _ _ _ _ => trivial
  | cons file rest inductionHypothesis =>
    have stays (tree later : FileTree) (keeps : tree.Keeps later)
        (filed : ∀ file ∈ rest, Filed goal file.1 tree) : ∀ file ∈ rest, Filed goal file.1 later :=
      fun file member => (filed file member).keeps keeps
    refine (((unpacks_setExecutable placed file.1 file.2).frame stays).bind fun _ => ?_).of_first
      fun tree filed => List.forall_mem_cons.mp filed
    exact inductionHypothesis.of_first fun tree filed => filed.2

end

/-- An archive is unpacked below the goal, if the path of the folder leads to it. -/
theorem unpacks_extract (placed : place <+: goal) (areNames : ∀ name ∈ goal, IsName name)
    (archive folder : Path) {left : Nat} :
    (extract archive folder).Unpacks place goal before
      (fun tree => tree.Reaches folder left goal) fun _ _ => True := by
  have within := Path.within_ofPlace areNames
  have looks {ε α : Type} (see : FileTree → Except ε α) :
      (Changes.look see).Unpacks place goal before (fun tree => tree.Reaches folder left goal)
        fun _ tree => tree.Reaches folder left goal :=
    Changes.unpacks_of_unchanged (fun _ => rfl) fun _ _ reaches _ => reaches
  refine ((looks _).mapError _).bind fun bytes => (looks _).bind fun found => ?_
  have folders : (FileTree.makeFolders folder).Unpacks place goal before
      (fun tree => tree.Reaches folder left goal) fun _ tree => tree.Reaches folder left goal := by
    intro tree unpacking reaches
    have same : (FileTree.makeFolders folder tree).2 = tree :=
      FileTree.makeMissing_of_reaches reaches unpacking.isFolder _
    rw [same]
    exact ⟨unpacking, .refl tree, fun _ _ => reaches⟩
  have locates : (Changes.look fun tree => tree.locate .follow folder).Unpacks place goal before
      (fun tree => tree.Reaches folder left goal) fun found _ => found.1 = goal ∧ True := by
    intro tree unpacking reaches
    refine ⟨unpacking, .refl tree, fun located same => ⟨?_, trivial⟩⟩
    obtain ⟨reached, node⟩ := located
    obtain ⟨stamps, entries, isFolder⟩ := unpacking.isFolder
    obtain ⟨slash, leads, -⟩ := FileTree.locate_eq_ok same
    exact (reaches.of_resolve isFolder leads).2 rfl
  refine (folders.mapError _).bind fun _ => (locates.mapError _).bind fun located => ?_
  refine Changes.unpacks_of_fact fun same => ?_
  obtain ⟨reached, node⟩ := located
  obtain rfl : reached = goal := same
  exact (unpacks_extractEntries placed within bytes found).bind (unpacks_setModes placed)

/-- Where no path leads, nothing is unpacked. -/
theorem maintains_extract_nowhere (holds : FileTree → Prop) (archive : Path) :
    (extract archive ⟨""⟩).Maintains holds := by
  refine ((Changes.maintains_look _).mapError _).bind fun _ _ bytes _ _ => ?_
  refine (Changes.maintains_look _).bind fun _ _ found _ _ => ?_
  have folders : (FileTree.makeFolders ⟨""⟩).Maintains holds :=
    Changes.maintains_of_unchanged fun _ => rfl
  refine (folders.mapError _).bind fun _ _ _ _ _ => ?_
  refine ((Changes.maintains_look _).mapError _).bind fun tree changed located _ locates => ?_
  cases locates

end Archive

/-- Unpacking archives one after another maintains what unpacking each of them does. -/
theorem Packing.maintains_into {holds : FileTree → Prop} {root folder : Path} {found : List Path}
    (report : Report)
    (extracts : ∀ path ∈ found, isArchive path = true →
      (Archive.extract path folder).Maintains holds) :
    ((into folder).all root found report).Maintains holds := by
  refine Treatment.maintains_all report fun path member changes treats => ?_
  unfold into at treats
  split at treats
  · rename_i archive
    obtain rfl := Option.some.inj treats
    exact (extracts path member archive).mapError _
  · contradiction

/-- Unpacking archives shows only below the folder. -/
theorem Packing.enclosed_unarchive {root : Path} {rest : List String} {destination : String}
    {found : List Path} (enclosed : Enclosed (Descends place) place before tree)
    (surrounds : before.Surrounds root place) (areNames : ∀ name ∈ place, IsName name)
    (within : root.Within (root.join ⟨destination⟩) rest) :
    Enclosed (fun _ => True) place before (Packing.unarchive root destination found tree).2 := by
  let folder := root.join ⟨destination⟩
  unfold unarchive
  dsimp only
  split
  · have after := Enclosed.maintains_makeFolders surrounds within tree enclosed
    rw [Changes.bind_apply]
    unfold Changes.at Changes.mapError
    rcases made : FileTree.makeFolders folder tree with ⟨error | ⟨⟩, changed⟩
    · rw [made] at after
      exact after.mono fun _ _ => trivial
    rw [made] at after
    dsimp only at after ⊢
    by_cases somewhere : folder.components = []
    · have noText : folder.text = "" := by
        simpa using Path.text_eq_nil_of_components somewhere
      have nowhere : folder = ⟨""⟩ := congrArg Path.mk noText
      have extracts : ∀ path ∈ found, isArchive path = true →
          (Archive.extract path folder).Maintains (Enclosed (fun _ => True) place before) := by
        intro path _ _
        rw [nowhere]
        exact Archive.maintains_extract_nowhere _ path
      exact maintains_into _ extracts changed (after.mono fun _ _ => trivial)
    · obtain ⟨left, goal, reaches, stamps, entries, isFolder⟩ :=
        enclosed.reaches_of_makeFolders surrounds within somewhere made
      have placed := after.reaches_below surrounds within reaches
      have areNames' := after.areNames areNames placed isFolder
      have extracts : ∀ path ∈ found, isArchive path = true →
          (Archive.extract path folder).Maintains fun later =>
            Unpacking place goal before later ∧ later.Reaches folder left goal := by
        rintro path - - tree ⟨unpacking, reaches⟩
        obtain ⟨unpacking', keeps, -⟩ :=
          Archive.unpacks_extract placed areNames' path folder tree unpacking reaches
        exact ⟨unpacking', reaches.keeps keeps⟩
      have unpacking : Unpacking place goal before changed :=
        ⟨after.mono fun _ _ => trivial, stamps, entries, isFolder⟩
      exact (maintains_into _ extracts changed ⟨unpacking, reaches⟩).1.enclosed
  · rename_i none
    have noArchive (path : Path) (member : path ∈ found) : isArchive path ≠ true := fun archive =>
      none (List.any_eq_true.mpr ⟨path, member, archive⟩)
    refine maintains_into _
      (fun path member archive => absurd archive (noArchive path member)) tree ?_
    exact enclosed.mono fun _ _ => trivial

end FileQuery
