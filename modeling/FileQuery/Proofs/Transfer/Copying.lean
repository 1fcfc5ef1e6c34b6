import FileQuery.Proofs.FileTree.Overlay
import FileQuery.Proofs.Transfer.Destinations

/-!
# Copying matches

Whether an entry can be copied is settled before anything is copied: the paths of all that is in it
can be followed, and so can the paths of their copies, and no folder meets a file. So copying an
entry either lays its copy over what was there, or ends with an error. A folder cannot be copied
into itself: what is put into it is copied as well, deeper and deeper, until a path is too long. No
error says that an entry has vanished, because copying takes nothing away.
-/

namespace FileQuery

open FileTree (speaks namingFault pathLimit)

variable {tree before start made later after : FileTree} {base folder root : Path}
  {source goal place : Place} {left left' : Nat} {name next : String} {names : List String}
  {node : Node} {stamps : Stamps} {entries : List (String × Node)} {executable : Bool}
  {bytes : List UInt8}

/-! ## What can be copied -/

namespace Path

/-- The path to a name can be followed if the system finds no fault in it. -/
theorem followable_singleton :
    base.Followable [name] ↔ namingFault (base.child name) name = none := by
  constructor
  · intro followable
    have itself : base.Followable ([] ++ [name]) := followable
    exact itself.namingFault
  · intro fault
    unfold namingFault at fault
    split at fault
    · cases fault
    · rename_i fits
      split at fault
      · cases fault
      · rename_i short
        exact ⟨fits, List.forall_mem_singleton.mpr short⟩

/-- Paths that go down by two names or more can be followed if they can be followed from the first
    name. -/
theorem Followable.cons {below : Place} (first : base.Followable [name])
    (later : (base.child name).Followable (next :: below)) :
    base.Followable (name :: next :: below) :=
  ⟨later.fits, List.forall_mem_cons.mpr ⟨first.short name List.mem_cons_self, later.short⟩⟩

theorem Followable.of_cons {below : Place} (followable : base.Followable (name :: next :: below)) :
    (base.child name).Followable (next :: below) :=
  ⟨followable.fits, fun other listed => followable.short other (List.mem_cons_of_mem _ listed)⟩

end Path

/-- A path to something in a folder is longer than the path to the folder. -/
theorem Path.byteLength_child (base : Path) (isName : IsName name) (isName' : IsName next) :
    Text.byteLength (base.child name).text.toList <
      Text.byteLength ((base.child name).child next).text.toList := by
  have whole : (base.child name).child next = ⟨(base.child name).text ++ "/" ++ next⟩ :=
    join_child base isName isName'.relative
  rw [whole, String.toList_append, String.toList_append, Text.byteLength_append,
    Text.byteLength_append]
  have slash : 0 < Text.byteLength "/".toList := by decide
  omega

namespace FileTree

/-- Whether an entry of one folder can be copied into another one. -/
def Copyable (tree : FileTree) (base folder : Path) (source goal : Place) (name : String) : Prop :=
  ∀ below held, tree.substance? (source ++ name :: below) = some held →
    base.Followable (name :: below) ∧ folder.Followable (name :: below) ∧
      ∀ replaced, tree.substance? (goal ++ name :: below) = some replaced →
        (replaced = .folder ↔ held = .folder)

/-- Whether an entry can be copied depends on what it is, and on what its copy will lie over. -/
theorem copyable_congr
    (origin : ∀ below,
      later.shell? (source ++ name :: below) = tree.shell? (source ++ name :: below))
    (replaced : ∀ below,
      later.shell? (goal ++ name :: below) = tree.shell? (goal ++ name :: below)) :
    later.Copyable base folder source goal name ↔ tree.Copyable base folder source goal name := by
  unfold Copyable
  refine forall₂_congr fun below held => ?_
  rw [substance?_congr (origin below), substance?_congr (replaced below)]

/-- Nothing is in the way of what is not there. -/
theorem copyable_absent (absent : tree.get? (source ++ [name]) = none) :
    tree.Copyable base folder source goal name := by
  intro below held holds
  have nothing : tree.substance? (source ++ name :: below) = none := by
    rw [substance?_eq_none, List.append_cons, get?_append, absent]
    rfl
  cases holds.symm.trans nothing

/-- The folder for a copy changes nothing about whether what is in a folder can be copied. -/
theorem Hosts.copyable_iff (hosts : tree.Hosts goal name made) (clears : Clears source goal name)
    (next : String) :
    made.Copyable base folder (source ++ [name]) (goal ++ [name]) next ↔
      tree.Copyable base folder (source ++ [name]) (goal ++ [name]) next := by
  refine copyable_congr (fun below => ?_) fun below => ?_
  · rw [List.append_assoc]
    exact hosts.shell?_source clears (next :: below)
  · rw [List.append_assoc]
    exact hosts.shell?_below next below

/-- Whether an entry can be copied is not changed by copying others before. -/
theorem Overlaid.copyable_iff {gone : List String}
    (overlaid : start.Overlaid source goal gone later)
    (clear : ∀ next ∈ gone, Clears source goal next)
    (clears : Clears source goal name) (fresh : name ∉ gone) :
    later.Copyable base folder source goal name ↔ start.Copyable base folder source goal name := by
  have untouched := overlaid.untouched clear clears fresh
  exact copyable_congr (fun below => (untouched below).1) fun below => (untouched below).2

/-- A file can be copied if no folder is in its way. -/
theorem copyable_file_iff {bytes : List UInt8}
    (isFile : tree.substance? (source ++ [name]) = some (.file bytes)) :
    tree.Copyable base folder source goal name ↔
      base.Followable [name] ∧ folder.Followable [name] ∧
        tree.substance? (goal ++ [name]) ≠ some .folder := by
  constructor
  · intro copyable
    obtain ⟨followable, followable', fits⟩ := copyable [] _ isFile
    refine ⟨followable, followable', fun isFolder => ?_⟩
    cases (fits _ isFolder).mp rfl
  · rintro ⟨followable, followable', noFolder⟩ below held holds
    cases below with
    | nil =>
      obtain rfl := Option.some.inj (isFile.symm.trans holds)
      refine ⟨followable, followable', fun replaced found => ⟨?_, nofun⟩⟩
      rintro rfl
      exact absurd found noFolder
    | cons next below =>
      obtain ⟨stamps, executable, found⟩ := substance?_eq_file.mp isFile
      have nothing : tree.substance? (source ++ name :: next :: below) = none := by
        rw [substance?_eq_none, List.append_cons, get?_append, found]
        rfl
      cases holds.symm.trans nothing

/-- A folder can be copied if no file is in its way, and all its entries can be copied. -/
theorem copyable_folder_iff (isFolder : tree.substance? (source ++ [name]) = some .folder) :
    tree.Copyable base folder source goal name ↔
      base.Followable [name] ∧ folder.Followable [name] ∧
        (∀ replaced, tree.substance? (goal ++ [name]) = some replaced → replaced = .folder) ∧
        ∀ next, tree.Copyable (base.child name) (folder.child name) (source ++ [name])
          (goal ++ [name]) next := by
  have whole (place : Place) (next : String) (below : Place) :
      place ++ [name] ++ next :: below = place ++ name :: next :: below := by simp
  constructor
  · intro copyable
    obtain ⟨followable, followable', fits⟩ := copyable [] _ isFolder
    refine ⟨followable, followable', fun replaced found => (fits replaced found).mpr rfl, ?_⟩
    intro next below held holds
    rw [whole] at holds
    obtain ⟨deeper, deeper', fits'⟩ := copyable (next :: below) held holds
    refine ⟨deeper.of_cons, deeper'.of_cons, fun replaced found => fits' replaced ?_⟩
    rwa [whole] at found
  · rintro ⟨followable, followable', fits, deeper⟩ below held holds
    cases below with
    | nil =>
      obtain rfl := Option.some.inj (isFolder.symm.trans holds)
      exact ⟨followable, followable', fun replaced found => iff_of_true (fits replaced found) rfl⟩
    | cons next below =>
      rw [← whole] at holds
      obtain ⟨below_, below_', fits'⟩ := deeper next below held holds
      refine ⟨followable.cons below_, followable'.cons below_', fun replaced found => ?_⟩
      rw [← whole] at found
      exact fits' replaced found

end FileTree

/-! ## One entry after another -/

theorem Changes.forM_cons_apply {ε α : Type} (value : α) (rest : List α)
    (step : α → Changes ε PUnit) (tree : FileTree) :
    (value :: rest).forM step tree =
      match step value tree with
      | (.error error, changed) => (.error error, changed)
      | (.ok ⟨⟩, changed) => rest.forM step changed := by
  have unfolded : (value :: rest).forM step = step value >>= fun _ => rest.forM step := rfl
  rw [unfolded, bind_apply]
  rcases step value tree with ⟨error | _, changed⟩ <;> rfl

/-- Steps for values one after another succeed if all values are able to, and else come to an error.
    The stages are told by the keys of the values before. -/
theorem Changes.forM_cases {ε α β : Type} {values : List α} {step : α → Changes ε PUnit}
    {key : α → β} {stage : List β → FileTree → Prop} {able : α → Prop} {gone : List β}
    (distinct : (gone ++ values.map key).Nodup)
    (settles : ∀ gone value later, value ∈ values → key value ∉ gone → stage gone later →
      able value ∧ (∃ changed, step value later = (.ok ⟨⟩, changed) ∧
          stage (gone ++ [key value]) changed) ∨
        ¬ able value ∧ ∃ error changed, step value later = (.error error, changed))
    (staged : stage gone later) :
    (∀ value ∈ values, able value) ∧ (∃ after, values.forM step later = (.ok ⟨⟩, after) ∧
        stage (gone ++ values.map key) after) ∨
      ¬ (∀ value ∈ values, able value) ∧
        ∃ error after, values.forM step later = (.error error, after) := by
  induction values generalizing gone later with
  | nil => exact .inl ⟨by simp, later, rfl, by simpa using staged⟩
  | cons value rest inductionHypothesis =>
    have fresh : key value ∉ gone := fun member =>
      (List.nodup_append.mp distinct).2.2 _ member _ List.mem_cons_self rfl
    have distinct' : ((gone ++ [key value]) ++ rest.map key).Nodup := by simpa using distinct
    rw [forM_cons_apply]
    rcases settles gone value later List.mem_cons_self fresh staged with
      ⟨able, changed, steps, staged'⟩ | ⟨unable, error, changed, steps⟩ <;> rw [steps]
    · have others := inductionHypothesis distinct' (fun gone next later member =>
        settles gone next later (List.mem_cons_of_mem _ member)) staged'
      rw [List.append_assoc, List.singleton_append] at others
      rcases others with ⟨ables, done⟩ | ⟨unable, failed⟩
      · exact .inl ⟨List.forall_mem_cons.mpr ⟨able, ables⟩, done⟩
      · exact .inr ⟨fun ables => unable (List.forall_mem_cons.mp ables).2, failed⟩
    · exact .inr ⟨fun ables => unable (List.forall_mem_cons.mp ables).1, error, changed, rfl⟩

/-- An error at a path says that something has vanished only if nothing is there. -/
theorem isNotFound_file {path : Path} {error : FileError} (present : error ≠ .notFound) :
    (ExecutionError.file path error).isNotFound = false := by
  cases error <;> first | rfl | exact absurd rfl present

theorem FileTree.byteLength_of_checkPath {text : String} (fits : checkPath text = .ok ()) :
    Text.byteLength text.toList < pathLimit := by
  unfold checkPath at fits
  split at fits
  · cases fits
  · split at fits
    · cases fits
    · split at fits
      · cases fits
      · rename_i short
        exact Nat.not_le.mp short

theorem FileTree.short_of_namingFault {path : Path} (fault : namingFault path name = none) :
    ¬ nameLimit < Text.byteLength name.toList := by
  unfold namingFault at fault
  split at fault
  · cases fault
  · intro long
    rw [if_pos long] at fault
    cases fault

/-- Steps for values one after another either all succeed, or end with the error of one of them,
    each in a tree with what all of them preserve. -/
theorem Changes.forM_stages {ε α : Type} {values : List α} {step : α → Changes ε PUnit}
    {invariant : FileTree → Prop}
    (keeps : ∀ value ∈ values, ∀ later, invariant later → invariant (step value later).2)
    (holds : invariant later) :
    (∃ after, values.forM step later = (.ok ⟨⟩, after) ∧
        ∀ value ∈ values, ∃ later changed, invariant later ∧
          step value later = (.ok ⟨⟩, changed)) ∨
      ∃ value ∈ values, ∃ stage error changed, invariant stage ∧
        step value stage = (.error error, changed) ∧
        values.forM step later = (.error error, changed) := by
  induction values generalizing later with
  | nil => exact .inl ⟨later, rfl, by simp⟩
  | cons value rest inductionHypothesis =>
    obtain ⟨keeps_, keeps'⟩ := List.forall_mem_cons.mp keeps
    have after := keeps_ later holds
    rw [forM_cons_apply]
    rcases steps : step value later with ⟨error | _, changed⟩
    · exact .inr ⟨value, List.mem_cons_self, later, error, changed, holds, steps, rfl⟩
    · rw [steps] at after
      rcases inductionHypothesis keeps' after with
        ⟨final, done, each⟩ | ⟨next, member, stage, error, changed', here, fails, ends⟩
      · exact .inl ⟨final, done, List.forall_mem_cons.mpr ⟨⟨later, changed, holds, steps⟩, each⟩⟩
      · exact .inr ⟨next, List.mem_cons_of_mem _ member, stage, error, changed', here, fails, ends⟩

namespace Transfer

/-- What copying a folder does for one of its entries. -/
def copyNode (depth : Nat) (source target : Path) (entry : String × Node) :
    Changes ExecutionError Unit :=
  if entry.2.isFolder then copyTree depth (source.child entry.1) (target.child entry.1)
  else copyFile (source.child entry.1) (target.child entry.1)

/-- A folder is copied by making its copy and copying what is listed in it then. -/
theorem copyTree_succ (depth : Nat) (source target : Path) (tree : FileTree) :
    copyTree (depth + 1) source target tree =
      match tree.list source with
      | .error error => (.error (.file source error), tree)
      | .ok _ =>
        match FileTree.makeFolders target tree with
        | (.error error, changed) => (.error (.file target error), changed)
        | (.ok (), changed) =>
          match changed.list source with
          | .error error => (.error (.file source error), changed)
          | .ok entries => entries.forM (copyNode depth source target) changed := by
  have looks (tree : FileTree) : (Changes.look fun tree => tree.list source).at source tree =
      ((tree.list source).mapError (.file source), tree) := by
    unfold Changes.at Changes.mapError Changes.look
    dsimp only
    cases tree.list source <;> rfl
  unfold copyTree
  rw [Changes.bind_apply, looks]
  cases tree.list source with
  | error error => rfl
  | ok _ =>
    dsimp only [Except.mapError]
    rw [Changes.bind_apply, Changes.at, Changes.mapError]
    rcases FileTree.makeFolders target tree with ⟨error | _, changed⟩
    · rfl
    · dsimp only
      rw [Changes.bind_apply, looks]
      cases changed.list source <;> rfl

theorem copyFile_eq (source target : Path) (tree : FileTree) :
    copyFile source target tree =
      match tree.copyFile source target with
      | .ok changed => (.ok (), changed)
      | .error error => (.error (.file source error), tree) := by
  unfold copyFile Changes.at Changes.mapError Changes.ofChange
  dsimp only
  cases tree.copyFile source target <;> rfl

/-- What can become of copying something: if it can be copied, the copies with some names lie over
    what had their names in the beginning, and else there is an error. -/
def Overlays (able : Prop) (start : FileTree) (source goal : Place) (names : List String)
    (result : Except ExecutionError Unit × FileTree) : Prop :=
  able ∧ (∃ after, result = (.ok (), after) ∧ start.Overlaid source goal names after) ∨
    ¬ able ∧ ∃ error after, result = (.error error, after)

section

variable {able able' : Prop} {result : Except ExecutionError Unit × FileTree} {gone : List String}

theorem Overlays.congr (overlays : Overlays able start source goal names result)
    (same : able ↔ able') : Overlays able' start source goal names result := by
  rwa [Overlays, ← same]

/-- What is copied after other entries lies there with them. -/
theorem Overlays.onward (overlays : Overlays able later source goal [name] result)
    (overlaid : start.Overlaid source goal gone later)
    (clear : ∀ next ∈ gone, FileTree.Clears source goal next)
    (clears : FileTree.Clears source goal name) (fresh : name ∉ gone) :
    Overlays able start source goal (gone ++ [name]) result :=
  overlays.imp_left fun ⟨holds, after, done, more⟩ =>
    ⟨holds, after, done, overlaid.step clear clears fresh more⟩

end

/-- A file is copied if it can be, and its copy lies over what had its name. -/
theorem copyFile_cases (plain : tree.Plain) (reaches : tree.Reaches base left source)
    (reaches' : tree.Reaches folder left' goal) (isName : IsName name)
    (isFolder : ∃ stamps entries, tree.get? goal = some (.folder stamps entries))
    (differs : goal ≠ source)
    (isFile : tree.get? (source ++ [name]) = some (.file stamps executable bytes)) :
    Overlays (tree.Copyable base folder source goal name) tree source goal [name]
      (copyFile (base.child name) (folder.child name) tree) := by
  unfold Overlays
  rw [FileTree.copyable_file_iff (FileTree.substance?_eq_file.mpr ⟨_, _, isFile⟩),
    Path.followable_singleton, Path.followable_singleton, copyFile_eq,
    FileTree.copyFile_child reaches reaches' isName isFile (plain.unlinked _)]
  cases namingFault (base.child name) name with
  | some error => exact .inr ⟨fun copyable => (nomatch copyable.1), _, _, rfl⟩
  | none =>
  cases namingFault (folder.child name) name with
  | some error => exact .inr ⟨fun copyable => (nomatch copyable.2.1), _, _, rfl⟩
  | none =>
  by_cases blocked : tree.substance? (goal ++ [name]) = some .folder
  · obtain ⟨_, _, found⟩ := FileTree.substance?_eq_folder.mp blocked
    rw [found]
    exact .inr ⟨fun ⟨_, _, free⟩ => free blocked, _, _, rfl⟩
  · have effect := FileTree.opened_effect plain isName isFolder blocked
    have apart : source ++ [name] ≠ goal ++ [name] := fun same =>
      differs (List.append_inj' same rfl).1.symm
    have noFile : source ++ [name] ≠ goal := by
      rintro same
      obtain ⟨_, _, isFolder⟩ := isFolder
      cases (same ▸ isFile).symm.trans isFolder
    have stays := FileTree.get?_of_shell?_file
      ((effect.elsewhere _ noFile apart).trans (FileTree.shell?_file isFile))
    refine .inl ⟨⟨rfl, rfl, blocked⟩, _, ?_,
      FileTree.overlaid_file plain isName isFolder blocked isFile⟩
    rw [stays]
    cases found : tree.get? (goal ++ [name]) with
    | none => rfl
    | some node =>
      cases node with
      | file | link => rfl
      | folder => exact absurd (FileTree.substance?_eq_folder.mpr ⟨_, _, found⟩) blocked

/-! ## Folders -/

/-- A folder that was opened to be copied, after the folder for its copy was made. -/
structure Underway (tree : FileTree) (base folder : Path) (left left' : Nat) (source goal : Place)
    (name : String) (made : FileTree) (stamps : Stamps) (entries : List (String × Node)) :
    Prop where
  hosts : tree.Hosts goal name made
  isFolder : made.get? (source ++ [name]) = some (.folder stamps entries)
  reaches : made.Reaches (base.child name) left (source ++ [name])
  reaches' : made.Reaches (folder.child name) left' (goal ++ [name])

/-- Whether a folder can be opened and the folder for its copy can be made. -/
structure Ready (tree : FileTree) (base folder : Path) (goal : Place) (name : String)
    (slash : Bool) : Prop where
  leaves : namingFault (base.child name) name = none
  arrives : namingFault ((folder.child name).slashed slash) name = none
  fits : ∀ replaced, tree.substance? (goal ++ [name]) = some replaced → replaced = .folder

/-- Copying a folder copies its entries if the folder can be opened and the folder for its copy can
    be made, and else ends with an error that is not that of a vanished entry. -/
theorem copyTree_cases_ready (depth : Nat) (slash : Bool) (plain : tree.Plain)
    (reaches : tree.Reaches base left source) (reaches' : tree.Reaches folder left' goal)
    (isName : IsName name)
    (isFolder : tree.get? (source ++ [name]) = some (.folder stamps entries))
    (isFolder' : ∃ stamps entries, tree.get? goal = some (.folder stamps entries)) :
    Ready tree base folder goal name slash ∧
        (∃ made stamps entries,
          Underway tree base folder left left' source goal name made stamps entries ∧
          copyTree (depth + 1) (base.child name) ((folder.child name).slashed slash) tree =
            entries.forM (copyNode depth (base.child name) ((folder.child name).slashed slash))
              made) ∨
      ¬ Ready tree base folder goal name slash ∧
        ∃ error after, copyTree (depth + 1) (base.child name) ((folder.child name).slashed slash)
          tree = (.error error, after) ∧ error.isNotFound = false := by
  rw [copyTree_succ, FileTree.list_child reaches isName isFolder]
  cases leaves : namingFault (base.child name) name with
  | some error =>
    refine .inr ⟨fun ready => ?_, _, _, rfl, isNotFound_file fun same =>
      FileTree.namingFault_ne_notFound base isName (same ▸ leaves)⟩
    cases leaves.symm.trans ready.leaves
  | none =>
  dsimp only
  rcases FileTree.makeFolders_cases slash plain reaches' isName isFolder' with
    ⟨⟨arrives, fits⟩, made, makes, hosts⟩ | ⟨blocked, error, after, makes, lasting⟩ <;> rw [makes]
  · obtain ⟨stamps', entries', isFolder⟩ := hosts.keeps.folders _ _ _ isFolder
    have underway : Underway tree base folder left left' source goal name made stamps' entries' :=
      ⟨hosts, isFolder,
        (reaches.keeps hosts.keeps).child isName (FileTree.short_of_namingFault leaves)
          ⟨_, _, isFolder⟩,
        (reaches'.keeps hosts.keeps).child isName (FileTree.short_of_namingFault arrives)
          hosts.isFolder⟩
    refine .inl ⟨⟨leaves, arrives, fits⟩, made, _, _, underway, ?_⟩
    dsimp only
    rw [FileTree.list_child (reaches.keeps hosts.keeps) isName isFolder, leaves]
  · exact .inr ⟨fun ready => blocked ⟨ready.arrives, ready.fits⟩, _, _, rfl,
      isNotFound_file lasting⟩

/-- What a folder is copied to is told by the path of the copy, with a slash after it or without. -/
theorem copyNode_slashed (depth : Nat) (slash : Bool) (source folder : Path)
    (isName : IsName name) (isName' : IsName next) (node : Node) :
    copyNode depth source ((folder.child name).slashed slash) (next, node) =
      copyNode depth source (folder.child name) (next, node) := by
  unfold copyNode
  rw [Path.slashed_child slash isName isName']

/-- What copying an entry does depends on whether it is a folder only. -/
theorem copyNode_congr (depth : Nat) (source target : Path) {node' : Node}
    (same : node'.shell = node.shell) :
    copyNode depth source target (name, node') = copyNode depth source target (name, node) := by
  cases node <;> cases node' <;> cases same <;> rfl

/-- Something is copied if it can be, whether it is a file or a folder that can be copied. -/
theorem copyNode_cases {depth : Nat} (plain : tree.Plain) (reaches : tree.Reaches base left source)
    (reaches' : tree.Reaches folder left' goal) (isName : IsName name)
    (isFolder : ∃ stamps entries, tree.get? goal = some (.folder stamps entries))
    (differs : goal ≠ source) (found : tree.get? (source ++ [name]) = some node)
    (folders : ∀ stamps entries, node = .folder stamps entries →
      Overlays (tree.Copyable base folder source goal name) tree source goal [name]
        (copyTree depth (base.child name) (folder.child name) tree)) :
    Overlays (tree.Copyable base folder source goal name) tree source goal [name]
      (copyNode depth base folder (name, node) tree) := by
  cases node with
  | file => exact copyFile_cases plain reaches reaches' isName isFolder differs found
  | folder => exact folders _ _ rfl
  | link target => exact absurd found (plain.unlinked _ target)

namespace Underway

variable (underway : Underway tree base folder left left' source goal name made stamps entries)
  (clears : FileTree.Clears source goal name)

include underway clears

/-- What is in the folder is listed in it. -/
theorem listed (there : tree.get? (source ++ [name, next]) ≠ none) :
    next ∈ entries.map Prod.fst := by
  rw [Ne, ← FileTree.get?_eq_none_congr (underway.hosts.shell?_source clears [next]),
    List.append_cons] at there
  obtain ⟨node, found⟩ := Option.ne_none_iff_exists'.mp there
  exact List.mem_map.mpr
    ⟨_, (underway.hosts.plain.named.mem_entries_iff underway.isFolder).mpr found, rfl⟩

/-- The folder can be copied if all that is listed in it can be. -/
theorem copyable_iff {slash : Bool} (isName : IsName name)
    (ready : Ready tree base folder goal name slash)
    (isFolder : tree.substance? (source ++ [name]) = some .folder) :
    (namingFault ((folder.child name).slashed slash) name = none ∧
        tree.Copyable base folder source goal name) ↔
      ∀ entry ∈ entries, made.Copyable (base.child name) (folder.child name) (source ++ [name])
        (goal ++ [name]) entry.1 := by
  have hosts := underway.hosts
  rw [FileTree.copyable_folder_iff isFolder]
  constructor
  · exact fun able entry _ => (hosts.copyable_iff clears entry.1).mpr (able.2.2.2.2 entry.1)
  · intro able
    refine ⟨ready.arrives, Path.followable_singleton.mpr ready.leaves,
      Path.followable_singleton.mpr (FileTree.namingFault_of_slashed isName ready.arrives),
      ready.fits, fun next => (hosts.copyable_iff clears next).mp ?_⟩
    by_cases absent : made.get? (source ++ [name] ++ [next]) = none
    · exact FileTree.copyable_absent absent
    · obtain ⟨node, found⟩ := Option.ne_none_iff_exists'.mp absent
      exact able _ ((hosts.plain.named.mem_entries_iff underway.isFolder).mpr found)

/-- An entry that is listed in the folder is copied after others if it could be before. -/
theorem overlays_entry {depth : Nat} {gone : List String} (slash : Bool) (isName : IsName name)
    (member : (next, node) ∈ entries) (fresh : next ∉ gone)
    (overlaid : made.Overlaid (source ++ [name]) (goal ++ [name]) gone later)
    (folders : ∀ stamps entries, IsName next →
      later.get? (source ++ [name] ++ [next]) = some (.folder stamps entries) →
      Overlays (later.Copyable (base.child name) (folder.child name) (source ++ [name])
        (goal ++ [name]) next) later (source ++ [name]) (goal ++ [name]) [next]
        (copyTree depth ((base.child name).child next) ((folder.child name).child next) later)) :
    Overlays (made.Copyable (base.child name) (folder.child name) (source ++ [name])
        (goal ++ [name]) next) made (source ++ [name]) (goal ++ [name]) (gone ++ [next])
      (copyNode depth (base.child name) ((folder.child name).slashed slash) (next, node)
        later) := by
  obtain ⟨hosts, isFolder, reached, reached'⟩ := underway
  have found := (hosts.plain.named.mem_entries_iff isFolder).mp member
  have isName' : IsName next := hosts.plain.areNames found next (by simp)
  have clear (next : String) := clears.below next
  obtain ⟨node', found', same⟩ := Option.map_eq_some_iff.mp
    ((overlaid.untouched (fun next _ => clear next) (clear next) fresh []).1.trans
      (congrArg (Option.map Node.shell) found))
  rw [copyNode_slashed depth slash _ folder isName isName', ← copyNode_congr _ _ _ same]
  have copies := copyNode_cases overlaid.plain (reached.keeps overlaid.keeps)
    (reached'.keeps overlaid.keeps) isName' (overlaid.keeps.isFolder hosts.isFolder)
    (clear next).differs found' fun _ _ isFolder => folders _ _ isName' (isFolder ▸ found')
  exact (copies.congr (overlaid.copyable_iff (fun next _ => clear next) (clear next) fresh)).onward
    overlaid (fun next _ => clear next) (clear next) fresh

end Underway

/-- A folder is copied if it can be, and its copy lies over what had its name. A folder that is too
    deep to be copied has a path that is too long. -/
theorem copyTree_cases (depth : Nat) (slash : Bool) (plain : tree.Plain)
    (reaches : tree.Reaches base left source) (reaches' : tree.Reaches folder left' goal)
    (isName : IsName name)
    (isFolder : tree.get? (source ++ [name]) = some (.folder stamps entries))
    (isFolder' : ∃ stamps entries, tree.get? goal = some (.folder stamps entries))
    (clears : FileTree.Clears source goal name)
    (deep : pathLimit ≤ Text.byteLength (base.child name).text.toList + depth) :
    Overlays (namingFault ((folder.child name).slashed slash) name = none ∧
      tree.Copyable base folder source goal name) tree source goal [name]
      (copyTree depth (base.child name) ((folder.child name).slashed slash) tree) := by
  have isFolder_ := FileTree.substance?_eq_folder.mpr ⟨_, _, isFolder⟩
  induction depth generalizing tree base folder source goal name slash stamps entries with
  | zero =>
    refine .inr ⟨fun able => ?_, _, _, rfl⟩
    have short := FileTree.byteLength_of_checkPath (able.2 [] _ isFolder_).1.fits
    exact absurd deep (Nat.not_le.mpr short)
  | succ depth inductionHypothesis =>
    rcases copyTree_cases_ready depth slash plain reaches reaches' isName isFolder isFolder' with
      ⟨ready, made, stamps', entries', underway, goes⟩ | ⟨unready, error, after, fails, -⟩
    · have plain' := underway.hosts.plain
      have distinct : ([] ++ entries'.map Prod.fst).Nodup :=
        (plain'.named _ _ underway.isFolder).2
      have settles (gone : List String) (entry : String × Node) (later : FileTree)
          (member : entry ∈ entries') (fresh : entry.1 ∉ gone)
          (overlaid : made.Overlaid (source ++ [name]) (goal ++ [name]) gone later) :
          Overlays (made.Copyable (base.child name) (folder.child name) (source ++ [name])
            (goal ++ [name]) entry.1) made (source ++ [name]) (goal ++ [name]) (gone ++ [entry.1])
            (copyNode depth (base.child name) ((folder.child name).slashed slash) entry later) := by
        refine underway.overlays_entry clears slash isName member fresh overlaid
          fun stamps entries isName' found => ?_
        have deeper := Path.byteLength_child base isName isName'
        have isFolder := FileTree.substance?_eq_folder.mpr ⟨_, _, found⟩
        have copies := inductionHypothesis false overlaid.plain
          (underway.reaches.keeps overlaid.keeps) (underway.reaches'.keeps overlaid.keeps) isName'
          found (overlaid.keeps.isFolder underway.hosts.isFolder) (clears.below entry.1) (by omega)
          isFolder
        refine copies.congr ⟨And.right, fun able => ⟨?_, able⟩⟩
        exact Path.followable_singleton.mp (able [] _ isFolder).2.1
      rw [goes, Overlays, underway.copyable_iff clears isName ready isFolder_]
      refine (Changes.forM_cases distinct settles (.refl plain' _ _)).imp_left ?_
      rintro ⟨ables, after, done, overlaid⟩
      exact ⟨ables, after, done, underway.hosts.overlaid clears isFolder_ ready.fits
        (fun _ => underway.listed clears) overlaid⟩
    · refine .inr ⟨fun able => unready ?_, error, after, fails⟩
      obtain ⟨leaves, -, fits, -⟩ := (FileTree.copyable_folder_iff isFolder_).mp able.2
      exact ⟨Path.followable_singleton.mp leaves, able.1, fits⟩

/-! ## Errors -/

theorem keeps_insert_free {made : Node} (free : tree.get? place = none)
    (empty : ∀ next rest, made.get? (next :: rest) = none) :
    tree.Keeps (tree.insert place made) := by
  rcases List.eq_nil_or_concat place with rfl | ⟨folder, name, rfl⟩
  · cases free
  · rw [List.concat_eq_append] at free ⊢
    exact FileTree.keeps_insert free empty

/-- New folders and copies take nothing out of a plain tree. -/
theorem preserved_keeps (start : FileTree) :
    Preserved fun later => later.Plain ∧ start.Keeps later where
  folder := by
    rintro later path changed ⟨plain, keeps⟩ made
    refine ⟨plain.makeFolder made, keeps.trans ?_⟩
    obtain ⟨place, _, leads, rfl⟩ := FileTree.makeFolder_eq_ok made
    exact keeps_insert_free (FileTree.resolve_node? leads).symm fun _ _ => rfl
  file := by
    rintro later source target changed ⟨plain, keeps⟩ copied
    refine ⟨plain.copyFile copied, keeps.trans ?_⟩
    obtain ⟨_, _, _, _, opened, place, -, opens, rfl⟩ := FileTree.copyFile_eq_ok copied
    refine .trans ?_ (FileTree.keeps_rewrite opened place _ _)
    obtain ⟨node?, _, leads, ⟨rfl, rfl⟩ | ⟨_, _, _, rfl, rfl⟩⟩ := FileTree.truncate_eq_ok opens
    · exact keeps_insert_free (FileTree.resolve_node? leads).symm fun _ _ => rfl
    · exact FileTree.keeps_rewrite _ _ _ _

/-- Copying what is in a folder takes nothing out of a plain tree. -/
theorem copyNode_keeps (depth : Nat) (source target : Path) (entry : String × Node)
    (holds : later.Plain ∧ start.Keeps later) :
    (copyNode depth source target entry later).2.Plain ∧
      start.Keeps (copyNode depth source target entry later).2 := by
  have preserved := preserved_keeps start
  unfold copyNode
  split
  · exact (copying_copyTree preserved (fun _ _ _ holds listed => holds.1.isName_of_list listed)
      depth _ _).preserves preserved holds rfl
  · rw [copyFile_eq]
    cases copied : later.copyFile (source.child entry.1) (target.child entry.1) with
    | error error => exact holds
    | ok changed => exact preserved.file holds copied

/-- Copying all that is in a folder copies each entry in a plain tree that has it still. -/
theorem forM_copyNode (depth : Nat) (source target : Path) (plain : start.Plain)
    (entries : List (String × Node)) :
    (∃ after, entries.forM (copyNode depth source target) start = (.ok ⟨⟩, after) ∧
        ∀ entry ∈ entries, ∃ later changed, (later.Plain ∧ start.Keeps later) ∧
          copyNode depth source target entry later = (.ok ⟨⟩, changed)) ∨
      ∃ entry ∈ entries, ∃ later error changed, (later.Plain ∧ start.Keeps later) ∧
        copyNode depth source target entry later = (.error error, changed) ∧
        entries.forM (copyNode depth source target) start = (.error error, changed) := by
  have keeps (entry : String × Node) (_ : entry ∈ entries) (later : FileTree)
      (holds : later.Plain ∧ start.Keeps later) :
      (copyNode depth source target entry later).2.Plain ∧
        start.Keeps (copyNode depth source target entry later).2 :=
    copyNode_keeps depth source target entry holds
  exact Changes.forM_stages keeps ⟨plain, .refl start⟩

/-- No error of copying a file says that it has vanished. -/
theorem copyFile_lasting (plain : tree.Plain) (reaches : tree.Reaches base left source)
    (reaches' : tree.Reaches folder left' goal) (isName : IsName name)
    (isFile : tree.get? (source ++ [name]) = some (.file stamps executable bytes))
    {error : ExecutionError}
    (fails : copyFile (base.child name) (folder.child name) tree = (.error error, after)) :
    error.isNotFound = false := by
  have present := FileTree.namingFault_ne_notFound base isName
  have present' := FileTree.namingFault_ne_notFound folder isName
  rw [copyFile_eq, FileTree.copyFile_child reaches reaches' isName isFile (plain.unlinked _)]
    at fails
  cases leaves : namingFault (base.child name) name with
  | some fault =>
    rw [leaves] at fails present
    cases fails
    exact isNotFound_file fun same => present (congrArg _ same)
  | none =>
  cases arrives : namingFault (folder.child name) name with
  | some fault =>
    rw [leaves, arrives] at fails
    rw [arrives] at present'
    cases fails
    exact isNotFound_file fun same => present' (congrArg _ same)
  | none =>
  rw [leaves, arrives] at fails
  cases found : tree.get? (goal ++ [name]) with
  | none => rw [found] at fails; cases fails
  | some node =>
    rw [found] at fails
    cases node with
    | file | link => cases fails
    | folder => cases fails; rfl

/-- No error of copying a folder says that something has vanished: whatever is listed in a folder is
    still there when it is copied. -/
theorem copyTree_lasting (depth : Nat) (slash : Bool) (plain : tree.Plain)
    (reaches : tree.Reaches base left source) (reaches' : tree.Reaches folder left' goal)
    (isName : IsName name)
    (isFolder : tree.get? (source ++ [name]) = some (.folder stamps entries))
    (isFolder' : ∃ stamps entries, tree.get? goal = some (.folder stamps entries))
    {error : ExecutionError}
    (fails : copyTree depth (base.child name) ((folder.child name).slashed slash) tree =
      (.error error, after)) : error.isNotFound = false := by
  induction depth generalizing tree base folder source goal name slash stamps entries after with
  | zero => cases fails; rfl
  | succ depth inductionHypothesis =>
    rcases copyTree_cases_ready depth slash plain reaches reaches' isName isFolder isFolder' with
      ⟨-, made, stamps', entries', underway, goes⟩ | ⟨-, error', after', fails', lasting⟩
    · obtain ⟨hosts, listed, reached, reached'⟩ := underway
      rw [goes] at fails
      rcases forM_copyNode depth _ _ hosts.plain entries' with ⟨_, done, -⟩ |
          ⟨⟨next, node⟩, member, later, error', changed, ⟨plain', keeps⟩, fails', ends⟩
      · cases done.symm.trans fails
      · cases ends.symm.trans fails
        have found := (hosts.plain.named.mem_entries_iff listed).mp member
        have isName' : IsName next := hosts.plain.areNames found next (by simp)
        obtain ⟨node', found', same⟩ := keeps.exists_of_get? found
        rw [copyNode_slashed depth slash _ folder isName isName', copyNode, ← same] at fails'
        cases node' with
        | file =>
          exact copyFile_lasting plain' (reached.keeps keeps) (reached'.keeps keeps) isName' found'
            fails'
        | folder =>
          exact inductionHypothesis false plain' (reached.keeps keeps) (reached'.keeps keeps)
            isName' found' (keeps.isFolder hosts.isFolder) fails'
        | link target => exact absurd found' (plain'.unlinked _ target)
    · cases fails'.symm.trans fails
      exact lasting

/-- A folder cannot be copied to below itself: what is made there is copied as well, and so on until
    a path is too long. -/
theorem copyTree_inside (depth : Nat) (slash : Bool) (plain : tree.Plain)
    (reaches : tree.Reaches base left source) (reaches' : tree.Reaches folder left' goal)
    (isName : IsName name)
    (isFolder : tree.get? (source ++ [name]) = some (.folder stamps entries))
    (isFolder' : ∃ stamps entries, tree.get? goal = some (.folder stamps entries))
    (inside : source ++ [name] <+: goal) :
    copyTree depth (base.child name) ((folder.child name).slashed slash) tree ≠
      (.ok (), after) := by
  induction depth generalizing tree base folder source goal name slash stamps entries after with
  | zero => nofun
  | succ depth inductionHypothesis =>
    intro done
    rcases copyTree_cases_ready depth slash plain reaches reaches' isName isFolder isFolder' with
      ⟨-, made, stamps', entries', underway, goes⟩ | ⟨-, error', after', fails', -⟩
    · obtain ⟨hosts, listed, reached, reached'⟩ := underway
      rw [goes] at done
      obtain ⟨more, rfl⟩ := inside
      obtain ⟨next, rest, whole⟩ : ∃ next rest, more ++ [name] = next :: rest :=
        List.exists_cons_of_ne_nil (by simp)
      have way : source ++ [name] ++ [next] <+: source ++ [name] ++ more ++ [name] := by
        rw [List.append_assoc _ more, whole]
        exact (List.prefix_append_right_inj _).mpr (by simp)
      obtain ⟨_, _, found⟩ := FileTree.exists_folder_of_above way hosts.isFolder
      have isName' : IsName next := hosts.plain.areNames found next (by simp)
      have member := (hosts.plain.named.mem_entries_iff listed).mpr found
      rcases forM_copyNode depth _ _ hosts.plain entries' with
        ⟨_, -, each⟩ | ⟨_, _, _, _, _, _, _, fails⟩
      · obtain ⟨later, changed, ⟨plain', keeps⟩, copies⟩ := each _ member
        rw [copyNode_slashed depth slash _ folder isName isName'] at copies
        obtain ⟨_, _, found'⟩ := keeps.folders _ _ _ found
        exact inductionHypothesis false plain' (reached.keeps keeps) (reached'.keeps keeps) isName'
          found' (keeps.isFolder hosts.isFolder) way copies
      · cases fails.symm.trans done
    · cases fails'.symm.trans done

end Transfer

end FileQuery
