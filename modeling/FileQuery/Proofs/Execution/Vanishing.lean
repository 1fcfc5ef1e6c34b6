import FileQuery.Proofs.Execution.Absences
import FileQuery.Proofs.Execution.Removal
import FileQuery.Proofs.FileTree.Missing
import FileQuery.Proofs.Transfer.Moving

/-!
# Matches that vanish

A match can vanish after it was found and before its turn comes. What is done with it then fails,
changes nothing, and is recorded as a failure of this match alone, so the action goes on with the
next one. All actions but moving keep what is there or only take from it, so a match that is missing
before an action and after it is missing when its turn comes. An entry that is moved changes what is
in two folders; where it goes matters only if the way to one of them leads through it.
-/

namespace FileQuery

variable {tree after : FileTree} {root base folder path : Path} {name : String}
  {found vanished : List Path} {treat : Treatment} {report report' recorded final : Report}
  {lost : List PathFailure}

namespace Changes

/-- A change that finds nothing under a path changes nothing. -/
theorem at_eq_missing {change : FileTree → Except FileError FileTree}
    (missing : change tree = .error .notFound) (path : Path) :
    (ofChange change).at path tree = (.error (.file path .notFound), tree) := by
  unfold Changes.at mapError ofChange
  rw [missing]

theorem at_eq_ok {α : Type} {changes : Changes FileError α} {value : α} {changed : FileTree}
    (done : changes.at path tree = (.ok value, changed)) : changes tree = (.ok value, changed) := by
  unfold Changes.at mapError at done
  rcases made : changes tree with ⟨error | _, _⟩
  · rw [made] at done
    cases done
  · rw [made] at done
    obtain ⟨same, rfl⟩ := Prod.mk.inj done
    obtain rfl := Except.ok.inj same
    rfl

theorem at_ofChange_eq_ok {change : FileTree → Except FileError FileTree} {changed : FileTree}
    {value : Unit} (done : (ofChange change).at path tree = (.ok value, changed)) :
    change tree = .ok changed := by
  have made := at_eq_ok done
  unfold ofChange at made
  cases changes : change tree with
  | error error =>
    rw [changes] at made
    cases made
  | ok result =>
    rw [changes] at made
    obtain ⟨-, rfl⟩ := Prod.mk.inj made
    rfl

end Changes

/-! ## Removing -/

/-- What is missing is not removed. -/
theorem Removal.each_missing (target : Target) (path : Path) :
    ∃ changes, each target path = some changes ∧
      ∀ stage : FileTree, stage.Lacks path → changes stage = (.error (.file path .notFound), stage) := by
  refine ⟨_, rfl, fun stage lacks => Changes.at_eq_missing ?_ path⟩
  cases target with
  | files => exact lacks.removeFile
  | folders => exact lacks.removeFolder

/-- Nothing comes back when matches are removed. -/
theorem Removal.misses_each (target : Target) (missing : ∀ path ∈ vanished, tree.Lacks path)
    (done : (each target).all root (found.filter (· ∉ vanished)) report tree =
      (.ok final, after)) : (each target).Misses FileTree.Lacks vanished found tree := by
  refine Treatment.misses_of_maintains (·.Keeps tree) (fun path _ _ changes treats => ?_)
    (fun path _ listed stage keeps _ => (missing path listed).of_keeps keeps) (.refl tree) done
  obtain rfl := Option.some.inj treats
  refine (Changes.maintains_ofChange fun stage changed keeps removed => ?_).at path
  refine FileTree.Keeps.trans ?_ keeps
  cases target with
  | files => exact FileTree.keeps_of_removeFile removed
  | folders => exact FileTree.keeps_of_removeFolder removed

/-! ## Copying and unpacking -/

section

variable {start : FileTree} {source target : Path}

open Changes

/-- Whatever has been kept is kept when folders are made and files are copied. -/
theorem FileTree.preserved_by_keeping (start : FileTree) : Preserved start.Keeps where
  folder keeps made := keeps.trans (FileTree.keeps_makeFolder made)
  file keeps copied := keeps.trans (FileTree.keeps_copyFile copied)

theorem FileTree.keeps_makeFolders (path : Path) :
    (FileTree.makeFolders path).Maintains start.Keeps := by
  intro tree keeps
  have copying : Copying start.Keeps (fun _ => True) (FileTree.makeFolders path) :=
    FileTree.copying_makeFolders path
  exact copying.preserves start.preserved_by_keeping keeps rfl

/-- Copying a match takes nothing out of the tree. -/
theorem Transfer.keeps_copyEntry (source target : Path) :
    (Transfer.copyEntry source target).Maintains start.Keeps := by
  intro tree keeps
  have copying := @Transfer.copying_copyEntry _ (fun _ => True) start.preserved_by_keeping
    (fun _ _ _ _ _ _ _ => trivial) source target
  exact copying.preserves start.preserved_by_keeping keeps rfl

namespace Archive

theorem keeps_settle (last : Bool) (path : Path) : (settle last path).Maintains start.Keeps := by
  intro tree keeps
  unfold settle
  split
  · split
    · exact keeps
    · exact ((FileTree.keeps_makeFolders path).mapError _) tree keeps
  all_goals exact keeps

theorem keeps_goDown (names : List String) (path : Path) :
    (goDown names path).Maintains start.Keeps := by
  induction names generalizing path with
  | nil => exact maintains_pure path
  | cons name rest inductionHypothesis =>
    exact (keeps_settle _ _).bind fun _ _ _ _ _ => inductionHypothesis _

theorem keeps_failWith (flaw : Option CompressionFlaw) :
    (failWith flaw).Maintains start.Keeps := by
  cases flaw <;> exact maintains_of_unchanged fun _ => rfl

theorem keeps_writeLink (path : Path) (bytes : List UInt8) :
    (writeLink path bytes).Maintains start.Keeps := by
  unfold writeLink
  split
  · refine (maintains_ofChange fun tree changed keeps made => ?_).mapError _
    exact keeps.trans (FileTree.keeps_makeLink made)
  · exact maintains_of_unchanged fun _ => rfl

theorem keeps_extractEntry (archive : List UInt8) (base : Path) (entry : Entry) :
    (extractEntry archive base entry).Maintains start.Keeps := by
  refine (maintains_look _).bind fun _ _ content _ _ => ?_
  obtain ⟨bytes, flaw⟩ := content
  dsimp only
  split
  · exact maintains_of_unchanged fun _ => rfl
  refine (keeps_goDown _ _).bind fun _ _ path _ _ => ?_
  split
  · refine (keeps_failWith _).bind fun _ _ _ _ _ => ?_
    exact (keeps_writeLink _ _).bind fun _ _ _ _ _ => maintains_pure _
  split
  · exact ((FileTree.keeps_makeFolders _).mapError _).bind fun _ _ _ _ _ => maintains_pure _
  · have writes : (ofChange fun tree => tree.write path bytes).Maintains start.Keeps :=
      maintains_ofChange fun tree changed keeps written =>
        keeps.trans (FileTree.keeps_write written)
    refine (writes.mapError _).bind fun _ _ _ _ _ => ?_
    exact (keeps_failWith _).bind fun _ _ _ _ _ => maintains_pure _

theorem keeps_extractEntries (archive : List UInt8) (base : Path) (entries : List Entry) :
    (extractEntries archive base entries).Maintains start.Keeps := by
  induction entries with
  | nil => exact maintains_pure _
  | cons entry rest inductionHypothesis =>
    refine (keeps_extractEntry _ _ _).bind fun _ _ _ _ _ => ?_
    exact inductionHypothesis.bind fun _ _ _ _ _ => maintains_pure _

/-- Unpacking an archive takes nothing out of the tree. -/
theorem keeps_extract (archive folder : Path) : (extract archive folder).Maintains start.Keeps := by
  refine ((maintains_look _).mapError _).bind fun _ _ bytes _ _ => ?_
  refine (maintains_look _).bind fun _ _ found _ _ => ?_
  refine ((FileTree.keeps_makeFolders _).mapError _).bind fun _ _ _ _ _ => ?_
  refine ((maintains_look _).mapError _).bind fun _ _ located _ _ => ?_
  obtain ⟨place, node⟩ := located
  refine (keeps_extractEntries _ _ _).bind fun _ _ modes _ _ => ?_
  refine maintains_forM fun file _ => ?_
  refine (maintains_ofChange fun tree changed keeps changes => ?_).mapError _
  exact keeps.trans (FileTree.keeps_setExecutable changes)

/-- From an archive that is missing nothing is unpacked. -/
theorem extract_missing (missing : tree.Lacks path) (folder : Path) :
    extract path folder tree = (.error (.file .notFound), tree) := by
  have reads : files (look fun tree => tree.read path) tree = (.error (.file .notFound), tree) := by
    unfold files mapError look
    dsimp only
    rw [missing.read]
  unfold extract
  rw [bind_apply, reads]

end Archive

end

/-- Matches are missing when their turn comes if nothing is taken out of the tree and they are
    missing in the end. -/
theorem Treatment.misses_of_keeps
    (keeps : ∀ path ∈ found, path ∉ vanished → ∀ changes, treat path = some changes →
      ∀ start : FileTree, changes.Maintains start.Keeps)
    (missing : ∀ path ∈ vanished, after.Lacks path)
    (done : treat.all root (found.filter (· ∉ vanished)) report tree = (.ok final, after)) :
    treat.Misses FileTree.Lacks vanished found tree := by
  refine misses_of_maintains (fun _ => True) (fun _ _ _ _ _ _ _ => trivial)
    (fun path member listed stage _ leads => ?_) trivial done
  have kept : stage.Keeps after :=
    leads.maintains stage.Keeps (fun path member stays changes treats =>
      keeps path member stays changes treats stage) (.refl stage)
  exact (missing path listed).of_keeps kept

/-- What is missing is not copied. -/
theorem Transfer.copyEntry_missing {source : Path} (missing : tree.Lacks source) (target : Path) :
    copyEntry source target tree = (.error (.file source .notFound), tree) := by
  unfold copyEntry
  rw [missing]
  exact Changes.at_eq_missing (missing.copyFile target) source

theorem Transfer.into_copyEntry_missing (entry : path.IsEntryOf base)
    (apart : folder.startsWith path = false) :
    ∃ changes, into folder copyEntry path = some changes ∧ ∀ stage : FileTree, stage.Lacks path →
      changes stage = (.error (.file path .notFound), stage) := by
  obtain ⟨name, isName, rfl⟩ := entry
  refine ⟨copyEntry (base.child name) (folder.child name), ?_, fun stage lacks =>
    copyEntry_missing lacks _⟩
  rw [into_child folder base isName, apart]
  rfl

/-- From an archive that is missing nothing is unpacked. -/
theorem Packing.into_missing (archive : isArchive path = true) (folder : Path) :
    ∃ changes, into folder path = some changes ∧ ∀ stage : FileTree, stage.Lacks path →
      changes stage = (.error (.file path .notFound), stage) := by
  refine ⟨_, if_pos archive, fun stage lacks => ?_⟩
  unfold Changes.mapError
  rw [Archive.extract_missing lacks]
  rfl

/-! ## Moving -/

namespace FileTree

variable {part changed : FileTree} {source goal : Place} {other : String}

/-- The ways to the folder of some entries and to another folder lead through none of what is moved
    from the one to the other or replaced there: both are in a part of the tree that has none of
    it. -/
def PassesBy (tree : FileTree) (base folder : Path) (moved : List Path) : Prop :=
  ∃ (part : FileTree) (source goal : Place), part.Keeps tree ∧ part.Opens base source ∧
    part.Opens folder goal ∧ ∀ name, IsName name → base.child name ∈ moved →
      part.get? (source ++ [name]) = none ∧ part.get? (goal ++ [name]) = none

theorem Opens.keeps (opens : part.Opens path source) (keeps : part.Keeps tree) :
    tree.Opens path source := by
  obtain ⟨⟨left, reaches⟩, isFolder⟩ := opens
  exact ⟨⟨left, reaches.keeps keeps⟩, keeps.isFolder isFolder⟩

theorem exists_of_rename {origin target : Path}
    (renames : tree.rename origin target = .ok changed) :
    ∃ place node slash, tree.resolve .keep origin = .ok ⟨place, some node, slash⟩ := by
  unfold rename at renames
  split at renames
  · contradiction
  · contradiction
  · contradiction
  · rename_i leads _
    exact ⟨_, _, _, leads⟩

/-- An entry of a folder that was given a path in another one has been moved. -/
theorem moved_of_rename (opens : tree.Opens base source) (opens' : tree.Opens folder goal)
    (isName : IsName name)
    (renames : tree.rename (base.child name) (folder.child name) = .ok changed) :
    goal = source ∧ changed = tree ∨
      Clears source goal name ∧ tree.Moved source goal name changed := by
  obtain ⟨⟨left, reaches⟩, isFolder⟩ := opens
  obtain ⟨⟨left', reaches'⟩, isFolder'⟩ := opens'
  obtain ⟨place, node, slash, leads⟩ := exists_of_rename renames
  have found : tree.get? (source ++ [name]) = some node := by
    rw [resolve_child reaches isName .keep fun _ follows => by cases follows] at leads
    split at leads
    · contradiction
    · exact (Destination.mk.inj (Except.ok.inj leads)).2.1
  rcases rename_child_cases reaches reaches' isName found isFolder isFolder' with
    ⟨-, changed', renames', moves⟩ | ⟨-, error, fails, -⟩
  · obtain rfl := Except.ok.inj (renames.symm.trans renames')
    exact moves
  · cases renames.symm.trans fails

/-- What is in the folder under another name stays there. -/
theorem Moved.keeps_entry (moves : tree.Moved source goal name changed)
    (clears : Clears source goal name) (differs : name ≠ other)
    (present : tree.get? (source ++ [other]) ≠ none) : changed.get? (source ++ [other]) ≠ none := by
  by_cases above : source ++ [other] <+: goal
  · have shown := moves.folders _ (.inr above)
    intro gone
    rw [shell?, gone, shell?] at shown
    split at shown <;> simp [present] at shown
  · rw [moves.elsewhere _ (not_prefix_folder _ _ _) above (not_prefix_sibling differs)
      (not_prefix_below clears.differs clears.enters above)]
    exact present

end FileTree

namespace Transfer

variable {part : FileTree} {source goal : Place}

/-- Moving entries keeps a part of the tree that has none of what is moved and replaced, and each
    entry of another name. -/
theorem maintains_moveEntry (opens : part.Opens base source) (opens' : part.Opens folder goal)
    (isName : IsName name) (leaves : part.get? (source ++ [name]) = none)
    (enters : part.get? (goal ++ [name]) = none) :
    (moveEntry (base.child name) (folder.child name)).Maintains part.Keeps ∧
      ∀ other, name ≠ other →
        (moveEntry (base.child name) (folder.child name)).Maintains fun stage =>
          part.Keeps stage ∧ stage.get? (source ++ [other]) ≠ none := by
  have keeps {stage changed : FileTree} (keeps : part.Keeps stage)
      (renames : stage.rename (base.child name) (folder.child name) = .ok changed) :
      part.Keeps changed ∧ ∀ other, name ≠ other → stage.get? (source ++ [other]) ≠ none →
        changed.get? (source ++ [other]) ≠ none := by
    rcases FileTree.moved_of_rename (opens.keeps keeps) (opens'.keeps keeps) isName renames with
      ⟨-, rfl⟩ | ⟨clears, moves⟩
    · exact ⟨keeps, fun _ _ => id⟩
    · exact ⟨moves.keeps keeps leaves enters, fun other differs present =>
        moves.keeps_entry clears differs present⟩
  refine ⟨(Changes.maintains_ofChange fun stage changed kept renames =>
    (keeps kept renames).1).at _, fun other differs =>
      (Changes.maintains_ofChange fun stage changed kept renames => ?_).at _⟩
  exact ⟨(keeps kept.1 renames).1, (keeps kept.1 renames).2 other differs kept.2⟩

/-- A match is missing, and the path that it would be given in a folder can be followed. -/
def MissingFor (folder : Path) (tree : FileTree) (path : Path) : Prop :=
  tree.Lacks path ∧ ∃ name destination, path.fileName? = some name ∧
    tree.resolve .keep (folder.child name) = .ok destination

/-- What is missing is not moved. -/
theorem into_moveEntry_missing (entry : path.IsEntryOf base)
    (apart : folder.startsWith path = false) :
    ∃ changes, into folder moveEntry path = some changes ∧ ∀ stage, MissingFor folder stage path →
      changes stage = (.error (.file path .notFound), stage) := by
  obtain ⟨name, isName, rfl⟩ := entry
  refine ⟨moveEntry (base.child name) (folder.child name), ?_, fun stage missing => ?_⟩
  · rw [into_child folder base isName, apart]
    rfl
  · obtain ⟨lacks, name', destination, named, follows⟩ := missing
    obtain rfl := Option.some.inj ((Path.fileName?_child base isName).symm.trans named)
    exact Changes.at_eq_missing (lacks.rename follows) _

/-- Entries are missing when their turn comes if the ways to both folders pass by what is moved and
    replaced, and they are missing in the end. -/
theorem misses_move (entries : ∀ path ∈ found, path.IsEntryOf base)
    (passes : tree.PassesBy base folder
      (found.filter fun path => path ∉ vanished && !folder.startsWith path))
    (follows : ∀ name, base.child name ∈ vanished →
      FileTree.namingFault (folder.child name) name = none)
    (missing : ∀ path ∈ vanished, after.Lacks path)
    (done : (into folder moveEntry).all root (found.filter (· ∉ vanished)) report tree =
      (.ok final, after)) :
    (into folder moveEntry).Misses (MissingFor folder) vanished found tree := by
  obtain ⟨part, source, goal, keeps, opens, opens', free⟩ := passes
  have moves (path : Path) (member : path ∈ found) (stays : path ∉ vanished)
      (changes : Changes ExecutionError Unit) (treats : into folder moveEntry path = some changes) :
      ∃ name, path = base.child name ∧ changes.Maintains part.Keeps ∧ ∀ other, name ≠ other →
        changes.Maintains fun stage =>
          part.Keeps stage ∧ stage.get? (source ++ [other]) ≠ none := by
    obtain ⟨name, isName, rfl⟩ := entries path member
    rw [into_child folder base isName] at treats
    split at treats
    · contradiction
    rename_i outside
    obtain rfl := Option.some.inj treats
    obtain ⟨leaves, enters⟩ := free name isName
      (List.mem_filter.mpr ⟨member, by simpa [stays] using outside⟩)
    exact ⟨name, rfl, maintains_moveEntry opens opens' isName leaves enters⟩
  refine Treatment.misses_of_maintains part.Keeps (fun path member stays changes treats => ?_)
    (fun path member listed stage kept leads => ?_) keeps done
  · obtain ⟨name, -, maintains, -⟩ := moves path member stays changes treats
    exact maintains
  · obtain ⟨name, isName, rfl⟩ := entries path member
    have kept' : part.Keeps after := by
      refine leads.maintains part.Keeps (fun path member stays changes treats => ?_) kept
      obtain ⟨_, -, maintains, -⟩ := moves path member stays changes treats
      exact maintains
    obtain ⟨⟨_, reaches⟩, -⟩ := opens.keeps kept
    obtain ⟨⟨_, reaches'⟩, -⟩ := opens'.keeps kept
    obtain ⟨⟨_, reachesAfter⟩, -⟩ := opens.keeps kept'
    obtain ⟨fault, gone⟩ := (FileTree.lacks_child_iff reachesAfter isName).mp (missing _ listed)
    have lacks : stage.Lacks (base.child name) := by
      refine (FileTree.lacks_child_iff reaches isName).mpr ⟨fault, ?_⟩
      by_contra present
      refine (leads.maintains (fun stage => part.Keeps stage ∧ stage.get? (source ++ [name]) ≠ none)
        (fun path member stays changes treats => ?_) ⟨kept, present⟩).2 gone
      obtain ⟨other, rfl, -, maintains⟩ := moves path member stays changes treats
      exact maintains name fun same => stays (same ▸ listed)
    have resolves :=
      FileTree.resolve_child reaches' isName .keep fun _ follows => by cases follows
    rw [follows name listed] at resolves
    exact ⟨lacks, name, _, Path.fileName?_child base isName, resolves⟩

end Transfer

/-! ## Packing -/

namespace Packing

variable {archivePath : Path} {listed : List Archive.Member}
  {results : List (Except ExecutionError Unit)}

/-- Members are collected for a match and then for the others, unless an error ends the packing. -/
theorem collect_cons_eq_ok_iff :
    collect tree archivePath (path :: found) = (listed, .ok results) ↔
      ∃ own result later results', members tree archivePath path = (own, result) ∧
        (∀ error, result = .error error → error.isNotFound = true) ∧
        collect tree archivePath found = (later, .ok results') ∧ listed = own ++ later ∧
        results = result :: results' := by
  rw [collect]
  rcases members tree archivePath path with ⟨own, result⟩
  rcases collect tree archivePath found with ⟨later, others⟩
  dsimp only
  constructor
  · intro collects
    have more (collects : (own ++ later, others.map (result :: ·)) = (listed, .ok results)) :
        ∃ results', others = .ok results' ∧ listed = own ++ later ∧
          results = result :: results' := by
      obtain ⟨rfl, mapped⟩ := Prod.mk.inj collects
      cases others with
      | error error => cases mapped
      | ok results' => exact ⟨results', rfl, rfl, (Except.ok.inj mapped).symm⟩
    cases result with
    | ok value =>
      obtain ⟨results', rfl, same, same'⟩ := more collects
      exact ⟨own, .ok value, later, results', rfl, fun _ fails => (by cases fails), rfl, same,
        same'⟩
    | error error =>
      dsimp only at collects
      split at collects
      · rename_i vanished
        obtain ⟨results', rfl, same, same'⟩ := more collects
        exact ⟨own, .error error, later, results', rfl,
          fun _ fails => Except.error.inj fails ▸ vanished, rfl, same, same'⟩
      · cases (Prod.mk.inj collects).2
  · rintro ⟨own', result', later', results', same, vanishes, collects, rfl, rfl⟩
    obtain ⟨rfl, rfl⟩ := Prod.mk.inj same
    obtain ⟨rfl, rfl⟩ := Prod.mk.inj collects
    cases result with
    | ok => rfl
    | error error => exact if_pos (vanishes error rfl)

/-- Missing matches add nothing to the archive. Each has its failure among the results. -/
theorem collect_missing (missing : ∀ path ∈ vanished, tree.Lacks path)
    (collects : collect tree archivePath (found.filter (· ∉ vanished)) = (listed, .ok results)) :
    ∃ all : List (Path × Except ExecutionError Unit), all.map (·.1) = found ∧
      (all.filter (·.1 ∉ vanished)).map (·.2) = results ∧
      (∀ entry ∈ all, entry.1 ∈ vanished → entry.2 = .error (.file entry.1 .notFound)) ∧
      collect tree archivePath found = (listed, .ok (all.map (·.2))) := by
  induction found generalizing listed results with
  | nil =>
    obtain ⟨rfl, same⟩ := Prod.mk.inj collects
    obtain rfl := Except.ok.inj same
    exact ⟨[], rfl, rfl, fun _ member => (by cases member), rfl⟩
  | cons path rest inductionHypothesis =>
    by_cases gone : path ∈ vanished
    · rw [List.filter_cons_of_neg (by simpa using gone)] at collects
      obtain ⟨all, paths, others, fails, collected⟩ := inductionHypothesis collects
      refine ⟨(path, .error (.file path .notFound)) :: all, by simp [paths], ?_, ?_, ?_⟩
      · rwa [List.filter_cons_of_neg (by simpa using gone)]
      · exact List.forall_mem_cons.mpr ⟨fun _ => rfl, fails⟩
      · have none : members tree archivePath path = ([], .error (.file path .notFound)) := by
          rw [members, missing path gone]
        refine collect_cons_eq_ok_iff.mpr ⟨_, _, _, _, none, fun error same => ?_, collected, rfl,
          rfl⟩
        obtain rfl := Except.error.inj same
        rfl
    · rw [List.filter_cons_of_pos (by simpa using gone)] at collects
      obtain ⟨own, result, later, results', own_, vanishes, collects', rfl, rfl⟩ :=
        collect_cons_eq_ok_iff.mp collects
      obtain ⟨all, paths, others, fails, collected⟩ := inductionHypothesis collects'
      refine ⟨(path, result) :: all, by simp [paths], ?_, ?_, ?_⟩
      · rw [List.filter_cons_of_pos (by simpa using gone), List.map_cons, others]
      · exact List.forall_mem_cons.mpr ⟨fun listed => absurd listed gone, fails⟩
      · exact collect_cons_eq_ok_iff.mpr
          ⟨_, _, _, _, own_, vanishes, collected, rfl, rfl⟩

/-- Where the results of missing matches are recorded as well, the report tells of their failures,
    and else of the same. -/
theorem recordAll_missing {all : List (Path × Except ExecutionError Unit)}
    (fails : ∀ entry ∈ all, entry.1 ∈ vanished → entry.2 = .error (.file entry.1 .notFound))
    (records : recordAll root (all.filter (·.1 ∉ vanished)) report = .ok final)
    (besides : report.Besides lost report') :
    ∃ final', recordAll root all report' = .ok final' ∧
      final.Besides (lost ++ ((all.map (·.1)).filter (· ∈ vanished)).map (.ofMissing root))
        final' := by
  induction all generalizing report report' lost with
  | nil =>
    obtain rfl := Except.ok.inj records
    exact ⟨report', rfl, by simpa using besides⟩
  | cons entry rest inductionHypothesis =>
    obtain ⟨path, result⟩ := entry
    obtain ⟨first, others⟩ := List.forall_mem_cons.mp fails
    rw [recordAll, List.map_cons]
    by_cases gone : path ∈ vanished
    · obtain rfl : result = .error (.file path .notFound) := first gone
      rw [List.filter_cons_of_neg (by simpa using gone)] at records
      rw [List.filter_cons_of_pos (by simpa using gone), List.map_cons, Report.record_missing]
      obtain ⟨final', records', besides'⟩ :=
        inductionHypothesis others records (besides.miss root path)
      exact ⟨final', records', by simpa using besides'⟩
    · rw [List.filter_cons_of_pos (by simpa using gone), recordAll] at records
      rw [List.filter_cons_of_neg (by simpa using gone)]
      cases recorded_ : report.record root path result with
      | error error =>
        rw [recorded_] at records
        cases records
      | ok recorded =>
        rw [recorded_] at records
        obtain ⟨recorded', recorded'_, besides'⟩ := besides.record recorded_
        rw [recorded'_]
        exact inductionHypothesis others records besides'

/-- An archive of all matches is written as that of the matches that are not missing. -/
theorem writeArchive_missing
    (missing : ∀ opened, tree.write archivePath [] = .ok opened →
      ∀ path ∈ vanished, opened.Lacks path)
    (written : writeArchive archivePath (found.filter (· ∉ vanished)) tree = (.ok results, after)) :
    ∃ all : List (Path × Except ExecutionError Unit), all.map (·.1) = found ∧
      (all.filter (·.1 ∉ vanished)).map (·.2) = results ∧
      (∀ entry ∈ all, entry.1 ∈ vanished → entry.2 = .error (.file entry.1 .notFound)) ∧
      writeArchive archivePath found tree = (.ok (all.map (·.2)), after) := by
  unfold writeArchive at written ⊢
  obtain ⟨_, opened, begins, collects⟩ := Changes.bind_apply_eq_ok_iff.mp written
  obtain ⟨⟨members, collected⟩, middle, seen, writes⟩ := Changes.bind_apply_eq_ok_iff.mp collects
  obtain ⟨rfl, collects⟩ := look_eq_ok seen
  obtain ⟨_, last, ends, gives⟩ := Changes.bind_apply_eq_ok_iff.mp writes
  obtain ⟨rfl, results_⟩ := look_eq_ok gives
  obtain rfl : collected = .ok results := results_
  obtain ⟨all, paths, others, fails, collected⟩ := collect_missing
    (missing _ (Changes.at_ofChange_eq_ok begins)) (Except.ok.inj collects)
  refine ⟨all, paths, others, fails, ?_⟩
  rw [Changes.bind_apply, begins]
  dsimp only
  rw [Changes.bind_apply, Changes.look, collected]
  dsimp only
  rw [Changes.bind_apply, ends]
  rfl

/-- What is recorded once the archive of all matches is written. -/
theorem pack_missing
    (missing : ∀ opened, tree.write archivePath [] = .ok opened →
      ∀ path ∈ vanished, opened.Lacks path)
    (besides : report.Besides lost report')
    (done : (do
      let results ← writeArchive archivePath (found.filter (· ∉ vanished))
      Changes.look fun _ => recordAll root ((found.filter (· ∉ vanished)).zip results) report :
        Changes ExecutionError Report) tree = (.ok final, after)) :
    ∃ final', (do
      let results ← writeArchive archivePath found
      Changes.look fun _ => recordAll root (found.zip results) report' :
        Changes ExecutionError Report) tree = (.ok final', after) ∧
      final.Besides (lost ++ (found.filter (· ∈ vanished)).map (.ofMissing root)) final' := by
  obtain ⟨results, last, written, records⟩ := Changes.bind_apply_eq_ok_iff.mp done
  obtain ⟨rfl, recorded⟩ := look_eq_ok records
  obtain ⟨all, rfl, rfl, fails, written'⟩ := writeArchive_missing missing written
  have zipped (entries : List (Path × Except ExecutionError Unit)) :
      (entries.map (·.1)).zip (entries.map (·.2)) = entries := (List.zip_of_prod rfl rfl).symm
  have paths : (all.map (·.1)).filter (· ∉ vanished) =
      (all.filter (·.1 ∉ vanished)).map (·.1) := by
    rw [List.filter_map]
    rfl
  rw [paths, zipped] at recorded
  obtain ⟨final', recorded', besides'⟩ := recordAll_missing fails recorded besides
  refine ⟨final', ?_, besides'⟩
  rw [Changes.bind_apply, written']
  dsimp only
  rw [Changes.look, zipped, recorded']

/-- The tree in which the members of an archive are looked for: the archive has been opened, and
    the folders that it is in have been made. -/
def opened (archivePath : Path) (tree : FileTree) : FileTree :=
  let furnished := match archivePath.parent? with
    | some parent => (FileTree.makeFolders parent tree).2
    | none => tree
  match furnished.write archivePath [] with
  | .ok opened => opened
  | .error _ => furnished

/-- Where matches are missing, the others are packed as without them. -/
theorem archive_missing {destination : String}
    (apart : ∀ path ∈ vanished, path.same (root.join ⟨destination⟩) = false)
    (some_left : ∃ path ∈ found, path ∉ vanished ∧ path.same (root.join ⟨destination⟩) = false)
    (missing : ∀ path ∈ vanished, (opened (root.join ⟨destination⟩) tree).Lacks path)
    (done : archive root destination (found.filter (· ∉ vanished)) tree = (.ok final, after)) :
    ∃ final', archive root destination found tree = (.ok final', after) ∧
      final.Besides ((found.filter (· ∈ vanished)).map (.ofMissing root)) final' := by
  let itself (path : Path) : Bool := path.same (root.join ⟨destination⟩)
  have only {path : Path} (gone : path ∈ vanished) : itself path = false := apart path gone
  have skipped : (found.filter (· ∉ vanished)).filter itself = found.filter itself := by
    rw [List.filter_filter]
    refine List.filter_congr fun path _ => ?_
    by_cases gone : path ∈ vanished <;> simp [gone, only]
  have packed : (found.filter (· ∉ vanished)).filter (!itself ·) =
      (found.filter (!itself ·)).filter (· ∉ vanished) := List.filter_comm _ _ _
  have lost : (found.filter (!itself ·)).filter (· ∈ vanished) =
      found.filter (· ∈ vanished) := by
    rw [List.filter_filter]
    refine List.filter_congr fun path _ => ?_
    by_cases gone : path ∈ vanished <;> simp [gone, only]
  obtain ⟨left, member, stays, other⟩ := some_left
  have among : left ∈ found.filter (!itself ·) :=
    List.mem_filter.mpr ⟨member, by simp [itself, other]⟩
  have nonempty : (found.filter (!itself ·)).isEmpty = false :=
    List.isEmpty_eq_false_iff.mpr (List.ne_nil_of_mem among)
  have nonempty' : ((found.filter (!itself ·)).filter (· ∉ vanished)).isEmpty = false :=
    List.isEmpty_eq_false_iff.mpr
      (List.ne_nil_of_mem (List.mem_filter.mpr ⟨among, by simpa using stays⟩))
  have besides := (Report.besides_start .archive (some destination) root
    (found.filter (· ∉ vanished)) found).foldl_skip root (found.filter itself)
  unfold archive at done ⊢
  dsimp only at done ⊢
  rw [skipped, packed, nonempty'] at done
  rw [nonempty, ← lost]
  unfold opened at missing
  cases above : (root.join ⟨destination⟩).parent? with
  | none =>
    rw [above] at done missing
    refine pack_missing (fun opened begins => ?_) besides done
    dsimp only at missing
    rwa [begins] at missing
  | some parent =>
    rw [above] at done missing
    obtain ⟨_, start, made, packs⟩ := Changes.bind_apply_eq_ok_iff.mp done
    have missing' : ∀ opened, start.write (root.join ⟨destination⟩) [] = .ok opened →
        ∀ path ∈ vanished, opened.Lacks path := by
      intro opened begins
      dsimp only at missing
      rw [Changes.at_eq_ok made] at missing
      dsimp only at missing
      rwa [begins] at missing
    obtain ⟨final', packs', besides'⟩ := pack_missing missing' besides packs
    refine ⟨final', Changes.bind_apply_eq_ok_iff.mpr ⟨_, start, made, packs'⟩, besides'⟩

/-- What is missing in the end was missing when the archive had been opened. -/
theorem lacks_opened {destination : String} (lacks : after.Lacks path)
    (some_left : ∃ path ∈ found, path ∉ vanished ∧ path.same (root.join ⟨destination⟩) = false)
    (done : archive root destination (found.filter (· ∉ vanished)) tree = (.ok final, after)) :
    (opened (root.join ⟨destination⟩) tree).Lacks path := by
  obtain ⟨left, member, stays, other⟩ := some_left
  have nonempty : ((found.filter (· ∉ vanished)).filter
      (!·.same (root.join ⟨destination⟩))).isEmpty = false := by
    refine List.isEmpty_eq_false_iff.mpr (List.ne_nil_of_mem (a := left) ?_)
    exact List.mem_filter.mpr ⟨List.mem_filter.mpr ⟨member, by simpa using stays⟩, by simp [other]⟩
  have written {start : FileTree} {report report' : Report}
      (packs : (do
        let results ← writeArchive (root.join ⟨destination⟩)
          ((found.filter (· ∉ vanished)).filter (!·.same (root.join ⟨destination⟩)))
        Changes.look fun _ => recordAll root (((found.filter (· ∉ vanished)).filter
          (!·.same (root.join ⟨destination⟩))).zip results) report :
        Changes ExecutionError Report) start = (.ok report', after)) :
      ∃ begun, start.write (root.join ⟨destination⟩) [] = .ok begun ∧ begun.Lacks path := by
    obtain ⟨results, last, writes, records⟩ := Changes.bind_apply_eq_ok_iff.mp packs
    obtain ⟨rfl, -⟩ := look_eq_ok records
    unfold writeArchive at writes
    obtain ⟨_, begun, begins, collects⟩ := Changes.bind_apply_eq_ok_iff.mp writes
    obtain ⟨⟨members, collected⟩, middle, seen, ends⟩ := Changes.bind_apply_eq_ok_iff.mp collects
    obtain ⟨rfl, -⟩ := look_eq_ok seen
    obtain ⟨_, last', ends, gives⟩ := Changes.bind_apply_eq_ok_iff.mp ends
    obtain ⟨rfl, -⟩ := look_eq_ok gives
    exact ⟨_, Changes.at_ofChange_eq_ok begins,
      lacks.of_keeps (FileTree.keeps_write (Changes.at_ofChange_eq_ok ends))⟩
  unfold archive at done
  dsimp only at done
  rw [nonempty] at done
  unfold opened
  cases above : (root.join ⟨destination⟩).parent? with
  | none =>
    rw [above] at done
    obtain ⟨begun, begins, lacks'⟩ := written done
    dsimp only
    rwa [begins]
  | some parent =>
    rw [above] at done
    obtain ⟨_, start, made, packs⟩ := Changes.bind_apply_eq_ok_iff.mp done
    obtain ⟨begun, begins, lacks'⟩ := written packs
    dsimp only
    rw [Changes.at_eq_ok made]
    dsimp only
    rwa [begins]

end Packing

/-! ## Actions -/

section

variable {destination : String}

/-- Matches are put into a folder one after another, and missing ones do not keep others from it. -/
theorem Transfer.run_missing (operation : Operation)
    (put : Path → Path → Changes ExecutionError Unit) {gone : FileTree → Path → Prop}
    (some_left : ∃ path ∈ found, path ∉ vanished)
    (misses : (into (root.join ⟨destination⟩) put).Misses gone vanished found
      (FileTree.makeFolders (root.join ⟨destination⟩) tree).2)
    (fails : ∀ path ∈ found, path ∈ vanished → ∃ changes,
      into (root.join ⟨destination⟩) put path = some changes ∧
      ∀ stage, gone stage path → changes stage = (.error (.file path .notFound), stage))
    (done : run operation put root destination (found.filter (· ∉ vanished)) tree =
      (.ok final, after)) :
    ∃ final', run operation put root destination found tree = (.ok final', after) ∧
      final.Besides ((found.filter (· ∈ vanished)).map (.ofMissing root)) final' := by
  obtain ⟨left, member, stays⟩ := some_left
  have nonempty := List.ne_nil_of_mem member
  have nonempty' : found.filter (· ∉ vanished) ≠ [] :=
    List.ne_nil_of_mem (List.mem_filter.mpr ⟨member, by simpa using stays⟩)
  rw [run_eq _ _ _ _ nonempty'] at done
  rw [run_eq _ _ _ _ nonempty]
  rcases made : FileTree.makeFolders (root.join ⟨destination⟩) tree with ⟨error | _, start⟩
  · rw [made] at done
    cases done
  · rw [made] at done misses
    exact misses.all fails done (Report.besides_start operation (some destination) root _ found)

/-- What is put into a folder is put there one after another, once the folder is made. -/
theorem Transfer.all_of_run (operation : Operation)
    (put : Path → Path → Changes ExecutionError Unit) (nonempty : found ≠ [])
    (done : run operation put root destination found tree = (.ok final, after)) :
    (into (root.join ⟨destination⟩) put).all root found
      (.start operation (some destination) root found)
      (FileTree.makeFolders (root.join ⟨destination⟩) tree).2 = (.ok final, after) := by
  rw [run_eq _ _ _ _ nonempty] at done
  rcases made : FileTree.makeFolders (root.join ⟨destination⟩) tree with ⟨error | _, start⟩
  · rw [made] at done
    cases done
  · rwa [made] at done

/-- Archives are unpacked one after another, once the folder is made. -/
theorem Packing.all_of_unarchive (any : found.any isArchive = true)
    (done : unarchive root destination found tree = (.ok final, after)) :
    ∃ start, FileTree.makeFolders (root.join ⟨destination⟩) tree = (.ok (), start) ∧
      (into (root.join ⟨destination⟩)).all root found
        (.start .unarchive (some destination) root found) start = (.ok final, after) := by
  unfold unarchive at done
  dsimp only at done
  rw [if_pos any] at done
  obtain ⟨_, start, made, all⟩ := Changes.bind_apply_eq_ok_iff.mp done
  exact ⟨start, Changes.at_eq_ok made, all⟩

/-- Unpacking goes on after missing archives. -/
theorem Packing.unarchive_missing (archives : ∀ path ∈ vanished, isArchive path = true)
    (some_left : ∃ path ∈ found, path ∉ vanished ∧ isArchive path = true)
    (misses : (into (root.join ⟨destination⟩)).Misses FileTree.Lacks vanished found
      (FileTree.makeFolders (root.join ⟨destination⟩) tree).2)
    (done : unarchive root destination (found.filter (· ∉ vanished)) tree = (.ok final, after)) :
    ∃ final', unarchive root destination found tree = (.ok final', after) ∧
      final.Besides ((found.filter (· ∈ vanished)).map (.ofMissing root)) final' := by
  obtain ⟨left, member, stays, archive⟩ := some_left
  have any : found.any isArchive = true := List.any_eq_true.mpr ⟨left, member, archive⟩
  have any' : (found.filter (· ∉ vanished)).any isArchive = true :=
    List.any_eq_true.mpr ⟨left, List.mem_filter.mpr ⟨member, by simpa using stays⟩, archive⟩
  obtain ⟨start, made, all⟩ := all_of_unarchive any' done
  rw [made] at misses
  obtain ⟨final', all', besides⟩ := misses.all
    (fun path _ listed => into_missing (archives path listed) _) all
    (Report.besides_start .unarchive (some destination) root _ found)
  refine ⟨final', ?_, besides⟩
  unfold unarchive
  dsimp only
  rw [if_pos any]
  refine Changes.bind_apply_eq_ok_iff.mpr ⟨(), start, ?_, all'⟩
  rw [Changes.at, Changes.mapError, made]

end

end FileQuery
