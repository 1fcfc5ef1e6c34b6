import FileQuery.Proofs.Plan.Acceptance
import FileQuery.Proofs.Transfer.Overlap

/-!
# What copying does to its matches

A statement that copies leaves its matches, and what is below them, as they were if and only if
the last copy into each of these files wrote what the file held. In a plain tree this is so
whenever the source and the destination are apart. It is not so where two spellings of one folder
are given as source and destination: the statement is accepted, each match is copied to itself,
and copying a file to itself empties it.
-/

namespace FileQuery

variable {tree later changed : FileTree} {root : Path} {plan : Plan} {found : List Path}
  {destination : String}

namespace Plan

/-- A file with its bytes that is a match, or is below a match. -/
structure Protects (plan : Plan) (root : Path) (tree : FileTree) (place : Place)
    (bytes : List UInt8) : Prop where
  holds : tree.content? place = some bytes
  among : ∃ found start name below, plan.findMatches tree root = .ok found ∧
    tree.LeadsTo (plan.folder root) start ∧ (plan.folder root).child name ∈ found ∧
    place = start ++ name :: below

/-- The matches, and what is below them, are as they were. -/
def Keeps (plan : Plan) (root : Path) (tree after : FileTree) : Prop :=
  ∀ place bytes, plan.Protects root tree place bytes → after.content? place = some bytes

/-- Source and destination are different folders, and if folders are selected, then neither is the
    destination in a match, nor is the source in what a match is copied to. -/
structure Apart (plan : Plan) (root : Path) (tree : FileTree) (destination : String) : Prop where
  elsewhere : tree.lexical (root.join ⟨destination⟩) ≠ tree.lexical (plan.folder root)
  outside : plan.target = .folders → ∀ found name, plan.findMatches tree root = .ok found →
    (plan.folder root).child name ∈ found →
      ¬ tree.lexical (plan.folder root) ++ [name] <+: tree.lexical (root.join ⟨destination⟩) ∧
      ¬ tree.lexical (root.join ⟨destination⟩) ++ [name] <+: tree.lexical (plan.folder root)

/-- What is admitted is of the target's kind. -/
theorem accepts_of_admits {path : Path} {node : Node}
    (admitted : plan.admits tree path node = .ok true) : plan.target.accepts node = true := by
  unfold admits at admitted
  by_cases kind : plan.target.accepts node = true
  · exact kind
  · simp [kind] at admitted

/-- Each match is an entry of the target's kind. -/
theorem mem_matchesAmong {folder : Path} {entries : List (String × Node)}
    (among : plan.matchesAmong tree folder entries = .ok found) :
    ∀ path ∈ found, ∃ name node, (name, node) ∈ entries ∧ plan.target.accepts node = true ∧
      path = folder.child name := by
  induction entries generalizing found with
  | nil =>
    obtain rfl := Except.ok.inj among
    simp
  | cons entry rest inductionHypothesis =>
    obtain ⟨name, node⟩ := entry
    have later {found : List Path} (among : plan.matchesAmong tree folder rest = .ok found) :
        ∀ path ∈ found, ∃ other child, (other, child) ∈ (name, node) :: rest ∧
          plan.target.accepts child = true ∧ path = folder.child other := by
      intro path member
      obtain ⟨other, child, listed, kind, same⟩ := inductionHypothesis among path member
      exact ⟨other, child, List.mem_cons_of_mem _ listed, kind, same⟩
    unfold matchesAmong at among
    split at among
    · exact later among
    split at among
    · contradiction
    · exact later among
    · rename_i admitted
      cases others : plan.matchesAmong tree folder rest with
      | error error =>
        rw [others] at among
        contradiction
      | ok more =>
        rw [others] at among
        obtain rfl := Except.ok.inj among
        have kind := accepts_of_admits admitted
        exact List.forall_mem_cons.mpr
          ⟨⟨name, node, List.mem_cons_self, kind, rfl⟩, later others⟩

/-- In a plain tree a match has a name, and is at this name in the source. -/
theorem exists_of_mem_findMatches (plain : tree.Plain)
    (finds : plan.findMatches tree root = .ok found) :
    ∀ path ∈ found, ∃ name node, IsName name ∧ path = (plan.folder root).child name ∧
      plan.target.accepts node = true ∧
      tree.get? (tree.lexical (plan.folder root) ++ [name]) = some node := by
  intro path member
  unfold findMatches at finds
  dsimp only at finds
  split at finds
  · contradiction
  · contradiction
  · rename_i stamps entries located
    obtain ⟨name, node, listed, kind, rfl⟩ := mem_matchesAmong finds path member
    have at_source := plain.get?_of_locate located
    have tidy : (Node.folder stamps entries).Tidy := plain.root _ _ at_source
    refine ⟨name, node, tidy.1 _ listed, rfl, kind, ?_⟩
    rw [FileTree.get?] at at_source ⊢
    rw [Node.get?_append, at_source, Option.bind_some, Node.get?,
      lookup_of_mem tidy.2 listed, Option.bind_some, Node.get?]
  · contradiction
  · contradiction

/-- A match that is known by its name is at this name in the source. -/
theorem exists_of_child_mem (plain : tree.Plain) (finds : plan.findMatches tree root = .ok found)
    {name : String} (isName : IsName name) (member : (plan.folder root).child name ∈ found) :
    ∃ node, plan.target.accepts node = true ∧
      tree.get? (tree.lexical (plan.folder root) ++ [name]) = some node := by
  obtain ⟨other, node, isName', same, kind, at_place⟩ :=
    exists_of_mem_findMatches plain finds _ member
  have same' : some name = some other := by
    rw [← Path.fileName?_child (plan.folder root) isName, same, Path.fileName?_child _ isName']
  obtain rfl := Option.some.inj same'
  exact ⟨node, kind, at_place⟩

/-- Nothing is below a match if files are selected. -/
theorem below_eq_nil (plain : tree.Plain) (finds : plan.findMatches tree root = .ok found)
    {name : String} (isName : IsName name) (member : (plan.folder root).child name ∈ found)
    (selectsFiles : plan.target = .files) (grows : tree.Extends later) {below : Place}
    {bytes : List UInt8}
    (holds : later.content? (tree.lexical (plan.folder root) ++ name :: below) = some bytes) :
    below = [] := by
  obtain ⟨node, kind, at_place⟩ := exists_of_child_mem plain finds isName member
  rw [selectsFiles] at kind
  cases node with
  | folder | link => cases kind
  | file stamps executable held =>
    have isFile : tree.content? (tree.lexical (plan.folder root) ++ [name]) = some held := by
      rw [FileTree.content?, at_place]
      rfl
    obtain ⟨bytes', isFile'⟩ := grows.files _ _ isFile
    cases below with
    | nil => rfl
    | cons next rest =>
      have nothing := FileTree.get?_below_file isFile' (List.cons_ne_nil next rest)
      rw [List.append_assoc, List.singleton_append] at nothing
      rw [FileTree.content?, nothing] at holds
      cases holds

/-- A protected file of a plain tree is at or below the place of a match. -/
theorem Protects.exists_below {place : Place} {bytes : List UInt8}
    (protected_ : plan.Protects root tree place bytes) (plain : tree.Plain) :
    ∃ found name below, plan.findMatches tree root = .ok found ∧
      (plan.folder root).child name ∈ found ∧ IsName name ∧
      place = tree.lexical (plan.folder root) ++ name :: below := by
  obtain ⟨holds, found, start, name, below, finds, leads, member, rfl⟩ := protected_
  obtain rfl := (FileTree.Extends.refl plain).place_of_leadsTo leads
  obtain ⟨_, _, at_place⟩ := FileTree.get?_of_content? holds
  exact ⟨found, name, below, finds, member, plain.isName_of_get? at_place, rfl⟩

/-- A copy of a match in a plain tree goes from below the source to below the destination. -/
theorem exists_below_of_isCounterpart {copy : FileCopy}
    (counterpart : copy.IsCounterpart IsName found (root.join ⟨destination⟩))
    (finds : plan.findMatches tree root = .ok found) (plain : tree.Plain)
    (grows : tree.Extends later) (makes : copy.Makes later changed) :
    ∃ name below, (plan.folder root).child name ∈ found ∧
      copy.place = tree.lexical (root.join ⟨destination⟩) ++ name :: below ∧
      (plan.target = .files → below = []) := by
  obtain ⟨path, member, name, named, mirrors⟩ := counterpart
  obtain ⟨other, node, isName, rfl, kind, -⟩ := exists_of_mem_findMatches plain finds path member
  rw [Path.fileName?_child _ isName] at named
  obtain rfl := Option.some.inj named
  have places : ∃ names, copy.origin = tree.lexical ((plan.folder root).child other) ++ names ∧
      copy.place = tree.lexical ((root.join ⟨destination⟩).child other) ++ names := by
    rcases mirrors with mirrors | mirrors
    · exact mirrors.places grows makes
    · rw [← tree.lexical_child_empty ((root.join ⟨destination⟩).child other)]
      exact mirrors.places grows makes
  obtain ⟨below, origin, place⟩ := places
  rw [tree.lexical_child _ isName, List.append_assoc, List.singleton_append] at origin place
  refine ⟨other, below, member, place, fun selectsFiles => ?_⟩
  obtain ⟨held, holds, -⟩ := makes.brings
  rw [origin] at holds
  exact below_eq_nil plain finds isName member selectsFiles grows holds

/-- Where source and destination are apart, no copy goes to a protected file. -/
theorem Apart.place_ne {copy : FileCopy} {place : Place} {bytes : List UInt8}
    (apart : plan.Apart root tree destination) (plain : tree.Plain)
    (finds : plan.findMatches tree root = .ok found)
    (counterpart : copy.IsCounterpart IsName found (root.join ⟨destination⟩))
    (grows : tree.Extends later) (makes : copy.Makes later changed)
    (protected_ : plan.Protects root tree place bytes) : copy.place ≠ place := by
  obtain ⟨name, below, member, goal, below_nil⟩ :=
    exists_below_of_isCounterpart counterpart finds plain grows makes
  obtain ⟨found', other, below', finds', member', isName, rfl⟩ := protected_.exists_below plain
  obtain rfl := Except.ok.inj (finds.symm.trans finds')
  intro same
  rw [goal] at same
  cases target : plan.target with
  | files =>
    obtain rfl := below_nil target
    obtain rfl := below_eq_nil plain finds isName member' target (.refl plain) protected_.holds
    exact apart.elsewhere (List.append_inj' same rfl).1
  | folders =>
    rcases List.append_eq_append_iff.mp same with
      ⟨between, source_eq, names⟩ | ⟨between, goal_eq, names⟩
    · cases between with
      | nil => exact apart.elsewhere (source_eq.trans (List.append_nil _)).symm
      | cons first rest =>
        obtain ⟨rfl, -⟩ := List.cons.inj names
        refine (apart.outside target found name finds member).2 ?_
        rw [source_eq]
        exact ⟨rest, (List.append_cons _ name rest).symm⟩
    · cases between with
      | nil => exact apart.elsewhere (goal_eq.trans (List.append_nil _))
      | cons first rest =>
        obtain ⟨rfl, -⟩ := List.cons.inj names
        refine (apart.outside target found other finds member').1 ?_
        rw [goal_eq]
        exact ⟨rest, (List.append_cons _ other rest).symm⟩

/-- Where source and destination are one folder, a protected file is emptied if every match is
    processed. -/
theorem Protects.emptied {place : Place} {bytes : List UInt8} {report : Report}
    (protected_ : plan.Protects root tree place bytes) (plain : tree.Plain)
    (finds : plan.findMatches tree root = .ok found)
    (same : tree.lexical (plan.folder root) = tree.lexical (root.join ⟨destination⟩))
    (succeeds : Transfer.copy root destination found tree = (.ok report, changed))
    (clean : report.Clean) : changed.content? place = some [] := by
  obtain ⟨found', name, below, finds', member, isName, rfl⟩ := protected_.exists_below plain
  obtain rfl := Except.ok.inj (finds.symm.trans finds')
  have areNames : ∀ path ∈ found, ∃ name, IsName name ∧ path = (plan.folder root).child name := by
    intro path listed
    obtain ⟨other, _, isName', same', -⟩ := exists_of_mem_findMatches plain finds path listed
    exact ⟨other, isName', same'⟩
  exact Transfer.copy_empties same areNames member isName protected_.holds plain succeeds clean

end Plan

namespace Statement

variable {selection : Selection} {converter : Converter}

/-- The plan of a statement that copies is to copy. -/
theorem action_of_copy (accepted : Plan.ofStatement (.copy selection destination) = .ok plan) :
    plan.action = .copy destination := by
  have accepts := (Plan.ofStatement_eq_ok_iff _ _).mp accepted
  obtain ⟨_, -, action⟩ := bind_eq_ok_iff.mp accepts.action
  exact (Except.ok.inj action).symm

/-- A statement that copies does nothing if its matches are not found. -/
theorem run_copy_of_error (accepted : Plan.ofStatement (.copy selection destination) = .ok plan)
    (converter : Converter) {error : ExecutionError}
    (fails : plan.findMatches tree root = .error error) :
    (Statement.copy selection destination).run root converter tree = (.failed error, tree) := by
  unfold Statement.run
  rw [accepted]
  dsimp only
  rw [Plan.execute, Changes.bind_apply, Changes.look, fails]

/-- A statement that copies changes the tree as copying its matches does, and is completed only if
    this succeeds. -/
theorem run_copy_of_ok (accepted : Plan.ofStatement (.copy selection destination) = .ok plan)
    (converter : Converter) (finds : plan.findMatches tree root = .ok found) :
    ∃ outcome, (Statement.copy selection destination).run root converter tree =
        (outcome, (Transfer.copy root destination found tree).2) ∧
      ∀ report, outcome = .completed report →
        (Transfer.copy root destination found tree).1 = .ok report := by
  have performs : plan.perform root converter found = Transfer.copy root destination found := by
    rw [Plan.perform, action_of_copy accepted]
  unfold Statement.run
  rw [accepted]
  dsimp only
  rw [Plan.execute, Changes.bind_apply, Changes.look, finds]
  dsimp only
  rw [performs]
  rcases Transfer.copy root destination found tree with ⟨error | report, changed⟩
  · exact ⟨.failed error, rfl, fun _ completed => by cases completed⟩
  · refine ⟨.completed report, rfl, fun other same => ?_⟩
    exact congrArg Except.ok (Outcome.completed.inj same)

end Statement

/-! ### A tree with one file -/

/-- A tree with a file in a folder. -/
def FileTree.oneFile (bytes : List UInt8) : FileTree :=
  ⟨.folder (.ofInstant .epoch) [("a", .folder (.ofInstant .epoch)
    [("x", .file (.ofInstant .epoch) false bytes)])], [], .epoch⟩

/-- The plan for the files of the folder. -/
def Plan.ofOneFile (action : Action) : Plan := ⟨.files, "a", none, action⟩

theorem Plan.folder_ofOneFile (action : Action) : (ofOneFile action).folder ⟨"/"⟩ = ⟨"/a"⟩ := by
  change (Path.mk "/").join ⟨"a"⟩ = ⟨"/a"⟩
  rfl

namespace FileTree

variable (bytes : List UInt8)

theorem plain_oneFile : (oneFile bytes).Plain := by
  have isName (name : String) (text : name = "a" ∨ name = "x") : IsName name := by
    rcases text with rfl | rfl <;> constructor <;> decide
  refine ⟨Node.plain_folder ?_ ?_, by simp [oneFile]⟩
  · simp [Node.Tidy, isName "a" (.inl rfl)]
  · refine List.forall_mem_singleton.mpr (Node.plain_folder ?_ ?_)
    · simp [Node.Tidy, isName "x" (.inr rfl)]
    · exact List.forall_mem_singleton.mpr (Node.plain_file _ _ _)

/-- Paths to the folder and to the file, with a dot and without. -/
theorem resolve_oneFile (last : LastLink) :
    (oneFile bytes).resolve last ⟨"/a"⟩ = .ok ⟨["a"], (oneFile bytes).get? ["a"], false⟩ ∧
    (oneFile bytes).resolve last ⟨"/./a"⟩ = .ok ⟨["a"], (oneFile bytes).get? ["a"], false⟩ ∧
    (oneFile bytes).resolve last ⟨"/a/x"⟩ =
      .ok ⟨["a", "x"], (oneFile bytes).get? ["a", "x"], false⟩ ∧
    (oneFile bytes).resolve last ⟨"/./a/x"⟩ =
      .ok ⟨["a", "x"], (oneFile bytes).get? ["a", "x"], false⟩ := by
  simp [oneFile, resolve, checkPath, pathLimit, names, Path.segments, descend, start,
    Path.isAbsolute, get?, Node.get?, nameLimit, Text.byteLength, Char.utf8Size]

/-- The file is the match. -/
theorem findMatches_oneFile (action : Action) :
    (Plan.ofOneFile action).findMatches (oneFile bytes) ⟨"/"⟩ = .ok [⟨"/a/x"⟩] := by
  obtain ⟨leads, -⟩ := resolve_oneFile bytes .follow
  have found : (oneFile bytes).find ⟨"/a"⟩ =
      .ok (.folder (.ofInstant .epoch) [("x", .file (.ofInstant .epoch) false bytes)]) := by
    rw [find, locate, leads]
    rfl
  unfold Plan.findMatches
  dsimp only
  rw [Plan.folder_ofOneFile]
  rw [found]
  rfl

theorem protects_oneFile (action : Action) :
    (Plan.ofOneFile action).Protects ⟨"/"⟩ (oneFile bytes) ["a", "x"] bytes := by
  obtain ⟨leads, -⟩ := resolve_oneFile bytes .follow
  refine ⟨rfl, [⟨"/a/x"⟩], ["a"], "x", [], findMatches_oneFile bytes action, ?_, ?_, rfl⟩
  · rw [Plan.folder_ofOneFile]
    exact ⟨_, _, leads⟩
  · rw [Plan.folder_ofOneFile]
    exact List.mem_singleton.mpr rfl

/-- The folder is there already. -/
theorem makeFolders_oneFile : makeFolders ⟨"/./a"⟩ (oneFile bytes) = (.ok (), oneFile bytes) := by
  obtain ⟨-, made, -⟩ := resolve_oneFile bytes .keep
  obtain ⟨-, found, -⟩ := resolve_oneFile bytes .follow
  have alreadyExists : (oneFile bytes).makeFolder ⟨"/./a"⟩ = .error .alreadyExists := by
    rw [makeFolder, made]
    rfl
  have folder : (oneFile bytes).isFolder ⟨"/./a"⟩ = true := by
    rw [isFolder, find, locate, found]
    rfl
  rw [makeFolders, makeMissing]
  dsimp only
  rw [if_neg (by decide), alreadyExists]
  dsimp only
  rw [unlessFolder, folder]
  rfl

/-- The file is copied to itself, and is empty then. -/
theorem copyEntry_oneFile :
    Transfer.copyEntry ⟨"/a/x"⟩ ⟨"/./a/x"⟩ (oneFile bytes) = (.ok (), oneFile []) := by
  obtain ⟨-, -, kept, -⟩ := resolve_oneFile bytes .keep
  obtain ⟨-, -, source, target⟩ := resolve_oneFile bytes .follow
  have isFile : (oneFile bytes).findLink ⟨"/a/x"⟩ =
      .ok (.file (.ofInstant .epoch) false bytes) := by
    rw [findLink, locate, kept]
    rfl
  have located : (oneFile bytes).locate .follow ⟨"/a/x"⟩ =
      .ok (["a", "x"], .file (.ofInstant .epoch) false bytes) := by
    rw [locate, source]
    rfl
  have opens : (oneFile bytes).truncate ⟨"/./a/x"⟩ = .ok (oneFile [], ["a", "x"]) := by
    rw [truncate, target]
    rfl
  have copied : (oneFile bytes).copyFile ⟨"/a/x"⟩ ⟨"/./a/x"⟩ = .ok (oneFile []) := by
    rw [copyFile, located]
    dsimp only
    rw [opens]
    rfl
  rw [Transfer.copyEntry, isFile]
  dsimp only
  rw [Transfer.copyFile, Changes.at, Changes.mapError, Changes.ofChange, copied]

theorem copy_oneFile :
    (Transfer.copy ⟨"/"⟩ "./a" [⟨"/a/x"⟩] (oneFile bytes)).2 = oneFile [] := by
  have folder : (Path.mk "/").join ⟨"./a"⟩ = ⟨"/./a"⟩ := rfl
  have treated : Transfer.into ⟨"/./a"⟩ Transfer.copyEntry ⟨"/a/x"⟩ =
      some (Transfer.copyEntry ⟨"/a/x"⟩ ⟨"/./a/x"⟩) := rfl
  rw [Transfer.copy, Transfer.run, folder]
  dsimp only
  rw [if_neg (by decide), Changes.bind_apply, Changes.at, Changes.mapError, makeFolders_oneFile]
  dsimp only
  rw [Treatment.all, treated]
  dsimp only
  rw [copyEntry_oneFile]
  rfl

end FileTree

namespace Statement

variable {selection : Selection}

/-- In any tree a statement that copies makes folders and copies its matches, and what is below
    them, to their counterparts, and does nothing else. It keeps its matches if and only if the
    last copy into each of their files, if there is one, wrote what the file held.

    In a plain tree it keeps them if source and destination are apart. If source and destination
    are one folder, a run that processes every match empties each of their files. -/
theorem copy_keeps_iff (accepted : Plan.ofStatement (.copy selection destination) = .ok plan)
    (root : Path) (converter : Converter) (tree : FileTree) :
    ∃ outcome after copies,
      (Statement.copy selection destination).run root converter tree = (outcome, after) ∧
      Copies tree copies after ∧
      (∀ copy ∈ copies, ∃ found, plan.findMatches tree root = .ok found ∧
        copy.IsCounterpart (fun _ => True) found (root.join ⟨destination⟩)) ∧
      (plan.Keeps root tree after ↔ ∀ place bytes, plan.Protects root tree place bytes →
        ∀ copy ∈ lastInto place copies, copy.written = bytes) ∧
      (tree.Plain → plan.Apart root tree destination → plan.Keeps root tree after) ∧
      (tree.Plain → tree.lexical (plan.folder root) = tree.lexical (root.join ⟨destination⟩) →
        ∀ report, outcome = .completed report → report.Clean →
          ∀ place bytes, plan.Protects root tree place bytes → after.content? place = some []) := by
  cases finds : plan.findMatches tree root with
  | error error =>
    have kept : plan.Keeps root tree tree := fun _ _ protected_ => protected_.holds
    have ran := run_copy_of_error accepted converter finds
    refine ⟨_, _, [], ran, .nothing tree, by simp, ?_, fun _ _ => kept, ?_⟩
    · exact iff_of_true kept fun _ _ _ copy last => by cases last
    · intro _ _ report completed
      cases completed
  | ok found =>
    obtain ⟨outcome, ran, completes⟩ := run_copy_of_ok accepted converter finds
    obtain ⟨copies, done, made⟩ := Transfer.exists_copies tree root destination found
    refine ⟨outcome, _, copies, ran, done, ?_, ?_, ?_, ?_⟩
    · exact fun copy member => ⟨found, rfl, (made copy member).1⟩
    · exact forall₃_congr fun place bytes protected_ => done.content?_kept_iff protected_.holds
    · intro plain apart place bytes protected_
      refine done.content?_untouched protected_.holds fun copy member => ?_
      obtain ⟨counterpart, later, changed, grows, makes⟩ := (made copy member).2 plain
      exact apart.place_ne plain finds counterpart grows makes protected_
    · intro plain same report completed clean place bytes protected_
      have succeeds : Transfer.copy root destination found tree =
          (.ok report, (Transfer.copy root destination found tree).2) :=
        Prod.ext (completes report completed) rfl
      exact protected_.emptied plain finds same succeeds clean

/-- A file in a folder is copied to another folder, and stays as it was. -/
theorem copy_keeps_oneFile :
    Plan.ofStatement (.copy ⟨"files", "a", none⟩ "b") = .ok (.ofOneFile (.copy "b")) ∧
    (Plan.ofOneFile (.copy "b")).Protects ⟨"/"⟩ (.oneFile [104, 105]) ["a", "x"] [104, 105] ∧
    ((Statement.copy ⟨"files", "a", none⟩ "b").run ⟨"/"⟩ .none (.oneFile [104, 105])).2.content?
      ["a", "x"] = some [104, 105] := by
  have accepted : Plan.ofStatement (.copy ⟨"files", "a", none⟩ "b") =
      .ok (.ofOneFile (.copy "b")) := rfl
  have protected_ := FileTree.protects_oneFile [104, 105] (.copy "b")
  have apart : (Plan.ofOneFile (.copy "b")).Apart ⟨"/"⟩ (.oneFile [104, 105]) "b" :=
    ⟨by decide, fun selectsFolders => by cases selectsFolders⟩
  obtain ⟨outcome, after, copies, ran, -, -, -, keeps, -⟩ :=
    copy_keeps_iff accepted ⟨"/"⟩ .none (.oneFile [104, 105])
  rw [ran]
  exact ⟨accepted, protected_, keeps (FileTree.plain_oneFile _) apart _ _ protected_⟩

/-- Not every accepted statement that copies keeps its matches: a file in a folder is lost when it
    is copied to this folder in another spelling. -/
theorem not_forall_copy_keeps :
    ¬ ∀ selection destination plan,
      Plan.ofStatement (.copy selection destination) = .ok plan → ∀ root converter tree,
        plan.Keeps root tree
          ((Statement.copy selection destination).run root converter tree).2 := by
  intro keeps
  have accepted : Plan.ofStatement (.copy ⟨"files", "a", none⟩ "./a") =
      .ok (.ofOneFile (.copy "./a")) := rfl
  have kept := keeps _ _ _ accepted ⟨"/"⟩ .none (.oneFile [104, 105]) _ _
    (FileTree.protects_oneFile [104, 105] (.copy "./a"))
  obtain ⟨outcome, ran, -⟩ :=
    run_copy_of_ok accepted .none (FileTree.findMatches_oneFile [104, 105] (.copy "./a"))
  rw [ran, FileTree.copy_oneFile] at kept
  exact absurd kept (by decide)

end Statement

end FileQuery
