import FileQuery.Proofs.Transfer.Copying
import FileQuery.Proofs.Transfer.Destinations

/-!
# What copying matches comes to

A statement that copies its matches lays a copy of each of them, with all that is below it, over
what has its name in the destination, unless the match is at or above the destination. Nothing else
changes, apart from the destination and the folders that it is in, which are made if they are not
there. The destination must be neither the folder of the matches nor above it: there a match would
be copied over itself, or over the folder that it is in.
-/

namespace FileQuery

open FileTree (namingFault pathLimit)

variable {tree start before later after other : FileTree} {base folder root : Path}
  {home source goal place : Place} {rest rest' : List String} {left left' : Nat}
  {name destination : String} {names gone : List String} {node : Node} {report : Report}
  {plan : Plan} {converter : Converter} {selection : Selection}

/-! ## One match -/

/-- Whether a match can be copied: neither folder is in the match or what it is copied over, the
    match can be copied, and the path of the copy can be followed with a slash after it, if it is
    that of a folder. -/
structure FileTree.Mergeable (tree : FileTree) (base folder : Path) (source goal : Place)
    (name : String) : Prop where
  clears : Clears source goal name
  copyable : tree.Copyable base folder source goal name
  slashed : tree.substance? (source ++ [name]) = some .folder →
    namingFault ((folder.child name).slashed true) name = none

/-- Whether a match can be copied is not changed by copying others. -/
theorem FileTree.Overlaid.mergeable_iff (overlaid : start.Overlaid source goal gone later)
    (clear : ∀ next ∈ gone, FileTree.Clears source goal next)
    (clears : FileTree.Clears source goal name) (fresh : name ∉ gone) :
    later.Mergeable base folder source goal name ↔
      start.Mergeable base folder source goal name := by
  have copyable : later.Copyable base folder source goal name ↔
      start.Copyable base folder source goal name := overlaid.copyable_iff clear clears fresh
  have same : later.substance? (source ++ [name]) = start.substance? (source ++ [name]) :=
    substance?_congr (overlaid.untouched clear clears fresh []).1
  constructor <;> rintro ⟨clears, able, slashed⟩
  · exact ⟨clears, copyable.mp able, fun isFolder => slashed (same.trans isFolder)⟩
  · exact ⟨clears, copyable.mpr able, fun isFolder => slashed (same.symm.trans isFolder)⟩

namespace Transfer

/-- A match is copied by what it is. -/
theorem copyEntry_child (plain : tree.Plain) (reaches : tree.Reaches base left source)
    (isName : IsName name) (found : tree.get? (source ++ [name]) = some node) :
    copyEntry (base.child name) (folder.child name) tree =
      match namingFault (base.child name) name with
      | some error => (.error (.file (base.child name) error), tree)
      | none =>
        if node.isFolder then
          copyTree pathLimit (base.child name) ((folder.child name).slashed true) tree
        else copyFile (base.child name) (folder.child name) tree := by
  have locates (last : LastLink) : tree.locate last (base.child name) =
      match namingFault (base.child name) name with
      | some error => .error error
      | none => .ok (source ++ [name], node) := by
    rw [FileTree.locate,
      FileTree.resolve_child reaches isName last fun _ _ => plain.unlinked _, found]
    cases namingFault (base.child name) name with
    | some error => rfl
    | none => exact if_neg (by simp)
  rw [copyEntry, FileTree.findLink, locates]
  cases fault : namingFault (base.child name) name with
  | some error =>
    have fails : tree.copyFile (base.child name) (folder.child name) = .error error := by
      rw [FileTree.copyFile, locates, fault]
    exact (copyFile_eq _ _ tree).trans (by rw [fails])
  | none =>
    cases node with
    | file | folder => rfl
    | link target => exact absurd found (plain.unlinked _ target)

section

variable (plain : tree.Plain) (reaches : tree.Reaches base left source)
  (reaches' : tree.Reaches folder left' goal) (isName : IsName name)
  (isFolder : ∃ stamps entries, tree.get? goal = some (.folder stamps entries))
  (found : tree.get? (source ++ [name]) = some node)

include plain reaches reaches' isName isFolder

/-- A match is not copied to below itself. -/
theorem copyEntry_inside (inside : source ++ [name] <+: goal) :
    copyEntry (base.child name) (folder.child name) tree ≠ (.ok (), after) := by
  obtain ⟨_, _, found⟩ := FileTree.exists_folder_of_above inside isFolder
  rw [copyEntry_child plain reaches isName found]
  cases namingFault (base.child name) name with
  | some error => nofun
  | none => exact copyTree_inside _ true plain reaches reaches' isName found isFolder inside

include found

/-- A match is copied if it can be, and its copy lies over what had its name. -/
theorem copyEntry_cases (clears : FileTree.Clears source goal name) :
    Overlays (tree.Mergeable base folder source goal name) tree source goal [name]
      (copyEntry (base.child name) (folder.child name) tree) := by
  rw [copyEntry_child plain reaches isName found]
  cases fault : namingFault (base.child name) name with
  | some error =>
    refine .inr ⟨fun able => ?_, _, _, rfl⟩
    have there : tree.substance? (source ++ [name]) = some node.substance :=
      congrArg (Option.map Node.substance) found
    cases fault.symm.trans (Path.followable_singleton.mp (able.copyable [] _ there).1)
  | none =>
    cases node with
    | file =>
      refine (copyFile_cases plain reaches reaches' isName isFolder clears.differs found).congr
        ⟨fun able => ⟨clears, able, fun isFolder => ?_⟩, fun able => able.copyable⟩
      cases (FileTree.substance?_eq_file.mpr ⟨_, _, found⟩).symm.trans isFolder
    | folder =>
      exact (copyTree_cases pathLimit true plain reaches reaches' isName found isFolder clears
        (Nat.le_add_left _ _)).congr ⟨fun able => ⟨clears, able.2, fun _ => able.1⟩, fun able =>
          ⟨able.slashed (FileTree.substance?_eq_folder.mpr ⟨_, _, found⟩), able.copyable⟩⟩
    | link target => exact absurd found (plain.unlinked _ target)

/-- No error of copying a match says that it has vanished. -/
theorem copyEntry_lasting {error : ExecutionError}
    (fails : copyEntry (base.child name) (folder.child name) tree = (.error error, after)) :
    error.isNotFound = false := by
  rw [copyEntry_child plain reaches isName found] at fails
  cases fault : namingFault (base.child name) name with
  | some error =>
    rw [fault] at fails
    cases fails
    exact isNotFound_file fun same =>
      FileTree.namingFault_ne_notFound base isName (same ▸ fault)
  | none =>
    rw [fault] at fails
    cases node with
    | file => exact copyFile_lasting plain reaches reaches' isName found fails
    | folder => exact copyTree_lasting _ true plain reaches reaches' isName found isFolder fails
    | link target => exact absurd found (plain.unlinked _ target)

end

/-! ## One match after another -/

/-- A stage of copying entries from one folder to another one. -/
structure Merging (start : FileTree) (source goal : Place) (gone : List String)
    (later : FileTree) : Prop where
  overlaid : start.Overlaid source goal gone later
  clear : ∀ next ∈ gone, FileTree.Clears source goal next

/-- A match is copied if that was possible in the beginning. -/
theorem Merging.settles (reaches : start.Reaches base left source)
    (reaches' : start.Reaches folder left' goal) (isName : IsName name) (fresh : name ∉ gone)
    (found : start.get? (source ++ [name]) = some node)
    (isFolder : ∃ stamps entries, start.get? goal = some (.folder stamps entries))
    (apart : ¬ goal <+: source) (merging : Merging start source goal gone later) :
    Settles copyEntry (start.Mergeable base folder source goal name)
      (Merging start source goal (gone ++ [name])) base folder name later := by
  obtain ⟨overlaid, clear⟩ := merging
  obtain ⟨node', found', -⟩ := overlaid.keeps.exists_of_get? found
  have reached := reaches.keeps overlaid.keeps
  have reached' := reaches'.keeps overlaid.keeps
  have isFolder' := overlaid.keeps.isFolder isFolder
  have lasting {error : ExecutionError} {changed : FileTree}
      (fails : copyEntry (base.child name) (folder.child name) later = (.error error, changed)) :
      error.isNotFound = false :=
    copyEntry_lasting overlaid.plain reached reached' isName isFolder' found' fails
  by_cases inside : source ++ [name] <+: goal
  · refine .inr ⟨fun able => able.clears.leaves inside, ?_⟩
    rcases copies : copyEntry (base.child name) (folder.child name) later with
      ⟨error | _, changed⟩
    · exact ⟨error, changed, rfl, lasting copies⟩
    · exact absurd copies
        (copyEntry_inside overlaid.plain reached reached' isName isFolder' inside)
  · have clears : FileTree.Clears source goal name :=
      ⟨fun same => apart (same ▸ List.prefix_refl goal), inside, fun around =>
        apart ((List.prefix_append _ _).trans around)⟩
    have copies := (copyEntry_cases overlaid.plain reached reached' isName isFolder' found'
      clears).congr (overlaid.mergeable_iff clear clears fresh)
    rcases copies.onward overlaid clear clears fresh with
      ⟨able, changed, done, more⟩ | ⟨unable, error, changed, fails⟩
    · exact .inl ⟨able, changed, done, more, List.forall_mem_append.mpr
        ⟨clear, List.forall_mem_singleton.mpr clears⟩⟩
    · exact .inr ⟨unable, error, changed, fails, lasting fails⟩

/-- Where the destination was made, the matches that do not hold it are copied there if all of them
    can be, and else the run ends with an error. -/
theorem copy_cases (prepared : Prepared tree start root base folder home rest rest')
    (apart : ¬ home ++ rest' <+: home ++ rest)
    (areNames : ∀ name ∈ names, IsName name) (distinct : names.Nodup)
    (present : ∀ name ∈ names, ∃ node, start.get? (home ++ rest ++ [name]) = some node) :
    (∀ name ∈ kept folder base names,
        start.Mergeable base folder (home ++ rest) (home ++ rest') name) ∧
        (∃ after, (into folder copyEntry).all root (names.map base.child) report start =
          (.ok (report.putting root folder base names), after) ∧
            start.Overlaid (home ++ rest) (home ++ rest') (kept folder base names) after) ∨
      (∃ name ∈ kept folder base names,
        ¬ start.Mergeable base folder (home ++ rest) (home ++ rest') name) ∧
        ∃ error after, (into folder copyEntry).all root (names.map base.child) report start =
          (.error error, after) := by
  obtain ⟨⟨left, reaches⟩, -⟩ := prepared.source
  obtain ⟨⟨left', reaches'⟩, isFolder⟩ := prepared.goal
  have staged : Merging start (home ++ rest) (home ++ rest') [] start :=
    ⟨.refl prepared.furnished.plain _ _, by simp⟩
  have distinct' : ([] ++ names).Nodup := distinct
  refine (all_into_cases areNames distinct' (fun gone name later member fresh _ merging => ?_)
    staged).imp_left fun ⟨able, after, done, merging⟩ => ⟨able, after, done, merging.overlaid⟩
  obtain ⟨node, found⟩ := present name member
  exact merging.settles reaches reaches' (areNames name member) fresh found isFolder apart

end Transfer

/-! ## What is left -/

namespace FileTree

/-- A tree after entries of one folder were copied into another one, which was made if it was not
    there. -/
structure Merged (before : FileTree) (source goal : Place) (names : List String)
    (tree : FileTree) : Prop where
  copied : ∀ name ∈ names, ∀ below, tree.substance? (goal ++ name :: below) =
    (before.substance? (source ++ name :: below)).or (before.substance? (goal ++ name :: below))
  modes : ∀ name ∈ names, ∀ below stamps executable bytes,
    before.get? (source ++ name :: below) = some (.file stamps executable bytes) →
      ∃ stamps', tree.get? (goal ++ name :: below) = some (.file stamps' executable bytes)
  spared : ∀ name ∈ names, ∀ below, before.get? (source ++ name :: below) = none →
    tree.shell? (goal ++ name :: below) = before.shell? (goal ++ name :: below)
  folders : ∀ other, other <+: goal →
    (∃ stamps entries, tree.get? other = some (.folder stamps entries)) ∧
      ∀ node, before.get? other = some node → node.isFolder = true
  elsewhere : ∀ other, ¬ other <+: goal → (∀ name ∈ names, ¬ goal ++ [name] <+: other) →
    tree.shell? other = before.shell? other

/-- What a file was copied over does not matter for what the copy holds. -/
theorem Overlaid.file (overlaid : before.Overlaid source goal names tree) (listed : name ∈ names)
    {below : Place} {stamps : Stamps} {executable : Bool} {bytes : List UInt8}
    (isFile : before.get? (source ++ name :: below) = some (.file stamps executable bytes)) :
    ∃ stamps', tree.get? (goal ++ name :: below) = some (.file stamps' executable bytes) := by
  have laid := overlaid.laid name listed below
  rw [shell?_file isFile] at laid
  cases found : before.shell? (goal ++ name :: below) with
  | none =>
    rw [found] at laid
    exact ⟨_, get?_of_shell?_file laid⟩
  | some node =>
    rw [found] at laid
    cases node <;> exact ⟨_, get?_of_shell?_file laid⟩

/-- Copying entries into a folder that was made copies them into a folder that may not have been
    there. -/
theorem Merged.of_overlaid (furnished : before.Furnished goal start)
    (overlaid : start.Overlaid source goal names tree)
    (isFolder : ∃ stamps entries, start.get? goal = some (.folder stamps entries))
    (aside : ∀ name ∈ names, ¬ source ++ [name] <+: goal) :
    before.Merged source goal names tree := by
  have origin (name : String) (listed : name ∈ names) (below : Place) :
      start.get? (source ++ name :: below) = before.get? (source ++ name :: below) :=
    furnished.elsewhere _ fun above => aside name listed
      (.trans ((List.prefix_append_right_inj source).mpr (by simp)) above)
  have replaced (name : String) (below : Place) :
      start.get? (goal ++ name :: below) = before.get? (goal ++ name :: below) :=
    furnished.elsewhere _ (not_prefix_folder goal below name)
  refine ⟨fun name listed below => ?_, fun name listed below stamps executable bytes isFile => ?_,
    fun name listed below nothing => ?_, fun other above => ?_, fun other notAbove apart => ?_⟩
  · rw [overlaid.copied furnished.plain listed below, substance?, substance?, origin name listed,
      replaced]
    rfl
  · rw [← origin name listed] at isFile
    exact overlaid.file listed isFile
  · rw [← origin name listed] at nothing
    rw [overlaid.spared listed nothing, shell?, shell?, replaced]
  · have stood := exists_folder_of_above above isFolder
    exact ⟨overlaid.keeps.isFolder stood, fun node => furnished.isFolder_of stood⟩
  · have differs : other ≠ goal := by
      rintro rfl
      exact notAbove (List.prefix_refl _)
    rw [overlaid.elsewhere other differs apart, shell?, shell?, furnished.elsewhere other notAbove]

/-- Copying the same entries in trees that differ in the order of entries leaves such trees. -/
theorem Overlaid.alike {start' tree' : FileTree} {names' : List String}
    (overlaid : start.Overlaid source goal names tree)
    (overlaid' : start'.Overlaid source goal names' tree') (alike : start.Alike start')
    (same : names'.Perm names) : tree.Alike tree' := by
  have enters (source goal : Place) (name : String) :
      start'.Enters source goal name ↔ start.Enters source goal name :=
    enters_congr (alike.shells _) (alike.shells _)
  refine ⟨?_, ?_, fun place => ?_⟩
  · rw [overlaid'.keeps.working, alike.working, overlaid.keeps.working]
  · rw [overlaid'.now, alike.now, overlaid.now]
  by_cases itself : place = goal
  · rw [itself, overlaid'.touched, overlaid.touched, alike.now, alike.shells]
    congr 1
    funext node
    exact Node.grow_congr (exists_congr fun name => and_congr same.mem_iff (enters _ _ _)) node
  by_cases within : ∃ name ∈ names, goal ++ [name] <+: place
  · obtain ⟨name, listed, below, rfl⟩ := within
    rw [List.append_assoc, List.singleton_append, overlaid.laid name listed,
      overlaid'.laid name (same.mem_iff.mpr listed), alike.now, alike.shells, alike.shells]
    exact Node.laid_congr (exists_congr (enters _ _)) _ _
  · rw [overlaid.elsewhere place itself fun name listed starts => within ⟨name, listed, starts⟩,
      overlaid'.elsewhere place itself fun name listed starts =>
        within ⟨name, same.mem_iff.mp listed, starts⟩, alike.shells]

/-- What can be copied in one tree can be in a tree that lists its entries in another order. -/
theorem Alike.mergeable (alike : tree.Alike other)
    (able : tree.Mergeable base folder source goal name) :
    other.Mergeable base folder source goal name where
  clears := able.clears
  copyable := (copyable_congr (fun _ => alike.shells _) fun _ => alike.shells _).mpr able.copyable
  slashed isFolder := able.slashed ((substance?_congr (alike.shells _)).symm.trans isFolder)

end FileTree

/-! ## Plans that copy -/

namespace Plan

theorem perform_of_copy (copies : plan.action = .copy destination) (found : List Path) :
    plan.perform root converter found =
      Transfer.run .copy Transfer.copyEntry root destination found := by
  rw [perform, copies]
  rfl

/-- Once the destination was made, either all matches that are not at or above it are copied there,
    or the run ends with an error. -/
theorem copy_prepared (destination : String)
    (selects : plan.Selects root tree (home ++ rest) names)
    (prepared : Prepared tree start root (plan.folder root) folder home rest rest')
    (apart : ¬ home ++ rest' <+: home ++ rest) :
    (∀ name ∈ Transfer.kept folder (plan.folder root) names,
        start.Mergeable (plan.folder root) folder (home ++ rest) (home ++ rest') name) ∧
        (∃ after, (Transfer.into folder Transfer.copyEntry).all root
            (names.map (plan.folder root).child)
            (.start .copy (some destination) root (names.map (plan.folder root).child)) start =
              (.ok (plan.transferReport .copy root destination (home ++ rest) (home ++ rest')
                names), after) ∧
          start.Overlaid (home ++ rest) (home ++ rest')
            (namesAside (home ++ rest) (home ++ rest') names) after) ∨
      (∃ name ∈ Transfer.kept folder (plan.folder root) names,
          ¬ start.Mergeable (plan.folder root) folder (home ++ rest) (home ++ rest') name) ∧
        ∃ error after, (Transfer.into folder Transfer.copyEntry).all root
          (names.map (plan.folder root).child)
          (.start .copy (some destination) root (names.map (plan.folder root).child)) start =
            (.error error, after) := by
  refine (Transfer.copy_cases prepared apart selects.areNames selects.distinct
    fun name listed => selects.present_prepared prepared listed).imp_left ?_
  rintro ⟨able, after, done, overlaid⟩
  obtain ⟨held_, kept_⟩ := Transfer.held_eq prepared selects.areNames fun name listed =>
    (able name listed).clears.leaves
  rw [transferReport_eq plan held_ kept_] at done
  exact ⟨able, after, done, kept_ ▸ overlaid⟩

end Plan

namespace Statement

/-- A statement that copies and is completed has laid copies of its matches, each with all that is
    below it, over what had their names in the destination, unless they are at or above the
    destination: those are skipped. The copies are of the same bytes and can be executed if what
    they are copies of can be. Nothing else has changed but that the destination and missing folders
    that it is in were made, if there was any match. In whatever other order the folders of the tree
    list their entries, the same is left and the same is reported but for the order.

    The tree has no links, and the destination is neither the folder of the matches nor above it. -/
theorem copy_merges (accepted : Plan.ofStatement (.copy selection destination) = .ok plan)
    (plain : tree.Plain)
    (apart : ¬ tree.lexical (root.join ⟨destination⟩) <+: tree.lexical (plan.folder root))
    (done : (Statement.copy selection destination).run root converter tree =
      (.completed report, after)) :
    ∃ source goal names, tree.lexical (plan.folder root) = source ∧
      tree.lexical (root.join ⟨destination⟩) = goal ∧ plan.Selects root tree source names ∧
      (names = [] → after = tree) ∧
      (names ≠ [] → tree.Merged source goal (namesAside source goal names) after) ∧
      report = plan.transferReport .copy root destination source goal names ∧
      ∀ other, other.Named → tree.Alike other → ∃ report' after',
        (Statement.copy selection destination).run root converter other =
          (.completed report', after') ∧
        after.Alike after' ∧ report.Alike report' := by
  have copies := action_of_copy accepted
  have aims : plan.action.destination? = some destination := by
    rw [copies]
    rfl
  obtain ⟨home, rest, rest', names, opens, source_, goal_, selects,
    ⟨rfl, rfl, rfl⟩ | ⟨nonempty, start, makes, prepared, all⟩⟩ :=
    Plan.exists_of_transfer accepted (Plan.perform_of_copy copies) aims plain done
  · refine ⟨_, _, [], source_, goal_, selects, fun _ => rfl, fun some => absurd rfl some, rfl,
      fun other named alike => ?_⟩
    obtain ⟨names', selects', same⟩ := selects.alike plain.named named alike
    obtain rfl := same.eq_nil
    exact ⟨_, other, Plan.run_transfer_nil accepted (Plan.perform_of_copy copies) selects'.finds,
      alike, plan.transferReport_alike _ _ _ _ _ (.refl [])⟩
  rw [source_, goal_] at apart
  obtain ⟨able, after', all', overlaid⟩ :=
    (Plan.copy_prepared destination selects prepared apart).resolve_right
      fun ⟨_, error, after', fails⟩ => by cases all.symm.trans fails
  obtain ⟨same, rfl⟩ := Prod.mk.inj (all.symm.trans all')
  obtain rfl := Except.ok.inj same
  have merged := FileTree.Merged.of_overlaid prepared.furnished overlaid prepared.goal.2
    fun name listed => by simpa using (List.mem_filter.mp listed).2
  refine ⟨_, _, names, source_, goal_, selects, fun none => absurd none nonempty, fun _ => merged,
    rfl, fun other named alike => ?_⟩
  obtain ⟨names', start', selects', same, makes', alike', prepared'⟩ :=
    Plan.exists_transfer_alike accepted aims plain opens selects goal_ makes named alike
  rcases Plan.copy_prepared destination selects' prepared' apart with
    ⟨-, after', all', overlaid'⟩ | ⟨⟨name, member, unable⟩, -⟩
  · have nonempty' : names' ≠ [] := fun empty => nonempty (empty ▸ same).nil_eq.symm
    exact ⟨_, after', Plan.run_transfer accepted (Plan.perform_of_copy copies) selects'.finds
      nonempty' makes' all', overlaid.alike overlaid' alike' (same.filter _),
      plan.transferReport_alike _ _ _ _ _ same⟩
  · exact absurd (alike'.mergeable (able name ((same.filter _).subset member))) unable

/-- A file in a folder is copied to another folder, which is made for it. -/
theorem copy_merges_oneFile :
    Plan.ofStatement (.copy ⟨"files", "a", none⟩ "b") = .ok (.ofOneFile (.copy "b")) ∧
    (FileTree.oneFile [104, 105]).Plain ∧
    ¬ (FileTree.oneFile [104, 105]).lexical (Path.join ⟨"/"⟩ ⟨"b"⟩) <+:
      (FileTree.oneFile [104, 105]).lexical ((Plan.ofOneFile (.copy "b")).folder ⟨"/"⟩) ∧
    ∃ report after, (Statement.copy ⟨"files", "a", none⟩ "b").run ⟨"/"⟩ .none
        (.oneFile [104, 105]) = (.completed report, after) ∧
      report.processed = 1 ∧ report.skipped = [] ∧
      after.substance? ["b", "x"] = some (.file [104, 105]) ∧
      after.substance? ["a", "x"] = some (.file [104, 105]) := by
  have accepted : Plan.ofStatement (.copy ⟨"files", "a", none⟩ "b") =
      .ok (.ofOneFile (.copy "b")) := rfl
  have plain := FileTree.plain_oneFile [104, 105]
  have apart : ¬ (FileTree.oneFile [104, 105]).lexical (Path.join ⟨"/"⟩ ⟨"b"⟩) <+:
      (FileTree.oneFile [104, 105]).lexical ((Plan.ofOneFile (.copy "b")).folder ⟨"/"⟩) := by decide
  have selects := Plan.selects_oneFile [104, 105] (.copy "b")
  have makes := FileTree.makeFolders_beside [104, 105]
  obtain ⟨home, rest, rest', prepared, -, at_source, at_goal⟩ :=
    Plan.exists_prepared accepted rfl plain selects.opens makes
  replace at_goal : home ++ rest' = ["b"] := at_goal.symm
  have able : ((FileTree.oneFile [104, 105]).insert ["b"] (.emptyFolder .epoch)).Mergeable
      ⟨"/a"⟩ ⟨"/b"⟩ ["a"] ["b"] "x" := by
    have origin : ((FileTree.oneFile [104, 105]).insert ["b"] (.emptyFolder .epoch)).substance?
        (["a"] ++ ["x"]) = some (.file [104, 105]) := rfl
    have free : ((FileTree.oneFile [104, 105]).insert ["b"] (.emptyFolder .epoch)).substance?
        (["b"] ++ ["x"]) = none := rfl
    have leaves : namingFault (Path.child ⟨"/a"⟩ "x") "x" = none := rfl
    have arrives : namingFault (Path.child ⟨"/b"⟩ "x") "x" = none := rfl
    refine ⟨⟨by decide, by decide, by decide⟩, (FileTree.copyable_file_iff origin).mpr
      ⟨Path.followable_singleton.mpr leaves, Path.followable_singleton.mpr arrives, ?_⟩, ?_⟩
    · rw [free]
      nofun
    · rw [origin]
      nofun
  have all : ∀ name ∈ Transfer.kept ⟨"/b"⟩ ⟨"/a"⟩ ["x"],
      ((FileTree.oneFile [104, 105]).insert ["b"] (.emptyFolder .epoch)).Mergeable
        ⟨"/a"⟩ ⟨"/b"⟩ (home ++ rest) (home ++ rest') name := by
    have kept_ : Transfer.kept ⟨"/b"⟩ ⟨"/a"⟩ ["x"] = ["x"] := by decide
    rw [kept_, ← at_source, at_goal]
    exact List.forall_mem_singleton.mpr able
  obtain ⟨-, after, all', -⟩ :=
    (Plan.copy_prepared "b" (at_source ▸ selects) prepared (by rw [at_goal, ← at_source]; decide)
      ).resolve_right fun ⟨⟨name, listed, unable⟩, _⟩ => unable (all name listed)
  rw [← at_source, at_goal] at all'
  have done : (Statement.copy ⟨"files", "a", none⟩ "b").run ⟨"/"⟩ .none (.oneFile [104, 105]) =
      (.completed _, after) :=
    Plan.run_transfer accepted (Plan.perform_of_copy rfl) selects.finds (by simp) makes all'
  obtain ⟨source, goal, names, source_, goal_, selects', -, merged, -⟩ :=
    copy_merges accepted plain apart done
  obtain ⟨rfl, rfl⟩ := selects.unique selects'
  obtain rfl : ["b"] = goal := goal_
  have merged := merged (by simp)
  refine ⟨accepted, plain, apart, _, after, done, rfl, rfl, ?_, ?_⟩
  · exact merged.copied "x" (by decide) []
  · exact FileTree.substance?_congr
      (merged.elsewhere ["a", "x"] (by decide) (List.forall_mem_singleton.mpr (by decide)))

end Statement

end FileQuery
