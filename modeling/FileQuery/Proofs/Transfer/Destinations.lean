import FileQuery.Proofs.Execution.Removal
import FileQuery.Proofs.Execution.Untouched
import FileQuery.Proofs.FileTree.NewFolders
import FileQuery.Proofs.Transfer.Protection

/-!
# Putting matches into a folder

Matches are put into the destination one after another. Those that hold the destination are skipped,
for the components of their paths alone. If it is settled beforehand which of the others can be put
there, whatever of them was put there before, then either all of them are put there, or the run ends
with an error.
-/

namespace FileQuery

section

open FileTree (speaks steps)

variable {tree start later after : FileTree} {root base folder path : Path}
  {home place : Place} {left : Nat} {rest rest' : List String} {name : String}
  {names gone : List String} {report final : Report} {destination : String}

/-- A path that starts with another one by its components takes its steps first. -/
theorem Path.steps_prefix_of_startsWith (starts : path.startsWith base = true) :
    steps base <+: steps path := by
  have components_ : base.components <+: path.components := List.isPrefixOf_iff_prefix.mp starts
  have steps_ (path : Path) : path.components.filter (fun part => part ≠ .root ∧ part ≠ .here) =
      (steps path).map .ofStep := by
    have stays : ((steps path).map Component.ofStep).filter
        (fun part => part ≠ .root ∧ part ≠ .here) = (steps path).map .ofStep := by
      refine List.filter_eq_self.mpr fun part listed => ?_
      obtain ⟨name, -, rfl⟩ := List.mem_map.mp listed
      simpa using Component.ofStep_ne_start name
    rw [components_eq, List.filter_append, List.filter_append, stays]
    cases path.isAbsolute <;> cases path.startsHere <;> rfl
  have filtered := components_.filter fun part => part ≠ .root ∧ part ≠ .here
  rw [steps_, steps_] at filtered
  exact (List.prefix_map_iff_of_injective Component.ofStep_injective).mp filtered

/-- In a tree without links, an entry is at or above the destination if the path of the destination
    starts with its path. -/
theorem Path.Within.prefix_of_startsWith (within : root.Within base rest)
    (within' : root.Within folder rest') (isName : IsName name)
    (starts : folder.startsWith (base.child name) = true) : rest ++ [name] <+: rest' := by
  have taken := steps_prefix_of_startsWith starts
  rw [(within.child isName).steps, within'.steps] at taken
  exact (List.prefix_append_right_inj _).mp taken

/-! ## The report -/

/-- The names of the matches that are put into the destination, because they do not hold it. -/
def Transfer.kept (folder base : Path) (names : List String) : List String :=
  names.filter fun name => !folder.startsWith (base.child name)

/-- The names of the matches that are skipped, because they hold the destination. -/
def Transfer.held (folder base : Path) (names : List String) : List String :=
  names.filter fun name => folder.startsWith (base.child name)

/-- A report on matches that were put into the destination, unless they hold it. -/
def Report.putting (report : Report) (root folder base : Path) (names : List String) : Report :=
  { report with
    processed := report.processed + (Transfer.kept folder base names).length
    skipped := report.skipped ++
      (Transfer.held folder base names).map fun name => (base.child name).relativeTo root }

theorem Report.putting_nil (report : Report) (root folder base : Path) :
    report.putting root folder base [] = report := by
  simp [putting, Transfer.kept, Transfer.held]

theorem Report.putting_skip (report : Report)
    (holds : folder.startsWith (base.child name) = true) :
    (report.skip root (base.child name)).putting root folder base names =
      report.putting root folder base (name :: names) := by
  simp [putting, skip, Transfer.kept, Transfer.held, holds]

theorem Report.putting_succeed (report : Report)
    (apart : folder.startsWith (base.child name) = false) :
    report.succeed.putting root folder base names =
      report.putting root folder base (name :: names) := by
  simp [putting, succeed, Transfer.kept, Transfer.held, apart, Nat.add_assoc, Nat.add_comm 1]

/-! ## The folders -/

/-- A tree in which the destination was made, with the folder of the matches and the destination
    both below the folder to which the root leads. -/
structure Prepared (tree start : FileTree) (root base folder : Path) (home : Place)
    (rest rest' : List String) : Prop where
  within : root.Within base rest
  within' : root.Within folder rest'
  furnished : tree.Furnished (home ++ rest') start
  source : start.Opens base (home ++ rest)
  goal : start.Opens folder (home ++ rest')

/-- After the destination of a plan was made, its path leads there, and the path of the folder of
    the matches where it led before. -/
theorem Plan.exists_prepared {plan : Plan} {statement : Statement}
    (accepted : Plan.ofStatement statement = .ok plan)
    (goal : plan.action.destination? = some destination) (plain : tree.Plain)
    (opens : tree.Opens (plan.folder root) place)
    (makes : FileTree.makeFolders (root.join ⟨destination⟩) tree = (.ok (), start)) :
    ∃ home rest rest', Prepared tree start root (plan.folder root) (root.join ⟨destination⟩) home
      rest rest' ∧ tree.Opens root home ∧ place = home ++ rest ∧
        tree.lexical (root.join ⟨destination⟩) = home ++ rest' := by
  obtain ⟨rest, within⟩ := Plan.within_folder accepted root
  have within' := Plan.within_destination accepted goal root
  obtain ⟨home, opensRoot⟩ := within.opens opens
  obtain ⟨⟨left, reaches⟩, isFolder⟩ := opensRoot
  have furnished := FileTree.furnished_makeFolders reaches isFolder plain within'
  have opensGoal := FileTree.opens_of_makeFolders reaches isFolder plain within' makes
  rw [makes] at furnished
  obtain ⟨⟨left', led⟩, stamps, entries, at_source⟩ := opens
  have same : place = home ++ rest := by
    rw [led.eq_lexical plain, FileTree.lexical_within tree within, ← reaches.eq_lexical plain]
  refine ⟨home, rest, _, ⟨within, within', furnished, ?_, opensGoal⟩, ⟨⟨left, reaches⟩, isFolder⟩,
    same, ?_⟩
  · rw [← same]
    exact ⟨⟨left', led.keeps furnished.keeps⟩, furnished.keeps.folders _ _ _ at_source⟩
  · rw [FileTree.lexical_within tree within', ← reaches.eq_lexical plain]

/-! ## One match after another -/

namespace Transfer

variable {put : Path → Path → Changes ExecutionError Unit} {operation : Operation}

/-- A match is skipped if it holds the destination, or else put there. -/
theorem into_child (folder base : Path) (isName : IsName name)
    (put : Path → Path → Changes ExecutionError Unit) :
    into folder put (base.child name) =
      if folder.startsWith (base.child name) then none
      else some (put (base.child name) (folder.child name)) := by
  unfold into
  rw [Path.fileName?_child base isName]

/-- What can become of putting an entry into the destination: that it is put there, which leads to a
    next stage, if it is able to, and else an error that is not that of a vanished entry. -/
def Settles (put : Path → Path → Changes ExecutionError Unit) (able : Prop)
    (stage : FileTree → Prop) (base folder : Path) (name : String) (later : FileTree) : Prop :=
  able ∧ (∃ changed, put (base.child name) (folder.child name) later = (.ok (), changed) ∧
      stage changed) ∨
    ¬ able ∧ ∃ error changed, put (base.child name) (folder.child name) later =
      (.error error, changed) ∧ error.isNotFound = false

/-- All matches that do not hold the destination are put there if all of them are able to, and else
    the run ends with an error. The stages of the run are told by the names put there before. -/
theorem all_into_cases {stage : List String → FileTree → Prop} {able : String → Prop}
    (areNames : ∀ name ∈ names, IsName name) (distinct : (gone ++ names).Nodup)
    (settles : ∀ gone name later, name ∈ names → name ∉ gone →
      folder.startsWith (base.child name) = false → stage gone later →
        Settles put (able name) (stage (gone ++ [name])) base folder name later)
    (staged : stage gone later) :
    (∀ name ∈ kept folder base names, able name) ∧
        (∃ after, (into folder put).all root (names.map base.child) report later =
          (.ok (report.putting root folder base names), after) ∧
            stage (gone ++ kept folder base names) after) ∨
      (∃ name ∈ kept folder base names, ¬ able name) ∧
        ∃ error after, (into folder put).all root (names.map base.child) report later =
          (.error error, after) := by
  induction names generalizing gone report later with
  | nil =>
    refine .inl ⟨by simp [kept], later, ?_, by simpa [kept] using staged⟩
    rw [Report.putting_nil]
    rfl
  | cons name others inductionHypothesis =>
    obtain ⟨isName, areNames'⟩ := List.forall_mem_cons.mp areNames
    have fresh : name ∉ gone := fun member =>
      (List.nodup_append.mp distinct).2.2 name member name List.mem_cons_self rfl
    have settles' (gone : List String) (next : String) (later : FileTree)
        (member : next ∈ others) := settles gone next later (List.mem_cons_of_mem _ member)
    rw [List.map_cons, Treatment.all, into_child folder base isName]
    cases holds : folder.startsWith (base.child name) with
    | true =>
      have kept_ : kept folder base (name :: others) = kept folder base others := by
        simp [kept, holds]
      have distinct' : (gone ++ others).Nodup :=
        distinct.sublist ((List.sublist_cons_self name others).append_left gone)
      rw [if_pos rfl, kept_, ← Report.putting_skip report holds]
      exact inductionHypothesis areNames' distinct' settles' staged
    | false =>
      have kept_ : kept folder base (name :: others) = name :: kept folder base others := by
        simp [kept, holds]
      have distinct' : ((gone ++ [name]) ++ others).Nodup := by simpa using distinct
      rw [if_neg (by decide), kept_, ← Report.putting_succeed report holds]
      rcases settles gone name later List.mem_cons_self fresh holds staged with
        ⟨able, changed, puts, staged'⟩ | ⟨unable, error, changed, puts, lasting⟩
      · dsimp only
        rw [puts]
        have after := @inductionHypothesis changed (gone ++ [name]) report.succeed areNames'
          distinct' settles' staged'
        rw [List.append_assoc, List.singleton_append] at after
        rcases after with ⟨ables, done⟩ | ⟨⟨next, member, unable⟩, failed⟩
        · exact .inl ⟨List.forall_mem_cons.mpr ⟨able, ables⟩, done⟩
        · exact .inr ⟨⟨next, List.mem_cons_of_mem _ member, unable⟩, failed⟩
      · refine .inr ⟨⟨name, List.mem_cons_self, unable⟩, error, changed, ?_⟩
        dsimp only
        rw [puts]
        simp [Report.record, lasting]

/-- Putting matches into the destination makes the destination first, if there are any. -/
theorem run_eq (operation : Operation) (put : Path → Path → Changes ExecutionError Unit)
    (root : Path) (destination : String) {found : List Path} (nonempty : found ≠ [])
    (tree : FileTree) :
    run operation put root destination found tree =
      match FileTree.makeFolders (root.join ⟨destination⟩) tree with
      | (.error error, changed) => (.error (.file (root.join ⟨destination⟩) error), changed)
      | (.ok (), start) => (into (root.join ⟨destination⟩) put).all root found
          (.start operation (some destination) root found) start := by
  unfold run
  dsimp only
  rw [if_neg (by simpa using nonempty), Changes.bind_apply, Changes.at, Changes.mapError]
  rcases FileTree.makeFolders (root.join ⟨destination⟩) tree with ⟨error | _, changed⟩ <;> rfl

end Transfer

/-! ### A tree with one file -/

/-- The path of the root of the file system leads there. -/
theorem FileTree.reaches_top (tree : FileTree) : tree.Reaches ⟨"/"⟩ linkLimit [] := by
  have names_ : names "/" = ["", ""] := by decide
  rw [Reaches, names_]
  exact .silent rfl (.silent rfl .nil)

/-- The match is the file in the folder. -/
theorem Plan.selects_oneFile (bytes : List UInt8) (action : Action) :
    (Plan.ofOneFile action).Selects ⟨"/"⟩ (.oneFile bytes) ["a"] ["x"] := by
  have plain := FileTree.plain_oneFile bytes
  have finds := FileTree.findMatches_oneFile bytes action
  obtain ⟨place, names, selects, same⟩ := exists_selects plain.named finds
  obtain ⟨left, reaches⟩ := selects.opens.1
  obtain rfl : place = ["a"] := by
    rw [reaches.eq_lexical plain, folder_ofOneFile]
    rfl
  obtain ⟨name, rfl⟩ : ∃ name, names = [name] :=
    List.length_eq_one_iff.mp (by simpa using (congrArg List.length same).symm)
  have isName := selects.areNames name List.mem_cons_self
  have named := congrArg Path.fileName? (List.singleton_inj.mp same)
  rw [Path.fileName?_child _ isName] at named
  obtain rfl : "x" = name := Option.some.inj named
  exact selects

/-- A folder beside the one with the file is made at the end of the root. -/
theorem FileTree.makeFolders_beside (bytes : List UInt8) :
    makeFolders ⟨"/b"⟩ (oneFile bytes) =
      (.ok (), (oneFile bytes).insert ["b"] (.emptyFolder .epoch)) := by
  have leads : (oneFile bytes).resolve .keep ⟨"/b"⟩ = .ok ⟨["b"], none, false⟩ := by
    simp [oneFile, resolve, checkPath, pathLimit, names, Path.segments, descend, start,
      Path.isAbsolute, get?, Node.get?, List.lookup_cons, nameLimit, Text.byteLength, Char.utf8Size]
  have made : (oneFile bytes).makeFolder ⟨"/b"⟩ =
      .ok ((oneFile bytes).insert ["b"] (.emptyFolder .epoch)) := by
    rw [makeFolder, leads]
    rfl
  rw [makeFolders, makeMissing]
  dsimp only
  rw [if_neg (by decide), made]

end

/-!
## Statements that put their matches into a folder

A statement that puts its matches into a folder makes the folder, if there is anything to put there,
and then puts one match there after another. In trees that differ only in the order of entries the
same names match, and the folders that are made are the same.
-/

section

variable {tree start after other : FileTree} {base folder root : Path}
  {home source goal place : Place} {rest rest' : List String} {name destination : String}
  {names names' : List String} {report : Report} {plan : Plan} {converter : Converter}
  {statement : Statement} {operation : Operation}
  {put : Path → Path → Changes ExecutionError Unit}

/-- The names of the entries of one folder that are at another one or above it. -/
def namesAbove (source goal : Place) (names : List String) : List String :=
  names.filter fun name => source ++ [name] <+: goal

/-- The names of the other entries. -/
def namesAside (source goal : Place) (names : List String) : List String :=
  names.filter fun name => ¬ source ++ [name] <+: goal

/-- The matches that hold the destination by their components are those at or above it, if none of
    the others is. -/
theorem Transfer.held_eq (prepared : Prepared tree start root base folder home rest rest')
    (areNames : ∀ name ∈ names, IsName name)
    (aside : ∀ name ∈ kept folder base names, ¬ home ++ rest ++ [name] <+: home ++ rest') :
    held folder base names = namesAbove (home ++ rest) (home ++ rest') names ∧
      kept folder base names = namesAside (home ++ rest) (home ++ rest') names := by
  have agree (name : String) (listed : name ∈ names) :
      folder.startsWith (base.child name) = true ↔ home ++ rest ++ [name] <+: home ++ rest' := by
    constructor
    · intro holds
      rw [List.append_assoc]
      exact (List.prefix_append_right_inj home).mpr
        (prepared.within.prefix_of_startsWith prepared.within' (areNames name listed) holds)
    · intro above
      by_contra notHeld
      exact aside name (List.mem_filter.mpr ⟨listed, by simpa using notHeld⟩) above
  constructor
  · refine List.filter_congr fun name listed => ?_
    rw [Bool.eq_iff_iff, decide_eq_true_iff]
    exact agree name listed
  · refine List.filter_congr fun name listed => ?_
    rw [Bool.eq_iff_iff, decide_eq_true_iff, ← agree name listed]
    simp

namespace Plan

/-- A report on matches that were put into the destination, or skipped because they are at or above
    it. -/
def transferReport (plan : Plan) (operation : Operation) (root : Path) (destination : String)
    (source goal : Place) (names : List String) : Report :=
  { Report.start operation (some destination) root (names.map (plan.folder root).child) with
    processed := (namesAside source goal names).length
    skipped := (namesAbove source goal names).map fun name =>
      ((plan.folder root).child name).relativeTo root }

/-- The report tells of the matches in their order. -/
theorem transferReport_alike (plan : Plan) (operation : Operation) (root : Path)
    (destination : String) (source goal : Place) (same : names'.Perm names) :
    (plan.transferReport operation root destination source goal names).Alike
      (plan.transferReport operation root destination source goal names') where
  paths := (same.map _).map _
  skipped := (same.filter _).map _
  rest := by
    simp [transferReport, Report.start, same.length_eq, (same.filter _).length_eq, namesAside]

/-- The run reports on the matches that hold the destination by their components. -/
theorem transferReport_eq (plan : Plan)
    (held_eq : Transfer.held folder (plan.folder root) names = namesAbove source goal names)
    (kept_eq : Transfer.kept folder (plan.folder root) names = namesAside source goal names) :
    (Report.start operation (some destination) root
        (names.map (plan.folder root).child)).putting root folder (plan.folder root) names =
      plan.transferReport operation root destination source goal names := by
  rw [Report.putting, held_eq, kept_eq]
  simp [Report.start, transferReport]

section

variable (accepted : Plan.ofStatement statement = .ok plan)
  (performs : ∀ found, plan.perform root converter found =
    Transfer.run operation put root destination found)

include accepted performs

/-- A statement that puts matches into a folder is completed as soon as they were put there. -/
theorem run_transfer (finds : plan.findMatches tree root = .ok (names.map (plan.folder root).child))
    (nonempty : names ≠ [])
    (makes : FileTree.makeFolders (root.join ⟨destination⟩) tree = (.ok (), start))
    (done : (Transfer.into (root.join ⟨destination⟩) put).all root
      (names.map (plan.folder root).child)
      (.start operation (some destination) root (names.map (plan.folder root).child)) start =
        (.ok report, after)) :
    statement.run root converter tree = (.completed report, after) := by
  refine run_of_findMatches accepted finds ?_
  rw [performs, Transfer.run_eq _ _ _ _ (by simpa using nonempty), makes]
  exact done

/-- A statement that puts matches into a folder does nothing if there are none. -/
theorem run_transfer_nil (finds : plan.findMatches tree root = .ok []) :
    statement.run root converter tree =
      (.completed (plan.transferReport operation root destination source goal []), tree) := by
  refine run_of_findMatches accepted finds ?_
  rw [performs]
  rfl

variable (aims : plan.action.destination? = some destination) (plain : tree.Plain)

include aims plain

/-- What happened when a statement that puts its matches into a folder was completed. -/
theorem exists_of_transfer
    (done : statement.run root converter tree = (.completed report, after)) :
    ∃ home rest rest' names, tree.Opens root home ∧
      tree.lexical (plan.folder root) = home ++ rest ∧
      tree.lexical (root.join ⟨destination⟩) = home ++ rest' ∧
      plan.Selects root tree (home ++ rest) names ∧
      (names = [] ∧ after = tree ∧ report =
          plan.transferReport operation root destination (home ++ rest) (home ++ rest') [] ∨
        names ≠ [] ∧ ∃ start,
          FileTree.makeFolders (root.join ⟨destination⟩) tree = (.ok (), start) ∧
          Prepared tree start root (plan.folder root) (root.join ⟨destination⟩) home rest rest' ∧
          (Transfer.into (root.join ⟨destination⟩) put).all root
            (names.map (plan.folder root).child)
            (.start operation (some destination) root (names.map (plan.folder root).child)) start =
              (.ok report, after)) := by
  obtain ⟨plan', found, accepted', finds, performed⟩ := Statement.exists_of_completed done
  obtain rfl := Except.ok.inj (accepted.symm.trans accepted')
  obtain ⟨place, names, selects, rfl⟩ := exists_selects plain.named finds
  obtain ⟨left, reaches⟩ := selects.opens.1
  have source_ := (reaches.eq_lexical plain).symm
  rw [performs] at performed
  by_cases empty : names = []
  · subst empty
    obtain ⟨rest, within⟩ := within_folder accepted root
    obtain ⟨home, opens⟩ := within.opens selects.opens
    obtain ⟨left, led⟩ := opens.1
    have home_ := (led.eq_lexical plain).symm
    have within' := within_destination accepted aims root
    have at_source : place = home ++ rest := by
      rw [← source_, FileTree.lexical_within tree within, home_]
    refine ⟨home, rest, FileTree.steps ⟨destination⟩, [], opens, source_.trans at_source, ?_,
      at_source ▸ selects, .inl ?_⟩
    · rw [FileTree.lexical_within tree within', home_]
    · obtain ⟨same, rfl⟩ := Prod.mk.inj performed
      exact ⟨rfl, rfl, (Except.ok.inj same).symm⟩
  · rw [Transfer.run_eq _ _ _ _ (by simpa using empty)] at performed
    rcases makes : FileTree.makeFolders (root.join ⟨destination⟩) tree with ⟨error | _, start⟩
    · rw [makes] at performed
      cases performed
    · rw [makes] at performed
      obtain ⟨home, rest, rest', prepared, opens, rfl, goal_⟩ :=
        exists_prepared accepted aims plain selects.opens makes
      exact ⟨home, rest, rest', names, opens, source_, goal_, selects,
        .inr ⟨empty, start, rfl, prepared, performed⟩⟩

end

/-- In a tree that lists its entries in another order the same matches are put into a folder that is
    the same. -/
theorem exists_transfer_alike (accepted : Plan.ofStatement statement = .ok plan)
    (aims : plan.action.destination? = some destination) (plain : tree.Plain)
    (opens : tree.Opens root home) (selects : plan.Selects root tree (home ++ rest) names)
    (goal_ : tree.lexical (root.join ⟨destination⟩) = home ++ rest')
    (makes : FileTree.makeFolders (root.join ⟨destination⟩) tree = (.ok (), start))
    (named : other.Named) (alike : tree.Alike other) :
    ∃ names' start', plan.Selects root other (home ++ rest) names' ∧ names'.Perm names ∧
      FileTree.makeFolders (root.join ⟨destination⟩) other = (.ok (), start') ∧
      start.Alike start' ∧
      Prepared other start' root (plan.folder root) (root.join ⟨destination⟩) home rest rest' := by
  obtain ⟨names', selects', same⟩ := selects.alike plain.named named alike
  obtain ⟨result, alike'⟩ :=
    alike.makeMissing (root.join ⟨destination⟩ :: (root.join ⟨destination⟩).parents)
  rcases makes' : FileTree.makeFolders (root.join ⟨destination⟩) other with ⟨result', start'⟩
  rw [FileTree.makeFolders] at makes makes'
  rw [makes, makes'] at result alike'
  obtain rfl : result' = .ok () := result
  obtain ⟨home', front, front', prepared, opens', at_source, at_goal⟩ :=
    exists_prepared accepted aims (alike.plain plain named) selects'.opens makes'
  obtain rfl : home = home' := opens'.unique (alike.opens opens)
  obtain rfl := List.append_cancel_left at_source
  have lexical_ :
      other.lexical (root.join ⟨destination⟩) = tree.lexical (root.join ⟨destination⟩) := by
    rw [FileTree.lexical, FileTree.lexical, alike.working]
  obtain rfl := List.append_cancel_left (at_goal.symm.trans (lexical_.trans goal_))
  exact ⟨names', start', selects', same, rfl, alike', prepared⟩

/-- The matches are still there after the destination was made. -/
theorem Selects.present_prepared (selects : plan.Selects root tree (home ++ rest) names)
    (prepared : Prepared tree start root base folder home rest rest') (listed : name ∈ names) :
    ∃ node, start.get? (home ++ rest ++ [name]) = some node := by
  obtain ⟨node, found, -⟩ := selects.present name listed
  obtain ⟨node', found', -⟩ := prepared.furnished.keeps.exists_of_get? found
  exact ⟨node', found'⟩

end Plan

end

end FileQuery
