import FileQuery.Proofs.Confinement.Runs
import FileQuery.Proofs.Execution.Comprehension
import FileQuery.Proofs.Plan.Acceptance

/-!
# Nothing is touched before the matches are known

A statement finds all its matches before it changes anything. If its source is no folder, or its
condition has an error for an entry, it fails and leaves the tree as it was. Where there is nothing
to do, because nothing matches or each match is skipped for its path alone, it leaves the tree as it
was too: neither the folder nor the archive that it would write to is made.
-/

namespace FileQuery

namespace Report

/-- The report of matches of which all were skipped. -/
def passing (operation : Operation) (destination : Option String) (root : Path)
    (found : List Path) : Report :=
  { start operation destination root found with skipped := found.map (·.relativeTo root) }

theorem foldl_skip (root : Path) (found : List Path) (report : Report) :
    found.foldl (fun report path => report.skip root path) report =
      { report with skipped := report.skipped ++ found.map (·.relativeTo root) } := by
  induction found generalizing report with
  | nil => simp
  | cons path rest inductionHypothesis =>
    rw [List.foldl_cons, inductionHypothesis]
    simp [skip]

/-- Matches that are skipped one after another have all been skipped in the end. -/
theorem foldl_skip_start (operation : Operation) (destination : Option String) (root : Path)
    (found : List Path) :
    found.foldl (fun report path => report.skip root path)
      (start operation destination root found) = passing operation destination root found := by
  rw [foldl_skip]
  rfl

end Report

variable {root : Path} {converter : Converter} {tree : FileTree} {found rest : List Path}
  {report : Report}

/-! ## Actions that skip every match -/

/-- Treatment that skips every match changes nothing. -/
theorem Treatment.all_of_skipped {treat : Treatment} (skipped : ∀ path ∈ rest, treat path = none) :
    treat.all root rest report tree =
      (.ok (rest.foldl (fun report path => report.skip root path) report), tree) := by
  induction rest generalizing report with
  | nil => rfl
  | cons path rest inductionHypothesis =>
    obtain ⟨first, others⟩ := List.forall_mem_cons.mp skipped
    rw [all, first, List.foldl_cons]
    exact inductionHypothesis others

/-- Conversion of matches that have the format already changes nothing. -/
theorem Conversion.convertAll_of_skipped {format : MediaFormat}
    (skipped : ∀ path ∈ rest, isFormat format path = true) :
    convertAll converter format root rest report tree =
      (rest.foldl (fun report path => report.skip root path) report, tree) := by
  induction rest generalizing report with
  | nil => rfl
  | cons path rest inductionHypothesis =>
    obtain ⟨first, others⟩ := List.forall_mem_cons.mp skipped
    rw [convertAll]
    dsimp only
    rw [if_pos first, List.foldl_cons]
    exact inductionHypothesis others

/-- Where the only match is the archive, no archive is written. -/
theorem Packing.archive_of_skipped {destination : String}
    (skipped : ∀ path ∈ found, path.same (root.join ⟨destination⟩) = true) :
    archive root destination found tree =
      (.ok (.passing .archive (some destination) root found), tree) := by
  have packed : found.filter (!·.same (root.join ⟨destination⟩)) = [] :=
    List.filter_eq_nil_iff.mpr fun path member => by simp [skipped path member]
  unfold archive
  dsimp only
  rw [packed, List.filter_eq_self.mpr skipped, Report.foldl_skip_start]
  rfl

/-- Where no match is an archive, no folder is made. -/
theorem Packing.unarchive_of_skipped {destination : String}
    (skipped : ∀ path ∈ found, isArchive path = false) :
    unarchive root destination found tree =
      (.ok (.passing .unarchive (some destination) root found), tree) := by
  have archives : found.any isArchive = false :=
    List.any_eq_false.mpr fun path member => by simp [skipped path member]
  have passed (path : Path) (member : path ∈ found) :
      into (root.join ⟨destination⟩) path = none := by
    rw [into, skipped path member]
    rfl
  unfold unarchive
  dsimp only
  rw [archives]
  refine (Treatment.all_of_skipped passed).trans ?_
  rw [Report.foldl_skip_start]

namespace Plan

/-- Whether a match is skipped for its path alone: it is the archive to be written, it is to be
    unpacked and no archive, or it has the format that it is to be converted to. -/
def skips (plan : Plan) (root path : Path) : Bool :=
  match plan.action with
  | .archive destination => path.same (root.join ⟨destination⟩)
  | .unarchive _ => !Packing.isArchive path
  | .convert format => Conversion.isFormat format path
  | .select | .delete | .move _ | .copy _ => false

variable {plan : Plan} {stamps : Stamps} {entries : List (String × Node)} {error : ExecutionError}

/-- An action for matches of which all are skipped changes nothing. -/
theorem perform_of_skipped (skipped : ∀ path ∈ found, plan.skips root path = true) :
    ∃ destination, plan.perform root converter found tree =
      (.ok (.passing plan.action.operation destination root found), tree) := by
  have nothing (never : ∀ path, plan.skips root path = false) : found = [] :=
    List.eq_nil_iff_forall_not_mem.mpr fun path member => by
      simpa [never path] using skipped path member
  unfold skips at skipped nothing
  unfold perform
  cases action : plan.action with
  | select =>
    rw [action] at nothing
    obtain rfl := nothing fun _ => rfl
    exact ⟨none, rfl⟩
  | delete =>
    rw [action] at nothing
    obtain rfl := nothing fun _ => rfl
    exact ⟨none, rfl⟩
  | move destination =>
    rw [action] at nothing
    obtain rfl := nothing fun _ => rfl
    exact ⟨some destination, rfl⟩
  | copy destination =>
    rw [action] at nothing
    obtain rfl := nothing fun _ => rfl
    exact ⟨some destination, rfl⟩
  | archive destination =>
    rw [action] at skipped
    exact ⟨some destination, Packing.archive_of_skipped skipped⟩
  | unarchive destination =>
    rw [action] at skipped
    refine ⟨some destination, Packing.unarchive_of_skipped fun path member => ?_⟩
    simpa using skipped path member
  | convert format =>
    rw [action] at skipped
    refine ⟨some format.extension, ?_⟩
    dsimp only [Changes.ofState, Conversion.convert]
    rw [Conversion.convertAll_of_skipped skipped, Report.foldl_skip_start]
    rfl

/-! ## Statements -/

/-- What becomes of a statement whose matches are not found. -/
theorem run_of_findMatches_error {statement : Statement}
    (accepted : Plan.ofStatement statement = .ok plan)
    (fails : plan.findMatches tree root = .error error) :
    statement.run root converter tree = (.failed error, tree) := by
  unfold Statement.run
  rw [accepted]
  dsimp only
  rw [execute, Changes.bind_apply, Changes.look, fails]

/-- What becomes of a statement whose matches are found. -/
theorem run_of_findMatches {statement : Statement} {changed : FileTree}
    (accepted : Plan.ofStatement statement = .ok plan)
    (finds : plan.findMatches tree root = .ok found)
    (performs : plan.perform root converter found tree = (.ok report, changed)) :
    statement.run root converter tree = (.completed report, changed) := by
  unfold Statement.run
  rw [accepted]
  dsimp only
  rw [execute, Changes.bind_apply, Changes.look, finds]
  dsimp only
  rw [performs]

end Plan

/-- A statement that fails before its matches are known, or has nothing to do for them, leaves the
    tree as it was. It fails for a source that is missing or no folder, and with the first error
    that the condition has for an entry that is looked at. It is completed, with nothing processed
    and nothing failed, if each match is skipped for its path alone, and in particular if there is
    none. -/
theorem Statement.run_untouched {statement : Statement} {plan : Plan}
    (accepted : Plan.ofStatement statement = .ok plan) (named : tree.Named) (root : Path)
    (converter : Converter) :
    (∀ error, tree.find (plan.folder root) = .error error →
      statement.run root converter tree =
        (.failed (if error = .notFound then .folderNotFound (plan.folder root)
          else .file (plan.folder root) error), tree)) ∧
    (∀ node, tree.find (plan.folder root) = .ok node → node.isFolder = false →
      statement.run root converter tree = (.failed (.notFolder (plan.folder root)), tree)) ∧
    ∀ stamps entries, tree.find (plan.folder root) = .ok (.folder stamps entries) →
      ((∃ entry ∈ entries, plan.looksAt entry = true ∧
          ∃ error, plan.fulfils tree ((plan.folder root).child entry.1) = .error error) →
        ∃ error, plan.FirstFault tree (plan.folder root) entries error ∧
          statement.run root converter tree = (.failed error, tree)) ∧
      (plan.Faultless tree (plan.folder root) entries →
        (∀ path ∈ plan.matching tree (plan.folder root) entries, plan.skips root path = true) →
        ∃ report, statement.run root converter tree = (.completed report, tree) ∧
          report.processed = 0 ∧ report.failures = [] ∧
          report.paths =
            (plan.matching tree (plan.folder root) entries).map (·.relativeTo root) ∧
          report.skipped = report.paths) := by
  refine ⟨fun error fails => ?_, fun node finds notFolder => ?_, fun stamps entries isFolder =>
    ⟨fun faulty => ?_, fun faultless skipped => ?_⟩⟩
  · refine Plan.run_of_findMatches_error accepted ?_
    unfold Plan.findMatches
    dsimp only
    rw [fails]
    cases error <;> rfl
  · refine Plan.run_of_findMatches_error accepted ?_
    unfold Plan.findMatches
    dsimp only
    rw [finds]
    cases node <;> first | rfl | cases notFolder
  · obtain ⟨error, fault⟩ := Plan.exists_firstFault_iff.mpr faulty
    refine ⟨error, fault, Plan.run_of_findMatches_error accepted ?_⟩
    rw [Plan.findMatches_eq isFolder]
    exact Plan.matchesAmong_of_firstFault named isFolder (List.Subset.refl _) fault
  · have finds : plan.findMatches tree root =
        .ok (plan.matching tree (plan.folder root) entries) := by
      rw [Plan.findMatches_eq isFolder]
      exact Plan.matchesAmong_of_faultless named isFolder (List.Subset.refl _) faultless
    obtain ⟨destination, performs⟩ := Plan.perform_of_skipped skipped
    exact ⟨_, Plan.run_of_findMatches accepted finds performs, rfl, rfl, rfl, rfl⟩

/-- The statement that unpacks the archives among the files whose names come before `y`. -/
def Statement.unpackEarly : Statement :=
  .unarchive ⟨"files", "a", some (.binary .less (.literal "name") (.literal "y"))⟩ "out"

/-- The only match is no archive, and no folder is made. -/
theorem Statement.run_untouched_unpackEarly :
    Plan.ofStatement .unpackEarly = .ok { Plan.early with action := .unarchive "out" } ∧
    FileTree.mixed.Named ∧
    ∃ report, Statement.unpackEarly.run ⟨"/"⟩ .none .mixed = (.completed report, .mixed) ∧
      report.processed = 0 ∧ report.failures = [] ∧ report.skipped = [⟨"a/x"⟩] := by
  have accepted :
      Plan.ofStatement .unpackEarly = .ok { Plan.early with action := .unarchive "out" } := rfl
  have named := FileTree.named_mixed
  have skipped : ∀ path ∈ Plan.early.matching .mixed ⟨"/a"⟩ FileTree.mixedEntries,
      Plan.skips { Plan.early with action := .unarchive "out" } ⟨"/"⟩ path = true := by
    rw [Plan.matching_early]
    exact List.forall_mem_singleton.mpr rfl
  obtain ⟨report, completed, processed, failures, paths, listed⟩ :=
    ((Statement.run_untouched accepted named ⟨"/"⟩ .none).2.2 _ _ FileTree.find_mixed.1).2
      Plan.faultless_early skipped
  refine ⟨accepted, named, report, completed, processed, failures, ?_⟩
  have matched := Plan.matching_early
  have seen : (Plan.early.matching .mixed ⟨"/a"⟩ FileTree.mixedEntries).map
      (·.relativeTo ⟨"/"⟩) = [⟨"a/x"⟩] := by
    rw [matched]
    rfl
  exact (listed.trans paths).trans seen

end FileQuery

/-!
## Statements beside each other

Nothing but the file tree passes from one statement of a query to the next. So a query that is the
first part of another leaves the tree in which the other part runs, whatever became of its
statements. A statement that selects, or is refused, passes the tree on as it was, and the others
fare without it as they do with it.
-/

namespace FileQuery

/-- The items of a list at the positions that are kept. -/
def retained {α : Type} (kept : Nat → Bool) (items : List α) : List α :=
  (items.zipIdx.filter fun item => kept item.2).map (·.1)

@[simp] theorem retained_nil {α : Type} (kept : Nat → Bool) : retained kept ([] : List α) = [] :=
  rfl

/-- The positions after the first are those of the rest, moved by one. -/
theorem retained_cons {α : Type} (kept : Nat → Bool) (first : α) (rest : List α) :
    retained kept (first :: rest) =
      (if kept 0 then [first] else []) ++ retained (fun position => kept (position + 1)) rest := by
  have moved : ((rest.zipIdx 1).filter fun item => kept item.2).map (·.1) =
      retained (fun position => kept (position + 1)) rest := by
    rw [retained, List.zipIdx_succ, List.filter_map, List.map_map]
    rfl
  rw [← moved, retained, List.zipIdx_cons]
  cases keeps : kept 0 <;> simp [keeps]

/-- A statement that changes nothing, because it selects or is refused. -/
def Statement.Idle (statement : Statement) : Prop :=
  statement.operation = .select ∨ ∃ error, Plan.ofStatement statement = .error error

variable {root : Path} {converter : Converter} {statement : Statement}

/-- An idle statement leaves the tree as it is. -/
theorem Statement.run_of_idle (idle : statement.Idle) (tree : FileTree) :
    (statement.run root converter tree).2 = tree := by
  unfold Statement.run
  cases accepted : Plan.ofStatement statement with
  | error error => rfl
  | ok plan =>
    have selects : plan.action.operation = .select := by
      obtain selects | ⟨error, refused⟩ := idle
      · have accepts := (Plan.ofStatement_eq_ok_iff statement plan).mp accepted
        exact (Plan.suits_of_actionOf accepts.action).operation.trans selects
      · cases accepted.symm.trans refused
    have action : plan.action = .select := by
      cases same : plan.action <;> simp [same, Action.operation] at selects
      rfl
    have executed : (plan.execute root converter tree).2 = tree := by
      rw [Plan.execute, Changes.bind_apply, Changes.look]
      cases plan.findMatches tree root with
      | error error => rfl
      | ok found =>
        dsimp only
        rw [Plan.perform, action]
        rfl
    dsimp only
    split <;> rename_i executes <;> rwa [executes] at executed

namespace Query

variable {statements first second : List Statement} {kept : Nat → Bool}

/-- What becomes of a statement is told first, and the others run in the tree that it leaves. -/
theorem runAll_cons_apply (root : Path) (converter : Converter) (statement : Statement)
    (rest : List Statement) (tree : FileTree) :
    runAll root converter (statement :: rest) tree =
      ((statement, (statement.run root converter tree).1) ::
          (runAll root converter rest (statement.run root converter tree).2).1,
        (runAll root converter rest (statement.run root converter tree).2).2) := rfl

/-- Each statement has one outcome, in the order of the query. -/
theorem map_fst_runAll (root : Path) (converter : Converter) (statements : List Statement)
    (tree : FileTree) : (runAll root converter statements tree).1.map (·.1) = statements := by
  induction statements generalizing tree with
  | nil => rfl
  | cons statement rest inductionHypothesis =>
    rw [runAll_cons_apply, List.map_cons, inductionHypothesis]

/-- The second part of a query runs in the tree that the first part leaves. -/
theorem runAll_append (root : Path) (converter : Converter) (first second : List Statement)
    (tree : FileTree) :
    runAll root converter (first ++ second) tree =
      ((runAll root converter first tree).1 ++
          (runAll root converter second (runAll root converter first tree).2).1,
        (runAll root converter second (runAll root converter first tree).2).2) := by
  induction first generalizing tree with
  | nil => rfl
  | cons statement rest inductionHypothesis =>
    rw [List.cons_append, runAll_cons_apply, runAll_cons_apply, inductionHypothesis,
      List.cons_append]

/-- Without statements that are idle, a query leaves the same tree, and the same becomes of its
    other statements. -/
theorem runAll_retained (idle : ∀ position statement, statements[position]? = some statement →
      kept position = false → statement.Idle) (tree : FileTree) :
    runAll root converter (retained kept statements) tree =
      (retained kept (runAll root converter statements tree).1,
        (runAll root converter statements tree).2) := by
  induction statements generalizing kept tree with
  | nil => rfl
  | cons statement rest inductionHypothesis =>
    have later (tree : FileTree) := inductionHypothesis
      (fun position other found => idle (position + 1) other (by simpa using found)) tree
    rw [runAll_cons_apply, retained_cons, retained_cons]
    cases keeps : kept 0 with
    | true =>
      rw [if_pos rfl, if_pos rfl, List.singleton_append, runAll_cons_apply, later]
      rfl
    | false =>
      rw [Statement.run_of_idle (idle 0 statement rfl keeps)]
      simpa using later tree

/-- The statements of a query pass each other nothing but the file tree. Without any of the idle
    ones the query leaves the same tree, and the same becomes of the others. Each statement has one
    outcome, in order. A query in two parts is one part run after the other, in the tree that is
    left. A client that can read a text runs its statements so. -/
theorem runAll_siblings (root : Path) (converter : Converter) (tree : FileTree) :
    (∀ (statements : List Statement) (kept : Nat → Bool),
      (∀ position statement, statements[position]? = some statement → kept position = false →
        statement.operation = .select ∨ ∃ error, Plan.ofStatement statement = .error error) →
      runAll root converter (retained kept statements) tree =
        (retained kept (runAll root converter statements tree).1,
          (runAll root converter statements tree).2)) ∧
    (∀ statements : List Statement,
      (runAll root converter statements tree).1.map (·.1) = statements) ∧
    (∀ first second : List Statement,
      runAll root converter (first ++ second) tree =
        ((runAll root converter first tree).1 ++
            (runAll root converter second (runAll root converter first tree).2).1,
          (runAll root converter second (runAll root converter first tree).2).2)) ∧
    ∀ (text : String) (statements : List Statement), parse text = .ok statements →
      Client.run ⟨root, converter⟩ text tree =
        (.ok ⟨root, (runAll root converter statements tree).1⟩,
          (runAll root converter statements tree).2) := by
  refine ⟨fun statements kept idle => runAll_retained idle tree,
    fun statements => map_fst_runAll root converter statements tree,
    fun first second => runAll_append root converter first second tree,
    fun text statements read => ?_⟩
  unfold Client.run
  rw [read]
  rfl

/-- Beside a statement that selects and one that is refused, the statement that deletes what a link
    leads to leaves the tree that it leaves alone. -/
theorem runAll_siblings_linked :
    let idle : List Statement := [.select ⟨"files", "link", none⟩, .delete ⟨"files", "..", none⟩]
    (∀ position statement, (idle ++ [.deleteLinked])[position]? = some statement →
      (position == 2) = false →
      statement.operation = .select ∨ ∃ error, Plan.ofStatement statement = .error error) ∧
    (runAll ⟨"/data"⟩ .none (idle ++ [.deleteLinked]) (.linked "../outside")).2 =
      (FileTree.linked "../outside").erase ["outside", "x"] := by
  intro idle
  have isIdle (position : Nat) (statement : Statement)
      (found : (idle ++ [.deleteLinked])[position]? = some statement)
      (removed : (position == 2) = false) :
      statement.operation = .select ∨ ∃ error, Plan.ofStatement statement = .error error := by
    match position with
    | 0 =>
      obtain rfl := Option.some.inj found
      exact .inl rfl
    | 1 =>
      obtain rfl := Option.some.inj found
      exact .inr ⟨.outsideDirectory .delete "..", rfl⟩
    | 2 => cases removed
    | position + 3 => cases found
  have alone := (runAll_siblings ⟨"/data"⟩ .none (.linked "../outside")).1 _ _ isIdle
  have deleted := Client.run_linked
  rw [Client.run_of_parse Statement.parse_deleteLinked] at deleted
  exact ⟨isIdle, (congrArg Prod.snd alone).symm.trans deleted⟩

end Query

end FileQuery
