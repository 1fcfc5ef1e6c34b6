import FileQuery.Proofs.Confinement.Extraction
import FileQuery.Proofs.Query.RoundTrip

/-!
# Runs that stay below a folder

A query changes nothing outside its directory as long as the links below the directory lead to it or
below it. Only unpacking makes links, so this has to hold in the first tree and after each statement
that unpacks something. Where a link below the directory leads elsewhere, a statement goes there.
-/

namespace FileQuery

namespace FileTree

/-- A path leads to a folder at a place. -/
def Opens (tree : FileTree) (path : Path) (place : Place) : Prop :=
  (∃ left, tree.Reaches path left place) ∧
    ∃ stamps entries, tree.get? place = some (.folder stamps entries)

/-- Two trees differ at most in the folder to which a path leads and below it, and not at all if
    there is no such folder. -/
def AgreeOutside (tree : FileTree) (path : Path) (later : FileTree) : Prop :=
  (∀ place, tree.Opens path place → later.around place = tree.around place) ∧
    ((∀ place, ¬ tree.Opens path place) → later = tree)

/-- The links below a folder lead to it or below it. -/
def LinksDescend (tree : FileTree) (place : Place) : Prop :=
  ∀ below target, tree.get? (place ++ below) = some (.link target) → Descends place target

/-- What is not below the folder is the same in trees that agree outside it. -/
theorem AgreeOutside.shell?_eq {tree later : FileTree} {path : Path} {place elsewhere : Place}
    (agree : tree.AgreeOutside path later) (opens : tree.Opens path place)
    (notBelow : ¬ place <+: elsewhere) : later.shell? elsewhere = tree.shell? elsewhere := by
  rw [← shell?_around notBelow, agree.1 place opens, shell?_around notBelow]

end FileTree

variable {tree before : FileTree} {place : Place} {root : Path} {converter : Converter}
  {statement : Statement} {plan : Plan} {found : List Path}

/-! ## Statements -/

/-- A tree that is orderly below the folder and whose links there descend. -/
theorem Enclosed.descending {allowed : String → Prop}
    (enclosed : Enclosed allowed place before tree) (descending : tree.LinksDescend place) :
    Enclosed (Descends place) place before tree := by
  obtain ⟨around, stamps, entries, isFolder, throughout⟩ := enclosed
  refine ⟨around, stamps, entries, isFolder, fun below node reached => ?_⟩
  have orderly := throughout below node reached
  cases node with
  | file => trivial
  | folder => exact orderly
  | link target =>
    refine descending below target ?_
    rw [FileTree.get?_append, isFolder]
    exact reached

theorem Enclosed.linksDescend (enclosed : Enclosed (Descends place) place before tree) :
    tree.LinksDescend place :=
  fun _ _ linked => enclosed.throughout linked [] _ rfl

/-- The matches of a plan are entries of its folder. -/
theorem Enclosed.entries_of_findMatches (enclosed : Enclosed (Descends place) place before tree)
    (surrounds : before.Surrounds root place) (accepted : Plan.ofStatement statement = .ok plan)
    (finds : plan.findMatches tree root = .ok found) :
    ∀ path ∈ found, path.IsEntryOf (plan.folder root) := by
  obtain ⟨rest, within⟩ := Plan.within_folder accepted root
  unfold Plan.findMatches at finds
  dsimp only at finds
  split at finds
  · contradiction
  · contradiction
  · rename_i stamps entries listed
    intro path member
    obtain ⟨name, node, entry, -, same⟩ := Plan.mem_matchesAmong finds path member
    have lists : tree.list (plan.folder root) = .ok entries := by
      rw [FileTree.list, listed]
    exact ⟨name, enclosed.isName_of_list surrounds within lists _ entry, same⟩
  · contradiction
  · contradiction

/-- A statement changes nothing outside the folder. Unless it unpacks something, the links below the
    folder still descend. -/
theorem Statement.enclosed_run (honest : converter.WritesOutput)
    (surrounds : before.Surrounds root place) (areNames : ∀ name ∈ place, IsName name)
    (enclosed : Enclosed (Descends place) place before tree) (statement : Statement) :
    Enclosed (fun _ => True) place before (statement.run root converter tree).2 ∧
      (statement.operation ≠ .unarchive →
        Enclosed (Descends place) place before (statement.run root converter tree).2) := by
  have always (enclosed : Enclosed (Descends place) place before tree) :
      Enclosed (fun _ => True) place before tree := enclosed.mono fun _ _ => trivial
  unfold Statement.run
  split
  · exact ⟨always enclosed, fun _ => enclosed⟩
  rename_i plan accepted
  have accepts := (Plan.ofStatement_eq_ok_iff statement plan).mp accepted
  have operation : plan.action.operation = statement.operation :=
    (Plan.suits_of_actionOf accepts.action).operation
  have executed : Enclosed (fun _ => True) place before (plan.execute root converter tree).2 ∧
      (statement.operation ≠ .unarchive →
        Enclosed (Descends place) place before (plan.execute root converter tree).2) := by
    rw [Plan.execute, Changes.bind_apply, Changes.look]
    cases finds : plan.findMatches tree root with
    | error error => exact ⟨always enclosed, fun _ => enclosed⟩
    | ok found =>
      dsimp only
      have entries := enclosed.entries_of_findMatches surrounds accepted finds
      by_cases packed : plan.action.operation = .unarchive
      · refine ⟨?_, fun differs => absurd (operation.symm.trans packed) differs⟩
        unfold Plan.perform
        cases action : plan.action with
        | unarchive destination =>
          have within := Plan.within_destination accepted (by rw [action]; rfl) root
          exact Packing.enclosed_unarchive enclosed surrounds areNames within
        | _ => simp [action, Action.operation] at packed
      · have performed :=
          Plan.maintains_perform accepted honest surrounds entries packed tree enclosed
        exact ⟨performed.mono fun _ _ => trivial, fun _ => performed⟩
  split <;> rename_i executes <;> rwa [executes] at executed

/-! ## Queries -/

namespace Query

/-- The trees in which the statements of a query start. -/
def starts (root : Path) (converter : Converter) : List Statement → FileTree → List FileTree
  | [], _ => []
  | statement :: rest, tree =>
    tree :: starts root converter rest (statement.run root converter tree).2

theorem runAll_cons (root : Path) (converter : Converter) (statement : Statement)
    (rest : List Statement) (tree : FileTree) :
    (runAll root converter (statement :: rest) tree).2 =
      (runAll root converter rest (statement.run root converter tree).2).2 := rfl

variable (honest : converter.WritesOutput) (surrounds : before.Surrounds root place)
  (areNames : ∀ name ∈ place, IsName name) {statements : List Statement}

include honest surrounds areNames

/-- Statements that start in trees in which the links below the folder descend change nothing
    outside the folder. -/
theorem enclosed_runAll (enclosed : Enclosed (fun _ => True) place before tree)
    (descending : ∀ start ∈ starts root converter statements tree, start.LinksDescend place) :
    Enclosed (fun _ => True) place before (runAll root converter statements tree).2 := by
  induction statements generalizing tree with
  | nil => exact enclosed
  | cons statement rest inductionHypothesis =>
    obtain ⟨first, others⟩ := List.forall_mem_cons.mp descending
    rw [runAll_cons]
    have after := statement.enclosed_run honest surrounds areNames (enclosed.descending first)
    exact inductionHypothesis after.1 others

/-- If nothing is unpacked, the links below the folder descend in every tree in which a statement
    starts, once they do in the first. -/
theorem linksDescend_of_starts (enclosed : Enclosed (Descends place) place before tree)
    (packed : ∀ statement ∈ statements, statement.operation ≠ .unarchive) :
    ∀ start ∈ starts root converter statements tree, start.LinksDescend place := by
  induction statements generalizing tree with
  | nil => simp [starts]
  | cons statement rest inductionHypothesis =>
    obtain ⟨first, others⟩ := List.forall_mem_cons.mp packed
    have after := statement.enclosed_run honest surrounds areNames enclosed
    exact List.forall_mem_cons.mpr ⟨enclosed.linksDescend,
      inductionHypothesis (after.2 first) others⟩

end Query

/-! ## Directories that are no folders -/

/-- If a path within the root leads to a folder, the root does. -/
theorem Path.Within.opens {path : Path} {rest : List String} (within : root.Within path rest)
    (opens : tree.Opens path place) : ∃ place, tree.Opens root place := by
  obtain ⟨⟨left, reaches⟩, isFolder⟩ := opens
  obtain ⟨middle, passed, _, reachesRoot, wayLater, down⟩ := reaches.through within
  exact ⟨passed, ⟨middle, reachesRoot⟩, wayLater.exists_folder_start down isFolder⟩

/-- Where the root is no folder, a statement changes nothing. -/
theorem Statement.run_nowhere (nowhere : ∀ place, ¬ tree.Opens root place) (statement : Statement) :
    (statement.run root converter tree).2 = tree := by
  unfold Statement.run
  split
  · rfl
  rename_i plan accepted
  have executed : (plan.execute root converter tree).2 = tree := by
    rw [Plan.execute, Changes.bind_apply, Changes.look]
    cases finds : plan.findMatches tree root with
    | error error => rfl
    | ok found =>
      exfalso
      unfold Plan.findMatches at finds
      dsimp only at finds
      split at finds
      · contradiction
      · contradiction
      · rename_i stamps entries listed
        obtain ⟨left, goal, reaches, isFolder⟩ := FileTree.reaches_of_find listed
        obtain ⟨rest, within⟩ := Plan.within_folder accepted root
        obtain ⟨place, opens⟩ := within.opens ⟨⟨left, reaches⟩, stamps, entries, isFolder⟩
        exact nowhere place opens
      · contradiction
      · contradiction
  split <;> rename_i executes <;> rwa [executes] at executed

theorem Query.runAll_nowhere (nowhere : ∀ place, ¬ tree.Opens root place)
    (statements : List Statement) : (runAll root converter statements tree).2 = tree := by
  induction statements with
  | nil => rfl
  | cons statement rest inductionHypothesis =>
    rw [runAll_cons, statement.run_nowhere nowhere, inductionHypothesis]

/-! ## Clients -/

namespace Client

variable {client : Client} {text : String}

/-- The trees in which the statements of a text start. -/
def starts (client : Client) (text : String) (tree : FileTree) : List FileTree :=
  match Query.parse text with
  | .error _ => []
  | .ok statements => Query.starts client.directory client.converter statements tree

/-- No statement of a text unpacks anything. -/
def Packs (text : String) : Prop :=
  ∀ statements, Query.parse text = .ok statements → ∀ statement ∈ statements,
    statement.operation ≠ .unarchive

theorem run_of_parse {statements : List Statement} (read : Query.parse text = .ok statements) :
    (client.run text tree).2 =
      (Query.runAll client.directory client.converter statements tree).2 := by
  unfold run
  rw [read]
  rfl

/-- A query changes nothing outside its directory, if no link below the directory leads elsewhere:
    in the first tree, if nothing is unpacked, or else in each tree in which a statement starts. -/
theorem run_confined (honest : client.converter.WritesOutput) (named : tree.Named)
    (apart : ∀ place, tree.Opens client.directory place →
      tree.Surrounds client.directory place ∧
        (Packs text ∧ tree.LinksDescend place ∨
          ∀ start ∈ client.starts text tree, start.LinksDescend place)) :
    tree.AgreeOutside client.directory (client.run text tree).2 := by
  cases read : Query.parse text with
  | error error =>
    have same : (client.run text tree).2 = tree := by
      unfold run
      rw [read]
      rfl
    rw [same]
    exact ⟨fun _ _ => rfl, fun _ => rfl⟩
  | ok statements =>
    rw [run_of_parse read]
    refine ⟨fun place opens => ?_, fun nowhere => Query.runAll_nowhere nowhere statements⟩
    obtain ⟨surrounds, descending⟩ := apart place opens
    obtain ⟨-, stamps, entries, isFolder⟩ := opens
    have orderly := FileTree.named_iff_throughout.mp named
    have areNames := orderly.areNames isFolder
    have enclosed : Enclosed (fun _ => True) place tree tree :=
      .refl isFolder (orderly.below isFolder)
    have descending' : ∀ start ∈ Query.starts client.directory client.converter statements tree,
        start.LinksDescend place := by
      rcases descending with ⟨packs, first⟩ | descending
      · exact Query.linksDescend_of_starts honest surrounds areNames (enclosed.descending first)
          (packs statements read)
      · unfold starts at descending
        rwa [read] at descending
    exact (Query.enclosed_runAll honest surrounds areNames enclosed descending').around

end Client

/-! ### A tree with a link -/

/-- A tree with two folders, of which one holds a link. -/
def FileTree.linked (target : String) : FileTree :=
  ⟨.folder (.ofInstant .epoch) [
    ("data", .folder (.ofInstant .epoch) [("link", .link target),
      ("sub", .folder (.ofInstant .epoch) [("x", .file (.ofInstant .epoch) false [])])]),
    ("outside", .folder (.ofInstant .epoch) [("x", .file (.ofInstant .epoch) false [])])],
    [], .epoch⟩

namespace FileTree

theorem throughout_linked {allowed : String → Prop} {target : String} (allows : allowed target) :
    (linked target).root.Throughout allowed := by
  have isName (name : String) (listed : name ∈ ["data", "outside", "link", "sub", "x"]) :
      IsName name := by
    simp only [List.mem_cons, List.not_mem_nil, or_false] at listed
    rcases listed with rfl | rfl | rfl | rfl | rfl <;> constructor <;> decide
  have single : (Node.folder (.ofInstant .epoch)
      [("x", .file (.ofInstant .epoch) false [])]).Throughout allowed := by
    refine Node.throughout_folder ?_ (by simp [Node.throughout_file])
    simp [Node.Orderly, isName]
  refine Node.throughout_folder ?_ ?_
  · simp [Node.Orderly, isName]
  · refine List.forall_mem_cons.mpr ⟨?_, by simpa using single⟩
    refine Node.throughout_folder ?_ (by simp [Node.throughout_link allows, single])
    simp [Node.Orderly, isName]

/-- The path of a folder at the root leads to it. -/
theorem reaches_data {tree : FileTree} {stamps : Stamps} {entries : List (String × Node)}
    (found : tree.get? ["data"] = some (.folder stamps entries)) :
    tree.Reaches ⟨"/data"⟩ linkLimit ["data"] := by
  have start_ : start "/data" tree.working = [] := rfl
  have names_ : names "/data" = ["", "data"] := by decide
  rw [Reaches, start_, names_]
  exact .silent rfl (.folder (by decide) (by decide) (by decide) found .nil)

/-- The path leads to the folder that holds the link, and does not go through it. -/
theorem surrounds_linked (target : String) {place : Place}
    (opens : (linked target).Opens ⟨"/data"⟩ place) :
    place = ["data"] ∧ (linked target).Surrounds ⟨"/data"⟩ place := by
  obtain ⟨⟨left, reaches⟩, -⟩ := opens
  have home : (linked target).Reaches ⟨"/data"⟩ linkLimit ["data"] := reaches_data rfl
  obtain ⟨-, rfl⟩ := home.unique reaches
  exact ⟨rfl, linkLimit, reaches_data rfl⟩

theorem resolve_linked :
    (linked "../outside").resolve .follow ⟨"/data/link"⟩ =
      .ok ⟨["outside"], (linked "../outside").get? ["outside"], false⟩ ∧
    (linked "../outside").resolve .keep ⟨"/data/link/x"⟩ =
      .ok ⟨["outside", "x"], (linked "../outside").get? ["outside", "x"], false⟩ := by
  simp [linked, resolve, checkPath, pathLimit, names, Path.segments, descend, start,
    Path.isAbsolute, get?, Node.get?, List.lookup_cons, nameLimit, Text.byteLength, Char.utf8Size,
    linkLimit]

end FileTree

/-- The statement that deletes the files in the folder to which the link leads. -/
def Statement.deleteLinked : Statement := .delete ⟨"files", "link", none⟩

theorem Statement.parse_deleteLinked :
    Query.parse Statement.deleteLinked.text = .ok [Statement.deleteLinked] := by
  refine Query.parse_text ⟨?_, by simp [deleteLinked, selection]⟩
  simp [deleteLinked, literals, selection, destination?, Quotable]

/-- The file in the folder to which the link leads is the match. -/
theorem Plan.findMatches_linked :
    (Plan.mk .files "link" none .delete).findMatches (.linked "../outside") ⟨"/data"⟩ =
      .ok [⟨"/data/link/x"⟩] := by
  have folder_ : (Plan.mk .files "link" none .delete).folder ⟨"/data"⟩ = ⟨"/data/link"⟩ := by
    change (Path.mk "/data").join ⟨"link"⟩ = ⟨"/data/link"⟩
    rfl
  have found : (FileTree.linked "../outside").find ⟨"/data/link"⟩ =
      .ok (.folder (.ofInstant .epoch) [("x", .file (.ofInstant .epoch) false [])]) := by
    rw [FileTree.find, FileTree.locate, FileTree.resolve_linked.1]
    rfl
  unfold findMatches
  dsimp only
  rw [folder_, found]
  rfl

namespace Client

/-- A client in the folder that holds the link. -/
def ofLinked : Client := ⟨⟨"/data"⟩, .none⟩

/-- The file outside the folder is deleted. -/
theorem run_linked : (ofLinked.run Statement.deleteLinked.text (.linked "../outside")).2 =
    (FileTree.linked "../outside").erase ["outside", "x"] := by
  have removed : (FileTree.linked "../outside").removeFile ⟨"/data/link/x"⟩ =
      .ok ((FileTree.linked "../outside").erase ["outside", "x"]) := by
    rw [FileTree.removeFile, FileTree.locate, FileTree.resolve_linked.2]
    rfl
  have accepted : Plan.ofStatement Statement.deleteLinked =
      .ok ⟨.files, "link", none, .delete⟩ := rfl
  have ran : (Statement.deleteLinked.run ⟨"/data"⟩ .none (.linked "../outside")).2 =
      (FileTree.linked "../outside").erase ["outside", "x"] := by
    unfold Statement.run
    rw [accepted]
    dsimp only
    rw [Plan.execute, Changes.bind_apply, Changes.look, Plan.findMatches_linked]
    dsimp only [Plan.perform, Removal.delete, Treatment.all, Removal.each]
    unfold Changes.at Changes.mapError Changes.ofChange
    dsimp only
    rw [removed]
    rfl
  rw [run_of_parse Statement.parse_deleteLinked, Query.runAll_cons]
  exact ran

/-- Where the link leads to a folder below the directory, the files there are deleted and nothing
    changes outside. -/
theorem run_confined_linked :
    ofLinked.converter.WritesOutput ∧ (FileTree.linked "sub").Named ∧
    (∀ place, (FileTree.linked "sub").Opens ofLinked.directory place →
      (FileTree.linked "sub").Surrounds ofLinked.directory place ∧
        (Packs Statement.deleteLinked.text ∧ (FileTree.linked "sub").LinksDescend place ∨
          ∀ start ∈ ofLinked.starts Statement.deleteLinked.text (.linked "sub"),
            start.LinksDescend place)) ∧
    (FileTree.linked "sub").AgreeOutside ofLinked.directory
      (ofLinked.run Statement.deleteLinked.text (.linked "sub")).2 := by
  have honest : ofLinked.converter.WritesOutput := Converter.none_writesOutput
  have named : (FileTree.linked "sub").Named :=
    FileTree.named_iff_throughout.mpr (FileTree.throughout_linked trivial)
  have descends : Descends ["data"] "sub" := .inl (by decide)
  have apart (place : Place) (opens : (FileTree.linked "sub").Opens ofLinked.directory place) :
      (FileTree.linked "sub").Surrounds ofLinked.directory place ∧
        (Packs Statement.deleteLinked.text ∧ (FileTree.linked "sub").LinksDescend place ∨
          ∀ start ∈ ofLinked.starts Statement.deleteLinked.text (.linked "sub"),
            start.LinksDescend place) := by
    obtain ⟨rfl, surrounds⟩ := FileTree.surrounds_linked "sub" opens
    refine ⟨surrounds, .inl ⟨fun statements read => ?_, fun below target linked => ?_⟩⟩
    · obtain rfl := Except.ok.inj (Statement.parse_deleteLinked.symm.trans read)
      simp [Statement.deleteLinked, Statement.operation]
    · exact FileTree.throughout_linked descends _ _ linked
  exact ⟨honest, named, apart, run_confined honest named apart⟩

/-- Where the link leads out of the directory, a file outside is deleted. -/
theorem not_forall_confined :
    ¬ ∀ (client : Client) (text : String) (tree : FileTree), client.converter.WritesOutput →
      tree.Named →
      (∀ place, tree.Opens client.directory place → tree.Surrounds client.directory place) →
      tree.AgreeOutside client.directory (client.run text tree).2 := by
  intro confined
  have agree := confined ofLinked Statement.deleteLinked.text (.linked "../outside")
    Converter.none_writesOutput
    (FileTree.named_iff_throughout.mpr (FileTree.throughout_linked trivial))
    fun place opens => (FileTree.surrounds_linked "../outside" opens).2
  have opens : (FileTree.linked "../outside").Opens ofLinked.directory ["data"] :=
    ⟨⟨_, FileTree.reaches_data rfl⟩, _, _, rfl⟩
  have apart : ¬ ["data"] <+: ["outside", "x"] := by decide
  have same := agree.shell?_eq opens apart
  rw [run_linked] at same
  cases same

end Client

end FileQuery
