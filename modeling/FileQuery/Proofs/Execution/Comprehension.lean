import FileQuery.Proofs.Execution.Accounting
import Mathlib.Data.List.Nodup
import Mathlib.Tactic.FinCases

/-!
# Exactly the entries that match

A listing of matches is a comprehension: it has the entries of the source folder that are looked at,
because of their names and their own kinds, and for which the condition holds, in the order of the
folder. It comes to an error just when the condition has one for an entry that is looked at, and
then to that of the first such entry.

What makes it exact is that an entry that is looked at is there when the condition is evaluated: its
path leads to the entry itself, unless the path is none that can be followed. So no evaluation comes
to the error of a vanished entry, which would be passed over.
-/

namespace FileQuery

/-- A path to a name is refused for what it is, and not because nothing is there. -/
theorem FileTree.namingFault_ne_notFound (base : Path) {name : String} (isName : IsName name) :
    namingFault (base.child name) name ≠ some .notFound := by
  intro fault
  unfold namingFault at fault
  split at fault
  · rename_i check
    obtain rfl := Option.some.inj fault
    obtain ⟨front, whole, -⟩ := names_child base isName
    rw [eq_empty_of_checkPath check] at whole
    have alone : front ++ [name] = [] ++ [""] := whole.symm
    exact isName.nonempty (List.singleton_inj.mp (List.append_inj' alone rfl).2)
  · split at fault <;> cases fault

/-- The path to an entry of a folder leads to this entry, if it can be followed and the entry is no
    link. -/
theorem FileTree.find_entry {tree : FileTree} {folder : Path} {name : String} {node : Node}
    {stamps : Stamps} {entries : List (String × Node)} (named : tree.Named)
    (isFolder : tree.find folder = .ok (.folder stamps entries))
    (listed : (name, node) ∈ entries) (notLink : ∀ target, node ≠ .link target) :
    tree.find (folder.child name) =
      match namingFault (folder.child name) name with
      | some error => .error error
      | none => .ok node := by
  obtain ⟨areNames, distinct⟩ := named.of_find isFolder
  obtain ⟨left, place, reaches, at_place⟩ := reaches_of_find isFolder
  have at_name : tree.get? (place ++ [name]) = some node := by
    rw [get?_append, at_place]
    simp [Node.get?, lookup_of_mem distinct listed]
  have unlinked (target : String) : tree.get? (place ++ [name]) ≠ some (.link target) := by
    rw [at_name]
    exact fun same => notLink target (Option.some.inj same)
  rw [find, locate, resolve_child reaches (areNames _ listed) .follow fun _ _ => unlinked, at_name]
  cases namingFault (folder.child name) name with
  | some error => rfl
  | none =>
    simp only [Bool.and_false]
    rfl

namespace Plan

/-- Whether an entry is looked at: its name is not ignored, and it is itself of the target's
    kind. -/
def looksAt (plan : Plan) (entry : String × Node) : Bool :=
  entry.1 != ignoredName && plan.target.accepts entry.2

/-- What comes of evaluating the condition at a path. Without a condition every entry fulfils it. -/
def fulfils (plan : Plan) (tree : FileTree) (path : Path) : Except ExecutionError Bool :=
  match plan.condition with
  | none => .ok true
  | some condition => condition.holdsAt tree path

/-- Whether an entry of a folder is looked at and fulfils the condition. -/
def matchesEntry (plan : Plan) (tree : FileTree) (folder : Path) (entry : String × Node) : Bool :=
  plan.looksAt entry && (plan.fulfils tree (folder.child entry.1)).toOption == some true

/-- The paths to the entries of a folder that match, in the order of the folder. -/
def matching (plan : Plan) (tree : FileTree) (folder : Path) (entries : List (String × Node)) :
    List Path :=
  (entries.filter (plan.matchesEntry tree folder)).map fun entry => folder.child entry.1

/-- Evaluating the condition comes to no error for the entries that are looked at. -/
def Faultless (plan : Plan) (tree : FileTree) (folder : Path) (entries : List (String × Node)) :
    Prop :=
  ∀ entry ∈ entries, plan.looksAt entry = true →
    ∃ holds, plan.fulfils tree (folder.child entry.1) = .ok holds

/-- Evaluating the condition comes to an error for an entry that is looked at, and to none for
    those before it. -/
def FirstFault (plan : Plan) (tree : FileTree) (folder : Path) (entries : List (String × Node))
    (error : ExecutionError) : Prop :=
  ∃ before entry after, entries = before ++ entry :: after ∧ plan.Faultless tree folder before ∧
    plan.looksAt entry = true ∧ plan.fulfils tree (folder.child entry.1) = .error error

variable {plan : Plan} {tree : FileTree} {root folder : Path} {stamps : Stamps} {name : String}
  {node : Node} {entry : String × Node} {entries rest : List (String × Node)}
  {error : ExecutionError}

/-- What the target selects is no link. -/
theorem ne_link_of_accepts {target : Target} (accepts : target.accepts node = true)
    (text : String) : node ≠ .link text := by
  rintro rfl
  cases target <;> cases accepts

/-! ## Evaluation at entries -/

/-- Evaluating the condition at an entry that is looked at never comes to the error of a vanished
    entry. -/
theorem isNotFound_of_fulfils (named : tree.Named)
    (isFolder : tree.find folder = .ok (.folder stamps entries)) (listed : (name, node) ∈ entries)
    (accepts : plan.target.accepts node = true)
    (fails : plan.fulfils tree (folder.child name) = .error error) : error.isNotFound = false := by
  unfold fulfils at fails
  split at fails
  · contradiction
  unfold Condition.holdsAt Attributes.read at fails
  rw [FileTree.find_entry named isFolder listed (ne_link_of_accepts accepts)] at fails
  have isName := (named.of_find isFolder).1 _ listed
  have present := FileTree.namingFault_ne_notFound folder isName
  split at fails
  · contradiction
  cases fault : FileTree.namingFault (folder.child name) name with
  | some reason =>
    rw [fault] at fails present
    obtain rfl := Except.error.inj fails
    cases reason <;> first | rfl | exact absurd rfl present
  | none =>
    rw [fault] at fails
    dsimp only [Except.map] at fails
    rename_i operator left right _
    cases evaluated : (Condition.binary operator left right).evaluate (folder.child name).text
        (.ofNode (folder.child name) (Condition.binary operator left right).needsContent node) with
    | ok => simp [evaluated, Except.mapError] at fails
    | error reason =>
      rw [evaluated] at fails
      obtain rfl := Except.error.inj fails
      rfl

/-- An entry of the target's kind is admitted as the condition says, and any other entry is not. -/
theorem admits_eq (named : tree.Named) (isFolder : tree.find folder = .ok (.folder stamps entries))
    (listed : (name, node) ∈ entries) :
    plan.admits tree (folder.child name) node =
      if plan.target.accepts node then plan.fulfils tree (folder.child name) else .ok false := by
  have vanished (error : ExecutionError) (accepts : plan.target.accepts node = true)
      (fails : plan.fulfils tree (folder.child name) = .error error) : error.isNotFound = false :=
    isNotFound_of_fulfils named isFolder listed accepts fails
  unfold admits
  unfold fulfils at vanished ⊢
  cases accepts : plan.target.accepts node with
  | false => rfl
  | true =>
    cases present : plan.condition with
    | none => rfl
    | some condition =>
      rw [present] at vanished
      dsimp only at vanished ⊢
      cases evaluated : condition.holdsAt tree (folder.child name) with
      | ok => rfl
      | error error => simp [vanished error accepts evaluated]

/-! ## Listings -/

theorem faultless_cons : plan.Faultless tree folder (entry :: rest) ↔
    (plan.looksAt entry = true → ∃ holds, plan.fulfils tree (folder.child entry.1) = .ok holds) ∧
      plan.Faultless tree folder rest :=
  List.forall_mem_cons

/-- A fault after entries without one is the first fault. -/
theorem FirstFault.cons (fault : plan.FirstFault tree folder rest error)
    (fine : plan.looksAt entry = true →
      ∃ holds, plan.fulfils tree (folder.child entry.1) = .ok holds) :
    plan.FirstFault tree folder (entry :: rest) error := by
  obtain ⟨before, faulty, after, rfl, faultless, looks, fails⟩ := fault
  exact ⟨entry :: before, faulty, after, rfl, faultless_cons.mpr ⟨fine, faultless⟩, looks, fails⟩

/-- Entries have a fault just when they are not faultless. -/
theorem exists_firstFault_iff : (∃ error, plan.FirstFault tree folder entries error) ↔
    ∃ entry ∈ entries, plan.looksAt entry = true ∧
      ∃ error, plan.fulfils tree (folder.child entry.1) = .error error := by
  constructor
  · rintro ⟨error, before, entry, after, rfl, -, looks, fails⟩
    exact ⟨entry, by simp, looks, error, fails⟩
  · rintro ⟨entry, listed, looks, error, fails⟩
    induction entries with
    | nil => cases listed
    | cons first rest inductionHypothesis =>
      by_cases fine : plan.looksAt first = true →
          ∃ holds, plan.fulfils tree (folder.child first.1) = .ok holds
      · rcases List.mem_cons.mp listed with rfl | later
        · obtain ⟨holds, fulfils⟩ := fine looks
          cases fails.symm.trans fulfils
        · obtain ⟨error', fault⟩ := inductionHypothesis later
          exact ⟨error', fault.cons fine⟩
      · obtain ⟨looks', unfulfilled⟩ := Classical.not_imp.mp fine
        cases fulfils : plan.fulfils tree (folder.child first.1) with
        | ok holds => exact absurd ⟨holds, fulfils⟩ unfulfilled
        | error error' =>
          exact ⟨error', [], first, rest, rfl, fun _ => nofun, looks', fulfils⟩

/-- The matches among entries go on from the first entry: past it if it is not looked at, and else
    as the condition says. -/
theorem matchesAmong_cons (named : tree.Named)
    (isFolder : tree.find folder = .ok (.folder stamps entries))
    (listed : (name, node) ∈ entries) (rest : List (String × Node)) :
    plan.matchesAmong tree folder ((name, node) :: rest) =
      if plan.looksAt (name, node) then
        match plan.fulfils tree (folder.child name) with
        | .error error => .error error
        | .ok false => plan.matchesAmong tree folder rest
        | .ok true => (plan.matchesAmong tree folder rest).map (folder.child name :: ·)
      else plan.matchesAmong tree folder rest := by
  rw [matchesAmong, admits_eq named isFolder listed]
  by_cases ignored : name = ignoredName
  · simp [ignored, looksAt]
  cases accepts : plan.target.accepts node with
  | false => simp [ignored, looksAt, accepts]
  | true =>
    have looks : plan.looksAt (name, node) = true := by simp [ignored, looksAt, accepts]
    rw [if_neg ignored, if_pos looks]
    rcases plan.fulfils tree (folder.child name) with _ | _ | _ <;> rfl

/-- Without a fault the matches among entries of a folder are those that match. -/
theorem matchesAmong_of_faultless (named : tree.Named)
    (isFolder : tree.find folder = .ok (.folder stamps entries)) (among : rest ⊆ entries)
    (faultless : plan.Faultless tree folder rest) :
    plan.matchesAmong tree folder rest = .ok (plan.matching tree folder rest) := by
  induction rest with
  | nil => rfl
  | cons entry rest inductionHypothesis =>
    obtain ⟨name, node⟩ := entry
    obtain ⟨listed, among'⟩ := List.cons_subset.mp among
    obtain ⟨fine, faultless'⟩ := faultless_cons.mp faultless
    rw [matchesAmong_cons named isFolder listed, inductionHypothesis among' faultless']
    split
    · rename_i looks
      obtain ⟨holds, fulfils⟩ := fine looks
      rw [fulfils, matching, matching]
      cases holds <;> simp [matchesEntry, looks, fulfils, Except.toOption, Except.map]
    · rename_i passed
      simp [matching, matchesEntry, passed]

/-- The first fault among entries of a folder is told. -/
theorem matchesAmong_of_firstFault (named : tree.Named)
    (isFolder : tree.find folder = .ok (.folder stamps entries)) (among : rest ⊆ entries)
    (fault : plan.FirstFault tree folder rest error) :
    plan.matchesAmong tree folder rest = .error error := by
  obtain ⟨before, entry, after, rfl, faultless, looks, fails⟩ := fault
  induction before with
  | nil =>
    have listed := among List.mem_cons_self
    rw [List.nil_append, matchesAmong_cons named isFolder listed, if_pos looks, fails]
  | cons first before inductionHypothesis =>
    obtain ⟨listed, among'⟩ := List.cons_subset.mp among
    obtain ⟨fine, faultless'⟩ := faultless_cons.mp faultless
    rw [List.cons_append, matchesAmong_cons named isFolder listed,
      inductionHypothesis among' faultless']
    split
    · rename_i looks
      obtain ⟨holds, fulfils⟩ := fine looks
      rw [fulfils]
      cases holds <;> rfl
    · rfl

/-- In a folder that is found, the matches are found among its entries. -/
theorem findMatches_eq (isFolder : tree.find (plan.folder root) = .ok (.folder stamps entries)) :
    plan.findMatches tree root = plan.matchesAmong tree (plan.folder root) entries := by
  unfold findMatches
  dsimp only
  rw [isFolder]

/-- The paths to entries that match, spelled out. -/
theorem mem_matching_iff {path : Path} : path ∈ plan.matching tree folder entries ↔
    ∃ name node, (name, node) ∈ entries ∧ path = folder.child name ∧ name ≠ ".DS_Store" ∧
      (plan.target = .files ∧ node.isFile = true ∨
        plan.target = .folders ∧ node.isFolder = true) ∧
      ∀ condition, plan.condition = some condition → condition.holdsAt tree path = .ok true := by
  have kind (node : Node) : plan.target.accepts node = true ↔
      (plan.target = .files ∧ node.isFile = true ∨
        plan.target = .folders ∧ node.isFolder = true) := by
    cases plan.target <;> simp [Target.accepts]
  have holds (path : Path) : (plan.fulfils tree path).toOption = some true ↔
      ∀ condition, plan.condition = some condition → condition.holdsAt tree path = .ok true := by
    unfold fulfils
    cases plan.condition with
    | none => simp [Except.toOption]
    | some condition =>
      cases evaluated : condition.holdsAt tree path <;> simp [Except.toOption, evaluated]
  simp only [matching, List.mem_map, List.mem_filter, Prod.exists, matchesEntry, looksAt,
    Bool.and_eq_true, bne_iff_ne, beq_iff_eq, kind, holds, ignoredName]
  constructor
  · rintro ⟨name, node, ⟨listed, ⟨regarded, kind⟩, fulfils⟩, rfl⟩
    exact ⟨name, node, listed, rfl, regarded, kind, fulfils⟩
  · rintro ⟨name, node, listed, rfl, regarded, kind, fulfils⟩
    exact ⟨name, node, ⟨listed, ⟨regarded, kind⟩, fulfils⟩, rfl⟩

/-- No path to an entry that matches is listed twice, since each entry has a name of its own. -/
theorem nodup_matching (named : tree.Named)
    (isFolder : tree.find folder = .ok (.folder stamps entries)) :
    (plan.matching tree folder entries).Nodup := by
  obtain ⟨areNames, distinct⟩ := named.of_find isFolder
  have kept : ((entries.filter (plan.matchesEntry tree folder)).map (·.1)).Nodup :=
    distinct.sublist (List.filter_sublist.map _)
  have paths : plan.matching tree folder entries =
      ((entries.filter (plan.matchesEntry tree folder)).map (·.1)).map folder.child := by
    simp [matching]
  have isName (name : String)
      (listed : name ∈ (entries.filter (plan.matchesEntry tree folder)).map (·.1)) :
      IsName name := by
    obtain ⟨entry, member, rfl⟩ := List.mem_map.mp listed
    exact areNames entry (List.mem_filter.mp member).1
  rw [paths]
  exact kept.map_on fun first listed second listed' same =>
    Path.child_injective (isName first listed) (isName second listed') same

/-- In a folder that is found the matches are the paths to the entries that are not ignored, are of
    the target's kind themselves and fulfil the condition, each once and in the order of the folder.
    They are found unless the condition has an error for an entry that is not ignored and of the
    target's kind, and then the first such error is told. -/
theorem findMatches_comprehends (named : tree.Named)
    (isFolder : tree.find (plan.folder root) = .ok (.folder stamps entries)) :
    (∀ found, plan.findMatches tree root = .ok found ↔
      plan.Faultless tree (plan.folder root) entries ∧
        found = plan.matching tree (plan.folder root) entries) ∧
    (plan.matching tree (plan.folder root) entries).Nodup ∧
    (plan.matching tree (plan.folder root) entries).Sublist
      (entries.map fun entry => (plan.folder root).child entry.1) ∧
    (∀ path, path ∈ plan.matching tree (plan.folder root) entries ↔
      ∃ name node, (name, node) ∈ entries ∧ path = (root.join ⟨plan.source⟩).child name ∧
        name ≠ ".DS_Store" ∧ (plan.target = .files ∧ node.isFile = true ∨
          plan.target = .folders ∧ node.isFolder = true) ∧
        ∀ condition, plan.condition = some condition → condition.holdsAt tree path = .ok true) ∧
    ((∃ error, plan.findMatches tree root = .error error) ↔
      ∃ entry ∈ entries, plan.looksAt entry = true ∧
        ∃ error, plan.fulfils tree ((plan.folder root).child entry.1) = .error error) ∧
    ∀ error, plan.findMatches tree root = .error error ↔
      plan.FirstFault tree (plan.folder root) entries error := by
  have all := List.Subset.refl entries
  have clean : plan.Faultless tree (plan.folder root) entries →
      plan.matchesAmong tree (plan.folder root) entries =
        .ok (plan.matching tree (plan.folder root) entries) :=
    matchesAmong_of_faultless named isFolder all
  have told (error : ExecutionError) : plan.FirstFault tree (plan.folder root) entries error →
      plan.matchesAmong tree (plan.folder root) entries = .error error :=
    matchesAmong_of_firstFault named isFolder all
  have either : plan.Faultless tree (plan.folder root) entries ∨
      ∃ error, plan.FirstFault tree (plan.folder root) entries error := by
    rw [or_iff_not_imp_right, exists_firstFault_iff]
    intro none entry listed looks
    cases fulfils : plan.fulfils tree ((plan.folder root).child entry.1) with
    | ok holds => exact ⟨holds, rfl⟩
    | error error => exact absurd ⟨entry, listed, looks, error, fulfils⟩ none
  have errors (error : ExecutionError) : plan.findMatches tree root = .error error ↔
      plan.FirstFault tree (plan.folder root) entries error := by
    rw [findMatches_eq isFolder]
    refine ⟨fun fails => ?_, told error⟩
    rcases either with faultless | ⟨first, fault⟩
    · cases fails.symm.trans (clean faultless)
    · obtain rfl := Except.error.inj (fails.symm.trans (told first fault))
      exact fault
  refine ⟨fun found => ?_, nodup_matching named isFolder, List.filter_sublist.map _,
    fun path => mem_matching_iff, ?_, errors⟩
  · rw [findMatches_eq isFolder]
    constructor
    · intro finds
      rcases either with faultless | ⟨first, fault⟩
      · exact ⟨faultless, Except.ok.inj (finds.symm.trans (clean faultless))⟩
      · cases finds.symm.trans (told first fault)
    · rintro ⟨faultless, rfl⟩
      exact clean faultless
  · rw [← exists_firstFault_iff]
    exact exists_congr errors

end Plan

/-! ### A folder with entries of all kinds -/

namespace FileTree

/-- The entries of a folder: a file with the name that is ignored, two other files, a folder, and a
    link to a file. -/
def mixedEntries : List (String × Node) :=
  [(".DS_Store", .file (.ofInstant .epoch) false []), ("x", .file (.ofInstant .epoch) false []),
    ("y", .file (.ofInstant .epoch) false []), ("d", .folder (.ofInstant .epoch) []),
    ("l", .link "x")]

/-- A tree with a folder that has entries of all kinds. -/
def mixed : FileTree :=
  ⟨.folder (.ofInstant .epoch) [("a", .folder (.ofInstant .epoch) mixedEntries)], [], .epoch⟩

theorem named_mixed : mixed.Named := by
  have isName (name : String) (text : name ∈ ["a", ".DS_Store", "x", "y", "d", "l"]) :
      IsName name := by
    fin_cases text <;> constructor <;> decide
  refine named_iff_throughout.mpr (Node.throughout_folder ⟨?_, by decide⟩ ?_)
  · simp [isName "a" (by decide)]
  refine List.forall_mem_singleton.mpr (Node.throughout_folder ⟨?_, by decide⟩ ?_)
  · intro name listed
    exact isName name (List.mem_cons_of_mem _ listed)
  · intro entry listed
    fin_cases listed
    · exact Node.throughout_file _ _ _
    · exact Node.throughout_file _ _ _
    · exact Node.throughout_file _ _ _
    · exact Node.throughout_emptyFolder .epoch
    · exact Node.throughout_link trivial

/-- Paths to the folder and to the files in it lead there. -/
theorem find_mixed : mixed.find ⟨"/a"⟩ = .ok (.folder (.ofInstant .epoch) mixedEntries) ∧
    mixed.find ⟨"/a/x"⟩ = .ok (.file (.ofInstant .epoch) false []) ∧
    mixed.find ⟨"/a/y"⟩ = .ok (.file (.ofInstant .epoch) false []) := by
  simp [mixed, mixedEntries, find, locate, resolve, checkPath, pathLimit, names, Path.segments,
    descend, start, Path.isAbsolute, get?, Node.get?, nameLimit, Text.byteLength, Char.utf8Size,
    List.lookup_cons, Node.isFile, Except.map]

end FileTree

namespace Plan

/-- The plan that selects the files whose names come before `y`. -/
def early : Plan :=
  ⟨.files, "a", some (.binary .less (.literal "name") (.literal "y")), .select⟩

/-- What the condition says of both files. -/
theorem fulfils_early : early.fulfils .mixed ⟨"/a/x"⟩ = .ok true ∧
    early.fulfils .mixed ⟨"/a/y"⟩ = .ok false := by
  obtain ⟨-, findsX, findsY⟩ := FileTree.find_mixed
  constructor
  · simp only [fulfils, early, Condition.holdsAt, Attributes.read, findsX]
    rfl
  · simp only [fulfils, early, Condition.holdsAt, Attributes.read, findsY]
    rfl

/-- The condition has no error for any entry of the folder. -/
theorem faultless_early : early.Faultless .mixed ⟨"/a"⟩ FileTree.mixedEntries := by
  intro entry listed looks
  fin_cases listed
  · cases looks
  · exact ⟨_, fulfils_early.1⟩
  · exact ⟨_, fulfils_early.2⟩
  · cases looks
  · cases looks

/-- The file that comes before `y` is the only match. -/
theorem matching_early : early.matching .mixed ⟨"/a"⟩ FileTree.mixedEntries = [⟨"/a/x"⟩] := by
  obtain ⟨x, y⟩ := fulfils_early
  have x' : (Path.mk "/a").child "x" = ⟨"/a/x"⟩ := rfl
  have y' : (Path.mk "/a").child "y" = ⟨"/a/y"⟩ := rfl
  have files : early.target = .files := rfl
  simp [matching, FileTree.mixedEntries, matchesEntry, looksAt, ignoredName, x', y', x, y,
    Except.toOption, files, Target.accepts, Node.isFile]

/-- Of the entries of all kinds the only match is the file whose name is not ignored and comes
    before `y`. -/
theorem findMatches_mixed : FileTree.mixed.Named ∧
    FileTree.mixed.find (early.folder ⟨"/"⟩) =
      .ok (.folder (.ofInstant .epoch) FileTree.mixedEntries) ∧
    early.findMatches .mixed ⟨"/"⟩ = .ok [⟨"/a/x"⟩] := by
  have named := FileTree.named_mixed
  have isFolder : FileTree.mixed.find (early.folder ⟨"/"⟩) =
      .ok (.folder (.ofInstant .epoch) FileTree.mixedEntries) := FileTree.find_mixed.1
  exact ⟨named, isFolder, ((findMatches_comprehends named isFolder).1 _).mpr
    ⟨faultless_early, matching_early.symm⟩⟩

end Plan

end FileQuery
