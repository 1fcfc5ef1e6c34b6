import FileQuery.Proofs.Execution.Vanishing
import FileQuery.Proofs.Transfer.Copying

/-!
# Vanished matches are contained

Matches can vanish between the listing and the action. An action that goes on without them comes to
what it would have come to for the others alone, and tells of each vanished match. This takes that
they are still missing when their turn comes: a copy can be written through a link, or an archive
can hold an entry, that brings one back. What is told of the others is told as well, and a match that
is there can fail like one that is missing, for a link in it that leads to nothing.
-/

namespace FileQuery

variable {tree after : FileTree} {root base path : Path} {found vanished : List Path}
  {final : Report}

namespace Plan

variable {plan : Plan} {converter : Converter}

/-- Whether a plan passes over a match for its path alone: the match is skipped, or it would be put
    into itself. -/
def passesOver (plan : Plan) (root path : Path) : Bool :=
  match plan.action with
  | .move destination | .copy destination => (root.join ⟨destination⟩).startsWith path
  | .select | .delete | .archive _ | .unarchive _ | .convert _ => plan.skips root path

/-- The vanished ones of some matches are still missing when their turn comes. An archive is packed
    when it has been opened; other matches are treated one after another, once the folder that they
    are put into is made. -/
def StayAway (plan : Plan) (root : Path) (found vanished : List Path) (tree : FileTree) : Prop :=
  match plan.action with
  | .select | .convert _ => False
  | .delete => (Removal.each plan.target).Misses FileTree.Lacks vanished found tree
  | .move destination =>
    (Transfer.into (root.join ⟨destination⟩) Transfer.moveEntry).Misses
      (Transfer.MissingFor (root.join ⟨destination⟩)) vanished found
      (FileTree.makeFolders (root.join ⟨destination⟩) tree).2
  | .copy destination =>
    (Transfer.into (root.join ⟨destination⟩) Transfer.copyEntry).Misses FileTree.Lacks vanished
      found (FileTree.makeFolders (root.join ⟨destination⟩) tree).2
  | .archive destination =>
    ∀ path ∈ vanished, (Packing.opened (root.join ⟨destination⟩) tree).Lacks path
  | .unarchive destination =>
    (Packing.into (root.join ⟨destination⟩)).Misses FileTree.Lacks vanished found
      (FileTree.makeFolders (root.join ⟨destination⟩) tree).2

/-- What moving asks for: the ways to both folders pass by what is moved, and the new paths of the
    missing matches can be followed. Other actions ask for nothing. -/
def KeepsWays (plan : Plan) (root base : Path) (found vanished : List Path) (tree : FileTree) :
    Prop :=
  ∀ destination, plan.action = .move destination →
    (FileTree.makeFolders (root.join ⟨destination⟩) tree).2.PassesBy base
        (root.join ⟨destination⟩)
        (found.filter fun path => path ∉ vanished && !plan.passesOver root path) ∧
      ∀ name, base.child name ∈ vanished →
        FileTree.namingFault ((root.join ⟨destination⟩).child name) name = none

/-- Vanished matches stay away from an action that removes. From another one they stay away if it
    leaves none of them in the end, and if the ways that moving takes are kept. -/
theorem stayAway_of_done
    (acts : plan.action.operation ∈ [.delete, .move, .copy, .archive, .unarchive])
    (entries : ∀ path ∈ found, path.IsEntryOf base)
    (missing : ∀ path ∈ vanished, tree.Lacks path)
    (some_left : ∃ path ∈ found, path ∉ vanished ∧ plan.passesOver root path = false)
    (done : plan.perform root converter (found.filter (· ∉ vanished)) tree = (.ok final, after))
    (missing' : plan.action = .delete ∨ ∀ path ∈ vanished, after.Lacks path)
    (ways : plan.KeepsWays root base found vanished tree) :
    plan.StayAway root found vanished tree := by
  unfold perform at done
  unfold KeepsWays at ways
  unfold passesOver at some_left ways
  unfold StayAway
  obtain ⟨left, member, stays, treated⟩ := some_left
  have nonempty : found.filter (· ∉ vanished) ≠ [] :=
    List.ne_nil_of_mem (List.mem_filter.mpr ⟨member, by simpa using stays⟩)
  cases action : plan.action with
  | select | convert => simp [action, Action.operation] at acts
  | delete =>
    rw [action] at done
    exact Removal.misses_each plan.target missing done
  | move destination =>
    rw [action] at done ways missing'
    obtain ⟨passes, follows⟩ := ways destination rfl
    exact Transfer.misses_move entries passes follows (missing'.resolve_left (by simp))
      (Transfer.all_of_run .move _ nonempty done)
  | copy destination =>
    rw [action] at done missing'
    refine Treatment.misses_of_keeps (fun path member _ changes treats stage => ?_)
      (missing'.resolve_left (by simp)) (Transfer.all_of_run .copy _ nonempty done)
    obtain ⟨name, isName, rfl⟩ := entries path member
    rw [Transfer.into_child _ base isName] at treats
    split at treats
    · contradiction
    · obtain rfl := Option.some.inj treats
      exact Transfer.keeps_copyEntry _ _
  | archive destination =>
    unfold skips at treated
    rw [action] at done treated missing'
    exact fun path listed => Packing.lacks_opened (missing'.resolve_left (by simp) path listed)
      ⟨left, member, stays, treated⟩ done
  | unarchive destination =>
    unfold skips at treated
    rw [action] at done treated missing'
    have any : (found.filter (· ∉ vanished)).any Packing.isArchive = true :=
      List.any_eq_true.mpr
        ⟨left, List.mem_filter.mpr ⟨member, by simpa using stays⟩, by simpa using treated⟩
    obtain ⟨start, made, all⟩ := Packing.all_of_unarchive any done
    dsimp only
    rw [made]
    refine Treatment.misses_of_keeps (fun path _ _ changes treats stage => ?_)
      (missing'.resolve_left (by simp)) all
    unfold Packing.into at treats
    split at treats
    · obtain rfl := Option.some.inj treats
      exact (Archive.keeps_extract _ _).mapError _
    · contradiction

/-- Where vanished matches stay away, the action for the others alone and the action for all come to
    the same. -/
theorem perform_of_stayAway
    (entries : ∀ path ∈ found, path.IsEntryOf base)
    (treated : ∀ path ∈ vanished, plan.passesOver root path = false)
    (some_left : ∃ path ∈ found, path ∉ vanished ∧ plan.passesOver root path = false)
    (done : plan.perform root converter (found.filter (· ∉ vanished)) tree = (.ok final, after))
    (away : plan.StayAway root found vanished tree) :
    ∃ final', plan.perform root converter found tree = (.ok final', after) ∧
      final.Besides ((found.filter (· ∈ vanished)).map (.ofMissing root)) final' := by
  unfold perform at done ⊢
  unfold passesOver at treated some_left
  unfold StayAway at away
  cases action : plan.action with
  | select | convert =>
    rw [action] at away
    exact away.elim
  | delete =>
    rw [action] at done away
    exact away.all (fun path _ _ => Removal.each_missing plan.target path) done
      (Report.besides_start .delete none root _ found)
  | move destination =>
    rw [action] at done treated some_left away
    obtain ⟨path, member, stays, -⟩ := some_left
    exact Transfer.run_missing .move Transfer.moveEntry ⟨path, member, stays⟩ away
      (fun path member listed =>
        Transfer.into_moveEntry_missing (entries path member) (treated path listed)) done
  | copy destination =>
    rw [action] at done treated some_left away
    obtain ⟨path, member, stays, -⟩ := some_left
    exact Transfer.run_missing .copy Transfer.copyEntry ⟨path, member, stays⟩ away
      (fun path member listed =>
        Transfer.into_copyEntry_missing (entries path member) (treated path listed)) done
  | archive destination =>
    unfold skips at treated some_left
    rw [action] at done treated some_left away
    exact Packing.archive_missing treated some_left away done
  | unarchive destination =>
    unfold skips at treated some_left
    rw [action] at done treated some_left away
    refine Packing.unarchive_missing (fun path listed => ?_) ?_ away done
    · simpa using treated path listed
    · simpa using some_left

/-- Matches vanish after they were found and before the action begins, and the action for the others
    alone is completed. Where the vanished ones are still missing when their turn comes, the action
    for all matches is completed: it leaves the same tree, processes as many and skips the same. It
    lists the failures of the vanished matches, once each and in their order, besides those that
    there were without them, so it lists those alone just if there were none without them. They
    are missing in their turn if the action removes, or if it leaves none of them in the end and
    the ways that moving takes are kept. -/
theorem contains_vanished
    (acts : plan.action.operation ∈ [.delete, .move, .copy, .archive, .unarchive])
    (entries : ∀ path ∈ found, path.IsEntryOf base)
    (missing : ∀ path ∈ vanished, tree.Lacks path)
    (treated : ∀ path ∈ vanished, plan.passesOver root path = false)
    (some_left : ∃ path ∈ found, path ∉ vanished ∧ plan.passesOver root path = false)
    (done : plan.perform root converter (found.filter (· ∉ vanished)) tree = (.ok final, after)) :
    let lost := (found.filter (· ∈ vanished)).map (PathFailure.ofMissing root)
    (plan.StayAway root found vanished tree →
      ∃ final', plan.perform root converter found tree = (.ok final', after) ∧
        final'.processed = final.processed ∧ final'.skipped = final.skipped ∧
        final'.failures.Perm (final.failures ++ lost) ∧
        final.failures.Sublist final'.failures ∧ lost.Sublist final'.failures ∧
        (final'.failures = lost ↔ final.failures = [])) ∧
    ((plan.action = .delete ∨ ∀ path ∈ vanished, after.Lacks path) →
      plan.KeepsWays root base found vanished tree → plan.StayAway root found vanished tree) := by
  refine ⟨fun away => ?_, fun missing' ways =>
    stayAway_of_done acts entries missing some_left done missing' ways⟩
  obtain ⟨final', done', besides⟩ := perform_of_stayAway entries treated some_left done away
  exact ⟨final', done', besides.processed, besides.skipped, besides.failures, besides.own,
    besides.further, besides.failures_eq_iff⟩

/-- Of two matches that are to be removed one has vanished. The other one is removed. -/
theorem contains_vanished_oneFile : ∃ final after,
    (Plan.ofOneFile .delete).perform ⟨"/"⟩ .none [⟨"/a/x"⟩, ⟨"/a/y"⟩] (.oneFile [104, 105]) =
      (.ok final, after) ∧ final.processed = 1 ∧ final.failures =
        [⟨⟨"a/y"⟩, "IO error at /a/y: No such file or directory (os error 2)"⟩] := by
  have isName (name : String) (text : name = "x" ∨ name = "y") : IsName name := by
    rcases text with rfl | rfl <;> constructor <;> decide
  have entries : ∀ path ∈ [(⟨"/a/x"⟩ : Path), ⟨"/a/y"⟩], path.IsEntryOf ⟨"/a"⟩ :=
    List.forall_mem_cons.mpr ⟨⟨"x", isName _ (.inl rfl), rfl⟩,
      List.forall_mem_singleton.mpr ⟨"y", isName _ (.inr rfl), rfl⟩⟩
  have lacks : (FileTree.oneFile [104, 105]).Lacks ⟨"/a/y"⟩ := by
    have nothing : (FileTree.oneFile [104, 105]).resolve .keep ⟨"/a/y"⟩ =
        .ok ⟨["a", "y"], none, false⟩ := by
      simp [FileTree.oneFile, FileTree.resolve, FileTree.checkPath, FileTree.pathLimit,
        FileTree.names, Path.segments, FileTree.descend, FileTree.start, Path.isAbsolute,
        FileTree.get?, Node.get?, FileTree.nameLimit, Text.byteLength, Char.utf8Size,
        List.lookup_cons]
    rw [FileTree.Lacks, FileTree.findLink, FileTree.locate, nothing]
    rfl
  have done : ∃ final after,
      (Plan.ofOneFile .delete).perform ⟨"/"⟩ .none [⟨"/a/x"⟩] (.oneFile [104, 105]) =
        (.ok final, after) ∧ final.processed = 1 ∧ final.failures = [] := by
    obtain ⟨-, -, found, -⟩ := FileTree.resolve_oneFile [104, 105] .keep
    have removed : ∃ after, (FileTree.oneFile [104, 105]).removeFile ⟨"/a/x"⟩ = .ok after := by
      rw [FileTree.removeFile, FileTree.locate, found]
      exact ⟨_, rfl⟩
    obtain ⟨after, removes⟩ := removed
    have each : Removal.each .files ⟨"/a/x"⟩ =
        some ((Changes.ofChange fun tree => tree.removeFile ⟨"/a/x"⟩).at ⟨"/a/x"⟩) := rfl
    change ∃ final after', (Removal.each .files).all ⟨"/"⟩ [⟨"/a/x"⟩]
      (.start .delete none ⟨"/"⟩ [⟨"/a/x"⟩]) (.oneFile [104, 105]) = (.ok final, after') ∧ _
    rw [Treatment.all, each]
    dsimp only
    rw [Changes.at, Changes.mapError, Changes.ofChange, removes]
    exact ⟨_, _, rfl, rfl, rfl⟩
  obtain ⟨final, after, performs, one, none⟩ := done
  have missing : ∀ path ∈ [(⟨"/a/y"⟩ : Path)], (FileTree.oneFile [104, 105]).Lacks path :=
    List.forall_mem_singleton.mpr lacks
  obtain ⟨contained, stays⟩ := contains_vanished (by decide) entries missing
    (List.forall_mem_singleton.mpr rfl) ⟨_, List.mem_cons_self, by decide, rfl⟩ performs
  obtain ⟨final', performs', counted, -, -, -, -, alone⟩ := contained (stays (.inl rfl) (by rintro _ ⟨⟩))
  exact ⟨final', after, performs', counted.trans one, alone.mpr none⟩

end Plan

/-! ### A tree whose links lead to nothing -/

namespace FileTree

/-- A tree with a file and a folder in a folder, and with another folder. Its links lead to
    nothing. -/
def crossed : FileTree :=
  ⟨.folder (.ofInstant .epoch)
    [("a", .folder (.ofInstant .epoch)
      [("d", .folder (.ofInstant .epoch) [("l", .link "none")]),
        ("x", .file (.ofInstant .epoch) false [0])]),
      ("b", .folder (.ofInstant .epoch) [("x", .link "../a/y")])], [], .epoch⟩

/-- The tree with the file written through the link of the other folder. -/
def crossedBack : FileTree :=
  ⟨.folder (.ofInstant .epoch)
    [("a", .folder (.ofInstant .epoch)
      [("d", .folder (.ofInstant .epoch) [("l", .link "none")]),
        ("x", .file (.ofInstant .epoch) false [0]), ("y", .file (.ofInstant .epoch) false [0])]),
      ("b", .folder (.ofInstant .epoch) [("x", .link "../a/y")])], [], .epoch⟩

theorem resolve_crossed (last : LastLink) :
    crossed.resolve last ⟨"/b"⟩ = .ok ⟨["b"], crossed.get? ["b"], false⟩ ∧
    crossed.resolve last ⟨"/a/x"⟩ = .ok ⟨["a", "x"], crossed.get? ["a", "x"], false⟩ ∧
    crossed.resolve last ⟨"/a/d"⟩ = .ok ⟨["a", "d"], crossed.get? ["a", "d"], false⟩ ∧
    crossed.resolve last ⟨"/a/y"⟩ = .ok ⟨["a", "y"], none, false⟩ ∧
    crossed.resolve last ⟨"/b/d/"⟩ = .ok ⟨["b", "d"], none, true⟩ ∧
    crossed.resolve .follow ⟨"/b/x"⟩ = .ok ⟨["a", "y"], none, false⟩ := by
  simp [crossed, resolve, checkPath, pathLimit, names, Path.segments, descend, start,
    Path.isAbsolute, get?, Node.get?, nameLimit, Text.byteLength, Char.utf8Size, List.lookup_cons,
    linkLimit]

theorem resolve_crossedBack (last : LastLink) :
    crossedBack.resolve last ⟨"/a/y"⟩ = .ok ⟨["a", "y"], crossedBack.get? ["a", "y"], false⟩ ∧
    crossedBack.resolve last ⟨"/b/y"⟩ = .ok ⟨["b", "y"], none, false⟩ := by
  simp [crossedBack, resolve, checkPath, pathLimit, names, Path.segments, descend, start,
    Path.isAbsolute, get?, Node.get?, nameLimit, Text.byteLength, Char.utf8Size, List.lookup_cons,
    linkLimit]

/-- With the folder copied so far, its link leads to nothing still. -/
theorem resolve_crossed_copied :
    (crossed.insert ["b", "d"] (.emptyFolder .epoch)).resolve .follow ⟨"/a/d"⟩ =
      .ok ⟨["a", "d"], crossed.get? ["a", "d"], false⟩ ∧
    (crossed.insert ["b", "d"] (.emptyFolder .epoch)).resolve .follow ⟨"/a/d/l"⟩ =
      .ok ⟨["a", "d", "none"], none, false⟩ := by
  have shape : crossed.insert ["b", "d"] (.emptyFolder .epoch) =
      ⟨.folder (.ofInstant .epoch)
        [("a", .folder (.ofInstant .epoch)
          [("d", .folder (.ofInstant .epoch) [("l", .link "none")]),
            ("x", .file (.ofInstant .epoch) false [0])]),
          ("b", .folder (.ofInstant .epoch)
            [("x", .link "../a/y"), ("d", .emptyFolder .epoch)])], [], .epoch⟩ := rfl
  rw [shape]
  simp [crossed, resolve, checkPath, pathLimit, names, Path.segments, descend, start,
    Path.isAbsolute, get?, Node.get?, nameLimit, Text.byteLength, Char.utf8Size, List.lookup_cons,
    linkLimit]

theorem makeFolders_crossed : makeFolders ⟨"/b"⟩ crossed = (.ok (), crossed) := by
  obtain ⟨made, -⟩ := resolve_crossed .keep
  obtain ⟨found, -⟩ := resolve_crossed .follow
  have alreadyExists : crossed.makeFolder ⟨"/b"⟩ = .error .alreadyExists := by
    rw [makeFolder, made]
    rfl
  have folder : crossed.isFolder ⟨"/b"⟩ = true := by
    rw [isFolder, find, locate, found]
    rfl
  rw [makeFolders, makeMissing]
  dsimp only
  rw [if_neg (by decide), alreadyExists]
  dsimp only
  rw [unlessFolder, folder]
  rfl

/-- The file is copied to where the link leads. -/
theorem copyEntry_crossed :
    Transfer.copyEntry ⟨"/a/x"⟩ ⟨"/b/x"⟩ crossed = (.ok (), crossedBack) := by
  obtain ⟨-, kept, -⟩ := resolve_crossed .keep
  obtain ⟨-, source, -, -, -, target⟩ := resolve_crossed .follow
  have copied : crossed.copyFile ⟨"/a/x"⟩ ⟨"/b/x"⟩ = .ok crossedBack := by
    rw [copyFile, locate, source, truncate, target]
    rfl
  rw [Transfer.copyEntry, findLink, locate, kept]
  change Transfer.copyFile ⟨"/a/x"⟩ ⟨"/b/x"⟩ crossed = (.ok (), crossedBack)
  rw [Transfer.copyFile, Changes.at, Changes.mapError, Changes.ofChange, copied]

/-- What was written there is copied as well. -/
theorem copyEntry_crossedBack :
    ∃ copied, Transfer.copyEntry ⟨"/a/y"⟩ ⟨"/b/y"⟩ crossedBack = (.ok (), copied) := by
  obtain ⟨kept, -⟩ := resolve_crossedBack .keep
  obtain ⟨source, target⟩ := resolve_crossedBack .follow
  have copied : ∃ copied, crossedBack.copyFile ⟨"/a/y"⟩ ⟨"/b/y"⟩ = .ok copied := by
    rw [copyFile, locate, source, truncate, target]
    exact ⟨_, rfl⟩
  obtain ⟨copied, copies⟩ := copied
  refine ⟨copied, ?_⟩
  rw [Transfer.copyEntry, findLink, locate, kept]
  change Transfer.copyFile ⟨"/a/y"⟩ ⟨"/b/y"⟩ crossedBack = (.ok (), copied)
  rw [Transfer.copyFile, Changes.at, Changes.mapError, Changes.ofChange, copies]

/-- The folder is copied as far as the link in it. -/
theorem copyEntry_crossed_folder :
    Transfer.copyEntry ⟨"/a/d"⟩ ⟨"/b/d"⟩ crossed =
      (.error (.file ⟨"/a/d/l"⟩ .notFound), crossed.insert ["b", "d"] (.emptyFolder .epoch)) := by
  obtain ⟨-, -, kept, -, made, -⟩ := resolve_crossed .keep
  obtain ⟨-, -, found, -, -, -⟩ := resolve_crossed .follow
  obtain ⟨foundAgain, linked⟩ := resolve_crossed_copied
  have limit : pathLimit = 4095 + 1 := rfl
  have lists : crossed.list ⟨"/a/d"⟩ = .ok [("l", .link "none")] := by
    rw [list, find, locate, found]
    rfl
  have makes : makeFolders ⟨"/b/d/"⟩ crossed =
      (.ok (), crossed.insert ["b", "d"] (.emptyFolder .epoch)) := by
    rw [makeFolders, makeMissing]
    dsimp only
    rw [if_neg (by decide), makeFolder, made]
    rfl
  have listsAgain : (crossed.insert ["b", "d"] (.emptyFolder .epoch)).list ⟨"/a/d"⟩ =
      .ok [("l", .link "none")] := by
    rw [list, find, locate, foundAgain]
    rfl
  have fails : Transfer.copyFile ⟨"/a/d/l"⟩ ⟨"/b/d/l"⟩
      (crossed.insert ["b", "d"] (.emptyFolder .epoch)) =
        (.error (.file ⟨"/a/d/l"⟩ .notFound),
          crossed.insert ["b", "d"] (.emptyFolder .epoch)) := by
    refine Changes.at_eq_missing ?_ _
    rw [copyFile, locate, linked]
  rw [Transfer.copyEntry, findLink, locate, kept]
  change Transfer.copyTree pathLimit ⟨"/a/d"⟩ ⟨"/b/d/"⟩ crossed = _
  have looks (tree : FileTree) (entries : List (String × Node))
      (lists : tree.list ⟨"/a/d"⟩ = .ok entries) :
      (Changes.look fun tree : FileTree => tree.list ⟨"/a/d"⟩).at ⟨"/a/d"⟩ tree =
        (.ok entries, tree) := by
    rw [Changes.at, Changes.mapError, Changes.look, lists]
  have makes' : (makeFolders ⟨"/b/d/"⟩).at ⟨"/b/d/"⟩ crossed =
      (.ok (), crossed.insert ["b", "d"] (.emptyFolder .epoch)) := by
    rw [Changes.at, Changes.mapError, makes]
  rw [limit, Transfer.copyTree, Changes.bind_apply, looks _ _ lists]
  dsimp only
  rw [Changes.bind_apply, makes']
  dsimp only
  rw [Changes.bind_apply, looks _ _ listsAgain]
  dsimp only
  rw [Changes.forM_cons_apply]
  have goes : (Path.mk "/a/d").child "l" = ⟨"/a/d/l"⟩ ∧ (Path.mk "/b/d/").child "l" = ⟨"/b/d/l"⟩ :=
    ⟨rfl, rfl⟩
  have noFolder : ¬ (Node.link "none").isFolder = true := by decide
  rw [goes.1, goes.2, if_neg noFolder, fails]

end FileTree

namespace Plan

/-- What would be so if nothing but vanished matches failed, and none of them came back: the action
    for all matches comes to the same as that for the others, and lists the failures of the vanished
    ones and no others. -/
def Contains (plan : Plan) (root base : Path) (found vanished : List Path) (tree : FileTree) :
    Prop :=
  plan.action.operation ∈ [.delete, .move, .copy, .archive, .unarchive] → found.Nodup →
  (∀ path ∈ found, path.IsEntryOf base) → vanished ⊆ found →
  (∀ path ∈ vanished, tree.Lacks path) →
  (∀ path ∈ vanished, plan.passesOver root path = false) →
  (∃ path ∈ found, path ∉ vanished ∧ plan.passesOver root path = false) →
  ∀ converter final after,
    plan.perform root converter (found.filter (· ∉ vanished)) tree = (.ok final, after) →
    ∃ final', plan.perform root converter found tree = (.ok final', after) ∧
      final'.processed = final.processed ∧ final'.skipped = final.skipped ∧
      final'.failures = (found.filter (· ∈ vanished)).map (.ofMissing root)

/-- The plan to copy to the folder with the link. -/
def copyCrossed (target : Target) : Plan := ⟨target, "a", none, .copy "b"⟩

theorem perform_copyCrossed (target : Target) {found : List Path} (nonempty : found ≠ []) :
    (copyCrossed target).perform ⟨"/"⟩ .none found .crossed =
      (Transfer.into ⟨"/b"⟩ Transfer.copyEntry).all ⟨"/"⟩ found
        (.start .copy (some "b") ⟨"/"⟩ found) .crossed := by
  change Transfer.run .copy Transfer.copyEntry ⟨"/"⟩ "b" found .crossed = _
  rw [Transfer.run_eq _ _ _ _ nonempty]
  have folder : (Path.mk "/").join ⟨"b"⟩ = ⟨"/b"⟩ := rfl
  rw [folder, FileTree.makeFolders_crossed]

theorem into_crossed : Transfer.into ⟨"/b"⟩ Transfer.copyEntry ⟨"/a/d"⟩ =
      some (Transfer.copyEntry ⟨"/a/d"⟩ ⟨"/b/d"⟩) ∧
    Transfer.into ⟨"/b"⟩ Transfer.copyEntry ⟨"/a/x"⟩ =
      some (Transfer.copyEntry ⟨"/a/x"⟩ ⟨"/b/x"⟩) ∧
    Transfer.into ⟨"/b"⟩ Transfer.copyEntry ⟨"/a/y"⟩ =
      some (Transfer.copyEntry ⟨"/a/y"⟩ ⟨"/b/y"⟩) := ⟨rfl, rfl, rfl⟩

/-- Where no match has vanished, a folder fails for the link in it. And a vanished match is back,
    and is copied, if another one was copied through a link that leads to where it was. -/
theorem not_contains_crossed :
    ¬ (copyCrossed .folders).Contains ⟨"/"⟩ ⟨"/a"⟩ [⟨"/a/d"⟩] [] .crossed ∧
    ¬ (copyCrossed .files).Contains ⟨"/"⟩ ⟨"/a"⟩ [⟨"/a/x"⟩, ⟨"/a/y"⟩] [⟨"/a/y"⟩] .crossed := by
  have isName (name : String) (text : name = "d" ∨ name = "x" ∨ name = "y") : IsName name := by
    rcases text with rfl | rfl | rfl <;> constructor <;> decide
  obtain ⟨intoFolder, intoFile, intoBack⟩ := into_crossed
  constructor
  · intro contains
    have done : ∃ final after, (copyCrossed .folders).perform ⟨"/"⟩ .none [⟨"/a/d"⟩] .crossed =
        (.ok final, after) ∧ final.failures ≠ [] := by
      rw [perform_copyCrossed _ (by decide), Treatment.all, intoFolder]
      dsimp only
      rw [FileTree.copyEntry_crossed_folder]
      exact ⟨_, _, rfl, by decide⟩
    obtain ⟨final, after, performs, fails⟩ := done
    obtain ⟨final', performs', -, -, none⟩ := contains (by decide) (by decide)
      (List.forall_mem_singleton.mpr ⟨"d", isName _ (.inl rfl), rfl⟩) (by simp) (by simp)
      (by simp) ⟨_, List.mem_singleton_self _, by simp, rfl⟩ .none final after performs
    obtain rfl := Except.ok.inj (Prod.mk.inj (performs.symm.trans performs')).1
    exact fails none
  · intro contains
    have lacks : FileTree.crossed.Lacks ⟨"/a/y"⟩ := by
      obtain ⟨-, -, -, nothing, -⟩ := FileTree.resolve_crossed .keep
      rw [FileTree.Lacks, FileTree.findLink, FileTree.locate, nothing]
      rfl
    have performs : ∃ final after,
        (copyCrossed .files).perform ⟨"/"⟩ .none [⟨"/a/x"⟩] .crossed = (.ok final, after) ∧
        final.processed = 1 := by
      rw [perform_copyCrossed _ (by decide), Treatment.all, intoFile]
      dsimp only
      rw [FileTree.copyEntry_crossed]
      exact ⟨_, _, rfl, rfl⟩
    have performsAll : ∃ final after,
        (copyCrossed .files).perform ⟨"/"⟩ .none [⟨"/a/x"⟩, ⟨"/a/y"⟩] .crossed =
          (.ok final, after) ∧ final.processed = 2 := by
      obtain ⟨copied, copies⟩ := FileTree.copyEntry_crossedBack
      rw [perform_copyCrossed _ (by decide), Treatment.all, intoFile]
      dsimp only
      rw [FileTree.copyEntry_crossed]
      dsimp only [Report.record]
      rw [Treatment.all, intoBack]
      dsimp only
      rw [copies]
      exact ⟨_, _, rfl, rfl⟩
    obtain ⟨final, after, performs, one⟩ := performs
    obtain ⟨final'', after', performsAll, two⟩ := performsAll
    have entries : ∀ path ∈ [(⟨"/a/x"⟩ : Path), ⟨"/a/y"⟩], path.IsEntryOf ⟨"/a"⟩ :=
      List.forall_mem_cons.mpr ⟨⟨"x", isName _ (.inr (.inl rfl)), rfl⟩,
        List.forall_mem_singleton.mpr ⟨"y", isName _ (.inr (.inr rfl)), rfl⟩⟩
    obtain ⟨final', performs', counted, -⟩ := contains (by decide) (by decide) entries
      (by decide) (List.forall_mem_singleton.mpr lacks) (List.forall_mem_singleton.mpr rfl)
      ⟨_, List.mem_cons_self, by decide, rfl⟩ .none final after performs
    obtain rfl := Except.ok.inj (Prod.mk.inj (performsAll.symm.trans performs')).1
    omega

end Plan

end FileQuery
