import FileQuery.Proofs.Archive.Collecting
import FileQuery.Proofs.Archive.RoundTrip
import FileQuery.Proofs.Transfer.Destinations
import Mathlib.Data.List.Perm.Basic

/-!
# The contents of an archive

In a tree without links, an archive that was written to the end holds the matches with all that is
below them, and only the archive itself is left out, wherever it lies. The archive is opened before
the matches are walked through, and by then the folders that it is in have been made: what is packed
is what is there when the statement has come to its end.
-/

namespace FileQuery

variable {tree before begun after : FileTree} {root directory archive : Path}
  {source goal place : Place} {names : List String} {name destination : String}
  {bytes : List UInt8} {parcels : List Parcel}

/-- The name of a member tells of which place it is. -/
theorem Parcel.place_of_name {first second : Parcel} (some_names : first.1 ≠ [])
    (some_names' : second.1 ≠ []) (areNames : ∀ name ∈ first.1, IsName name)
    (areNames' : ∀ name ∈ second.1, IsName name) (same : first.member.name = second.member.name) :
    first.1 = second.1 := by
  have parts := congrArg (fun name => (Path.mk name).components) same
  rw [components_member some_names areNames, components_member some_names' areNames'] at parts
  exact (List.map_injective_iff.mpr fun _ _ => Component.name.inj) parts

/-- Parcels at different places are members with different names. -/
theorem Parcel.nodup_names (named : ∀ parcel ∈ parcels, parcel.1 ≠ [] ∧ ∀ name ∈ parcel.1,
      IsName name) (distinct : (parcels.map (·.1)).Nodup) :
    (parcels.map (·.member.name)).Nodup := by
  refine distinct.of_map.map_on fun first listed second listed' same => ?_
  obtain ⟨some_names, areNames⟩ := named first listed
  obtain ⟨some_names', areNames'⟩ := named second listed'
  exact List.inj_on_of_nodup_map distinct listed listed'
    (place_of_name some_names some_names' areNames areNames' same)

namespace FileTree

/-- Parcels are what selected entries of a folder are packed to with all that is below them, but for
    the file at a place: one for each other place, under a name of its own, and each in a folder
    that is packed before. -/
structure Packs (tree : FileTree) (source : Place) (names : List String) (goal : Place)
    (parcels : List Parcel) : Prop where
  each : ∀ place content, (place, content) ∈ parcels ↔
    ∃ name rest node, place = name :: rest ∧ name ∈ names ∧ source ++ name :: rest ≠ goal ∧
      tree.get? (source ++ name :: rest) = some node ∧ node.content? = content
  once : (parcels.map (·.member.name)).Nodup
  follow : Parcel.Follow [([], none)] parcels

variable {held : List UInt8}

theorem Filled.trans (first : before.Filled goal held begun)
    (second : begun.Filled goal bytes after) : before.Filled goal bytes after where
  plain := second.plain
  keeps := first.keeps.trans second.keeps
  content := second.content
  elsewhere other notAbove :=
    (second.elsewhere other notAbove).trans (first.elsewhere other notAbove)

/-- A file was written where folders were made for it. -/
theorem Furnished.filled {above : Place} (furnished : before.Furnished above begun)
    (filled : begun.Filled goal bytes after) (starts : above <+: goal) :
    before.Filled goal bytes after where
  plain := filled.plain
  keeps := furnished.keeps.trans filled.keeps
  content := filled.content
  elsewhere other notAbove := (filled.elsewhere other notAbove).trans
    (furnished.elsewhere other fun within => notAbove (within.trans starts))

/-- Where a file was written, names have what the names had before, if those on the way to the file
    have it. -/
theorem Filled.forall_names (filled : before.Filled goal bytes after) {holds : String → Prop}
    (names : ∀ place node, before.get? place = some node → ∀ name ∈ place, holds name)
    (onTheWay : ∀ name ∈ goal, holds name) :
    ∀ place node, after.get? place = some node → ∀ name ∈ place, holds name := by
  intro place node found name among
  by_cases above : place <+: goal
  · exact onTheWay name (above.subset among)
  · exact names place node ((filled.elsewhere place above).symm.trans found) name among

/-- What is written to a file that is there shows in no other file. -/
theorem Filled.map_content? (filled : begun.Filled goal bytes after)
    (opened : begun.content? goal = some held) (differs : place ≠ goal) :
    (after.get? place).map Node.content? = (begun.get? place).map Node.content? := by
  by_cases above : place <+: goal
  · obtain ⟨below, rfl⟩ := above
    have deeper : below ≠ [] := by simpa using differs
    obtain ⟨_, _, found⟩ := get?_of_content? opened
    obtain ⟨_, _, found'⟩ := get?_of_content? filled.content
    obtain ⟨_, _, isFolder⟩ := exists_folder_above found deeper
    obtain ⟨_, _, isFolder'⟩ := exists_folder_above found' deeper
    rw [isFolder, isFolder']
    rfl
  · rw [filled.elsewhere place above]

section

variable (plain : begun.Plain) (distinct : names.Nodup)
  (itself : ∀ place, (∀ name ∈ place, IsName name) →
    ((directory.down place).same archive = true ↔ source ++ place = goal))

include plain distinct itself

/-- The parcels of the matches are what is there when the archive is written, as it has been opened
    before. -/
theorem Filled.packs (filled : begun.Filled goal bytes after)
    (opened : begun.content? goal = some held) :
    after.Packs source names goal (begun.parcels archive directory source names) := by
  have areNames {rest : Place} {name : String} {node : Node}
      (found : begun.get? (source ++ name :: rest) = some node) :
      ∀ next ∈ name :: rest, IsName next := fun next among =>
    plain.areNames found next (List.mem_append_right _ among)
  have apart {rest : Place} {name : String} {node : Node}
      (found : begun.get? (source ++ name :: rest) = some node) :
      (directory.down (name :: rest)).same archive = false ↔ source ++ name :: rest ≠ goal := by
    rw [← Bool.not_eq_true, itself _ (areNames found)]
  have each (place : Place) (content : Option (List UInt8)) :
      (place, content) ∈ begun.parcels archive directory source names ↔
        ∃ name rest node, place = name :: rest ∧ name ∈ names ∧ source ++ name :: rest ≠ goal ∧
          after.get? (source ++ name :: rest) = some node ∧ node.content? = content := by
    rw [mem_parcels_iff plain.named distinct]
    constructor
    · rintro ⟨⟨name, rest, node, rfl, listed, found, same⟩, notItself⟩
      have differs := (apart found).mp notItself
      have shows := filled.map_content? opened differs
      rw [found] at shows
      obtain ⟨node', found', same'⟩ := Option.map_eq_some_iff.mp shows
      exact ⟨name, rest, node', rfl, listed, differs, found', same'.trans same⟩
    · rintro ⟨name, rest, node', rfl, listed, differs, found', same⟩
      have shows := filled.map_content? opened differs
      rw [found'] at shows
      obtain ⟨node, found, same'⟩ := Option.map_eq_some_iff.mp shows.symm
      exact ⟨⟨name, rest, node, rfl, listed, found, same'.trans same⟩, (apart found).mpr differs⟩
  have follow : Parcel.Follow [([], none)] (begun.parcels archive directory source names) := by
    refine follow_parcels plain.named distinct fun name listed rest node found none => ?_
    refine (apart found).mpr fun at_goal => ?_
    rw [content?, ← at_goal, found, Option.bind_some, none] at opened
    cases opened
  refine ⟨each, Parcel.nodup_names ?_ ?_, follow⟩
  · rintro ⟨_, content⟩ listed
    obtain ⟨⟨name, rest, node, rfl, -, found, -⟩, -⟩ :=
      (mem_parcels_iff plain.named distinct).mp listed
    exact ⟨List.cons_ne_nil name rest, areNames found⟩
  · exact (List.nodup_cons.mp (follow.nodup (List.nodup_singleton _))).2

end

/-- The names of the entries of a folder that are not at a place. -/
def namesBut (source goal : Place) (names : List String) : List String :=
  names.filter fun name => source ++ [name] ≠ goal

theorem mem_namesBut : name ∈ namesBut source goal names ↔
    name ∈ names ∧ source ++ [name] ≠ goal := by
  simp [namesBut]

/-- A match that is the archive itself adds nothing to what is packed. -/
theorem Packs.of_namesBut (packs : after.Packs source (namesBut source goal names) goal parcels)
    (isFile : after.content? goal = some bytes) : after.Packs source names goal parcels := by
  refine ⟨fun place content => ?_, packs.once, packs.follow⟩
  rw [packs.each]
  constructor
  · rintro ⟨name, rest, node, rfl, listed, differs, found, same⟩
    exact ⟨name, rest, node, rfl, (mem_namesBut.mp listed).1, differs, found, same⟩
  · rintro ⟨name, rest, node, rfl, listed, differs, found, same⟩
    refine ⟨name, rest, node, rfl, mem_namesBut.mpr ⟨listed, fun at_goal => ?_⟩, differs, found,
      same⟩
    have below : source ++ name :: rest = goal ++ rest := by rw [List.append_cons, at_goal]
    rw [below, get?_below_file isFile fun empty => differs (by rw [below, empty, List.append_nil])]
      at found
    cases found

end FileTree

namespace Statement

open FileTree (steps)

variable {plan : Plan} {converter : Converter} {selection : Selection} {report : Report}

/-- The plan of a statement that packs is to pack, and the archive has a name. -/
theorem action_of_archive
    (accepted : Plan.ofStatement (.archive selection destination) = .ok plan) :
    plan.action = .archive destination ∧ ∃ front name, steps ⟨destination⟩ = front ++ [name] := by
  have accepts := (Plan.ofStatement_eq_ok_iff _ _).mp accepted
  obtain ⟨demands, -, operation, aims⟩ :=
    (Plan.actionOf_eq_ok_iff rfl (by simp [Statement.operation])).mp accepts.action
  have extended : (Path.mk destination).extension?.isSome = true := demands.archive rfl
  obtain ⟨extension, extends_⟩ := Option.isSome_iff_exists.mp extended
  obtain ⟨name, ends, -⟩ := Option.bind_eq_some_iff.mp extends_
  obtain ⟨front, last, taken⟩ :=
    (List.eq_nil_or_concat _).resolve_left (Path.steps_ne_nil_of_fileName? ends)
  exact ⟨((Plan.action_eq_iff rfl).mpr ⟨operation, aims⟩).symm, front, last,
    taken.trans (List.concat_eq_append ..)⟩

section

variable (accepted : Plan.ofStatement (.archive selection destination) = .ok plan)
  (given : root.text ≠ "") (plain : tree.Plain) (selects : plan.Selects root tree source names)
  (others : ∃ name ∈ names, source ++ [name] ≠ tree.lexical (root.join ⟨destination⟩))
  (done : (Statement.archive selection destination).run root converter tree =
    (.completed report, after))

include accepted given plain selects others done

/-- What happened when a statement that packs was completed: the archive was opened, in folders that
    were made for it, and then written with the members that were collected for the matches. -/
theorem exists_of_archive : ∃ begun members results,
    tree.Filled (tree.lexical (root.join ⟨destination⟩)) [] begun ∧
    Packing.collect begun (root.join ⟨destination⟩)
      ((FileTree.namesBut source (tree.lexical (root.join ⟨destination⟩)) names).map
        (plan.folder root).child) = (members, .ok results) ∧
    begun.Filled (tree.lexical (root.join ⟨destination⟩)) (Archive.encode members) after := by
  obtain ⟨plan', found, accepted', finds, performed⟩ := Statement.exists_of_completed done
  obtain rfl := Except.ok.inj (accepted.symm.trans accepted')
  obtain rfl := Except.ok.inj (selects.finds.symm.trans finds)
  obtain ⟨archives, front, last, ends⟩ := action_of_archive accepted
  have aims : plan.action.destination? = some destination := by
    rw [archives]
    rfl
  rw [Plan.perform, archives] at performed
  have itself (name : String) (listed : name ∈ names) :
      ((plan.folder root).child name).same (root.join ⟨destination⟩) = true ↔
        source ++ [name] = tree.lexical (root.join ⟨destination⟩) := by
    have areNames : ∀ next ∈ [name], IsName next :=
      List.forall_mem_singleton.mpr (selects.areNames name listed)
    have same := Plan.same_down_iff accepted aims given plain selects.opens areNames
    exact same
  have some_left : ∃ path ∈ names.map (plan.folder root).child,
      path.same (root.join ⟨destination⟩) = false := by
    obtain ⟨name, listed, differs⟩ := others
    refine ⟨_, List.mem_map_of_mem listed, ?_⟩
    rw [← Bool.not_eq_true, itself name listed]
    exact differs
  have kept : (names.map (plan.folder root).child).filter (!·.same (root.join ⟨destination⟩)) =
      (FileTree.namesBut source (tree.lexical (root.join ⟨destination⟩)) names).map
        (plan.folder root).child := by
    rw [List.filter_map, FileTree.namesBut]
    refine congrArg (List.map _) (List.filter_congr fun name listed => ?_)
    rw [Function.comp_apply, Bool.eq_iff_iff, Bool.not_eq_true', ← Bool.not_eq_true,
      itself name listed, decide_eq_true_iff]
  -- the folders of the archive are below the one that the root leads to
  obtain ⟨rest, within⟩ := Plan.within_folder accepted root
  have within' := Plan.within_destination accepted aims root
  rw [ends] at within'
  obtain ⟨home, ⟨left, reaches⟩, isFolder⟩ := within.opens selects.opens
  have goal_ : tree.lexical (root.join ⟨destination⟩) = home ++ (front ++ [last]) := by
    rw [FileTree.lexical_within tree within', reaches.eq_lexical plain]
  obtain ⟨parent, above, withinParent⟩ := within'.parent?
  obtain ⟨start, results, made, writes⟩ := Packing.exists_of_archive some_left above performed
  obtain ⟨begun, members, begins, collects, written⟩ := Packing.exists_of_writeArchive writes
  have furnished := FileTree.furnished_makeFolders reaches isFolder plain withinParent
  rw [made] at furnished
  have opened := furnished.plain.filled_of_write (reaches.keeps furnished.keeps)
    (furnished.keeps.isFolder isFolder) within' (by simp) begins
  have keeps := furnished.keeps.trans opened.keeps
  have filled := opened.plain.filled_of_write (reaches.keeps keeps) (keeps.isFolder isFolder)
    within' (by simp) written
  rw [goal_]
  rw [kept, goal_] at collects
  refine ⟨begun, members, results, furnished.filled opened ?_, collects, filled⟩
  rw [← List.append_assoc]
  exact List.prefix_append _ _

/-- An archive of the matches is written. It holds exactly one entry for each node of each match, but
    for the archive itself: under the name of the match with the names on the way down from it,
    with slashes between them, a folder with one more slash at the end, and a file with its bytes.
    The names of the entries are all different, and each folder comes before what is in it. So it
    is wherever the archive lies, also below the folder of the matches or in a match, and whether or
    not it was there before. Apart from the archive and the folders that were made for it,
    everything in the tree is as it was. An archive of which the numbers fit their fields gives back
    what it holds. No name in the tree, and none that is given for the archive, ends with a
    backslash: in the name of an entry, that would stand for the slash after a folder. -/
theorem archive_contents
    (markable : ∀ place node, tree.get? place = some node → ∀ name ∈ place, Markable name)
    (markable' : ∀ name ∈ steps ⟨destination⟩, Markable name) :
    ∃ parcels,
      tree.Filled (tree.lexical (root.join ⟨destination⟩))
        (Archive.encode (parcels.map Parcel.member)) after ∧
      after.Packs source names (tree.lexical (root.join ⟨destination⟩)) parcels ∧
      (Archive.Fits (parcels.map Parcel.member) →
        Archive.ReadsBack (parcels.map Parcel.member)) := by
  obtain ⟨begun, members, results, opened, collects, filled⟩ :=
    exists_of_archive accepted given plain selects others done
  have aims : plan.action.destination? = some destination := by
    rw [(action_of_archive accepted).1]
    rfl
  have onTheWay : ∀ name ∈ tree.lexical (root.join ⟨destination⟩), Markable name := by
    obtain ⟨rest, within⟩ := Plan.within_folder accepted root
    obtain ⟨home, ⟨left, reaches⟩, _, _, at_home⟩ := within.opens selects.opens
    rw [FileTree.lexical_within tree (Plan.within_destination accepted aims root),
      ← reaches.eq_lexical plain]
    exact List.forall_mem_append.mpr ⟨markable _ _ at_home, markable'⟩
  obtain ⟨⟨left, reaches⟩, isFolder⟩ := selects.opens
  have there : ∀ name ∈ FileTree.namesBut source (tree.lexical (root.join ⟨destination⟩)) names,
      ∃ node, begun.get? (source ++ [name]) = some node := by
    intro name listed
    obtain ⟨node, found, -⟩ := selects.present name (FileTree.mem_namesBut.mp listed).1
    obtain ⟨node', found', -⟩ := opened.keeps.exists_of_get? found
    exact ⟨node', found'⟩
  obtain rfl := Packing.collect_eq opened.plain (reaches.keeps opened.keeps)
    (opened.forall_names markable onTheWay) there collects
  have distinct : (FileTree.namesBut source (tree.lexical (root.join ⟨destination⟩)) names).Nodup :=
    selects.distinct.filter _
  have packs := filled.packs opened.plain distinct (fun place areNames =>
    Plan.same_down_iff accepted aims given plain selects.opens areNames) opened.content
  exact ⟨_, opened.trans filled, packs.of_namesBut filled.content, Archive.readsBack_of_fits⟩

end

end Statement

/-! ### A folder that holds the archive -/

namespace FileTree

/-- A tree with a folder that has some entries. -/
def boxed (entries : List (String × Node)) : FileTree :=
  ⟨.folder (.ofInstant .epoch) [("a", .folder (.ofInstant .epoch) entries)], [], .epoch⟩

/-- The entries of the folder when a folder in it has an archive with some bytes. -/
def boxEntries (name : String) (bytes : List UInt8) : List (String × Node) :=
  [(name, .folder (.ofInstant .epoch) [("out.zip", .file (.ofInstant .epoch) false bytes)])]

end FileTree

namespace Packing

open FileTree

variable {held : List UInt8}

/-- Two names for the folder of the archive. -/
def boxNames : List String := ["b", "b\\"]

/-- The path of the archive. -/
def boxPath (name : String) : Path := ⟨"/a/" ++ name ++ "/out.zip"⟩

theorem resolve_boxed (given : name ∈ boxNames) (last : LastLink) :
    (boxed []).resolve last ⟨"/"⟩ = .ok ⟨[], some (boxed []).root, false⟩ ∧
    (boxed []).resolve last ⟨"/a/" ++ name⟩ = .ok ⟨["a", name], none, false⟩ ∧
    (boxed [(name, .emptyFolder .epoch)]).resolve last (boxPath name) =
      .ok ⟨["a", name, "out.zip"], none, false⟩ := by
  simp only [boxNames, List.mem_cons, List.not_mem_nil, or_false] at given
  rcases given with rfl | rfl <;>
    simp [boxed, boxPath, resolve, checkPath, pathLimit, FileTree.names, Path.segments, descend,
      FileTree.start, Path.isAbsolute, get?, Node.get?, nameLimit, Text.byteLength, Char.utf8Size,
      linkLimit, Node.emptyFolder]

theorem resolve_boxEntries (given : name ∈ boxNames) (bytes : List UInt8) (last : LastLink) :
    (boxed (boxEntries name bytes)).resolve last ⟨"/a"⟩ =
      .ok ⟨["a"], (boxed (boxEntries name bytes)).get? ["a"], false⟩ ∧
    (boxed (boxEntries name bytes)).resolve last (boxPath name) =
      .ok ⟨["a", name, "out.zip"], some (.file (.ofInstant .epoch) false bytes), false⟩ := by
  simp only [boxNames, List.mem_cons, List.not_mem_nil, or_false] at given
  rcases given with rfl | rfl <;>
    simp [boxed, boxPath, boxEntries, resolve, checkPath, pathLimit, FileTree.names, Path.segments,
      descend, FileTree.start, Path.isAbsolute, get?, Node.get?, nameLimit, Text.byteLength,
      Char.utf8Size, linkLimit]

theorem makeFolders_boxed (given : name ∈ boxNames) :
    makeFolders ⟨"/a/" ++ name⟩ (boxed []) = (.ok (), boxed [(name, .emptyFolder .epoch)]) := by
  have leads := (resolve_boxed given .keep).2.1
  have some_parts : (Path.mk ("/a/" ++ name)).components ≠ [] := by
    simp only [boxNames, List.mem_cons, List.not_mem_nil, or_false] at given
    rcases given with rfl | rfl <;> decide
  have made : (boxed []).makeFolder ⟨"/a/" ++ name⟩ =
      .ok (boxed [(name, .emptyFolder .epoch)]) := by
    rw [makeFolder, leads]
    simp [FileTree.insert, splitPlace, boxed, Node.modify, Node.update, Node.insertEntry, Node.put,
      Stamps.ofInstant, Stamps.touched]
  rw [makeFolders, makeMissing]
  dsimp only
  rw [if_neg some_parts, made]

theorem write_boxed (given : name ∈ boxNames) (bytes : List UInt8) :
    (boxed [(name, .emptyFolder .epoch)]).write (boxPath name) bytes =
      .ok (boxed (boxEntries name bytes)) := by
  have leads := (resolve_boxed given .follow).2.2
  rw [write, truncate, leads]
  simp [FileTree.insert, splitPlace, boxed, boxEntries, rewrite, isExecutable, get?, Node.get?,
    Node.modify, Node.update, Node.insertEntry, Node.put, Stamps.ofInstant, Stamps.touched,
    Node.rewrite, Node.emptyFolder]

theorem write_boxEntries (given : name ∈ boxNames) (bytes : List UInt8) :
    (boxed (boxEntries name held)).write (boxPath name) bytes =
      .ok (boxed (boxEntries name bytes)) := by
  have leads := (resolve_boxEntries given held .follow).2
  rw [write, truncate, leads]
  simp [boxed, boxEntries, rewrite, isExecutable, get?, Node.get?, Node.modify, Node.update,
    Stamps.ofInstant, Stamps.touched, Node.rewrite]

/-- The members of the archive. -/
def boxMembers (name : String) : List Archive.Member :=
  [⟨"a/", none⟩, ⟨folderName ("a/" ++ name), none⟩]

theorem collect_boxed (given : name ∈ boxNames) :
    collect (boxed (boxEntries name [])) (boxPath name) [⟨"/a"⟩] =
      (boxMembers name, .ok [.ok ()]) := by
  have leads := (resolve_boxEntries given [] .keep).1
  have found : (boxed (boxEntries name [])).findLink ⟨"/a"⟩ =
      .ok (.folder (.ofInstant .epoch) (boxEntries name [])) := by
    rw [findLink, locate, leads]
    rfl
  have walked : (Node.folder (.ofInstant .epoch) (boxEntries name [])).sorted.walk [] =
      [([], .folder (.ofInstant .epoch) (boxEntries name [])),
       ([name], .folder (.ofInstant .epoch) [("out.zip", .file (.ofInstant .epoch) false [])]),
       ([name, "out.zip"], .file (.ofInstant .epoch) false [])] := by
    simp [boxEntries, Node.sorted, Node.sortedEntries, Node.walk, Node.walkEntries]
  rw [collect, members, found]
  dsimp only
  rw [walked]
  simp only [boxNames, List.mem_cons, List.not_mem_nil, or_false] at given
  rcases given with rfl | rfl <;> rfl


/-- The statement that packs the folder. -/
def packBox (name : String) : Statement :=
  .archive ⟨"folders", "", none⟩ ("a/" ++ name ++ "/out.zip")

/-- The plan of the statement. -/
def planBox (name : String) : Plan :=
  ⟨.folders, "", none, .archive ("a/" ++ name ++ "/out.zip")⟩

theorem accepted_packBox (given : name ∈ boxNames) :
    Plan.ofStatement (packBox name) = .ok (planBox name) := by
  simp only [boxNames, List.mem_cons, List.not_mem_nil, or_false] at given
  rcases given with rfl | rfl <;> decide

/-- The paths of the statement. -/
theorem paths_packBox (given : name ∈ boxNames) :
    (Path.mk "/").join ⟨"a/" ++ name ++ "/out.zip"⟩ = boxPath name ∧
      (boxPath name).parent? = some ⟨"/a/" ++ name⟩ ∧
      (Path.mk "/a").same (boxPath name) = false := by
  simp only [boxNames, List.mem_cons, List.not_mem_nil, or_false] at given
  rcases given with rfl | rfl <;> decide

theorem folder_planBox (name : String) : (planBox name).folder ⟨"/"⟩ = ⟨"/"⟩ := rfl

theorem findMatches_planBox (given : name ∈ boxNames) :
    (planBox name).findMatches (boxed []) ⟨"/"⟩ = .ok [⟨"/a"⟩] := by
  have found : (boxed []).find ⟨"/"⟩ = .ok (boxed []).root := by
    rw [find, locate, (resolve_boxed given .follow).1]
    rfl
  unfold Plan.findMatches
  dsimp only
  rw [folder_planBox, found]
  rfl

theorem run_packBox (given : name ∈ boxNames) : ∃ report,
    (packBox name).run ⟨"/"⟩ .none (boxed []) =
      (.completed report, boxed (boxEntries name (Archive.encode (boxMembers name)))) := by
  obtain ⟨joined, above, other⟩ := paths_packBox given
  have at_ {tree changed : FileTree} {bytes : List UInt8}
      (written : tree.write (boxPath name) bytes = .ok changed) :
      (Changes.ofChange fun tree => tree.write (boxPath name) bytes).at (boxPath name) tree =
        (.ok (), changed) := by
    rw [Changes.at, Changes.mapError, Changes.ofChange, written]
  have writes : writeArchive (boxPath name) [⟨"/a"⟩] (boxed [(name, .emptyFolder .epoch)]) =
      (.ok [.ok ()], boxed (boxEntries name (Archive.encode (boxMembers name)))) := by
    unfold writeArchive
    rw [Changes.bind_apply, at_ (write_boxed given [])]
    dsimp only
    rw [Changes.bind_apply, Changes.look, collect_boxed given]
    dsimp only
    rw [Changes.bind_apply, at_ (write_boxEntries given _)]
    rfl
  have makes : (makeFolders ⟨"/a/" ++ name⟩).at ⟨"/a/" ++ name⟩ (boxed []) =
      (.ok (), boxed [(name, .emptyFolder .epoch)]) := by
    rw [Changes.at, Changes.mapError, makeFolders_boxed given]
  refine ⟨(Report.start .archive (some ("a/" ++ name ++ "/out.zip")) ⟨"/"⟩ [⟨"/a"⟩]).succeed,
    Plan.run_of_findMatches (accepted_packBox given) (findMatches_planBox given) ?_⟩
  unfold Plan.perform planBox Packing.archive
  dsimp only
  rw [joined, List.filter_cons_of_pos (by simp [other]), List.filter_nil, above, List.isEmpty_cons,
    if_neg Bool.false_ne_true]
  dsimp only
  rw [Changes.bind_apply, makes]
  dsimp only
  rw [Changes.bind_apply, writes]
  dsimp only
  rw [List.filter_cons_of_neg (by simp [other]), List.filter_nil]
  rfl

theorem plain_boxed : (boxed []).Plain where
  root := by
    refine Node.plain_folder ⟨?_, by simp⟩ ?_
    · exact List.forall_mem_singleton.mpr (by constructor <;> decide)
    · exact List.forall_mem_singleton.mpr (Node.plain_emptyFolder .epoch)
  working := nofun

/-- Nothing but the folder has a name. -/
theorem place_boxed {place : Place} {node : Node} (found : (boxed []).get? place = some node) :
    ∀ next ∈ place, next = "a" := by
  match place with
  | [] => nofun
  | first :: rest =>
    by_cases same : first = "a"
    · subst same
      cases rest with
      | nil => simp
      | cons => cases found
    · have other : (first == "a") = false := by simpa using same
      simp [boxed, get?, Node.get?, List.lookup_cons, other] at found

/-- The folder is the match. -/
theorem selects_packBox (given : name ∈ boxNames) :
    (planBox name).Selects ⟨"/"⟩ (boxed []) [] ["a"] where
  finds := by
    rw [findMatches_planBox given, folder_planBox]
    rfl
  opens := ⟨⟨_, (boxed []).reaches_top⟩, _, _, rfl⟩
  areNames := List.forall_mem_singleton.mpr (by constructor <;> decide)
  distinct := List.nodup_singleton _
  present := List.forall_mem_singleton.mpr ⟨_, rfl, rfl⟩

theorem portable_packBox : ∀ name ∈ ["a", "b", "out.zip"], Portable name := by
  intro name listed
  fin_cases listed <;> exact ⟨by constructor <;> decide, by decide, by decide⟩

/-- The archive is elsewhere. -/
theorem lexical_packBox (given : name ∈ boxNames) :
    (boxed []).lexical ((Path.mk "/").join ⟨"a/" ++ name ++ "/out.zip"⟩) =
      ["a", name, "out.zip"] := by
  simp only [boxNames, List.mem_cons, List.not_mem_nil, or_false] at given
  rcases given with rfl | rfl <;> decide

end Packing

namespace Statement

open FileTree (boxed steps)
open Packing

/-- A folder is packed to an archive that it holds itself, in a new folder. -/
theorem archive_contents_boxed : ∃ plan report after,
    Plan.ofStatement (packBox "b") = .ok plan ∧ (Path.mk "/").text ≠ "" ∧ (boxed []).Plain ∧
    plan.Selects ⟨"/"⟩ (boxed []) [] ["a"] ∧
    (∃ name ∈ ["a"], [] ++ [name] ≠ (boxed []).lexical ((Path.mk "/").join ⟨"a/b/out.zip"⟩)) ∧
    (packBox "b").run ⟨"/"⟩ .none (boxed []) = (.completed report, after) ∧
    (∀ place node, (boxed []).get? place = some node → ∀ name ∈ place, Markable name) ∧
    (∀ name ∈ steps ⟨"a/b/out.zip"⟩, Markable name) ∧
    ∃ parcels,
      (boxed []).Filled ((boxed []).lexical ((Path.mk "/").join ⟨"a/b/out.zip"⟩))
        (Archive.encode (parcels.map Parcel.member)) after ∧
      after.Packs [] ["a"] ((boxed []).lexical ((Path.mk "/").join ⟨"a/b/out.zip"⟩)) parcels ∧
      (Archive.Fits (parcels.map Parcel.member) →
        Archive.ReadsBack (parcels.map Parcel.member)) := by
  have given : "b" ∈ boxNames := by decide
  obtain ⟨report, done⟩ := run_packBox given
  have markable (place : Place) (node : Node) (found : (boxed []).get? place = some node)
      (name : String) (among : name ∈ place) : Markable name := by
    rw [place_boxed found name among]
    exact (portable_packBox "a" (by decide)).toMarkable
  have markable' : ∀ name ∈ steps ⟨"a/b/out.zip"⟩, Markable name := by
    have taken : steps ⟨"a/b/out.zip"⟩ = ["a", "b", "out.zip"] := by decide
    rw [taken]
    exact fun name listed => (portable_packBox name listed).toMarkable
  have others : ∃ name ∈ ["a"],
      [] ++ [name] ≠ (boxed []).lexical ((Path.mk "/").join ⟨"a/b/out.zip"⟩) := by
    exact ⟨"a", List.mem_cons_self, by decide⟩
  exact ⟨_, report, _, accepted_packBox given, by decide, plain_boxed, selects_packBox given,
    others, done, markable, markable', archive_contents (accepted_packBox given) (by decide)
      plain_boxed (selects_packBox given) others done markable markable'⟩

/-- A new folder whose name ends with a backslash is packed under a name without a slash at the
    end. -/
theorem not_forall_archive_contents :
    ¬ ∀ (tree after : FileTree) (root : Path) (source : Place) (names : List String)
      (selection : Selection) (destination : String) (plan : Plan) (converter : Converter)
      (report : Report),
      Plan.ofStatement (.archive selection destination) = .ok plan → root.text ≠ "" →
      tree.Plain → plan.Selects root tree source names →
      (∃ name ∈ names, source ++ [name] ≠ tree.lexical (root.join ⟨destination⟩)) →
      (Statement.archive selection destination).run root converter tree =
        (.completed report, after) →
      (∀ place node, tree.get? place = some node → ∀ name ∈ place, '\\' ∉ name.toList) →
      ∃ parcels,
        tree.Filled (tree.lexical (root.join ⟨destination⟩))
          (Archive.encode (parcels.map Parcel.member)) after ∧
        after.Packs source names (tree.lexical (root.join ⟨destination⟩)) parcels := by
  intro contents
  have given : "b\\" ∈ boxNames := by decide
  obtain ⟨report, done⟩ := run_packBox given
  have others : ∃ name ∈ ["a"],
      [] ++ [name] ≠ (boxed []).lexical ((Path.mk "/").join ⟨"a/b\\/out.zip"⟩) := by
    exact ⟨"a", List.mem_cons_self, by decide⟩
  obtain ⟨parcels, filled, packs⟩ := contents _ _ _ _ _ _ _ _ _ _ (accepted_packBox given)
    (by decide) plain_boxed (selects_packBox given) others done
    fun _ _ found name among => by rw [place_boxed found name among]; decide
  rw [lexical_packBox given] at filled packs
  have written : Archive.encode (parcels.map Parcel.member) =
      Archive.encode (boxMembers "b\\") := by
    refine Option.some.inj (filled.content.symm.trans ?_)
    rfl
  have member_iff (parcel : Parcel) : parcel ∈ parcels ↔
      parcel ∈ [((["a"], none) : Parcel), (["a", "b\\"], none)] := by
    obtain ⟨place, content⟩ := parcel
    rw [packs.each]
    constructor
    · rintro ⟨name, rest, node, rfl, listed, differs, found, rfl⟩
      obtain rfl := List.mem_singleton.mp listed
      have walked := filled.plain.named.mem_walk rfl found
      generalize "a" :: rest = place at walked differs ⊢
      fin_cases walked <;> first | exact absurd rfl differs | simp [Node.content?]
    · intro listed
      simp only [List.mem_cons, List.not_mem_nil, or_false] at listed
      rcases listed with same | same <;> obtain ⟨rfl, rfl⟩ := Prod.mk.inj same <;>
        exact ⟨"a", _, _, rfl, List.mem_cons_self, by decide, rfl, rfl⟩
  have same := (List.perm_ext_iff_of_nodup packs.once.of_map (by decide)).mpr member_iff
  obtain ⟨first, second, rfl⟩ := List.length_eq_two.mp same.length_eq
  have first_ := (member_iff first).mp (by simp)
  have second_ := (member_iff second).mp (by simp)
  simp only [List.mem_cons, List.not_mem_nil, or_false] at first_ second_
  revert written
  rcases first_ with rfl | rfl <;> rcases second_ with rfl | rfl <;> decide +kernel

end Statement

end FileQuery
