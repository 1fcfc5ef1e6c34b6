import FileQuery.Proofs.Archive.Packed
import FileQuery.Proofs.Execution.Vanishing
import FileQuery.Proofs.FileTree.Missing
import FileQuery.Proofs.Plan.SamePlace
import FileQuery.Proofs.Transfer.Copying

/-!
# What is collected for an archive

In a tree without links, each match is packed with all that is below it, or an error ends the whole
statement: no match is ever left out as one that has vanished. The archive itself is left out by its
path. It is given from the same directory as the matches, and so no other path is equal to its own.
-/

namespace FileQuery

variable {tree begun after : FileTree} {root directory archive path : Path}
  {home source place : Place}
  {rest : List String} {left : Nat} {names : List String} {name destination : String} {node : Node}

/-! ## The path of the archive -/

namespace Path

/-- A relative path that is followed from another one does not change whether that one begins with a
    dot. -/
theorem startsHere_join {base path : Path} (relative : path.isAbsolute = false)
    (nonempty : base.text.toList ≠ []) : (base.join path).startsHere = base.startsHere := by
  have later : Component.here ∉ path.laterComponents := by
    rw [laterComponents, filterMap_component?]
    intro listed
    obtain ⟨name, -, same⟩ := List.mem_map.mp listed
    exact (Component.ofStep_ne_start name).2 same
  rw [Bool.eq_iff_iff, startsHere_iff, startsHere_iff, components_join relative nonempty,
    List.mem_append, or_iff_left later]

theorem startsHere_down {base : Path} (areNames : ∀ name ∈ place, IsName name)
    (nonempty : base.text.toList ≠ []) : (base.down place).startsHere = base.startsHere := by
  induction place generalizing base with
  | nil => rfl
  | cons name rest inductionHypothesis =>
    obtain ⟨isName, areNames'⟩ := List.forall_mem_cons.mp areNames
    have below := inductionHypothesis areNames' (join_text_ne_nil nonempty isName.relative)
    exact below.trans (startsHere_join isName.relative nonempty)

end Path

/-- Of all that is below the folder of the matches, only what is at the place of the destination has
    its path, as both paths are given from the same directory. -/
theorem Plan.same_down_iff {statement : Statement} {plan : Plan}
    (accepted : Plan.ofStatement statement = .ok plan)
    (aims : plan.action.destination? = some destination) (given : root.text ≠ "")
    (plain : tree.Plain) (opens : tree.Opens (plan.folder root) source)
    (areNames : ∀ name ∈ place, IsName name) :
    ((plan.folder root).down place).same (root.join ⟨destination⟩) = true ↔
      source ++ place = tree.lexical (root.join ⟨destination⟩) := by
  have accepts := (ofStatement_eq_ok_iff statement plan).mp accepted
  have relative : (Path.mk plan.source).isAbsolute = false := by
    rw [accepts.sameSource]
    exact (Path.isName_of_confine accepts.source).1
  have relative' := (Path.isName_of_confine (accepts.destination destination aims)).1
  have nonempty : root.text.toList ≠ [] := by simpa using given
  obtain ⟨rest, within⟩ := within_folder accepted root
  have below := within.trans (Path.within_down areNames)
  have within' := within_destination accepted aims root
  have here :
      ((plan.folder root).down place).startsHere = (root.join ⟨destination⟩).startsHere := by
    rw [folder, Path.startsHere_down areNames (Path.join_text_ne_nil nonempty relative),
      Path.startsHere_join relative nonempty, Path.startsHere_join relative' nonempty]
  have source_ : source = tree.lexical root ++ rest := by
    obtain ⟨⟨_, led⟩, -⟩ := opens
    rw [led.eq_lexical plain, FileTree.lexical_within tree within]
  rw [Path.same_iff, below.start, within'.start, here, below.steps, within'.steps, source_,
    FileTree.lexical_within tree within']
  simp

/-! ## What is collected -/

namespace Packing

open FileTree

section

variable (plain : tree.Plain) (reaches : tree.Reaches directory left home)
  (markable : ∀ place node, tree.get? place = some node → ∀ name ∈ place, Markable name)

include plain reaches markable

/-- What a walk through a match comes by is no link, and its files are found by their paths, unless
    these cannot be followed. -/
theorem walked_cases (found : tree.get? (home ++ [name]) = some node) {met : Place × Node}
    (walked : met ∈ node.sorted.walk []) :
    (∀ next ∈ name :: met.1, Markable next) ∧ (∀ target, met.2 ≠ .link target) ∧
      (met.2.isFile = true → tree.find (directory.down (name :: met.1)) = .ok met.2 ∨
        ∃ error, tree.find (directory.down (name :: met.1)) = .error error ∧
          error ≠ .notFound) := by
  have throughout := (named_iff_throughout.mp plain.named).below found
  obtain ⟨rest, inner⟩ := met
  obtain ⟨_, rfl, reached⟩ := (Node.mem_walk_iff throughout.sorted).mp walked
  rw [Node.get?_sorted throughout] at reached
  obtain ⟨original, at_rest, rfl⟩ := Option.map_eq_some_iff.mp reached
  have at_place : tree.get? (home ++ name :: rest) = some original := by
    rw [List.append_cons, get?_append, found]
    exact at_rest
  have markable' (next : String) (among : next ∈ name :: rest) : Markable next :=
    markable _ _ at_place next (List.mem_append_right _ among)
  cases original with
  | link target => exact absurd at_place (plain.unlinked _ target)
  | folder => exact ⟨markable', by simp [Node.sorted], by simp [Node.sorted, Node.isFile]⟩
  | file =>
    refine ⟨markable', by simp [Node.sorted], fun _ => ?_⟩
    have within : directory.Within (directory.down (name :: rest)) (name :: rest) :=
      Path.within_down fun next among => (markable' next among).toIsName
    rcases plain.locate_cases reaches within (List.cons_ne_nil _ _) at_place .follow with
      located | ⟨error, located, lasts⟩
    · refine .inl ?_
      rw [find, located]
      simp [Except.map, Node.sorted]
    · refine .inr ⟨error, ?_, lasts⟩
      rw [find, located]
      rfl

/-- A match is packed with all that is below it, or an error ends the packing. No error says that
    the match has vanished. -/
theorem members_cases (found : tree.get? (home ++ [name]) = some node) :
    members tree archive (directory.child name) =
        ((((node.sorted.walk [name]).map Parcel.ofNode).filter
          fun parcel => !(directory.down parcel.1).same archive).map Parcel.member, .ok ()) ∨
      ∃ own error, members tree archive (directory.child name) = (own, .error error) ∧
        error.isNotFound = false := by
  have isName := (markable _ _ found name (by simp)).toIsName
  rcases plain.locate_cases reaches ((Path.Within.refl directory).child isName) (by simp) found
    .keep with located | ⟨error, located, lasts⟩
  · have finds : tree.findLink (directory.child name) = .ok node := by
      rw [findLink, located]
      rfl
    have start : node.sorted.walk [name] =
        (node.sorted.walk []).map fun met => ([name] ++ met.1, met.2) :=
      node.sorted.walk_append [name] []
    rw [members, finds]
    dsimp only
    rw [start, List.map_map]
    have each := fun met (walked : met ∈ node.sorted.walk []) =>
      walked_cases plain reaches markable found walked
    have itself (met : Place × Node) (walked : met ∈ node.sorted.walk [])
        (isFile : met.2.isFile = true) (other : Node)
        (same : tree.find (directory.down (name :: met.1)) = .ok other) : other = met.2 := by
      rcases (each met walked).2.2 isFile with finds | ⟨error, finds, -⟩
      · exact Except.ok.inj (same.symm.trans finds)
      · cases same.symm.trans finds
    rcases membersOf_cases isName fun met walked =>
        ⟨(each met walked).1, (each met walked).2.1, itself met walked⟩ with
      packs | ⟨met, walked, isFile, own, error, lost, packs⟩
    · exact .inl packs
    · refine .inr ⟨own, _, packs, isNotFound_file ?_⟩
      rintro rfl
      rcases (each met walked).2.2 isFile with finds | ⟨error, finds, lasts⟩
      · cases lost.symm.trans finds
      · exact lasts (Except.error.inj (finds.symm.trans lost))
  · refine .inr ⟨[], .file (directory.child name) error, ?_, isNotFound_file lasts⟩
    rw [members, findLink, located]
    rfl

/-- What is collected without an error that ends the packing are the parcels of the matches. -/
theorem collect_eq {listed : List Archive.Member} {results : List (Except ExecutionError Unit)}
    (there : ∀ name ∈ names, ∃ node, tree.get? (home ++ [name]) = some node)
    (collects : collect tree archive (names.map directory.child) = (listed, .ok results)) :
    listed = (tree.parcels archive directory home names).map Parcel.member := by
  induction names generalizing listed results with
  | nil => exact (Prod.mk.inj collects).1.symm
  | cons name names inductionHypothesis =>
    obtain ⟨⟨node, found⟩, there'⟩ := List.forall_mem_cons.mp there
    obtain ⟨own, result, later, results', packs, vanished, collects', rfl, rfl⟩ :=
      collect_cons_eq_ok_iff.mp collects
    rcases members_cases plain reaches markable found with packs' | ⟨_, error, packs', lasts⟩
    · obtain ⟨rfl, -⟩ := Prod.mk.inj (packs.symm.trans packs')
      rw [inductionHypothesis there' collects', parcels_cons found, List.map_append]
    · obtain ⟨-, rfl⟩ := Prod.mk.inj (packs.symm.trans packs')
      cases (vanished error rfl).symm.trans lasts

end

/-- An archive that is written to the end is opened first, and then written as a whole. -/
theorem exists_of_writeArchive {found : List Path} {results : List (Except ExecutionError Unit)}
    (writes : writeArchive archive found tree = (.ok results, after)) :
    ∃ begun members, tree.write archive [] = .ok begun ∧
      collect begun archive found = (members, .ok results) ∧
      begun.write archive (Archive.encode members) = .ok after := by
  unfold writeArchive at writes
  obtain ⟨_, begun, begins, collects⟩ := Changes.bind_apply_eq_ok_iff.mp writes
  obtain ⟨⟨members, collected⟩, middle, seen, goesOn⟩ := Changes.bind_apply_eq_ok_iff.mp collects
  obtain ⟨rfl, collects⟩ := look_eq_ok seen
  obtain ⟨_, last, ends, gives⟩ := Changes.bind_apply_eq_ok_iff.mp goesOn
  obtain ⟨rfl, rfl⟩ := look_eq_ok gives
  exact ⟨_, members, Changes.at_ofChange_eq_ok begins, Except.ok.inj collects,
    Changes.at_ofChange_eq_ok ends⟩

/-- A statement that packs matches makes the folders that the archive is in and writes the
    archive. -/
theorem exists_of_archive {found : List Path} {report : Report} {parent : Path}
    (some_left : ∃ path ∈ found, path.same (root.join ⟨destination⟩) = false)
    (above : (root.join ⟨destination⟩).parent? = some parent)
    (done : Packing.archive root destination found tree = (.ok report, after)) :
    ∃ start results, makeFolders parent tree = (.ok (), start) ∧
      writeArchive (root.join ⟨destination⟩) (found.filter (!·.same (root.join ⟨destination⟩)))
        start = (.ok results, after) := by
  obtain ⟨left, member, other⟩ := some_left
  have nonempty : (found.filter (!·.same (root.join ⟨destination⟩))).isEmpty = false := by
    refine List.isEmpty_eq_false_iff.mpr (List.ne_nil_of_mem (a := left) ?_)
    exact List.mem_filter.mpr ⟨member, by simp [other]⟩
  unfold Packing.archive at done
  dsimp only at done
  rw [nonempty, above] at done
  obtain ⟨_, start, made, packs⟩ := Changes.bind_apply_eq_ok_iff.mp done
  obtain ⟨results, last, writes, records⟩ := Changes.bind_apply_eq_ok_iff.mp packs
  obtain ⟨rfl, -⟩ := look_eq_ok records
  exact ⟨start, results, Changes.at_eq_ok made, writes⟩

end Packing

end FileQuery
