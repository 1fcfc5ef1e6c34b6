import FileQuery.Proofs.Archive.Packed
import FileQuery.Proofs.Archive.Unpacked
import Mathlib.Tactic.FinCases

/-!
# Packing and unpacking again

What is packed is unpacked as it was: the entries that were selected, with all folders and the bytes
of all files, but not the archive itself. The archive is left out where the walk comes by it under
the path that was given for it. Where it lies among the entries and was given by another path,
through a link, it is packed as well.
-/

namespace FileQuery

namespace FileTree

variable {tree begun later : FileTree} {archive directory : Path} {home place rest : Place}
  {names : List String} {name : String} {bytes : List UInt8}

/-- What is at or below selected entries, but for a file at a place. -/
def selectedBut (tree : FileTree) (home : Place) (names : List String) (place below : Place) :
    Option Substance :=
  if home ++ below = place then none else tree.selected home names below

/-- A file that is written was opened first. -/
theorem exists_truncate_of_write (written : tree.write archive bytes = .ok later)
    (leads : tree.LeadsTo archive place) :
    ∃ opened, tree.truncate archive = .ok (opened, place) := by
  cases opens : tree.truncate archive with
  | error error =>
    rw [write, opens] at written
    cases written
  | ok result =>
    obtain ⟨opened, other⟩ := result
    obtain rfl := leads.unique (content?_truncate opens).1
    exact ⟨opened, rfl⟩

/-- Entries can still be packed when the archive has been opened, if it can be packed where it is
    among them. -/
theorem Packable.of_written (packable : tree.Packable directory home names)
    (changed : ∀ other, later.substance? other =
      if other = place then some (.file bytes) else tree.substance? other)
    (own : ∀ name ∈ names, ∀ rest, place = home ++ name :: rest →
      (∀ next ∈ name :: rest, Portable next) ∧ directory.Followable (name :: rest)) :
    later.Packable directory home names := by
  have before {other : Place} (differs : other ≠ place) (there : later.get? other ≠ none) :
      tree.get? other ≠ none := by
    intro none
    refine there (substance?_eq_none.mp ?_)
    rw [changed, if_neg differs, substance?_eq_none.mpr none]
  refine ⟨packable.distinct, fun name listed none => ?_, fun name listed rest target linked => ?_,
    fun name listed rest there => ?_, fun name listed rest there => ?_⟩
  · have none' := changed (home ++ [name])
    rw [substance?_eq_none.mpr none] at none'
    split at none'
    · cases none'
    · exact packable.there name listed (substance?_eq_none.mp none'.symm)
  · have linked' := changed (home ++ name :: rest)
    rw [substance?_eq_link.mpr linked] at linked'
    split at linked'
    · cases linked'
    · exact packable.unlinked name listed rest target (substance?_eq_link.mp linked'.symm)
  · by_cases itself : home ++ name :: rest = place
    · exact (own name listed rest itself.symm).1
    · exact packable.portable name listed rest (before itself there)
  · by_cases itself : home ++ name :: rest = place
    · exact (own name listed rest itself.symm).2
    · exact packable.followable name listed rest (before itself there)

section

variable {left : Nat} (packable : begun.Packable directory home names)
  (reaches : begun.Reaches directory left home) (leads : begun.LeadsTo archive place)
  (changed : ∀ other, begun.substance? other =
    if other = place then some (.file []) else tree.substance? other)

include packable reaches leads changed

/-- Wherever the archive does not lie, it holds what was selected. -/
theorem packed_of_ne {below : Place} (elsewhere : home ++ below ≠ place) :
    begun.packed archive directory home names below = tree.selected home names below := by
  cases below with
  | nil => rfl
  | cons name rest =>
    have same :
        begun.substance? (home ++ name :: rest) = tree.substance? (home ++ name :: rest) := by
      rw [changed, if_neg elsewhere]
    rw [packed, selected, selected, same]
    split
    · rename_i itself
      split
      · rename_i listed
        refine Classical.byContradiction fun there => elsewhere ?_
        have there' : begun.get? (home ++ name :: rest) ≠ none := fun none =>
          there ((substance?_eq_none.mpr none).symm.trans same)
        exact (packable.place_of_same reaches listed there' itself leads).symm
      · rfl
    · rfl

/-- An archive holds what was selected but for itself, exactly if it lies in none of the entries or
    is given by the path under which it is met there. -/
theorem packed_eq_iff
    (isFolder : ∃ stamps entries, begun.get? home = some (.folder stamps entries)) :
    (∀ below, begun.packed archive directory home names below =
        tree.selectedBut home names place below) ↔
      ∀ name ∈ names, ∀ rest, place = home ++ name :: rest →
        (directory.down (name :: rest)).same archive = true := by
  constructor
  · intro equal name listed rest at_place
    refine Classical.byContradiction fun differs => ?_
    have held := equal (name :: rest)
    rw [packed, if_neg differs, selected, if_pos listed, selectedBut, if_pos at_place.symm,
      changed, if_pos at_place.symm] at held
    cases held
  · intro spelled below
    by_cases at_place : home ++ below = place
    · rw [selectedBut, if_pos at_place]
      cases below with
      | nil =>
        have isFile := changed home
        rw [if_pos (by simpa using at_place), substance?_eq_folder.mpr isFolder] at isFile
        cases isFile
      | cons name rest =>
        rw [packed, selected]
        split
        · rfl
        · rename_i differs
          refine if_neg fun listed => differs (spelled name listed rest at_place.symm)
    · rw [packed_of_ne packable reaches leads changed at_place, selectedBut, if_neg at_place]

end

end FileTree

/-- A path leads to the folder that is found by it. -/
theorem FileTree.reaches_of_locate {tree : FileTree} {path : Path} {place : Place} {stamps : Stamps}
    {entries : List (String × Node)}
    (located : tree.locate .follow path = .ok (place, .folder stamps entries)) :
    ∃ left, tree.Reaches path left place := by
  obtain ⟨slash, leads, at_place⟩ := locate_eq_ok located
  exact (comesOut_of_resolve leads).exists_leads_keeps (.refl tree) at_place

/-- A folder without entries holds nothing. -/
theorem FileTree.holds_of_locate {tree : FileTree} {path : Path} {place : Place} {stamps : Stamps}
    (located : tree.locate .follow path = .ok (place, .folder stamps [])) :
    tree.Holds place [([], none)] := by
  obtain ⟨slash, -, at_place⟩ := locate_eq_ok located
  intro below
  rw [substance?, get?_append, at_place]
  cases below <;> rfl

namespace Packing

open FileTree

variable {tree begun : FileTree} {archive directory : Path} {home place : Place}
  {names : List String} {left : Nat}

/-- What becomes of entries that are written to an archive. -/
theorem writeArchive_apply (named : tree.Named) (grounded : tree.Grounded)
    (begins : tree.write archive [] = .ok begun) (leads : tree.LeadsTo archive place)
    {members : List Archive.Member} {found : List Path}
    {results : List (Except ExecutionError Unit)}
    (collects : collect begun archive found = (members, .ok results)) :
    ∃ after, writeArchive archive found tree = (.ok results, after) ∧
      after.read archive = .ok (Archive.encode members) := by
  obtain ⟨opened, opens⟩ := exists_truncate_of_write begins leads
  obtain ⟨later, begins', changed, keeps, named'⟩ := exists_written named grounded opens []
  obtain rfl := Except.ok.inj (begins.symm.trans begins')
  have empty : begun.substance? place = some (.file []) := by rw [changed, if_pos rfl]
  obtain ⟨stamps, executable, isFile⟩ := substance?_eq_file.mp empty
  have opens' := truncate_again opens keeps isFile
  obtain ⟨after, written, changed', keeps', -⟩ :=
    exists_written named' (grounded.keeps keeps) opens' (Archive.encode members)
  have full : after.substance? place = some (.file (Archive.encode members)) := by
    rw [changed', if_pos rfl]
  obtain ⟨stamps', executable', isFile'⟩ := substance?_eq_file.mp full
  refine ⟨after, ?_, read_again opens' keeps' isFile'⟩
  unfold writeArchive
  rw [Changes.bind_apply, Changes.at, Changes.mapError, Changes.ofChange, begins]
  dsimp only
  rw [Changes.bind_apply, Changes.look, collects]
  dsimp only
  rw [Changes.bind_apply, Changes.at, Changes.mapError, Changes.ofChange, written]
  rfl

/-- Entries of the folder that a path leads to can be written to an archive at a place. Opening the
    archive, which empties it, is what comes first. -/
structure Ready (tree begun : FileTree) (archive directory : Path) (home place : Place)
    (names : List String) : Prop where
  named : tree.Named
  grounded : tree.Grounded
  located : ∃ stamps entries, tree.locate .follow directory = .ok (home, .folder stamps entries)
  packable : tree.Packable directory home names
  begins : tree.write archive [] = .ok begun
  leads : tree.LeadsTo archive place
  /-- Where the archive is among the entries, it can be packed like them. -/
  own : ∀ name ∈ names, ∀ rest, place = home ++ name :: rest →
    (∀ next ∈ name :: rest, Portable next) ∧ directory.Followable (name :: rest)

/-- Entries of a folder are written to an archive, without an error for any of them, and extracting
    a copy of it into an empty folder leaves there what is expected, whatever tree that folder is
    in. Only the names and paths there must not be longer than such can be. -/
def Restores (tree begun : FileTree) (archive directory : Path) (home : Place)
    (names : List String) (expected : (Place → Option Substance) → Prop) : Prop :=
  ∃ bytes after, writeArchive archive (names.map directory.child) tree =
      (.ok (names.map fun _ => .ok ()), after) ∧ after.read archive = .ok bytes ∧
    ∀ (later : FileTree) (copy target : Path) (goal : Place) (stamps : Stamps),
      later.Named → later.read copy = .ok bytes →
      later.locate .follow target = .ok (goal, .folder stamps []) →
      (∀ name ∈ goal, ¬ FileTree.nameLimit < Text.byteLength name.toList) →
      (∀ name ∈ names, ∀ rest, begun.get? (home ++ name :: rest) ≠ none →
        (Path.ofPlace goal).Followable (name :: rest)) →
      ∃ final, Archive.extract copy target later = (.ok (), final) ∧
        expected fun below => final.substance? (goal ++ below)

/-- What is expected can be replaced by what follows from it. -/
theorem Restores.mono {expected expected' : (Place → Option Substance) → Prop}
    (restores : Restores tree begun archive directory home names expected)
    (follows : ∀ found, expected found → expected' found) :
    Restores tree begun archive directory home names expected' := by
  obtain ⟨bytes, after, writes, reads, extracts⟩ := restores
  refine ⟨bytes, after, writes, reads, fun later copy target goal stamps named reads' located short
    room => ?_⟩
  obtain ⟨final, extracted, held⟩ := extracts later copy target goal stamps named reads' located
    short room
  exact ⟨final, extracted, follows _ held⟩

/-- Two expectations are met at once. -/
theorem Restores.and {expected expected' : (Place → Option Substance) → Prop}
    (restores : Restores tree begun archive directory home names expected)
    (restores' : Restores tree begun archive directory home names expected') :
    Restores tree begun archive directory home names fun found =>
      expected found ∧ expected' found := by
  obtain ⟨bytes, after, writes, reads, extracts⟩ := restores
  obtain ⟨bytes', after', writes', reads', extracts'⟩ := restores'
  obtain rfl := (Prod.mk.inj (writes.symm.trans writes')).2
  obtain rfl := Except.ok.inj (reads.symm.trans reads')
  refine ⟨bytes, after, writes, reads, fun later copy target goal stamps named read located short
    room => ?_⟩
  obtain ⟨final, extracted, held⟩ := extracts later copy target goal stamps named read located
    short room
  obtain ⟨final', extracted', held'⟩ := extracts' later copy target goal stamps named read located
    short room
  obtain rfl := (Prod.mk.inj (extracted.symm.trans extracted')).2
  exact ⟨final, extracted, held, held'⟩

section

variable (ready : Ready tree begun archive directory home place names)

include ready

/-- Opening the archive makes its place an empty file. -/
theorem Ready.changed : (∀ other, begun.substance? other =
      if other = place then some (.file []) else tree.substance? other) ∧
    tree.Keeps begun ∧ begun.Named ∧ begun.LeadsTo archive place := by
  obtain ⟨opened, opens⟩ := exists_truncate_of_write ready.begins ready.leads
  obtain ⟨later, begins, changed, keeps, named⟩ :=
    exists_written ready.named ready.grounded opens []
  obtain rfl := Except.ok.inj (ready.begins.symm.trans begins)
  have empty : begun.substance? place = some (.file []) := by rw [changed, if_pos rfl]
  obtain ⟨_, _, isFile⟩ := substance?_eq_file.mp empty
  exact ⟨changed, keeps, named, _, _, resolve_again opens keeps isFile⟩

/-- The entries can be packed when the archive has been opened. -/
theorem Ready.opened : begun.Packable directory home names ∧
    (∃ stamps entries, begun.get? home = some (.folder stamps entries)) ∧
      ∃ left, begun.Reaches directory left home := by
  obtain ⟨changed, keeps, -, -⟩ := ready.changed
  obtain ⟨_, _, located⟩ := ready.located
  obtain ⟨left, reaches⟩ := reaches_of_locate located
  obtain ⟨_, -, at_home⟩ := locate_eq_ok located
  exact ⟨ready.packable.of_written changed ready.own, keeps.folders _ _ _ at_home, left,
    reaches.keeps keeps⟩

/-- What is written to the archive. -/
theorem Ready.collect_eq : collect begun archive (names.map directory.child) =
    ((begun.parcels archive directory home names).map Parcel.member,
      .ok (names.map fun _ => .ok ())) := by
  obtain ⟨packable, -, left, reaches⟩ := ready.opened
  exact collect_apply ready.changed.2.2.1 packable reaches

/-- What the entries are packed to when the archive has been opened comes back. -/
theorem Ready.restores
    (readsBack : Archive.ReadsBack (collect begun archive (names.map directory.child)).1) :
    Restores tree begun archive directory home names fun found =>
      ∀ below, found below = begun.packed archive directory home names below := by
  obtain ⟨changed, -, named, leads⟩ := ready.changed
  obtain ⟨packable, -, left, reaches⟩ := ready.opened
  have empty : begun.content? place = some [] := by
    have held : begun.substance? place = some (.file []) := by rw [changed, if_pos rfl]
    obtain ⟨_, _, isFile⟩ := substance?_eq_file.mp held
    rw [content?, isFile]
    rfl
  obtain ⟨after, writes, reads⟩ := writeArchive_apply ready.named ready.grounded ready.begins
    ready.leads ready.collect_eq
  refine ⟨_, after, writes, reads, fun later copy target goal stamps named' reads' located' short
    room => ?_⟩
  rw [ready.collect_eq] at readsBack
  obtain ⟨found, lists, gives⟩ := readsBack
  have areNames := (named_iff_throughout.mp named').areNames (locate_eq_ok located').choose_spec.2
  have each : ∀ parcel ∈ begun.parcels archive directory home names,
      (∀ name ∈ parcel.1, Portable name) ∧ (Path.ofPlace goal).Followable parcel.1 := by
    rintro ⟨_, content⟩ listed
    obtain ⟨⟨name, rest, node, rfl, among, found, -⟩, -⟩ :=
      (mem_parcels_iff named packable.distinct).mp listed
    have there : begun.get? (home ++ name :: rest) ≠ none := by simp [found]
    exact ⟨packable.portable name among rest there, room name among rest there⟩
  obtain ⟨final, extracts, held⟩ := Archive.extract_apply reads' lists
    (List.forall₂_map_left_iff.mp gives) located' (holds_of_locate located') areNames short each
    (packable.follow_parcels named reaches empty leads)
  exact ⟨final, extracts, fun below => (held below).trans (packable.lookup_parcels named below)⟩

end

/-- Entries of a folder are written to an archive and extracted into an empty folder again. Then
    that folder holds the entries, with the structure and the bytes that they had, and nothing else:
    wherever the archive does not lie, and where it does exactly if it lies in none of the entries
    or is given by the path under which it is met there. -/
theorem extract_writeArchive (ready : Ready tree begun archive directory home place names)
    (readsBack : Archive.ReadsBack (collect begun archive (names.map directory.child)).1) :
    Restores tree begun archive directory home names fun found =>
      (∀ below, home ++ below ≠ place → found below = tree.selected home names below) ∧
      ((∀ below, found below = tree.selectedBut home names place below) ↔
        ∀ name ∈ names, ∀ rest, place = home ++ name :: rest →
          (directory.down (name :: rest)).same archive = true) := by
  obtain ⟨changed, -, -, leads⟩ := ready.changed
  obtain ⟨packable, isFolder, left, reaches⟩ := ready.opened
  refine (ready.restores readsBack).mono fun found held => ⟨fun below elsewhere => ?_, ?_⟩
  · rw [held, packed_of_ne packable reaches leads changed elsewhere]
  · simp only [held]
    exact packed_eq_iff packable reaches leads changed isFolder

/-! ### A folder with another name -/

/-- The entries of a folder: an empty folder and a file. -/
def aliasedEntries : List (String × Node) :=
  [("d", .folder (.ofInstant .epoch) []), ("f", .file (.ofInstant .epoch) false [104, 105])]

/-- The entries of the folder when an archive in it has been opened. -/
def openedEntries : List (String × Node) :=
  aliasedEntries ++ [("out.zip", .file (.ofInstant .epoch) false [])]

/-- A tree with a folder and a link to it. -/
def aliased (entries : List (String × Node)) : FileTree :=
  ⟨.folder (.ofInstant .epoch)
    [("sub", .folder (.ofInstant .epoch) entries), ("l", .link "sub")], [], .epoch⟩

/-- The paths to an archive in the folder. -/
def aliases : List Path := [⟨"/sub/out.zip"⟩, ⟨"/l/out.zip"⟩]

theorem portable_aliased {name : String}
    (listed : name ∈ ["sub", "d", "f", "out.zip", "l", "a.zip", "x"]) : Portable name := by
  fin_cases listed <;> exact ⟨by constructor <;> decide, by decide, by decide⟩

theorem named_aliased : (aliased aliasedEntries).Named := by
  refine named_iff_throughout.mpr (Node.throughout_folder ⟨?_, by decide⟩
    (List.forall_mem_cons.mpr ⟨Node.throughout_folder ⟨?_, by decide⟩ ?_,
      List.forall_mem_singleton.mpr (Node.throughout_link trivial)⟩))
  · simp [(portable_aliased _).toIsName]
  · simp [aliasedEntries, (portable_aliased _).toIsName]
  · intro entry listed
    fin_cases listed
    · exact Node.throughout_emptyFolder .epoch
    · exact Node.throughout_file _ _ _

theorem followable_aliased {front : Path} (given : front ∈ [⟨"/"⟩, .ofPlace ["x"]]) {place : Place}
    (listed : place ∈ [["sub"], ["sub", "d"], ["sub", "f"], ["sub", "out.zip"]]) :
    front.Followable place := by
  simp only [List.mem_cons, List.not_mem_nil, or_false] at given
  rcases given with rfl | rfl <;> fin_cases listed <;> exact ⟨by decide, by decide⟩

theorem packable_aliased : (aliased aliasedEntries).Packable ⟨"/"⟩ [] ["sub"] := by
  refine .of_walks named_aliased (by decide) (List.forall_mem_singleton.mpr ⟨_, rfl, ?_⟩)
  intro met listed
  fin_cases listed <;>
    exact ⟨nofun, by simp [portable_aliased], followable_aliased (by decide) (by decide)⟩

/-- The folder can be packed to an archive in it, whichever path is given for the archive. -/
theorem ready_aliased {archive : Path} (given : archive ∈ aliases) :
    Ready (aliased aliasedEntries) (aliased openedEntries) archive ⟨"/"⟩ [] ["sub", "out.zip"]
      ["sub"] := by
  have leads : (aliased aliasedEntries).resolve .follow archive =
      .ok ⟨["sub", "out.zip"], none, false⟩ := by
    simp only [aliases, List.mem_cons, List.not_mem_nil, or_false] at given
    rcases given with rfl | rfl <;>
      simp [aliased, aliasedEntries, resolve, checkPath, pathLimit, names, Path.segments, descend,
        start, Path.isAbsolute, get?, Node.get?, nameLimit, Text.byteLength, Char.utf8Size,
        List.lookup_cons, linkLimit]
  have located : (aliased aliasedEntries).locate .follow ⟨"/"⟩ =
      .ok ([], (aliased aliasedEntries).root) := by
    simp [locate, resolve, checkPath, pathLimit, names, Path.segments, descend, start,
      Path.isAbsolute, get?, Node.get?, Text.byteLength, Char.utf8Size, linkLimit]
  refine ⟨named_aliased, ⟨_, _, rfl⟩, ⟨_, _, located⟩, packable_aliased, ?_, ⟨_, _, leads⟩, ?_⟩
  · rw [write, truncate, leads]
    rfl
  · rintro name listed rest ⟨⟩
    exact ⟨by simp [portable_aliased], followable_aliased (by decide) (by decide)⟩

/-- The folder is packed with the archive, if the archive is given by another path. -/
theorem parcels_aliased (archive : Path) :
    (aliased openedEntries).parcels archive ⟨"/"⟩ [] ["sub"] =
      [(["sub"], none), (["sub", "d"], none), (["sub", "f"], some [104, 105]),
        (["sub", "out.zip"], some [])].filter
          fun parcel => !((⟨"/"⟩ : Path).down parcel.1).same archive := by
  have found : (aliased openedEntries).get? ["sub"] =
    some (.folder (.ofInstant .epoch) openedEntries) := rfl
  have inner : Node.sortedEntries openedEntries = openedEntries := by
    simp [openedEntries, aliasedEntries, Node.sortedEntries, Node.sorted]
  have ordered : openedEntries.Pairwise
      (fun first second => Node.namedBefore first second = true) := by
    simp [openedEntries, aliasedEntries, Node.namedBefore]
  rw [parcels, selection, List.filterMap_cons, List.nil_append, found, Option.map_some, Node.sorted,
    inner, List.mergeSort_of_pairwise ordered]
  rfl

theorem readsBack_aliased {archive : Path} (given : archive ∈ aliases) :
    Archive.ReadsBack
      (collect (aliased openedEntries) archive (["sub"].map (Path.child ⟨"/"⟩))).1 := by
  rw [(ready_aliased given).collect_eq, parcels_aliased]
  simp only [aliases, List.mem_cons, List.not_mem_nil, or_false] at given
  rcases given with rfl | rfl <;> exact Archive.readsBack_of_fits (by decide +kernel)

/-- A tree with an archive and an empty folder. -/
def beside (bytes : List UInt8) : FileTree :=
  ⟨.folder (.ofInstant .epoch) [("a.zip", .file (.ofInstant .epoch) false bytes),
    ("x", .folder (.ofInstant .epoch) [])], [], .epoch⟩

theorem named_beside (bytes : List UInt8) : (beside bytes).Named := by
  refine named_iff_throughout.mpr (Node.throughout_folder ⟨?_, by simp⟩ ?_)
  · simp [(portable_aliased _).toIsName]
  · intro entry listed
    fin_cases listed
    · exact Node.throughout_file _ _ _
    · exact Node.throughout_emptyFolder .epoch

theorem read_beside (bytes : List UInt8) : (beside bytes).read ⟨"/a.zip"⟩ = .ok bytes ∧
    (beside bytes).locate .follow ⟨"/x"⟩ = .ok (["x"], .folder (.ofInstant .epoch) []) := by
  constructor <;>
    simp [beside, FileTree.read, find, locate, resolve, checkPath, pathLimit, names, Path.segments,
      descend, start, Path.isAbsolute, get?, Node.get?, nameLimit, Text.byteLength, Char.utf8Size,
      List.lookup_cons, Except.map]

/-- The archive is given by the path under which it is met. -/
theorem extract_writeArchive_aliased :
    Ready (aliased aliasedEntries) (aliased openedEntries) ⟨"/sub/out.zip"⟩ ⟨"/"⟩ []
      ["sub", "out.zip"] ["sub"] ∧
    Archive.ReadsBack
      (collect (aliased openedEntries) ⟨"/sub/out.zip"⟩ (["sub"].map (Path.child ⟨"/"⟩))).1 ∧
    Restores (aliased aliasedEntries) (aliased openedEntries) ⟨"/sub/out.zip"⟩ ⟨"/"⟩ [] ["sub"]
      fun found => ∀ below, found below =
        (aliased aliasedEntries).selectedBut [] ["sub"] ["sub", "out.zip"] below := by
  have given : ⟨"/sub/out.zip"⟩ ∈ aliases := by decide
  refine ⟨ready_aliased given, readsBack_aliased given,
    (extract_writeArchive (ready_aliased given) (readsBack_aliased given)).mono
      fun found held => held.2.mpr ?_⟩
  rintro name listed rest ⟨⟩
  decide

/-- The archive is packed into itself, where another path is given for it. -/
theorem not_forall_extract_writeArchive :
    ¬ ∀ (tree begun : FileTree) (root directory : Path) (home place : Place) (names : List String)
      (selection : Selection) (destination : String) (plan : Plan),
      Plan.ofStatement (.archive selection destination) = .ok plan →
      Ready tree begun (root.join ⟨destination⟩) directory home place names →
      Archive.ReadsBack
        (collect begun (root.join ⟨destination⟩) (names.map directory.child)).1 →
      Restores tree begun (root.join ⟨destination⟩) directory home names fun found =>
        ∀ below, found below = tree.selectedBut home names place below := by
  intro restores
  have given : (⟨"/"⟩ : Path).join ⟨"l/out.zip"⟩ ∈ aliases := by decide
  have ready := ready_aliased given
  have readsBack := readsBack_aliased given
  have accepted : Plan.ofStatement (.archive ⟨"folders", "", none⟩ "l/out.zip") =
    .ok ⟨.folders, "", none, .archive "l/out.zip"⟩ := by decide
  obtain ⟨bytes, _, -, -, extracts⟩ :=
    (restores _ _ _ _ _ _ _ _ _ _ accepted ready readsBack).and (ready.restores readsBack)
  have room : ∀ name ∈ ["sub"], ∀ rest, (aliased openedEntries).get? ([] ++ name :: rest) ≠ none →
      (Path.ofPlace ["x"]).Followable (name :: rest) := by
    intro name listed rest there
    obtain rfl := List.mem_singleton.mp listed
    obtain ⟨found, at_place⟩ := Option.ne_none_iff_exists'.mp there
    have walked := ready.changed.2.2.1.mem_walk rfl at_place
    generalize "sub" :: rest = place at walked ⊢
    fin_cases walked <;> exact followable_aliased (by decide) (by decide)
  obtain ⟨final, -, without, itself⟩ := extracts (beside bytes) ⟨"/a.zip"⟩ ⟨"/x"⟩ ["x"]
    (.ofInstant .epoch) (named_beside bytes) (read_beside bytes).1 (read_beside bytes).2
    (by decide) room
  have held := (itself ["sub", "out.zip"]).symm.trans (without ["sub", "out.zip"])
  have packed : (aliased openedEntries).packed ((⟨"/"⟩ : Path).join ⟨"l/out.zip"⟩) ⟨"/"⟩ []
      ["sub"] ["sub", "out.zip"] = some (.file []) := by decide
  have left_out : (aliased aliasedEntries).selectedBut [] ["sub"] ["sub", "out.zip"]
      ["sub", "out.zip"] = none := by decide
  rw [packed, left_out] at held
  cases held

end Packing

end FileQuery
