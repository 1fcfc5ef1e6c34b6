import FileQuery.Proofs.Archive.Parcels
import FileQuery.Proofs.FileTree.Substances
import FileQuery.Proofs.FileTree.Walks
import FileQuery.Proofs.Transfer.Copies

/-!
# What is packed

Entries of a folder without links are packed as they are: in a walk through each of them, one parcel
for each place, and each in a folder that is packed before. The archive itself is left out where
the walk comes by it under the path that was given for it.
-/

namespace FileQuery

namespace Parcel

/-- The parcel of a node that a walk comes by. -/
def ofNode (met : Place × Node) : Parcel := (met.1, met.2.content?)

variable {before : List Parcel} {allowed : String → Prop} {front place : Place} {name : String}
  {node : Node} {entries : List (String × Node)} {content : Option (List UInt8)}

/-- A parcel follows others, if the folder that it is in is among them and nothing at or below its
    place is. -/
theorem follow_singleton (content : Option (List UInt8)) (above : (front, none) ∈ before)
    (new : ∀ parcel ∈ before, ¬ front ++ [name] <+: parcel.1) :
    Follow before [(front ++ [name], content)] := by
  refine ⟨⟨front, name, rfl, above, fun among => ?_⟩, trivial⟩
  obtain ⟨parcel, listed, same⟩ := List.mem_map.mp among
  exact new parcel listed (same ▸ List.prefix_refl _)

/-- Walks through entries make parcels that follow others, if the walk through each entry does. -/
theorem follow_walkEntries (throughout : ∀ entry ∈ entries, entry.2.Throughout allowed)
    (walks : ∀ entry ∈ entries, ∀ before, (place, none) ∈ before →
      (∀ parcel ∈ before, ¬ place ++ [entry.1] <+: parcel.1) →
        Follow before ((entry.2.walk (place ++ [entry.1])).map ofNode))
    (distinct : (entries.map (·.1)).Nodup) (above : (place, none) ∈ before)
    (new : ∀ entry ∈ entries, ∀ parcel ∈ before, ¬ place ++ [entry.1] <+: parcel.1) :
    Follow before ((Node.walkEntries place entries).map ofNode) := by
  induction entries generalizing before with
  | nil => trivial
  | cons entry entries inductionHypothesis =>
    obtain ⟨throughout, throughout'⟩ := List.forall_mem_cons.mp throughout
    obtain ⟨walk, walks'⟩ := List.forall_mem_cons.mp walks
    obtain ⟨fresh, distinct'⟩ := List.nodup_cons.mp distinct
    obtain ⟨new, new'⟩ := List.forall_mem_cons.mp new
    rw [Node.walkEntries, List.map_append]
    refine (walk before above new).append
      (inductionHypothesis throughout' walks' distinct' (List.mem_append_left _ above) ?_)
    intro other among parcel listed starts
    rcases List.mem_append.mp listed with listed | listed
    · exact new' other among parcel listed starts
    · obtain ⟨⟨_, found⟩, met, rfl⟩ := List.mem_map.mp listed
      obtain ⟨below, rfl, -⟩ := (Node.mem_walk_iff throughout).mp met
      rw [ofNode, List.append_assoc, List.prefix_append_right_inj, List.singleton_append,
        List.cons_prefix_cons] at starts
      exact fresh (List.mem_map.mpr ⟨other, among, starts.1⟩)

/-- A walk makes parcels that follow others, if the folder that it starts in is among them and
    nothing at or below its start is. -/
theorem follow_walk (throughout : node.Throughout allowed) (above : (front, none) ∈ before)
    (new : ∀ parcel ∈ before, ¬ front ++ [name] <+: parcel.1) :
    Follow before ((node.walk (front ++ [name])).map ofNode) := by
  induction node using Node.inductionOn generalizing front name before with
  | file | link => exact follow_singleton _ above new
  | folder stamps entries inductionHypothesis =>
    have orderly : Node.Orderly allowed (.folder stamps entries) := throughout [] _ rfl
    rw [Node.walk, List.map_cons]
    refine Follow.append (follow_singleton none above new) (follow_walkEntries
      (fun entry => throughout.of_mem) (fun entry listed before' above' new' =>
        inductionHypothesis entry listed (throughout.of_mem listed) above' new')
      orderly.2 (List.mem_append_right _ List.mem_cons_self) ?_)
    intro entry _ parcel listed starts
    rcases List.mem_append.mp listed with listed | listed
    · exact new parcel listed ((List.prefix_append _ _).trans starts)
    · obtain rfl := List.mem_singleton.mp listed
      have longer := starts.length_le
      simp at longer

end Parcel

/-! ## Entries that are packed -/

@[simp] theorem Node.content?_sorted (node : Node) : node.sorted.content? = node.content? := by
  cases node <;> simp [sorted, content?]

namespace FileTree

/-- The entries of the folder at a place that are selected by their names, with the entries of every
    folder below them in the order of their names. -/
def selection (tree : FileTree) (home : Place) (names : List String) : List (String × Node) :=
  names.filterMap fun name => (tree.get? (home ++ [name])).map fun node => (name, node.sorted)

/-- The parcels that selected entries of a folder are packed to: those of a walk through each of
    them, but for the archive under its own path. -/
def parcels (tree : FileTree) (archive directory : Path) (home : Place) (names : List String) :
    List Parcel :=
  ((Node.walkEntries [] (tree.selection home names)).map Parcel.ofNode).filter
    fun parcel => !(directory.down parcel.1).same archive

/-- What is in the folder at a place at or below entries that are selected by their names. -/
def selected (tree : FileTree) (home : Place) (names : List String) : Place → Option Substance
  | [] => some .folder
  | name :: rest => if name ∈ names then tree.substance? (home ++ name :: rest) else none

/-- What an archive holds of selected entries: all of them, but for itself under its own path. -/
def packed (tree : FileTree) (archive directory : Path) (home : Place) (names : List String) :
    Place → Option Substance
  | [] => some .folder
  | name :: rest =>
    if (directory.down (name :: rest)).same archive then none
    else tree.selected home names (name :: rest)

/-- Entries of a folder, selected by their names, can be packed: they are there, with no link at or
    below them, the names go through an archive as they are, and the paths can be followed. -/
structure Packable (tree : FileTree) (directory : Path) (home : Place) (names : List String) :
    Prop where
  distinct : names.Nodup
  there : ∀ name ∈ names, tree.get? (home ++ [name]) ≠ none
  unlinked : ∀ name ∈ names, ∀ rest target,
    tree.get? (home ++ name :: rest) ≠ some (.link target)
  portable : ∀ name ∈ names, ∀ rest, tree.get? (home ++ name :: rest) ≠ none →
    ∀ next ∈ name :: rest, Portable next
  followable : ∀ name ∈ names, ∀ rest, tree.get? (home ++ name :: rest) ≠ none →
    directory.Followable (name :: rest)

variable {tree : FileTree} {archive directory : Path} {home place rest : Place}
  {names : List String} {name : String} {node : Node} {left : Nat}
  {content : Option (List UInt8)}

/-- A walk through an entry of a folder comes by what is at or below it. -/
theorem Named.mem_walk (named : tree.Named) {node found : Node}
    (there : tree.get? (home ++ [name]) = some node)
    (at_place : tree.get? (home ++ name :: rest) = some found) :
    (name :: rest, found) ∈ node.walk [name] := by
  rw [← List.singleton_append, ← List.append_assoc, get?_append, there]
    at at_place
  have throughout := (named_iff_throughout.mp named).below there
  exact (Node.mem_walk_iff throughout).mpr ⟨rest, rfl, at_place⟩

/-- Entries can be packed, if walks through them come by nothing that cannot. -/
theorem Packable.of_walks (named : tree.Named) (distinct : names.Nodup)
    (walks : ∀ name ∈ names, ∃ node, tree.get? (home ++ [name]) = some node ∧
      ∀ met ∈ node.walk [name], (∀ target, met.2 ≠ .link target) ∧
        (∀ next ∈ met.1, Portable next) ∧ directory.Followable met.1) :
    tree.Packable directory home names := by
  have meets : ∀ name ∈ names, ∀ rest found, tree.get? (home ++ name :: rest) = some found →
      (∀ target, found ≠ .link target) ∧ (∀ next ∈ name :: rest, Portable next) ∧
        directory.Followable (name :: rest) := by
    intro name listed rest found at_place
    obtain ⟨node, there, walked⟩ := walks name listed
    exact walked _ (named.mem_walk there at_place)
  refine ⟨distinct, fun name listed none => ?_, fun name listed rest target at_place =>
    (meets name listed rest _ at_place).1 target rfl, fun name listed rest there => ?_,
    fun name listed rest there => ?_⟩
  · obtain ⟨node, there, -⟩ := walks name listed
    rw [there] at none
    cases none
  · obtain ⟨found, at_place⟩ := Option.ne_none_iff_exists'.mp there
    exact (meets name listed rest found at_place).2.1
  · obtain ⟨found, at_place⟩ := Option.ne_none_iff_exists'.mp there
    exact (meets name listed rest found at_place).2.2

theorem lookup_selection (tree : FileTree) (home : Place) (names : List String) (name : String) :
    (tree.selection home names).lookup name =
      if name ∈ names then (tree.get? (home ++ [name])).map Node.sorted else none := by
  induction names with
  | nil => rfl
  | cons first names inductionHypothesis =>
    unfold selection at inductionHypothesis ⊢
    rw [List.filterMap_cons]
    cases found : tree.get? (home ++ [first]) with
    | none =>
      simp only [Option.map_none]
      rw [inductionHypothesis]
      by_cases same : name = first
      · simp [same, found]
      · simp [same]
    | some node =>
      simp only [Option.map_some]
      by_cases same : name = first
      · simp [same, found]
      · have differs : (name == first) = false := by simpa using same
        rw [List.lookup_cons, differs, inductionHypothesis]
        simp [same]

/-- The parcels of the first of several entries come first. -/
theorem parcels_cons (found : tree.get? (home ++ [name]) = some node) :
    tree.parcels archive directory home (name :: names) =
      (((node.sorted.walk [name]).map Parcel.ofNode).filter
        fun parcel => !(directory.down parcel.1).same archive) ++
        tree.parcels archive directory home names := by
  have first : tree.selection home (name :: names) =
      (name, node.sorted) :: tree.selection home names := by
    rw [selection, List.filterMap_cons, found]
    rfl
  rw [parcels, first, Node.walkEntries, List.map_append, List.filter_append]
  rfl

theorem sublist_selection (tree : FileTree) (home : Place) (names : List String) :
    ((tree.selection home names).map (·.1)).Sublist names := by
  induction names with
  | nil => exact .slnil
  | cons first names inductionHypothesis =>
    unfold selection at inductionHypothesis ⊢
    rw [List.filterMap_cons]
    cases tree.get? (home ++ [first]) with
    | none => exact inductionHypothesis.cons _
    | some node => exact inductionHypothesis.cons_cons _

theorem throughout_selection (named : tree.Named) (home : Place) (names : List String) :
    ∀ entry ∈ tree.selection home names, entry.2.Throughout fun _ => True := by
  intro entry listed
  obtain ⟨name, -, same⟩ := List.mem_filterMap.mp listed
  obtain ⟨node, found, rfl⟩ := Option.map_eq_some_iff.mp same
  exact ((named_iff_throughout.mp named).below found).sorted

/-- What is at or below selected entries. -/
theorem bind_lookup_selection (named : tree.Named) (home rest : Place) (names : List String)
    (name : String) : ((tree.selection home names).lookup name).bind (·.get? rest) =
      if name ∈ names then (tree.get? (home ++ name :: rest)).map Node.sorted else none := by
  rw [lookup_selection]
  split
  · have deeper : home ++ name :: rest = (home ++ [name]) ++ rest := by simp
    rw [deeper, get?, get?, Node.get?_append tree.root (home ++ [name])]
    cases found : tree.root.get? (home ++ [name]) with
    | none => rfl
    | some node =>
      have throughout := (named_iff_throughout.mp named).below found
      exact Node.get?_sorted throughout rest
  · rfl

section

variable (named : tree.Named) (distinct : names.Nodup)

include named distinct

/-- What a walk through selected entries comes by. -/
theorem mem_walk_selection_iff {met : Place} {found : Node} :
    (met, found) ∈ Node.walkEntries [] (tree.selection home names) ↔
      ∃ name rest node, met = name :: rest ∧ name ∈ names ∧
        tree.get? (home ++ name :: rest) = some node ∧ node.sorted = found := by
  have distinct' := distinct.sublist (tree.sublist_selection home names)
  rw [Node.mem_walkEntries_iff (fun entry listed _ _ _ =>
    Node.mem_walk_iff (throughout_selection named home names entry listed)) distinct']
  simp only [List.nil_append, bind_lookup_selection named, Option.ite_none_right_eq_some,
    Option.map_eq_some_iff]
  constructor
  · rintro ⟨name, rest, rfl, listed, node, found, same⟩
    exact ⟨name, rest, node, rfl, listed, found, same⟩
  · rintro ⟨name, rest, node, rfl, listed, found, same⟩
    exact ⟨name, rest, rfl, listed, node, found, same⟩

/-- The parcels that selected entries are packed to. -/
theorem mem_parcels_iff : (place, content) ∈ tree.parcels archive directory home names ↔
    (∃ name rest node, place = name :: rest ∧ name ∈ names ∧
      tree.get? (home ++ name :: rest) = some node ∧ node.content? = content) ∧
        (directory.down place).same archive = false := by
  rw [parcels, List.mem_filter, List.mem_map]
  have kept : (!(directory.down (place, content).1).same archive) = true ↔
      (directory.down place).same archive = false := by simp
  rw [kept]
  refine and_congr_left fun _ => ?_
  constructor
  · rintro ⟨⟨met, found⟩, walked, same⟩
    obtain ⟨name, rest, node, rfl, listed, found, rfl⟩ :=
      (mem_walk_selection_iff named distinct).mp walked
    obtain ⟨rfl, rfl⟩ := Prod.mk.inj same
    exact ⟨name, rest, node, rfl, listed, found, by simp⟩
  · rintro ⟨name, rest, node, rfl, listed, found, rfl⟩
    exact ⟨_, (mem_walk_selection_iff named distinct).mpr
      ⟨name, rest, node, rfl, listed, found, rfl⟩, by simp [Parcel.ofNode]⟩

/-- Each parcel of selected entries is in a folder that is packed before, if nothing but a file is
    left out. -/
theorem follow_parcels (filesOnly : ∀ name ∈ names, ∀ rest node,
      tree.get? (home ++ name :: rest) = some node → node.content? = none →
        (directory.down (name :: rest)).same archive = false) :
    Parcel.Follow [([], none)] (tree.parcels archive directory home names) := by
  have throughout := throughout_selection named home names
  have follow : Parcel.Follow [([], none)]
      ((Node.walkEntries [] (tree.selection home names)).map Parcel.ofNode) := by
    refine Parcel.follow_walkEntries throughout (fun entry listed before above new =>
      Parcel.follow_walk (throughout entry listed) above new)
      (distinct.sublist (tree.sublist_selection home names)) List.mem_cons_self ?_
    intro entry _ parcel listed
    rw [List.mem_singleton.mp listed]
    simp
  refine follow.filter (fun _ among => among) (fun _ among => among) fun met among => ?_
  obtain ⟨⟨_, _⟩, walked, same⟩ := List.mem_map.mp among
  obtain ⟨name, rest, node, rfl, listed, found, rfl⟩ :=
    (mem_walk_selection_iff named distinct).mp walked
  obtain ⟨rfl, none⟩ := Prod.mk.inj same
  rw [Node.content?_sorted] at none
  simpa using filesOnly name listed rest node found none

end

/-- What can be packed is in a folder, with a path that can be followed. -/
theorem Packable.exists_folder (packable : tree.Packable directory home names)
    (listed : name ∈ names) (found : tree.get? (home ++ name :: rest) = some node) :
    ∃ front final, name :: rest = front ++ [final] ∧
      (∃ stamps entries, tree.get? (home ++ front) = some (.folder stamps entries)) ∧
      (∀ next ∈ front ++ [final], IsName next) ∧ directory.Followable (front ++ [final]) ∧
      ∀ target, tree.get? (home ++ (front ++ [final])) ≠ some (.link target) := by
  have there : tree.get? (home ++ name :: rest) ≠ none := by simp [found]
  have portable := packable.portable name listed rest there
  have followable := packable.followable name listed rest there
  have unlinked := packable.unlinked name listed rest
  obtain ⟨front, final, whole⟩ : ∃ front final, name :: rest = front ++ [final] :=
    ⟨_, _, (List.dropLast_concat_getLast (List.cons_ne_nil name rest)).symm⟩
  rw [whole] at portable followable unlinked found
  rw [← List.append_assoc] at found
  exact ⟨front, final, whole, exists_folder_above found (List.cons_ne_nil _ _),
    fun next among => (portable next among).toIsName, followable, unlinked⟩

/-- Where a path leads that names something packed: to its place. -/
theorem Packable.place_of_same (packable : tree.Packable directory home names)
    (reaches : tree.Reaches directory left home) (listed : name ∈ names)
    (there : tree.get? (home ++ name :: rest) ≠ none)
    (same : (directory.down (name :: rest)).same archive = true)
    (leads : tree.LeadsTo archive place) : place = home ++ name :: rest := by
  obtain ⟨node, found⟩ := Option.ne_none_iff_exists'.mp there
  obtain ⟨front, final, whole, isFolder, areNames, followable, unlinked⟩ :=
    packable.exists_folder listed found
  rw [whole, Path.down_concat] at same
  rw [whole, ← List.append_assoc]
  rw [← List.append_assoc] at unlinked
  have reaches' := reaches.down (fun next among => areNames next (by simp [among]))
    (fun next among => followable.short next (by simp [among])) isFolder
  have within := ((Path.Within.refl (directory.down front)).child (areNames final (by simp))).trans
    (.of_same same)
  obtain ⟨_, _, leads⟩ := leads
  exact place_of_within reaches' isFolder within unlinked leads

/-- The path of something packed leads to it. -/
theorem Packable.resolve_down (packable : tree.Packable directory home names)
    (reaches : tree.Reaches directory left home) (listed : name ∈ names)
    (found : tree.get? (home ++ name :: rest) = some node) (last : LastLink) :
    tree.resolve last (directory.down (name :: rest)) =
      .ok ⟨home ++ name :: rest, some node, false⟩ := by
  obtain ⟨front, final, whole, isFolder, areNames, followable, unlinked⟩ :=
    packable.exists_folder listed found
  rw [whole] at found ⊢
  rw [FileTree.resolve_down reaches areNames followable isFolder last unlinked, found]

/-- The archive is opened as a file, so no folder that is packed is left out, and each parcel is in
    a folder that is packed before. -/
theorem Packable.follow_parcels (packable : tree.Packable directory home names)
    (named : tree.Named) (reaches : tree.Reaches directory left home) {bytes : List UInt8}
    (isFile : tree.content? place = some bytes)
    (leads : tree.LeadsTo archive place) :
    Parcel.Follow [([], none)] (tree.parcels archive directory home names) := by
  refine FileTree.follow_parcels named packable.distinct fun name listed rest node found none => ?_
  refine Bool.eq_false_iff.mpr fun itself => ?_
  have at_place := packable.place_of_same reaches listed (by simp [found]) itself leads
  rw [content?, at_place, found, Option.bind_some, none] at isFile
  cases isFile

/-- The parcels of selected entries are what an archive holds of them. -/
theorem Packable.lookup_parcels (packable : tree.Packable directory home names)
    (named : tree.Named) (below : Place) :
    ((([], none) :: tree.parcels archive directory home names).lookup below).map
        Parcel.substance = tree.packed archive directory home names below := by
  cases below with
  | nil => rfl
  | cons name rest =>
    have later : (([], none) :: tree.parcels archive directory home names).lookup (name :: rest) =
        (tree.parcels archive directory home names).lookup (name :: rest) := rfl
    rw [later, packed]
    cases found : (tree.parcels archive directory home names).lookup (name :: rest) with
    | some content =>
      obtain ⟨⟨name, rest, node, same, listed, found, rfl⟩, notItself⟩ :=
        (mem_parcels_iff named packable.distinct).mp (mem_of_lookup found)
      obtain ⟨rfl, rfl⟩ := List.cons.inj same
      have notLink (target : String) (isLink : node = .link target) : False :=
        packable.unlinked _ listed _ target (found.trans (congrArg some isLink))
      rw [if_neg (by simp [notItself]), selected, if_pos listed, substance?, found]
      cases node with
      | file | folder => rfl
      | link target => exact (notLink target rfl).elim
    | none =>
      have absent := List.lookup_eq_none_iff.mp found
      split
      · rfl
      rename_i notItself
      rw [selected]
      split
      · rename_i listed
        cases there : tree.get? (home ++ name :: rest) with
        | none => exact (substance?_eq_none.mpr there).symm
        | some node =>
          have packed : (name :: rest, node.content?) ∈
              tree.parcels archive directory home names :=
            (mem_parcels_iff named packable.distinct).mpr
              ⟨⟨name, rest, node, rfl, listed, there, rfl⟩, by simpa using notItself⟩
          exact absurd (absent _ packed) (by simp)
      · rfl

end FileTree

namespace Packing

open FileTree

variable {tree : FileTree} {archive directory : Path} {home place rest : Place}
  {names : List String} {name : String} {node : Node} {left : Nat}
  {content : Option (List UInt8)}

/-- What a walk comes by first adds its parcel, if it is no link and what is found of a file is what
    it is, unless it is a file that is not found, which ends the packing. -/
theorem membersOf_cons_cases {met : List (Place × Node)} (isName : IsName name)
    (markable : ∀ next ∈ name :: place, Markable next) (unlinked : ∀ target, node ≠ .link target)
    (finds : node.isFile = true →
      ∀ found, tree.find (directory.down (name :: place)) = .ok found → found = node) :
    membersOf tree archive (directory.child name) ((place, node) :: met) =
        (([Parcel.ofNode (name :: place, node)].filter
            fun parcel => !(directory.down parcel.1).same archive).map Parcel.member ++
          (membersOf tree archive (directory.child name) met).1,
        (membersOf tree archive (directory.child name) met).2) ∨
      node.isFile = true ∧ ∃ error, tree.find (directory.down (name :: place)) = .error error ∧
        membersOf tree archive (directory.child name) ((place, node) :: met) =
          ([], .error (.file (directory.down (name :: place)) error)) := by
  have here : place.foldl Path.child (directory.child name) = directory.down (name :: place) := rfl
  rw [membersOf, here, Parcel.memberName_child directory isName]
  cases itself : (directory.down (name :: place)).same archive with
  | true =>
    rw [if_pos rfl, List.filter_cons_of_neg (by simp [Parcel.ofNode, itself])]
    exact .inl rfl
  | false =>
    rw [if_neg Bool.false_ne_true, List.filter_cons_of_pos (by simp [Parcel.ofNode, itself])]
    cases node with
    | link target => exact absurd rfl (unlinked target)
    | folder stamps entries =>
      rw [if_pos (by rfl), Parcel.folderName_intercalate (List.cons_ne_nil _ _) markable]
      exact .inl rfl
    | file stamps executable bytes =>
      rw [if_neg (by exact Bool.false_ne_true)]
      cases found : tree.find (directory.down (name :: place)) with
      | error error => exact .inr ⟨rfl, error, rfl, rfl⟩
      | ok node =>
        obtain rfl := finds rfl node found
        left
        simp [Parcel.ofNode, Node.content?, Parcel.member]

/-- What a walk comes by is packed, if it is no link and what is found of its files is what they
    are, unless one of the files is not found, which ends the packing. -/
theorem membersOf_cases {met : List (Place × Node)} (isName : IsName name)
    (each : ∀ entry ∈ met, (∀ next ∈ name :: entry.1, Markable next) ∧
      (∀ target, entry.2 ≠ .link target) ∧ (entry.2.isFile = true →
        ∀ found, tree.find (directory.down (name :: entry.1)) = .ok found → found = entry.2)) :
    membersOf tree archive (directory.child name) met =
        (((met.map fun entry => Parcel.ofNode (name :: entry.1, entry.2)).filter
          fun parcel => !(directory.down parcel.1).same archive).map Parcel.member, .ok ()) ∨
      ∃ entry ∈ met, entry.2.isFile = true ∧ ∃ own error,
        tree.find (directory.down (name :: entry.1)) = .error error ∧
        membersOf tree archive (directory.child name) met =
          (own, .error (.file (directory.down (name :: entry.1)) error)) := by
  induction met with
  | nil => exact .inl rfl
  | cons entry met inductionHypothesis =>
    obtain ⟨⟨markable, unlinked, finds⟩, each'⟩ := List.forall_mem_cons.mp each
    rcases membersOf_cons_cases isName markable unlinked finds with
      first | ⟨isFile, error, lost, first⟩
    · rw [first]
      rcases inductionHypothesis each' with later | ⟨other, listed, isFile, own, error, lost, later⟩
      · left
        rw [later, List.map_cons, ← List.singleton_append (l := met.map _), List.filter_append,
          List.map_append]
      · right
        rw [later]
        exact ⟨other, List.mem_cons_of_mem _ listed, isFile, _, error, lost, rfl⟩
    · exact .inr ⟨entry, List.mem_cons_self, isFile, [], error, lost, first⟩

/-- What a walk comes by is packed, if it is no link and its files are found. -/
theorem membersOf_apply {met : List (Place × Node)} (isName : IsName name)
    (each : ∀ entry ∈ met, (∀ next ∈ name :: entry.1, Markable next) ∧
      (∀ target, entry.2 ≠ .link target) ∧
      (entry.2.isFile = true → tree.find (directory.down (name :: entry.1)) = .ok entry.2)) :
    membersOf tree archive (directory.child name) met =
      (((met.map fun entry => Parcel.ofNode (name :: entry.1, entry.2)).filter
        fun parcel => !(directory.down parcel.1).same archive).map Parcel.member, .ok ()) := by
  refine (membersOf_cases isName fun entry listed => ?_).resolve_right ?_
  · obtain ⟨markable, unlinked, finds⟩ := each entry listed
    exact ⟨markable, unlinked, fun isFile found same =>
      Except.ok.inj (same.symm.trans (finds isFile))⟩
  · rintro ⟨entry, listed, isFile, own, error, lost, -⟩
    cases lost.symm.trans ((each entry listed).2.2 isFile)

section

variable (named : tree.Named) (packable : tree.Packable directory home names)
  (reaches : tree.Reaches directory left home)

include named packable reaches

/-- An entry that can be packed adds the parcels of a walk through it. -/
theorem members_apply (listed : name ∈ names) (found : tree.get? (home ++ [name]) = some node) :
    members tree archive (directory.child name) =
      ((((node.sorted.walk [name]).map Parcel.ofNode).filter
        fun parcel => !(directory.down parcel.1).same archive).map Parcel.member, .ok ()) := by
  have there : tree.get? (home ++ [name]) ≠ none := by simp [found]
  have isName := (packable.portable name listed [] there name (by simp)).toIsName
  have throughout := (named_iff_throughout.mp named).below found
  have finds : tree.findLink (directory.child name) = .ok node := by
    have leads : tree.resolve .keep (directory.child name) =
        .ok ⟨home ++ [name], some node, false⟩ := packable.resolve_down reaches listed found .keep
    rw [findLink, locate, leads]
    dsimp only
    rw [Bool.and_false, if_neg Bool.false_ne_true]
    rfl
  rw [members, finds]
  dsimp only
  have start : node.sorted.walk [name] =
      (node.sorted.walk []).map fun met => ([name] ++ met.1, met.2) :=
    node.sorted.walk_append [name] []
  rw [membersOf_apply isName, start, List.map_map]
  · rfl
  rintro ⟨rest, inner⟩ walked
  obtain ⟨_, rfl, reached⟩ := (Node.mem_walk_iff throughout.sorted).mp walked
  rw [Node.get?_sorted throughout] at reached
  obtain ⟨original, at_rest, rfl⟩ := Option.map_eq_some_iff.mp reached
  have at_place : tree.get? (home ++ name :: rest) = some original := by
    rw [← List.singleton_append, ← List.append_assoc, get?_append, found]
    exact at_rest
  have portable := packable.portable name listed rest (by simp [at_place])
  refine ⟨fun next among => (portable next among).toMarkable, fun target isLink => ?_,
    fun isFile => ?_⟩
  · cases original with
    | link target => exact packable.unlinked name listed rest target at_place
    | file | folder => simp [Node.sorted] at isLink
  · cases original with
    | file =>
      dsimp only [List.nil_append]
      rw [find, locate, packable.resolve_down reaches listed at_place .follow]
      simp [Node.sorted, Except.map]
    | link | folder => simp [Node.sorted, Node.isFile] at isFile

end

/-- Entries that can be packed are packed to their parcels. -/
theorem collect_apply (named : tree.Named) (packable : tree.Packable directory home names)
    (reaches : tree.Reaches directory left home) :
    collect tree archive (names.map directory.child) =
      ((tree.parcels archive directory home names).map Parcel.member,
        .ok (names.map fun _ => .ok ())) := by
  have each : ∀ name ∈ names, ∃ node, tree.get? (home ++ [name]) = some node ∧
      members tree archive (directory.child name) =
      ((((node.sorted.walk [name]).map Parcel.ofNode).filter
        fun parcel => !(directory.down parcel.1).same archive).map Parcel.member, .ok ()) := by
    intro name listed
    obtain ⟨node, found⟩ := Option.ne_none_iff_exists'.mp (packable.there name listed)
    exact ⟨node, found, members_apply named packable reaches listed found⟩
  clear packable named reaches
  induction names with
  | nil => rfl
  | cons name names inductionHypothesis =>
    obtain ⟨⟨node, found, own⟩, each'⟩ := List.forall_mem_cons.mp each
    have later := inductionHypothesis each'
    rw [List.map_cons, collect, own]
    dsimp only
    rw [later]
    dsimp only
    rw [parcels_cons found, List.map_append]
    rfl

end Packing

end FileQuery
