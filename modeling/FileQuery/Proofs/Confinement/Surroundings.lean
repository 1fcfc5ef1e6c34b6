import FileQuery.Proofs.FileTree.ClearWays
import FileQuery.Proofs.FileTree.Entries
import FileQuery.Proofs.FileTree.Plain
import FileQuery.Proofs.FileTree.Shells

/-!
# What is around a folder

A tree without what is below a folder is what is around the folder. Two trees with the same around
a folder differ only below it, and in the folder itself. A change below the folder does not show
around it.
-/

namespace FileQuery

namespace Node

theorem update_update (name : String) (first second : Node → Node)
    (entries : List (String × Node)) :
    update name second (update name first entries) = update name (second ∘ first) entries := by
  rw [update, update, update, List.map_map]
  refine List.map_congr_left fun entry _ => ?_
  by_cases same : entry.1 = name <;> simp [same]

/-- Two changes at one place are one change. -/
theorem modify_modify (node : Node) (place : Place) (first second : Node → Node) :
    (node.modify place first).modify place second = node.modify place (second ∘ first) := by
  induction place generalizing node with
  | nil => rfl
  | cons name rest inductionHypothesis =>
    cases node with
    | file | link => rfl
    | folder stamps entries =>
      have both : (fun child : Node => child.modify rest second) ∘
          (fun child : Node => child.modify rest first) =
            fun child : Node => child.modify rest (second ∘ first) := funext inductionHypothesis
      simp only [modify, update_update, both]

/-- A change below a place is a change at the place. -/
theorem modify_append (node : Node) (place below : Place) (change : Node → Node) :
    node.modify (place ++ below) change = node.modify place (·.modify below change) := by
  induction place generalizing node with
  | nil => rfl
  | cons name rest inductionHypothesis =>
    cases node with
    | file | link => rfl
    | folder stamps entries =>
      have same : (fun child : Node => child.modify (rest ++ below) change) =
          (·.modify rest (·.modify below change)) := funext inductionHypothesis
      simp only [List.cons_append, modify, same]

end Node

namespace FileTree

/-- What is around a place: the tree with an empty folder at the place. -/
def around (tree : FileTree) (place : Place) : FileTree :=
  { tree with root := tree.root.modify place fun _ => .emptyFolder .epoch }

variable {tree before : FileTree} {place below : Place} {name : String} {change : Node → Node}
  {allowed other : String → Prop}

/-- A change at a place or below it does not show around the place. -/
theorem around_edit (tree : FileTree) (place below : Place) (change : Node → Node) :
    (tree.edit (place ++ below) change).around place = tree.around place := by
  have same : (tree.root.modify (place ++ below) change).modify place
      (fun _ => .emptyFolder .epoch) = tree.root.modify place fun _ => .emptyFolder .epoch := by
    rw [Node.modify_append, Node.modify_modify]
    rfl
  simp only [around, edit, same]

/-- What is around a place shows as it does in the tree. -/
theorem shell?_around {elsewhere : Place} (notBelow : ¬ place <+: elsewhere) :
    (tree.around place).shell? elsewhere = tree.shell? elsewhere := by
  by_cases above : elsewhere <+: place
  · obtain ⟨rest, rfl⟩ := above
    have deeper : rest ≠ [] := by
      rintro rfl
      simp at notBelow
    exact shell_modify_above deeper _
  · rw [shell?, get?, around, Node.get?_modify_other _ _ notBelow above]
    rfl

/-- Of what is around a folder, only an empty folder is at its place, and nothing below it. -/
theorem get?_around_below {stamps : Stamps} {entries : List (String × Node)}
    (isFolder : tree.get? place = some (.folder stamps entries)) (rest : Place) :
    (tree.around place).get? (place ++ rest) = (Node.emptyFolder .epoch).get? rest := by
  rw [get?, around, Node.get?_modify_below, ← get?, isFolder]
  rfl

/-- What is around a folder is in the tree. -/
theorem keeps_around {stamps : Stamps} {entries : List (String × Node)}
    (isFolder : tree.get? place = some (.folder stamps entries)) :
    (tree.around place).Keeps tree := by
  have here {rest : Place} {node : Node}
      (found : (tree.around place).get? (place ++ rest) = some node) :
      rest = [] ∧ node = .emptyFolder .epoch := by
    rw [get?_around_below isFolder] at found
    cases rest with
    | nil => exact ⟨rfl, (Option.some.inj found).symm⟩
    | cons => cases found
  refine ⟨rfl, ?_, ?_, ?_⟩
  · intro other stamps' executable bytes found
    by_cases below : place <+: other
    · obtain ⟨rest, rfl⟩ := below
      cases (here found).2
    · exact ⟨_, _, _, get?_of_shell?_file ((shell?_around below).symm.trans (shell?_file found))⟩
  · intro other stamps' entries' found
    by_cases below : place <+: other
    · obtain ⟨rest, rfl⟩ := below
      obtain ⟨rfl, -⟩ := here found
      rw [List.append_nil]
      exact ⟨_, _, isFolder⟩
    · exact ⟨_, exists_folder_of_shell? ((shell?_around below).symm.trans (shell?_folder found))⟩
  · intro other target found
    by_cases below : place <+: other
    · obtain ⟨rest, rfl⟩ := below
      cases (here found).2
    · exact get?_of_shell?_link ((shell?_around below).symm.trans (shell?_link found))

end FileTree

/-- A tree that came of another one by changes below a folder, which is a folder still and is
    orderly throughout. -/
structure Enclosed (allowed : String → Prop) (place : Place) (before tree : FileTree) : Prop where
  around : tree.around place = before.around place
  folder : ∃ stamps entries, tree.get? place = some (.folder stamps entries) ∧
    (Node.folder stamps entries).Throughout allowed

namespace Enclosed

variable {allowed other : String → Prop} {place below : Place} {before tree : FileTree}
  {name : String}

theorem refl {stamps : Stamps} {entries : List (String × Node)}
    (isFolder : tree.get? place = some (.folder stamps entries))
    (throughout : (Node.folder stamps entries).Throughout allowed) :
    Enclosed allowed place tree tree :=
  ⟨rfl, stamps, entries, isFolder, throughout⟩

theorem mono (enclosed : Enclosed allowed place before tree) (implies : ∀ target,
    allowed target → other target) : Enclosed other place before tree := by
  obtain ⟨around, stamps, entries, isFolder, throughout⟩ := enclosed
  exact ⟨around, stamps, entries, isFolder, throughout.mono implies⟩

theorem isFolder (enclosed : Enclosed allowed place before tree) :
    ∃ stamps entries, tree.get? place = some (.folder stamps entries) := by
  obtain ⟨-, stamps, entries, isFolder, -⟩ := enclosed
  exact ⟨stamps, entries, isFolder⟩

/-- What is below the folder is orderly throughout. -/
theorem throughout (enclosed : Enclosed allowed place before tree) {node : Node}
    (found : tree.get? (place ++ below) = some node) : node.Throughout allowed := by
  obtain ⟨-, stamps, entries, isFolder, throughout⟩ := enclosed
  rw [FileTree.get?_append, isFolder] at found
  exact throughout.below found

/-- A way that leads to the folder around it leads there. -/
theorem reaches (enclosed : Enclosed allowed place before tree) {root : Path} {left : Nat}
    (leads : (before.around place).Reaches root left place) : tree.Reaches root left place := by
  obtain ⟨around, stamps, entries, isFolder, -⟩ := enclosed
  rw [← around] at leads
  exact leads.keeps (FileTree.keeps_around isFolder)

/-- A change below the folder. -/
theorem edit (enclosed : Enclosed allowed place before tree) (below : Place) {change : Node → Node}
    (becomes : ∀ found, found.Throughout allowed → (change found).Throughout allowed)
    (stays : ∀ stamps entries, ∃ stamps' entries',
      change (.folder stamps entries) = .folder stamps' entries') :
    Enclosed allowed place before (tree.edit (place ++ below) change) := by
  obtain ⟨around, stamps, entries, isFolder, throughout⟩ := enclosed
  have folder : ∃ stamps' entries',
      (Node.folder stamps entries).modify below change = .folder stamps' entries' := by
    cases below with
    | nil => exact stays stamps entries
    | cons name rest => exact ⟨_, _, rfl⟩
  obtain ⟨stamps', entries', same⟩ := folder
  refine ⟨(FileTree.around_edit tree place below change).trans around, stamps', entries', ?_, ?_⟩
  · rw [FileTree.get?, FileTree.edit, Node.get?_modify_above, ← FileTree.get?, isFolder, ← same]
    rfl
  · rw [← same]
    exact throughout.modify fun found reached => becomes found (throughout.below reached)

/-- Something orderly is put below the folder. -/
theorem insert (enclosed : Enclosed allowed place before tree) (below : Place)
    (isName : IsName name) {made : Node} (orderly : made.Throughout allowed) :
    Enclosed allowed place before (tree.insert (place ++ below ++ [name]) made) := by
  rw [FileTree.insert_concat]
  refine enclosed.edit below (fun found throughout => ?_) fun _ _ => ⟨_, _, rfl⟩
  exact throughout.insertEntry tree.now isName orderly

/-- Something is taken out below the folder. -/
theorem erase (enclosed : Enclosed allowed place before tree) (below : Place) (name : String) :
    Enclosed allowed place before (tree.erase (place ++ below ++ [name])) := by
  have erased : tree.erase (place ++ below ++ [name]) =
      tree.edit (place ++ below) (.eraseEntry tree.now name) := by
    simp [FileTree.erase, FileTree.splitPlace, FileTree.edit]
  rw [erased]
  refine enclosed.edit below (fun found throughout => ?_) fun _ _ => ⟨_, _, rfl⟩
  exact throughout.eraseEntry tree.now name

/-- A file below the folder is written to. -/
theorem rewrite (enclosed : Enclosed allowed place before tree) (below : Place)
    (executable : Bool) (bytes : List UInt8) :
    Enclosed allowed place before (tree.rewrite (place ++ below) executable bytes) :=
  enclosed.edit below (fun _ throughout => throughout.rewrite _ _ _) fun _ _ => ⟨_, _, rfl⟩

/-- A file below the folder is made executable, or not. -/
theorem setExecutable (enclosed : Enclosed allowed place before tree) (below : Place)
    (executable : Bool) :
    Enclosed allowed place before (tree.edit (place ++ below) (.setExecutable executable)) :=
  enclosed.edit below (fun _ throughout => throughout.setExecutable _) fun _ _ => ⟨_, _, rfl⟩

end Enclosed

/-!
## Ways that stay below a folder

If the links below a folder lead down by names, from where they are or from the root of the file
system to the folder and on, a way that has come to the folder and goes on by names stays below it.
-/

section

open FileTree (names start speaks)

/-- A target that leads to a folder or below it from wherever below it the link is: it goes down by
    names from there, or from the root of the file system, by those of the folder first. -/
def Descends (place : Place) (target : String) : Prop :=
  ((Path.mk target).isAbsolute = false ∧ ".." ∉ names target) ∨
    ∃ rest, Path.top.Within ⟨target⟩ (place ++ rest)

/-- From a place, segments go down to a folder by its names and then on, or they go down from below
    the folder. -/
def Descending (place here : Place) (segments : List String) : Prop :=
  ".." ∉ segments ∧ ∃ pending, pending <+: segments.filter speaks ∧ place <+: here ++ pending ∧
    (pending = [] ∨ here ++ pending = place)

namespace Descending

variable {place here : Place} {name segment : String} {segments rest : List String}

theorem of_below (inside : place <+: here) (down : ".." ∉ segments) :
    Descending place here segments :=
  ⟨down, [], List.nil_prefix, by simpa using inside, .inl rfl⟩

/-- Segments that say nothing lead on from below the folder only. -/
theorem prefix_of_silent (descending : Descending place here segments)
    (silent : segments.filter speaks = []) : place <+: here := by
  obtain ⟨-, pending, starts, inside, -⟩ := descending
  rw [silent] at starts
  rwa [List.prefix_nil.mp starts, List.append_nil] at inside

theorem of_silent (descending : Descending place here (segment :: rest))
    (unsaying : speaks segment = false) : Descending place here rest := by
  obtain ⟨down, pending, starts, inside, stops⟩ := descending
  rw [List.filter_cons_of_neg (by simp [unsaying])] at starts
  exact ⟨List.not_mem_of_not_mem_cons down, pending, starts, inside, stops⟩

/-- A name leads down on the way to the folder, or below it. -/
theorem step (descending : Descending place here (name :: rest)) (saying : speaks name = true) :
    Descending place (here ++ [name]) rest ∧ (place <+: here ∨ here ++ [name] <+: place) := by
  obtain ⟨down, pending, starts, inside, stops⟩ := descending
  have down' := List.not_mem_of_not_mem_cons down
  cases pending with
  | nil =>
    rw [List.append_nil] at inside
    exact ⟨of_below (inside.trans (List.prefix_append _ _)) down', .inl inside⟩
  | cons first pending =>
    rw [List.filter_cons_of_pos saying] at starts
    obtain ⟨rfl, starts'⟩ := List.cons_prefix_cons.mp starts
    have same : here ++ [first] ++ pending = place := by
      rw [← List.append_cons]
      simpa using stops
    refine ⟨⟨down', pending, starts', ?_, .inr same⟩, .inr ?_⟩
    · exact same.symm ▸ List.prefix_refl _
    · rw [← same]
      exact List.prefix_append _ _

end Descending

/-- A destination below a folder. If nothing is there, it has a name in a folder that is below the
    folder. -/
structure Destination.Inside (tree : FileTree) (place : Place) (destination : Destination) :
    Prop where
  below : place <+: destination.place
  free : destination.node? = none → ∃ below name stamps entries,
    destination.place = place ++ below ++ [name] ∧ IsName name ∧
      tree.get? (place ++ below) = some (.folder stamps entries)

theorem FileTree.unslashed_of_mem_names {path segment : String} (member : segment ∈ names path) :
    '/' ∉ segment.toList := by
  obtain ⟨characters, listed, rfl⟩ := List.mem_map.mp member
  simpa using Path.slash_notMem_segments _ characters listed

namespace Enclosed

variable {place here reached : Place} {before tree : FileTree} {last : LastLink}
  {links left : Nat} {segments rest : List String} {name target : String}
  {destination : Destination}

/-- On the way down to the folder there are folders. -/
theorem isFolder_above {allowed : String → Prop} (enclosed : Enclosed allowed place before tree)
    (above : here <+: place) :
    ∃ stamps entries, tree.get? here = some (.folder stamps entries) := by
  obtain ⟨stamps, entries, isFolder⟩ := enclosed.isFolder
  obtain ⟨below, rfl⟩ := above
  by_cases atEnd : below = []
  · rw [atEnd, List.append_nil] at isFolder
    exact ⟨stamps, entries, isFolder⟩
  · exact FileTree.exists_folder_above isFolder atEnd

/-- What is no folder, on the way of segments that go down, is below the folder. -/
theorem prefix_of_notFolder {allowed : String → Prop}
    (enclosed : Enclosed allowed place before tree)
    (either : place <+: here ∨ here ++ [name] <+: place)
    (notFolder : ∀ stamps entries, tree.get? (here ++ [name]) ≠ some (.folder stamps entries)) :
    place <+: here := by
  rcases either with inside | above
  · exact inside
  · obtain ⟨stamps, entries, isFolder⟩ := enclosed.isFolder_above above
    exact absurd isFolder (notFolder stamps entries)

/-- A link on a way that goes down leads on to one that does. -/
theorem descending_of_link (enclosed : Enclosed (Descends place) place before tree)
    (descending : Descending place here (name :: rest)) (saying : speaks name = true)
    (found : tree.get? (here ++ [name]) = some (.link target)) :
    Descending place (start target here) (names target ++ rest) := by
  have down := List.not_mem_of_not_mem_cons descending.1
  have inside := enclosed.prefix_of_notFolder (descending.step saying).2 (by simp [found])
  have descends : Descends place target := by
    obtain ⟨below, rfl⟩ := inside
    rw [List.append_assoc] at found
    exact enclosed.throughout found [] _ rfl
  rcases descends with ⟨relative, down'⟩ | ⟨more, within⟩
  · rw [start, relative]
    refine .of_below inside ?_
    rw [List.mem_append, not_or]
    exact ⟨down', down⟩
  · have steps : (names target).filter speaks = place ++ more :=
      FileTree.filter_names_of_within within
    have begins : start target here = [] := FileTree.start_of_within within here
    rw [begins]
    refine ⟨?_, place, ?_, List.prefix_refl _, .inr rfl⟩
    · rw [List.mem_append, not_or]
      exact ⟨FileTree.down_of_within within, down⟩
    · rw [List.filter_append, steps, List.append_assoc]
      exact List.prefix_append _ _

/-- A way that goes down leads below the folder. -/
theorem leads (enclosed : Enclosed (Descends place) place before tree)
    (descending : Descending place here segments)
    (leads : tree.Leads links here segments left reached) : place <+: reached := by
  induction leads with
  | nil => exact descending.prefix_of_silent rfl
  | silent unsaying _ inductionHypothesis =>
    exact inductionHypothesis (descending.of_silent unsaying)
  | parent => exact absurd List.mem_cons_self descending.1
  | folder saying _ _ _ _ inductionHypothesis =>
    exact inductionHypothesis (descending.step saying).1
  | link saying _ _ found _ inductionHypothesis =>
    exact inductionHypothesis (enclosed.descending_of_link descending saying found)

/-- A way that goes down comes out below the folder. -/
theorem comesOut (enclosed : Enclosed (Descends place) place before tree)
    (comesOut : tree.ComesOut last links here segments destination)
    (descending : Descending place here segments)
    (isFolder : ∃ stamps entries, tree.get? here = some (.folder stamps entries))
    (unslashed : ∀ segment ∈ segments, '/' ∉ segment.toList) : destination.Inside tree place := by
  induction comesOut with
  | nil =>
    obtain ⟨stamps, entries, isFolder⟩ := isFolder
    exact ⟨descending.prefix_of_silent rfl, by simp [isFolder]⟩
  | silent unsaying _ inductionHypothesis =>
    exact inductionHypothesis (descending.of_silent unsaying) isFolder
      (List.forall_mem_cons.mp unslashed).2
  | parent => exact absurd List.mem_cons_self descending.1
  | @final _ here name rest node? saying notParent _ found atEnd =>
    obtain ⟨later, either⟩ := descending.step saying
    refine ⟨later.prefix_of_silent (FileTree.filter_speaks_of_final atEnd), fun nothing => ?_⟩
    obtain rfl : node? = none := nothing
    obtain ⟨below, rfl⟩ := enclosed.prefix_of_notFolder either (by simp [found])
    obtain ⟨stamps, entries, isFolder⟩ := isFolder
    obtain ⟨nonempty, notHere⟩ := not_or.mp (FileTree.not_silent saying)
    have free := unslashed name List.mem_cons_self
    exact ⟨below, name, stamps, entries, rfl, ⟨nonempty, notHere, notParent, free⟩, isFolder⟩
  | folder saying _ _ found _ _ inductionHypothesis =>
    exact inductionHypothesis (descending.step saying).1 ⟨_, _, found⟩
      (List.forall_mem_cons.mp unslashed).2
  | link saying _ _ found _ _ inductionHypothesis =>
    refine inductionHypothesis (enclosed.descending_of_link descending saying found) ?_ ?_
    · rw [start]
      split
      · exact enclosed.isFolder_above List.nil_prefix
      · exact isFolder
    · refine List.forall_mem_append.mpr ⟨fun segment member => ?_,
        (List.forall_mem_cons.mp unslashed).2⟩
      exact FileTree.unslashed_of_mem_names member

end Enclosed

/-- A path leads to a folder, and does not go through what is below it. -/
def FileTree.Surrounds (tree : FileTree) (root : Path) (place : Place) : Prop :=
  ∃ left, (tree.around place).Reaches root left place

/-- A path within another one goes the way of that one first, and then goes down by names. -/
theorem Path.Within.split {root path : Path} {rest : List String} (within : root.Within path rest) :
    ∃ front later, names path.text = front ++ later ∧ front.filter speaks = FileTree.steps root ∧
      later.filter speaks = rest ∧ ".." ∉ later := by
  obtain ⟨front, later, whole, first, second⟩ := List.filter_eq_append_iff.mp within.steps
  refine ⟨front, later, whole, first, second, fun parent => ?_⟩
  have among : ".." ∈ rest := by
    rw [← second]
    exact List.mem_filter.mpr ⟨parent, by decide⟩
  exact (within.areNames ".." among).notParent rfl

/-- A path within another one leads through the folder to which that one leads. -/
theorem FileTree.Reaches.through {tree : FileTree} {root path : Path} {rest : List String}
    {left : Nat} {reached : Place} (reaches : tree.Reaches path left reached)
    (within : root.Within path rest) :
    ∃ middle passed later, tree.Reaches root middle passed ∧
      tree.Leads middle passed later left reached ∧ ".." ∉ later := by
  obtain ⟨front, later, whole, firstSteps, -, down⟩ := within.split
  rw [FileTree.Reaches, whole, within.start_eq] at reaches
  obtain ⟨middle, passed, wayFront, wayLater⟩ := reaches.of_append
  exact ⟨middle, passed, later, wayFront.congr firstSteps.symm, wayLater, down⟩

namespace Enclosed

variable {place : Place} {before tree : FileTree} {last : LastLink} {destination : Destination}
  {root path base : Path} {rest : List String} {name : String}

/-- A path within the root leads below the folder. -/
theorem reaches_below (enclosed : Enclosed (Descends place) place before tree)
    (surrounds : before.Surrounds root place) (within : root.Within base rest) {left : Nat}
    {reached : Place} (reaches : tree.Reaches base left reached) : place <+: reached := by
  obtain ⟨_, around⟩ := surrounds
  obtain ⟨_, passed, _, reachesRoot, wayLater, down⟩ := reaches.through within
  obtain ⟨-, rfl⟩ := (enclosed.reaches around).unique reachesRoot
  exact enclosed.leads (.of_below (List.prefix_refl _) down) wayLater

/-- A path that goes down from the root by names comes out below the folder. -/
theorem inside_of_resolve_down (enclosed : Enclosed (Descends place) place before tree)
    (surrounds : before.Surrounds root place) (within : root.Within path rest)
    (goesDown : rest ≠ []) (leads : tree.resolve last path = .ok destination) :
    destination.Inside tree place := by
  obtain ⟨left, reaches⟩ := surrounds
  have home := enclosed.reaches reaches
  obtain ⟨front, later, whole, firstSteps, laterSteps, down⟩ := within.split
  have goesOn : later.all (· == "") = false :=
    FileTree.not_final_of_speaks (laterSteps ▸ goesDown)
  have out := FileTree.comesOut_of_resolve leads
  rw [whole, within.start_eq] at out
  obtain ⟨_, passed, way, comesOut⟩ := out.exists_leads goesOn
  obtain ⟨-, rfl⟩ := (home.congr firstSteps).unique way
  refine enclosed.comesOut comesOut (.of_below (List.prefix_refl _) down) enclosed.isFolder
    fun segment member => ?_
  have listed : segment ∈ names path.text := by
    rw [whole]
    exact List.mem_append_right _ member
  exact FileTree.unslashed_of_mem_names listed

/-- A path within the root comes out below the folder, if it is followed to the end. -/
theorem inside_of_resolve (enclosed : Enclosed (Descends place) place before tree)
    (surrounds : before.Surrounds root place) (within : root.Within path rest)
    (leads : tree.resolve .follow path = .ok destination) : destination.Inside tree place := by
  by_cases goesDown : rest = []
  · subst goesDown
    obtain ⟨left, reaches⟩ := surrounds
    obtain ⟨stamps, entries, isFolder⟩ := enclosed.isFolder
    have home := (enclosed.reaches reaches).within within
    obtain ⟨something, same⟩ := home.of_resolve isFolder leads
    exact ⟨(same rfl).symm ▸ List.prefix_refl _, fun nothing => absurd nothing something⟩
  · exact enclosed.inside_of_resolve_down surrounds within goesDown leads

/-- What a path that ends with a name itself names is below the folder, under this name. -/
theorem exists_of_resolve_child (enclosed : Enclosed (Descends place) place before tree)
    (surrounds : before.Surrounds root place) (within : root.Within base rest)
    (isName : IsName name) (leads : tree.resolve .keep (base.child name) = .ok destination) :
    ∃ below, destination.place = place ++ below ++ [name] := by
  obtain ⟨left, reached, reaches, same⟩ := FileTree.exists_reaches_of_resolve isName leads
  obtain ⟨below, rfl⟩ := enclosed.reaches_below surrounds within reaches
  exact ⟨below, same⟩

end Enclosed

end

end FileQuery
