import FileQuery.Proofs.Confinement.Surroundings
import FileQuery.Proofs.FileTree.NewFolders
import FileQuery.Proofs.FileTree.Overlay

/-!
# What is missing

A path leads to nothing if there is nothing at its end, or if a folder on its way is not there.
What is done with such a path fails, and finds it missing. What is made or written elsewhere may
bring it back, but where everything that there was is kept, what is missing in the end has been
missing all the time. And nothing comes back when something is removed.

Folders that are missing one in another are all made when the last one is (`makeFolders_chain`).
-/

namespace FileQuery

namespace FileTree

variable {tree later changed : FileTree} {last : LastLink} {links : Nat} {here place : Place}
  {segments : List String} {path source target : Path} {bytes : List UInt8}

/-- Following a path comes to nothing. -/
def ComesToNothing : Except FileError Destination → Prop
  | .error error => error = .notFound
  | .ok destination => destination.node? = none

/-- A tree has nothing under a path. -/
def Lacks (tree : FileTree) (path : Path) : Prop := tree.findLink path = .error .notFound

theorem locate_eq_notFound_iff :
    tree.locate last path = .error .notFound ↔ ComesToNothing (tree.resolve last path) := by
  unfold locate ComesToNothing
  rcases tree.resolve last path with error | ⟨place, _ | node, slash⟩
  · simp
  · simp
  · dsimp only
    split <;> simp

theorem lacks_iff : tree.Lacks path ↔ ComesToNothing (tree.resolve .keep path) := by
  rw [← locate_eq_notFound_iff, Lacks, findLink]
  cases tree.locate .keep path <;> simp [Except.map]

/-- Where everything is kept, nothing is where nothing is later. -/
theorem Keeps.get?_eq_none (keeps : tree.Keeps later) (free : later.get? place = none) :
    tree.get? place = none := by
  cases found : tree.get? place with
  | none => rfl
  | some node =>
    exfalso
    cases node with
    | file =>
      obtain ⟨_, _, _, found'⟩ := keeps.files _ _ _ _ found
      cases free.symm.trans found'
    | folder =>
      obtain ⟨_, _, found'⟩ := keeps.folders _ _ _ found
      cases free.symm.trans found'
    | link => cases free.symm.trans (keeps.links _ _ found)

/-- Where everything is kept, what comes to nothing later came to nothing before, and it did so as
    well if a link at the end was followed: what comes to nothing does not end in a link. -/
theorem Keeps.comesToNothing (keeps : tree.Keeps later)
    (nothing : ComesToNothing (later.descend .keep links here segments)) :
    ComesToNothing (tree.descend last links here segments) := by
  fun_induction descend tree last links here segments with
  | case1 =>
    rw [descend] at nothing
    exact keeps.get?_eq_none nothing
  | case2 _ _ _ _ silent inductionHypothesis =>
    rw [descend_silent silent] at nothing
    exact inductionHypothesis nothing
  | case3 _ _ _ _ inductionHypothesis =>
    rw [descend_parent] at nothing
    exact inductionHypothesis nothing
  | case4 _ _ _ _ speaking down long =>
    rw [descend_long speaking down long] at nothing
    cases nothing
  | case5 | case6 => rfl
  -- what is there is there later, so neither does the later way end here
  | case7 _ _ _ _ speaking down short _ _ _ _ found atEnd =>
    obtain ⟨_, _, found'⟩ := keeps.folders _ _ _ found
    rw [descend_folder speaking down short found', if_pos atEnd] at nothing
    cases nothing
  | case8 _ _ _ _ speaking down short _ _ _ _ found notFinal inductionHypothesis =>
    obtain ⟨_, _, found'⟩ := keeps.folders _ _ _ found
    rw [descend_folder speaking down short found', if_neg notFinal] at nothing
    exact inductionHypothesis nothing
  | case9 _ _ _ _ speaking down short _ _ _ _ _ found
  | case10 _ _ _ _ speaking down short _ _ _ _ _ found =>
    obtain ⟨_, _, _, found'⟩ := keeps.files _ _ _ _ found
    rw [descend_file speaking down short found'] at nothing
    split at nothing <;> cases nothing
  | case11 _ _ _ _ speaking down short _ _ _ found kept =>
    have found' := keeps.links _ _ found
    have atEnd := (Bool.and_eq_true_iff.mp kept).1
    have kept' := Bool.and_eq_true_iff.mpr ⟨atEnd, beq_self_eq_true LastLink.keep⟩
    rw [descend_link_kept speaking down short found' kept'] at nothing
    cases nothing
  | case12 _ _ rest speaking down short _ _ _ found =>
    have found' := keeps.links _ _ found
    by_cases kept : (rest.all (· == "") && LastLink.keep == .keep) = true
    · rw [descend_link_kept speaking down short found' kept] at nothing
      cases nothing
    · rw [descend_link_refused speaking down short found' kept] at nothing
      cases nothing
  | case13 _ _ rest speaking down short _ _ _ found _ _ inductionHypothesis =>
    have found' := keeps.links _ _ found
    by_cases kept : (rest.all (· == "") && LastLink.keep == .keep) = true
    · rw [descend_link_kept speaking down short found' kept] at nothing
      cases nothing
    · rw [descend_link speaking down short found' kept] at nothing
      exact inductionHypothesis nothing

/-- What is missing where everything was kept has been missing before, whether or not a link at the
    end is followed. -/
theorem Lacks.resolve (lacks : later.Lacks path) (keeps : tree.Keeps later) (last : LastLink) :
    ComesToNothing (tree.resolve last path) := by
  have nothing := lacks_iff.mp lacks
  unfold FileTree.resolve at nothing ⊢
  rw [keeps.working] at nothing
  revert nothing
  cases checkPath path.text with
  | error error => exact id
  | ok _ => exact keeps.comesToNothing

theorem Lacks.of_keeps (lacks : later.Lacks path) (keeps : tree.Keeps later) : tree.Lacks path :=
  lacks_iff.mpr (lacks.resolve keeps .keep)

/-- An entry is missing if its path can be followed and its folder does not have it. -/
theorem lacks_child_iff {left : Nat} {name : String} (reaches : tree.Reaches path left place)
    (isName : IsName name) :
    tree.Lacks (path.child name) ↔
      namingFault (path.child name) name = none ∧ tree.get? (place ++ [name]) = none := by
  have present := namingFault_ne_notFound path isName
  rw [lacks_iff, resolve_child reaches isName .keep fun _ follows => by cases follows]
  cases fault : namingFault (path.child name) name with
  | none => simp [ComesToNothing]
  | some error =>
    refine ⟨fun nothing => ?_, fun absent => by cases absent.1⟩
    obtain rfl : error = .notFound := nothing
    exact absurd fault present

/-! ## What is done with what is missing -/

theorem Lacks.locate (lacks : tree.Lacks path) (last : LastLink) :
    tree.locate last path = .error .notFound :=
  locate_eq_notFound_iff.mpr (lacks.resolve (.refl tree) last)

/-- What is missing is not read. -/
theorem Lacks.read (lacks : tree.Lacks path) : tree.read path = .error .notFound := by
  rw [FileTree.read, find, lacks.locate]
  rfl

/-- What is missing is not removed. -/
theorem Lacks.removeFile (lacks : tree.Lacks path) : tree.removeFile path = .error .notFound := by
  rw [FileTree.removeFile, lacks.locate]

theorem Lacks.removeFolder (lacks : tree.Lacks path) :
    tree.removeFolder path = .error .notFound := by
  rw [FileTree.removeFolder, lacks.locate]

/-- What is missing is not copied, and its target is not opened. -/
theorem Lacks.copyFile (lacks : tree.Lacks source) (target : Path) :
    tree.copyFile source target = .error .notFound := by
  rw [FileTree.copyFile, lacks.locate]

/-- What is missing is not given another path, if that can be followed. -/
theorem Lacks.rename (lacks : tree.Lacks source) {destination : Destination}
    (follows : tree.resolve .keep target = .ok destination) :
    tree.rename source target = .error .notFound := by
  have nothing := lacks_iff.mp lacks
  unfold FileTree.rename
  rw [follows]
  rcases resolves : tree.resolve .keep source with error | ⟨place, node?, slash⟩
  · rw [resolves] at nothing
    exact congrArg Except.error nothing
  · rw [resolves] at nothing
    obtain rfl : node? = none := nothing
    rfl

/-! ## What changes keep -/

/-- What is put where nothing was keeps everything. -/
theorem keeps_insert_free {made : Node} (free : tree.get? place = none)
    (empty : ∀ next rest, made.get? (next :: rest) = none) :
    tree.Keeps (tree.insert place made) := by
  rcases List.eq_nil_or_concat place with rfl | ⟨folder, name, rfl⟩
  · cases free
  · rw [List.concat_eq_append] at free ⊢
    exact keeps_insert free empty

theorem keeps_makeFolder (made : tree.makeFolder path = .ok changed) : tree.Keeps changed := by
  obtain ⟨place, slash, leads, rfl⟩ := makeFolder_eq_ok made
  exact keeps_insert_free (resolve_node? leads).symm fun _ _ => rfl

theorem keeps_makeLink {text : String} (made : tree.makeLink path text = .ok changed) :
    tree.Keeps changed := by
  unfold makeLink at made
  split at made
  · contradiction
  · contradiction
  · contradiction
  rename_i leads
  split at made
  · contradiction
  obtain rfl := Except.ok.inj made
  exact keeps_insert_free (resolve_node? leads).symm fun _ _ => rfl

theorem keeps_truncate (opens : tree.truncate path = .ok (changed, place)) :
    tree.Keeps changed := by
  obtain ⟨node?, slash, leads, ⟨rfl, rfl⟩ | ⟨_, _, _, rfl, rfl⟩⟩ := truncate_eq_ok opens
  · exact keeps_insert_free (resolve_node? leads).symm fun _ _ => rfl
  · exact keeps_rewrite tree place _ _

theorem keeps_write (written : tree.write path bytes = .ok changed) : tree.Keeps changed := by
  unfold write at written
  split at written
  · contradiction
  rename_i opens
  obtain rfl := Except.ok.inj written
  exact (keeps_truncate opens).trans (keeps_rewrite _ _ _ _)

theorem keeps_copyFile (copied : tree.copyFile source target = .ok changed) :
    tree.Keeps changed := by
  obtain ⟨_, _, _, _, _, _, -, opens, rfl⟩ := copyFile_eq_ok copied
  exact (keeps_truncate opens).trans (keeps_rewrite _ _ _ _)

theorem keeps_setExecutable {executable : Bool}
    (changes : tree.setExecutable path executable = .ok changed) : tree.Keeps changed := by
  unfold setExecutable at changes
  split at changes
  · contradiction
  · obtain rfl := Except.ok.inj changes
    exact keeps_edit (fun _ _ _ => ⟨_, _, _, rfl⟩) (fun _ _ => rfl) fun _ => rfl

/-- What is kept is kept as well in a tree that shows it, but for when it was last touched. -/
theorem Keeps.of_shells {part : FileTree} (keeps : part.Keeps tree)
    (working : later.working = tree.working) (now : Instant)
    (shows : ∀ place node, part.get? place = some node →
      (later.shell? place).map (Node.touch now) = (tree.shell? place).map (Node.touch now)) :
    part.Keeps later := by
  have found {place : Place} {node node' : Node} (held : part.get? place = some node)
      (here : tree.get? place = some node') :
      ∃ shown, later.get? place = some shown ∧
        shown.shell.touch now = node'.shell.touch now := by
    have same := shows place node held
    rw [shell?, Option.map_map, shell?, here] at same
    exact Option.map_eq_some_iff.mp same
  refine ⟨working.trans keeps.working, fun place _ _ _ held => ?_, fun place _ _ held => ?_,
    fun place target held => ?_⟩
  · obtain ⟨_, _, _, here⟩ := keeps.files _ _ _ _ held
    obtain ⟨shown, here', same⟩ := found held here
    cases shown with
    | file => exact ⟨_, _, _, here'⟩
    | folder | link => cases same
  · obtain ⟨_, _, here⟩ := keeps.folders _ _ _ held
    obtain ⟨shown, here', same⟩ := found held here
    cases shown with
    | folder => exact ⟨_, _, here'⟩
    | file | link => cases same
  · obtain ⟨shown, here', same⟩ := found held (keeps.links _ _ held)
    cases shown with
    | link =>
      obtain rfl := Node.link.inj same
      exact here'
    | file | folder => cases same

/-- What is left when entries are taken out of a folder was there before. -/
theorem keeps_of_without (tree : FileTree) (folder : Place) (names : List String) :
    (tree.without folder names).Keeps tree := by
  refine (Keeps.refl _).of_shells working_without.symm tree.now fun other node found => ?_
  by_cases same : other = folder
  · subst same
    rw [shell?_without_self]
    split
    · rfl
    · rw [Option.map_map]
      congr 1
      funext shown
      exact (Node.touch_touch _ _).symm
  · have left : ∀ gone ∈ names, ¬ folder ++ [gone] <+: other := by
      rintro gone member ⟨below, rfl⟩
      rw [List.append_assoc, List.singleton_append, get?_without, if_pos member] at found
      cases found
    rw [shell?_without_other same left]

theorem keeps_of_erase (tree : FileTree) (place : Place) : (tree.erase place).Keeps tree := by
  rcases List.eq_nil_or_concat place with rfl | ⟨folder, name, rfl⟩
  · exact .refl tree
  · rw [List.concat_eq_append, erase_eq_without]
    exact keeps_of_without tree folder [name]

theorem keeps_of_removeFile (removed : tree.removeFile path = .ok changed) :
    changed.Keeps tree := by
  unfold FileTree.removeFile at removed
  split at removed
  · contradiction
  · contradiction
  all_goals
    obtain rfl := Except.ok.inj removed
    exact keeps_of_erase tree _

theorem keeps_of_removeFolder (removed : tree.removeFolder path = .ok changed) :
    changed.Keeps tree := by
  unfold FileTree.removeFolder at removed
  split at removed
  · contradiction
  · contradiction
  all_goals
    obtain rfl := Except.ok.inj removed
    exact keeps_of_erase tree _

/-- What is kept elsewhere is kept when an entry is moved. -/
theorem Moved.keeps {part moved : FileTree} {source goal : Place} {name : String}
    (moves : tree.Moved source goal name moved) (keeps : part.Keeps tree)
    (leaves : part.get? (source ++ [name]) = none) (enters : part.get? (goal ++ [name]) = none) :
    part.Keeps moved := by
  refine keeps.of_shells moves.working tree.now fun place node found => ?_
  have outside {entry : Place} (free : part.get? entry = none) : ¬ entry <+: place := by
    intro below
    cases found.symm.trans (get?_eq_none_of_above free below)
  by_cases above : place <+: source ∨ place <+: goal
  · rw [moves.folders place above]
    split
    · rw [Option.map_map]
      congr 1
      funext shown
      exact Node.touch_touch _ _
    · rfl
  · obtain ⟨notAbove, notAbove'⟩ := not_or.mp above
    rw [shell?, moves.elsewhere place notAbove notAbove' (outside leaves) (outside enters), shell?]

end FileTree

end FileQuery

/-!
## Ways in a tree without links

In a tree without links a path that goes down by names to something leads there, unless it cannot be
followed, for one of its names or as a whole. That nothing is there is never the answer. What is
written to a file shows in the file, and else only in the folders that it is in.
-/

namespace FileQuery.FileTree

variable {tree later : FileTree} {base path : Path} {place folder here : Place} {left links : Nat}
  {name : String} {segments rest : List String} {last : LastLink} {node : Node}
  {bytes : List UInt8}

/-- Where something is at the end of names, going down by them does not come to nothing before. -/
theorem descend_ne_notFound (unlinked : ∀ place target, tree.get? place ≠ some (.link target))
    (areNames : ∀ segment ∈ segments.filter speaks, IsName segment)
    (there : tree.get? (here ++ segments.filter speaks) ≠ none) :
    tree.descend last links here segments ≠ .error .notFound := by
  induction segments generalizing here with
  | nil => simp [descend]
  | cons segment segments inductionHypothesis =>
    rw [descend]
    by_cases saying : speaks segment = true
    · rw [List.filter_cons_of_pos saying] at areNames there
      obtain ⟨isName, areNames'⟩ := List.forall_mem_cons.mp areNames
      rw [List.append_cons] at there
      rw [if_neg (not_silent saying), if_neg isName.notParent]
      split
      · simp
      dsimp only
      split
      · rename_i free
        rw [get?_append, free] at there
        exact absurd rfl there
      · split
        · simp
        · exact inductionHypothesis areNames' there
      · split <;> simp
      · rename_i target linked
        exact absurd linked (unlinked _ target)
    · rw [List.filter_cons_of_neg saying] at areNames there
      rw [if_pos (speaks_eq_false.mp (Bool.eq_false_iff.mpr saying))]
      exact inductionHypothesis areNames there

/-- A path that goes down from a folder to something does not come to nothing. -/
theorem Reaches.resolve_ne_notFound (reaches : tree.Reaches base left folder)
    (unlinked : ∀ place target, tree.get? place ≠ some (.link target))
    (within : base.Within path rest) (goesDown : rest ≠ [])
    (there : tree.get? (folder ++ rest) ≠ none) (last : LastLink) :
    tree.resolve last path ≠ .error .notFound := by
  obtain ⟨front, later, whole, first, second, -⟩ := within.split
  have goesOn : later.all (· == "") = false := not_final_of_speaks (second ▸ goesDown)
  rw [resolve]
  cases check : checkPath path.text with
  | error error =>
    rintro ⟨⟩
    have taken : steps path = [] := by
      rw [steps, eq_empty_of_checkPath check]
      decide
    rw [within.steps] at taken
    exact goesDown (List.append_eq_nil_iff.mp taken).2
  | ok _ =>
    dsimp only
    have way : tree.Leads linkLimit (start base.text tree.working) front left folder :=
      Leads.congr reaches first
    rw [whole, within.start_eq, way.descend_append last goesOn]
    refine descend_ne_notFound unlinked ?_ ?_
    · rw [second]
      exact within.areNames
    · rwa [second]

/-- A path that goes down by names from a folder to something leads there, if it can be followed. -/
theorem Plain.locate_cases (plain : tree.Plain) (reaches : tree.Reaches base left folder)
    (within : base.Within path rest) (goesDown : rest ≠ [])
    (found : tree.get? (folder ++ rest) = some node) (last : LastLink) :
    tree.locate last path = .ok (folder ++ rest, node) ∨
      ∃ error, tree.locate last path = .error error ∧ error ≠ .notFound := by
  have at_end : tree.lexical path = folder ++ rest := by
    rw [lexical_within tree within, ← reaches.eq_lexical plain]
  cases located : tree.locate last path with
  | ok result =>
    obtain ⟨place, node'⟩ := result
    obtain ⟨slash, leads, at_place⟩ := locate_eq_ok located
    obtain rfl : place = folder ++ rest := (plain.resolve_place leads).trans at_end
    obtain rfl := Option.some.inj (at_place.symm.trans found)
    exact .inl rfl
  | error error =>
    refine .inr ⟨error, rfl, ?_⟩
    rintro rfl
    have nothing := locate_eq_notFound_iff.mp located
    cases leads : tree.resolve last path with
    | error error =>
      rw [leads] at nothing
      obtain rfl : error = .notFound := nothing
      exact reaches.resolve_ne_notFound plain.unlinked within goesDown (by simp [found]) last leads
    | ok destination =>
      rw [leads] at nothing
      have free : destination.node? = none := nothing
      rw [resolve_node? leads, plain.resolve_place leads, at_end, found] at free
      cases free

/-- What is written to a file shows at no place that is not on the way to it. -/
theorem get?_rewrite_elsewhere {other : Place} (executable : Bool) (bytes : List UInt8)
    (elsewhere : ¬ other <+: place) :
    (tree.rewrite place executable bytes).get? other = tree.get? other := by
  by_cases below : place <+: other
  · obtain ⟨_ | ⟨next, rest⟩, rfl⟩ := below
    · simp at elsewhere
    rw [get?, rewrite, Node.get?_modify_below, get?, Node.get?_append]
    cases tree.root.get? place with
    | none => rfl
    | some node => cases node <;> rfl
  · exact Node.get?_modify_other _ _ below elsewhere

/-- A tree that came of another one by writing to a file at a place. -/
structure Filled (before : FileTree) (place : Place) (bytes : List UInt8) (tree : FileTree) :
    Prop where
  plain : tree.Plain
  keeps : before.Keeps tree
  content : tree.content? place = some bytes
  elsewhere : ∀ other, ¬ other <+: place → tree.get? other = before.get? other

/-- A file is written at the end of a path that goes down by names. -/
theorem Plain.filled_of_write (plain : tree.Plain) (reaches : tree.Reaches base left folder)
    (isFolder : ∃ stamps entries, tree.get? folder = some (.folder stamps entries))
    (within : base.Within path rest) (goesDown : rest ≠ [])
    (written : tree.write path bytes = .ok later) :
    tree.Filled (folder ++ rest) bytes later := by
  have keeps := keeps_write written
  rw [write] at written
  split at written
  · cases written
  rename_i opened place opens
  obtain rfl := Except.ok.inj written
  have plain' : (opened.rewrite place (opened.isExecutable place) bytes).Plain :=
    (plain.truncate opens).rewrite _ _ _
  obtain ⟨node?, slash, leads, made⟩ := truncate_eq_ok opens
  obtain rfl : place = folder ++ rest := by
    rw [reaches.eq_lexical plain, ← lexical_within tree within]
    exact plain.resolve_place leads
  have there := resolve_node? leads
  rcases made with ⟨rfl, rfl⟩ | ⟨stamps, executable, held, rfl, rfl⟩
  · obtain ⟨above, name, _, _, split_, -, at_above⟩ :=
      exists_folder_of_resolve reaches isFolder within goesDown leads rfl
    dsimp only at split_ there
    rw [split_] at there plain' keeps ⊢
    refine ⟨plain', keeps, ?_, fun other elsewhere => ?_⟩
    · rw [content?, get?_rewrite_self, get?_insert_self _ at_above]
      rfl
    · rw [get?_rewrite_elsewhere _ _ elsewhere,
        get?_insert_elsewhere at_above there.symm (fun _ _ => rfl) elsewhere]
  · refine ⟨plain', keeps, ?_, fun other elsewhere => ?_⟩
    · rw [content?, get?_rewrite_self, get?_rewrite_self, ← there]
      rfl
    · rw [get?_rewrite_elsewhere _ _ elsewhere, get?_rewrite_elsewhere _ _ elsewhere]

/-! ## Folders that are missing one in another -/

section

variable {base : Path} {left : Nat} {folder : Place} {first name : String} {more : List String}

/-- Going down by names of which the first one is missing leads nowhere. -/
theorem descend_missing {last : LastLink} {links : Nat} {segments : List String}
    (taken : segments.filter speaks = first :: name :: more) (isName : IsName first)
    (short : ¬ nameLimit < Text.byteLength first.toList)
    (free : tree.get? (folder ++ [first]) = none) :
    tree.descend last links folder segments = .error .notFound := by
  induction segments with
  | nil => cases taken
  | cons segment rest inductionHypothesis =>
    cases saying : speaks segment with
    | false =>
      rw [List.filter_cons_of_neg (by simp [saying])] at taken
      rw [descend_silent (speaks_eq_false.mp saying)]
      exact inductionHypothesis taken
    | true =>
      rw [List.filter_cons_of_pos saying] at taken
      obtain ⟨rfl, later⟩ := List.cons.inj taken
      have goesOn : rest.all (· == "") = false := not_final_of_speaks (by simp [later])
      rw [descend_free (not_silent saying) isName.notParent short free, goesOn]
      rfl

section

variable (reaches : tree.Reaches base left folder)
  (free : tree.get? (folder ++ [first]) = none)

include reaches free

/-- In a folder that is missing no folder can be made. -/
theorem makeFolder_missing (areNames : ∀ next ∈ first :: name :: more, IsName next)
    (followable : base.Followable (first :: name :: more)) :
    tree.makeFolder (base.down (first :: name :: more)) = .error .notFound := by
  have within : base.Within _ (first :: name :: more) := Path.within_down areNames
  obtain ⟨before, after, whole, same, taken, -⟩ := within.split
  have goesOn : after.all (· == "") = false := not_final_of_speaks (by simp [taken])
  rw [makeFolder, resolve, followable.fits, within.start_eq, whole]
  dsimp only
  rw [(Leads.congr reaches same).descend_append .keep goesOn,
    descend_missing taken (areNames first (by simp)) (followable.short first (by simp)) free]

variable (isFolder : ∃ stamps entries, tree.get? folder = some (.folder stamps entries))

include isFolder

/-- A path that goes down by names makes all the folders on its way, if the first one is missing.
    The last one is empty. -/
theorem makeFolders_chain (areNames : ∀ next ∈ first :: more, IsName next)
    (followable : base.Followable (first :: more)) : ∃ later stamps,
    makeFolders (base.down (first :: more)) tree = (.ok (), later) ∧ tree.Keeps later ∧
      later.get? (folder ++ first :: more) = some (.folder stamps []) := by
  induction more using List.reverseRecOn with
  | nil =>
    have home : ∃ stamps entries, tree.get? (folder ++ []) = some (.folder stamps entries) := by
      rwa [List.append_nil]
    have made : tree.makeFolder (base.down ([] ++ [first])) = _ :=
      makeFolder_down reaches areNames followable home free
    obtain ⟨stamps, entries, found⟩ := isFolder
    have somewhere := Path.components_child_ne_nil base (areNames first (by simp))
    exact ⟨_, _, makeFolders_of_makeFolder somewhere made, keeps_makeFolder made,
      get?_insert_self _ found⟩
  | append_singleton more name inductionHypothesis =>
    have fails : tree.makeFolder (base.down (first :: more ++ [name])) = .error .notFound := by
      obtain ⟨second, later, split⟩ := List.exists_cons_of_ne_nil (l := more ++ [name]) (by simp)
      rw [split] at areNames followable
      rw [List.cons_append, split]
      exact makeFolder_missing reaches free areNames followable
    rw [← List.cons_append] at areNames followable ⊢
    obtain ⟨areNames', isNames⟩ := List.forall_mem_append.mp areNames
    have isName : IsName name := isNames name (by simp)
    obtain ⟨middle, stamps, makes, keeps, made⟩ := inductionHypothesis areNames'
      (followable.of_concat areNames' (by simp) isName)
    -- The folder is made now that the folder for it has been made.
    have free' : middle.get? (folder ++ (first :: more ++ [name])) = none := by
      rw [← List.append_assoc, get?_append, made]
      rfl
    have made' := makeFolder_down (reaches.keeps keeps) areNames followable ⟨_, _, made⟩ free'
    have somewhere : (base.down (first :: more ++ [name])).components ≠ [] := by
      rw [Path.down_concat]
      exact Path.components_child_ne_nil _ isName
    have found : (middle.insert (folder ++ first :: more ++ [name])
        (.emptyFolder middle.now)).get? (folder ++ first :: more ++ [name]) =
          some (.emptyFolder middle.now) := get?_insert_self _ made
    rw [List.append_assoc] at found
    refine ⟨_, _, ?_, keeps.trans (keeps_makeFolder made'), found⟩
    rw [makeFolders] at makes
    rw [makeFolders, Path.parents_down (by simp) areNames, makeMissing]
    dsimp only
    rw [if_neg somewhere, fails]
    dsimp only
    rw [makes]
    dsimp only
    rw [made']

end

end

end FileQuery.FileTree
