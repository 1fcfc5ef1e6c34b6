import FileQuery.Execution.Transfer
import FileQuery.Proofs.Confinement.Surroundings
import FileQuery.Proofs.Execution.Accounting
import FileQuery.Proofs.Transfer.Copies

/-!
# Changes that stay below a folder

Each change that is made by paths within the root shows only below the folder to which the root
leads. Missing folders are made from the root downwards: the root itself is there, so nothing is
ever made above it.
-/

namespace FileQuery

/-- Changes that leave a tree with a property, whether or not they succeed. -/
def Changes.Maintains {ε α : Type} (holds : FileTree → Prop) (changes : Changes ε α) : Prop :=
  ∀ tree, holds tree → holds (changes tree).2

namespace Changes

variable {ε δ α β : Type} {holds : FileTree → Prop}

theorem maintains_of_unchanged {changes : Changes ε α} (same : ∀ tree, (changes tree).2 = tree) :
    changes.Maintains holds := by
  intro tree initial
  rwa [same tree]

theorem Maintains.mapError {changes : Changes ε α} (maintains : changes.Maintains holds)
    (rename : ε → δ) : (changes.mapError rename).Maintains holds := by
  intro tree initial
  have same : (changes.mapError rename tree).2 = (changes tree).2 := by
    unfold Changes.mapError
    rcases changes tree with ⟨error | value, changed⟩ <;> rfl
  rw [same]
  exact maintains tree initial

theorem maintains_ofChange {change : FileTree → Except ε FileTree}
    (keeps : ∀ tree changed, holds tree → change tree = .ok changed → holds changed) :
    (ofChange change).Maintains holds := by
  intro tree initial
  unfold ofChange
  cases made : change tree with
  | error error => exact initial
  | ok changed => exact keeps tree changed initial made

/-- Changes one after another maintain what both maintain. -/
theorem Maintains.bind {first : Changes ε α} {second : α → Changes ε β}
    (maintains : first.Maintains holds)
    (later : ∀ tree changed value, holds tree → first tree = (.ok value, changed) →
      (second value).Maintains holds) : Changes.Maintains holds (first >>= second) := by
  intro tree initial
  have middle := maintains tree initial
  rw [bind_apply]
  rcases made : first tree with ⟨error | value, changed⟩
  · rw [made] at middle
    exact middle
  · rw [made] at middle
    exact later tree changed value initial made changed middle

theorem maintains_forM {values : List α} {step : α → Changes ε PUnit}
    (each : ∀ value ∈ values, (step value).Maintains holds) :
    Changes.Maintains holds (values.forM step) := by
  induction values with
  | nil => exact maintains_of_unchanged fun _ => rfl
  | cons value rest inductionHypothesis =>
    obtain ⟨first, others⟩ := List.forall_mem_cons.mp each
    exact first.bind fun _ _ _ _ _ => inductionHypothesis others

end Changes

namespace FileTree

variable {tree : FileTree} {place : Place} {root path : Path} {left : Nat}

/-- A folder to which a path leads is not made: it is there. -/
theorem makeFolder_of_reaches (reaches : tree.Reaches path left place)
    (isFolder : ∃ stamps entries, tree.get? place = some (.folder stamps entries))
    (somewhere : path.components ≠ []) :
    ∃ error, tree.makeFolder path = .error error ∧ error ≠ .notFound := by
  obtain ⟨stamps, entries, isFolder⟩ := isFolder
  unfold makeFolder
  cases leads : tree.resolve .keep path with
  | ok destination =>
    obtain ⟨something, -⟩ := reaches.of_resolve isFolder leads
    obtain ⟨reached, found, slash⟩ := destination
    cases found with
    | none => exact absurd rfl something
    | some node => exact ⟨.alreadyExists, rfl, by simp⟩
  | error error =>
    refine ⟨error, rfl, ?_⟩
    rintro rfl
    obtain ⟨_, _, _, comesOut, -⟩ := Leads.exists_destination reaches isFolder .keep
    unfold resolve at leads
    split at leads
    · rename_i check
      obtain rfl := Except.error.inj leads
      have nowhere : path = ⟨""⟩ := by
        cases path
        simpa using eq_empty_of_checkPath check
      exact somewhere (nowhere ▸ rfl)
    · rw [comesOut] at leads
      contradiction

/-- A folder to which a path leads is not made, nor is any that it is in. -/
theorem makeMissing_of_reaches (reaches : tree.Reaches path left place)
    (isFolder : ∃ stamps entries, tree.get? place = some (.folder stamps entries))
    (above : List Path) : (makeMissing (path :: above) tree).2 = tree := by
  unfold makeMissing
  split
  · rfl
  · rename_i somewhere
    obtain ⟨error, fails, differs⟩ := makeFolder_of_reaches reaches isFolder somewhere
    rw [fails]
    cases error <;> first | exact absurd rfl differs | rfl

/-- Making missing folders maintains what making one of them maintains, if those at which the paths
    stop are there. -/
theorem maintains_makeMissing {holds : FileTree → Prop} {paths : List Path} {whole : List String}
    (stops : root.Stops whole paths)
    (makes : ∀ path front name tree changed, root.Within path (front ++ [name]) →
      front ++ [name] <+: whole → holds tree → tree.makeFolder path = .ok changed → holds changed)
    (home : ∀ path tree, root.Within path [] → holds tree → ∃ left place,
      tree.Reaches path left place ∧
        ∃ stamps entries, tree.get? place = some (.folder stamps entries)) :
    (makeMissing paths).Maintains holds := by
  induction stops with
  | @here path above same =>
    intro tree initial
    obtain ⟨left, place, reaches, isFolder⟩ := home path tree same initial
    rwa [makeMissing_of_reaches reaches isFolder]
  | @down path above front name within starts _ inductionHypothesis =>
    intro tree initial
    unfold makeMissing
    split
    · exact initial
    split
    · rename_i changed made
      exact makes path front name tree changed within starts initial made
    · have middle := inductionHypothesis tree initial
      split
      · rename_i fails
        rw [fails] at middle
        exact middle
      · rename_i later reached
        rw [reached] at middle
        split
        · rename_i changed made
          exact makes path front name later changed within starts middle made
        · exact middle
    · exact initial

end FileTree

namespace Enclosed

variable {place other : Place} {before tree changed : FileTree} {root path base base' : Path}
  {rest rest' : List String} {name name' : String}

/-! ## Folders -/

/-- A folder is made below the folder. -/
theorem makeFolder (enclosed : Enclosed (Descends place) place before tree)
    (surrounds : before.Surrounds root place) (within : root.Within path rest)
    (goesDown : rest ≠ []) (made : tree.makeFolder path = .ok changed) :
    Enclosed (Descends place) place before changed := by
  obtain ⟨reached, slash, leads, rfl⟩ := FileTree.makeFolder_eq_ok made
  have inside := enclosed.inside_of_resolve_down surrounds within goesDown leads
  obtain ⟨below, name, _, _, same, isName, -⟩ := inside.free rfl
  obtain rfl : reached = place ++ below ++ [name] := same
  exact enclosed.insert below isName (Node.throughout_emptyFolder _)

theorem maintains_makeMissing (surrounds : before.Surrounds root place) {paths : List Path}
    (stops : root.Stops rest paths) :
    (FileTree.makeMissing paths).Maintains (Enclosed (Descends place) place before) := by
  refine FileTree.maintains_makeMissing stops ?_ fun path' tree within' enclosed => ?_
  · intro path' front name tree changed within' _ enclosed made
    exact enclosed.makeFolder surrounds within' (by simp) made
  · obtain ⟨left, reaches⟩ := surrounds
    exact ⟨left, place, (enclosed.reaches reaches).within within', enclosed.isFolder⟩

/-- Missing folders are made below the folder. -/
theorem maintains_makeFolders (surrounds : before.Surrounds root place)
    (within : root.Within path rest) :
    (FileTree.makeFolders path).Maintains (Enclosed (Descends place) place before) :=
  maintains_makeMissing surrounds within.stops

/-- The path of a folder that was made leads to it. -/
theorem reaches_of_makeFolder (enclosed : Enclosed (Descends place) place before tree)
    (surrounds : before.Surrounds root place) (within : root.Within path rest)
    (goesDown : rest ≠ []) (made : tree.makeFolder path = .ok changed) :
    ∃ left goal, changed.Reaches path left goal ∧
      ∃ stamps entries, changed.get? goal = some (.folder stamps entries) := by
  obtain ⟨reached, slash, leads, rfl⟩ := FileTree.makeFolder_eq_ok made
  have inside := enclosed.inside_of_resolve_down surrounds within goesDown leads
  obtain ⟨below, name, _, _, same, -, isFolder⟩ := inside.free rfl
  obtain rfl : reached = place ++ below ++ [name] := same
  have free : tree.get? (place ++ below ++ [name]) = none := (FileTree.resolve_node? leads).symm
  have keeps : tree.Keeps (tree.insert (place ++ below ++ [name]) (.emptyFolder tree.now)) :=
    FileTree.keeps_insert free fun _ _ => rfl
  have found : (tree.insert (place ++ below ++ [name]) (.emptyFolder tree.now)).get?
      (place ++ below ++ [name]) = some (.emptyFolder tree.now) :=
    FileTree.get?_insert_self _ isFolder
  obtain ⟨left, way⟩ := (FileTree.comesOut_of_resolve leads).exists_leads_keeps keeps found
  refine ⟨left, _, ?_, _, _, found⟩
  rw [FileTree.Reaches, keeps.working]
  exact way

theorem reaches_of_unlessFolder {error : FileError}
    (done : FileTree.unlessFolder path error tree = (.ok (), changed)) :
    ∃ left goal, changed.Reaches path left goal ∧
      ∃ stamps entries, changed.get? goal = some (.folder stamps entries) := by
  obtain ⟨isFolder, rfl⟩ := Prod.mk.inj done
  split at isFolder
  · rename_i there
    unfold FileTree.isFolder at there
    split at there
    · rename_i node found
      cases node with
      | folder =>
        obtain ⟨left, goal, reaches, at_goal⟩ := FileTree.reaches_of_find found
        exact ⟨left, goal, reaches, _, _, at_goal⟩
      | file | link => contradiction
    · contradiction
  · contradiction

/-- After missing folders were made for a path, it leads to a folder. -/
theorem reaches_of_makeFolders (enclosed : Enclosed (Descends place) place before tree)
    (surrounds : before.Surrounds root place) (within : root.Within path rest)
    (somewhere : path.components ≠ [])
    (makes : FileTree.makeFolders path tree = (.ok (), changed)) :
    ∃ left goal, changed.Reaches path left goal ∧
      ∃ stamps entries, changed.get? goal = some (.folder stamps entries) := by
  have after : Enclosed (Descends place) place before changed := by
    have maintained := maintains_makeFolders surrounds within tree enclosed
    rwa [makes] at maintained
  cases within.stops with
  | here same =>
    obtain ⟨left, reaches⟩ := surrounds
    exact ⟨left, place, (after.reaches reaches).within same, after.isFolder⟩
  | down within' _ later =>
    have goesDown {front : List String} {name : String} : front ++ [name] ≠ [] := by simp
    unfold FileTree.makeFolders FileTree.makeMissing at makes
    rw [if_neg somewhere] at makes
    split at makes
    · rename_i made
      obtain ⟨-, rfl⟩ := Prod.mk.inj makes
      exact enclosed.reaches_of_makeFolder surrounds within' goesDown made
    · have middle := maintains_makeMissing surrounds later tree enclosed
      split at makes
      · cases makes
      · rename_i reached
        rw [reached] at middle
        split at makes
        · rename_i made
          obtain ⟨-, rfl⟩ := Prod.mk.inj makes
          exact Enclosed.reaches_of_makeFolder middle surrounds within' goesDown made
        · exact reaches_of_unlessFolder makes
    · exact reaches_of_unlessFolder makes

/-! ## Files -/

/-- A file is opened for writing below the folder. -/
theorem truncate (enclosed : Enclosed (Descends place) place before tree)
    (surrounds : before.Surrounds root place) (within : root.Within path rest)
    (opens : tree.truncate path = .ok (changed, other)) :
    Enclosed (Descends place) place before changed ∧ place <+: other := by
  obtain ⟨node?, slash, leads, opened⟩ := FileTree.truncate_eq_ok opens
  have inside := enclosed.inside_of_resolve surrounds within leads
  refine ⟨?_, inside.below⟩
  rcases opened with ⟨rfl, rfl⟩ | ⟨_, executable, _, rfl, rfl⟩
  · obtain ⟨below, name, _, _, same, isName, -⟩ := inside.free rfl
    obtain rfl : other = place ++ below ++ [name] := same
    exact enclosed.insert below isName (Node.throughout_file _ _ _)
  · obtain ⟨below, rfl⟩ := inside.below
    exact enclosed.rewrite below executable []

/-- A file is written below the folder. -/
theorem write (enclosed : Enclosed (Descends place) place before tree)
    (surrounds : before.Surrounds root place) (within : root.Within path rest) {bytes : List UInt8}
    (written : tree.write path bytes = .ok changed) :
    Enclosed (Descends place) place before changed := by
  unfold FileTree.write at written
  split at written
  · contradiction
  · rename_i opens
    obtain rfl := Except.ok.inj written
    obtain ⟨opened, below, rfl⟩ := enclosed.truncate surrounds within opens
    exact opened.rewrite below _ bytes

/-- A file is copied to a path below the folder. -/
theorem copyFile (enclosed : Enclosed (Descends place) place before tree)
    (surrounds : before.Surrounds root place) (within : root.Within path rest) {source : Path}
    (copied : tree.copyFile source path = .ok changed) :
    Enclosed (Descends place) place before changed := by
  obtain ⟨_, _, executable, _, _, _, -, opens, rfl⟩ := FileTree.copyFile_eq_ok copied
  obtain ⟨opened, below, rfl⟩ := enclosed.truncate surrounds within opens
  exact opened.rewrite below executable _

/-- What a path that ends with a name itself names is taken out below the folder. -/
theorem erase_child (enclosed : Enclosed (Descends place) place before tree)
    (surrounds : before.Surrounds root place) (within : root.Within base rest)
    (isName : IsName name) {node : Node}
    (located : tree.locate .keep (base.child name) = .ok (other, node)) :
    Enclosed (Descends place) place before (tree.erase other) := by
  obtain ⟨slash, leads, -⟩ := FileTree.locate_eq_ok located
  obtain ⟨below, same⟩ := enclosed.exists_of_resolve_child surrounds within isName leads
  obtain rfl : other = place ++ below ++ [name] := same
  exact enclosed.erase below name

theorem removeFile (enclosed : Enclosed (Descends place) place before tree)
    (surrounds : before.Surrounds root place) (within : root.Within base rest)
    (isName : IsName name) (removed : tree.removeFile (base.child name) = .ok changed) :
    Enclosed (Descends place) place before changed := by
  unfold FileTree.removeFile at removed
  split at removed
  · contradiction
  · contradiction
  all_goals
    rename_i located
    obtain rfl := Except.ok.inj removed
    exact enclosed.erase_child surrounds within isName located

theorem removeFolder (enclosed : Enclosed (Descends place) place before tree)
    (surrounds : before.Surrounds root place) (within : root.Within base rest)
    (isName : IsName name) (removed : tree.removeFolder (base.child name) = .ok changed) :
    Enclosed (Descends place) place before changed := by
  unfold FileTree.removeFolder at removed
  split at removed
  · contradiction
  · contradiction
  all_goals
    rename_i located
    obtain rfl := Except.ok.inj removed
    exact enclosed.erase_child surrounds within isName located

/-- To rename something is to take it out of its place and to put it into another one, if this is
    not the same. -/
theorem rename_eq_ok {source target : Path} (renamed : tree.rename source target = .ok changed) :
    changed = tree ∨ ∃ origin node slash goal replaced slash',
      tree.resolve .keep source = .ok ⟨origin, some node, slash⟩ ∧
      tree.resolve .keep target = .ok ⟨goal, replaced, slash'⟩ ∧
      changed = (tree.erase origin).insert goal node := by
  unfold FileTree.rename at renamed
  split at renamed
  · contradiction
  · contradiction
  · contradiction
  rename_i leads leads'
  split at renamed
  · contradiction
  split at renamed
  · exact .inl (Except.ok.inj renamed).symm
  split at renamed
  · contradiction
  split at renamed
  · contradiction
  refine .inr ⟨_, _, _, _, _, _, leads, leads', ?_⟩
  split at renamed
  · exact (Except.ok.inj renamed).symm
  · split at renamed
    · contradiction
    · exact (Except.ok.inj renamed).symm

/-- Something is renamed below the folder. -/
theorem rename (enclosed : Enclosed (Descends place) place before tree)
    (surrounds : before.Surrounds root place) (within : root.Within base rest)
    (within' : root.Within base' rest') (isName : IsName name) (isName' : IsName name')
    (renamed : tree.rename (base.child name) (base'.child name') = .ok changed) :
    Enclosed (Descends place) place before changed := by
  rcases rename_eq_ok renamed with rfl | moved
  · exact enclosed
  obtain ⟨origin, node, slash, goal, replaced, slash', leads, leads', rfl⟩ := moved
  obtain ⟨below, same⟩ := enclosed.exists_of_resolve_child surrounds within isName leads
  obtain ⟨below', same'⟩ := enclosed.exists_of_resolve_child surrounds within' isName' leads'
  obtain rfl : origin = place ++ below ++ [name] := same
  obtain rfl : goal = place ++ below' ++ [name'] := same'
  have found : tree.get? (place ++ (below ++ [name])) = some node := by
    rw [← List.append_assoc]
    exact (FileTree.resolve_node? leads).symm
  exact (enclosed.erase below name).insert below' isName' (enclosed.throughout found)

/-! ## What is listed -/

/-- The entries of a folder that is listed have names. -/
theorem isName_of_list (enclosed : Enclosed (Descends place) place before tree)
    (surrounds : before.Surrounds root place) (within : root.Within path rest)
    {entries : List (String × Node)} (listed : tree.list path = .ok entries) :
    ∀ entry ∈ entries, IsName entry.1 := by
  unfold FileTree.list at listed
  split at listed
  · contradiction
  · rename_i found
    obtain rfl := Except.ok.inj listed
    obtain ⟨reached, slash, leads, at_place⟩ := FileTree.find_eq_ok found
    obtain ⟨below, rfl⟩ := (enclosed.inside_of_resolve surrounds within leads).below
    have orderly := enclosed.throughout at_place [] _ rfl
    exact fun entry member => orderly.1 entry.1 (List.mem_map_of_mem member)
  · contradiction
  · contradiction

end Enclosed

end FileQuery
