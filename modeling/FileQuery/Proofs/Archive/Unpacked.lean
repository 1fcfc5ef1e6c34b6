import FileQuery.Proofs.Archive.Parcels
import FileQuery.Proofs.Archive.ReadingBack
import FileQuery.Proofs.Confinement.Changes
import FileQuery.Proofs.FileTree.Substances

/-!
# What is unpacked

An archive that gives back what it was made of is unpacked into an empty folder: after each entry
the folder holds the parcels so far and nothing else, each in the folder where it belongs.
-/

namespace FileQuery

open Parcel (Follow)

/-- The folder at a place holds parcels and nothing else. -/
def FileTree.Holds (tree : FileTree) (goal : Place) (parcels : List Parcel) : Prop :=
  ∀ below, tree.substance? (goal ++ below) = (parcels.lookup below).map Parcel.substance

variable {tree later : FileTree} {goal folder place front : Place} {base : Path} {left : Nat}
  {name : String} {names : List String} {before parcels rest : List Parcel}
  {content : Option (List UInt8)} {archive : List UInt8} {entry : Archive.Entry}

/-- A folder that holds a folder has one there. -/
theorem FileTree.Holds.exists_folder (holds : tree.Holds goal parcels)
    (listed : parcels.lookup place = some none) :
    ∃ stamps entries, tree.get? (goal ++ place) = some (.folder stamps entries) := by
  refine substance?_eq_folder.mp ?_
  rw [holds, listed]
  rfl

/-- When something has been made where nothing was, the folder holds one more parcel. -/
theorem FileTree.Holds.concat (holds : tree.Holds goal parcels)
    (new : parcels.lookup place = none) (made : ∀ other, later.substance? other =
      if other = goal ++ place then some (Parcel.substance content) else tree.substance? other) :
    later.Holds goal (parcels ++ [(place, content)]) := by
  intro below
  rw [made, holds, List.lookup_append]
  by_cases same : below = place
  · rw [if_pos (by rw [same]), same, new]
    simp
  · have differs : (below == place) = false := by simpa using same
    rw [if_neg (by simpa using same), List.lookup_cons, differs]
    simp

namespace Archive

/-- Something that is in a folder, or is to be made there, keeps nothing from going down. -/
theorem settle_child (reaches : tree.Reaches base left folder) (isName : IsName name)
    (followable : base.Followable [name]) (last : Bool)
    (there : (last = true ∧ tree.get? (folder ++ [name]) = none) ∨
      ∃ stamps entries, tree.get? (folder ++ [name]) = some (.folder stamps entries)) :
    settle last (base.child name) tree = (.ok (), tree) := by
  have leads := FileTree.resolve_child reaches isName .keep fun _ => nofun
  have followable' : base.Followable ([] ++ [name]) := followable
  have fits := followable'.namingFault
  rw [Path.down, List.foldl_nil] at fits
  rw [fits] at leads
  unfold settle FileTree.findLink FileTree.locate
  rw [leads]
  rcases there with ⟨rfl, free⟩ | ⟨stamps, entries, found⟩
  · rw [free]
    rfl
  · rw [found]
    rfl

/-- Going down to where nothing is in a folder changes nothing. -/
theorem goDown_apply (reaches : tree.Reaches base left folder)
    (areNames : ∀ next ∈ front ++ [name], IsName next)
    (followable : base.Followable (front ++ [name]))
    (isFolder : ∃ stamps entries, tree.get? (folder ++ front) = some (.folder stamps entries))
    (free : tree.get? (folder ++ (front ++ [name])) = none) :
    goDown (front ++ [name]) base tree = (.ok (base.down (front ++ [name])), tree) := by
  induction front generalizing base folder with
  | nil =>
    have settled := settle_child reaches (areNames name (by simp)) followable true
      (.inl ⟨rfl, free⟩)
    rw [List.nil_append, goDown, Changes.bind_apply, List.isEmpty_nil, settled]
    rfl
  | cons first more inductionHypothesis =>
    have isName : IsName first := areNames first (by simp)
    have whole : base.Followable ([first] ++ (more ++ [name])) := followable
    have first_ : base.Followable [first] :=
      whole.of_append areNames (by simp)
    have above : folder ++ [first] <+: folder ++ first :: more := by simp
    have isFolder' := FileTree.exists_folder_of_above above isFolder
    have settled := settle_child reaches isName first_ false (.inr isFolder')
    have reaches' := reaches.child isName (first_.short first (by simp)) isFolder'
    have later : (base.child first).Followable (more ++ [name]) :=
      ⟨followable.fits, fun name listed => followable.short name (List.mem_cons_of_mem _ listed)⟩
    have goesOn : (more ++ [name]).isEmpty = false := by simp
    rw [List.cons_append, goDown, Changes.bind_apply, goesOn, settled]
    exact inductionHypothesis reaches'
      (fun name listed => areNames name (List.mem_cons_of_mem _ listed)) later
      (by simpa using isFolder) (by simpa using free)

section

variable (portable : ∀ next ∈ front ++ [name], Portable next)
  (followable : base.Followable (front ++ [name])) (reaches : ∀ tree : FileTree,
    (∃ stamps entries, tree.get? goal = some (.folder stamps entries)) →
      tree.Reaches base left goal)

include portable followable reaches

/-- An entry is unpacked to one more parcel in the folder. The file that it may make is at the path
    of the parcel. -/
theorem extractEntry_apply (holds : tree.Holds goal before)
    (above : before.lookup front = some none)
    (new : before.lookup (front ++ [name]) = none)
    (gives : entry.Gives archive (Parcel.member (front ++ [name], content))) :
    ∃ mode later, extractEntry archive base entry tree = (.ok mode, later) ∧
      later.Holds goal (before ++ [(front ++ [name], content)]) ∧
      ∀ file ∈ mode, file.1 = base.down (front ++ [name]) ∧ content ≠ none := by
  have areNames (name' : String) (listed : name' ∈ front ++ [name]) : IsName name' :=
    (portable name' listed).toIsName
  have some_names : front ++ [name] ≠ [] := by simp
  have isFolder := holds.exists_folder above
  have free : tree.get? (goal ++ (front ++ [name])) = none := by
    rw [← FileTree.substance?_eq_none, holds, new]
    rfl
  have reaches' := reaches tree (FileTree.exists_folder_of_above (List.prefix_append _ _) isFolder)
  have goes := goDown_apply reaches' areNames followable isFolder free
  have names_ := Parcel.names?_of_name some_names portable gives.name
  have folder_ := Parcel.isFolder_of_name some_names portable gives.name
  unfold extractEntry
  rw [Changes.bind_apply, Changes.look, gives.content]
  dsimp only
  rw [names_]
  dsimp only
  rw [Changes.bind_apply, goes]
  dsimp only
  rw [gives.notLink, folder_, if_neg Bool.false_ne_true]
  cases content with
  | none =>
    obtain ⟨later, made, changed⟩ :=
      FileTree.makeFolders_down reaches' areNames followable isFolder free
    refine ⟨none, later, ?_, holds.concat new changed, by simp⟩
    rw [if_pos Option.isNone_none, Changes.bind_apply, files, Changes.mapError, made]
    rfl
  | some bytes =>
    obtain ⟨later, written, changed⟩ :=
      FileTree.write_down reaches' areNames followable isFolder free bytes
    refine ⟨entry.mode.map fun _ => (base.down (front ++ [name]), entry.isExecutable), later, ?_,
      holds.concat new changed, ?_⟩
    · have bytes_ : (Parcel.member (front ++ [name], some bytes)).bytes = bytes := rfl
      rw [if_neg (by simp), Changes.bind_apply, files, Changes.mapError, Changes.ofChange, bytes_,
        written]
      rfl
    · intro file among
      obtain ⟨_, -, rfl⟩ := Option.map_eq_some_iff.mp among
      exact ⟨rfl, by simp⟩

end

/-- Entries are unpacked to parcels in the folder. The files that get modes are among them. -/
theorem extractEntries_apply {entries : List Entry}
    (reaches : ∀ tree : FileTree,
      (∃ stamps entries, tree.get? goal = some (.folder stamps entries)) →
        tree.Reaches base left goal)
    (each : ∀ parcel ∈ rest, (∀ name ∈ parcel.1, Portable name) ∧ base.Followable parcel.1)
    (follow : Follow before rest) (once : (before.map (·.1)).Nodup)
    (gives : List.Forall₂ (fun parcel entry => entry.Gives archive parcel.member) rest entries)
    (holds : tree.Holds goal before) :
    ∃ modes later, extractEntries archive base entries tree = (.ok modes, later) ∧
      later.Holds goal (before ++ rest) ∧
      ∀ file ∈ modes, ∃ place bytes, (place, some bytes) ∈ rest ∧ file.1 = base.down place := by
  induction gives generalizing tree before with
  | nil => exact ⟨[], tree, rfl, by simpa using holds, by simp⟩
  | @cons parcel entry rest entries gives _ inductionHypothesis =>
    obtain ⟨place, content⟩ := parcel
    obtain ⟨⟨front, name, rfl, above, new⟩, follow'⟩ := follow
    obtain ⟨⟨portable, followable⟩, each'⟩ := List.forall_mem_cons.mp each
    have absent : before.lookup (front ++ [name]) = none := by
      refine List.lookup_eq_none_iff.mpr fun other listed => ?_
      simpa using fun same => new (List.mem_map.mpr ⟨other, listed, same.symm⟩)
    obtain ⟨mode, middle, extracted, holds', filed⟩ := extractEntry_apply portable followable
      reaches holds (lookup_of_mem once above) absent gives
    have once' : ((before ++ [(front ++ [name], content)]).map (·.1)).Nodup := by
      rw [List.map_append, List.map_singleton, ← List.concat_eq_append]
      exact List.Nodup.concat new once
    obtain ⟨modes, later, extracted', holds'', filed'⟩ :=
      inductionHypothesis each' follow' once' holds'
    refine ⟨mode.toList ++ modes, later, ?_, by simpa using holds'', fun file among => ?_⟩
    · rw [extractEntries, Changes.bind_apply, extracted]
      dsimp only
      rw [Changes.bind_apply, extracted']
      rfl
    · rcases List.mem_append.mp among with among | among
      · obtain ⟨same, some_bytes⟩ := filed file (by simpa using among)
        obtain ⟨bytes, rfl⟩ := Option.ne_none_iff_exists'.mp some_bytes
        exact ⟨_, bytes, List.mem_cons_self, same⟩
      · obtain ⟨place, bytes, listed, same⟩ := filed' file among
        exact ⟨place, bytes, List.mem_cons_of_mem _ listed, same⟩

/-- Modes are set for files in the folder, and what the folder holds stays. -/
theorem setModes_apply {modes : List (Path × Bool)}
    (reaches : ∀ tree : FileTree,
      (∃ stamps entries, tree.get? goal = some (.folder stamps entries)) →
        tree.Reaches base left goal)
    (filed : ∀ file ∈ modes, ∃ front name bytes,
      parcels.lookup (front ++ [name]) = some (some bytes) ∧
        (∀ next ∈ front ++ [name], IsName next) ∧ base.Followable (front ++ [name]) ∧
        file.1 = base.down (front ++ [name]))
    (holds : tree.Holds goal parcels) :
    ∃ later, (modes.forM fun (path, executable) =>
        files (.ofChange fun tree => tree.setExecutable path executable) :
          Changes ArchiveError PUnit) tree = (.ok (), later) ∧
      later.Holds goal parcels := by
  induction modes generalizing tree with
  | nil => exact ⟨tree, rfl, holds⟩
  | cons file rest inductionHypothesis =>
    obtain ⟨path, executable⟩ := file
    obtain ⟨⟨front, name, bytes, listed, areNames, followable, rfl⟩, filed'⟩ :=
      List.forall_mem_cons.mp filed
    have isFile : tree.substance? (goal ++ (front ++ [name])) = some (.file bytes) := by
      rw [holds, listed]
      rfl
    obtain ⟨_, _, found⟩ := FileTree.substance?_eq_file.mp isFile
    rw [← List.append_assoc] at found
    have isFolder := FileTree.exists_folder_above found (List.cons_ne_nil _ _)
    have reaches' :=
      reaches tree (FileTree.exists_folder_of_above (List.prefix_append _ _) isFolder)
    obtain ⟨middle, done, same⟩ :=
      FileTree.setExecutable_down reaches' areNames followable isFolder isFile executable
    obtain ⟨later, others, holds'⟩ :=
      inductionHypothesis filed' fun below => (same _).trans (holds below)
    refine ⟨later, ?_, holds'⟩
    rw [List.forM, Changes.bind_apply]
    dsimp only
    rw [files, Changes.mapError, Changes.ofChange, done]
    exact others

/-- A folder that is there is not made. -/
theorem makeFolders_of_reaches {path : Path} (reaches : tree.Reaches path left goal)
    (isFolder : tree.isFolder path = true)
    (found : ∃ stamps entries, tree.get? goal = some (.folder stamps entries)) :
    FileTree.makeFolders path tree = (.ok (), tree) := by
  rw [FileTree.makeFolders, FileTree.makeMissing]
  dsimp only
  split
  · rfl
  · rename_i somewhere
    obtain ⟨error, fails, differs⟩ := FileTree.makeFolder_of_reaches reaches found somewhere
    rw [fails]
    have passes (error : FileError) : FileTree.unlessFolder path error tree = (.ok (), tree) := by
      rw [FileTree.unlessFolder, isFolder]
      rfl
    cases error <;> first | exact absurd rfl differs | exact passes _

/-- An archive that gives back parcels is extracted into an empty folder: then the folder holds the
    parcels and nothing else. -/
theorem extract_apply {path home : Path} {node : Node} {found : List Entry}
    (reads : tree.read path = .ok archive) (lists : entries archive = .ok found)
    (gives : List.Forall₂ (fun parcel entry => entry.Gives archive parcel.member) parcels found)
    (located : tree.locate .follow home = .ok (goal, node))
    (empty : tree.Holds goal [([], none)])
    (areNames : ∀ name ∈ goal, IsName name)
    (short : ∀ name ∈ goal, ¬ FileTree.nameLimit < Text.byteLength name.toList)
    (each : ∀ parcel ∈ parcels, (∀ name ∈ parcel.1, Portable name) ∧
      (Path.ofPlace goal).Followable parcel.1)
    (follow : Follow [([], none)] parcels) :
    ∃ later, extract path home tree = (.ok (), later) ∧
      later.Holds goal (([], none) :: parcels) := by
  have isFolder : ∃ stamps entries, tree.get? goal = some (.folder stamps entries) := by
    have listed : List.lookup ([] : Place) [(([] : Place), (none : Option (List UInt8)))] =
        some none := rfl
    simpa using empty.exists_folder listed
  obtain ⟨stamps, inside, at_goal⟩ := isFolder
  obtain ⟨slash, leads, at_goal'⟩ := FileTree.locate_eq_ok located
  obtain rfl : Node.folder stamps inside = node := Option.some.inj (at_goal.symm.trans at_goal')
  obtain ⟨left, reaches⟩ :=
    (FileTree.comesOut_of_resolve leads).exists_leads_keeps (.refl tree) at_goal
  have there : tree.isFolder home = true := by
    rw [FileTree.isFolder, FileTree.find, located]
    rfl
  have makes := makeFolders_of_reaches reaches there ⟨_, _, at_goal⟩
  have reaches' (tree : FileTree)
      (isFolder : ∃ stamps entries, tree.get? goal = some (.folder stamps entries)) :
      tree.Reaches (.ofPlace goal) FileTree.linkLimit goal :=
    FileTree.reaches_ofPlace areNames short isFolder
  obtain ⟨modes, middle, extracted, holds, filed⟩ :=
    extractEntries_apply reaches' each follow (by simp) gives empty
  have once := follow.nodup (by simp)
  obtain ⟨later, modesSet, holds'⟩ := setModes_apply reaches' (fun file among => by
    obtain ⟨place, bytes, listed, same⟩ := filed file among
    obtain ⟨front, name, rfl⟩ := follow.exists_concat _ listed
    obtain ⟨portable, followable⟩ := each _ listed
    exact ⟨front, name, bytes, lookup_of_mem once (List.mem_append_right _ listed),
      fun next among => (portable next among).toIsName, followable, same⟩) holds
  refine ⟨later, ?_, holds'⟩
  unfold extract
  rw [Changes.bind_apply, files, Changes.mapError, Changes.look, reads]
  dsimp only
  rw [Changes.bind_apply, Changes.look, lists]
  dsimp only
  rw [Changes.bind_apply, files, Changes.mapError, makes]
  dsimp only
  rw [Changes.bind_apply, files, Changes.mapError, Changes.look, located]
  dsimp only
  rw [Changes.bind_apply, extracted]
  exact modesSet

end Archive

end FileQuery
