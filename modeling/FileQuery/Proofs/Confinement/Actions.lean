import FileQuery.Execution.Run
import FileQuery.Proofs.Confinement.Changes
import FileQuery.Proofs.Conversion.Fanout
import FileQuery.Proofs.Execution.Accounting
import FileQuery.Proofs.Transfer.Copies

/-!
# Actions that stay below a folder

What an action does to matches that are within the root shows only below the folder to which the
root leads. Unpacking is told of on its own, because it makes links.
-/

namespace FileQuery

namespace Changes

variable {ε α : Type} {holds : FileTree → Prop}

theorem maintains_pure (value : α) : (pure value : Changes ε α).Maintains holds :=
  maintains_of_unchanged fun _ => rfl

theorem maintains_look (see : FileTree → Except ε α) : (look see).Maintains holds :=
  maintains_of_unchanged fun _ => rfl

theorem Maintains.at {changes : Changes FileError α} (maintains : changes.Maintains holds)
    (path : Path) : (changes.at path).Maintains holds :=
  maintains.mapError _

end Changes

/-- What is done for matches one after another maintains what is maintained for each of them. -/
theorem Treatment.maintains_all {holds : FileTree → Prop} {treat : Treatment} {root : Path}
    {found : List Path} (report : Report)
    (each : ∀ path ∈ found, ∀ changes, treat path = some changes → changes.Maintains holds) :
    (treat.all root found report).Maintains holds := by
  induction found generalizing report with
  | nil => exact Changes.maintains_pure report
  | cons path rest inductionHypothesis =>
    obtain ⟨first, others⟩ := List.forall_mem_cons.mp each
    intro tree initial
    rw [Treatment.all]
    split
    · exact inductionHypothesis _ others tree initial
    · rename_i changes treats
      have middle := first changes treats tree initial
      dsimp only
      generalize changes tree = made at middle ⊢
      obtain ⟨result, changed⟩ := made
      dsimp only
      split
      · exact middle
      · exact inductionHypothesis _ others _ middle

/-- Trees that come of one another by writing to a path and removing the file there. -/
inductive FileTree.Rewritten (path : Path) (tree : FileTree) : FileTree → Prop
  | refl : Rewritten path tree tree
  | write {later changed : FileTree} {bytes : List UInt8} (before : Rewritten path tree later)
    (written : later.write path bytes = .ok changed) : Rewritten path tree changed
  | remove {later changed : FileTree} (before : Rewritten path tree later)
    (removed : later.removeFile path = .ok changed) : Rewritten path tree changed

/-- A converter that writes nothing but the output, and may remove it. -/
def Converter.WritesOutput (converter : Converter) : Prop :=
  ∀ input output kind tree, FileTree.Rewritten output tree (converter input output kind tree).2

theorem Converter.none_writesOutput : Converter.none.WritesOutput := fun _ _ _ _ => .refl

/-- A path is that of an entry of the folder of a path. -/
def Path.IsEntryOf (path base : Path) : Prop := ∃ name, IsName name ∧ path = base.child name

section

variable {place : Place} {before : FileTree} {root base source target : Path}
  {rest rest' : List String} {found : List Path}

/-! ## Moving, copying and removing -/

theorem Transfer.maintains_copyFile (surrounds : before.Surrounds root place)
    (within : root.Within target rest) (source : Path) :
    (Transfer.copyFile source target).Maintains (Enclosed (Descends place) place before) := by
  refine (Changes.maintains_ofChange fun tree changed enclosed copied => ?_).at source
  exact Enclosed.copyFile enclosed surrounds within copied

/-- Copying a folder maintains what is around the folder, because the entries of each folder that
    is copied have names. -/
theorem Transfer.maintains_copyTree (surrounds : before.Surrounds root place) (depth : Nat)
    (within : root.Within source rest) (within' : root.Within target rest') :
    (Transfer.copyTree depth source target).Maintains (Enclosed (Descends place) place before) := by
  induction depth generalizing source target rest rest' with
  | zero => exact Changes.maintains_of_unchanged fun _ => rfl
  | succ depth inductionHypothesis =>
    refine ((Changes.maintains_look _).at source).bind fun _ _ _ _ _ => ?_
    refine ((Enclosed.maintains_makeFolders surrounds within').at target).bind fun _ _ _ _ _ => ?_
    refine ((Changes.maintains_look _).at source).bind fun tree _ entries enclosed seen => ?_
    obtain ⟨-, listed⟩ := Transfer.look_eq_ok seen
    refine Changes.maintains_forM fun (name, node) member => ?_
    have isName := Enclosed.isName_of_list enclosed surrounds within listed _ member
    dsimp only
    split
    · exact inductionHypothesis (within.child isName) (within'.child isName)
    · exact maintains_copyFile surrounds (within'.child isName) _

theorem Transfer.maintains_copyEntry (surrounds : before.Surrounds root place)
    (within : root.Within source rest) (within' : root.Within target rest') :
    (Transfer.copyEntry source target).Maintains (Enclosed (Descends place) place before) := by
  intro tree enclosed
  unfold Transfer.copyEntry
  split
  · exact maintains_copyTree surrounds _ within within'.child_empty tree enclosed
  · exact maintains_copyFile surrounds within' source tree enclosed

/-- Putting entries into a folder maintains what is around the folder if putting one of them
    does. -/
theorem Transfer.maintains_run {put : Path → Path → Changes ExecutionError Unit}
    (surrounds : before.Surrounds root place) (operation : Operation) (destination : String)
    (within : root.Within (root.join ⟨destination⟩) rest)
    (entries : ∀ path ∈ found, path.IsEntryOf base)
    (puts : ∀ name, IsName name →
      (put (base.child name) ((root.join ⟨destination⟩).child name)).Maintains
        (Enclosed (Descends place) place before)) :
    (Transfer.run operation put root destination found).Maintains
      (Enclosed (Descends place) place before) := by
  unfold Transfer.run
  dsimp only
  split
  · exact Changes.maintains_pure _
  refine ((Enclosed.maintains_makeFolders surrounds within).at _).bind fun _ _ _ _ _ => ?_
  refine Treatment.maintains_all _ fun path member changes treats => ?_
  obtain ⟨name, isName, rfl⟩ := entries path member
  unfold Transfer.into at treats
  rw [Path.fileName?_child base isName] at treats
  dsimp only at treats
  split at treats
  · contradiction
  · obtain rfl := Option.some.inj treats
    exact puts name isName

/-- Removing entries maintains what is around the folder. -/
theorem Removal.maintains_delete (surrounds : before.Surrounds root place) (target : Target)
    (within : root.Within base rest) (entries : ∀ path ∈ found, path.IsEntryOf base) :
    (Removal.delete root target found).Maintains (Enclosed (Descends place) place before) := by
  refine Treatment.maintains_all _ fun path member changes treats => ?_
  obtain ⟨name, isName, rfl⟩ := entries path member
  obtain rfl := Option.some.inj treats
  refine (Changes.maintains_ofChange fun tree changed enclosed removed => ?_).at _
  cases target with
  | files => exact Enclosed.removeFile enclosed surrounds within isName removed
  | folders => exact Enclosed.removeFolder enclosed surrounds within isName removed

/-! ## Packing -/

theorem Packing.maintains_writeArchive (surrounds : before.Surrounds root place)
    (within : root.Within target rest) :
    (Packing.writeArchive target found).Maintains (Enclosed (Descends place) place before) := by
  have writes (bytes : List UInt8) :
      ((Changes.ofChange fun tree => tree.write target bytes).at target).Maintains
        (Enclosed (Descends place) place before) := by
    refine (Changes.maintains_ofChange fun tree changed enclosed written => ?_).at target
    exact Enclosed.write enclosed surrounds within written
  refine (writes []).bind fun _ _ _ _ _ => ?_
  refine (Changes.maintains_look _).bind fun _ _ collected _ _ => ?_
  obtain ⟨members, results⟩ := collected
  exact (writes _).bind fun _ _ _ _ _ => Changes.maintains_look _

/-- Packing entries into an archive with a name maintains what is around the folder. -/
theorem Packing.maintains_archive (surrounds : before.Surrounds root place) (destination : String)
    {name : String} (within : root.Within (root.join ⟨destination⟩) (rest ++ [name])) :
    (Packing.archive root destination found).Maintains
      (Enclosed (Descends place) place before) := by
  obtain ⟨parent, above, within'⟩ := within.parent?
  unfold Packing.archive
  dsimp only
  split
  · exact Changes.maintains_pure _
  rw [above]
  refine ((Enclosed.maintains_makeFolders surrounds within').at parent).bind fun _ _ _ _ _ => ?_
  refine (maintains_writeArchive surrounds within).bind fun _ _ _ _ _ => ?_
  exact Changes.maintains_look _

/-! ## Converting -/

/-- What a converter does that writes only its output shows only below the folder. -/
theorem Enclosed.rewritten {tree changed : FileTree} {name : String}
    (enclosed : Enclosed (Descends place) place before tree)
    (surrounds : before.Surrounds root place) (within : root.Within base rest)
    (isName : IsName name) (rewritten : tree.Rewritten (base.child name) changed) :
    Enclosed (Descends place) place before changed := by
  induction rewritten with
  | refl => exact enclosed
  | write _ written inductionHypothesis =>
    exact Enclosed.write inductionHypothesis surrounds (within.child isName) written
  | remove _ removed inductionHypothesis =>
    exact Enclosed.removeFile inductionHypothesis surrounds within isName removed

/-- Converting entries maintains what is around the folder. -/
theorem Conversion.maintains_convertAll {converter : Converter} (honest : converter.WritesOutput)
    {format : MediaFormat} (listed : format.Listed) (surrounds : before.Surrounds root place)
    (within : root.Within base rest) (entries : ∀ path ∈ found, path.IsEntryOf base)
    (report : Report) {tree : FileTree} (enclosed : Enclosed (Descends place) place before tree) :
    Enclosed (Descends place) place before
      (Conversion.convertAll converter format root found report tree).2 := by
  induction found generalizing report tree with
  | nil => exact enclosed
  | cons path later inductionHypothesis =>
    obtain ⟨first, others⟩ := List.forall_mem_cons.mp entries
    obtain ⟨name, isName, rfl⟩ := first
    have home : root.Within base.trimmed (rest ++ []) := within.trans base.within_trimmed
    have after : Enclosed (Descends place) place before
        (converter (base.child name) (output format (base.child name)) format.kind tree).2 := by
      have writes := honest (base.child name) (output format (base.child name)) format.kind tree
      rw [output_child format base isName] at writes ⊢
      exact enclosed.rewritten surrounds home (isName_outputName listed isName) writes
    rw [convertAll]
    split
    · exact inductionHypothesis others _ enclosed
    · dsimp only
      generalize converter (base.child name) (output format (base.child name)) format.kind tree =
        made at after ⊢
      obtain ⟨error | _, changed⟩ := made
      · exact inductionHypothesis others _ after
      · exact inductionHypothesis others _ after

end

/-! ## Plans -/

namespace Plan

variable {plan : Plan} {statement : Statement} {root : Path} {before : FileTree} {place : Place}
  {found : List Path} {converter : Converter}

/-- The folder of a plan is within the root. -/
theorem within_folder (accepted : ofStatement statement = .ok plan) (root : Path) :
    ∃ rest, root.Within (plan.folder root) rest := by
  have accepts := (ofStatement_eq_ok_iff statement plan).mp accepted
  obtain ⟨relative, areNames⟩ := Path.isName_of_confine accepts.source
  rw [folder, accepts.sameSource]
  exact ⟨_, (Path.Within.refl root).join relative areNames⟩

/-- The destination of a plan is within the root. -/
theorem within_destination (accepted : ofStatement statement = .ok plan) {destination : String}
    (goal : plan.action.destination? = some destination) (root : Path) :
    root.Within (root.join ⟨destination⟩) (FileTree.steps ⟨destination⟩) := by
  have accepts := (ofStatement_eq_ok_iff statement plan).mp accepted
  obtain ⟨relative, areNames⟩ := Path.isName_of_confine (accepts.destination destination goal)
  exact (Path.Within.refl root).join relative areNames

/-- What a plan does to its matches maintains what is around the folder, if it unpacks nothing. -/
theorem maintains_perform (accepted : ofStatement statement = .ok plan)
    (honest : converter.WritesOutput) (surrounds : before.Surrounds root place)
    (entries : ∀ path ∈ found, path.IsEntryOf (plan.folder root))
    (packed : plan.action.operation ≠ .unarchive) :
    (plan.perform root converter found).Maintains (Enclosed (Descends place) place before) := by
  obtain ⟨rest, within⟩ := within_folder accepted root
  have suits := suits_of_actionOf ((ofStatement_eq_ok_iff statement plan).mp accepted).action
  have goal {destination : String} (same : plan.action.destination? = some destination) :=
    within_destination accepted same root
  unfold perform
  cases action : plan.action with
  | select => exact Changes.maintains_pure _
  | delete => exact Removal.maintains_delete surrounds _ within entries
  | move destination =>
    have within' := goal (by rw [action]; rfl)
    refine Transfer.maintains_run surrounds .move destination within' entries fun name isName => ?_
    refine (Changes.maintains_ofChange fun tree changed enclosed moved => ?_).at _
    exact Enclosed.rename enclosed surrounds within within' isName isName moved
  | copy destination =>
    have within' := goal (by rw [action]; rfl)
    refine Transfer.maintains_run surrounds .copy destination within' entries fun name isName => ?_
    exact Transfer.maintains_copyEntry surrounds (within.child isName) (within'.child isName)
  | archive destination =>
    have within' := goal (by rw [action]; rfl)
    have extended : (Path.mk destination).extension?.isSome = true :=
      suits.archive destination action
    obtain ⟨extension, ends⟩ := Option.isSome_iff_exists.mp extended
    obtain ⟨name, ends, -⟩ := Option.bind_eq_some_iff.mp ends
    obtain ⟨front, last, steps⟩ :=
      (List.eq_nil_or_concat _).resolve_left (Path.steps_ne_nil_of_fileName? ends)
    rw [steps, List.concat_eq_append] at within'
    exact Packing.maintains_archive surrounds destination within'
  | unarchive => simp [action, Action.operation] at packed
  | convert format =>
    obtain ⟨-, _, reads⟩ := suits.convert format action
    intro tree enclosed
    exact Conversion.maintains_convertAll honest (MediaFormat.listed_of_ofText? reads) surrounds
      within entries _ enclosed

end Plan

end FileQuery
