import FileQuery.Proofs.Settings.RoundTrip

/-!
# Saving settings

Settings are saved to a file as a whole: whatever the file held before, they are read back from it.
Whether they can be saved is up to the path (`save_of_receptive`) and not to the settings
(`save_fst_eq`). The folders that the path goes through may be missing.
-/

namespace FileQuery

namespace FileTree

variable {tree changed : FileTree} {path : Path} {bytes : List UInt8}

/-- A path by which a file can be written, maybe after folders have been made for it. -/
inductive Receptive (tree : FileTree) (path : Path) : Prop
  /-- It leads to a file, or to where nothing is in a folder. -/
  | writable (leads : tree.Writable path)
  /-- It goes down from a folder by names, the first of which is missing there. -/
  | missing {base : Path} {left : Nat} {folder : Place} {first name : String} {more : List String}
      (reaches : tree.Reaches base left folder)
      (isFolder : ∃ stamps entries, tree.get? folder = some (.folder stamps entries))
      (free : tree.get? (folder ++ [first]) = none)
      (areNames : ∀ next ∈ first :: more ++ [name], IsName next)
      (followable : base.Followable (first :: more ++ [name]))
      (goesDown : path = base.down (first :: more ++ [name]))

/-- A path by which a file was written can be written again. -/
theorem writable_of_write (grounded : tree.Grounded)
    (written : tree.write path bytes = .ok changed) : changed.Writable path := by
  obtain ⟨place, stamps, executable, leads⟩ := resolve_of_write grounded written
  exact ⟨place, _, leads, fun node found => by cases found; rfl⟩

/-- What comes of writing a file is up to its path. -/
theorem write_fst_eq (path : Path) (bytes bytes' : List UInt8) (tree : FileTree) :
    ((Changes.ofChange fun tree => tree.write path bytes) tree).1 =
      ((Changes.ofChange fun tree => tree.write path bytes') tree).1 := by
  simp only [Changes.ofChange, write]
  cases tree.truncate path <;> rfl

end FileTree

namespace Settings

variable {tree : FileTree}

/-- What comes of saving settings is the same for all of them. -/
theorem save_fst_eq (settings other : Settings) (path : Path) (tree : FileTree) :
    (settings.save path tree).1 = (other.save path tree).1 := by
  obtain ⟨prepare, saves, -⟩ := exists_save_eq path
  rw [saves settings, saves other, Changes.bind_apply, Changes.bind_apply]
  rcases prepare tree with ⟨error | _, middle⟩
  · rfl
  · exact FileTree.write_fst_eq path _ _ middle

/-- Settings can be saved by a path that is receptive. -/
theorem save_of_receptive (grounded : tree.Grounded) (settings : Settings) {path : Path}
    (receptive : tree.Receptive path) : (settings.save path tree).1 = .ok () := by
  cases receptive with
  | writable leads => exact save_of_writable grounded settings leads
  | @missing base left folder first name more reaches isFolder free areNames followable goesDown =>
    subst goesDown
    obtain ⟨areNames', isNames⟩ := List.forall_mem_append.mp areNames
    have followable' := followable.of_concat areNames' (by simp) (isNames name (by simp))
    obtain ⟨middle, stamps, makes, keeps, made⟩ :=
      FileTree.makeFolders_chain reaches free isFolder areNames' followable'
    have free' : middle.get? (folder ++ (first :: more ++ [name])) = none := by
      rw [← List.append_assoc, FileTree.get?_append, made]
      rfl
    obtain ⟨later, written, -⟩ := FileTree.write_down (reaches.keeps keeps) areNames followable
      ⟨_, _, made⟩ free' (Text.encode settings.text)
    have some_text : ¬ (base.down (first :: more)).text.isEmpty = true := by
      intro empty
      have fits := followable'.fits
      rw [String.isEmpty_iff.mp empty] at fits
      cases fits
    rw [save, Path.parent?_down (by simp) areNames]
    dsimp only
    rw [if_neg some_text, Changes.bind_apply, makes]
    dsimp only [Changes.ofChange]
    rw [written]

/-- Settings are read from their text, and so from the file to which they were saved, whatever it
    held. All settings can be saved by the same paths. -/
theorem saved_settings_return (grounded : tree.Grounded) (path : Path) (settings : Settings) :
    read settings.text = .ok settings ∧
    (tree.Receptive path → (settings.save path tree).1 = .ok ()) ∧
    (∀ other : Settings, (other.save path tree).1 = (settings.save path tree).1) ∧
    ((settings.save path tree).1 = .ok () →
      ofFile (settings.save path tree).2 path = .ok settings) ∧
    ∀ bytes filled, tree.write path bytes = .ok filled →
      (settings.save path filled).1 = .ok () ∧
        ofFile (settings.save path filled).2 path = .ok settings := by
  refine ⟨read_text settings, save_of_receptive grounded settings,
    fun other => save_fst_eq other settings path tree, ofFile_of_save grounded,
    fun bytes filled written => ?_⟩
  have grounded' : filled.Grounded := grounded.keeps (FileTree.keeps_write written)
  have saved := save_of_writable grounded' settings (FileTree.writable_of_write grounded written)
  exact ⟨saved, ofFile_of_save grounded' saved⟩

/-- A tree of an empty folder. -/
def vacant : FileTree := ⟨.emptyFolder .epoch, [], .epoch⟩

/-- Settings without a file of queries, whose directory has a name that has to be escaped. -/
def strange : Settings := ⟨some ⟨"\"\\\n\x01𝄞"⟩, none, true⟩

theorem writable_vacant : vacant.Writable ⟨"s"⟩ := by
  refine ⟨["s"], none, ?_, nofun⟩
  simp [vacant, FileTree.resolve, FileTree.checkPath, FileTree.pathLimit, FileTree.names,
    Path.segments, FileTree.descend, FileTree.start, Path.isAbsolute, FileTree.get?, Node.get?,
    Node.emptyFolder, FileTree.nameLimit, Text.byteLength, Char.utf8Size]

/-- A path of two folders that are not there. -/
theorem receptive_vacant : vacant.Receptive ⟨"n/m/s"⟩ := by
  have areNames : ∀ next ∈ ["n", "m"] ++ ["s"], IsName next := by
    simp only [List.forall_mem_append, List.forall_mem_cons]
    exact ⟨⟨by constructor <;> decide, by constructor <;> decide, nofun⟩,
      by constructor <;> decide, nofun⟩
  have followable : Path.Followable ⟨""⟩ (["n", "m"] ++ ["s"]) := by
    constructor <;> decide
  have reaches : vacant.Reaches ⟨""⟩ FileTree.linkLimit [] := .of_silent (by decide)
  exact .missing reaches ⟨_, _, rfl⟩ rfl areNames followable (by decide)

/-- Settings are saved over what is no text, and in folders that are made for them. -/
theorem saved_settings_return_strange :
    vacant.Grounded ∧ vacant.Receptive ⟨"n/m/s"⟩ ∧
      ofFile (strange.save ⟨"n/m/s"⟩ vacant).2 ⟨"n/m/s"⟩ = .ok strange ∧
      ∃ filled, vacant.write ⟨"s"⟩ [0xff, 0x7b] = .ok filled ∧
        ofFile (strange.save ⟨"s"⟩ filled).2 ⟨"s"⟩ = .ok strange := by
  have grounded : vacant.Grounded := ⟨_, _, rfl⟩
  obtain ⟨-, saves, -, returns, -⟩ := saved_settings_return grounded ⟨"n/m/s"⟩ strange
  obtain ⟨-, -, -, -, overwrites⟩ := saved_settings_return grounded ⟨"s"⟩ strange
  obtain ⟨filled, written⟩ := writable_vacant.exists_write [0xff, 0x7b]
  exact ⟨grounded, receptive_vacant, returns (saves receptive_vacant), filled, written,
    (overwrites _ _ written).2⟩

end Settings

end FileQuery
