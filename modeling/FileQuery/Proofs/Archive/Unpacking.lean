import FileQuery.Proofs.Confinement.Extraction
import FileQuery.Proofs.FileTree.Layers

/-!
# What an archive lays over a folder

To unpack an archive lays its entries over what a folder holds, one after another. Only one error
says that something is missing: no link can be made of an entry whose target is empty. It ends the
unpacking, and what was laid before it stays, with the folders for the link.
-/

namespace FileQuery

namespace Archive

/-- Whether an entry is a link with an empty target. No link can be made of it. -/
def Entry.isEmptyLink (archive : List UInt8) (entry : Entry) : Bool :=
  entry.isLink &&
    match entry.content archive with
    | .ok (bytes, none) => Text.decode? bytes == some ""
    | _ => false

/-- What an entry is unpacked to: a link, a folder or a file. -/
def Entry.substance? (archive : List UInt8) (entry : Entry) : Option Substance :=
  if entry.isEmptyLink archive then none
  else
    match entry.content archive with
    | .error _ => none
    | .ok (bytes, _) =>
      if entry.isLink then (Text.decode? bytes).map .link
      else if entry.isFolder then some .folder
      else some (.file bytes)

/-- An entry over what is held, below the folder at a place. -/
def Entry.laidOver (archive : List UInt8) (goal : Place) (holdings : Holdings) (entry : Entry) :
    Holdings :=
  match entry.names? with
  | none => holdings
  | some names => holdings.lay (goal ++ names) (entry.substance? archive)

/-- Entries over what is held, one after another, up to a link that cannot be made. -/
def overlay (archive : List UInt8) (goal : Place) : List Entry → Holdings → Holdings
  | [], holdings => holdings
  | entry :: rest, holdings =>
    if entry.isEmptyLink archive then entry.laidOver archive goal holdings
    else overlay archive goal rest (entry.laidOver archive goal holdings)

/-- If all links can be made, all entries are laid over what is held. -/
theorem overlay_eq_foldl {archive : List UInt8} {found : List Entry}
    (whole : found.any (·.isEmptyLink archive) = false) (goal : Place) (holdings : Holdings) :
    overlay archive goal found holdings = found.foldl (Entry.laidOver archive goal) holdings := by
  induction found generalizing holdings with
  | nil => rfl
  | cons entry rest inductionHypothesis =>
    rw [List.any_cons, Bool.or_eq_false_iff] at whole
    rw [overlay, whole.1, if_neg Bool.false_ne_true, List.foldl_cons]
    exact inductionHypothesis whole.2 _

/-! ## Errors of reading -/

/-- The error that something is missing. -/
abbrev absent : ArchiveError := .file .notFound

theorem content_ne_absent (archive : List UInt8) (entry : Entry) :
    entry.content archive ≠ .error absent := by
  have stored : entry.stored archive ≠ .error absent := by
    unfold Entry.stored
    dsimp only
    split
    · simp
    split
    · simp
    split <;> simp
  unfold Entry.content
  split
  · simp
  split
  · rename_i fails
    rintro ⟨⟩
    exact stored fails
  · simp
  · split <;> simp

theorem firstOf_ne_absent {bytes : List UInt8} {locator : Locator} {position : Nat}
    {wrong : ArchiveError} (present : wrong ≠ absent) (candidates : List Nat) :
    Layout.firstOf bytes locator position wrong candidates ≠ .error absent := by
  induction candidates generalizing wrong with
  | nil =>
    rintro ⟨⟩
    exact present rfl
  | cons candidate rest inductionHypothesis =>
    rw [Layout.firstOf]
    split
    · simp
    · rename_i flaw fails
      refine inductionHypothesis ?_
      rintro rfl
      unfold Layout.ofLongRecord at fails
      simp only at fails
      split_ifs at fails <;> cases fails

theorem layout_ne_absent (bytes : List UInt8) (record : EndRecord) (position : Nat) :
    Layout.at bytes record position ≠ .error absent := by
  unfold Layout.at
  split
  · unfold Layout.ofLocator
    split
    · simp
    split
    · simp
    · exact firstOf_ne_absent (by simp) _
  · unfold Layout.ofRecord
    dsimp only
    split
    · simp
    split
    · simp
    split <;> simp

theorem entries_ne_absent (bytes : List UInt8) : entries bytes ≠ .error absent := by
  suffices all : ∀ (positions : List Nat) (wrong : Option ArchiveError), wrong ≠ some absent →
      search bytes wrong positions ≠ .error absent from all _ _ (by simp)
  intro positions
  induction positions with
  | nil =>
    rintro (_ | wrong) present ⟨⟩
    exact present rfl
  | cons position rest inductionHypothesis =>
    intro wrong present
    rw [search]
    split
    · rename_i error fails
      refine inductionHypothesis _ ?_
      cases wrong with
      | some wrong => exact present
      | none =>
        rintro ⟨⟩
        unfold EndRecord.read at fails
        split_ifs at fails <;> cases fails
    · split
      · rename_i fails
        refine inductionHypothesis _ ?_
        rintro ⟨⟩
        exact layout_ne_absent _ _ _ fails
      · split
        · simp
        · exact inductionHypothesis _ (by simp)

variable {tree before : FileTree} {path base folder : Path} {whole goal : Place} {name : String}
  {names : List String} {archive : List UInt8}

theorem ends_files {α : Type} {changes : Changes FileError α} {done : α → FileTree → Prop}
    {missing : FileTree → Prop} (ends : changes.Ends .notFound tree done missing) :
    (files changes).Ends absent tree done missing :=
  ends.mapError fun _ _ => ArchiveError.file.inj

/-! ## Ways down -/

/-- A tree in which a name on the way down was settled: there is a folder above it. If the name is
    not the last one, something has it then, and if that is a folder, one has been laid there. -/
structure Settled (tree : FileTree) (path : Path) (whole : Place) (name : String) (last : Bool)
    (later : FileTree) : Prop where
  nears : later.Nears (path.child name) (whole ++ [name])
  above : ∃ stamps entries, tree.get? whole = some (.folder stamps entries)
  same : last = true → later = tree
  there : last = false → later.get? (whole ++ [name]) ≠ none
  laid : last = false → later.substance? (whole ++ [name]) = some .folder →
    later.substance? = Holdings.lay tree.substance? (whole ++ [name]) (some .folder)

/-- What is there and no link stays. -/
theorem settled_of_get? {node : Node} (nears : tree.Nears path whole) (isName : IsName name)
    (found : tree.get? (whole ++ [name]) = some node) (notLink : ∀ target, node ≠ .link target)
    (last : Bool) : Settled tree path whole name last tree where
  nears := FileTree.nears_of_get? (nears.within.child isName) nears.rootFolder found notLink
  above := FileTree.exists_folder_above found (by simp)
  same _ := rfl
  there _ := by simp [found]
  laid _ held := (FileTree.lay_of_there (by simp [found]) (by rw [held]; rfl)).symm

theorem ends_settle (nears : tree.Nears path whole) (there : tree.get? whole ≠ none)
    (isName : IsName name) (last : Bool) :
    (settle last (path.child name)).Ends absent tree
      (fun _ later => Settled tree path whole name last later) fun _ => False := by
  obtain ⟨missing, present⟩ := FileTree.findLink_child nears.within nears.clear isName
  cases named : tree.findLink (path.child name) with
  | ok node =>
    have found := present node named
    cases node with
    | link target =>
      have applied : settle last (path.child name) tree =
          (.error (.flaw (flawOfLink target)), tree) := by
        rw [settle, named]
      exact Changes.ends_of_error applied (by simp)
    | file | folder =>
      have applied : settle last (path.child name) tree = (.ok (), tree) := by
        rw [settle, named]
      exact Changes.ends_of_ok applied (settled_of_get? nears isName found (by simp) last)
  | error error =>
    by_cases fails : error = .notFound
    · subst fails
      have free := missing named
      -- the last name is free for what is to be made there, each one before it gets a folder
      have nears' := FileTree.nears_child nears.within nears.rootFolder
        (nears.clear.concat (by simp [free])) there isName
      have above : ∃ stamps entries, tree.get? whole = some (.folder stamps entries) := by
        obtain ⟨front, _, stamps, entries, same, isFolder⟩ := nears'.exists_folder named
        obtain ⟨rfl, -⟩ := List.append_inj' same rfl
        exact ⟨stamps, entries, isFolder⟩
      cases last with
      | true =>
        have applied : settle true (path.child name) tree = (.ok (), tree) := by
          rw [settle, named]
          rfl
        exact Changes.ends_of_ok applied ⟨nears', above, fun _ => rfl, by simp, by simp⟩
      | false =>
        have applied : settle false (path.child name) tree =
            files (FileTree.makeFolders (path.child name)) tree := by
          rw [settle, named]
          rfl
        have makes := ends_files nears'.ends_makeFolders
        refine (makes.congr applied).mono (fun _ later laid => ?_) fun _ => id
        have nears'' := FileTree.nears_of_laid nears'.within laid
        have isFolder : later.substance? (whole ++ [name]) = some .folder := by
          rw [laid, Holdings.lay_self]
          rfl
        refine ⟨nears'', above, by simp, fun _ => ?_, fun _ _ => laid⟩
        rw [ne_eq, ← FileTree.substance?_eq_none, isFolder]
        simp
    · have applied : settle last (path.child name) tree = (.error (.file error), tree) := by
        rw [settle, named]
        cases error <;> first | rfl | exact absurd rfl fails
      exact Changes.ends_of_error applied fun same => fails (ArchiveError.file.inj same)

/-- Going down by names, folders are laid over the tree on the way. -/
theorem ends_goDown (nears : tree.Nears path whole) (there : tree.get? whole ≠ none)
    (areNames : ∀ name ∈ names, IsName name) :
    (goDown names path).Ends absent tree
      (fun reached later => later.Nears reached (whole ++ names) ∧
        (names ≠ [] → tree.substance? whole = some .folder) ∧
        later.substance? = Holdings.lay tree.substance? (whole ++ names) none) fun _ => False := by
  induction names generalizing tree path whole with
  | nil =>
    rw [goDown, List.append_nil]
    exact Changes.ends_of_ok rfl ⟨nears, by simp, (FileTree.lay_of_there there rfl).symm⟩
  | cons name rest inductionHypothesis =>
    obtain ⟨isName, areNames'⟩ := List.forall_mem_cons.mp areNames
    rw [goDown, List.append_cons]
    refine (ends_settle nears there isName rest.isEmpty).bind fun _ later settled => ?_
    have above := FileTree.substance?_eq_folder.mpr settled.above
    cases rest with
    | nil =>
      obtain rfl := settled.same rfl
      rw [goDown, List.append_nil]
      refine Changes.ends_of_ok rfl ⟨settled.nears, fun _ => above, ?_⟩
      rw [Holdings.lay_eq_update (FileTree.folders_above_child settled.above), Option.none_or]
      funext other
      split
      · rename_i same
        rw [same]
      · rfl
    | cons next more =>
      refine (inductionHypothesis settled.nears (settled.there rfl) areNames').mono ?_ fun _ => id
      rintro reached final ⟨nears', isFolder, laid⟩
      refine ⟨nears', fun _ => above, ?_⟩
      rw [laid, settled.laid rfl (isFolder (by simp)),
        Holdings.lay_lay_above (List.prefix_append _ _) (by simp)]

/-! ## Entries -/

theorem ends_failWith {flaw : Option CompressionFlaw} :
    (failWith flaw).Ends absent tree (fun _ later => flaw = none ∧ tree = later)
      fun _ => False := by
  cases flaw with
  | none => exact Changes.ends_of_ok rfl ⟨rfl, rfl⟩
  | some => exact Changes.ends_of_error rfl (by simp)

/-- A link is made to what bytes name, unless they name nothing. -/
theorem ends_writeLink (nears : tree.Nears path whole) (bytes : List UInt8) :
    (writeLink path bytes).Ends absent tree
      (fun _ later => ∃ target, Text.decode? bytes = some target ∧ target ≠ "" ∧
        later.substance? = Holdings.lay tree.substance? whole (some (.link target)))
      fun later => Text.decode? bytes = some "" ∧ later = tree := by
  unfold writeLink
  cases decoded : Text.decode? bytes with
  | none => exact Changes.ends_of_error rfl (by simp)
  | some target =>
    refine (ends_files (nears.ends_makeLink target)).mono ?_ ?_
    · rintro _ later ⟨some_target, laid⟩
      exact ⟨target, rfl, some_target, laid⟩
    · rintro later ⟨rfl, same⟩
      exact ⟨rfl, same⟩

/-- An entry is laid over the tree, or only the folders on the way to it, if it is a link that
    cannot be made. -/
theorem ends_extractEntry (nears : tree.Nears base goal) (there : tree.get? goal ≠ none)
    (entry : Entry) :
    (extractEntry archive base entry).Ends absent tree
      (fun _ later => entry.isEmptyLink archive = false ∧
        later.substance? = entry.laidOver archive goal tree.substance?)
      fun later => entry.isEmptyLink archive = true ∧
        later.substance? = entry.laidOver archive goal tree.substance? := by
  unfold extractEntry
  have looks : Changes.Ends absent (.look fun _ => entry.content archive) tree
      (fun content later => entry.content archive = .ok content ∧ tree = later)
      fun _ => False :=
    Changes.ends_look (fun _ same => ⟨same, rfl⟩) (content_ne_absent archive entry)
  refine looks.of_never.bind ?_
  rintro ⟨bytes, flaw⟩ _ ⟨content, rfl⟩
  dsimp only
  unfold Entry.laidOver
  cases reads : entry.names? with
  | none => exact Changes.ends_of_error rfl (by simp)
  | some names =>
  dsimp only
  refine (ends_goDown nears there (areNames_of_names? reads)).of_never.bind ?_
  rintro path later ⟨nears', -, laid⟩
  -- the folders on the way are laid already, and laying the entry itself would lay them
  have laid_ (thing : Option Substance) : Holdings.lay later.substance? (goal ++ names) thing =
      Holdings.lay tree.substance? (goal ++ names) thing := by
    rw [laid, Holdings.lay_lay_folders]
  cases isLink : entry.isLink with
  | true =>
    rw [if_pos rfl]
    refine ends_failWith.of_never.bind ?_
    rintro _ _ ⟨rfl, rfl⟩
    have isEmpty : entry.isEmptyLink archive = (Text.decode? bytes == some "") := by
      simp [Entry.isEmptyLink, isLink, content]
    refine ((ends_writeLink nears' bytes).mono (fun _ _ => id) ?_).bind ?_
    · rintro _ ⟨decoded, rfl⟩
      rw [decoded, beq_self_eq_true] at isEmpty
      have empty : entry.substance? archive = none := by rw [Entry.substance?, isEmpty, if_pos rfl]
      exact ⟨isEmpty, by rw [laid, empty]⟩
    · rintro _ final ⟨target, decoded, some_target, laid'⟩
      rw [decoded, beq_eq_false_iff_ne.mpr (by simpa using some_target)] at isEmpty
      have made : entry.substance? archive = some (.link target) := by
        simp [Entry.substance?, isEmpty, content, isLink, decoded]
      exact Changes.ends_of_ok rfl ⟨isEmpty, by rw [laid', laid_, made]⟩
  | false =>
    have noLink : entry.isEmptyLink archive = false := by
      rw [Entry.isEmptyLink, isLink, Bool.false_and]
    rw [if_neg Bool.false_ne_true]
    cases isFolder : entry.isFolder with
    | true =>
      have made : entry.substance? archive = some .folder := by
        simp [Entry.substance?, noLink, content, isLink, isFolder]
      refine (ends_files nears'.ends_makeFolders).of_never.bind ?_
      intro _ final laid'
      exact Changes.ends_of_ok rfl ⟨noLink, by rw [laid', laid_, made]⟩
    | false =>
      have made : entry.substance? archive = some (.file bytes) := by
        simp [Entry.substance?, noLink, content, isLink, isFolder]
      rw [if_neg Bool.false_ne_true]
      refine (ends_files nears'.ends_write).of_never.bind ?_
      intro _ final laid'
      refine ends_failWith.of_never.bind ?_
      rintro _ _ ⟨-, rfl⟩
      exact Changes.ends_of_ok rfl ⟨noLink, by rw [laid', laid_, made]⟩

/-! ## All that is in an archive -/

/-- While something is unpacked, changes end in a tree in which it is still being unpacked. -/
theorem unpacking_of_ends {α : Type} {changes : Changes ArchiveError α} {first : FileTree → Prop}
    {done last : α → FileTree → Prop} {missing : FileTree → Prop}
    (ends : changes.Ends absent tree done missing)
    (unpacks : changes.Unpacks goal goal before first last)
    (unpacking : Unpacking goal goal before tree) (initial : first tree) :
    changes.Ends absent tree
      (fun value later => Unpacking goal goal before later ∧ last value later ∧ done value later)
      missing where
  done value later same := by
    obtain ⟨unpacking', -, tells⟩ := unpacks tree unpacking initial
    rw [same] at unpacking' tells
    exact ⟨unpacking', tells value rfl, ends.done _ _ same⟩
  missing := ends.missing

/-- What is unpacked at a place leads there still. -/
theorem nears_of_unpacking (within : Path.top.Within base goal)
    (unpacking : Unpacking goal goal before tree) :
    tree.Nears base goal ∧ tree.get? goal ≠ none := by
  obtain ⟨_, _, found⟩ := unpacking.isFolder
  exact ⟨FileTree.nears_of_get? within unpacking.rootFolder found (by simp), by simp [found]⟩

section

variable (within : Path.top.Within base goal) (unpacking : Unpacking goal goal before tree)

include within unpacking

/-- Entries are laid over the tree one after another, up to a link that cannot be made. -/
theorem ends_extractEntries (found : List Entry) :
    (extractEntries archive base found).Ends absent tree
      (fun _ later => found.any (·.isEmptyLink archive) = false ∧
        later.substance? = overlay archive goal found tree.substance?)
      fun later => found.any (·.isEmptyLink archive) = true ∧
        later.substance? = overlay archive goal found tree.substance? := by
  induction found generalizing tree with
  | nil => exact Changes.ends_of_ok rfl ⟨rfl, rfl⟩
  | cons entry rest inductionHypothesis =>
    obtain ⟨nears, there⟩ := nears_of_unpacking within unpacking
    have first := unpacking_of_ends (ends_extractEntry nears there entry)
      (unpacks_extractEntry (List.prefix_refl _) within archive entry) unpacking trivial
    rw [List.any_cons, extractEntries]
    refine (first.mono (fun _ _ => id) ?_).bind ?_
    · rintro later ⟨isEmpty, laid⟩
      rw [overlay, isEmpty]
      exact ⟨rfl, laid⟩
    · rintro mode later ⟨unpacking', -, some_target, laid⟩
      rw [overlay, some_target, Bool.false_or, if_neg Bool.false_ne_true, ← laid]
      exact (inductionHypothesis unpacking').bind fun _ _ ended => Changes.ends_of_ok rfl ended

omit within in
/-- That files get modes changes nothing that is laid. -/
theorem ends_setModes {modes : List (Path × Bool)}
    (filed : ∀ file ∈ modes, Filed goal file.1 tree) :
    Changes.Ends absent (modes.forM fun (path, executable) =>
        files (.ofChange fun tree => tree.setExecutable path executable)) tree
      (fun _ later => later.substance? = tree.substance?) fun _ => False := by
  induction modes generalizing tree with
  | nil => exact Changes.ends_of_ok rfl rfl
  | cons file rest inductionHypothesis =>
    obtain ⟨path, executable⟩ := file
    obtain ⟨filed_, filed'⟩ := List.forall_mem_cons.mp filed
    obtain ⟨whole, within, -, _, _, _, found⟩ := filed_
    have nears := FileTree.nears_of_get? within unpacking.rootFolder found (by simp)
    have sets := ends_files (nears.ends_setExecutable (by simp [found]) executable)
    have stays (tree later : FileTree) (keeps : tree.Keeps later)
        (filed : ∀ file ∈ rest, Filed goal file.1 tree) : ∀ file ∈ rest, Filed goal file.1 later :=
      fun file member => (filed file member).keeps keeps
    have set := unpacking_of_ends sets
      ((unpacks_setExecutable (List.prefix_refl _) path executable).frame stays) unpacking
      (List.forall_mem_cons.mp filed)
    refine set.bind ?_
    rintro _ later ⟨unpacking', ⟨-, filed''⟩, same⟩
    rw [← same]
    exact inductionHypothesis unpacking' filed''

end

/-- An archive that can be read is laid over the folder that it is unpacked in. If it has a link
    that cannot be made, that is said to be missing, and only what comes before it is laid. -/
theorem ends_extract {left : Nat} (areNames : ∀ name ∈ goal, IsName name)
    (unpacking : Unpacking goal goal before tree) (reaches : tree.Reaches folder left goal)
    (some_text : folder.text ≠ "") (readable : tree.read path ≠ .error .notFound) :
    (extract path folder).Ends absent tree
      (fun _ later => ∃ bytes found, tree.read path = .ok bytes ∧ entries bytes = .ok found ∧
        found.any (·.isEmptyLink bytes) = false ∧
        later.substance? = overlay bytes goal found tree.substance?)
      fun later => ∃ bytes found, tree.read path = .ok bytes ∧ entries bytes = .ok found ∧
        found.any (·.isEmptyLink bytes) = true ∧
        later.substance? = overlay bytes goal found tree.substance? := by
  unfold extract
  have reads : Changes.Ends .notFound (.look fun tree => tree.read path) tree
      (fun bytes later => tree.read path = .ok bytes ∧ tree = later) fun _ => False :=
    Changes.ends_look (fun _ same => ⟨same, rfl⟩) readable
  refine (ends_files reads).of_never.bind ?_
  rintro bytes _ ⟨read, rfl⟩
  have finds : Changes.Ends absent (.look fun _ => entries bytes) tree
      (fun found later => entries bytes = .ok found ∧ tree = later) fun _ => False :=
    Changes.ends_look (fun _ same => ⟨same, rfl⟩) (entries_ne_absent bytes)
  refine finds.of_never.bind ?_
  rintro found _ ⟨listed, rfl⟩
  have makes := FileTree.ends_makeFolders_of_reaches reaches unpacking.isFolder
  refine (ends_files makes).of_never.bind ?_
  rintro _ _ rfl
  have locates := FileTree.ends_locate_of_reaches reaches unpacking.isFolder some_text
  refine (ends_files locates).of_never.bind ?_
  rintro ⟨place, node⟩ _ ⟨rfl, rfl⟩
  have within := Path.within_ofPlace areNames
  have extracts := unpacking_of_ends (ends_extractEntries within unpacking found)
    (unpacks_extractEntries (List.prefix_refl _) within bytes found) unpacking trivial
  refine (extracts.mono (fun _ _ => id) ?_).bind ?_
  · rintro later ⟨some_link, laid⟩
    exact ⟨bytes, found, read, listed, some_link, laid⟩
  · rintro modes later ⟨unpacking', filed, no_link, laid⟩
    refine (ends_setModes unpacking' filed).of_never.mono (fun _ final same => ?_) fun _ => id
    exact ⟨bytes, found, read, listed, no_link, same.trans laid⟩

end Archive

end FileQuery
