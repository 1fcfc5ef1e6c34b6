import FileQuery.Proofs.Archive.RoundTrip
import FileQuery.Proofs.Archive.Unpacking
import FileQuery.Proofs.Execution.Vanishing
import FileQuery.Proofs.Plan.SamePlace
import FileQuery.Proofs.Transfer.Destinations

/-!
# Archives laid over a folder

Archives among matches are unpacked one after another in the order of the listing: each lays its
entries over what the folder holds by then. Other matches are skipped. What is outside the folder is
as it was, apart from folders that were made for it, and so are all matches.
-/

namespace FileQuery

/-- A match that is an archive, with what is in it. -/
structure MatchedArchive where
  name : String
  bytes : List UInt8
  entries : List Archive.Entry

namespace MatchedArchive

/-- Whether an archive has a link with an empty target, which cannot be made. -/
def breaks (archive : MatchedArchive) : Bool :=
  archive.entries.any (·.isEmptyLink archive.bytes)

/-- An archive over what is held, below the folder at a place. -/
def laidOver (goal : Place) (holdings : Holdings) (archive : MatchedArchive) : Holdings :=
  Archive.overlay archive.bytes goal archive.entries holdings

/-- An archive is a file in a folder, and its entries can be read. -/
structure IsIn (archive : MatchedArchive) (tree : FileTree) (source : Place) : Prop where
  content : tree.content? (source ++ [archive.name]) = some archive.bytes
  reads : Archive.entries archive.bytes = .ok archive.entries

/-- An archive is in a tree that has the same file. -/
theorem IsIn.congr {archive : MatchedArchive} {tree other : FileTree} {source : Place}
    (isIn : archive.IsIn tree source)
    (same : tree.get? (source ++ [archive.name]) = other.get? (source ++ [archive.name])) :
    archive.IsIn other source :=
  ⟨by rw [FileTree.content?, ← same]; exact isIn.content, isIn.reads⟩

end MatchedArchive

variable {tree start before after : FileTree} {root base folder : Path} {source goal place : Place}
  {left left' : Nat} {name destination : String} {names : List String}
  {archive : MatchedArchive} {archives : List MatchedArchive} {report final : Report}

/-! ## Reports on archives -/

namespace Report

/-- A report on matches of which the archives were unpacked, or failed for a link that could not be
    made, and the others were skipped. -/
def unpacked (report : Report) (root base : Path) (names : List String)
    (archives : List MatchedArchive) : Report :=
  { report with
    processed := report.processed + (archives.filter (!·.breaks)).length
    skipped := report.skipped ++
      (names.filter fun name => !Packing.isArchive (base.child name)).map fun name =>
        (base.child name).relativeTo root
    failures := report.failures ++ (archives.filter (·.breaks)).map fun archive =>
      .ofMissing root (base.child archive.name) }

theorem unpacked_nil (report : Report) (root base : Path) :
    report.unpacked root base [] [] = report := by
  simp [unpacked]

theorem unpacked_skip (other : Packing.isArchive (base.child name) = false) :
    (report.skip root (base.child name)).unpacked root base names archives =
      report.unpacked root base (name :: names) archives := by
  simp [unpacked, skip, other]

/-- A report with the result for one more archive. -/
def unpack (report : Report) (root base : Path) (archive : MatchedArchive) : Report :=
  if archive.breaks then
    report.fail root (base.child archive.name)
      (ExecutionError.file (base.child archive.name) .notFound).message
  else report.succeed

theorem unpacked_unpack (isArchive : Packing.isArchive (base.child archive.name) = true) :
    (report.unpack root base archive).unpacked root base names archives =
      report.unpacked root base (archive.name :: names) (archive :: archives) := by
  cases breaks : archive.breaks <;>
    simp [unpacked, unpack, breaks, fail, succeed, PathFailure.ofMissing, isArchive,
      Nat.add_assoc, Nat.add_comm 1]

end Report

/-! ## One archive after another -/

namespace FileTree

/-- What is neither below a folder nor above it is the same where all around the folder is. -/
theorem get?_of_around (around : tree.around goal = before.around goal)
    (notBelow : ¬ goal <+: place) (notAbove : ¬ place <+: goal) :
    tree.get? place = before.get? place := by
  have apart (tree : FileTree) : (tree.around goal).get? place = tree.get? place :=
    Node.get?_modify_other _ _ notBelow notAbove
  rw [← apart tree, around, apart before]

end FileTree

namespace Packing

/-- Archives are being unpacked: the folder that they are in is opened by its path, and so is the
    one that they are unpacked in, which is no folder of the matches nor above it. -/
structure Opening (start : FileTree) (base folder : Path) (source goal : Place) : Prop where
  opensSource : start.Opens base source
  opensGoal : start.Opens folder goal
  areNames : ∀ name ∈ goal, IsName name
  some_text : folder.text ≠ ""
  apart : ¬ goal <+: source

/-- A tree in which archives are being unpacked. -/
structure Unarchiving (start : FileTree) (goal : Place) (tree : FileTree) : Prop where
  unpacking : Unpacking goal goal start tree
  keeps : start.Keeps tree

/-- A file in the folder of the matches is neither at the folder that archives are unpacked in, nor
    above it, nor below it. -/
theorem Opening.beside (opening : Opening start base folder source goal) {stamps : Stamps}
    {executable : Bool} {bytes : List UInt8}
    (isFile : start.get? (source ++ [name]) = some (.file stamps executable bytes)) :
    ¬ goal <+: source ++ [name] ∧ ¬ source ++ [name] <+: goal := by
  obtain ⟨-, isFolder⟩ := opening.opensGoal
  have above : ¬ source ++ [name] <+: goal := by
    intro above
    obtain ⟨_, _, found⟩ := FileTree.exists_folder_of_above above isFolder
    cases isFile.symm.trans found
  refine ⟨fun below => ?_, above⟩
  rcases List.prefix_concat_iff.mp below with same | below
  · exact above (same ▸ List.prefix_refl _)
  · exact opening.apart below

section

variable (opening : Opening start base folder source goal)

include opening

/-- An archive is there as it was, whatever was unpacked so far: its path does not lead to nothing,
    and if it can be read, then to its bytes. -/
theorem Opening.read_archive (unarchiving : Unarchiving start goal tree) (isName : IsName name)
    {stamps : Stamps} {executable : Bool} {bytes : List UInt8}
    (isFile : start.get? (source ++ [name]) = some (.file stamps executable bytes)) :
    tree.read (base.child name) ≠ .error .notFound ∧
      ∀ held, tree.read (base.child name) = .ok held → held = bytes := by
  obtain ⟨⟨left, reaches⟩, -⟩ := opening.opensSource
  obtain ⟨notBelow, notAbove⟩ := opening.beside isFile
  have found : tree.get? (source ++ [name]) = some (.file stamps executable bytes) :=
    (FileTree.get?_of_around unarchiving.unpacking.enclosed.around notBelow notAbove).trans isFile
  have read := FileTree.read_child (reaches.keeps unarchiving.keeps) isName (by simp [found])
  rw [FileTree.shell?, found] at read
  rw [read]
  split
  · rename_i error fault
    refine ⟨?_, by simp⟩
    rintro ⟨⟩
    exact FileTree.namingFault_ne_notFound base isName fault
  · simp [FileTree.readShell, Node.shell]

/-- An archive that was unpacked lays its entries over the folder, and its result is recorded. -/
theorem unarchiving_of_record (unarchiving : Unarchiving start goal tree) (isName : IsName name)
    {stamps : Stamps} {executable : Bool} {bytes : List UInt8}
    (isFile : start.get? (source ++ [name]) = some (.file stamps executable bytes))
    {result : Except ExecutionError Unit} {recorded : Report}
    (made : (Archive.extract (base.child name) folder).mapError
      (ExecutionError.ofArchive (base.child name)) tree = (result, after))
    (records : report.record root (base.child name) result = .ok recorded) :
    ∃ found, Archive.entries bytes = .ok found ∧ Unarchiving start goal after ∧
      recorded = report.unpack root base ⟨name, bytes, found⟩ ∧
      after.substance? = MatchedArchive.laidOver goal tree.substance? ⟨name, bytes, found⟩ := by
  obtain ⟨readable, reads⟩ := opening.read_archive unarchiving isName isFile
  obtain ⟨⟨left', reaches'⟩, -⟩ := opening.opensGoal
  obtain ⟨unpacking, keeps⟩ := unarchiving
  have ends := Archive.ends_extract opening.areNames unpacking (reaches'.keeps keeps)
    opening.some_text readable
  obtain ⟨unpacking', keeps', -⟩ := Archive.unpacks_extract (List.prefix_refl _) opening.areNames
    (base.child name) folder tree unpacking (reaches'.keeps keeps)
  unfold Changes.mapError at made
  rcases extracted : Archive.extract (base.child name) folder tree with ⟨error | ⟨⟩, later⟩
  · rw [extracted] at made unpacking' keeps'
    obtain ⟨rfl, rfl⟩ := Prod.mk.inj made
    -- the error does not end the run, so it says that something is missing
    rw [Report.record] at records
    split at records
    · rename_i missing
      obtain rfl : error = Archive.absent := by
        cases error with
        | flaw => cases missing
        | file error => cases error <;> first | rfl | cases missing
      obtain ⟨held, found', read', listed, breaks, laid⟩ := ends.missing _ extracted
      obtain rfl := reads _ read'
      refine ⟨found', listed, ⟨unpacking', keeps.trans keeps'⟩, ?_, laid⟩
      rw [Report.unpack, MatchedArchive.breaks, breaks, if_pos rfl]
      exact (Except.ok.inj records).symm
    · cases records
  · rw [extracted] at made unpacking' keeps'
    obtain ⟨rfl, rfl⟩ := Prod.mk.inj made
    obtain ⟨held, found', read', listed, whole, laid⟩ := ends.done _ _ extracted
    obtain rfl := reads _ read'
    refine ⟨found', listed, ⟨unpacking', keeps.trans keeps'⟩, ?_, laid⟩
    rw [Report.unpack, MatchedArchive.breaks, whole, if_neg Bool.false_ne_true]
    exact (Except.ok.inj records).symm

/-- Archives that are unpacked one after another are laid over the folder in their order. -/
theorem unarchiving_of_all (unarchiving : Unarchiving start goal tree)
    (areNames : ∀ name ∈ names, IsName name)
    (areFiles : ∀ name ∈ names, ∃ stamps executable bytes,
      start.get? (source ++ [name]) = some (.file stamps executable bytes))
    (done : (into folder).all root (names.map base.child) report tree = (.ok final, after)) :
    ∃ archives, archives.map (·.name) = names.filter (fun name => isArchive (base.child name)) ∧
      (∀ archive ∈ archives, archive.IsIn start source) ∧
      final = report.unpacked root base names archives ∧ Unarchiving start goal after ∧
      after.substance? = archives.foldl (MatchedArchive.laidOver goal) tree.substance? := by
  induction names generalizing tree report with
  | nil =>
    obtain ⟨same, rfl⟩ := Prod.mk.inj done
    obtain rfl := Except.ok.inj same
    exact ⟨[], rfl, by simp, (Report.unpacked_nil _ _ _).symm, unarchiving, rfl⟩
  | cons name rest inductionHypothesis =>
    obtain ⟨isName, areNames'⟩ := List.forall_mem_cons.mp areNames
    obtain ⟨⟨stamps, executable, bytes, isFile⟩, areFiles'⟩ := List.forall_mem_cons.mp areFiles
    rw [List.map_cons] at done
    rcases Treatment.all_cons_eq_ok done with ⟨skips, done'⟩ |
      ⟨changes, result, middle, recorded, treats, made, records, done'⟩
    · have other : isArchive (base.child name) = false := by
        unfold into at skips
        simpa using skips
      obtain ⟨archives, named, areIn, rfl, unarchiving', laid⟩ :=
        inductionHypothesis unarchiving areNames' areFiles' done'
      refine ⟨archives, ?_, areIn, Report.unpacked_skip other, unarchiving', laid⟩
      rw [List.filter_cons_of_neg (by simp [other]), named]
    · unfold into at treats
      split at treats
      · rename_i archive
        obtain rfl := Option.some.inj treats
        obtain ⟨found, listed, unarchiving', rfl, laid⟩ :=
          unarchiving_of_record opening unarchiving isName isFile made records
        obtain ⟨archives, named, areIn, rfl, unarchiving'', laid'⟩ :=
          inductionHypothesis unarchiving' areNames' areFiles' done'
        have content : start.content? (source ++ [name]) = some bytes := by
          rw [FileTree.content?, isFile]
          rfl
        refine ⟨⟨name, bytes, found⟩ :: archives, ?_,
          List.forall_mem_cons.mpr ⟨⟨content, listed⟩, areIn⟩, Report.unpacked_unpack archive,
          unarchiving'', ?_⟩
        · rw [List.map_cons, named]
          simp [archive]
        · rw [List.foldl_cons, ← laid, laid']
      · cases treats

end

end Packing

/-! ## What is left when all is unpacked -/

/-- Folders on the way down to a place, and at the place, are laid over the tree. -/
theorem FileTree.Furnished.substance?_eq_lay (furnished : tree.Furnished goal start)
    (isFolder : ∃ stamps entries, start.get? goal = some (.folder stamps entries)) :
    start.substance? = Holdings.lay tree.substance? goal (some .folder) := by
  funext other
  by_cases above : other <+: goal
  · have laid : Holdings.lay tree.substance? goal (some .folder) other = some .folder := by
      by_cases same : other = goal
      · rw [same, Holdings.lay_self]
        rfl
      · exact Holdings.lay_above above same
    rw [laid]
    exact substance?_eq_folder.mpr (exists_folder_of_above above isFolder)
  · rw [Holdings.lay_elsewhere above, substance?, furnished.elsewhere other above]
    rfl

/-- A tree that came of another one by unpacking archives in a folder. What the folder held is
    overlaid with the archives, one after another. If no archive has a link that cannot be made, it
    is overlaid with all that is in them. The folder, and each that it is in, was made or was one
    before. Everything else is as it was. -/
structure FileTree.Unarchived (before : FileTree) (goal : Place) (archives : List MatchedArchive)
    (tree : FileTree) : Prop where
  overlaid : tree.substance? = archives.foldl (MatchedArchive.laidOver goal)
    (Holdings.lay before.substance? goal (some .folder))
  whole : (∀ archive ∈ archives, archive.breaks = false) →
    tree.substance? = archives.foldl (fun holdings archive =>
        archive.entries.foldl (Archive.Entry.laidOver archive.bytes goal) holdings)
      (Holdings.lay before.substance? goal (some .folder))
  folders : ∀ other, other <+: goal →
    (∃ stamps entries, tree.get? other = some (.folder stamps entries)) ∧
      ∀ node, before.get? other = some node → node.isFolder = true
  elsewhere : ∀ other, ¬ goal <+: other → ¬ other <+: goal → tree.get? other = before.get? other

/-- Where folders were made, and archives were unpacked in the last of them, this is what came of
    both. -/
theorem FileTree.Unarchived.of_unarchiving (furnished : tree.Furnished goal start)
    (isFolder : ∃ stamps entries, start.get? goal = some (.folder stamps entries))
    (unarchiving : Packing.Unarchiving start goal after)
    (laid : after.substance? = archives.foldl (MatchedArchive.laidOver goal) start.substance?) :
    tree.Unarchived goal archives after where
  overlaid := by rw [laid, furnished.substance?_eq_lay isFolder]
  whole all := by
    rw [laid, furnished.substance?_eq_lay isFolder]
    refine List.foldl_ext _ _ _ fun holdings archive listed => ?_
    exact Archive.overlay_eq_foldl (all archive listed) goal holdings
  folders other above := by
    have stood := exists_folder_of_above above isFolder
    exact ⟨unarchiving.keeps.isFolder stood, fun node found => furnished.isFolder_of stood found⟩
  elsewhere other notBelow notAbove :=
    (get?_of_around unarchiving.unpacking.enclosed.around notBelow notAbove).trans
      (furnished.elsewhere other notAbove)

/-- Where no match is an archive, all of them are skipped. -/
theorem Report.unpacked_of_none (destination : Option String)
    (none : ∀ name ∈ names, Packing.isArchive (base.child name) = false) :
    (Report.start .unarchive destination root (names.map base.child)).unpacked root base names [] =
      passing .unarchive destination root (names.map base.child) := by
  have all : names.filter (fun name => !Packing.isArchive (base.child name)) = names :=
    List.filter_eq_self.mpr fun name listed => by simp [none name listed]
  simp [unpacked, passing, Report.start, all]

/-- After the destination of a plan was made, archives can be unpacked in it, if it is neither the
    folder of the matches nor above it. -/
theorem Plan.exists_opening {plan : Plan} {statement : Statement}
    (accepted : Plan.ofStatement statement = .ok plan)
    (aims : plan.action.destination? = some destination) (plain : tree.Plain)
    (opens : tree.Opens (plan.folder root) source)
    (apart : ¬ tree.lexical (root.join ⟨destination⟩) <+: source)
    (makes : FileTree.makeFolders (root.join ⟨destination⟩) tree = (.ok (), start)) :
    ∃ goal, tree.lexical (root.join ⟨destination⟩) = goal ∧ tree.Furnished goal start ∧
      Packing.Opening start (plan.folder root) (root.join ⟨destination⟩) source goal := by
  obtain ⟨home, rest, rest', prepared, -, rfl, goal_⟩ :=
    Plan.exists_prepared accepted aims plain opens makes
  obtain ⟨-, within', furnished, opensSource, opensGoal⟩ := prepared
  rw [goal_] at apart
  refine ⟨_, goal_, furnished, opensSource, opensGoal, ?_, fun empty => ?_, apart⟩
  · obtain ⟨-, stamps, entries, isFolder⟩ := opensGoal
    exact furnished.plain.areNames isFolder
  · have steps := within'.steps
    rw [FileTree.steps, empty] at steps
    have nothing : rest' = [] := (List.append_eq_nil_iff.mp steps.symm).2
    rw [nothing, List.append_nil] at apart
    exact apart (List.prefix_append _ _)

/-- While nothing is unpacked yet, archives are being unpacked. -/
theorem Packing.Opening.unarchiving (opening : Opening start base folder source goal)
    (plain : start.Plain) : Unarchiving start goal start := by
  obtain ⟨-, stamps, entries, isFolder⟩ := opening.opensGoal
  have throughout := FileTree.named_iff_throughout.mp plain.named
  exact ⟨⟨.refl isFolder (throughout.below isFolder), stamps, entries, isFolder⟩, .refl start⟩

/-- Files are the same files after folders were made on the way down to a place. -/
theorem Plan.Selects.files {plan : Plan} (selects : plan.Selects root tree source names)
    (ofFiles : plan.target = .files) (furnished : tree.Furnished goal start)
    (isFolder : ∃ stamps entries, start.get? goal = some (.folder stamps entries)) :
    ∀ name ∈ names, start.get? (source ++ [name]) = tree.get? (source ++ [name]) ∧
      ∃ stamps executable bytes,
        start.get? (source ++ [name]) = some (.file stamps executable bytes) := by
  intro name listed
  obtain ⟨node, found, accepts⟩ := selects.present name listed
  rw [ofFiles] at accepts
  cases node with
  | file stamps executable bytes =>
    have same := furnished.elsewhere (source ++ [name]) fun above => by
      have folder := furnished.isFolder_of (FileTree.exists_folder_of_above above isFolder) found
      cases folder
    exact ⟨same, stamps, executable, bytes, same.trans found⟩
  | folder | link => cases accepts

namespace Statement

variable {plan : Plan} {converter : Converter} {selection : Selection}

/-- The plan of a statement that unpacks is to unpack files. -/
theorem action_of_unarchive
    (accepted : Plan.ofStatement (.unarchive selection destination) = .ok plan) :
    plan.action = .unarchive destination ∧ plan.target = .files := by
  have accepts := (Plan.ofStatement_eq_ok_iff _ _).mp accepted
  obtain ⟨demands, -, operation, aims⟩ :=
    (Plan.actionOf_eq_ok_iff rfl (by simp [Statement.operation])).mp accepts.action
  exact ⟨((Plan.action_eq_iff rfl).mpr ⟨operation, aims⟩).symm, (demands.unarchive rfl).1⟩

/-- Where some match is an archive, the archives are laid over the destination, and matches are as
    they were. -/
theorem exists_of_unarchive
    (accepted : Plan.ofStatement (.unarchive selection destination) = .ok plan)
    (plain : tree.Plain) (selects : plan.Selects root tree source names)
    (apart : ¬ tree.lexical (root.join ⟨destination⟩) <+: source)
    (any : (names.map (plan.folder root).child).any Packing.isArchive = true)
    (done : Packing.unarchive root destination (names.map (plan.folder root).child) tree =
      (.ok report, after)) :
    ∃ archives,
      (archives.map (·.name) =
        names.filter fun name => Packing.isArchive ((plan.folder root).child name)) ∧
      (∀ archive ∈ archives, archive.IsIn tree source) ∧
      report = (Report.start .unarchive (some destination) root
        (names.map (plan.folder root).child)).unpacked root (plan.folder root) names archives ∧
      tree.Unarchived (tree.lexical (root.join ⟨destination⟩)) archives after ∧
      ∀ name ∈ names, after.get? (source ++ [name]) = tree.get? (source ++ [name]) := by
  obtain ⟨unpacks, ofFiles⟩ := action_of_unarchive accepted
  have aims : plan.action.destination? = some destination := by
    rw [unpacks]
    rfl
  obtain ⟨start, made, all⟩ := Packing.all_of_unarchive any done
  obtain ⟨goal, goal_, furnished, opening⟩ :=
    Plan.exists_opening accepted aims plain selects.opens apart made
  obtain ⟨-, isFolder⟩ := opening.opensGoal
  have stays := selects.files ofFiles furnished isFolder
  obtain ⟨archives, named, areIn, reported, unarchiving, laid⟩ := Packing.unarchiving_of_all opening
    (opening.unarchiving furnished.plain) selects.areNames
    (fun name listed => (stays name listed).2) all
  have unarchived := FileTree.Unarchived.of_unarchiving furnished isFolder unarchiving laid
  refine ⟨archives, named, fun archive listed => ?_, reported, goal_.symm ▸ unarchived,
    fun name listed => ?_⟩
  · have member : archive.name ∈ names := by
      have member' := named ▸ List.mem_map_of_mem listed
      exact (List.mem_filter.mp member').1
    exact (areIn archive listed).congr (stays _ member).1
  · obtain ⟨-, stamps, executable, bytes, found⟩ := stays name listed
    obtain ⟨notBelow, notAbove⟩ := opening.beside found
    exact unarchived.elsewhere _ notBelow notAbove

/-- A statement that unpacks and is completed has skipped exactly the matches that are no archives,
    by their extension. What the destination held is overlaid with the entries of the others, one
    archive after another in the order of the listing, and each entry takes the place of what has
    its name by then. Nothing outside the destination has changed but that it and missing folders
    that it is in were made, if there was any archive. All matches are as they were.

    An archive that fails ends the statement, unless it fails for a link with an empty target. Then
    it is reported, and its entries before the link are unpacked.

    The tree has no links, and the destination is neither the folder of the matches nor above it. -/
theorem unarchive_overlays
    (accepted : Plan.ofStatement (.unarchive selection destination) = .ok plan)
    (plain : tree.Plain)
    (apart : ¬ tree.lexical (root.join ⟨destination⟩) <+: tree.lexical (plan.folder root))
    (done : (Statement.unarchive selection destination).run root converter tree =
      (.completed report, after)) :
    ∃ source goal names archives, tree.lexical (plan.folder root) = source ∧
      tree.lexical (root.join ⟨destination⟩) = goal ∧ plan.Selects root tree source names ∧
      (archives.map (·.name) =
        names.filter fun name => Packing.isArchive ((plan.folder root).child name)) ∧
      (∀ archive ∈ archives, archive.IsIn tree source) ∧
      report = (Report.start .unarchive (some destination) root
        (names.map (plan.folder root).child)).unpacked root (plan.folder root) names archives ∧
      (archives = [] → after = tree) ∧ (archives ≠ [] → tree.Unarchived goal archives after) ∧
      ∀ name ∈ names, after.get? (source ++ [name]) = tree.get? (source ++ [name]) := by
  obtain ⟨plan', found, accepted', finds, performed⟩ := Statement.exists_of_completed done
  obtain rfl := Except.ok.inj (accepted.symm.trans accepted')
  obtain ⟨source, names, selects, rfl⟩ := Plan.exists_selects plain.named finds
  have source_ : tree.lexical (plan.folder root) = source := by
    obtain ⟨⟨left, reaches⟩, -⟩ := selects.opens
    exact (reaches.eq_lexical plain).symm
  rw [source_] at apart
  rw [Plan.perform, (action_of_unarchive accepted).1] at performed
  by_cases any : (names.map (plan.folder root).child).any Packing.isArchive = true
  · obtain ⟨archives, named, areIn, reported, unarchived, unchanged⟩ :=
      exists_of_unarchive accepted plain selects apart any performed
    refine ⟨source, _, names, archives, source_, rfl, selects, named, areIn, reported, ?_,
      fun _ => unarchived, unchanged⟩
    rintro rfl
    obtain ⟨path, member, isArchive⟩ := List.any_eq_true.mp any
    obtain ⟨name, listed, rfl⟩ := List.mem_map.mp member
    exact absurd isArchive (List.filter_eq_nil_iff.mp named.symm name listed)
  · have others : ∀ name ∈ names, Packing.isArchive ((plan.folder root).child name) = false := by
      simpa using any
    have unchanged := performed.symm.trans
      (Packing.unarchive_of_skipped (List.forall_mem_map.mpr others))
    obtain ⟨same, rfl⟩ := Prod.mk.inj unchanged
    obtain rfl := Except.ok.inj same
    have none_left : names.filter (fun name => Packing.isArchive ((plan.folder root).child name)) =
        [] := List.filter_eq_nil_iff.mpr (by simpa using others)
    exact ⟨source, _, names, [], source_, rfl, selects, none_left.symm, by simp,
      (Report.unpacked_of_none _ others).symm, fun _ => rfl, fun absent => absurd rfl absent,
      fun _ _ => rfl⟩

end Statement

/-! ### An archive beside a folder -/

namespace Packing

open FileTree

/-- What is in the archive. -/
def besideParcels : List Parcel := [(["y"], some [7])]

/-- The archive. -/
def besideBytes : List UInt8 := Archive.encode (besideParcels.map Parcel.member)

theorem plain_beside (bytes : List UInt8) : (beside bytes).Plain where
  root := by
    refine Node.plain_folder ⟨?_, by simp⟩ ?_
    · simp [(portable_aliased _).toIsName]
    · intro entry listed
      fin_cases listed
      · exact Node.plain_file _ _ _
      · exact Node.plain_emptyFolder .epoch
  working := nofun

/-- The statement that unpacks the archive in the folder. -/
def unpackBeside : Statement := .unarchive ⟨"files", "", none⟩ "x"

/-- The plan of the statement. -/
def planBeside : Plan := ⟨.files, "", none, .unarchive "x"⟩

theorem accepted_unpackBeside : Plan.ofStatement unpackBeside = .ok planBeside := by decide

theorem findMatches_planBeside (bytes : List UInt8) :
    planBeside.findMatches (beside bytes) ⟨"/"⟩ = .ok [⟨"/a.zip"⟩] := by
  have found : (beside bytes).find ⟨"/"⟩ = .ok (beside bytes).root := by
    simp [beside, find, locate, resolve, checkPath, pathLimit, names, Path.segments, descend, start,
      Path.isAbsolute, get?, Node.get?, Text.byteLength, Char.utf8Size, Except.map]
  have folder : planBeside.folder ⟨"/"⟩ = ⟨"/"⟩ := rfl
  unfold Plan.findMatches
  dsimp only
  rw [folder, found]
  rfl

/-- The archive is the match. -/
theorem selects_planBeside (bytes : List UInt8) :
    planBeside.Selects ⟨"/"⟩ (beside bytes) [] ["a.zip"] where
  finds := findMatches_planBeside bytes
  opens := ⟨⟨_, (beside bytes).reaches_top⟩, _, _, rfl⟩
  areNames := List.forall_mem_singleton.mpr (portable_aliased (by decide)).toIsName
  distinct := List.nodup_singleton _
  present := List.forall_mem_singleton.mpr ⟨_, rfl, rfl⟩

/-- The archive is unpacked. -/
theorem run_unpackBeside : ∃ report after,
    unpackBeside.run ⟨"/"⟩ .none (beside besideBytes) = (.completed report, after) := by
  obtain ⟨read, located⟩ := read_beside besideBytes
  have readsBack : Archive.ReadsBack (besideParcels.map Parcel.member) :=
    Archive.readsBack_of_fits (by decide +kernel)
  obtain ⟨found, lists, gives⟩ := readsBack
  have portable : Portable "y" := ⟨by constructor <;> decide, by decide, by decide⟩
  obtain ⟨after, extracts, -⟩ := Archive.extract_apply read lists
    (List.forall₂_map_left_iff.mp gives) located (holds_of_locate located)
    (List.forall_mem_singleton.mpr (portable_aliased (by decide)).toIsName) (by decide)
    (List.forall_mem_singleton.mpr ⟨List.forall_mem_singleton.mpr portable, by decide, by decide⟩)
    ⟨⟨[], "y", rfl, by decide, by decide⟩, trivial⟩
  have there : (beside besideBytes).isFolder ⟨"/x"⟩ = true := by
    rw [isFolder, find, located]
    rfl
  obtain ⟨left, reaches⟩ := reaches_of_locate located
  have makes := Archive.makeFolders_of_reaches reaches there ⟨_, _, rfl⟩
  have makes' : (makeFolders ⟨"/x"⟩).at ⟨"/x"⟩ (beside besideBytes) =
      (.ok (), beside besideBytes) := by
    rw [Changes.at, Changes.mapError, makes]
  have unpacks : (Archive.extract ⟨"/a.zip"⟩ ⟨"/x"⟩).mapError (ExecutionError.ofArchive ⟨"/a.zip"⟩)
      (beside besideBytes) = (.ok (), after) := by
    rw [Changes.mapError, extracts]
  have joined : (Path.mk "/").join ⟨"x"⟩ = ⟨"/x"⟩ := by decide
  have archive : isArchive ⟨"/a.zip"⟩ = true := by decide
  refine ⟨(Report.start .unarchive (some "x") ⟨"/"⟩ [⟨"/a.zip"⟩]).succeed, after,
    Plan.run_of_findMatches accepted_unpackBeside (findMatches_planBeside _) ?_⟩
  unfold Plan.perform planBeside Packing.unarchive
  dsimp only
  rw [joined, List.any_cons, archive, Bool.true_or, if_pos rfl, Changes.bind_apply, makes']
  dsimp only
  rw [Treatment.all, into, archive, if_pos rfl]
  dsimp only
  rw [unpacks]
  rfl

end Packing

namespace Statement

open FileTree (Plain Unarchived)
open Packing

/-- The archive is laid over the folder beside it, and stays. -/
theorem unarchive_overlays_beside : ∃ report after archives,
    Plan.ofStatement unpackBeside = .ok planBeside ∧ (beside besideBytes).Plain ∧
    ¬ (beside besideBytes).lexical ((Path.mk "/").join ⟨"x"⟩) <+:
      (beside besideBytes).lexical (planBeside.folder ⟨"/"⟩) ∧
    unpackBeside.run ⟨"/"⟩ .none (beside besideBytes) = (.completed report, after) ∧
    archives.map (·.name) = ["a.zip"] ∧
    (∀ archive ∈ archives, archive.IsIn (beside besideBytes) []) ∧
    (beside besideBytes).Unarchived ["x"] archives after ∧
    after.get? ["a.zip"] = (beside besideBytes).get? ["a.zip"] := by
  obtain ⟨report, after, done⟩ := run_unpackBeside
  have plain := plain_beside besideBytes
  have apart : ¬ (beside besideBytes).lexical ((Path.mk "/").join ⟨"x"⟩) <+:
      (beside besideBytes).lexical (planBeside.folder ⟨"/"⟩) := by decide
  obtain ⟨source, goal, names, archives, source_, goal_, selects, named, areIn, -, -, unarchived,
    unchanged⟩ := unarchive_overlays accepted_unpackBeside plain apart done
  obtain ⟨rfl, rfl⟩ := (selects_planBeside besideBytes).unique selects
  obtain rfl : ["x"] = goal := goal_
  have named' : archives.map (·.name) = ["a.zip"] := named
  have some_archive : archives ≠ [] := by
    rintro rfl
    cases named'
  exact ⟨report, after, archives, accepted_unpackBeside, plain, apart, done, named', areIn,
    unarchived some_archive, unchanged "a.zip" (by decide)⟩

end Statement

end FileQuery
