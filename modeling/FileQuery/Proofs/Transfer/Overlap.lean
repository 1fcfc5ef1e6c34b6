import FileQuery.Proofs.FileTree.Plain
import FileQuery.Proofs.Transfer.Copies

/-!
# Copies in a plain tree

In a plain tree the places of a copy can be read from its paths: below a source and below a target
the same names lead to the two places. Where the source and the target of a copied folder lead to
one place, each file below is copied to itself, and copying it empties it.
-/

namespace FileQuery

variable {tree later changed : FileTree} {place : Place}

/-- New folders and copies keep a tree plain and its files files. -/
theorem preserved_extends (tree : FileTree) : Preserved tree.Extends :=
  ⟨fun grows made => grows.makeFolder made, fun grows copied => grows.copyFile copied⟩

/-- A tree stays plain if it is, and keeps its files. -/
theorem preserved_extends_of_plain (tree : FileTree) :
    Preserved fun later => tree.Plain → tree.Extends later :=
  ⟨fun grows made plain => (grows plain).makeFolder made,
    fun grows copied plain => (grows plain).copyFile copied⟩

/-- Names that follow a path lead down from where the path leads. -/
theorem FileTree.lexical_down (tree : FileTree) (path : Path) {names : List String}
    (areNames : ∀ name ∈ names, IsName name) :
    tree.lexical (path.down names) = tree.lexical path ++ names := by
  induction names generalizing path with
  | nil => exact (List.append_nil _).symm
  | cons name rest inductionHypothesis =>
    obtain ⟨isName, areNames'⟩ := List.forall_mem_cons.mp areNames
    calc tree.lexical (path.down (name :: rest))
        = tree.lexical (path.child name) ++ rest := inductionHypothesis (path.child name) areNames'
      _ = tree.lexical path ++ name :: rest := by
        rw [FileTree.lexical_child tree path isName, List.append_assoc, List.singleton_append]

namespace FileCopy

variable {copy : FileCopy} {source target : Path}

/-- The places of a copy of something below a path. -/
theorem Mirrors.places (mirrors : copy.Mirrors IsName source target) (grows : tree.Extends later)
    (makes : copy.Makes later changed) :
    ∃ names, copy.origin = tree.lexical source ++ names ∧
      copy.place = tree.lexical target ++ names := by
  obtain ⟨names, areNames, same_source, same_target⟩ := mirrors
  refine ⟨names, ?_, ?_⟩
  · rw [grows.place_of_leadsTo makes.reads, same_source, tree.lexical_down source areNames]
  · rw [grows.place_of_leadsTo makes.writes, same_target, tree.lexical_down target areNames]

/-- A file that is copied to itself is empty afterwards. -/
theorem Makes.written_nil (makes : copy.Makes later changed) (itself : copy.origin = copy.place) :
    copy.written = [] := by
  obtain ⟨held, -, written⟩ := makes.brings
  rw [written, if_pos itself]

end FileCopy

/-- An empty file stays empty when nothing but nothing is written. -/
theorem Copies.content?_empty {tree after : FileTree} {copies : List FileCopy}
    (done : Copies tree copies after) (nothing : ∀ copy ∈ copies, copy.written = [])
    (empty : tree.content? place = some []) : after.content? place = some [] := by
  refine (done.content?_kept_iff empty).mpr fun copy last => nothing copy ?_
  exact (List.mem_filter.mp (List.mem_of_getLast? last)).1

namespace Changes

variable {ε α : Type}

/-- Changes empty the file at a place if, whenever they succeed, it is empty after them. -/
def Empties (tree : FileTree) (place : Place) (changes : Changes ε α) : Prop :=
  ∀ later value changed, tree.Extends later → changes later = (.ok value, changed) →
    changed.content? place = some []

/-- Changes write no byte to any file. -/
def WritesNothing (tree : FileTree) (changes : Changes ε α) : Prop :=
  Copying tree.Extends (·.written = []) changes

/-- Copies from where a path leads to the same place write nothing. -/
theorem Copying.writesNothing {changes : Changes ε α} {source target : Path}
    (copying : Copying tree.Extends (·.Mirrors IsName source target) changes)
    (same : tree.lexical source = tree.lexical target) : changes.WritesNothing tree := by
  refine copying.of_makes (preserved_extends tree) fun copy _ _ grows makes mirrors => ?_
  obtain ⟨names, origin, place⟩ := mirrors.places grows makes
  exact makes.written_nil (by rw [origin, place, same])

/-- An empty file stays empty if nothing is written. -/
theorem WritesNothing.keeps_empty {changes : Changes ε α} (nothing : changes.WritesNothing tree)
    (grows : tree.Extends later) (empty : later.content? place = some []) :
    (changes later).2.content? place = some [] := by
  obtain ⟨copies, done, written⟩ := nothing later grows
  exact done.content?_empty written empty

/-- One step of several empties a file, and the others leave it empty. -/
theorem empties_forM {values : List α} {step : α → Changes ε PUnit} {value : α}
    (member : value ∈ values) (empties : (step value).Empties tree place)
    (nothing : ∀ value ∈ values, (step value).WritesNothing tree) :
    (values.forM step).Empties tree place := by
  induction values with
  | nil => exact absurd member List.not_mem_nil
  | cons first rest inductionHypothesis =>
    obtain ⟨first_nothing, rest_nothing⟩ := List.forall_mem_cons.mp nothing
    intro later result changed grows done
    obtain ⟨_, middle, first_done, rest_done⟩ := bind_apply_eq_ok_iff.mp done
    replace rest_done : rest.forM step middle = (.ok result, changed) := rest_done
    have grows' : tree.Extends middle :=
      first_nothing.preserves (preserved_extends tree) grows first_done
    rcases List.mem_cons.mp member with rfl | member'
    · have empty := empties later _ middle grows first_done
      have others : WritesNothing tree (rest.forM step) :=
        copying_forM (preserved_extends tree) rest_nothing
      have kept := others.keeps_empty grows' empty
      rwa [rest_done] at kept
    · exact inductionHypothesis member' rest_nothing middle result changed grows' rest_done

end Changes

namespace Transfer

open Changes

variable {bytes : List UInt8} {source target : Path}

/-- A file is copied if its copying succeeds. -/
theorem copyFile_eq_ok {value : Unit} (done : copyFile source target later = (.ok value, changed)) :
    later.copyFile source target = .ok changed := by
  unfold copyFile Changes.at mapError ofChange at done
  dsimp only at done
  cases copied : later.copyFile source target with
  | error error =>
    rw [copied] at done
    cases done
  | ok result =>
    rw [copied] at done
    obtain ⟨-, rfl⟩ := Prod.mk.inj done
    rfl

/-- A file that is copied to itself is emptied. -/
theorem copyFile_empties (same : tree.lexical source = tree.lexical target) :
    (copyFile source target).Empties tree (tree.lexical source) := by
  intro later value changed grows done
  obtain ⟨origin, place, held, reads, writes, holds, effect⟩ :=
    FileTree.content?_copyFile (copyFile_eq_ok done)
  have here : origin = tree.lexical source := grows.place_of_leadsTo reads
  have itself : origin = place :=
    here.trans (same.trans (grows.place_of_leadsTo writes).symm)
  have emptied := effect origin held holds
  rwa [if_pos itself, if_pos itself, here] at emptied

/-- In a plain tree copying from where a path leads to the same place writes nothing. -/
theorem copyFile_writesNothing (same : tree.lexical source = tree.lexical target) :
    (copyFile source target).WritesNothing tree :=
  (copying_copyFile source target).writesNothing same

theorem copyTree_writesNothing (depth : Nat) (same : tree.lexical source = tree.lexical target) :
    (copyTree depth source target).WritesNothing tree :=
  (copying_copyTree (preserved_extends tree)
    (fun _ _ _ grows listed => grows.plain.isName_of_list listed) depth source target).writesNothing
    same

/-- A name leads from both of two paths to the same place if they lead to the same place. -/
theorem lexical_child_congr {name : String} (isName : IsName name)
    (same : tree.lexical source = tree.lexical target) :
    tree.lexical (source.child name) = tree.lexical (target.child name) := by
  rw [tree.lexical_child source isName, tree.lexical_child target isName, same]

/-- A tree to which folders were added has grown. -/
theorem extends_of_makeFolders {path : Path} {result : Except ExecutionError Unit}
    (grows : tree.Extends later)
    (made : (FileTree.makeFolders path).at path later = (result, changed)) :
    tree.Extends changed := by
  have makes : Copying tree.Extends (fun _ => True) ((FileTree.makeFolders path).at path) :=
    (FileTree.copying_makeFolders path).mapError _
  exact makes.preserves (preserved_extends tree) grows made

/-- Where a folder is copied to itself, each file that was below it is emptied. -/
theorem copyTree_empties (depth : Nat) {name : String} {rest : Place}
    (same : tree.lexical source = tree.lexical target)
    (holds : tree.content? (tree.lexical source ++ name :: rest) = some bytes) :
    (copyTree depth source target).Empties tree (tree.lexical source ++ name :: rest) := by
  induction depth generalizing source target name rest with
  | zero =>
    intro later value changed grows done
    cases done
  | succ depth inductionHypothesis =>
    intro later value changed grows done
    unfold copyTree at done
    obtain ⟨_, opened, opens, makesAndCopies⟩ := bind_apply_eq_ok_iff.mp done
    obtain ⟨rfl, -⟩ := look_eq_ok opens
    obtain ⟨_, middle, made, listsAndCopies⟩ := bind_apply_eq_ok_iff.mp makesAndCopies
    have grows' : tree.Extends middle := extends_of_makeFolders grows made
    obtain ⟨entries, seen, lists, copies⟩ := bind_apply_eq_ok_iff.mp listsAndCopies
    obtain ⟨rfl, listed⟩ := look_eq_ok lists
    obtain ⟨stamps, at_folder⟩ := grows'.plain.get?_of_list listed
    rw [grows'.lexical] at at_folder
    -- the file is still there, below one of the entries that are listed
    obtain ⟨bytes', holds'⟩ := grows'.files _ _ holds
    obtain ⟨stamps', executable, at_place⟩ := FileTree.get?_of_content? holds'
    have isName := grows'.plain.isName_of_get? at_place
    obtain ⟨_, _, child, at_folder', found, reached⟩ := FileTree.exists_entry_of_get? at_place
    obtain ⟨-, rfl⟩ := Node.folder.inj (Option.some.inj (at_folder.symm.trans at_folder'))
    have same' := lexical_child_congr isName same
    refine empties_forM (mem_of_lookup found) ?_ ?_ _ _ _ grows' copies
    · dsimp only
      cases child with
      | folder =>
        cases rest with
        | nil => simp [Node.get?] at reached
        | cons next rest =>
          have deeper := tree.lexical_child source isName
          rw [List.append_cons, ← deeper] at holds ⊢
          exact inductionHypothesis same' holds
      | file =>
        cases rest with
        | nil =>
          rw [← tree.lexical_child source isName]
          exact copyFile_empties same'
        | cons => simp [Node.get?] at reached
      | link => cases rest <;> simp [Node.get?] at reached
    · rintro ⟨other, node⟩ member
      have isName' : IsName other := (grows'.plain.root _ _ at_folder).1 (other, node) member
      dsimp only
      split
      · exact copyTree_writesNothing depth (lexical_child_congr isName' same)
      · exact copyFile_writesNothing (lexical_child_congr isName' same)

/-- Where a match is copied to itself, it is emptied, or each file that was below it. -/
theorem copyEntry_empties {below : Place} (same : tree.lexical source = tree.lexical target)
    (holds : tree.content? (tree.lexical source ++ below) = some bytes) :
    (copyEntry source target).Empties tree (tree.lexical source ++ below) := by
  intro later value changed grows done
  obtain ⟨bytes', holds'⟩ := grows.files _ _ holds
  unfold copyEntry at done
  split at done
  · rename_i found
    have at_source := grows.get?_of_locate found
    cases below with
    | nil =>
      obtain ⟨_, _, at_place⟩ := FileTree.get?_of_content? holds'
      rw [List.append_nil, at_source] at at_place
      cases at_place
    | cons name rest =>
      have same' : tree.lexical source = tree.lexical (target.child "") := by
        rw [same, tree.lexical_child_empty]
      exact copyTree_empties _ same' holds _ _ _ grows done
  · cases below with
    | nil =>
      rw [List.append_nil]
      exact copyFile_empties same _ _ _ grows done
    | cons name rest =>
      -- the match is a folder, and a folder is not copied as a file
      obtain ⟨origin, _, held, reads, _, isFile, _⟩ :=
        FileTree.content?_copyFile (copyFile_eq_ok done)
      rw [grows.place_of_leadsTo reads] at isFile
      have nothing := FileTree.get?_below_file isFile (List.cons_ne_nil name rest)
      rw [FileTree.content?, nothing] at holds'
      cases holds'

/-- Where a match is copied to itself, nothing is written. -/
theorem copyEntry_writesNothing (same : tree.lexical source = tree.lexical target) :
    (copyEntry source target).WritesNothing tree := by
  intro later grows
  unfold copyEntry
  split
  · refine copyTree_writesNothing _ ?_ later grows
    rw [same, tree.lexical_child_empty]
  · exact copyFile_writesNothing same later grows

end Transfer

/-- Every match was processed. -/
structure Report.Clean (report : Report) : Prop where
  skipped : report.skipped = []
  failures : report.failures = []

namespace Treatment

variable {treat : Treatment} {root path : Path} {found : List Path} {report final : Report}

theorem clean_of_record {result : Except ExecutionError Unit} {recorded : Report}
    (records : report.record root path result = .ok recorded) (clean : recorded.Clean) :
    report.Clean ∧ result = .ok () := by
  unfold Report.record at records
  split at records
  · obtain rfl := Except.ok.inj records
    exact ⟨⟨clean.skipped, clean.failures⟩, rfl⟩
  · split at records
    · obtain rfl := Except.ok.inj records
      have failures := clean.failures
      simp [Report.fail] at failures
    · contradiction

theorem not_clean_skip : ¬ (report.skip root path).Clean := by
  intro clean
  have skipped := clean.skipped
  simp [Report.skip] at skipped

/-- Treating matches succeeds if the first one is skipped or has its result recorded, and treating
    the others succeeds. -/
theorem all_cons_eq_ok (done : treat.all root (path :: found) report later = (.ok final, changed)) :
    (treat path = none ∧
      treat.all root found (report.skip root path) later = (.ok final, changed)) ∨
    ∃ changes result middle recorded, treat path = some changes ∧
      changes later = (result, middle) ∧ report.record root path result = .ok recorded ∧
      treat.all root found recorded middle = (.ok final, changed) := by
  unfold all at done
  cases treated : treat path with
  | none =>
    rw [treated] at done
    exact .inl ⟨rfl, done⟩
  | some changes =>
    rw [treated] at done
    dsimp only at done
    rcases made : changes later with ⟨result, middle⟩
    rw [made] at done
    dsimp only at done
    cases records : report.record root path result with
    | error error =>
      rw [records] at done
      cases done
    | ok recorded =>
      rw [records] at done
      exact .inr ⟨changes, result, middle, recorded, rfl, made, records, done⟩

/-- If every match was processed in the end, so was every one before. -/
theorem clean_of_all (done : treat.all root found report later = (.ok final, changed))
    (clean : final.Clean) : report.Clean := by
  induction found generalizing report later with
  | nil =>
    obtain ⟨same, -⟩ := Prod.mk.inj done
    obtain rfl := Except.ok.inj same
    exact clean
  | cons path rest inductionHypothesis =>
    rcases all_cons_eq_ok done with ⟨-, done'⟩ | ⟨_, _, _, _, -, -, records, done'⟩
    · exact absurd (inductionHypothesis done') not_clean_skip
    · exact (clean_of_record records (inductionHypothesis done')).1

/-- A file is emptied if one of the treatments empties it, no other one writes anything, and every
    match is processed. -/
theorem empties_of_all (member : path ∈ found)
    (empties : ∀ changes, treat path = some changes → changes.Empties tree place)
    (nothing : ∀ path ∈ found, ∀ changes, treat path = some changes → changes.WritesNothing tree)
    (grows : tree.Extends later) (done : treat.all root found report later = (.ok final, changed))
    (clean : final.Clean) : changed.content? place = some [] := by
  induction found generalizing report later with
  | nil => exact absurd member List.not_mem_nil
  | cons first rest inductionHypothesis =>
    obtain ⟨first_nothing, rest_nothing⟩ := List.forall_mem_cons.mp nothing
    rcases all_cons_eq_ok done with ⟨-, done'⟩ |
      ⟨changes, result, middle, recorded, treated, made, records, done'⟩
    · exact absurd (clean_of_all done' clean) not_clean_skip
    have grows' : tree.Extends middle :=
      (first_nothing changes treated).preserves (preserved_extends tree) grows made
    rcases List.mem_cons.mp member with rfl | member'
    · obtain rfl := (clean_of_record records (clean_of_all done' clean)).2
      have empty := empties changes treated later _ middle grows made
      have others : (treat.all root rest recorded).WritesNothing tree :=
        copying_all (preserved_extends tree) root rest_nothing recorded
      have kept := others.keeps_empty grows' empty
      rwa [done'] at kept
    · exact inductionHypothesis member' rest_nothing grows' done'

end Treatment

namespace Transfer

open Changes

/-- What is done for a match puts it into the folder under its own name. -/
theorem into_child_eq_some {folder source : Path} {put : Path → Path → Changes ExecutionError Unit}
    {name : String} (isName : IsName name) {changes : Changes ExecutionError Unit}
    (treated : into folder put (source.child name) = some changes) :
    changes = put (source.child name) (folder.child name) := by
  unfold into at treated
  rw [Path.fileName?_child source isName] at treated
  dsimp only at treated
  split at treated
  · contradiction
  · exact (Option.some.inj treated).symm

/-- Where matches are copied to the folder that they are in, and every one is processed, a file
    that was a match or below a match is emptied. -/
theorem copy_empties {root source : Path} {destination name : String} {found : List Path}
    {below : Place} {bytes : List UInt8} {final : Report}
    (same : tree.lexical source = tree.lexical (root.join ⟨destination⟩))
    (areNames : ∀ path ∈ found, ∃ name, IsName name ∧ path = source.child name)
    (member : source.child name ∈ found) (isName : IsName name)
    (holds : tree.content? (tree.lexical source ++ name :: below) = some bytes)
    (plain : tree.Plain) (done : copy root destination found tree = (.ok final, changed))
    (clean : final.Clean) : changed.content? (tree.lexical source ++ name :: below) = some [] := by
  unfold copy run at done
  dsimp only at done
  rw [if_neg (by simpa using List.ne_nil_of_mem member)] at done
  obtain ⟨_, middle, made, treats⟩ := bind_apply_eq_ok_iff.mp done
  have grows : tree.Extends middle := extends_of_makeFolders (.refl plain) made
  refine Treatment.empties_of_all member ?_ ?_ grows treats clean
  · intro changes treated
    obtain rfl := into_child_eq_some isName treated
    rw [List.append_cons, ← tree.lexical_child source isName] at holds ⊢
    exact copyEntry_empties (lexical_child_congr isName same) holds
  · intro path listed changes treated
    obtain ⟨other, isName', rfl⟩ := areNames path listed
    obtain rfl := into_child_eq_some isName' treated
    exact copyEntry_writesNothing (lexical_child_congr isName' same)

/-- Copying matches makes a list of copies to their counterparts. In a plain tree each goes down by
    names, and is made in a tree that has grown out of the first one. -/
theorem exists_copies (tree : FileTree) (root : Path) (destination : String)
    (found : List Path) :
    ∃ copies, Copies tree copies (copy root destination found tree).2 ∧
      ∀ copy ∈ copies, copy.IsCounterpart (fun _ => True) found (root.join ⟨destination⟩) ∧
        (tree.Plain → copy.IsCounterpart IsName found (root.join ⟨destination⟩) ∧
          ∃ later changed, tree.Extends later ∧ copy.Makes later changed) := by
  have lists (later : FileTree) (path : Path) (entries : List (String × Node))
      (grows : tree.Plain → tree.Extends later) (listed : later.list path = .ok entries) :
      ∀ entry ∈ entries, tree.Plain → IsName entry.1 :=
    fun entry member plain => (grows plain).plain.isName_of_list listed entry member
  have preserved := preserved_extends_of_plain tree
  have grows : tree.Plain → tree.Extends tree := .refl
  obtain ⟨copies, done, within⟩ := @copying_copy _ (fun name => tree.Plain → IsName name) preserved
    lists root destination found tree grows
  refine ⟨copies, done, fun copy member => ⟨?_, fun plain => ⟨?_, ?_⟩⟩⟩
  · exact (within copy member).mono fun _ _ => trivial
  · exact (within copy member).mono fun _ isName => isName plain
  · obtain ⟨later, changed, grows', makes⟩ := preserved.makes_of_mem done grows copy member
    exact ⟨later, changed, grows' plain, makes⟩

end Transfer

end FileQuery
