import FileQuery.Execution.Run
import FileQuery.Proofs.FileTree.Contents
import FileQuery.Proofs.FileTree.Lexical

/-!
# The copies of a run

Copying matches makes folders and copies files, one after another, and nothing else. The copies of
a run are listed in their order, each with the places that its paths lead to at its turn and with
the bytes that it writes. What a file holds after the run is what the last copy into it wrote, or
what it held before the run if there is none.
-/

namespace FileQuery

/-- The copying of a file: its paths, where they lead, and what is written. -/
structure FileCopy where
  source : Path
  target : Path
  /-- Where the source leads. -/
  origin : Place
  /-- Where the target leads. -/
  place : Place
  /-- What the file holds after it was copied to. -/
  written : List UInt8

/-- A copy is made in a tree. It writes what the source holds, or nothing if source and target
    lead to the same file, which is empty when it comes to be read. -/
structure FileCopy.Makes (copy : FileCopy) (tree changed : FileTree) : Prop where
  copied : tree.copyFile copy.source copy.target = .ok changed
  reads : tree.LeadsTo copy.source copy.origin
  writes : tree.LeadsTo copy.target copy.place
  brings : ∃ held, tree.content? copy.origin = some held ∧
    copy.written = if copy.origin = copy.place then [] else held

/-- Copies that lead from a tree to another, with new folders between them. -/
inductive Copies : FileTree → List FileCopy → FileTree → Prop
  | nothing (tree : FileTree) : Copies tree [] tree
  | folder {tree changed after : FileTree} {path : Path} {copies : List FileCopy}
    (made : tree.makeFolder path = .ok changed) (later : Copies changed copies after) :
    Copies tree copies after
  | file {tree changed after : FileTree} {copy : FileCopy} {copies : List FileCopy}
    (makes : copy.Makes tree changed) (later : Copies changed copies after) :
    Copies tree (copy :: copies) after

/-- The last of some copies that writes to a place. -/
def lastInto (place : Place) (copies : List FileCopy) : Option FileCopy :=
  (copies.filter fun copy => copy.place = place).getLast?

namespace Copies

variable {tree middle after : FileTree} {copies later : List FileCopy} {place : Place}
  {bytes : List UInt8}

theorem append (first : Copies tree copies middle) (second : Copies middle later after) :
    Copies tree (copies ++ later) after := by
  induction first with
  | nothing => exact second
  | folder made _ inductionHypothesis => exact .folder made (inductionHypothesis second)
  | file makes _ inductionHypothesis => exact .file makes (inductionHypothesis second)

end Copies

/-- A copy changes the file that its target leads to, and no other. -/
theorem FileCopy.Makes.content? {copy : FileCopy} {tree changed : FileTree} {place : Place}
    {bytes : List UInt8} (makes : copy.Makes tree changed)
    (holds : tree.content? place = some bytes) :
    changed.content? place = some (if place = copy.place then copy.written else bytes) := by
  obtain ⟨origin, goal, held, reads, writes, origin_holds, effect⟩ :=
    FileTree.content?_copyFile makes.copied
  obtain rfl := makes.reads.unique reads
  obtain rfl := makes.writes.unique writes
  obtain ⟨held', origin_holds', written⟩ := makes.brings
  obtain rfl := Option.some.inj (origin_holds.symm.trans origin_holds')
  rw [effect place bytes holds, written]

/-- A file that is copied makes a copy. -/
theorem FileCopy.exists_makes {source target : Path} {tree changed : FileTree}
    (copied : tree.copyFile source target = .ok changed) :
    ∃ copy : FileCopy, copy.source = source ∧ copy.target = target ∧ copy.Makes tree changed := by
  obtain ⟨origin, place, held, reads, writes, holds, -⟩ := FileTree.content?_copyFile copied
  exact ⟨⟨source, target, origin, place, if origin = place then [] else held⟩, rfl, rfl,
    copied, reads, writes, held, holds, rfl⟩

/-- The last copy into a place is the first of some copies if no later one writes there. -/
theorem lastInto_cons (place : Place) (copy : FileCopy) (copies : List FileCopy) :
    lastInto place (copy :: copies) =
      if copy.place = place then some ((lastInto place copies).getD copy)
      else lastInto place copies := by
  unfold lastInto
  by_cases same : copy.place = place
  · rw [List.filter_cons_of_pos (by simpa using same), if_pos same, List.getLast?_cons]
  · rw [List.filter_cons_of_neg (by simpa using same), if_neg same]

namespace Copies

variable {tree middle after : FileTree} {copies later : List FileCopy} {place : Place}
  {bytes : List UInt8}

/-- After copies a file holds what the last copy into it wrote, or else what it held before. -/
theorem content?_after (done : Copies tree copies after)
    (holds : tree.content? place = some bytes) :
    after.content? place = some (((lastInto place copies).map (·.written)).getD bytes) := by
  induction done generalizing bytes with
  | nothing => exact holds
  | folder made _ inductionHypothesis =>
    exact inductionHypothesis (FileTree.content?_makeFolder made holds)
  | @file _ _ _ copy copies makes _ inductionHypothesis =>
    rw [inductionHypothesis (makes.content? holds), lastInto_cons]
    by_cases same : copy.place = place
    · rw [if_pos same, if_pos same.symm]
      cases lastInto place copies <;> rfl
    · rw [if_neg same, if_neg (Ne.symm same)]

/-- Copies leave a file as it was if and only if the last copy into it, if there is one, wrote what
    the file held. -/
theorem content?_kept_iff (done : Copies tree copies after)
    (holds : tree.content? place = some bytes) :
    after.content? place = some bytes ↔
      ∀ copy ∈ lastInto place copies, copy.written = bytes := by
  rw [done.content?_after holds]
  cases lastInto place copies <;> simp

/-- A file that no copy writes to is left as it was. -/
theorem content?_untouched (done : Copies tree copies after)
    (holds : tree.content? place = some bytes)
    (untouched : ∀ copy ∈ copies, copy.place ≠ place) : after.content? place = some bytes := by
  refine (done.content?_kept_iff holds).mpr fun copy last => ?_
  have member := List.mem_of_getLast? last
  obtain ⟨member, same⟩ := List.mem_filter.mp member
  exact absurd (of_decide_eq_true same) (untouched copy member)

end Copies

/-- What new folders and copies of files preserve. -/
structure Preserved (invariant : FileTree → Prop) : Prop where
  folder : ∀ {tree path changed}, invariant tree → FileTree.makeFolder tree path = .ok changed →
    invariant changed
  file : ∀ {tree source target changed}, invariant tree →
    FileTree.copyFile tree source target = .ok changed → invariant changed

/-- What each step preserves, copies preserve. -/
theorem Preserved.copies {invariant : FileTree → Prop} (preserved : Preserved invariant)
    {tree after : FileTree} {copies : List FileCopy} (done : Copies tree copies after)
    (initial : invariant tree) : invariant after := by
  induction done with
  | nothing => exact initial
  | folder made _ inductionHypothesis => exact inductionHypothesis (preserved.folder initial made)
  | file makes _ inductionHypothesis =>
    exact inductionHypothesis (preserved.file initial makes.copied)

/-- Each of some copies is made in a tree with what is preserved. -/
theorem Preserved.makes_of_mem {invariant : FileTree → Prop} (preserved : Preserved invariant)
    {tree after : FileTree} {copies : List FileCopy} (done : Copies tree copies after)
    (initial : invariant tree) :
    ∀ copy ∈ copies, ∃ before changed, invariant before ∧ copy.Makes before changed := by
  induction done with
  | nothing => simp
  | folder made _ inductionHypothesis => exact inductionHypothesis (preserved.folder initial made)
  | file makes _ inductionHypothesis =>
    exact List.forall_mem_cons.mpr
      ⟨⟨_, _, initial, makes⟩, inductionHypothesis (preserved.file initial makes.copied)⟩

namespace Changes

variable {ε δ α β : Type} {invariant : FileTree → Prop} {allowed : FileCopy → Prop}

/-- In trees of a kind changes make folders and copy files, as is allowed, and nothing else. -/
def Copying (invariant : FileTree → Prop) (allowed : FileCopy → Prop) (changes : Changes ε α) :
    Prop :=
  ∀ tree, invariant tree → ∃ copies, Copies tree copies (changes tree).2 ∧
    ∀ copy ∈ copies, allowed copy

theorem Copying.mono {more : FileCopy → Prop} {changes : Changes ε α}
    (copying : Copying invariant allowed changes) (imp : ∀ copy, allowed copy → more copy) :
    Copying invariant more changes := by
  intro tree initial
  obtain ⟨copies, done, within⟩ := copying tree initial
  exact ⟨copies, done, fun copy member => imp copy (within copy member)⟩

/-- What holds of every allowed copy that can be made holds of the copies that are made. -/
theorem Copying.of_makes {more : FileCopy → Prop} {changes : Changes ε α}
    (preserved : Preserved invariant) (copying : Copying invariant allowed changes)
    (imp : ∀ copy before changed, invariant before → copy.Makes before changed → allowed copy →
      more copy) : Copying invariant more changes := by
  intro tree initial
  obtain ⟨copies, done, within⟩ := copying tree initial
  refine ⟨copies, done, fun copy member => ?_⟩
  obtain ⟨before, changed, here, makes⟩ := preserved.makes_of_mem done initial copy member
  exact imp copy before changed here makes (within copy member)

/-- Copying preserves what each step preserves. -/
theorem Copying.preserves {changes : Changes ε α} (preserved : Preserved invariant)
    (copying : Copying invariant allowed changes) {tree changed : FileTree}
    {result : Except ε α} (initial : invariant tree)
    (made : changes tree = (result, changed)) : invariant changed := by
  obtain ⟨copies, done, -⟩ := copying tree initial
  rw [made] at done
  exact preserved.copies done initial

/-- Changes that leave the tree as it is. -/
theorem copying_of_unchanged {changes : Changes ε α} (same : ∀ tree, (changes tree).2 = tree) :
    Copying invariant allowed changes := by
  intro tree _
  refine ⟨[], ?_, fun _ member => absurd member List.not_mem_nil⟩
  rw [same tree]
  exact .nothing tree

theorem Copying.mapError {changes : Changes ε α} (copying : Copying invariant allowed changes)
    (rename : ε → δ) : Copying invariant allowed (changes.mapError rename) := by
  intro tree initial
  have same : (changes.mapError rename tree).2 = (changes tree).2 := by
    unfold Changes.mapError
    rcases changes tree with ⟨error | value, changed⟩ <;> rfl
  rw [same]
  exact copying tree initial

/-- The first of two steps that fails ends the sequence. -/
theorem bind_apply (first : Changes ε α) (second : α → Changes ε β) (tree : FileTree) :
    (first >>= second) tree =
      match first tree with
      | (.ok value, changed) => second value changed
      | (.error error, changed) => (.error error, changed) := by
  change (ExceptT.bindCont second (first tree).1) (first tree).2 = _
  rcases first tree with ⟨error | value, changed⟩ <;> rfl

/-- A sequence succeeds if its parts do, one in the tree that the other one leaves. -/
theorem bind_apply_eq_ok_iff {first : Changes ε α} {second : α → Changes ε β}
    {tree changed : FileTree} {result : β} :
    (first >>= second) tree = (.ok result, changed) ↔ ∃ value middle,
      first tree = (.ok value, middle) ∧ second value middle = (.ok result, changed) := by
  rw [bind_apply]
  rcases first tree with ⟨error | value, middle⟩
  · constructor
    · intro failed
      cases failed
    · rintro ⟨_, _, failed, -⟩
      cases failed
  · constructor
    · intro done
      exact ⟨value, middle, rfl, done⟩
    · rintro ⟨_, _, ⟨⟩, done⟩
      exact done

/-- Changes in sequence copy if both parts do. -/
theorem Copying.bind {first : Changes ε α} {second : α → Changes ε β}
    (preserved : Preserved invariant) (copying : Copying invariant allowed first)
    (later : ∀ tree value middle, invariant tree → first tree = (.ok value, middle) →
      Copying invariant allowed (second value)) : Copying invariant allowed (first >>= second) := by
  intro tree initial
  obtain ⟨copies, done, within⟩ := copying tree initial
  rw [bind_apply]
  rcases read : first tree with ⟨error | value, middle⟩
  · rw [read] at done
    exact ⟨copies, done, within⟩
  · rw [read] at done
    have continues := later tree value middle initial read
    obtain ⟨copies', done', within'⟩ := continues middle (preserved.copies done initial)
    exact ⟨copies ++ copies', done.append done', List.forall_mem_append.mpr ⟨within, within'⟩⟩

/-- A step for each of some values copies if each step does. -/
theorem copying_forM {values : List α} {step : α → Changes ε PUnit}
    (preserved : Preserved invariant)
    (each : ∀ value ∈ values, Copying invariant allowed (step value)) :
    Copying invariant allowed (values.forM step) := by
  induction values with
  | nil => exact copying_of_unchanged fun _ => rfl
  | cons value rest inductionHypothesis =>
    obtain ⟨first, others⟩ := List.forall_mem_cons.mp each
    exact first.bind preserved fun _ _ _ _ _ => inductionHypothesis others

end Changes

namespace FileTree

variable {invariant : FileTree → Prop} {allowed : FileCopy → Prop}

open Changes

/-- Missing folders are made without a copy. -/
theorem copying_makeMissing (paths : List Path) :
    Copying invariant allowed (makeMissing paths) := by
  induction paths with
  | nil => exact copying_of_unchanged fun _ => rfl
  | cons path above inductionHypothesis =>
    intro tree initial
    unfold makeMissing
    split
    · exact ⟨[], .nothing tree, by simp⟩
    split
    · rename_i made
      exact ⟨[], .folder made (.nothing _), by simp⟩
    · obtain ⟨copies, done, within⟩ := inductionHypothesis tree initial
      rcases read : makeMissing above tree with ⟨error | _, changed⟩
      · rw [read] at done
        exact ⟨copies, done, within⟩
      · rw [read] at done
        dsimp only
        split
        · rename_i made
          exact ⟨copies ++ [], done.append (.folder made (.nothing _)), by simpa using within⟩
        · exact ⟨copies, done, within⟩
    · exact ⟨[], .nothing tree, by simp⟩

theorem copying_makeFolders (path : Path) : Copying invariant allowed (makeFolders path) :=
  copying_makeMissing _

end FileTree

/-!
## What is copied to where

A copy of a run is one of a match, or of something below a match, and it goes to where the same
names lead from the folder that the statement names. Nothing else happens to any file.
-/

/-- A copy from at or below a source to where the same names lead from a target. -/
def FileCopy.Mirrors (named : String → Prop) (source target : Path) (copy : FileCopy) : Prop :=
  ∃ names, (∀ name ∈ names, named name) ∧
    copy.source = source.down names ∧ copy.target = target.down names

/-- A copy of one of some matches, or from below one, to its counterpart in a folder. -/
def FileCopy.IsCounterpart (named : String → Prop) (found : List Path) (folder : Path)
    (copy : FileCopy) : Prop :=
  ∃ path ∈ found, ∃ name, path.fileName? = some name ∧
    (copy.Mirrors named path (folder.child name) ∨
      copy.Mirrors named path ((folder.child name).child ""))

theorem FileCopy.IsCounterpart.mono {named more : String → Prop} {found : List Path} {folder : Path}
    {copy : FileCopy} (counterpart : copy.IsCounterpart named found folder)
    (imp : ∀ name, named name → more name) : copy.IsCounterpart more found folder := by
  have weaker {source target : Path} (mirrors : copy.Mirrors named source target) :
      copy.Mirrors more source target := by
    obtain ⟨names, all_named, same_source, same_target⟩ := mirrors
    exact ⟨names, fun name member => imp name (all_named name member), same_source, same_target⟩
  obtain ⟨path, member, name, named_, mirrors | mirrors⟩ := counterpart
  · exact ⟨path, member, name, named_, .inl (weaker mirrors)⟩
  · exact ⟨path, member, name, named_, .inr (weaker mirrors)⟩

theorem FileCopy.Mirrors.of_child {named : String → Prop} {source target : Path} {name : String}
    {copy : FileCopy} (mirrors : copy.Mirrors named (source.child name) (target.child name))
    (isNamed : named name) : copy.Mirrors named source target := by
  obtain ⟨names, all_named, same_source, same_target⟩ := mirrors
  exact ⟨name :: names, List.forall_mem_cons.mpr ⟨isNamed, all_named⟩, same_source, same_target⟩

namespace Transfer

open Changes

variable {invariant : FileTree → Prop} {named : String → Prop}

/-- Copying a file is one copy. -/
theorem copying_copyFile (source target : Path) :
    Copying invariant (·.Mirrors named source target) (copyFile source target) := by
  refine Copying.mapError (fun tree _ => ?_) _
  unfold ofChange
  dsimp only
  cases copied : tree.copyFile source target with
  | error error => exact ⟨[], .nothing tree, by simp⟩
  | ok changed =>
    obtain ⟨copy, same_source, same_target, makes⟩ := FileCopy.exists_makes copied
    refine ⟨[copy], .file makes (.nothing _), fun other member => ?_⟩
    obtain rfl := List.mem_singleton.mp member
    exact ⟨[], by simp, same_source, same_target⟩

/-- What is seen without an error is seen in the tree as it is. -/
theorem look_eq_ok {α : Type} {see : FileTree → Except FileError α} {path : Path}
    {tree changed : FileTree} {value : α}
    (seen : (Changes.look see).at path tree = (.ok value, changed)) :
    changed = tree ∧ see tree = .ok value := by
  unfold Changes.at mapError look at seen
  cases result : see tree with
  | error error =>
    rw [result] at seen
    cases seen
  | ok found =>
    rw [result] at seen
    obtain ⟨same, rfl⟩ := Prod.mk.inj seen
    exact ⟨rfl, congrArg Except.ok (Except.ok.inj same)⟩

section

variable (preserved : Preserved invariant)
  (lists : ∀ tree path entries, invariant tree → FileTree.list tree path = .ok entries →
    ∀ entry ∈ entries, named entry.1)
include preserved lists

/-- Copying a folder copies what is below it to its counterparts. -/
theorem copying_copyTree (depth : Nat) (source target : Path) :
    Copying invariant (·.Mirrors named source target) (copyTree depth source target) := by
  induction depth generalizing source target with
  | zero => exact copying_of_unchanged fun _ => rfl
  | succ depth inductionHypothesis =>
    have looks (see : FileTree → Except FileError (List (String × Node))) :
        Copying invariant (·.Mirrors named source target) ((Changes.look see).at source) :=
      (copying_of_unchanged fun _ => rfl).mapError _
    refine (looks _).bind preserved fun _ _ _ _ _ => ?_
    refine ((FileTree.copying_makeFolders _).mapError _).bind preserved fun _ _ _ _ _ => ?_
    refine (looks _).bind preserved fun tree entries _ initial listed => ?_
    refine copying_forM preserved fun entry member => ?_
    obtain ⟨name, node⟩ := entry
    have isNamed : named name := lists tree source entries initial (look_eq_ok listed).2 _ member
    have of_child (copy : FileCopy)
        (mirrors : copy.Mirrors named (source.child name) (target.child name)) :
        copy.Mirrors named source target := mirrors.of_child isNamed
    dsimp only
    split
    · exact (inductionHypothesis _ _).mono of_child
    · exact (copying_copyFile _ _).mono of_child

/-- Copying a match copies the match, or what is below it. -/
theorem copying_copyEntry (source target : Path) :
    Copying invariant (fun copy => copy.Mirrors named source target ∨
      copy.Mirrors named source (target.child "")) (copyEntry source target) := by
  intro tree initial
  unfold copyEntry
  split
  · exact (copying_copyTree preserved lists _ source _).mono (fun _ => .inr) tree initial
  · exact (copying_copyFile source target).mono (fun _ => .inl) tree initial

end

end Transfer

/-- Treating matches one after another copies what each treatment copies. -/
theorem Treatment.copying_all {invariant : FileTree → Prop} {allowed : FileCopy → Prop}
    (preserved : Preserved invariant) {treat : Treatment} (root : Path) {found : List Path}
    (each : ∀ path ∈ found, ∀ changes, treat path = some changes →
      Changes.Copying invariant allowed changes) (report : Report) :
    Changes.Copying invariant allowed (treat.all root found report) := by
  induction found generalizing report with
  | nil => exact Changes.copying_of_unchanged fun _ => rfl
  | cons path rest inductionHypothesis =>
    obtain ⟨first, others⟩ := List.forall_mem_cons.mp each
    intro tree initial
    unfold all
    cases treated : treat path with
    | none => exact inductionHypothesis others _ tree initial
    | some changes =>
      obtain ⟨copies, done, within⟩ := first changes treated tree initial
      dsimp only
      rcases made : changes tree with ⟨result, changed⟩
      rw [made] at done
      dsimp only at done ⊢
      cases report.record root path result with
      | error error => exact ⟨copies, done, within⟩
      | ok recorded =>
        obtain ⟨copies', done', within'⟩ :=
          inductionHypothesis others recorded changed (preserved.copies done initial)
        exact ⟨copies ++ copies', done.append done', List.forall_mem_append.mpr ⟨within, within'⟩⟩

namespace Transfer

/-- Copying matches into a folder copies them, and what is below them, to their counterparts. -/
theorem copying_copy {invariant : FileTree → Prop} {named : String → Prop}
    (preserved : Preserved invariant)
    (lists : ∀ tree path entries, invariant tree → FileTree.list tree path = .ok entries →
      ∀ entry ∈ entries, named entry.1) (root : Path) (destination : String) (found : List Path) :
    Changes.Copying invariant (·.IsCounterpart named found (root.join ⟨destination⟩))
      (copy root destination found) := by
  unfold copy run
  dsimp only
  split
  · exact Changes.copying_of_unchanged fun _ => rfl
  refine ((FileTree.copying_makeFolders _).mapError _).bind preserved fun _ _ _ _ _ => ?_
  refine Treatment.copying_all preserved root (fun path member changes treated => ?_) _
  unfold into at treated
  split at treated
  · contradiction
  rename_i name named_
  split at treated
  · contradiction
  obtain rfl := Option.some.inj treated
  refine (copying_copyEntry preserved lists path _).mono fun copy mirrors => ?_
  exact ⟨path, member, name, named_, mirrors⟩

end Transfer

end FileQuery
