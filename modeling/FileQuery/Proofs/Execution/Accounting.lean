import FileQuery.Execution.Run
import FileQuery.Proofs.FileTree.Entries
import FileQuery.Proofs.FileTree.Plain
import FileQuery.Proofs.Path.Relative
import FileQuery.Proofs.Transfer.Protection
import Mathlib.Data.List.Nodup

/-!
# Every match is accounted for

The report of a completed statement lists every match once, as it is seen from the directory of the
query. Each match was processed, skipped or failed, and only one of these: what a report says of
the matches that were treated so far is kept by each way to treat one more, and so it holds when
all have been treated.
-/

namespace FileQuery

section

namespace Report

/-- What a report says when some of the matches have been treated: it lists all matches, and each
    that was treated counts as processed, is listed as skipped, or is listed as failed. -/
structure Accounts (operation : Operation) (root : Path) (found treated : List Path)
    (report : Report) : Prop where
  operation : report.operation = operation
  matched : report.matched = found.length
  paths : report.paths = found.map (·.relativeTo root)
  shares : ∃ processed skipped failed : List Path,
    (processed ++ skipped ++ failed).Perm treated ∧ report.processed = processed.length ∧
      report.skipped = skipped.map (·.relativeTo root) ∧
      report.failures.map (·.path) = failed.map (·.relativeTo root)

variable {operation : Operation} {root path : Path} {found treated : List Path} {report : Report}

/-- At the start nothing has been treated. -/
theorem accounts_start (operation : Operation) (destination : Option String) (root : Path)
    (found : List Path) :
    (start operation destination root found).Accounts operation root found [] :=
  ⟨rfl, rfl, rfl, [], [], [], .nil, rfl, rfl, rfl⟩

theorem Accounts.skip (accounts : report.Accounts operation root found treated) :
    (report.skip root path).Accounts operation root found (treated ++ [path]) := by
  obtain ⟨isOperation, matched, paths, processed, skipped, failed, all, counted, listed, left⟩ :=
    accounts
  refine ⟨isOperation, matched, paths, processed, skipped ++ [path], failed, ?_, counted, ?_, left⟩
  · have inserted : (processed ++ (skipped ++ [path]) ++ failed).Perm
        (processed ++ skipped ++ failed ++ [path]) := by
      simpa using (List.perm_append_singleton path failed).symm.append_left (processed ++ skipped)
    exact inserted.trans (all.append_right [path])
  · simp [Report.skip, listed]

theorem Accounts.fail (accounts : report.Accounts operation root found treated)
    (reason : String) :
    (report.fail root path reason).Accounts operation root found (treated ++ [path]) := by
  obtain ⟨isOperation, matched, paths, processed, skipped, failed, all, counted, listed, left⟩ :=
    accounts
  refine ⟨isOperation, matched, paths, processed, skipped, failed ++ [path], ?_, counted, listed,
    ?_⟩
  · simpa using all.append_right [path]
  · simp [Report.fail, left]

theorem Accounts.succeed (accounts : report.Accounts operation root found treated) :
    report.succeed.Accounts operation root found (treated ++ [path]) := by
  obtain ⟨isOperation, matched, paths, processed, skipped, failed, all, counted, listed, left⟩ :=
    accounts
  refine ⟨isOperation, matched, paths, processed ++ [path], skipped, failed, ?_, ?_, listed, left⟩
  · have inserted : (processed ++ [path] ++ skipped ++ failed).Perm
        (processed ++ skipped ++ failed ++ [path]) := by
      simpa using
        (List.perm_append_singleton path (skipped ++ failed)).symm.append_left processed
    exact inserted.trans (all.append_right [path])
  · simp [Report.succeed, counted]

/-- A recorded result accounts for one more match. -/
theorem Accounts.record (accounts : report.Accounts operation root found treated)
    {result : Except ExecutionError Unit} {recorded : Report}
    (records : report.record root path result = .ok recorded) :
    recorded.Accounts operation root found (treated ++ [path]) := by
  unfold Report.record at records
  split at records
  · obtain rfl := Except.ok.inj records
    exact accounts.succeed
  · split at records
    · obtain rfl := Except.ok.inj records
      exact accounts.fail _
    · contradiction

end Report

variable {operation : Operation} {root : Path} {found treated rest : List Path}
  {report final : Report} {tree changed : FileTree}

/-! ## The ways to treat matches -/

/-- Treatment accounts for all matches that are treated. -/
theorem Treatment.accounts_all {treat : Treatment}
    (accounts : report.Accounts operation root found treated)
    (done : treat.all root rest report tree = (.ok final, changed)) :
    final.Accounts operation root found (treated ++ rest) := by
  induction rest generalizing report treated tree with
  | nil =>
    obtain ⟨same, -⟩ := Prod.mk.inj done
    obtain rfl := Except.ok.inj same
    simpa using accounts
  | cons path rest inductionHypothesis =>
    rw [List.append_cons]
    rcases all_cons_eq_ok done with ⟨-, later⟩ | ⟨_, _, _, _, -, -, records, later⟩
    · exact inductionHypothesis accounts.skip later
    · exact inductionHypothesis (accounts.record records) later

/-- Conversion accounts for all matches. -/
theorem Conversion.accounts_convertAll (converter : Converter) (format : MediaFormat)
    (accounts : report.Accounts operation root found treated) :
    (convertAll converter format root rest report tree).1.Accounts operation root found
      (treated ++ rest) := by
  induction rest generalizing report treated tree with
  | nil =>
    rw [List.append_nil]
    exact accounts
  | cons path rest inductionHypothesis =>
    rw [List.append_cons, convertAll]
    split
    · exact inductionHypothesis accounts.skip
    · dsimp only
      split
      · exact inductionHypothesis accounts.succeed
      · exact inductionHypothesis (accounts.fail _)

namespace Packing

/-- Recorded results account for the matches that they belong to. -/
theorem accounts_recordAll {results : List (Path × Except ExecutionError Unit)}
    (accounts : report.Accounts operation root found treated)
    (done : recordAll root results report = .ok final) :
    final.Accounts operation root found (treated ++ results.map (·.1)) := by
  induction results generalizing report treated with
  | nil =>
    obtain rfl := Except.ok.inj done
    simpa using accounts
  | cons result results inductionHypothesis =>
    rw [recordAll] at done
    split at done
    · contradiction
    · rename_i records
      rw [List.map_cons, List.append_cons]
      exact inductionHypothesis (accounts.record records) done

/-- Matches that are skipped without being looked at are accounted for. -/
theorem accounts_skipped (skipped : List Path)
    (accounts : report.Accounts operation root found treated) :
    (skipped.foldl (fun report path => report.skip root path) report).Accounts operation root found
      (treated ++ skipped) := by
  induction skipped generalizing report treated with
  | nil => simpa using accounts
  | cons path skipped inductionHypothesis =>
    rw [List.append_cons]
    exact inductionHypothesis accounts.skip

/-- Packing comes to one result for each match, unless it comes to an error. -/
theorem length_collect {archive : Path} {results : List (Except ExecutionError Unit)}
    (collected : (collect tree archive rest).2 = .ok results) : results.length = rest.length := by
  induction rest generalizing results with
  | nil =>
    obtain rfl := Except.ok.inj collected
    rfl
  | cons path rest inductionHypothesis =>
    have more {result : Except ExecutionError Unit}
        (mapped : (collect tree archive rest).2.map (result :: ·) = .ok results) :
        results.length = (path :: rest).length := by
      cases later : (collect tree archive rest).2 with
      | error error =>
        rw [later] at mapped
        contradiction
      | ok others =>
        rw [later] at mapped
        obtain rfl := Except.ok.inj mapped
        rw [List.length_cons, List.length_cons, inductionHypothesis later]
    unfold collect at collected
    dsimp only at collected
    split at collected
    · exact more collected
    · split at collected
      · exact more collected
      · contradiction

/-- What is seen is seen in the tree as it is. -/
theorem look_eq_ok {ε α : Type} {see : FileTree → Except ε α} {value : α}
    (seen : (Changes.look see : Changes ε α) tree = (.ok value, changed)) :
    changed = tree ∧ see tree = .ok value := by
  obtain ⟨result, same⟩ := Prod.mk.inj seen
  exact ⟨same.symm, result⟩

theorem length_writeArchive {archive : Path} {results : List (Except ExecutionError Unit)}
    (written : writeArchive archive rest tree = (.ok results, changed)) :
    results.length = rest.length := by
  unfold writeArchive at written
  obtain ⟨_, opened, -, written⟩ := Changes.bind_apply_eq_ok_iff.mp written
  obtain ⟨collected, middle, seen, written⟩ := Changes.bind_apply_eq_ok_iff.mp written
  obtain ⟨-, collects⟩ := look_eq_ok seen
  obtain ⟨_, _, -, written⟩ := Changes.bind_apply_eq_ok_iff.mp written
  obtain ⟨-, results_⟩ := look_eq_ok written
  have one_each : (collect opened archive rest).2 = .ok results := by
    rw [Except.ok.inj collects]
    exact results_
  exact length_collect one_each

end Packing

/-! ## Every action accounts for its matches -/

/-- Matches that are put into a folder are accounted for. -/
theorem Transfer.accounts_run {put : Path → Path → Changes ExecutionError Unit}
    {destination : String} (done : run operation put root destination found tree =
      (.ok final, changed)) : ∃ treated, treated.Perm found ∧
        final.Accounts operation root found treated := by
  have start := Report.accounts_start operation (some destination) root found
  unfold run at done
  dsimp only at done
  split at done
  · rename_i nothing
    obtain rfl := List.isEmpty_iff.mp nothing
    obtain ⟨same, -⟩ := Prod.mk.inj done
    obtain rfl := Except.ok.inj same
    exact ⟨[], .nil, start⟩
  · obtain ⟨_, _, -, done⟩ := Changes.bind_apply_eq_ok_iff.mp done
    have all := Treatment.accounts_all start done
    exact ⟨found, .refl _, by simpa using all⟩

/-- Matches that are packed are accounted for, and so is the archive itself where it is one. -/
theorem Packing.accounts_archive {destination : String}
    (done : archive root destination found tree = (.ok final, changed)) :
    ∃ treated, treated.Perm found ∧ final.Accounts .archive root found treated := by
  let itself (path : Path) : Bool := path.same (root.join ⟨destination⟩)
  have start := accounts_skipped (found.filter itself)
    (Report.accounts_start .archive (some destination) root found)
  have parts : (found.filter itself ++ found.filter (!itself ·)).Perm found :=
    List.filter_append_perm itself found
  unfold archive at done
  dsimp only at done
  split at done
  · rename_i nothing
    obtain ⟨same, -⟩ := Prod.mk.inj done
    obtain rfl := Except.ok.inj same
    refine ⟨found.filter itself, ?_, by simpa using start⟩
    have none_left : found.filter (!itself ·) = [] := List.isEmpty_iff.mp nothing
    simpa [none_left] using parts
  · have packed : ∃ results middle, writeArchive (root.join ⟨destination⟩)
          (found.filter (!itself ·)) middle = (.ok results, changed) ∧
        recordAll root ((found.filter (!itself ·)).zip results)
          ((found.filter itself).foldl (fun report path => report.skip root path)
            (Report.start .archive (some destination) root found)) = .ok final := by
      cases above : (root.join ⟨destination⟩).parent? with
      | some parent =>
        rw [above] at done
        obtain ⟨_, middle, -, done⟩ := Changes.bind_apply_eq_ok_iff.mp done
        obtain ⟨results, after, written, done⟩ := Changes.bind_apply_eq_ok_iff.mp done
        obtain ⟨rfl, recorded⟩ := look_eq_ok done
        exact ⟨results, middle, written, recorded⟩
      | none =>
        rw [above] at done
        obtain ⟨results, after, written, done⟩ := Changes.bind_apply_eq_ok_iff.mp done
        obtain ⟨rfl, recorded⟩ := look_eq_ok done
        exact ⟨results, tree, written, recorded⟩
    obtain ⟨results, middle, written, recorded⟩ := packed
    have all := accounts_recordAll start recorded
    have long := Nat.le_of_eq (length_writeArchive written).symm
    have zipped : ((found.filter (!itself ·)).zip results).map (·.1) =
        found.filter (!itself ·) := List.map_fst_zip long
    refine ⟨_, parts, ?_⟩
    simpa [zipped] using all

/-- Archives that are unpacked are accounted for, and so are the other matches. -/
theorem Packing.accounts_unarchive {destination : String}
    (done : unarchive root destination found tree = (.ok final, changed)) :
    final.Accounts .unarchive root found found := by
  have start := Report.accounts_start .unarchive (some destination) root found
  unfold unarchive at done
  dsimp only at done
  split at done
  · obtain ⟨_, _, -, done⟩ := Changes.bind_apply_eq_ok_iff.mp done
    exact Treatment.accounts_all start done
  · exact Treatment.accounts_all start done

/-- The matches of an action are accounted for, if it does anything to them. -/
theorem Plan.accounts_perform {plan : Plan} {converter : Converter}
    (does : plan.action.operation ≠ .select)
    (done : plan.perform root converter found tree = (.ok final, changed)) :
    ∃ treated, treated.Perm found ∧
      final.Accounts plan.action.operation root found treated := by
  unfold perform at done
  cases action : plan.action with
  | select => simp [action, Action.operation] at does
  | delete =>
    rw [action] at done
    exact ⟨found, .refl _,
      Treatment.accounts_all (Report.accounts_start .delete none root found) done⟩
  | move destination =>
    rw [action] at done
    exact Transfer.accounts_run done
  | copy destination =>
    rw [action] at done
    exact Transfer.accounts_run done
  | archive destination =>
    rw [action] at done
    exact Packing.accounts_archive done
  | unarchive destination =>
    rw [action] at done
    exact ⟨found, .refl _, Packing.accounts_unarchive done⟩
  | convert format =>
    rw [action] at done
    have start := Report.accounts_start .convert (some format.extension) root found
    obtain ⟨same, -⟩ := Prod.mk.inj done
    obtain rfl := Except.ok.inj same
    exact ⟨found, .refl _, Conversion.accounts_convertAll converter format start⟩

/-! ## Matches and their paths in a report -/

/-- The matches among entries are paths to some of them, in the order of the entries. -/
theorem Plan.names_of_matchesAmong {plan : Plan} {folder : Path} {entries : List (String × Node)}
    (among : plan.matchesAmong tree folder entries = .ok found) :
    ∃ names : List String, names.Sublist (entries.map (·.1)) ∧ found = names.map folder.child := by
  induction entries generalizing found with
  | nil =>
    obtain rfl := Except.ok.inj among
    exact ⟨[], .slnil, rfl⟩
  | cons entry rest inductionHypothesis =>
    obtain ⟨name, node⟩ := entry
    have later {found : List Path} (among : plan.matchesAmong tree folder rest = .ok found) :
        ∃ names : List String, names.Sublist (((name, node) :: rest).map (·.1)) ∧
          found = names.map folder.child := by
      obtain ⟨names, within, same⟩ := inductionHypothesis among
      exact ⟨names, within.cons name, same⟩
    unfold matchesAmong at among
    split at among
    · exact later among
    split at among
    · contradiction
    · exact later among
    · cases others : plan.matchesAmong tree folder rest with
      | error error =>
        rw [others] at among
        contradiction
      | ok more =>
        rw [others] at among
        obtain rfl := Except.ok.inj among
        obtain ⟨names, within, rfl⟩ := inductionHypothesis others
        exact ⟨name :: names, within.cons_cons name, rfl⟩

/-- The matches of a plan are paths to entries of its folder, each with a name of its own. -/
theorem Plan.names_of_findMatches {plan : Plan} (named : tree.Named)
    (finds : plan.findMatches tree root = .ok found) :
    ∃ names : List String, (∀ name ∈ names, IsName name) ∧ names.Nodup ∧
      found = names.map (plan.folder root).child := by
  unfold findMatches at finds
  dsimp only at finds
  split at finds
  · contradiction
  · contradiction
  · rename_i listed
    obtain ⟨areNames, distinct⟩ := named.of_find listed
    obtain ⟨names, within, same⟩ := names_of_matchesAmong finds
    refine ⟨names, fun name member => ?_, distinct.sublist within, same⟩
    obtain ⟨entry, listed, rfl⟩ := List.mem_map.mp (within.subset member)
    exact areNames entry listed
  · contradiction
  · contradiction

/-- A confined path is relative. -/
theorem Plan.relative_of_confine {operation : Operation} {path : String}
    (confined : confine operation path = .ok ()) : (Path.mk path).isAbsolute = false := by
  unfold confine at confined
  split at confined
  · contradiction
  · rename_i inside
    refine Bool.eq_false_iff.mpr fun absolute => inside ?_
    simp [Path.components, absolute]

/-- The paths of matches in a report lead from the directory of the query to the matches, and each
    is another. -/
theorem Plan.shown_matches {statement : Statement} {plan : Plan}
    (accepted : Plan.ofStatement statement = .ok plan) (named : tree.Named)
    (finds : plan.findMatches tree root = .ok found) :
    (∀ path ∈ found, (root.join (path.relativeTo root)).same path = true) ∧
      (found.map (·.relativeTo root)).Nodup := by
  have accepts := (ofStatement_eq_ok_iff statement plan).mp accepted
  have relative : (Path.mk plan.source).isAbsolute = false := by
    rw [accepts.sameSource]
    exact relative_of_confine accepts.source
  obtain ⟨names, areNames, distinct, rfl⟩ := names_of_findMatches named finds
  have leads (name : String) (member : name ∈ names) :
      (root.join (((plan.folder root).child name).relativeTo root)).same
        ((plan.folder root).child name) = true :=
    Path.same_join_relativeTo_child root relative (areNames name member)
  refine ⟨by simpa using leads, ?_⟩
  rw [List.map_map]
  refine distinct.map_on fun first firstMember second secondMember alike => ?_
  have sameComponents : ((plan.folder root).child first).components =
      ((plan.folder root).child second).components := by
    have leadsFirst := leads first firstMember
    have leadsSecond := leads second secondMember
    simp only [Path.same, beq_iff_eq] at leadsFirst leadsSecond
    rw [← leadsFirst, ← leadsSecond]
    exact congrArg (fun shown => (root.join shown).components) alike
  have sameName : ((plan.folder root).child first).fileName? =
      ((plan.folder root).child second).fileName? := by
    rw [Path.fileName?, Path.fileName?, sameComponents]
  rw [Path.fileName?_child _ (areNames first firstMember),
    Path.fileName?_child _ (areNames second secondMember)] at sameName
  exact Option.some.inj sameName

/-! ## Reports of statements -/

/-- A report lists its matches, each by a path that leads to it from the directory of the query,
    and each match once among what was skipped and what failed. Unless the statement only selects,
    the numbers of what was processed, skipped and failed come to the number of matches. -/
structure Report.Complete (root : Path) (found : List Path) (report : Report) : Prop where
  matched : report.matched = report.paths.length
  leads : List.Forall₂ (fun shown path => (root.join shown).same path = true) report.paths found
  skipped : report.skipped ⊆ report.paths ∧ report.skipped.Nodup
  failures : report.failures.map (·.path) ⊆ report.paths ∧ (report.failures.map (·.path)).Nodup
  disjoint : report.skipped.Disjoint (report.failures.map (·.path))
  accounted : report.operation ≠ .select →
    report.processed + report.skipped.length + report.failures.length = report.matched
  selected : report.operation = .select →
    report.processed = 0 ∧ report.skipped = [] ∧ report.failures = []

/-- A report that accounts for all matches is complete. -/
theorem Report.Accounts.complete (accounts : report.Accounts operation root found treated)
    (all : treated.Perm found) (does : operation ≠ .select)
    (leads : ∀ path ∈ found, (root.join (path.relativeTo root)).same path = true)
    (distinct : (found.map (·.relativeTo root)).Nodup) : report.Complete root found := by
  obtain ⟨isOperation, matched, paths, processed, skipped, failed, shares, counted, listed, left⟩ :=
    accounts
  have whole : (processed.map (·.relativeTo root) ++ report.skipped ++
      report.failures.map (·.path)).Perm report.paths := by
    rw [listed, left, paths, ← List.map_append, ← List.map_append]
    exact (shares.trans all).map _
  have unrepeated := whole.nodup_iff.mpr (paths ▸ distinct)
  obtain ⟨front, failedDistinct, apart⟩ := List.nodup_append'.mp unrepeated
  refine ⟨by simp [matched, paths], ?_, ⟨?_, front.of_append_right⟩, ⟨?_, failedDistinct⟩,
    ?_, ?_, ?_⟩
  · rw [paths, List.forall₂_map_left_iff, List.forall₂_same]
    exact leads
  · intro path member
    exact whole.subset (by simp [member])
  · intro path member
    exact whole.subset (List.mem_append_right _ member)
  · exact (List.disjoint_append_left.mp apart).2
  · intro _
    have total := whole.length_eq
    rw [matched, counted]
    simp only [List.length_append, List.length_map, paths] at total
    omega
  · intro selects
    exact absurd (isOperation.symm.trans selects) does

/-- A report of matches to which nothing is done is complete. -/
theorem Report.complete_start
    (leads : ∀ path ∈ found, (root.join (path.relativeTo root)).same path = true) :
    (start .select none root found).Complete root found where
  matched := by simp [start]
  leads := by
    rw [start, List.forall₂_map_left_iff, List.forall₂_same]
    exact leads
  skipped := by simp [start]
  failures := by simp [start]
  disjoint := by simp [start]
  accounted := fun does => absurd rfl does
  selected := fun _ => ⟨rfl, rfl, rfl⟩

/-- A plan that is carried out for its matches reports on them completely. -/
theorem Plan.complete_of_perform {plan : Plan} {converter : Converter}
    (leads : ∀ path ∈ found, (root.join (path.relativeTo root)).same path = true)
    (distinct : (found.map (·.relativeTo root)).Nodup)
    (done : plan.perform root converter found tree = (.ok final, changed)) :
    final.operation = plan.action.operation ∧ final.Complete root found := by
  by_cases selects : plan.action.operation = .select
  · unfold perform at done
    cases action : plan.action with
    | select =>
      rw [action] at done
      obtain ⟨same, -⟩ := Prod.mk.inj done
      obtain rfl := Except.ok.inj same
      exact ⟨rfl, Report.complete_start leads⟩
    | _ => simp [action, Action.operation] at selects
  · obtain ⟨treated, all, accounts⟩ := accounts_perform selects done
    exact ⟨accounts.operation, accounts.complete all selects leads distinct⟩

/-- What is completed was accepted, had its matches found and its plan carried out for them. -/
theorem Statement.exists_of_completed {statement : Statement} {converter : Converter}
    (done : statement.run root converter tree = (.completed report, changed)) :
    ∃ plan found, Plan.ofStatement statement = .ok plan ∧
      plan.findMatches tree root = .ok found ∧
      plan.perform root converter found tree = (.ok report, changed) := by
  unfold run at done
  split at done
  · cases done
  rename_i plan accepted
  split at done
  · rename_i executed
    obtain ⟨same, rfl⟩ := Prod.mk.inj done
    obtain rfl := Outcome.completed.inj same
    obtain ⟨found, middle, seen, performed⟩ := Changes.bind_apply_eq_ok_iff.mp executed
    obtain ⟨rfl, finds⟩ := Packing.look_eq_ok seen
    exact ⟨plan, found, accepted, finds, performed⟩
  · cases done

/-- The report of every completed statement is complete: it lists the matches, each by a path that
    leads to it, and accounts for each of them once. -/
theorem Statement.complete_of_completed {statement : Statement} {converter : Converter}
    (named : tree.Named)
    (done : statement.run root converter tree = (.completed report, changed)) :
    ∃ plan found, Plan.ofStatement statement = .ok plan ∧
      plan.findMatches tree root = .ok found ∧ report.operation = statement.operation ∧
      report.Complete root found := by
  obtain ⟨plan, found, accepted, finds, performed⟩ := exists_of_completed done
  obtain ⟨leads, distinct⟩ := Plan.shown_matches accepted named finds
  obtain ⟨operation, complete⟩ := Plan.complete_of_perform leads distinct performed
  have accepts := (Plan.ofStatement_eq_ok_iff statement plan).mp accepted
  exact ⟨plan, found, accepted, finds,
    operation.trans (Plan.suits_of_actionOf accepts.action).operation, complete⟩

/-- Without a converter the only match of a conversion fails, and is accounted for. -/
theorem Statement.complete_of_failedConversion :
    (FileTree.oneFile [0]).Named ∧ ∃ report,
      (Statement.convert ⟨"files", "a", none⟩ "mp3").run ⟨"/"⟩ .none (.oneFile [0]) =
        (.completed report, .oneFile [0]) ∧
      report.failures.length = 1 ∧ report.Complete ⟨"/"⟩ [⟨"/a/x"⟩] := by
  have named := (FileTree.plain_oneFile [0]).named
  have finds := FileTree.findMatches_oneFile [0] (.convert ⟨"mp3", .audio⟩)
  have accepted : Plan.ofStatement (.convert ⟨"files", "a", none⟩ "mp3") =
      .ok (.ofOneFile (.convert ⟨"mp3", .audio⟩)) := rfl
  have done : ∃ report, (Statement.convert ⟨"files", "a", none⟩ "mp3").run ⟨"/"⟩ .none
      (.oneFile [0]) = (.completed report, .oneFile [0]) ∧ report.failures.length = 1 := by
    unfold Statement.run
    rw [accepted]
    dsimp only
    rw [Plan.execute, Changes.bind_apply, Changes.look, finds]
    exact ⟨_, rfl, rfl⟩
  obtain ⟨report, ran, failed⟩ := done
  obtain ⟨plan, found, accepted', finds', -, complete⟩ := complete_of_completed named ran
  obtain rfl := Except.ok.inj (accepted.symm.trans accepted')
  obtain rfl := Except.ok.inj (finds.symm.trans finds')
  exact ⟨named, report, ran, failed, complete⟩

end

/-!
## Where matches are

The folder of a plan is where its path leads through folders and links, and the matches are entries
of it, of the kind that the target selects.
-/

namespace FileTree

variable {tree : FileTree} {path : Path} {stamps : Stamps} {entries : List (String × Node)}

/-- A folder that is found is where its path leads. -/
theorem reaches_of_find (found : tree.find path = .ok (.folder stamps entries)) :
    ∃ left place, tree.Reaches path left place ∧
      tree.get? place = some (.folder stamps entries) := by
  obtain ⟨place, slash, leads, at_place⟩ := find_eq_ok found
  obtain ⟨left, way⟩ := (comesOut_of_resolve leads).exists_leads_keeps (.refl tree) at_place
  exact ⟨left, place, way, at_place⟩

end FileTree

namespace Plan

variable {plan : Plan} {tree : FileTree} {root : Path} {found : List Path}

/-- The matches of a plan are entries of the folder to which the plan's path leads. -/
theorem exists_of_findMatches (named : tree.Named)
    (finds : plan.findMatches tree root = .ok found) :
    ∃ left place stamps entries, tree.Reaches (plan.folder root) left place ∧
      tree.get? place = some (.folder stamps entries) ∧
      ∀ path ∈ found, ∃ name node, IsName name ∧ path = (plan.folder root).child name ∧
        plan.target.accepts node = true ∧ tree.get? (place ++ [name]) = some node := by
  unfold findMatches at finds
  dsimp only at finds
  split at finds
  · contradiction
  · contradiction
  · rename_i stamps entries listed
    obtain ⟨left, place, reaches, at_place⟩ := FileTree.reaches_of_find listed
    obtain ⟨areNames, distinct⟩ := named place _ at_place
    refine ⟨left, place, stamps, entries, reaches, at_place, fun path member => ?_⟩
    obtain ⟨name, node, entry, kind, same⟩ := mem_matchesAmong finds path member
    refine ⟨name, node, areNames _ entry, same, kind, ?_⟩
    rw [FileTree.get?_append, at_place]
    simp [Node.get?, lookup_of_mem distinct entry]
  · contradiction
  · contradiction

end Plan

end FileQuery
