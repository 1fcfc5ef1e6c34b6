import FileQuery.Proofs.Confinement.Actions

/-!
# Missing matches

A match can be missing when its turn comes. What is done with it then fails, changes nothing, and is
recorded as a failure of this match alone, so the action goes on with the next one. Thus it comes to
the same tree and to the same report as for the other matches alone, but for further failures.
-/

namespace FileQuery

variable {tree after : FileTree} {root path : Path} {found vanished : List Path} {treat : Treatment}
  {gone : FileTree → Path → Prop} {report report' recorded final : Report}
  {lost : List PathFailure}

/-! ## Reports with more failures -/

/-- The failure of a match that is missing. -/
def PathFailure.ofMissing (root path : Path) : PathFailure :=
  ⟨path.relativeTo root, (ExecutionError.file path .notFound).message⟩

namespace Report

/-- Another report tells of further failures, and of nothing else: the failures of both kinds are
    listed in their order. -/
structure Besides (report : Report) (lost : List PathFailure) (report' : Report) : Prop where
  processed : report'.processed = report.processed
  skipped : report'.skipped = report.skipped
  failures : report'.failures.Perm (report.failures ++ lost)
  own : report.failures.Sublist report'.failures
  further : lost.Sublist report'.failures

theorem besides_start (operation : Operation) (destination : Option String) (root : Path)
    (found found' : List Path) :
    (start operation destination root found).Besides [] (start operation destination root found') :=
  ⟨rfl, rfl, .nil, .slnil, .slnil⟩

namespace Besides

theorem skip (besides : report.Besides lost report') (root path : Path) :
    (report.skip root path).Besides lost (report'.skip root path) :=
  ⟨besides.processed, congrArg (· ++ [path.relativeTo root]) besides.skipped, besides.failures,
    besides.own, besides.further⟩

theorem foldl_skip (besides : report.Besides lost report') (root : Path) (passed : List Path) :
    (passed.foldl (fun report path => report.skip root path) report).Besides lost
      (passed.foldl (fun report path => report.skip root path) report') := by
  induction passed generalizing report report' with
  | nil => exact besides
  | cons path rest inductionHypothesis => exact inductionHypothesis (besides.skip root path)

theorem succeed (besides : report.Besides lost report') :
    report.succeed.Besides lost report'.succeed :=
  ⟨congrArg (· + 1) besides.processed, besides.skipped, besides.failures, besides.own,
    besides.further⟩

theorem fail (besides : report.Besides lost report') (root path : Path) (reason : String) :
    (report.fail root path reason).Besides lost (report'.fail root path reason) := by
  refine ⟨besides.processed, besides.skipped, ?_, besides.own.append (.refl _),
    besides.further.trans (List.sublist_append_left _ _)⟩
  have moved (failure : PathFailure) :
      (report.failures ++ lost ++ [failure]).Perm (report.failures ++ [failure] ++ lost) := by
    rw [List.append_assoc, List.append_assoc]
    exact (List.perm_append_singleton failure lost).append_left _
  exact (besides.failures.append_right _).trans (moved _)

/-- One more match is missing. -/
theorem miss (besides : report.Besides lost report') (root path : Path) :
    report.Besides (lost ++ [.ofMissing root path])
      (report'.fail root path (ExecutionError.file path .notFound).message) := by
  refine ⟨besides.processed, besides.skipped, ?_, besides.own.trans (List.sublist_append_left _ _),
    besides.further.append (.refl _)⟩
  rw [← List.append_assoc]
  exact besides.failures.append_right _

/-- What is recorded of a match in one report is recorded in the other. -/
theorem record (besides : report.Besides lost report') {result : Except ExecutionError Unit}
    (records : report.record root path result = .ok recorded) :
    ∃ recorded', report'.record root path result = .ok recorded' ∧
      recorded.Besides lost recorded' := by
  unfold Report.record at records ⊢
  cases result with
  | ok _ =>
    obtain rfl := Except.ok.inj records
    exact ⟨_, rfl, besides.succeed⟩
  | error error =>
    dsimp only at records ⊢
    split at records
    · rename_i vanished
      obtain rfl := Except.ok.inj records
      exact ⟨_, if_pos vanished, besides.fail root path _⟩
    · contradiction

/-- A report tells of the further failures alone if and only if the other one tells of none. -/
theorem failures_eq_iff (besides : report.Besides lost report') :
    report'.failures = lost ↔ report.failures = [] := by
  have count := besides.failures.length_eq
  rw [List.length_append] at count
  constructor
  · intro same
    rw [same] at count
    exact List.length_eq_zero_iff.mp (by omega)
  · intro none
    rw [none, List.length_nil, Nat.zero_add] at count
    exact (besides.further.eq_of_length count.symm).symm

end Besides

theorem record_missing (report : Report) (root path : Path) :
    report.record root path (.error (.file path .notFound)) =
      .ok (report.fail root path (ExecutionError.file path .notFound).message) := rfl

end Report

/-! ## When the turn of a missing match comes -/

namespace Treatment

/-- Some of the matches are missing, in a given sense, when their turn comes. The others are skipped
    or treated in their turn. -/
inductive Misses (treat : Treatment) (gone : FileTree → Path → Prop) (vanished : List Path) :
    List Path → FileTree → Prop
  | done (tree : FileTree) : Misses treat gone vanished [] tree
  | missing {tree : FileTree} {path : Path} {rest : List Path} (listed : path ∈ vanished)
    (absent : gone tree path) (later : Misses treat gone vanished rest tree) :
    Misses treat gone vanished (path :: rest) tree
  | skipped {tree : FileTree} {path : Path} {rest : List Path} (other : path ∉ vanished)
    (skips : treat path = none) (later : Misses treat gone vanished rest tree) :
    Misses treat gone vanished (path :: rest) tree
  | treated {tree changed : FileTree} {path : Path} {rest : List Path}
    {changes : Changes ExecutionError Unit} {result : Except ExecutionError Unit}
    (other : path ∉ vanished) (treats : treat path = some changes)
    (made : changes tree = (result, changed)) (later : Misses treat gone vanished rest changed) :
    Misses treat gone vanished (path :: rest) tree

/-- Where matches are missing when their turn comes, and what is done for a missing one finds nothing
    and changes nothing, all goes as for the others alone, and the missing ones are recorded as
    failures. -/
theorem Misses.all (misses : treat.Misses gone vanished found tree)
    (fails : ∀ path ∈ found, path ∈ vanished → ∃ changes, treat path = some changes ∧
      ∀ stage, gone stage path → changes stage = (.error (.file path .notFound), stage))
    (done : treat.all root (found.filter (· ∉ vanished)) report tree = (.ok final, after))
    (besides : report.Besides lost report') :
    ∃ final', treat.all root found report' tree = (.ok final', after) ∧
      final.Besides (lost ++ (found.filter (· ∈ vanished)).map (.ofMissing root)) final' := by
  induction misses generalizing report report' lost with
  | done tree =>
    obtain ⟨same, rfl⟩ := Prod.mk.inj done
    obtain rfl := Except.ok.inj same
    exact ⟨report', rfl, by simpa using besides⟩
  | @missing tree path rest listed absent _ inductionHypothesis =>
    obtain ⟨first, others⟩ := List.forall_mem_cons.mp fails
    obtain ⟨changes, treats, finds⟩ := first listed
    rw [List.filter_cons_of_neg (by simpa using listed)] at done
    obtain ⟨final', done', besides'⟩ :=
      inductionHypothesis others done (besides.miss root path)
    refine ⟨final', ?_, ?_⟩
    · rw [Treatment.all, treats]
      dsimp only
      rw [finds tree absent]
      dsimp only
      rw [Report.record_missing]
      exact done'
    · rw [List.filter_cons_of_pos (by simpa using listed), List.map_cons]
      simpa using besides'
  | @skipped tree path rest other skips _ inductionHypothesis =>
    rw [List.filter_cons_of_pos (by simpa using other), Treatment.all, skips] at done
    obtain ⟨final', done', besides'⟩ :=
      inductionHypothesis (List.forall_mem_cons.mp fails).2 done (besides.skip root path)
    refine ⟨final', ?_, ?_⟩
    · rw [Treatment.all, skips]
      exact done'
    · rwa [List.filter_cons_of_neg (by simpa using other)]
  | @treated tree changed path rest changes result other treats made _ inductionHypothesis =>
    rw [List.filter_cons_of_pos (by simpa using other), Treatment.all, treats] at done
    dsimp only at done
    rw [made] at done
    dsimp only at done
    cases records : report.record root path result with
    | error error =>
      rw [records] at done
      cases done
    | ok recorded =>
      rw [records] at done
      obtain ⟨recorded', records', besides'⟩ := besides.record records
      obtain ⟨final', done', besides''⟩ :=
        inductionHypothesis (List.forall_mem_cons.mp fails).2 done besides'
      refine ⟨final', ?_, ?_⟩
      · rw [Treatment.all, treats]
        dsimp only
        rw [made]
        dsimp only
        rw [records']
        exact done'
      · rwa [List.filter_cons_of_neg (by simpa using other)]

/-- A tree from which treating some of the matches that have not vanished leads to a last tree. -/
def LeadsTo (treat : Treatment) (root : Path) (found vanished : List Path) (after tree : FileTree) :
    Prop :=
  ∃ rest report final, (∀ path ∈ rest, path ∈ found ∧ path ∉ vanished) ∧
    treat.all root rest report tree = (.ok final, after)

/-- Matches are missing when their turn comes if they are so in each tree with what treating the
    others maintains, and from which treating others leads to the last tree. -/
theorem misses_of_maintains (holds : FileTree → Prop)
    (maintains : ∀ path ∈ found, path ∉ vanished → ∀ changes, treat path = some changes →
      changes.Maintains holds)
    (looks : ∀ path ∈ found, path ∈ vanished → ∀ stage, holds stage →
      treat.LeadsTo root found vanished after stage → gone stage path)
    (initial : holds tree)
    (done : treat.all root (found.filter (· ∉ vanished)) report tree = (.ok final, after)) :
    treat.Misses gone vanished found tree := by
  -- The list of what is still to be treated is shortened, that of all matches is not.
  suffices among : ∀ rest : List Path, (∀ path ∈ rest, path ∈ found) → ∀ report tree, holds tree →
      treat.all root (rest.filter (· ∉ vanished)) report tree = (.ok final, after) →
      treat.Misses gone vanished rest tree from
    among found (fun _ member => member) report tree initial done
  intro rest
  induction rest with
  | nil => exact fun _ _ tree _ _ => .done tree
  | cons path rest inductionHypothesis =>
    intro members report tree initial done
    obtain ⟨first, others⟩ := List.forall_mem_cons.mp members
    by_cases listed : path ∈ vanished
    · rw [List.filter_cons_of_neg (by simpa using listed)] at done
      refine .missing listed (looks path first listed tree initial
        ⟨_, _, _, fun other member => ?_, done⟩) (inductionHypothesis others _ _ initial done)
      obtain ⟨member, stays⟩ := List.mem_filter.mp member
      exact ⟨others other member, of_decide_eq_true stays⟩
    · rw [List.filter_cons_of_pos (by simpa using listed)] at done
      rcases all_cons_eq_ok done with ⟨skips, done'⟩ |
        ⟨changes, result, changed, recorded, treats, made, records, done'⟩
      · exact .skipped listed skips (inductionHypothesis others _ _ initial done')
      · have middle := maintains path first listed changes treats tree initial
        rw [made] at middle
        exact .treated listed treats made (inductionHypothesis others _ _ middle done')

/-- What treating each match maintains is so in the last tree. -/
theorem LeadsTo.maintains (holds : FileTree → Prop)
    (leads : treat.LeadsTo root found vanished after tree)
    (maintains : ∀ path ∈ found, path ∉ vanished → ∀ changes, treat path = some changes →
      changes.Maintains holds)
    (initial : holds tree) : holds after := by
  obtain ⟨rest, report, final, among, done⟩ := leads
  have maintained : (treat.all root rest report).Maintains holds :=
    maintains_all report fun path member =>
      maintains path (among path member).1 (among path member).2
  have last := maintained tree initial
  rwa [done] at last

end Treatment

end FileQuery
