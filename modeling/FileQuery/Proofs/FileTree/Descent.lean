import FileQuery.Proofs.FileTree.Lexical

/-!
# Ways through a tree

The way of a path is followed a segment at a time, through folders and links. What is at the end of
a path depends only on the folder that is reached before its last name. So paths that begin with the
same names begin with the same way, and what is changed elsewhere does not turn a way aside.
-/

namespace FileQuery

namespace FileTree

theorem speaks_of_isName {name : String} (isName : IsName name) : speaks name = true := by
  simp [speaks, isName.nonempty, isName.notHere]

/-- The names and the double dots of a path. -/
def steps (path : Path) : List String := (names path.text).filter speaks

/-- From a folder, with so many links to follow at most, segments lead through folders and links to
    a folder, with so many links left. -/
inductive Leads (tree : FileTree) : Nat → Place → List String → Nat → Place → Prop
  | nil {links : Nat} {here : Place} : Leads tree links here [] links here
  | silent {links left : Nat} {here reached : Place} {segment : String} {rest : List String}
    (unsaying : speaks segment = false) (later : Leads tree links here rest left reached) :
    Leads tree links here (segment :: rest) left reached
  | parent {links left : Nat} {here reached : Place} {rest : List String}
    (later : Leads tree links here.dropLast rest left reached) :
    Leads tree links here (".." :: rest) left reached
  | folder {links left : Nat} {here reached : Place} {name : String} {rest : List String}
    {stamps : Stamps} {entries : List (String × Node)} (saying : speaks name = true)
    (down : name ≠ "..") (short : ¬ nameLimit < Text.byteLength name.toList)
    (found : tree.get? (here ++ [name]) = some (.folder stamps entries))
    (later : Leads tree links (here ++ [name]) rest left reached) :
    Leads tree links here (name :: rest) left reached
  | link {links left : Nat} {here reached : Place} {name target : String} {rest : List String}
    (saying : speaks name = true) (down : name ≠ "..")
    (short : ¬ nameLimit < Text.byteLength name.toList)
    (found : tree.get? (here ++ [name]) = some (.link target))
    (later : Leads tree links (start target here) (names target ++ rest) left reached) :
    Leads tree (links + 1) here (name :: rest) left reached

/-- The files and folders of a tree are files and folders in another tree, and its links are the
    same links. -/
structure Keeps (tree later : FileTree) : Prop where
  working : later.working = tree.working
  files : ∀ place stamps executable bytes,
    tree.get? place = some (.file stamps executable bytes) →
      ∃ stamps' executable' bytes', later.get? place = some (.file stamps' executable' bytes')
  folders : ∀ place stamps entries, tree.get? place = some (.folder stamps entries) →
    ∃ stamps' entries', later.get? place = some (.folder stamps' entries')
  links : ∀ place target, tree.get? place = some (.link target) →
    later.get? place = some (.link target)

variable {tree later : FileTree} {links left left' : Nat} {here reached reached' : Place}
  {segments rest : List String}

theorem Keeps.refl (tree : FileTree) : tree.Keeps tree :=
  ⟨rfl, fun _ _ _ _ found => ⟨_, _, _, found⟩, fun _ _ _ found => ⟨_, _, found⟩,
    fun _ _ found => found⟩

theorem Keeps.trans {middle : FileTree} (first : tree.Keeps middle) (second : middle.Keeps later) :
    tree.Keeps later := by
  refine ⟨second.working.trans first.working, fun place stamps executable bytes found => ?_,
    fun place stamps entries found => ?_, ?_⟩
  · obtain ⟨stamps', executable', bytes', found'⟩ :=
      first.files place stamps executable bytes found
    exact second.files place stamps' executable' bytes' found'
  · obtain ⟨stamps', entries', found'⟩ := first.folders place stamps entries found
    exact second.folders place stamps' entries' found'
  · intro place target found
    exact second.links place target (first.links place target found)

namespace Leads

/-- A way stays as it is where folders stay folders and links stay the same. -/
theorem keeps (leads : tree.Leads links here segments left reached) (keeps : tree.Keeps later) :
    later.Leads links here segments left reached := by
  induction leads with
  | nil => exact .nil
  | silent unsaying _ inductionHypothesis => exact .silent unsaying inductionHypothesis
  | parent _ inductionHypothesis => exact .parent inductionHypothesis
  | folder saying down short found _ inductionHypothesis =>
    obtain ⟨stamps, entries, found'⟩ := keeps.folders _ _ _ found
    exact .folder saying down short found' inductionHypothesis
  | link saying down short found _ inductionHypothesis =>
    exact .link saying down short (keeps.links _ _ found) inductionHypothesis

/-- A way goes on from where another one ends. -/
theorem append (first : tree.Leads links here segments left reached)
    (second : tree.Leads left reached rest left' reached') :
    tree.Leads links here (segments ++ rest) left' reached' := by
  induction first with
  | nil => exact second
  | silent unsaying _ inductionHypothesis => exact .silent unsaying (inductionHypothesis second)
  | parent _ inductionHypothesis => exact .parent (inductionHypothesis second)
  | folder saying down short found _ inductionHypothesis =>
    exact .folder saying down short found (inductionHypothesis second)
  | link saying down short found _ inductionHypothesis =>
    have later := inductionHypothesis second
    rw [List.append_assoc] at later
    exact .link saying down short found later

/-- A way through segments passes a folder after the first of them. -/
theorem of_append (leads : tree.Leads links here (segments ++ rest) left reached) :
    ∃ middle passed, tree.Leads links here segments middle passed ∧
      tree.Leads middle passed rest left reached := by
  generalize whole : segments ++ rest = all at leads
  induction leads generalizing segments with
  | nil =>
    obtain ⟨rfl, rfl⟩ := List.append_eq_nil_iff.mp whole
    exact ⟨_, _, .nil, .nil⟩
  | @silent _ _ _ _ segment _ unsaying later inductionHypothesis =>
    cases segments with
    | nil =>
      obtain rfl : rest = segment :: _ := whole
      exact ⟨_, _, .nil, .silent unsaying later⟩
    | cons first more =>
      obtain ⟨rfl, whole'⟩ := List.cons.inj whole
      obtain ⟨_, _, leads, goesOn⟩ := inductionHypothesis whole'
      exact ⟨_, _, .silent unsaying leads, goesOn⟩
  | parent later inductionHypothesis =>
    cases segments with
    | nil =>
      obtain rfl : rest = ".." :: _ := whole
      exact ⟨_, _, .nil, .parent later⟩
    | cons first more =>
      obtain ⟨rfl, whole'⟩ := List.cons.inj whole
      obtain ⟨_, _, leads, goesOn⟩ := inductionHypothesis whole'
      exact ⟨_, _, .parent leads, goesOn⟩
  | @folder _ _ _ _ name _ _ _ saying down short found later inductionHypothesis =>
    cases segments with
    | nil =>
      obtain rfl : rest = name :: _ := whole
      exact ⟨_, _, .nil, .folder saying down short found later⟩
    | cons first more =>
      obtain ⟨rfl, whole'⟩ := List.cons.inj whole
      obtain ⟨_, _, leads, goesOn⟩ := inductionHypothesis whole'
      exact ⟨_, _, .folder saying down short found leads, goesOn⟩
  | @link _ _ _ _ name target _ saying down short found later inductionHypothesis =>
    cases segments with
    | nil =>
      obtain rfl : rest = name :: _ := whole
      exact ⟨_, _, .nil, .link saying down short found later⟩
    | cons first more =>
      obtain ⟨rfl, whole'⟩ := List.cons.inj whole
      obtain ⟨_, _, leads, goesOn⟩ := inductionHypothesis
        ((List.append_assoc (names target) more rest).trans (congrArg _ whole'))
      exact ⟨_, _, .link saying down short found leads, goesOn⟩

/-- Segments that say nothing lead nowhere else. -/
theorem of_silent (unsaying : segments.filter speaks = []) :
    tree.Leads links here segments links here := by
  induction segments with
  | nil => exact .nil
  | cons segment rest inductionHypothesis =>
    rw [List.filter_eq_nil_iff] at unsaying
    have first : speaks segment = false := by simpa using unsaying segment List.mem_cons_self
    refine .silent first (inductionHypothesis (List.filter_eq_nil_iff.mpr fun other member => ?_))
    exact unsaying other (List.mem_cons_of_mem _ member)

/-- Segments that say nothing can be put before a way. -/
theorem of_silent_append {before : List String}
    (unsaying : ∀ segment ∈ before, ¬ speaks segment = true)
    (leads : tree.Leads links here segments left reached) :
    tree.Leads links here (before ++ segments) left reached :=
  (of_silent (List.filter_eq_nil_iff.mpr unsaying)).append leads

/-- The way of segments depends only on those that say something. -/
theorem congr (leads : tree.Leads links here segments left reached) {other : List String}
    (same : other.filter speaks = segments.filter speaks) :
    tree.Leads links here other left reached := by
  induction leads generalizing other with
  | nil => exact of_silent same
  | silent unsaying _ inductionHypothesis =>
    refine inductionHypothesis ?_
    rw [same, List.filter_cons_of_neg (by simp [unsaying])]
  | parent _ inductionHypothesis =>
    rw [List.filter_cons_of_pos (by decide)] at same
    obtain ⟨before, after, rfl, unsaying, -, same'⟩ := List.filter_eq_cons_iff.mp same
    exact of_silent_append unsaying (.parent (inductionHypothesis same'))
  | folder saying down short found _ inductionHypothesis =>
    rw [List.filter_cons_of_pos saying] at same
    obtain ⟨before, after, rfl, unsaying, -, same'⟩ := List.filter_eq_cons_iff.mp same
    exact of_silent_append unsaying (.folder saying down short found (inductionHypothesis same'))
  | link saying down short found _ inductionHypothesis =>
    rw [List.filter_cons_of_pos saying] at same
    obtain ⟨before, after, rfl, unsaying, -, same'⟩ := List.filter_eq_cons_iff.mp same
    refine of_silent_append unsaying (.link saying down short found (inductionHypothesis ?_))
    rw [List.filter_append, List.filter_append, same']

/-- Two trees with the same links have ways to the same folders. -/
theorem agree (sameLinks : ∀ place target, tree.get? place = some (.link target) ↔
      later.get? place = some (.link target))
    (leads : tree.Leads links here segments left reached)
    (leads' : later.Leads links here segments left' reached') :
    left' = left ∧ reached' = reached := by
  induction leads with
  | nil =>
    cases leads'
    exact ⟨rfl, rfl⟩
  | silent unsaying _ inductionHypothesis =>
    cases leads' with
    | silent _ later' => exact inductionHypothesis later'
    | parent => contradiction
    | folder saying => simp [unsaying] at saying
    | link saying => simp [unsaying] at saying
  | parent _ inductionHypothesis =>
    cases leads' with
    | silent unsaying => contradiction
    | parent later' => exact inductionHypothesis later'
    | folder _ down => contradiction
    | link _ down => contradiction
  | folder saying down _ found _ inductionHypothesis =>
    cases leads' with
    | silent unsaying => simp [unsaying] at saying
    | parent => contradiction
    | folder _ _ _ _ later' => exact inductionHypothesis later'
    | link _ _ _ found' =>
      rw [(sameLinks _ _).mpr found'] at found
      cases found
  | link saying down _ found _ inductionHypothesis =>
    cases leads' with
    | silent unsaying => simp [unsaying] at saying
    | parent => contradiction
    | folder _ _ _ found' =>
      rw [(sameLinks _ _).mp found] at found'
      cases found'
    | link _ _ _ found' later' =>
      rw [(sameLinks _ _).mp found] at found'
      obtain rfl := Node.link.inj (Option.some.inj found')
      exact inductionHypothesis later'

/-- A way leads to one folder. -/
theorem unique (leads : tree.Leads links here segments left reached)
    (leads' : tree.Leads links here segments left' reached') : left' = left ∧ reached' = reached :=
  leads.agree (fun _ _ => Iff.rfl) leads'

/-- Names that lead through no link lead down by themselves. -/
theorem down_of_unlinked (leads : tree.Leads links here segments left reached)
    (areNames : ∀ segment ∈ segments, IsName segment)
    (unlinked : ∀ below target, below <+: segments →
      tree.get? (here ++ below) ≠ some (.link target)) :
    left = links ∧ reached = here ++ segments := by
  induction leads with
  | nil => simp
  | silent unsaying _ _ =>
    have saying := speaks_of_isName (areNames _ List.mem_cons_self)
    simp [unsaying] at saying
  | parent => exact absurd rfl (areNames ".." List.mem_cons_self).notParent
  | folder _ _ _ _ _ inductionHypothesis =>
    rw [List.append_cons]
    refine inductionHypothesis (fun segment member => ?_) fun below target starts => ?_
    · exact areNames segment (List.mem_cons_of_mem _ member)
    · rw [List.append_assoc]
      exact unlinked _ target (List.cons_prefix_cons.mpr ⟨rfl, starts⟩)
  | @link _ _ _ _ name target rest _ _ _ found _ _ =>
    have starts : [name] <+: name :: rest := List.cons_prefix_cons.mpr ⟨rfl, List.nil_prefix⟩
    exact absurd found (unlinked [name] target starts)

/-- Where more segments follow, going down them begins with the way. -/
theorem descend_append (leads : tree.Leads links here segments left reached) (last : LastLink)
    (goesOn : rest.all (· == "") = false) :
    tree.descend last links here (segments ++ rest) = tree.descend last left reached rest := by
  have notFinal (more : List String) : (more ++ rest).all (· == "") = false := by
    rw [List.all_append, goesOn, Bool.and_false]
  induction leads with
  | nil => rfl
  | silent unsaying _ inductionHypothesis =>
    rw [List.cons_append, descend_silent (speaks_eq_false.mp unsaying)]
    exact inductionHypothesis
  | parent _ inductionHypothesis =>
    rw [List.cons_append, descend_parent]
    exact inductionHypothesis
  | folder saying down short found _ inductionHypothesis =>
    rw [List.cons_append, descend_folder (not_silent saying) down short found, notFinal]
    exact inductionHypothesis
  | link saying down short found _ inductionHypothesis =>
    rw [List.cons_append, descend_link (not_silent saying) down short found (by simp [notFinal]),
      ← inductionHypothesis, List.append_assoc]

/-- A way to a folder comes out somewhere, and at the folder if a link at the end is followed. -/
theorem exists_destination (leads : tree.Leads links here segments left reached)
    {stamps : Stamps} {entries : List (String × Node)}
    (isFolder : tree.get? reached = some (.folder stamps entries)) (last : LastLink) :
    ∃ place node slash, tree.descend last links here segments = .ok ⟨place, some node, slash⟩ ∧
      (last = .follow → place = reached) := by
  induction leads with
  | nil => exact ⟨_, _, _, by rw [descend, isFolder], fun _ => rfl⟩
  | silent unsaying _ inductionHypothesis =>
    rw [descend_silent (speaks_eq_false.mp unsaying)]
    exact inductionHypothesis isFolder
  | parent _ inductionHypothesis =>
    rw [descend_parent]
    exact inductionHypothesis isFolder
  | folder saying down short found later inductionHypothesis =>
    rw [descend_folder (not_silent saying) down short found]
    split
    · rename_i final
      obtain ⟨-, rfl⟩ := unique later (of_silent (filter_speaks_of_final final))
      exact ⟨_, _, _, rfl, fun _ => rfl⟩
    · exact inductionHypothesis isFolder
  | @link _ _ _ _ _ _ rest saying down short found _ inductionHypothesis =>
    by_cases kept : (rest.all (· == "") && last == .keep) = true
    · refine ⟨_, _, _, descend_link_kept (not_silent saying) down short found kept,
        fun follows => ?_⟩
      simp [follows] at kept
    · rw [descend_link (not_silent saying) down short found kept]
      exact inductionHypothesis isFolder

end Leads

/-! ## Where segments come out -/

section

variable {last : LastLink} {destination : Destination} {rest : List String}

namespace ComesOut

/-- Segments where more follow come out at the end of a way through the first of them. -/
theorem exists_leads {links : Nat} {here : Place} {segments : List String}
    (comesOut : tree.ComesOut last links here (segments ++ rest) destination)
    (goesOn : rest.all (· == "") = false) :
    ∃ left reached, tree.Leads links here segments left reached ∧
      tree.ComesOut last left reached rest destination := by
  match segments with
  | [] => exact ⟨links, here, .nil, comesOut⟩
  | name :: more =>
    rw [List.cons_append] at comesOut
    cases comesOut with
    | silent unsaying later =>
      obtain ⟨left, reached, way, out⟩ := exists_leads later goesOn
      exact ⟨left, reached, .silent unsaying way, out⟩
    | parent later =>
      obtain ⟨left, reached, way, out⟩ := exists_leads later goesOn
      exact ⟨left, reached, .parent way, out⟩
    | final _ _ _ _ atEnd =>
      rw [List.all_append, goesOn, Bool.and_false] at atEnd
      cases atEnd
    | folder saying down short found _ later =>
      obtain ⟨left, reached, way, out⟩ := exists_leads later goesOn
      exact ⟨left, reached, .folder saying down short found way, out⟩
    | link saying down short found _ later =>
      rw [← List.append_assoc] at later
      obtain ⟨left, reached, way, out⟩ := exists_leads later goesOn
      exact ⟨left, reached, .link saying down short found way, out⟩
termination_by (links, segments.length)

/-- Segments come out at the end of a way, if a folder is there, or is there later. -/
theorem exists_leads_keeps (comesOut : tree.ComesOut last links here segments destination)
    (keeps : tree.Keeps later) {stamps : Stamps} {entries : List (String × Node)}
    (isFolder : later.get? destination.place = some (.folder stamps entries)) :
    ∃ left, later.Leads links here segments left destination.place := by
  induction comesOut with
  | nil => exact ⟨_, .nil⟩
  | silent unsaying _ inductionHypothesis =>
    obtain ⟨left, way⟩ := inductionHypothesis isFolder
    exact ⟨left, .silent unsaying way⟩
  | parent _ inductionHypothesis =>
    obtain ⟨left, way⟩ := inductionHypothesis isFolder
    exact ⟨left, .parent way⟩
  | final saying down short _ atEnd =>
    exact ⟨_, .folder saying down short isFolder (.of_silent (filter_speaks_of_final atEnd))⟩
  | folder saying down short found _ _ inductionHypothesis =>
    obtain ⟨left, way⟩ := inductionHypothesis isFolder
    obtain ⟨_, _, found'⟩ := keeps.folders _ _ _ found
    exact ⟨left, .folder saying down short found' way⟩
  | link saying down short found _ _ inductionHypothesis =>
    obtain ⟨left, way⟩ := inductionHypothesis isFolder
    exact ⟨left, .link saying down short (keeps.links _ _ found) way⟩

end ComesOut

end

end FileTree

end FileQuery
