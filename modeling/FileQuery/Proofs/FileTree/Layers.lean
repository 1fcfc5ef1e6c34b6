import FileQuery.Proofs.FileTree.NewFolders

/-!
# What is laid over a tree

Something is laid over what a tree holds when it is put at a place, in folders that are made where
they are missing, and in the place of what was there. To make folders, to write a file and to make a
link by an absolute path on whose way no link is lay a folder, a file or a link over the tree, or
else fail. They do not fail because something is missing: what would have to be there first is.
-/

namespace FileQuery

/-- What is held at each place. -/
abbrev Holdings := Place → Option Substance

namespace Holdings

variable {holdings : Holdings} {place other : Place} {thing : Option Substance}

/-- Something at a place, if anything, and folders on the way to it, over what was held. -/
def lay (holdings : Holdings) (place : Place) (thing : Option Substance) : Holdings := fun other =>
  if other = place then thing.or (holdings place)
  else if other <+: place then some .folder
  else holdings other

theorem lay_self : holdings.lay place thing place = thing.or (holdings place) := if_pos rfl

theorem lay_above (above : other <+: place) (differs : other ≠ place) :
    holdings.lay place thing other = some .folder := by
  rw [lay, if_neg differs, if_pos above]

theorem lay_elsewhere (elsewhere : ¬ other <+: place) :
    holdings.lay place thing other = holdings other := by
  have differs : other ≠ place := fun same => elsewhere (same ▸ List.prefix_refl _)
  rw [lay, if_neg differs, if_neg elsewhere]

/-- What is laid at a place later takes the place of what was laid there before. -/
theorem lay_again (first second : Substance) :
    (holdings.lay place (some first)).lay place (some second) =
      holdings.lay place (some second) := by
  funext other
  by_cases same : other = place
  · rw [same, lay_self, lay_self, lay_self, Option.some_or, Option.some_or]
  · by_cases above : other <+: place
    · rw [lay_above above same, lay_above above same]
    · rw [lay_elsewhere above, lay_elsewhere above, lay_elsewhere above]

/-- To lay something is to lay the folders on the way first. -/
theorem lay_lay_folders : (holdings.lay place none).lay place thing = holdings.lay place thing := by
  funext other
  by_cases same : other = place
  · rw [same, lay_self, lay_self, lay_self, Option.none_or]
  · by_cases above : other <+: place
    · rw [lay_above above same, lay_above above same]
    · rw [lay_elsewhere above, lay_elsewhere above, lay_elsewhere above]

/-- To lay something is to lay a folder on the way first. -/
theorem lay_lay_above {above : Place} (starts : above <+: place) (differs : above ≠ place) :
    (holdings.lay above (some .folder)).lay place thing = holdings.lay place thing := by
  funext other
  by_cases same : other = place
  · have beyond : ¬ place <+: above := fun starts' =>
      differs (starts.eq_of_length_le starts'.length_le)
    rw [same, lay_self, lay_self, lay_elsewhere beyond]
  · by_cases within : other <+: place
    · rw [lay_above within same, lay_above within same]
    · rw [lay_elsewhere within, lay_elsewhere within,
        lay_elsewhere fun starts' => within (starts'.trans starts)]

/-- Where there are folders on the way, something is laid at its place only. -/
theorem lay_eq_update (folders : ∀ above, above <+: place → above ≠ place →
      holdings above = some .folder) :
    holdings.lay place thing =
      fun other => if other = place then thing.or (holdings place) else holdings other := by
  funext other
  unfold lay
  split
  · rfl
  · rename_i differs
    split
    · rename_i above
      exact (folders other above differs).symm
    · rfl

end Holdings

namespace FileTree

variable {tree later : FileTree} {path : Path} {place whole front here : Place} {name : String}
  {last : LastLink} {links : Nat} {segments : List String} {node : Node} {bytes : List UInt8}

/-! ## Missing folders on the way -/

/-- Where no link is on the way, names lead to nothing only if something before the last one is
    missing. -/
theorem missing_of_descend (down : ".." ∉ segments)
    (clear : tree.Clear (here ++ segments.filter speaks))
    (fails : tree.descend last links here segments = .error .notFound) :
    ∃ front rest, segments = front ++ rest ∧ rest ≠ [] ∧
      tree.get? (here ++ front.filter speaks) = none := by
  induction segments generalizing here with
  | nil =>
    rw [descend] at fails
    cases fails
  | cons first rest inductionHypothesis =>
    have down' := List.not_mem_of_not_mem_cons down
    rw [descend] at fails
    split at fails
    · rename_i silent
      have unsaying : ¬ speaks first = true := by
        simp [speaks_eq_false.mpr silent]
      rw [List.filter_cons_of_neg unsaying] at clear
      obtain ⟨front, more, rfl, goesOn, free⟩ := inductionHypothesis down' clear fails
      exact ⟨first :: front, more, rfl, goesOn, by rwa [List.filter_cons_of_neg unsaying]⟩
    rename_i speaking
    have saying : speaks first = true := by
      simpa [speaks, not_or] using speaking
    rw [if_neg (Ne.symm (List.ne_of_not_mem_cons down))] at fails
    rw [List.filter_cons_of_pos saying, List.append_cons] at clear
    split at fails
    · cases fails
    dsimp only at fails
    split at fails
    · rename_i free
      split at fails
      · cases fails
      rename_i goesOn
      refine ⟨[first], rest, rfl, ?_, by rwa [List.filter_cons_of_pos saying]⟩
      rintro rfl
      exact goesOn rfl
    · split at fails
      · cases fails
      obtain ⟨front, more, rfl, goesOn, free⟩ := inductionHypothesis down' clear fails
      refine ⟨first :: front, more, rfl, goesOn, ?_⟩
      rwa [List.filter_cons_of_pos saying, List.append_cons]
    · split at fails <;> cases fails
    · rename_i target found
      exact absurd found (clear _ target (List.prefix_append _ _))

/-- An absolute path is not empty. -/
theorem text_ne_of_within (within : Path.top.Within path whole) : path.text ≠ "" := by
  intro empty
  have absolute := within.start
  rw [Path.isAbsolute, empty] at absolute
  cases absolute

/-- An absolute path on whose way no link is leads to its place, or it cannot be followed, but not
    because something on the way is missing. -/
structure Nears (tree : FileTree) (path : Path) (whole : Place) : Prop where
  within : Path.top.Within path whole
  clear : tree.Clear whole
  rootFolder : ∃ stamps entries, tree.get? [] = some (.folder stamps entries)
  passes : ∀ last, tree.resolve last path ≠ .error .notFound
  unslashed : ∀ last destination, tree.resolve last path = .ok destination →
    destination.node? = none → destination.slash = false

section

variable (within : Path.top.Within path whole)
  (rootFolder : ∃ stamps entries, tree.get? [] = some (.folder stamps entries))

include within rootFolder

/-- What is there already can be led to. -/
theorem nears_of_get? (found : tree.get? whole = some node)
    (notLink : ∀ target, node ≠ .link target) : tree.Nears path whole := by
  have clear := clear_of_get? found notLink
  refine ⟨within, clear, rootFolder, fun last fails => ?_, fun last destination leads free => ?_⟩
  · unfold resolve at fails
    split at fails
    · rename_i check
      obtain rfl := Except.error.inj fails
      exact text_ne_of_within within (eq_empty_of_checkPath check)
    · have steps := filter_names_of_within within
      rw [start_of_within within] at fails
      obtain ⟨front, rest, split_, -, free⟩ :=
        missing_of_descend (down_of_within within) (by rwa [steps]) fails
      have starts : front.filter speaks <+: whole := by
        rw [← steps, split_, List.filter_append]
        exact List.prefix_append _ _
      cases found.symm.trans (get?_eq_none_of_above free starts)
  · obtain ⟨same, -⟩ := place_of_resolve within clear rootFolder leads
    have there := resolve_node? leads
    rw [same, found, free] at there
    cases there

/-- What is in something that is there can be led to, or nothing is in it. -/
theorem nears_child (clear : tree.Clear (whole ++ [name])) (there : tree.get? whole ≠ none)
    (isName : IsName name) : tree.Nears (path.child name) (whole ++ [name]) := by
  obtain ⟨before, all, same⟩ := names_child path isName
  have within' := within.child isName
  have steps : before.filter speaks = whole := same.trans (filter_names_of_within within)
  have clear' := clear.mono (List.prefix_append whole [name])
  refine ⟨within', clear, rootFolder, fun last fails => ?_, fun last destination leads _ => ?_⟩
  · unfold resolve at fails
    split at fails
    · rename_i check
      obtain rfl := Except.error.inj fails
      exact text_ne_of_within within' (eq_empty_of_checkPath check)
    · have steps' := filter_names_of_within within'
      rw [start_of_within within'] at fails
      obtain ⟨front, rest, split_, goesOn, free⟩ :=
        missing_of_descend (down_of_within within') (by rwa [steps']) fails
      have starts : front <+: before := by
        rw [all] at split_
        obtain ⟨init, final, rfl⟩ : ∃ init final, rest = init ++ [final] :=
          ⟨_, _, (List.dropLast_concat_getLast goesOn).symm⟩
        rw [← List.append_assoc] at split_
        exact ⟨init, (List.append_inj' split_ rfl).1.symm⟩
      exact there (get?_eq_none_of_above free (steps ▸ starts.filter speaks))
  · have out := comesOut_of_resolve leads
    rw [all, start_of_within within'] at out
    have goesOn : [name].all (· == "") = false := by
      simp [isName.nonempty]
    obtain ⟨left, folder, way, comesOut⟩ := out.exists_leads goesOn
    have reaches : tree.Reaches path left folder := by
      rw [Reaches, start_of_within within]
      exact way.congr same.symm
    obtain rfl := eq_of_reaches within clear' reaches
    cases comesOut with
    | silent unsaying =>
      rw [speaks_of_isName isName] at unsaying
      cases unsaying
    | parent => exact absurd rfl isName.notParent
    | final => rfl
    | folder _ _ _ _ goesOn => cases goesOn
    | link _ _ _ found => exact absurd found (clear _ _ (List.prefix_refl _))

end

/-- Where a path leads that leads to its place. -/
theorem Nears.of_resolve (nears : tree.Nears path whole) {destination : Destination}
    (leads : tree.resolve last path = .ok destination) :
    destination.place = whole ∧ destination.node? = tree.get? whole ∧
      (tree.get? whole = none → destination.slash = false ∧ ∃ folder name stamps entries,
        whole = folder ++ [name] ∧ tree.get? folder = some (.folder stamps entries)) := by
  obtain ⟨same, inFolder⟩ := place_of_resolve nears.within nears.clear nears.rootFolder leads
  have there := resolve_node? leads
  rw [same] at there
  refine ⟨same, there, fun free => ?_⟩
  have nothing := there.trans free
  exact ⟨nears.unslashed _ _ leads nothing, inFolder nothing⟩

/-- Where nothing is found, a name in a folder is missing. -/
theorem Nears.exists_folder (nears : tree.Nears path whole)
    (missing : tree.findLink path = .error .notFound) : ∃ folder name stamps entries,
      whole = folder ++ [name] ∧ tree.get? folder = some (.folder stamps entries) := by
  unfold findLink locate at missing
  split at missing
  · rename_i fails
    obtain rfl := Except.error.inj missing
    exact absurd fails (nears.passes _)
  · rename_i leads
    obtain ⟨-, free, inFolder⟩ := nears.of_resolve leads
    exact (inFolder free.symm).2
  · split at missing <;> cases missing

/-- A folder that was laid over a tree is led to by the paths of its place. -/
theorem nears_of_laid {holdings : Holdings} (within : Path.top.Within path whole)
    (laid : tree.substance? = holdings.lay whole (some .folder)) : tree.Nears path whole := by
  have isFolder : tree.substance? whole = some .folder := by
    rw [laid, Holdings.lay_self]
    rfl
  have isFolder' : ∃ stamps entries, tree.get? whole = some (.folder stamps entries) :=
    substance?_eq_folder.mp isFolder
  have rootFolder := exists_folder_of_above List.nil_prefix isFolder'
  obtain ⟨_, _, found⟩ := isFolder'
  exact nears_of_get? within rootFolder found (by simp)

/-- Folders are on the way to what is there. -/
theorem folders_above (there : tree.get? place ≠ none) :
    ∀ above, above <+: place → above ≠ place → tree.substance? above = some .folder := by
  rintro above ⟨below, rfl⟩ differs
  obtain ⟨node, found⟩ := Option.ne_none_iff_exists'.mp there
  exact substance?_eq_folder.mpr (exists_folder_above found (by simpa using differs))

/-- Folders are on the way to what is in a folder, or is to be. -/
theorem folders_above_child
    (isFolder : ∃ stamps entries, tree.get? whole = some (.folder stamps entries)) :
    ∀ above, above <+: whole ++ [name] → above ≠ whole ++ [name] →
      tree.substance? above = some .folder := by
  intro above starts differs
  refine substance?_eq_folder.mpr ?_
  exact exists_folder_of_above ((List.prefix_concat_iff.mp starts).resolve_left differs) isFolder

/-- What is there already changes nothing when it is laid over the tree. -/
theorem lay_of_there {thing : Option Substance} (there : tree.get? place ≠ none)
    (same : thing.or (tree.substance? place) = tree.substance? place) :
    Holdings.lay tree.substance? place thing = tree.substance? := by
  rw [Holdings.lay_eq_update (folders_above there), same]
  funext other
  split
  · rename_i here
    rw [here]
  · rfl

/-- A folder that is there already changes nothing when it is laid over the tree. -/
theorem lay_folder_of_there
    (isFolder : ∃ stamps entries, tree.get? place = some (.folder stamps entries)) :
    Holdings.lay tree.substance? place (some .folder) = tree.substance? := by
  have held := substance?_eq_folder.mpr isFolder
  obtain ⟨_, _, found⟩ := isFolder
  exact lay_of_there (by simp [found]) (by rw [held]; rfl)

/-- What is put in a folder is laid over the tree. -/
theorem substance?_insert_eq_lay {made : Node} {folder : Place} {stamps : Stamps}
    {entries : List (String × Node)} (isFolder : tree.get? folder = some (.folder stamps entries))
    (free : tree.get? (folder ++ [name]) = none)
    (empty : ∀ next rest, made.get? (next :: rest) = none) :
    (tree.insert (folder ++ [name]) made).substance? =
      Holdings.lay tree.substance? (folder ++ [name]) (some made.substance) := by
  rw [Holdings.lay_eq_update (folders_above_child ⟨_, _, isFolder⟩)]
  funext other
  rw [substance?_insert isFolder free empty]
  rfl

end FileTree

/-! ## Changes that end well or miss something -/

namespace Changes

variable {ε δ α β : Type} {absent : ε} {tree : FileTree} {done : α → FileTree → Prop}
  {missing missing' : FileTree → Prop}

/-- Changes to a tree end with a result and a tree that go together, or with an error. If the error
    is that something is missing, the tree has another property. -/
structure Ends (absent : ε) (changes : Changes ε α) (tree : FileTree)
    (done : α → FileTree → Prop) (missing : FileTree → Prop) : Prop where
  done : ∀ value later, changes tree = (.ok value, later) → done value later
  missing : ∀ later, changes tree = (.error absent, later) → missing later

variable {changes : Changes ε α}

theorem Ends.mono (ends : changes.Ends absent tree done missing) {done' : α → FileTree → Prop}
    (done_ : ∀ value later, done value later → done' value later)
    (missing_ : ∀ later, missing later → missing' later) :
    changes.Ends absent tree done' missing' :=
  ⟨fun value later same => done_ value later (ends.done value later same),
    fun later same => missing_ later (ends.missing later same)⟩

/-- Changes that never miss anything have any property when they do. -/
theorem Ends.of_never (ends : changes.Ends absent tree done fun _ => False) :
    changes.Ends absent tree done missing := ends.mono (fun _ _ => id) fun _ => False.elim

theorem Ends.bind {next : α → Changes ε β} {final : β → FileTree → Prop}
    (ends : changes.Ends absent tree done missing)
    (goesOn : ∀ value later, done value later → (next value).Ends absent later final missing) :
    Changes.Ends absent (changes >>= next) tree final missing := by
  constructor
  · intro value later same
    obtain ⟨first, middle, same', same''⟩ := bind_apply_eq_ok_iff.mp same
    exact (goesOn first middle (ends.done _ _ same')).done _ _ same''
  · intro later same
    rw [bind_apply] at same
    rcases made : changes tree with ⟨error | value, changed⟩
    · rw [made] at same
      obtain ⟨same', rfl⟩ := Prod.mk.inj same
      obtain rfl := Except.error.inj same'
      exact ends.missing _ made
    · rw [made] at same
      exact (goesOn value changed (ends.done _ _ made)).missing _ same

theorem Ends.mapError (ends : changes.Ends absent tree done missing) {rename : ε → δ}
    (injective : Function.Injective rename) :
    (changes.mapError rename).Ends (rename absent) tree done missing := by
  obtain ⟨done_, missing_⟩ := ends
  constructor <;> unfold Changes.mapError
  · intro value later same
    rcases made : changes tree with ⟨error | value', changed⟩ <;> rw [made] at same
    · cases same
    · obtain ⟨same', rfl⟩ := Prod.mk.inj same
      obtain rfl := Except.ok.inj same'
      exact done_ _ _ made
  · intro later same
    rcases made : changes tree with ⟨error | value', changed⟩ <;> rw [made] at same
    · obtain ⟨same', rfl⟩ := Prod.mk.inj same
      obtain rfl := injective (Except.error.inj same')
      exact missing_ _ made
    · cases same

theorem Ends.congr (ends : changes.Ends absent tree done missing) {other : Changes ε α}
    (same : other tree = changes tree) : other.Ends absent tree done missing :=
  ⟨fun _ _ other_ => ends.done _ _ (same.symm.trans other_),
    fun _ other_ => ends.missing _ (same.symm.trans other_)⟩

theorem ends_of_ok {value : α} {later : FileTree} (made : changes tree = (.ok value, later))
    (holds : done value later) : changes.Ends absent tree done missing := by
  refine ⟨fun value' later' same => ?_, fun later' same => ?_⟩
  · obtain ⟨same', rfl⟩ := Prod.mk.inj (made.symm.trans same)
    obtain rfl := Except.ok.inj same'
    exact holds
  · cases made.symm.trans same

theorem ends_of_error {error : ε} {later : FileTree} (made : changes tree = (.error error, later))
    (present : error ≠ absent) : changes.Ends absent tree done missing := by
  refine ⟨fun value' later' same => ?_, fun later' same => ?_⟩
  · cases made.symm.trans same
  · exact absurd (Except.error.inj (Prod.mk.inj (made.symm.trans same)).1) present

theorem ends_look {see : FileTree → Except ε α}
    (sees : ∀ value, see tree = .ok value → done value tree) (present : see tree ≠ .error absent) :
    (look see).Ends absent tree done missing := by
  refine ⟨fun value later same => ?_, fun later same => ?_⟩
  · obtain ⟨same', rfl⟩ := Prod.mk.inj same
    exact sees value same'
  · exact absurd (Prod.mk.inj same).1 present

theorem ends_ofChange {change : FileTree → Except ε FileTree} {done : FileTree → Prop}
    (makes : ∀ later, change tree = .ok later → done later)
    (present : change tree = .error absent → missing tree) :
    (ofChange change).Ends absent tree (fun _ => done) missing := by
  constructor <;> unfold ofChange
  · intro _ later same
    cases made : change tree with
    | error error =>
      rw [made] at same
      cases same
    | ok changed =>
      rw [made] at same
      obtain ⟨-, rfl⟩ := Prod.mk.inj same
      exact makes _ made
  · intro later same
    cases made : change tree with
    | error error =>
      rw [made] at same
      obtain ⟨same', rfl⟩ := Prod.mk.inj same
      obtain rfl := Except.error.inj same'
      exact present made
    | ok changed =>
      rw [made] at same
      cases same

end Changes

/-! ## What is made at the end of a way -/

namespace FileTree

variable {tree : FileTree} {path : Path} {whole : Place} {bytes held : List UInt8}

/-- Other bytes in a file are laid over the tree. -/
theorem substance?_rewrite_eq_lay {stamps : Stamps} {executable : Bool} (executable' : Bool)
    (isFile : tree.get? whole = some (.file stamps executable held)) :
    (tree.rewrite whole executable' bytes).substance? =
      Holdings.lay tree.substance? whole (some (.file bytes)) := by
  rw [Holdings.lay_eq_update (folders_above (by simp [isFile]))]
  funext other
  exact substance?_rewrite executable' isFile other

section

variable {left : Nat} (reaches : tree.Reaches path left whole)
  (isFolder : ∃ stamps entries, tree.get? whole = some (.folder stamps entries))

include reaches isFolder

/-- A folder to which a path leads is not made again. -/
theorem ends_makeFolders_of_reaches :
    (makeFolders path).Ends .notFound tree (fun _ later => tree = later) fun _ => False := by
  have same := makeMissing_of_reaches reaches isFolder path.parents
  refine ⟨fun _ later made => ?_, fun later made => ?_⟩
  · rw [makeFolders] at made
    rw [made] at same
    exact same.symm
  · unfold makeFolders makeMissing at made
    split at made
    · cases made
    rename_i somewhere
    obtain ⟨error, fails, present⟩ := makeFolder_of_reaches reaches isFolder somewhere
    rw [fails] at made
    cases error <;> first | exact absurd rfl present | skip
    all_goals
      unfold unlessFolder at made
      have result := (Prod.mk.inj made).1
      split at result <;> cases result

/-- A folder to which a path leads is found by the path. -/
theorem ends_locate_of_reaches (some_text : path.text ≠ "") :
    (Changes.look fun tree => tree.locate .follow path).Ends .notFound tree
      (fun found later => found.1 = whole ∧ tree = later) fun _ => False := by
  obtain ⟨_, _, found⟩ := isFolder
  refine Changes.ends_look (fun result located => ?_) fun missing => ?_
  · obtain ⟨place, node⟩ := result
    obtain ⟨slash, leads, -⟩ := locate_eq_ok located
    exact ⟨(reaches.of_resolve found leads).2 rfl, rfl⟩
  · unfold locate at missing
    split at missing
    · rename_i leads
      obtain rfl := Except.error.inj missing
      obtain ⟨_, _, _, comesOut, -⟩ := Leads.exists_destination reaches found .follow
      unfold resolve at leads
      split at leads
      · rename_i check
        obtain rfl := Except.error.inj leads
        exact some_text (eq_empty_of_checkPath check)
      · cases comesOut.symm.trans leads
    · rename_i leads
      exact (reaches.of_resolve found leads).1 rfl
    · split at missing <;> cases missing

end

namespace Nears

variable (nears : tree.Nears path whole)

include nears

/-- A folder that is made is laid over the tree. -/
theorem makeFolder_lays {later : FileTree} (makes : tree.makeFolder path = .ok later) :
    later.substance? = Holdings.lay tree.substance? whole (some .folder) := by
  obtain ⟨place, slash, leads, rfl⟩ := makeFolder_eq_ok makes
  obtain ⟨rfl, free, inFolder⟩ := nears.of_resolve leads
  obtain ⟨-, folder, name, _, _, rfl, isFolder⟩ := inFolder free.symm
  exact substance?_insert_eq_lay isFolder free.symm fun _ _ => rfl

/-- Nothing that has to be there first is missing when a folder is made. -/
theorem makeFolder_ne_notFound : tree.makeFolder path ≠ .error .notFound := by
  unfold makeFolder
  split
  · rename_i fails
    rintro ⟨⟩
    exact nears.passes _ fails
  · simp
  · simp

/-- A folder that is found is at the end of the way. -/
theorem exists_of_isFolder (isFolder : tree.isFolder path = true) :
    ∃ stamps entries, tree.get? whole = some (.folder stamps entries) := by
  unfold FileTree.isFolder find at isFolder
  cases located : tree.locate .follow path with
  | error error =>
    rw [located] at isFolder
    cases isFolder
  | ok result =>
    obtain ⟨place, node⟩ := result
    rw [located] at isFolder
    obtain ⟨slash, leads, -⟩ := locate_eq_ok located
    obtain ⟨-, same, -⟩ := nears.of_resolve leads
    cases node with
    | folder => exact ⟨_, _, same.symm⟩
    | file | link => cases isFolder

/-- A folder is made, or is there. -/
theorem ends_makeFolders : (makeFolders path).Ends .notFound tree
    (fun _ later => later.substance? = Holdings.lay tree.substance? whole (some .folder))
    fun _ => False := by
  unfold makeFolders makeMissing
  by_cases somewhere : path.components = []
  · have steps := nears.within.steps
    rw [Path.steps_eq_nil somewhere] at steps
    have atRoot : whole = [] := (List.append_eq_nil_iff.mp steps.symm).2
    refine ⟨fun _ later same => ?_, fun later same => ?_⟩ <;> rw [if_pos somewhere] at same
    · obtain ⟨-, rfl⟩ := Prod.mk.inj same
      exact (lay_folder_of_there (atRoot ▸ nears.rootFolder)).symm
    · cases (Prod.mk.inj same).1
  refine ⟨fun _ later same => ?_, fun later same => ?_⟩ <;> rw [if_neg somewhere] at same
  · split at same
    · rename_i makes
      obtain ⟨-, rfl⟩ := Prod.mk.inj same
      exact nears.makeFolder_lays makes
    · rename_i fails
      exact absurd fails nears.makeFolder_ne_notFound
    · unfold unlessFolder at same
      obtain ⟨same', rfl⟩ := Prod.mk.inj same
      split at same'
      · rename_i isFolder
        exact (lay_folder_of_there (nears.exists_of_isFolder isFolder)).symm
      · cases same'
  · split at same
    · cases (Prod.mk.inj same).1
    · rename_i fails
      exact absurd fails nears.makeFolder_ne_notFound
    · rename_i fails
      unfold unlessFolder at same
      obtain ⟨same', rfl⟩ := Prod.mk.inj same
      split at same'
      · cases same'
      · obtain rfl := Except.error.inj same'
        exact absurd fails nears.makeFolder_ne_notFound

/-- A file is written. -/
theorem ends_write : (Changes.ofChange fun tree => tree.write path bytes).Ends .notFound tree
    (fun _ later => later.substance? = Holdings.lay tree.substance? whole (some (.file bytes)))
    fun _ => False := by
  refine Changes.ends_ofChange (fun later written => ?_) fun fails => ?_
  · unfold write at written
    split at written
    · cases written
    rename_i opened place opens
    obtain rfl := Except.ok.inj written
    obtain ⟨node?, slash, leads, made⟩ := truncate_eq_ok opens
    obtain ⟨rfl, there, inFolder⟩ := nears.of_resolve leads
    rcases made with ⟨rfl, rfl⟩ | ⟨stamps, executable, held, rfl, rfl⟩
    · obtain ⟨-, folder, name, _, _, rfl, isFolder⟩ := inFolder there.symm
      rw [substance?_rewrite_eq_lay _ (get?_insert_self _ isFolder),
        substance?_insert_eq_lay isFolder there.symm fun _ _ => rfl]
      exact Holdings.lay_again _ _
    · have opened : (tree.rewrite place executable []).get? place =
          some (.file (stamps.touched tree.now) executable []) := by
        rw [get?_rewrite_self, ← there]
        rfl
      rw [substance?_rewrite_eq_lay _ opened, substance?_rewrite_eq_lay _ there.symm]
      exact Holdings.lay_again _ _
  · unfold write truncate at fails
    split at fails
    · rename_i error opens
      obtain rfl := Except.error.inj fails
      split at opens
      · rename_i leads
        obtain rfl := Except.error.inj opens
        exact nears.passes _ leads
      · split at opens
        · cases opens
        · split at opens <;> cases opens
    · cases fails

/-- A link is made, unless it is to lead to nothing. -/
theorem ends_makeLink (target : String) :
    (Changes.ofChange fun tree => tree.makeLink path target).Ends .notFound tree
      (fun _ later => target ≠ "" ∧
        later.substance? = Holdings.lay tree.substance? whole (some (.link target)))
      fun later => target = "" ∧ later = tree := by
  refine Changes.ends_ofChange (fun later made => ?_) fun fails => ?_
  · unfold makeLink at made
    split at made
    · cases made
    · cases made
    · cases made
    rename_i check leads
    split at made
    · cases made
    obtain rfl := Except.ok.inj made
    obtain ⟨rfl, free, inFolder⟩ := nears.of_resolve leads
    obtain ⟨-, folder, name, _, _, rfl, isFolder⟩ := inFolder free.symm
    refine ⟨?_, substance?_insert_eq_lay isFolder free.symm fun _ _ => rfl⟩
    rintro rfl
    cases check
  · unfold makeLink at fails
    split at fails
    · rename_i check
      obtain rfl := Except.error.inj fails
      exact ⟨eq_empty_of_checkPath check, rfl⟩
    · rename_i leads
      obtain rfl := Except.error.inj fails
      exact absurd leads (nears.passes _)
    · cases fails
    · rename_i leads
      obtain ⟨-, free, inFolder⟩ := nears.of_resolve leads
      obtain ⟨unslashed, -⟩ := inFolder free.symm
      dsimp only at unslashed
      rw [unslashed, if_neg Bool.false_ne_true] at fails
      cases fails

/-- A file that is there gets a mode. -/
theorem ends_setExecutable (there : tree.get? whole ≠ none) (executable : Bool) :
    (Changes.ofChange fun tree => tree.setExecutable path executable).Ends .notFound tree
      (fun _ later => later.substance? = tree.substance?) fun _ => False := by
  refine Changes.ends_ofChange (fun later made => ?_) fun fails => ?_
  · unfold setExecutable at made
    split at made
    · cases made
    obtain rfl := Except.ok.inj made
    funext other
    exact substance?_setExecutable _ other executable
  · unfold setExecutable at fails
    split at fails
    · rename_i error located
      obtain rfl := Except.error.inj fails
      unfold locate at located
      split at located
      · rename_i leads
        obtain rfl := Except.error.inj located
        exact nears.passes _ leads
      · rename_i leads
        exact there (nears.of_resolve leads).2.1.symm
      · split at located <;> cases located
    · cases fails

end Nears

end FileTree

end FileQuery
