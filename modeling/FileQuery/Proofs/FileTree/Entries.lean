import FileQuery.FileTree.Change
import FileQuery.Proofs.FileTree.Descent
import FileQuery.Proofs.FileTree.Shells
import FileQuery.Proofs.Path.Steps

/-!
# Reading and writing in a folder

What comes of reading or writing a file by a path that ends with its name depends only on the path
and on the shell of what has the name in the folder, if no link has it. To write a file shows in the
file, and in the folder if the file is new, and nowhere else.
-/

namespace FileQuery.FileTree

/-- A path leads through folders and links to a folder, with so many links left. -/
def Reaches (tree : FileTree) (path : Path) (left : Nat) (folder : Place) : Prop :=
  tree.Leads linkLimit (start path.text tree.working) (names path.text) left folder

variable {tree later : FileTree} {base path : Path} {left : Nat} {folder : Place} {name : String}

theorem Reaches.keeps (reaches : tree.Reaches path left folder) (keeps : tree.Keeps later) :
    later.Reaches path left folder := by
  rw [Reaches, keeps.working]
  exact Leads.keeps reaches keeps

/-- Files, folders and links stay what they are when something is put where nothing was. -/
theorem keeps_insert {made : Node} (free : tree.get? (folder ++ [name]) = none)
    (empty : ∀ next rest, made.get? (next :: rest) = none) :
    tree.Keeps (tree.insert (folder ++ [name]) made) := by
  have shows {place : Place} {node : Node} (found : tree.get? place = some node) :
      (tree.insert (folder ++ [name]) made).shell? place = some (node.shell.touch tree.now) ∨
        (tree.insert (folder ++ [name]) made).shell? place = some node.shell := by
    have differs : place ≠ folder ++ [name] := by
      rintro rfl
      simp [free] at found
    by_cases same : place = folder
    · subst same
      rw [shell?_insert_folder, shell?, found]
      exact .inl rfl
    · rw [shell?_insert_other free empty same differs, shell?, found]
      exact .inr rfl
  refine ⟨by rw [insert_concat], ?_, ?_, ?_⟩
  · intro place stamps executable bytes found
    rcases shows found with same | same <;> exact ⟨_, _, _, get?_of_shell?_file same⟩
  · intro place stamps entries found
    rcases shows found with same | same <;> exact ⟨_, exists_folder_of_shell? same⟩
  · intro place target found
    rcases shows found with same | same <;> exact get?_of_shell?_link same

/-- Files, folders and links stay what they are when one of them is changed that stays what it
    is, and keeps its entries. -/
theorem keeps_edit {place : Place} {change : Node → Node}
    (files : ∀ stamps executable bytes, ∃ stamps' executable' bytes',
      change (.file stamps executable bytes) = .file stamps' executable' bytes')
    (folders : ∀ stamps entries, change (.folder stamps entries) = .folder stamps entries)
    (links : ∀ target, change (.link target) = .link target) :
    tree.Keeps (tree.edit place change) := by
  have alone (node : Node) (next : String) (rest : Place) :
      (change node).get? (next :: rest) = node.get? (next :: rest) := by
    cases node with
    | file stamps executable bytes =>
      obtain ⟨_, _, _, same⟩ := files stamps executable bytes
      rw [same]
      rfl
    | folder => rw [folders]
    | link => rw [links]
  have changed {node : Node} (found : tree.get? place = some node) :
      (tree.edit place change).get? place = some (change node) := by
    rw [get?, edit, Node.get?_modify_self, ← get?, found]
    rfl
  refine ⟨rfl, ?_, ?_, ?_⟩
  · intro other stamps executable bytes found
    by_cases same : other = place
    · subst same
      obtain ⟨_, _, _, becomes⟩ := files stamps executable bytes
      exact ⟨_, _, _, (changed found).trans (congrArg some becomes)⟩
    · exact ⟨_, _, _, get?_of_shell?_file ((shell?_edit_other alone same).trans
        (shell?_file found))⟩
  · intro other stamps entries found
    by_cases same : other = place
    · subst same
      exact ⟨_, _, (changed found).trans (congrArg some (folders stamps entries))⟩
    · exact ⟨_, exists_folder_of_shell? ((shell?_edit_other alone same).trans
        (shell?_folder found))⟩
  · intro other target found
    by_cases same : other = place
    · subst same
      exact (changed found).trans (congrArg some (links target))
    · exact get?_of_shell?_link ((shell?_edit_other alone same).trans (shell?_link found))

/-- Only the empty text is a path to nothing. -/
theorem eq_empty_of_checkPath {text : String} (check : checkPath text = .error .notFound) :
    text = "" := by
  unfold checkPath at check
  split at check
  · cases check
  split at check
  · assumption
  split at check <;> cases check

/-- A path that takes the same steps leads to the same folder. -/
theorem Reaches.within (reaches : tree.Reaches base left folder) (within : base.Within path []) :
    tree.Reaches path left folder := by
  rw [Reaches, within.start_eq]
  refine Leads.congr reaches ?_
  have steps := within.steps
  rwa [List.append_nil] at steps

/-- A path that leads to a folder comes out somewhere, and at the folder if a link at the end is
    followed. -/
theorem Reaches.of_resolve (reaches : tree.Reaches path left folder) {stamps : Stamps}
    {entries : List (String × Node)} (isFolder : tree.get? folder = some (.folder stamps entries))
    {last : LastLink} {destination : Destination}
    (leads : tree.resolve last path = .ok destination) :
    destination.node? ≠ none ∧ (last = .follow → destination.place = folder) := by
  obtain ⟨place, node, slash, comesOut, same⟩ := Leads.exists_destination reaches isFolder last
  unfold resolve at leads
  split at leads
  · contradiction
  · obtain rfl := Except.ok.inj (comesOut.symm.trans leads)
    exact ⟨by simp, same⟩

/-- A path that is followed by a name goes through the steps of the path to the name. -/
theorem names_child (base : Path) (isName : IsName name) :
    ∃ front, names (base.child name).text = front ++ [name] ∧
      front.filter speaks = (names base.text).filter speaks := by
  have alone : names name = [name] := by
    simp [names, Path.segments_of_unslashed isName.unslashed]
  by_cases empty : base.text.toList = []
  · have noText : base.text = "" := by simpa using empty
    have itself : base.child name = ⟨name⟩ := by
      simp [Path.child, Path.join, isName.relative, noText]
    refine ⟨[], by rw [itself, alone, List.nil_append], ?_⟩
    rw [noText]
    rfl
  · obtain ⟨before, text, ends⟩ := Path.join_text isName.relative empty
    refine ⟨(Path.segments before).map String.ofList, ?_, ?_⟩
    · rw [names, Path.child, text, Path.segments_append_slash, List.map_append]
      rw [names] at alone
      rw [alone]
    · rcases ends with ends | ends
      · rw [names, ends]
      · rw [names, ends, Path.segments_append_slash, List.map_append, List.filter_append]
        simp [Path.segments, speaks]

/-- What a path that ends with a name itself names has the name in the folder to which the path
    leads before it. -/
theorem exists_reaches_of_resolve (isName : IsName name) {destination : Destination}
    (leads : tree.resolve .keep (base.child name) = .ok destination) :
    ∃ left folder, tree.Reaches base left folder ∧ destination.place = folder ++ [name] := by
  obtain ⟨front, whole, same⟩ := names_child base isName
  have within := (Path.Within.refl base).child isName
  have goesOn : [name].all (· == "") = false := by
    simp [isName.nonempty]
  have out := comesOut_of_resolve leads
  rw [whole, within.start_eq] at out
  obtain ⟨left, folder, way, comesOut⟩ := out.exists_leads goesOn
  refine ⟨left, folder, Leads.congr way same.symm, ?_⟩
  cases comesOut with
  | silent unsaying =>
    rw [speaks_of_isName isName] at unsaying
    cases unsaying
  | parent => exact absurd rfl isName.notParent
  | final => rfl
  | folder _ _ _ _ goesOn => cases goesOn
  | link _ _ _ _ followed => cases followed rfl

/-- Why a path is no path to a name, if it is none. -/
def namingFault (path : Path) (name : String) : Option FileError :=
  match checkPath path.text with
  | .error error => some error
  | .ok () => if nameLimit < Text.byteLength name.toList then some .nameTooLong else none

/-- A path that ends with a name leads to what has the name in the folder, if no link has it that
    has to be followed. -/
theorem resolve_child (reaches : tree.Reaches base left folder) (isName : IsName name)
    (last : LastLink) (unlinked : namingFault (base.child name) name = none → last = .follow →
      ∀ target, tree.get? (folder ++ [name]) ≠ some (.link target)) :
    tree.resolve last (base.child name) =
      match namingFault (base.child name) name with
      | some error => .error error
      | none => .ok ⟨folder ++ [name], tree.get? (folder ++ [name]), false⟩ := by
  obtain ⟨front, whole, same⟩ := names_child base isName
  have within := (Path.Within.refl base).child isName
  have leads := Leads.congr reaches same
  have notFinal : [name].all (· == "") = false := by
    simp [isName.nonempty]
  unfold resolve namingFault
  unfold namingFault at unlinked
  revert unlinked
  cases checkPath (base.child name).text with
  | error error => exact fun _ => rfl
  | ok _ =>
    intro unlinked
    dsimp only at unlinked ⊢
    rw [within.start_eq, whole, leads.descend_append last notFinal, descend,
      if_neg (not_or.mpr ⟨isName.nonempty, isName.notHere⟩), if_neg isName.notParent]
    split
    · rfl
    · rename_i short
      rw [if_neg short] at unlinked
      dsimp only
      cases found : tree.get? (folder ++ [name]) with
      | none => rfl
      | some node =>
        cases node with
        | file | folder => rfl
        | link target =>
          cases last with
          | keep => rfl
          | follow => exact absurd found (unlinked rfl rfl target)

/-- What comes of reading a file, by its shell. -/
def readShell : Option Node → Except FileError (List UInt8)
  | none => .error .notFound
  | some (.file _ _ bytes) => .ok bytes
  | some (.folder ..) => .error .isFolder
  | some (.link _) => .error .tooManyLinks

/-- What comes of reading a file by a path that ends with its name. -/
theorem read_child (reaches : tree.Reaches base left folder) (isName : IsName name)
    (unlinked : ∀ target, tree.get? (folder ++ [name]) ≠ some (.link target)) :
    tree.read (base.child name) =
      match namingFault (base.child name) name with
      | some error => .error error
      | none => readShell (tree.shell? (folder ++ [name])) := by
  rw [read, find, locate, resolve_child reaches isName .follow fun _ _ => unlinked, shell?]
  cases namingFault (base.child name) name with
  | some error => rfl
  | none =>
    cases found : tree.get? (folder ++ [name]) with
    | none => rfl
    | some node =>
      cases node with
      | file | folder => rfl
      | link target => exact absurd found (unlinked target)

/-! ## Writing -/

/-- A tree with bytes in the file at a place, which is made if nothing is there. -/
def deposit (tree : FileTree) (place : Place) (bytes : List UInt8) : FileTree :=
  match tree.get? place with
  | none => (tree.insert place (.file (.ofInstant tree.now) false [])).rewrite place false bytes
  | some (.file _ executable _) =>
    (tree.rewrite place executable []).rewrite place executable bytes
  | some (.folder ..) | some (.link _) => tree

/-- The file that comes of writing bytes at a place, if a file can be there. -/
def written? (tree : FileTree) (place : Place) (bytes : List UInt8) : Option Node :=
  match tree.shell? place with
  | none => some (.file (.ofInstant tree.now) false bytes)
  | some (.file stamps executable _) =>
    some (.file (stamps.touched tree.now) executable bytes)
  | some (.folder ..) | some (.link _) => none

/-- Why no file can be written at a place, by the shell of what is there. -/
def writeFault : Option Node → Option FileError
  | none | some (.file ..) => none
  | some (.folder ..) => some .isFolder
  | some (.link _) => some .tooManyLinks

/-- What comes of writing a file by a path that ends with its name. -/
theorem write_child (reaches : tree.Reaches base left folder) (isName : IsName name)
    {stamps : Stamps} {entries : List (String × Node)}
    (isFolder : tree.get? folder = some (.folder stamps entries))
    (unlinked : namingFault (base.child name) name = none →
      ∀ target, tree.get? (folder ++ [name]) ≠ some (.link target))
    (bytes : List UInt8) :
    tree.write (base.child name) bytes =
      match (namingFault (base.child name) name).or
        (writeFault (tree.shell? (folder ++ [name]))) with
      | some error => .error error
      | none => .ok (tree.deposit (folder ++ [name]) bytes) := by
  rw [write, truncate, resolve_child reaches isName .follow fun fault _ => unlinked fault, shell?]
  cases fault : namingFault (base.child name) name with
  | some error => rfl
  | none =>
    cases found : tree.get? (folder ++ [name]) with
    | none =>
      have made : (tree.insert (folder ++ [name])
          (.file (.ofInstant tree.now) false [])).isExecutable (folder ++ [name]) = false := by
        rw [isExecutable, get?_insert_self _ isFolder]
      simp [deposit, found, made, writeFault]
    | some node =>
      cases node with
      | file stamps executable held =>
        have stays : (tree.rewrite (folder ++ [name]) executable []).isExecutable
            (folder ++ [name]) = executable := by
          rw [isExecutable, get?_rewrite_self, found]
          rfl
        simp [deposit, found, stays, writeFault, Node.shell]
      | folder => rfl
      | link target => exact absurd found (unlinked fault target)

section

variable {place other : Place} {bytes : List UInt8} {stamps : Stamps}
  {entries : List (String × Node)}

@[simp] theorem now_insert (tree : FileTree) (place : Place) (made : Node) :
    (tree.insert place made).now = tree.now := by
  unfold insert
  split <;> rfl

@[simp] theorem now_rewrite (tree : FileTree) (place : Place) (executable : Bool)
    (bytes : List UInt8) : (tree.rewrite place executable bytes).now = tree.now := rfl

theorem now_deposit (tree : FileTree) (place : Place) (bytes : List UInt8) :
    (tree.deposit place bytes).now = tree.now := by
  unfold deposit
  split <;> simp

theorem working_deposit (tree : FileTree) (place : Place) (bytes : List UInt8) :
    (tree.deposit place bytes).working = tree.working := by
  unfold deposit
  split
  · unfold insert
    split <;> rfl
  · rfl
  · rfl
  · rfl

/-- The file that was written is there. -/
theorem get?_deposit_self {made : Node}
    (isFolder : tree.get? folder = some (.folder stamps entries))
    (writes : tree.written? (folder ++ [name]) bytes = some made) :
    (tree.deposit (folder ++ [name]) bytes).get? (folder ++ [name]) = some made := by
  rw [written?, shell?] at writes
  rw [deposit]
  cases found : tree.get? (folder ++ [name]) with
  | none =>
    rw [found] at writes
    dsimp only
    rw [get?_rewrite_self, get?_insert_self _ isFolder, ← writes]
    simp [Node.rewrite, Stamps.touched, Stamps.ofInstant]
  | some node =>
    rw [found] at writes
    cases node with
    | file stamps executable held =>
      dsimp only
      rw [get?_rewrite_self, get?_rewrite_self, found, ← writes]
      rfl
    | folder | link => contradiction

/-- A folder in which a file was written was touched if the file is new. -/
theorem shell?_deposit_folder (tree : FileTree) (folder : Place) (name : String)
    (bytes : List UInt8) :
    (tree.deposit (folder ++ [name]) bytes).shell? folder =
      if tree.shell? (folder ++ [name]) = none then
        (tree.shell? folder).map (.touch tree.now)
      else tree.shell? folder := by
  have differs : folder ≠ folder ++ [name] := by simp
  rw [deposit]
  cases found : tree.get? (folder ++ [name]) with
  | none =>
    have free : tree.shell? (folder ++ [name]) = none := by
      rw [shell?, found]
      rfl
    rw [if_pos free]
    exact (shell?_rewrite_other _ _ differs).trans (shell?_insert_folder _)
  | some node =>
    have taken : ¬ tree.shell? (folder ++ [name]) = none := by
      simp [shell?, found]
    rw [if_neg taken]
    cases node with
    | file stamps executable held =>
      dsimp only
      exact (shell?_rewrite_other _ _ differs).trans (shell?_rewrite_other _ _ differs)
    | folder | link => rfl

/-- To write a file shows nowhere but in the file and its folder. -/
theorem shell?_deposit_other (notFolder : other ≠ folder) (differs : other ≠ folder ++ [name]) :
    (tree.deposit (folder ++ [name]) bytes).shell? other = tree.shell? other := by
  rw [deposit]
  cases found : tree.get? (folder ++ [name]) with
  | none =>
    refine (shell?_rewrite_other _ _ differs).trans ?_
    exact shell?_insert_other found (fun _ _ => rfl) notFolder differs
  | some node =>
    cases node with
    | file stamps executable held =>
      exact (shell?_rewrite_other _ _ differs).trans (shell?_rewrite_other _ _ differs)
    | folder | link => rfl

end

end FileQuery.FileTree

/-!
## Files that are written into a folder

After files were written into a folder, one after another, each file holds what was written last
to its name. The folder was touched if one of the files was new. All else is as it was, so paths
lead where they led.
-/

namespace FileQuery.FileTree

variable {tree later : FileTree} {place folder : Place} {name : String} {bytes : List UInt8}
  {stamps : Stamps} {entries : List (String × Node)} {log : List (String × List UInt8)}

/-! ### What is written -/

/-- A file can be written where nothing or a file is, and comes out the same whenever that is. -/
theorem exists_written? (fits : writeFault (tree.shell? place) = none) (bytes : List UInt8) :
    ∃ stamps executable, tree.written? place bytes = some (.file stamps executable bytes) := by
  unfold written?
  cases shows : tree.shell? place with
  | none => exact ⟨_, _, rfl⟩
  | some node =>
    cases node with
    | file => exact ⟨_, _, rfl⟩
    | folder | link =>
      rw [shows] at fits
      contradiction

theorem written?_congr (now : later.now = tree.now)
    (same : later.shell? place = tree.shell? place) :
    later.written? place bytes = tree.written? place bytes := by
  rw [written?, written?, same, now]

/-- What was written before does not matter for what is written then. -/
theorem written?_again {before : List UInt8} (now : later.now = tree.now)
    (fits : writeFault (tree.shell? place) = none)
    (written : later.shell? place = tree.written? place before) :
    later.written? place bytes = tree.written? place bytes := by
  unfold written? at *
  rw [written, now]
  cases shows : tree.shell? place with
  | none => rfl
  | some node =>
    cases node with
    | file => rfl
    | folder | link =>
      rw [shows] at fits
      contradiction

theorem shell?_deposit_self (isFolder : tree.get? folder = some (.folder stamps entries))
    (fits : writeFault (tree.shell? (folder ++ [name])) = none) :
    (tree.deposit (folder ++ [name]) bytes).shell? (folder ++ [name]) =
      tree.written? (folder ++ [name]) bytes := by
  obtain ⟨stamps', executable, writes⟩ := exists_written? fits bytes
  rw [shell?, get?_deposit_self isFolder writes, writes]
  rfl

/-! ### After files were written -/

/-- Whether a file that was written is new. -/
def MakesNew (tree : FileTree) (folder : Place) (log : List (String × List UInt8)) : Prop :=
  ∃ name bytes, log.lookup name = some bytes ∧ tree.shell? (folder ++ [name]) = none

theorem lookup_cons_other {other : String} (differs : other ≠ name) :
    ((name, bytes) :: log).lookup other = log.lookup other := by
  rw [List.lookup_cons, beq_false_of_ne differs]

/-- One of the files is new if the last one is, or if one was new before. -/
theorem makesNew_cons : tree.MakesNew folder ((name, bytes) :: log) ↔
    tree.shell? (folder ++ [name]) = none ∨ tree.MakesNew folder log := by
  constructor
  · rintro ⟨other, bytes', wrote, isNew⟩
    by_cases same : other = name
    · exact .inl (same ▸ isNew)
    · exact .inr ⟨other, bytes', (lookup_cons_other same).symm.trans wrote, isNew⟩
  · rintro (isNew | ⟨other, bytes', wrote, isNew⟩)
    · exact ⟨name, bytes, List.lookup_cons_self, isNew⟩
    · by_cases same : other = name
      · exact ⟨name, bytes, List.lookup_cons_self, same ▸ isNew⟩
      · exact ⟨other, bytes', (lookup_cons_other same).trans wrote, isNew⟩

/-- A tree after files of the names were written into a folder, the last one first. -/
structure After (tree : FileTree) (folder : Place) (log : List (String × List UInt8))
    (later : FileTree) : Prop where
  working : later.working = tree.working
  now : later.now = tree.now
  fits : ∀ name bytes, log.lookup name = some bytes →
    writeFault (tree.shell? (folder ++ [name])) = none
  written : ∀ name bytes, log.lookup name = some bytes →
    later.shell? (folder ++ [name]) = tree.written? (folder ++ [name]) bytes
  unwritten : ∀ name, log.lookup name = none →
    later.shell? (folder ++ [name]) = tree.shell? (folder ++ [name])
  touched : tree.MakesNew folder log →
    later.shell? folder = (tree.shell? folder).map (.touch tree.now)
  untouched : ¬ tree.MakesNew folder log → later.shell? folder = tree.shell? folder
  elsewhere : ∀ other, other ≠ folder → (∀ name, other ≠ folder ++ [name]) →
    later.shell? other = tree.shell? other

/-- A tree is itself after nothing was written. -/
theorem After.start (tree : FileTree) (folder : Place) : tree.After folder [] tree where
  working := rfl
  now := rfl
  fits := by simp
  written := by simp
  unwritten := fun _ _ => rfl
  touched := by simp [MakesNew]
  untouched := fun _ => rfl
  elsewhere := fun _ _ _ => rfl

namespace After

/-- The folder is a folder still. -/
theorem isFolder (after : tree.After folder log later)
    (isFolder : tree.get? folder = some (.folder stamps entries)) :
    ∃ stamps' entries', later.get? folder = some (.folder stamps' entries') := by
  by_cases some_new : tree.MakesNew folder log
  · have shows := after.touched some_new
    rw [shell?_folder isFolder] at shows
    exact ⟨_, exists_folder_of_shell? shows⟩
  · have shows := (after.untouched some_new).trans (shell?_folder isFolder)
    exact ⟨_, exists_folder_of_shell? shows⟩

/-- Where a folder or a link was, what it shows is what it showed, but for the folder itself. -/
theorem shell?_kept (after : tree.After folder log later) {other : Place} (differs : other ≠ folder)
    (blocks : writeFault (tree.shell? other) ≠ none) : later.shell? other = tree.shell? other := by
  by_cases inside : ∃ name, other = folder ++ [name]
  · obtain ⟨name, rfl⟩ := inside
    cases wrote : log.lookup name with
    | none => exact after.unwritten name wrote
    | some bytes => exact absurd (after.fits name bytes wrote) blocks
  · exact after.elsewhere other differs fun name same => inside ⟨name, same⟩

/-- Files and folders stay what they are, and links stay the same. -/
theorem keeps (after : tree.After folder log later)
    (isFolder : tree.get? folder = some (.folder stamps entries)) : tree.Keeps later where
  working := after.working
  files := by
    intro place stamps' executable bytes found
    have shows := shell?_file found
    have differs : place ≠ folder := by
      rintro rfl
      simp [isFolder] at found
    by_cases inside : ∃ name, place = folder ++ [name]
    · obtain ⟨name, rfl⟩ := inside
      cases wrote : log.lookup name with
      | none => exact ⟨_, _, _, get?_of_shell?_file ((after.unwritten name wrote).trans shows)⟩
      | some content =>
        obtain ⟨_, _, writes⟩ := exists_written? (after.fits name content wrote) content
        exact ⟨_, _, _, get?_of_shell?_file ((after.written name content wrote).trans writes)⟩
    · have outside (name : String) (same : place = folder ++ [name]) : False := inside ⟨name, same⟩
      exact ⟨_, _, _, get?_of_shell?_file ((after.elsewhere place differs outside).trans shows)⟩
  folders := by
    intro place stamps' entries' found
    by_cases same : place = folder
    · rw [same]
      exact after.isFolder isFolder
    · have shows := shell?_folder found
      have kept := after.shell?_kept same (by simp [shows, writeFault])
      exact ⟨_, exists_folder_of_shell? (kept.trans shows)⟩
  links := by
    intro place target found
    have differs : place ≠ folder := by
      rintro rfl
      simp [isFolder] at found
    have shows := shell?_link found
    have kept := after.shell?_kept differs (by simp [shows, writeFault])
    exact get?_of_shell?_link (kept.trans shows)

/-- What is written next depends only on the tree before anything was written. -/
theorem written?_eq (after : tree.After folder log later)
    (fits : writeFault (tree.shell? (folder ++ [name])) = none) :
    later.written? (folder ++ [name]) bytes = tree.written? (folder ++ [name]) bytes := by
  cases wrote : log.lookup name with
  | none => exact written?_congr after.now (after.unwritten name wrote)
  | some before => exact written?_again after.now fits (after.written name before wrote)

/-- Whether a file can be written depends only on the tree before anything was written. -/
theorem writeFault_eq (after : tree.After folder log later) (name : String) :
    writeFault (later.shell? (folder ++ [name])) =
      writeFault (tree.shell? (folder ++ [name])) := by
  cases wrote : log.lookup name with
  | none => rw [after.unwritten name wrote]
  | some bytes =>
    have fits := after.fits name bytes wrote
    obtain ⟨stamps, executable, writes⟩ := exists_written? fits bytes
    rw [after.written name bytes wrote, writes, fits]
    rfl

/-- Nothing is at a name exactly if nothing was and nothing was written. -/
theorem shell?_eq_none_iff (after : tree.After folder log later) :
    later.shell? (folder ++ [name]) = none ↔
      log.lookup name = none ∧ tree.shell? (folder ++ [name]) = none := by
  cases wrote : log.lookup name with
  | none => simp [after.unwritten name wrote]
  | some bytes =>
    obtain ⟨stamps, executable, writes⟩ := exists_written? (after.fits name bytes wrote) bytes
    simp [after.written name bytes wrote, writes]

/-- One more file is written. -/
theorem deposit (after : tree.After folder log later)
    (isFolder : tree.get? folder = some (.folder stamps entries))
    (fits : writeFault (tree.shell? (folder ++ [name])) = none) (bytes : List UInt8) :
    tree.After folder ((name, bytes) :: log) (later.deposit (folder ++ [name]) bytes) := by
  obtain ⟨stamps', entries', isFolder'⟩ := after.isFolder isFolder
  have fits' : writeFault (later.shell? (folder ++ [name])) = none :=
    (after.writeFault_eq name).trans fits
  have elsewhere (other : Place) (notFolder : other ≠ folder) (differs : other ≠ folder ++ [name]) :
      (later.deposit (folder ++ [name]) bytes).shell? other = later.shell? other :=
    shell?_deposit_other notFolder differs
  have folder_shell := shell?_deposit_folder later folder name bytes
  refine ⟨(working_deposit _ _ _).trans after.working, (now_deposit _ _ _).trans after.now,
    ?_, ?_, ?_, ?_, ?_, ?_⟩
  · intro other bytes' wrote
    by_cases same : other = name
    · rw [same]
      exact fits
    · exact after.fits other bytes' ((lookup_cons_other same).symm.trans wrote)
  · intro other bytes' wrote
    by_cases same : other = name
    · subst same
      rw [List.lookup_cons_self] at wrote
      obtain rfl := Option.some.inj wrote
      rw [shell?_deposit_self isFolder' fits', after.written?_eq fits]
    · rw [elsewhere _ (by simp) (by simpa using same)]
      exact after.written other bytes' ((lookup_cons_other same).symm.trans wrote)
  · intro other nothing
    by_cases same : other = name
    · subst same
      simp at nothing
    · rw [elsewhere _ (by simp) (by simpa using same)]
      exact after.unwritten other ((lookup_cons_other same).symm.trans nothing)
  · intro makesNew
    by_cases some_new : tree.MakesNew folder log
    · have touched := after.touched some_new
      rw [folder_shell, touched, after.now]
      split
      · rw [Option.map_map]
        congr 1
        funext node
        exact node.touch_touch tree.now
      · rfl
    · have isNew := (makesNew_cons.mp makesNew).resolve_right some_new
      have nothing : log.lookup name = none := by
        refine Option.eq_none_iff_forall_not_mem.mpr fun before wrote => some_new ?_
        exact ⟨name, before, wrote, isNew⟩
      have free := after.shell?_eq_none_iff.mpr ⟨nothing, isNew⟩
      rw [folder_shell, if_pos free, after.untouched some_new, after.now]
  · intro none_new
    obtain ⟨notNew, none_before⟩ := not_or.mp (mt makesNew_cons.mpr none_new)
    have taken : later.shell? (folder ++ [name]) ≠ none := fun free =>
      notNew (after.shell?_eq_none_iff.mp free).2
    rw [folder_shell, if_neg taken]
    exact after.untouched none_before
  · intro other notFolder outside
    rw [elsewhere other notFolder (outside name)]
    exact after.elsewhere other notFolder outside

/-- Two trees are alike after the same was written last to each name. -/
theorem alike (after : tree.After folder log later) {log' : List (String × List UInt8)}
    {later' : FileTree} (after' : tree.After folder log' later')
    (same : ∀ name, log'.lookup name = log.lookup name) : later.Alike later' := by
  have new_iff : tree.MakesNew folder log' ↔ tree.MakesNew folder log := by
    simp only [MakesNew, same]
  refine ⟨after'.working.trans after.working.symm, after'.now.trans after.now.symm, fun place => ?_⟩
  by_cases isFolder : place = folder
  · subst isFolder
    by_cases some_new : tree.MakesNew place log
    · rw [after'.touched (new_iff.mpr some_new), after.touched some_new]
    · rw [after'.untouched (mt new_iff.mp some_new), after.untouched some_new]
  by_cases inside : ∃ name, place = folder ++ [name]
  · obtain ⟨name, rfl⟩ := inside
    cases wrote : log.lookup name with
    | none => rw [after'.unwritten name ((same name).trans wrote), after.unwritten name wrote]
    | some bytes =>
      rw [after'.written name bytes ((same name).trans wrote), after.written name bytes wrote]
  · have outside (name : String) (inFolder : place = folder ++ [name]) : False :=
      inside ⟨name, inFolder⟩
    rw [after'.elsewhere place isFolder outside, after.elsewhere place isFolder outside]

end After

end FileQuery.FileTree
