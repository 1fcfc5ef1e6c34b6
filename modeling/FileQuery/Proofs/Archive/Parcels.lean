import FileQuery.Execution.Packing
import FileQuery.Proofs.FileTree.Substances
import FileQuery.Proofs.Path.Relative
import FileQuery.Proofs.Path.Steps
import Mathlib.Data.List.Nodup

/-!
# Parcels

What is packed is known by the names on the way down to it. In an archive these names have slashes
between them, and a slash at the end marks a folder. Names that a path can go down by, and that hold
neither a null character nor a backslash, are read back from an archive as they were.
-/

namespace FileQuery

/-- Segments with an empty one after them are joined to a text that ends in a slash. -/
theorem Path.joined_concat_nil {parts : List (List Char)} (some_parts : parts ≠ []) :
    joined (parts ++ [[]]) = joined parts ++ ['/'] := by
  induction parts with
  | nil => contradiction
  | cons first rest inductionHypothesis =>
    cases rest with
    | nil => simp [joined]
    | cons second more =>
      have later := inductionHypothesis (List.cons_ne_nil _ _)
      simp only [List.cons_append, joined] at later ⊢
      rw [later]
      simp

/-- Joined segments end with the last one. -/
theorem Path.joined_concat (front : List (List Char)) (last : List Char) :
    ∃ before, joined (front ++ [last]) = before ++ last := by
  induction front with
  | nil => exact ⟨[], rfl⟩
  | cons first rest inductionHypothesis =>
    obtain ⟨before, same⟩ := inductionHypothesis
    refine ⟨first ++ '/' :: before, ?_⟩
    rw [List.cons_append, joined, same]
    · simp
    · simp

/-- A character of joined segments is one of a segment, or a slash between two. -/
theorem Path.mem_joined {parts : List (List Char)} {c : Char} (among : c ∈ joined parts) :
    c = '/' ∨ ∃ part ∈ parts, c ∈ part := by
  induction parts with
  | nil => cases among
  | cons first rest inductionHypothesis =>
    cases rest with
    | nil => exact .inr ⟨first, List.mem_cons_self, among⟩
    | cons second more =>
      rw [joined, List.mem_append, List.mem_cons] at among
      · rcases among with among | rfl | among
        · exact .inr ⟨first, List.mem_cons_self, among⟩
        · exact .inl rfl
        · rcases inductionHypothesis among with slash | ⟨part, listed, among⟩
          · exact .inl slash
          · exact .inr ⟨part, List.mem_cons_of_mem _ listed, among⟩
      · simp

/-- A path of which the segments are names, and others that say nothing, has the names for its
    components. -/
theorem Path.components_of_segments {path : Path} {place : Place} {silent : List (List Char)}
    (some_names : place ≠ []) (areNames : ∀ name ∈ place, IsName name)
    (unsaying : silent.filterMap component? = [])
    (split : segments path.text.toList = place.map String.toList ++ silent) :
    path.components = place.map .name := by
  obtain ⟨first, rest, rfl⟩ := List.exists_cons_of_ne_nil some_names
  obtain ⟨isName, later⟩ := List.forall_mem_cons.mp areNames
  have relative : path.isAbsolute = false := by
    refine Bool.eq_false_iff.mpr fun absolute => isName.nonempty ?_
    simpa using first_of_isAbsolute absolute split
  have notHere : first.toList ≠ ['.'] := fun here =>
    isName.notHere (by simpa using congrArg String.ofList here)
  have named : (rest.map String.toList).filterMap component? = rest.map .name := by
    rw [List.filterMap_map, ← List.filterMap_eq_map]
    exact List.filterMap_congr fun name listed => component?_toList (later name listed)
  rw [components, pieces_of_segments split, relative]
  simp [notHere, component?_toList isName, unsaying, named]

/-- What is packed, under the names on the way down to it: a folder, or a file with its bytes. -/
abbrev Parcel := Place × Option (List UInt8)

/-- A name that goes through an archive as it is. -/
structure Portable (name : String) : Prop extends IsName name where
  noNull : '\x00' ∉ name.toList
  noBackslash : '\\' ∉ name.toList

/-- A name of a folder that gets a slash after it in an archive: a backslash at the end would do as
    well, and none is added then. -/
structure Markable (name : String) : Prop extends IsName name where
  unmarked : name.toList.getLast? ≠ some '\\'

theorem Portable.toMarkable {name : String} (portable : Portable name) : Markable name :=
  ⟨portable.toIsName, fun ends => portable.noBackslash (List.mem_of_getLast? ends)⟩

namespace Parcel

/-- What an archive holds for a parcel. -/
def member (parcel : Parcel) : Archive.Member :=
  ⟨String.intercalate "/" parcel.1 ++ (if parcel.2.isNone then "/" else ""), parcel.2⟩

/-- What is after the names of a parcel: an empty one after a folder. -/
def ending (content : Option (List UInt8)) : List (List Char) :=
  if content.isNone then [[]] else []

/-- What is there when a parcel has been unpacked. -/
def substance : Option (List UInt8) → Substance
  | none => .folder
  | some bytes => .file bytes

/-- Parcels that can be unpacked one after another when others have been: each has a name in a
    folder that was unpacked before, and no other parcel has been unpacked there. -/
def Follow (before : List Parcel) : List Parcel → Prop
  | [] => True
  | parcel :: rest =>
    (∃ front name, parcel.1 = front ++ [name] ∧ (front, none) ∈ before ∧
      parcel.1 ∉ before.map (·.1)) ∧ Follow (before ++ [parcel]) rest

/-- Parcels that follow others are at other places, each but once. -/
theorem Follow.nodup {before rest : List Parcel} (follow : Follow before rest)
    (once : (before.map (·.1)).Nodup) : ((before ++ rest).map (·.1)).Nodup := by
  induction rest generalizing before with
  | nil => simpa using once
  | cons parcel rest inductionHypothesis =>
    obtain ⟨⟨_, _, -, -, new⟩, follow'⟩ := follow
    have once' : ((before ++ [parcel]).map (·.1)).Nodup := by
      rw [List.map_append, List.map_singleton, ← List.concat_eq_append]
      exact List.Nodup.concat new once
    simpa using inductionHypothesis follow' once'

/-- Parcels that follow others have names. -/
theorem Follow.exists_concat {before rest : List Parcel} (follow : Follow before rest) :
    ∀ parcel ∈ rest, ∃ front name, parcel.1 = front ++ [name] := by
  induction rest generalizing before with
  | nil => simp
  | cons parcel rest inductionHypothesis =>
    obtain ⟨⟨front, name, same, -⟩, follow'⟩ := follow
    exact List.forall_mem_cons.mpr ⟨⟨front, name, same⟩, inductionHypothesis follow'⟩

/-- Parcels follow others if some of them do, and the rest follows when these have been unpacked. -/
theorem Follow.append {before first second : List Parcel} (follow : Follow before first)
    (follow' : Follow (before ++ first) second) :
    Follow before (first ++ second) := by
  induction first generalizing before with
  | nil => simpa using follow'
  | cons parcel first inductionHypothesis =>
    exact ⟨follow.1, inductionHypothesis follow.2 (by simpa using follow')⟩

/-- Parcels follow others when some are left out, if none of them is a folder. -/
theorem Follow.filter {before before' rest : List Parcel} (follow : Follow before rest)
    {chosen : Parcel → Bool}
    (folders : ∀ place, (place, none) ∈ before → (place, none) ∈ before')
    (places : ∀ parcel ∈ before', parcel ∈ before)
    (stay : ∀ place, (place, none) ∈ rest → chosen (place, none) = true) :
    Follow before' (rest.filter chosen) := by
  induction rest generalizing before before' with
  | nil => trivial
  | cons parcel rest inductionHypothesis =>
    obtain ⟨⟨front, name, same, above, new⟩, follow'⟩ := follow
    have stay' (place : Place) (listed : (place, none) ∈ rest) : chosen (place, none) = true :=
      stay place (List.mem_cons_of_mem _ listed)
    have new' : parcel.1 ∉ before'.map (·.1) := fun among =>
      new (List.map_subset _ places among)
    by_cases chosen_ : chosen parcel = true
    · rw [List.filter_cons_of_pos chosen_]
      refine ⟨⟨front, name, same, folders front above, new'⟩,
        inductionHypothesis follow' ?_ ?_ stay'⟩
      · intro place among
        rcases List.mem_append.mp among with among | among
        · exact List.mem_append_left _ (folders place among)
        · exact List.mem_append_right _ among
      · intro other among
        rcases List.mem_append.mp among with among | among
        · exact List.mem_append_left _ (places other among)
        · exact List.mem_append_right _ among
    · rw [List.filter_cons_of_neg chosen_]
      refine inductionHypothesis follow' ?_ ?_ stay'
      · intro place among
        rcases List.mem_append.mp among with among | among
        · exact folders place among
        · obtain rfl := List.mem_singleton.mp among
          exact absurd (stay place List.mem_cons_self) chosen_
      · exact fun other among => List.mem_append_left _ (places other among)

variable {place : Place} {content : Option (List UInt8)} {path : Path} {name : String}

/-- The characters of a member's name. -/
theorem toList_member (some_names : place ≠ []) (content : Option (List UInt8)) :
    (member (place, content)).name.toList =
      Path.joined (place.map String.toList ++ ending content) := by
  have spelled : (String.intercalate "/" place).toList =
      Path.joined (place.map String.toList) := by
    simp [Path.joined_eq_intercalate]
  cases content with
  | some bytes => simp [member, spelled, ending]
  | none =>
    have some_parts : place.map String.toList ≠ [] := by simpa using some_names
    simp [member, spelled, ending, Path.joined_concat_nil some_parts]

/-- The segments of a member's name are the names of the parcel and what is after them. -/
theorem segments_member (some_names : place ≠ []) (areNames : ∀ name ∈ place, IsName name)
    (content : Option (List UInt8)) :
    Path.segments (member (place, content)).name.toList =
      place.map String.toList ++ ending content := by
  rw [toList_member some_names]
  refine Path.segments_joined (by simp [some_names]) fun part listed => ?_
  rcases List.mem_append.mp listed with listed | listed
  · obtain ⟨name, among, rfl⟩ := List.mem_map.mp listed
    exact (areNames name among).unslashed
  · unfold ending at listed
    split at listed
    · simp [List.mem_singleton.mp listed]
    · cases listed

/-- The components of a member's name are the names of the parcel. -/
theorem components_member (some_names : place ≠ []) (areNames : ∀ name ∈ place, IsName name)
    (content : Option (List UInt8)) :
    (Path.mk (member (place, content)).name).components = place.map .name := by
  have silent : (ending content).filterMap Path.component? = [] := by
    unfold ending
    split <;> rfl
  exact Path.components_of_segments some_names areNames silent
    (segments_member some_names areNames content)

/-- Names are simple already. -/
theorem simplified_names (before place : List String) :
    Archive.Entry.simplified (place.map .name) before = some (before ++ place) := by
  induction place generalizing before with
  | nil => simp [Archive.Entry.simplified]
  | cons name rest inductionHypothesis =>
    rw [List.map_cons, Archive.Entry.simplified, inductionHypothesis, List.append_assoc,
      List.singleton_append]

/-- An entry under the name of a member leads down by the names of the parcel. -/
theorem names?_of_name {entry : Archive.Entry} (some_names : place ≠ [])
    (portable : ∀ name ∈ place, Portable name)
    (named : entry.name = (member (place, content)).name) : entry.names? = some place := by
  have areNames (name : String) (listed : name ∈ place) : IsName name :=
    (portable name listed).toIsName
  have noNull : entry.name.toList.contains '\x00' = false := by
    rw [named, toList_member some_names, List.contains_eq_mem, decide_eq_false_iff_not]
    intro among
    rcases Path.mem_joined among with slash | ⟨part, listed, among⟩
    · cases slash
    rcases List.mem_append.mp listed with listed | listed
    · obtain ⟨name, member, rfl⟩ := List.mem_map.mp listed
      exact (portable name member).noNull among
    · unfold ending at listed
      split at listed
      · rw [List.mem_singleton.mp listed] at among
        cases among
      · cases listed
  unfold Archive.Entry.names?
  rw [noNull, if_neg Bool.false_ne_true, named, components_member some_names areNames,
    simplified_names]
  rfl

/-- The name of a file's member ends in a slash of neither kind. -/
theorem exists_last_member (some_names : place ≠ []) (markable : ∀ name ∈ place, Markable name)
    (bytes : List UInt8) :
    ∃ last, (member (place, some bytes)).name.toList.getLast? = some last ∧ last ≠ '/' ∧
      last ≠ '\\' := by
  obtain ⟨front, name, rfl⟩ : ∃ front name, place = front ++ [name] :=
    ⟨_, _, (List.dropLast_concat_getLast some_names).symm⟩
  have isMarkable := markable name (by simp)
  have some_characters : name.toList ≠ [] := by simpa using isMarkable.nonempty
  have among := List.getLast_mem some_characters
  obtain ⟨before, same⟩ := Path.joined_concat (front.map String.toList) name.toList
  refine ⟨name.toList.getLast some_characters, ?_, fun slash => ?_, fun backslash => ?_⟩
  · rw [toList_member some_names]
    simp [ending, same, List.getLast?_append, List.getLast?_eq_some_getLast some_characters]
  · exact isMarkable.unslashed (slash ▸ among)
  · refine isMarkable.unmarked ?_
    rw [List.getLast?_eq_some_getLast some_characters, backslash]

/-- An entry under the name of a member is a folder if the parcel is one. -/
theorem isFolder_of_name {entry : Archive.Entry} (some_names : place ≠ [])
    (portable : ∀ name ∈ place, Portable name)
    (named : entry.name = (member (place, content)).name) :
    entry.isFolder = content.isNone := by
  unfold Archive.Entry.isFolder
  rw [named]
  cases content with
  | none =>
    have some_parts : place.map String.toList ≠ [] := by simpa using some_names
    simp [toList_member some_names, ending, Path.joined_concat_nil some_parts]
  | some bytes =>
    obtain ⟨last, ends, notSlash, notBackslash⟩ :=
      exists_last_member some_names (fun name listed => (portable name listed).toMarkable) bytes
    simp [ends, notSlash, notBackslash]

/-- A parcel is packed under the name of its member. -/
theorem memberName_child (directory : Path) (isName : IsName name) (place : Place) :
    Packing.memberName (directory.child name) place = String.intercalate "/" (name :: place) := by
  rw [Packing.memberName, Path.fileName?_child directory isName]
  rfl

/-- The name of a packed folder is that of its member. -/
theorem folderName_intercalate (some_names : place ≠ [])
    (markable : ∀ name ∈ place, Markable name) :
    Packing.folderName (String.intercalate "/" place) = (member (place, none)).name := by
  obtain ⟨last, ends, notSlash, notBackslash⟩ := exists_last_member some_names markable []
  have file : (member (place, some [])).name = String.intercalate "/" place := by simp [member]
  rw [file] at ends
  rw [Packing.folderName, ends]
  simp [notSlash, notBackslash, member]

end Parcel

end FileQuery
