import FileQuery.FileTree.Node
import FileQuery.Proofs.FileTree.Contents
import FileQuery.Proofs.FileTree.Plain
import FileQuery.Proofs.FileTree.Shells
import Mathlib.Data.List.Nodup
import Mathlib.Data.List.Perm.Basic

/-!
# What a walk comes by

A walk comes by everything below a node, each thing once, and by each folder before the entries in
it. In the order of the names it comes by the same, since a folder has the same entries in any
order.
-/

namespace FileQuery.Node

variable {allowed : String → Prop} {node found child : Node} {place other rest : Place}
  {name : String} {entries entries' : List (String × Node)} {stamps : Stamps}

/-! ## Sorted folders -/

/-- Entries in another order are found under the same names. -/
theorem lookup_perm (same : entries.Perm entries') (distinct : (entries.map (·.1)).Nodup)
    (name : String) : entries'.lookup name = entries.lookup name := by
  have distinct' : (entries'.map (·.1)).Nodup := (same.map _).nodup_iff.mp distinct
  cases found : entries.lookup name with
  | some node => exact lookup_of_mem distinct' (same.mem_iff.mp (mem_of_lookup found))
  | none =>
    rw [List.lookup_eq_none_iff] at found ⊢
    exact fun entry listed => found entry (same.mem_iff.mpr listed)

theorem lookup_sortedEntries (name : String) (entries : List (String × Node)) :
    (sortedEntries entries).lookup name = (entries.lookup name).map sorted := by
  induction entries with
  | nil => rfl
  | cons entry rest inductionHypothesis =>
    obtain ⟨first, node⟩ := entry
    rw [sortedEntries, List.lookup_cons, List.lookup_cons, inductionHypothesis]
    cases name == first <;> rfl

theorem map_sortedEntries (entries : List (String × Node)) :
    (sortedEntries entries).map (·.1) = entries.map (·.1) := by
  induction entries with
  | nil => rfl
  | cons entry rest inductionHypothesis =>
    rw [sortedEntries, List.map_cons, inductionHypothesis]
    rfl

/-- A sorted folder has the same names. -/
theorem perm_sorted (entries : List (String × Node)) :
    (((sortedEntries entries).mergeSort namedBefore).map (·.1)).Perm (entries.map (·.1)) := by
  rw [← map_sortedEntries entries]
  exact (List.mergeSort_perm _ _).map _

theorem lookup_sorted (distinct : (entries.map (·.1)).Nodup) (name : String) :
    ((sortedEntries entries).mergeSort namedBefore).lookup name =
      (entries.lookup name).map sorted := by
  rw [lookup_perm (List.mergeSort_perm _ _).symm (by rwa [map_sortedEntries]),
    lookup_sortedEntries]

/-- At each place below a sorted node is what was there, sorted. -/
theorem get?_sorted (throughout : node.Throughout allowed) (place : Place) :
    node.sorted.get? place = (node.get? place).map sorted := by
  induction place generalizing node with
  | nil => rfl
  | cons name rest inductionHypothesis =>
    cases node with
    | file | link => rfl
    | folder stamps entries =>
      have orderly : Orderly allowed (folder stamps entries) := throughout [] _ rfl
      rw [sorted, get?, get?, lookup_sorted orderly.2]
      cases listed : entries.lookup name with
      | none => rfl
      | some child =>
        have at_name : (folder stamps entries).get? [name] = some child := by
          simp [get?, listed]
        exact inductionHypothesis (throughout.below at_name)

theorem Orderly.sorted (orderly : node.Orderly allowed) : node.sorted.Orderly allowed := by
  cases node with
  | file => trivial
  | link => exact orderly
  | folder stamps entries =>
    have same := perm_sorted entries
    exact ⟨fun name listed => orderly.1 name (same.mem_iff.mp listed),
      same.nodup_iff.mpr orderly.2⟩

/-- What is orderly throughout is so when it is sorted. -/
theorem Throughout.sorted (throughout : node.Throughout allowed) :
    node.sorted.Throughout allowed := by
  intro place found reached
  rw [get?_sorted throughout, Option.map_eq_some_iff] at reached
  obtain ⟨before, reached, rfl⟩ := reached
  exact (throughout place before reached).sorted

/-! ## Walks -/

/-- What holds of files and links, and of a folder once it holds of its entries, holds of every
    node. -/
@[elab_as_elim] theorem inductionOn {holds : Node → Prop} (node : Node)
    (file : ∀ stamps executable bytes, holds (.file stamps executable bytes))
    (link : ∀ target, holds (.link target))
    (folder : ∀ stamps entries, (∀ entry ∈ entries, holds entry.2) →
      holds (.folder stamps entries)) : holds node := by
  match node with
  | .file stamps executable bytes => exact file stamps executable bytes
  | .link target => exact link target
  | .folder stamps entries =>
    refine folder stamps entries fun entry listed => ?_
    have smaller := List.sizeOf_lt_of_mem listed
    exact inductionOn entry.2 file link folder
termination_by sizeOf node
decreasing_by
  obtain ⟨name, child⟩ := entry
  simp only [Node.folder.sizeOf_spec, Prod.mk.sizeOf_spec] at smaller ⊢
  omega

theorem walkEntries_eq_flatMap (place : Place) (entries : List (String × Node)) :
    walkEntries place entries = entries.flatMap fun entry => entry.2.walk (place ++ [entry.1]) := by
  induction entries with
  | nil => rfl
  | cons entry rest inductionHypothesis => rw [walkEntries, inductionHypothesis, List.flatMap_cons]

/-- A walk that starts at a place below another has the same way before all its places. -/
theorem walk_append (front place : Place) (node : Node) :
    node.walk (front ++ place) = (node.walk place).map fun met => (front ++ met.1, met.2) := by
  induction node using inductionOn generalizing place with
  | file | link => rfl
  | folder stamps entries inductionHypothesis =>
    rw [walk, walk, walkEntries_eq_flatMap, walkEntries_eq_flatMap, List.map_cons,
      List.map_flatMap]
    congr 1
    refine List.flatMap_congr fun entry listed => ?_
    rw [List.append_assoc, inductionHypothesis entry listed]

/-- The entries of an orderly folder are orderly. -/
theorem Throughout.of_mem {entry : String × Node}
    (throughout : (folder stamps entries).Throughout allowed) (listed : entry ∈ entries) :
    entry.2.Throughout allowed := by
  have orderly : Orderly allowed (folder stamps entries) := throughout [] _ rfl
  have at_name : (folder stamps entries).get? [entry.1] = some entry.2 := by
    simp [get?, lookup_of_mem orderly.2 listed]
  exact throughout.below at_name

/-- A walk through entries comes by what is at a place that goes down by the name of one. -/
theorem mem_walkEntries_iff
    (walks : ∀ entry ∈ entries, ∀ place other found, (other, found) ∈ entry.2.walk place ↔
      ∃ below, other = place ++ below ∧ entry.2.get? below = some found)
    (distinct : (entries.map (·.1)).Nodup) : (other, found) ∈ walkEntries place entries ↔
      ∃ name rest, other = place ++ name :: rest ∧
        (entries.lookup name).bind (·.get? rest) = some found := by
  rw [walkEntries_eq_flatMap, List.mem_flatMap]
  constructor
  · rintro ⟨⟨name, child⟩, listed, met⟩
    obtain ⟨below, rfl, reached⟩ := (walks _ listed _ _ _).mp met
    exact ⟨name, below, by simp, by simp [lookup_of_mem distinct listed, reached]⟩
  · rintro ⟨name, rest, rfl, reached⟩
    obtain ⟨child, listed, reached⟩ := Option.bind_eq_some_iff.mp reached
    have member := mem_of_lookup listed
    exact ⟨(name, child), member, (walks _ member _ _ _).mpr ⟨rest, by simp, reached⟩⟩

/-- A walk comes by what is at a place at or below its start. -/
theorem mem_walk_iff (throughout : node.Throughout allowed) :
    (other, found) ∈ node.walk place ↔
      ∃ below, other = place ++ below ∧ node.get? below = some found := by
  have empty {node : Node} {place other : Place} {found : Node}
      (nothing : ∀ next rest, node.get? (next :: rest) = none) :
      (other, found) ∈ [(place, node)] ↔
        ∃ below, other = place ++ below ∧ node.get? below = some found := by
    rw [List.mem_singleton, Prod.mk.injEq]
    constructor
    · rintro ⟨rfl, rfl⟩
      exact ⟨[], by simp, rfl⟩
    · rintro ⟨_ | ⟨next, rest⟩, rfl, reached⟩
      · exact ⟨by simp, (Option.some.inj reached).symm⟩
      · cases (nothing next rest).symm.trans reached
  induction node using inductionOn generalizing place other found with
  | file | link => exact empty fun _ _ => rfl
  | folder stamps entries inductionHypothesis =>
    have orderly : Orderly allowed (folder stamps entries) := throughout [] _ rfl
    have walks (entry : String × Node) (listed : entry ∈ entries) (place other : Place)
        (found : Node) : (other, found) ∈ entry.2.walk place ↔
          ∃ below, other = place ++ below ∧ entry.2.get? below = some found :=
      inductionHypothesis entry listed (throughout.of_mem listed)
    rw [walk, List.mem_cons, mem_walkEntries_iff walks orderly.2, Prod.mk.injEq]
    constructor
    · rintro (⟨rfl, rfl⟩ | ⟨name, rest, rfl, reached⟩)
      · exact ⟨[], by simp, rfl⟩
      · exact ⟨name :: rest, rfl, reached⟩
    · rintro ⟨_ | ⟨name, rest⟩, rfl, reached⟩
      · exact .inl ⟨by simp, (Option.some.inj reached).symm⟩
      · exact .inr ⟨name, rest, rfl, reached⟩

end FileQuery.Node

/-!
## What the files of a tree hold

A walk through a tree comes by each place once, so the files that it meets are the files of the
tree. Where the files of one tree stand in another one, each at a place of its own and no other
files beside them, both trees hold the same contents, each as often.
-/

namespace FileQuery

namespace Node

variable {allowed : String → Prop} {node : Node} {stamps : Stamps}
  {entries : List (String × Node)} {place other : Place} {found : Node}

end Node

namespace FileTree

variable {tree after : FileTree} {place : Place} {bytes : List UInt8}

/-- The files of a tree, with their places and with what they hold. -/
def files (tree : FileTree) : List (Place × List UInt8) :=
  (tree.root.walk []).filterMap fun met => met.2.content?.map (met.1, ·)

/-- What the files of a tree hold, each time that a file holds it. -/
def contents (tree : FileTree) : List (List UInt8) := tree.files.map (·.2)

end FileTree

end FileQuery
