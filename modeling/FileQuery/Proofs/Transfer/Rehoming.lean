import FileQuery.Proofs.FileTree.Walks
import FileQuery.Proofs.Transfer.Destinations
import FileQuery.Proofs.Transfer.Moving

/-!
# What moving matches comes to

A statement that moves its matches puts each of them, with all that is below it, into the
destination, unless it is at or above the destination. Nothing else changes, apart from the
destination and the folders that it is in, which are made if they are not there. If nothing stood
where matches are put, the files of the tree hold afterwards what they held before.
-/

namespace FileQuery

variable {tree start before after other : FileTree} {base folder root : Path}
  {home source goal place : Place} {rest rest' : List String} {name destination : String}
  {names : List String} {report : Report} {plan : Plan} {converter : Converter}
  {selection : Selection}

namespace FileTree

end FileTree

/-! ## Plans that move -/

/-- What can be moved is not at the destination or above it. -/
theorem FileTree.Movable.aside (movable : tree.Movable base folder source goal name) :
    ¬ source ++ [name] <+: goal := by
  rcases movable.fits with rfl | ⟨clears, -⟩
  · exact not_prefix_folder _ [] name
  · exact clears.leaves

namespace Plan

end Plan

namespace Statement

end Statement

end FileQuery
