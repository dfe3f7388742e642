import Umundo.Foundation.Checked
import Umundo.Foundation.Table

namespace Umundo
namespace Foundation

open Std

/-!
# Records that point to each other

A heap of records is a table indexed by addresses.  An assignment through a pointer
changes one record, and ends the program if there is no such record.
-/

variable {Node : Type}

/-- The assignment of fields of the record at an address. -/
def assign (heap : Table Nat Node) (pointer : Nat) (change : Node -> Node) : Option (Table Nat Node) :=
  heap[pointer]?.map fun node => heap.insert pointer (change node)

namespace Ensures

variable {heap : Table Nat Node} {pointer first second : Nat} {change change' : Node -> Node}

theorem assign (allocated : pointer ∈ heap) :
    Ensures (assign heap pointer change) fun next => forall other : Nat,
      next[other]? = heap[other]?.map fun node => if other = pointer then change node else node := by
  obtain ⟨node, found⟩ :=
    Table.getElem?_of_mem allocated
  rw [Foundation.assign, found]
  refine .done fun other => ?_
  rw [Table.getElem?_insert_eq]
  split
  next same => rw [same, found, Option.map_some]
  next => rw [Option.map_id']

/-- Two records are changed one after the other. -/
theorem assign_both (different : first ≠ second) (allocated : first ∈ heap) (allocated' : second ∈ heap) :
    Ensures ((Foundation.assign heap first change).bind fun heap => Foundation.assign heap second change')
      fun next => forall other : Nat, next[other]? = heap[other]?.map fun node =>
        if other = first then change node else if other = second then change' node else node := by
  refine .bind (.assign allocated) fun middle changed => ?_
  have present : second ∈ middle := by
    rw [ExtTreeMap.mem_iff_isSome_getElem?, changed, Option.isSome_map]
    exact ExtTreeMap.mem_iff_isSome_getElem?.mp allocated'
  refine (Ensures.assign present).mono fun next changed' other => ?_
  rw [changed', changed, Option.map_map]
  congr 1
  funext node
  simp only [Function.comp]
  by_cases here : other = first
  · rw [if_pos here, if_pos here, if_neg]
    rw [here]
    exact different
  · rw [if_neg here, if_neg here]

end Ensures

/-- What an assignment does not change. -/
theorem Yields.assign {Part : Type} {heap : Table Nat Node} {pointer : Nat} {change : Node -> Node}
    {part : Node -> Part} (kept : forall node, part (change node) = part node) :
    Yields (assign heap pointer change) fun next => forall other : Nat,
      next[other]?.map part = heap[other]?.map part := by
  intro next ends other
  obtain ⟨node, found, rfl⟩ := Option.map_eq_some_iff.mp ends
  rw [Table.getElem?_insert_eq]
  split
  next same => rw [same, found, Option.map_some, Option.map_some, kept]
  next => rfl

end Foundation
end Umundo
