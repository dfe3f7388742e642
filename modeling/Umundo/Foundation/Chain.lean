import Umundo.Foundation.Links
import Umundo.Foundation.Neighbours

namespace Umundo
namespace Foundation

open Std

/-!
# Chains of records

The entries of an ordered table have records in a heap, and the records of neighbours
point to each other.  An entry may have one record with two links, or one record for
each direction.  A `Linkage` says where the link of an entry in a direction is stored.

A new entry is connected in both directions, one after the other.  The result is a chain
again, and nothing is changed but the links of the new entry and those that lead to it.
-/

structure Linkage (V Node : Type) where
  /-- the address of the record with the link of an entry in a direction -/
  place : V -> Direction -> Nat
  get : Direction -> Node -> Option Nat
  set : Direction -> Nat -> Node -> Node
  get_set : forall direction target node, get direction (set direction target node) = some target

namespace Linkage

variable {K V Node : Type} [Ord K] [TransOrd K]
variable (linkage : Linkage V Node)

/-- The link of an entry in a direction, if its record is there. -/
def read (heap : Table Nat Node) (value : V) (direction : Direction) : Option (Option Nat) :=
  heap[linkage.place value direction]?.map (linkage.get direction)

/-- Every link leads to the neighbour in its direction. -/
def Chained (heap : Table Nat Node) (table : Table K V) : Prop :=
  forall (key : K) (value : V) (direction : Direction), table[key]? = some value ->
    linkage.read heap value direction =
      some ((table.neighbour direction key).map fun entry => linkage.place entry.2 direction.flip)

/-- The two links of an entry are stored apart. -/
def Sound (value : V) : Prop :=
  forall direction, linkage.place value direction ≠ linkage.place value direction.flip ∨
    forall target node, linkage.get direction (linkage.set direction.flip target node) =
      linkage.get direction node

/-- The links of two entries are stored apart. -/
def Apart (first second : V) : Prop :=
  forall direction direction', linkage.place first direction ≠ linkage.place second direction'

/-- Two entries point to each other now. -/
def Joined (own other : V) (direction : Direction) (heap next : Table Nat Node) : Prop :=
  forall address : Nat, next[address]? = heap[address]?.map fun node =>
    if address = linkage.place own direction then
      linkage.set direction (linkage.place other direction.flip) node
    else if address = linkage.place other direction.flip then
      linkage.set direction.flip (linkage.place own direction) node
    else node

/-- A new entry is connected with its neighbour in a direction, if there is one. -/
def Connected (table : Table K V) (key : K) (own : V) (direction : Direction)
    (heap next : Table Nat Node) : Prop :=
  match table.neighbour direction key with
  | none => next = heap
  | some entry => linkage.Joined own entry.2 direction heap next

variable {linkage} {own other : V} {direction direction' : Direction} {heap next : Table Nat Node}

section

theorem Joined.read_own (joined : linkage.Joined own other direction heap next)
    (allocated : linkage.place own direction ∈ heap) :
    linkage.read next own direction = some (some (linkage.place other direction.flip)) := by
  obtain ⟨node, found⟩ := Table.getElem?_of_mem allocated
  rw [read, joined, found, Option.map_some, Option.map_some, if_pos rfl, linkage.get_set]

theorem Joined.read_other (joined : linkage.Joined own other direction heap next)
    (apart : linkage.Apart own other) (allocated : linkage.place other direction.flip ∈ heap) :
    linkage.read next other direction.flip = some (some (linkage.place own direction)) := by
  obtain ⟨node, found⟩ := Table.getElem?_of_mem allocated
  rw [read, joined, found, Option.map_some, Option.map_some, if_neg (apart _ _).symm, if_pos rfl,
    linkage.get_set]

/-- The other link of the new entry. -/
theorem Joined.read_own_flip (joined : linkage.Joined own other direction heap next)
    (sound : linkage.Sound own) (apart : linkage.Apart own other) :
    linkage.read next own direction.flip = linkage.read heap own direction.flip := by
  rw [read, read, joined, Option.map_map]
  congr 1
  funext node
  rw [Function.comp, if_neg (apart _ _)]
  rcases sound direction.flip with different | independent
  · rw [Direction.flip_flip] at different
    rw [if_neg different]
  · rw [Direction.flip_flip] at independent
    split
    next => exact independent _ node
    next => rfl

/-- The other link of the neighbour. -/
theorem Joined.read_other_flip (joined : linkage.Joined own other direction heap next)
    (sound : linkage.Sound other) (apart : linkage.Apart own other) :
    linkage.read next other direction = linkage.read heap other direction := by
  rw [read, read, joined, Option.map_map]
  congr 1
  funext node
  rw [Function.comp, if_neg (apart _ _).symm]
  rcases sound direction with different | independent
  · rw [if_neg different]
  · split
    next => exact independent _ node
    next => rfl

theorem Joined.outside (joined : linkage.Joined own other direction heap next) {address : Nat}
    (different : address ≠ linkage.place own direction)
    (different' : address ≠ linkage.place other direction.flip) : next[address]? = heap[address]? := by
  rw [joined]
  simp only [if_neg different, if_neg different']
  exact Option.map_id'

/-- What is not a link stays the same. -/
theorem Joined.frame (joined : linkage.Joined own other direction heap next) {Rest : Type}
    {rest : Node -> Rest}
    (apart : forall direction target node, rest (linkage.set direction target node) = rest node)
    (address : Nat) : next[address]?.map rest = heap[address]?.map rest := by
  rw [joined, Option.map_map]
  congr 1
  funext node
  rw [Function.comp]
  split
  · exact apart _ _ node
  · split
    · exact apart _ _ node
    · rfl

theorem allocated_of_read {value : V} {link : Option Nat}
    (found : linkage.read heap value direction = some link) : linkage.place value direction ∈ heap := by
  obtain ⟨node, stored, _⟩ := Option.map_eq_some_iff.mp found
  exact Table.mem_of_getElem? stored

end

section

variable {table : Table K V} {key : K}

theorem Connected.read_own (connected : linkage.Connected table key own direction heap next)
    (empty : linkage.read heap own direction = some none) :
    linkage.read next own direction =
      some ((table.neighbour direction key).map fun entry => linkage.place entry.2 direction.flip) := by
  rw [Connected] at connected
  split at connected
  next none =>
    rw [connected, none]
    exact empty
  next entry found =>
    rw [connected.read_own (allocated_of_read empty), found]
    rfl

theorem Connected.frame (connected : linkage.Connected table key own direction heap next) {Rest : Type}
    {rest : Node -> Rest}
    (apart : forall direction target node, rest (linkage.set direction target node) = rest node)
    (address : Nat) : next[address]?.map rest = heap[address]?.map rest := by
  rw [Connected] at connected
  split at connected
  next => rw [connected]
  next => exact connected.frame apart address

theorem Connected.mem_iff (connected : linkage.Connected table key own direction heap next)
    (address : Nat) : address ∈ next <-> address ∈ heap := by
  have same := congrArg Option.isSome (connected.frame (fun _ _ _ => rfl) address :
    next[address]?.map (fun _ => ()) = heap[address]?.map fun _ => ())
  rw [Option.isSome_map, Option.isSome_map] at same
  rw [ExtTreeMap.mem_iff_isSome_getElem?, ExtTreeMap.mem_iff_isSome_getElem?, same]

variable [LawfulEqOrd K]

/-- Only records of the chain are changed. -/
theorem Connected.outside (connected : linkage.Connected table key own direction heap next)
    {address : Nat} (different : address ≠ linkage.place own direction)
    (outside : forall (key : K) (value : V), table[key]? = some value ->
      address ≠ linkage.place value direction.flip) : next[address]? = heap[address]? := by
  rw [Connected] at connected
  split at connected
  next => rw [connected]
  next entry found =>
    exact connected.outside different (outside entry.1 entry.2 (Table.neighbour_eq_some_iff.mp found).1)

/-- The records of the new entry and of all entries are different ones. -/
structure Insertable (linkage : Linkage V Node) (table : Table K V) (key : K) (own : V) : Prop where
  fresh : key ∉ table
  sound : linkage.Sound own
  sound' : forall (key : K) (value : V), table[key]? = some value -> linkage.Sound value
  apart : forall (key : K) (value : V), table[key]? = some value -> linkage.Apart own value
  distinct : forall (first second : K) (value value' : V), table[first]? = some value ->
    table[second]? = some value' -> first ≠ second -> linkage.Apart value value'

theorem Connected.read_own_flip (connected : linkage.Connected table key own direction heap next)
    (insertable : linkage.Insertable table key own) :
    linkage.read next own direction.flip = linkage.read heap own direction.flip := by
  rw [Connected] at connected
  split at connected
  next => rw [connected]
  next entry found =>
    exact connected.read_own_flip insertable.sound
      (insertable.apart entry.1 entry.2 (Table.neighbour_eq_some_iff.mp found).1)

/-- Links in the same direction are those of the entries behind. -/
theorem Connected.read_entry (connected : linkage.Connected table key own direction heap next)
    (insertable : linkage.Insertable table key own) {other : K} {value : V}
    (stored : table[other]? = some value) :
    linkage.read next value direction = linkage.read heap value direction := by
  rw [Connected] at connected
  split at connected
  next => rw [connected]
  next entry found =>
    have present := (Table.neighbour_eq_some_iff.mp found).1
    by_cases same : other = entry.1
    · rw [same, present] at stored
      cases stored
      exact connected.read_other_flip (insertable.sound' entry.1 entry.2 present)
        (insertable.apart entry.1 entry.2 present)
    · have apart := insertable.distinct other entry.1 value entry.2 stored present same
      have apart' := insertable.apart other value stored
      rw [read, read, connected.outside (apart' _ _).symm (apart _ _)]

variable [DecidableEq K]

/-- Links in the other direction lead to the new entry if it is next. -/
theorem Connected.read_entry_flip (connected : linkage.Connected table key own direction heap next)
    (insertable : linkage.Insertable table key own) {other : K} {value : V}
    (stored : table[other]? = some value) (allocated : linkage.place value direction.flip ∈ heap) :
    linkage.read next value direction.flip =
      if (table.neighbour direction key).map Prod.fst = some other then
        some (some (linkage.place own direction))
      else linkage.read heap value direction.flip := by
  rw [Connected] at connected
  split at connected
  next none =>
    rw [connected, none, Option.map_none, if_neg]
    exact fun same => by cases same
  next entry found =>
    have present := (Table.neighbour_eq_some_iff.mp found).1
    rw [found, Option.map_some]
    by_cases same : other = entry.1
    · rw [same, present] at stored
      cases stored
      rw [if_pos (congrArg some same.symm)]
      exact connected.read_other (insertable.apart entry.1 entry.2 present) allocated
    · have apart := insertable.distinct other entry.1 value entry.2 stored present same
      have apart' := insertable.apart other value stored
      rw [if_neg fun shared => same (Option.some.inj shared).symm, read, read,
        connected.outside (apart' _ _).symm (apart _ _)]

/-- A chain stays a chain when a new entry is connected in both directions. -/
theorem Chained.insert {middle last : Table Nat Node} (chained : linkage.Chained heap table)
    (insertable : linkage.Insertable table key own)
    (empty : forall direction, linkage.read heap own direction = some none)
    (first : linkage.Connected table key own .back heap middle)
    (second : linkage.Connected table key own .ahead middle last) :
    linkage.Chained last (table.insert key own) := by
  intro other value direction stored
  rw [Table.getElem?_insert_eq] at stored
  split at stored
  next same =>
    cases stored
    rw [same, Table.neighbour_insert_self]
    cases direction with
    | back => exact (second.read_own_flip insertable).trans (first.read_own (empty .back))
    | ahead => exact second.read_own ((first.read_own_flip insertable).trans (empty .ahead))
  next =>
    have here := chained other value direction stored
    rw [Table.neighbour_insert_of_mem insertable.fresh (Table.mem_of_getElem? stored)]
    cases direction with
    | back =>
        have kept := first.read_entry insertable stored
        rw [here] at kept
        refine (second.read_entry_flip insertable stored (allocated_of_read kept)).trans ?_
        rw [Direction.flip_ahead, kept, Direction.flip_back]
        split <;> rfl
    | ahead =>
        have changed := first.read_entry_flip insertable stored (allocated_of_read here)
        refine (second.read_entry insertable stored).trans (changed.trans ?_)
        rw [Direction.flip_back, here, Direction.flip_ahead]
        split <;> rfl

end

end Linkage

end Foundation
end Umundo
