import Umundo.Foundation.Table

namespace Umundo
namespace Foundation

open Std

/-!
# Neighbours in an ordered table

A table is ordered by its keys, so that every key has a neighbour in both directions,
unless it is at an end.  Both directions are alike: all results are stated for a
`Direction`, and `flip` turns it around.

The main result is about a new key: it is put between its neighbours, which become
neighbours of the new key, and nothing else changes.
-/

inductive Direction where
  | back
  | ahead
deriving DecidableEq

namespace Direction

def flip : Direction -> Direction
  | back => ahead
  | ahead => back

@[simp] theorem flip_back : back.flip = ahead := rfl

@[simp] theorem flip_ahead : ahead.flip = back := rfl

@[simp] theorem flip_flip (direction : Direction) : direction.flip.flip = direction := by
  cases direction <;> rfl

theorem eq_or_eq_flip (direction other : Direction) : other = direction ∨ other = direction.flip := by
  cases direction <;> cases other <;> first | exact .inl rfl | exact .inr rfl

section

variable {K : Type} [Ord K]

/-- The first key comes later than the second one if one goes in this direction. -/
def Beyond (direction : Direction) (far near : K) : Prop :=
  match direction with
  | back => compare far near = .lt
  | ahead => compare near far = .lt

instance (direction : Direction) (far near : K) : Decidable (direction.Beyond far near) := by
  unfold Beyond
  split <;> infer_instance

variable {direction : Direction} {first second third : K}

theorem beyond_flip : direction.flip.Beyond first second <-> direction.Beyond second first := by
  cases direction <;> rfl

variable [TransOrd K]

theorem Beyond.trans (far : direction.Beyond first second) (near : direction.Beyond second third) :
    direction.Beyond first third := by
  cases direction with
  | back => exact TransCmp.lt_trans far near
  | ahead => exact TransCmp.lt_trans near far

theorem not_beyond_self (key : K) : ¬ direction.Beyond key key := by
  cases direction <;> simp [Beyond, ReflCmp.compare_self]

theorem Beyond.ne (beyond : direction.Beyond first second) : first ≠ second := by
  rintro rfl
  exact not_beyond_self first beyond

theorem Beyond.asymm (beyond : direction.Beyond first second) : ¬ direction.Beyond second first :=
  fun back => not_beyond_self first (beyond.trans back)

theorem beyond_total [LawfulEqOrd K] (direction : Direction) (first second : K) :
    direction.Beyond first second ∨ first = second ∨ direction.Beyond second first := by
  have total : compare first second = .lt ∨ first = second ∨ compare second first = .lt := by
    cases order : compare first second with
    | lt => exact .inl rfl
    | eq => exact .inr (.inl (LawfulEqCmp.eq_of_compare order))
    | gt => exact .inr (.inr (OrientedCmp.gt_iff_lt.mp order))
  cases direction with
  | back => exact total
  | ahead => exact total.elim (fun less => .inr (.inr less)) fun rest => rest.elim (fun same => .inr (.inl same)) .inl

end

end Direction

namespace Table

variable {K V : Type} [Ord K] [TransOrd K]

/-- All entries, in the order in which they are met. -/
def listing (table : Table K V) : Direction -> List (K × V)
  | .back => table.toList.reverse
  | .ahead => table.toList

/-- The entries on one side of a key, the nearest one first. -/
def beyond (table : Table K V) (direction : Direction) (key : K) : List (K × V) :=
  (table.listing direction).filter fun entry => direction.Beyond entry.1 key

/-- The next entry in a direction. -/
def neighbour (table : Table K V) (direction : Direction) (key : K) : Option (K × V) :=
  (table.beyond direction key).head?

/-- How many keys are smaller. -/
def rank (table : Table K V) (key : K) : Nat := (table.beyond .back key).length

section

variable {table : Table K V} {direction : Direction} {key near : K} {value : V}

private theorem ordered_beyond (table : Table K V) (direction : Direction) (key : K) :
    (table.beyond direction key).Pairwise fun first second => direction.Beyond second.1 first.1 := by
  refine List.Pairwise.filter _ ?_
  cases direction with
  | back => exact List.pairwise_reverse.mpr ExtTreeMap.ordered_keys_toList
  | ahead => exact ExtTreeMap.ordered_keys_toList

/-- What is beyond a key that is beyond another one. -/
private theorem beyond_of_beyond (farther : direction.Beyond near key) :
    table.beyond direction near =
      (table.beyond direction key).filter fun entry => direction.Beyond entry.1 near := by
  rw [beyond, beyond, List.filter_filter]
  refine List.filter_congr fun entry _ => ?_
  by_cases after : direction.Beyond entry.1 near
  · simp [after, after.trans farther]
  · simp [after]

variable [LawfulEqOrd K]

theorem mem_beyond {entry : K × V} :
    entry ∈ table.beyond direction key <->
      table[entry.1]? = some entry.2 ∧ direction.Beyond entry.1 key := by
  have listed : entry ∈ table.toList <-> table[entry.1]? = some entry.2 :=
    ExtTreeMap.mem_toList_iff_getElem?_eq_some
  rw [beyond, List.mem_filter, decide_eq_true_eq, ← listed]
  cases direction with
  | back => exact and_congr_left fun _ => List.mem_reverse
  | ahead => exact Iff.rfl

/-- The neighbour is the nearest key in its direction. -/
theorem neighbour_eq_some_iff :
    table.neighbour direction key = some (near, value) <->
      table[near]? = some value ∧ direction.Beyond near key ∧
        forall other, other ∈ table -> direction.Beyond other key ->
          other = near ∨ direction.Beyond other near := by
  have ordered := table.ordered_beyond direction key
  have listed (other : K) (member : other ∈ table) (far : direction.Beyond other key) :
      Exists fun held => (other, held) ∈ table.beyond direction key := by
    obtain ⟨held, found⟩ := Table.getElem?_of_mem member
    exact ⟨held, mem_beyond.mpr ⟨found, far⟩⟩
  rw [neighbour]
  cases entries : table.beyond direction key with
  | nil =>
      refine iff_of_false (by simp) fun nearest => ?_
      have member : (near, value) ∈ table.beyond direction key := mem_beyond.mpr ⟨nearest.1, nearest.2.1⟩
      rw [entries] at member
      cases member
  | cons head rest =>
      rw [entries] at ordered listed
      have farther := (List.pairwise_cons.mp ordered).1
      have first : table[head.1]? = some head.2 ∧ direction.Beyond head.1 key :=
        mem_beyond.mp (entries ▸ List.mem_cons_self)
      rw [List.head?_cons, Option.some.injEq]
      constructor
      · rintro rfl
        refine ⟨first.1, first.2, fun other member far => ?_⟩
        obtain ⟨held, here⟩ := listed other member far
        rcases List.mem_cons.mp here with same | later
        · exact .inl (congrArg Prod.fst same)
        · exact .inr (farther _ later)
      · rintro ⟨found, far, nearest⟩
        have present : head.1 ∈ table := Table.mem_of_getElem? first.1
        have same : head.1 = near := by
          rcases nearest head.1 present first.2 with same | beyond
          · exact same
          · have here : (near, value) ∈ head :: rest := entries ▸ mem_beyond.mpr ⟨found, far⟩
            rcases List.mem_cons.mp here with same | later
            · exact congrArg Prod.fst same.symm
            · exact absurd beyond (farther _ later).asymm
        have held : head.2 = value := Option.some.inj (first.1.symm.trans (same ▸ found))
        exact Prod.ext same held

theorem neighbour_eq_none_iff :
    table.neighbour direction key = none <->
      forall other, other ∈ table -> ¬ direction.Beyond other key := by
  rw [neighbour, List.head?_eq_none_iff, List.eq_nil_iff_forall_not_mem]
  constructor
  · intro none other member beyond
    obtain ⟨value, found⟩ := Table.getElem?_of_mem member
    exact none (other, value) (mem_beyond.mpr ⟨found, beyond⟩)
  · intro none entry member
    obtain ⟨found, beyond⟩ := mem_beyond.mp member
    exact none entry.1 (Table.mem_of_getElem? found) beyond

theorem mem_insert_iff {other : K} :
    other ∈ (table.insert key value : Table K V) <-> other = key ∨ other ∈ table := by
  rw [ExtTreeMap.mem_insert, LawfulEqCmp.compare_eq_iff_eq, eq_comm]

/-- Going one step leaves one entry less. -/
theorem beyond_eq_cons (found : table.neighbour direction key = some (near, value)) :
    table.beyond direction key = (near, value) :: table.beyond direction near := by
  have ordered := table.ordered_beyond direction key
  rw [beyond_of_beyond (neighbour_eq_some_iff.mp found).2.1]
  obtain ⟨rest, entries⟩ := List.head?_eq_some_iff.mp found
  rw [entries] at ordered ⊢
  have farther := (List.pairwise_cons.mp ordered).1
  rw [List.filter_cons_of_neg (by simpa using Direction.not_beyond_self near), List.cons.injEq]
  refine ⟨rfl, (List.filter_eq_self.mpr fun entry member => ?_).symm⟩
  exact decide_eq_true (farther entry member)

omit [LawfulEqOrd K] in
/-- All entries are the first one and those ahead of it. -/
theorem toList_eq_cons {entry : K × V} {rest : List (K × V)} (entries : table.toList = entry :: rest) :
    rest = table.beyond .ahead entry.1 := by
  have ordered : (entry :: rest).Pairwise fun first second => Direction.ahead.Beyond second.1 first.1 :=
    entries ▸ ExtTreeMap.ordered_keys_toList
  rw [beyond, listing, entries, List.filter_cons_of_neg (by simpa using Direction.not_beyond_self entry.1)]
  refine (List.filter_eq_self.mpr fun other member => ?_).symm
  exact decide_eq_true ((List.pairwise_cons.mp ordered).1 other member)

/-- An entry is the neighbour of its neighbour. -/
theorem neighbour_flip {held : V} (present : table[key]? = some held)
    (found : table.neighbour direction key = some (near, value)) :
    table.neighbour direction.flip near = some (key, held) := by
  obtain ⟨_, far, nearest⟩ := neighbour_eq_some_iff.mp found
  refine neighbour_eq_some_iff.mpr ⟨present, Direction.beyond_flip.mpr far, fun other member before => ?_⟩
  rw [Direction.beyond_flip] at before ⊢
  obtain beyond | same | behind := direction.beyond_total other key
  · obtain rfl | farther := nearest other member beyond
    · exact absurd before (Direction.not_beyond_self other)
    · exact absurd before farther.asymm
  · exact .inl same
  · exact .inr behind

theorem rank_of_neighbour (found : table.neighbour .back key = some (near, value)) :
    table.rank key = table.rank near + 1 := by
  rw [rank, beyond_eq_cons found]
  rfl

omit [LawfulEqOrd K] in
theorem rank_of_first (first : table.neighbour .back key = none) : table.rank key = 0 := by
  rw [neighbour, List.head?_eq_none_iff] at first
  rw [rank, first]
  rfl

theorem rank_lt_size (member : key ∈ table) : table.rank key < table.size := by
  obtain ⟨held, found⟩ := Table.getElem?_of_mem member
  have listed : (key, held) ∈ table.listing .back :=
    List.mem_reverse.mpr (ExtTreeMap.mem_toList_iff_getElem?_eq_some.mpr found)
  have shorter : (table.beyond .back key).length < (table.listing .back).length :=
    List.length_filter_lt_length_iff_exists.mpr
      ⟨_, listed, by simpa using Direction.not_beyond_self key⟩
  rwa [listing, List.length_reverse, ExtTreeMap.length_toList] at shorter

/-- The keys alone decide which key is next. -/
theorem neighbour_key_congr {W : Type} {first : Table K V} {second : Table K W}
    (same : forall key, key ∈ first <-> key ∈ second) (direction : Direction) (key : K) :
    (first.neighbour direction key).map Prod.fst = (second.neighbour direction key).map Prod.fst := by
  cases found : second.neighbour direction key with
  | none =>
      have nothing : first.neighbour direction key = none := by
        rw [neighbour_eq_none_iff] at found ⊢
        exact fun other member => found other ((same other).mp member)
      rw [nothing]
      rfl
  | some entry =>
      obtain ⟨present, far, nearest⟩ := neighbour_eq_some_iff.mp found
      have member : entry.1 ∈ second := Table.mem_of_getElem? present
      obtain ⟨held, stored⟩ := Table.getElem?_of_mem ((same entry.1).mpr member)
      have here : first.neighbour direction key = some (entry.1, held) :=
        neighbour_eq_some_iff.mpr ⟨stored, far, fun other known => nearest other ((same other).mp known)⟩
      rw [here]
      rfl

/-- The place of a new key is next to its neighbours. -/
private theorem neighbour_flip_of_between {new other : K} (present : other ∈ table)
    (between : direction.Beyond new other)
    (free : forall another, another ∈ table -> direction.Beyond another other ->
      direction.Beyond another new) :
    (table.neighbour direction.flip new).map Prod.fst = some other := by
  obtain ⟨held, found⟩ := Table.getElem?_of_mem present
  have nearest : table.neighbour direction.flip new = some (other, held) := by
    refine neighbour_eq_some_iff.mpr ⟨found, Direction.beyond_flip.mpr between, ?_⟩
    intro another member far
    rw [Direction.beyond_flip] at far ⊢
    rcases direction.beyond_total another other with beyond | same | beyond
    · exact absurd far (free another member beyond).asymm
    · exact .inl same
    · exact .inr beyond
  rw [nearest]
  rfl

/-- A new entry becomes the neighbour of its neighbours. -/
private theorem neighbour_insert_of_adjacent {new other : K}
    (adjacent : (table.neighbour direction.flip new).map Prod.fst = some other) (value : V) :
    Table.neighbour (table.insert new value) direction other = some (new, value) := by
  obtain ⟨⟨_, held⟩, found, rfl⟩ := Option.map_eq_some_iff.mp adjacent
  obtain ⟨_, between, nearest⟩ := neighbour_eq_some_iff.mp found
  rw [Direction.beyond_flip] at between
  refine neighbour_eq_some_iff.mpr ⟨ExtTreeMap.getElem?_insert_self, between, fun another member far => ?_⟩
  rcases mem_insert_iff.mp member with same | old
  · exact .inl same
  · rcases direction.beyond_total another new with beyond | same | beyond
    · exact .inr beyond
    · exact .inl same
    · rcases nearest another old (Direction.beyond_flip.mpr beyond) with same | closer
      · exact absurd same far.ne
      · exact absurd (Direction.beyond_flip.mp closer) far.asymm

variable [DecidableEq K]

/-- A new entry has the neighbours of its place. -/
theorem neighbour_insert_self (table : Table K V) (direction : Direction) (key : K) (value : V) :
    Table.neighbour (table.insert key value) direction key = table.neighbour direction key := by
  refine Option.ext fun entry => ?_
  obtain ⟨near, held⟩ := entry
  rw [neighbour_eq_some_iff, neighbour_eq_some_iff, and_left_comm,
    and_left_comm (a := table[near]? = some held)]
  refine and_congr_right fun beyond => ?_
  rw [getElem?_insert_eq, if_neg beyond.ne]
  refine and_congr_right fun _ => forall_congr' fun other => ?_
  rw [mem_insert_iff]
  constructor
  · exact fun nearest member => nearest (.inr member)
  · rintro nearest (rfl | member) far
    · exact absurd far (Direction.not_beyond_self other)
    · exact nearest member far

/-- A new entry becomes the neighbour of no other key. -/
private theorem neighbour_insert_of_apart {new other : K} (fresh : new ∉ table) (present : other ∈ table)
    (apart : ¬ (table.neighbour direction.flip new).map Prod.fst = some other) (value : V) :
    Table.neighbour (table.insert new value) direction other = table.neighbour direction other := by
  refine Option.ext fun entry => ?_
  obtain ⟨near, held⟩ := entry
  rw [neighbour_eq_some_iff, neighbour_eq_some_iff, getElem?_insert_eq]
  constructor
  · rintro ⟨found, far, nearest⟩
    by_cases same : near = new
    · subst same
      refine absurd (neighbour_flip_of_between present far fun another member beyond => ?_) apart
      rcases nearest another (mem_insert_iff.mpr (.inr member)) beyond with same | closer
      · exact absurd (same ▸ member) fresh
      · exact closer
    · rw [if_neg same] at found
      exact ⟨found, far, fun another member => nearest another (mem_insert_iff.mpr (.inr member))⟩
  · rintro ⟨found, far, nearest⟩
    have known : near ∈ table := Table.mem_of_getElem? found
    have different : near ≠ new := fun same => fresh (same ▸ known)
    rw [if_neg different]
    refine ⟨found, far, fun another member beyond => ?_⟩
    rcases mem_insert_iff.mp member with rfl | old
    · -- the new key would lie between the two
      rcases direction.beyond_total another near with closer | same | behind
      · exact .inr closer
      · exact .inl same
      · refine absurd (neighbour_flip_of_between present beyond fun third member' far' => ?_) apart
        rcases nearest third member' far' with same | farther
        · exact same ▸ behind
        · exact farther.trans behind
    · exact nearest another old beyond

theorem neighbour_insert_of_mem {new other : K} (fresh : new ∉ table) (present : other ∈ table)
    (direction : Direction) (value : V) :
    Table.neighbour (table.insert new value) direction other =
      if (table.neighbour direction.flip new).map Prod.fst = some other then some (new, value)
      else table.neighbour direction other := by
  split
  next adjacent => exact neighbour_insert_of_adjacent adjacent value
  next apart => exact neighbour_insert_of_apart fresh present apart value

end

end Table

end Foundation
end Umundo
