import Mathlib.Data.List.Basic
import Mathlib.Tactic.Common

namespace Umundo
namespace Foundation

open Std

/-!
# Nested ordered tables with inserting subscripts

An ordered associative container is an extensional tree map, an ordered set
an extensional tree set; both come from the standard library.  What is added
here is the behaviour of the subscript operator on such containers.  Reading
`table[key]` yields a default element for an absent key *and* stores that
default, so merely looking at a nested table can create empty rows.

`row` and `cell` are the values such a read yields.  `store`, `touchCell`,
`insertCell` and `pruneCell` are the updates made through a subscript,
including the rows they leave behind.  `Pruned` is the property that no empty
row and no empty cell remains; it is what a nested table loses by a stray read.
-/

/-- An ordered associative container. -/
abbrev Table (K : Type) (V : Type) [Ord K] := ExtTreeMap K V

/-- An ordered set. -/
abbrev Keys (K : Type) [Ord K] := ExtTreeSet K

variable {K L M V : Type}

namespace Table

/-! ## One level -/

theorem distinct_of_nodup [Ord K] [LawfulEqOrd K] {entries : List (K × V)} (nodup : (entries.map Prod.fst).Nodup) :
    entries.Pairwise fun left right => ¬ compare left.1 right.1 = .eq :=
  (List.pairwise_map.mp nodup).imp fun different same => different (LawfulEqCmp.eq_of_compare same)

section

variable [Ord K] [TransOrd K]

theorem mem_of_getElem? {table : Table K V} {key : K} {value : V} (found : table[key]? = some value) :
    key ∈ table :=
  ExtTreeMap.mem_iff_isSome_getElem?.mpr (Option.isSome_of_eq_some found)

theorem getElem?_of_mem {table : Table K V} {key : K} (member : key ∈ table) :
    Exists fun value => table[key]? = some value :=
  Option.isSome_iff_exists.mp (ExtTreeMap.mem_iff_isSome_getElem?.mp member)

theorem not_mem_of_getElem? {table : Table K V} {key : K} (absent : table[key]? = none) :
    key ∉ table := by
  rw [ExtTreeMap.mem_iff_isSome_getElem?, absent]
  exact Bool.false_ne_true

theorem mem_congr {first second : Table K V} {key : K} (same : first[key]? = second[key]?) :
    key ∈ first <-> key ∈ second := by
  rw [ExtTreeMap.mem_iff_isSome_getElem?, ExtTreeMap.mem_iff_isSome_getElem?, same]

theorem getD_congr {first second : Table K V} {key : K} (same : first[key]? = second[key]?)
    (fallback : V) : first.getD key fallback = second.getD key fallback := by
  rw [ExtTreeMap.getD_eq_getD_getElem?, ExtTreeMap.getD_eq_getD_getElem?, same]

/-- Erase some keys in turn. -/
def eraseAll (table : Table K V) (keys : List K) : Table K V :=
  keys.foldl (fun rest key => rest.erase key) table

theorem eraseAll_append (table : Table K V) (first second : List K) :
    table.eraseAll (first ++ second) = (table.eraseAll first).eraseAll second :=
  List.foldl_append

variable [LawfulEqOrd K]

/-- A table with the keys of another is a map of it if the entries agree. -/
theorem map_eq_of_entries {W : Type} {inner : Table K V} {table : Table K W} (entry : K -> V -> W)
    (keys : forall key, key ∈ table <-> key ∈ inner)
    (agrees : forall (key : K) (value : W), table[key]? = some value ->
      forall held, entry key held = value) :
    inner.map entry = table := by
  apply ExtTreeMap.ext_getElem?
  intro key
  have both := keys key
  rw [ExtTreeMap.mem_iff_isSome_getElem?, ExtTreeMap.mem_iff_isSome_getElem?] at both
  rw [ExtTreeMap.getElem?_map]
  cases held : inner[key]? with
  | none =>
      rw [held] at both
      rw [Option.map_none, Eq.comm, Option.eq_none_iff_forall_ne_some]
      intro value stored
      rw [stored] at both
      exact Bool.false_ne_true (both.mp rfl)
  | some value =>
      rw [held] at both
      obtain ⟨stored, found⟩ := Option.isSome_iff_exists.mp (both.mpr rfl)
      rw [Option.map_some, found, agrees key stored found value]

theorem eq_empty_of_not_mem {table : Table K V} (vacant : forall key, key ∉ table) : table = ∅ := by
  apply ExtTreeMap.ext_getElem?
  intro key
  rw [getElem?_neg table key (vacant key), ExtTreeMap.getElem?_empty]

/-- Touching a key that is present stores nothing. -/
theorem insertIfNew_of_mem (table : Table K V) (key : K) (value : V) (present : key ∈ table) :
    table.insertIfNew key value = table := by
  apply ExtTreeMap.ext_getElem?
  intro other
  rw [ExtTreeMap.getElem?_insertIfNew, if_neg (fun fresh => fresh.2 present)]

/-- Touching a key just before it is erased makes no difference. -/
theorem erase_insertIfNew (table : Table K V) (key : K) (value : V) :
    (table.insertIfNew key value).erase key = table.erase key := by
  apply ExtTreeMap.ext_getElem?
  intro other
  rw [ExtTreeMap.getElem?_erase, ExtTreeMap.getElem?_erase, ExtTreeMap.getElem?_insertIfNew]
  by_cases same : compare key other = .eq
  · rw [if_pos same, if_pos same]
  · rw [if_neg same, if_neg same, if_neg fun both => same both.1]

theorem isEmpty_erase_iff (keys : Keys K) (key : K) :
    (keys.erase key).isEmpty = true <-> ¬ Exists fun other => other ≠ key ∧ other ∈ keys := by
  have member (other : K) : other ∈ keys.erase key <-> other ≠ key ∧ other ∈ keys := by
    rw [ExtTreeSet.mem_erase, ne_eq, LawfulEqCmp.compare_eq_iff_eq, eq_comm]
  simp only [← member, not_exists]
  constructor
  · intro empty other
    rw [ExtTreeSet.isEmpty_iff.mp empty]
    exact ExtTreeSet.not_mem_empty
  · intro none
    rw [ExtTreeSet.isEmpty_iff]
    exact ExtTreeSet.ext_mem fun other => ⟨fun held => absurd held (none other),
      fun held => absurd held ExtTreeSet.not_mem_empty⟩

theorem nodup_keys (table : Table K V) : table.keys.Nodup := by
  refine List.Pairwise.imp ?_ ExtTreeMap.distinct_keys
  intro left right different same
  exact different (same ▸ ReflCmp.compare_self)

theorem nodup_toList (keys : Keys K) : keys.toList.Nodup := by
  refine List.Pairwise.imp ?_ ExtTreeSet.distinct_toList
  intro left right different same
  exact different (same ▸ ReflCmp.compare_self)

/-- A loop over a table in which only one key contributes. -/
theorem flatMap_toList_of_ne {W : Type} (table : Table K V) (key : K) (body : K × V -> List W)
    (silent : forall (other : K) (value : V), other ≠ key -> body (other, value) = []) :
    table.toList.flatMap body = (table[key]?.map fun value => body (key, value)).getD [] := by
  have loop : forall entries : List (K × V),
      entries.Pairwise (fun left right => ¬ compare left.1 right.1 = .eq) ->
      (forall value, (key, value) ∈ entries -> entries.flatMap body = body (key, value)) ∧
        ((forall value, (key, value) ∉ entries) -> entries.flatMap body = []) := by
    intro entries distinct
    induction entries with
    | nil => exact ⟨nofun, fun _ => rfl⟩
    | cons entry rest ih =>
        rcases entry with ⟨other, stored⟩
        rcases List.pairwise_cons.mp distinct with ⟨different, later⟩
        have absent : (forall value, (key, value) ∉ rest) -> rest.flatMap body = [] := (ih later).2
        constructor
        · intro value member
          rw [List.flatMap_cons]
          rcases List.mem_cons.mp member with head | tail
          · cases head
            rw [absent, List.append_nil]
            intro again repeated
            exact different (key, again) repeated ReflCmp.compare_self
          · rw [silent other stored, (ih later).1 value tail, List.nil_append]
            intro same
            exact different (key, value) tail (same ▸ ReflCmp.compare_self)
        · intro missing
          rw [List.flatMap_cons, silent other stored, List.nil_append]
          · exact absent (fun value member => missing value (List.mem_cons_of_mem _ member))
          · intro same
            exact missing stored (same ▸ List.mem_cons_self)
  have spec := loop table.toList ExtTreeMap.distinct_keys_toList
  cases found : table[key]? with
  | none =>
      refine spec.2 (fun value member => ?_)
      rw [ExtTreeMap.mem_toList_iff_getElem?_eq_some, found] at member
      cases member
  | some value => exact spec.1 value (ExtTreeMap.mem_toList_iff_getElem?_eq_some.mpr found)

theorem filterMap_toList_of_ne {W : Type} (table : Table K V) (key : K) (body : K × V -> Option W)
    (silent : forall (other : K) (value : V), other ≠ key -> body (other, value) = none) :
    table.toList.filterMap body = (table[key]?.bind fun value => body (key, value)).toList := by
  rw [List.filterMap_eq_flatMap_toList, flatMap_toList_of_ne table key]
  · cases table[key]? <;> rfl
  · intro other value different
    rw [silent other value different]
    rfl

variable [DecidableEq K]

theorem getElem?_insert_eq (table : Table K V) (key other : K) (value : V) :
    (table.insert key value)[other]? = if other = key then some value else table[other]? := by
  rw [ExtTreeMap.getElem?_insert]
  simp only [LawfulEqCmp.compare_eq_iff_eq, eq_comm (a := key)]

theorem getElem?_erase_eq (table : Table K V) (key other : K) :
    (table.erase key)[other]? = if other = key then none else table[other]? := by
  rw [ExtTreeMap.getElem?_erase]
  simp only [LawfulEqCmp.compare_eq_iff_eq, eq_comm (a := key)]

/-- The entries after a subscript was read. -/
theorem getElem?_touch (table : Table K V) (key other : K) (value : V) :
    (table.insertIfNew key value)[other]? =
      if key = other then some (table[key]?.getD value) else table[other]? := by
  simp only [ExtTreeMap.getElem?_insertIfNew, LawfulEqCmp.compare_eq_iff_eq]
  by_cases same : key = other
  · subst other
    by_cases present : key ∈ table
    · simp only [present, not_true_eq_false, and_false, if_false, if_true,
        ExtTreeMap.getElem?_eq_some_getElem present, Option.getD_some]
    · simp only [present, not_false_eq_true, and_self, if_true, ExtTreeMap.getElem?_eq_none present,
        Option.getD_none]
  · simp only [same, false_and, if_false]

theorem erase_insert (table : Table K V) (key : K) (value : V) :
    (table.insert key value).erase key = table.erase key := by
  apply ExtTreeMap.ext_getElem?
  intro other
  rw [getElem?_erase_eq, getElem?_erase_eq, getElem?_insert_eq]
  split <;> rfl

theorem insert_insert (table : Table K V) (key : K) (first second : V) :
    (table.insert key first).insert key second = table.insert key second := by
  apply ExtTreeMap.ext_getElem?
  intro other
  rw [getElem?_insert_eq, getElem?_insert_eq, getElem?_insert_eq]
  split <;> rfl

theorem erase_insert_of_ne (table : Table K V) {key other : K} (value : V) (different : key ≠ other) :
    (table.insert key value).erase other = (table.erase other).insert key value := by
  apply ExtTreeMap.ext_getElem?
  intro wanted
  rw [getElem?_erase_eq, getElem?_insert_eq, getElem?_insert_eq, getElem?_erase_eq]
  by_cases same : wanted = key
  · rw [if_pos same, if_pos same, if_neg]
    exact fun equal => different (same.symm.trans equal)
  · rw [if_neg same, if_neg same]

/-- Assigning all entries of a table into another one overrides it. -/
theorem getElem?_insertMany_toList (base extra : Table K V) (key : K) :
    (base.insertMany extra.toList)[key]? = extra[key]?.or base[key]? := by
  cases held : extra[key]? with
  | none =>
      have absent : (extra.toList.map Prod.fst).contains key = false := by
        rw [ExtTreeMap.map_fst_toList_eq_keys]
        simpa using held
      rw [ExtTreeMap.getElem?_insertMany_list_of_contains_eq_false absent, Option.none_or]
  | some value =>
      exact ExtTreeMap.getElem?_insertMany_list_of_mem ReflCmp.compare_self
        ExtTreeMap.distinct_keys_toList (ExtTreeMap.mem_toList_iff_getElem?_eq_some.mpr held)

/-- A list with different keys is a table. -/
theorem getElem?_ofList_eq_some_iff {entries : List (K × V)}
    (distinct : entries.Pairwise fun left right => ¬ compare left.1 right.1 = .eq) (key : K) (value : V) :
    (ExtTreeMap.ofList entries : Table K V)[key]? = some value <-> (key, value) ∈ entries := by
  constructor
  · intro found
    by_cases listed : key ∈ entries.map Prod.fst
    · obtain ⟨entry, member, rfl⟩ := List.mem_map.mp listed
      have stored : (ExtTreeMap.ofList entries : Table K V)[entry.1]? = some entry.2 :=
        ExtTreeMap.getElem?_ofList_of_mem ReflCmp.compare_self distinct member
      cases stored.symm.trans found
      exact member
    · have absent : (ExtTreeMap.ofList entries : Table K V)[key]? = none := by
        apply ExtTreeMap.getElem?_ofList_of_contains_eq_false
        rwa [← Bool.not_eq_true, List.contains_iff_mem]
      cases absent.symm.trans found
  · exact ExtTreeMap.getElem?_ofList_of_mem ReflCmp.compare_self distinct

theorem getElem?_eraseAll (table : Table K V) (keys : List K) (key : K) :
    (table.eraseAll keys)[key]? = if key ∈ keys then none else table[key]? := by
  induction keys generalizing table with
  | nil => rfl
  | cons first rest ih =>
      change (eraseAll (ExtTreeMap.erase table first) rest)[key]? = _
      rw [ih, getElem?_erase_eq]
      by_cases later : key ∈ rest
      · rw [if_pos later, if_pos (List.mem_cons_of_mem first later)]
      · rw [if_neg later]
        by_cases same : key = first
        · rw [if_pos same, if_pos (List.mem_cons.mpr (.inl same))]
        · rw [if_neg same, if_neg (fun member => (List.mem_cons.mp member).elim same later)]

theorem eraseAll_congr (table : Table K V) {first second : List K}
    (same : forall key, key ∈ first <-> key ∈ second) :
    table.eraseAll first = table.eraseAll second := by
  apply ExtTreeMap.ext_getElem?
  intro key
  rw [getElem?_eraseAll, getElem?_eraseAll]
  simp only [same]

/-- Looking for one element of a set. -/
theorem filter_toList_eq (keys : Keys K) (key : K) :
    keys.toList.filter (fun other => other = key) = if key ∈ keys then [key] else [] := by
  rw [List.filter_eq, (nodup_toList keys).count]
  by_cases member : key ∈ keys
  · rw [if_pos (ExtTreeSet.mem_toList.mpr member), if_pos member]
    rfl
  · rw [if_neg (fun listed => member (ExtTreeSet.mem_toList.mp listed)), if_neg member]
    rfl

end

/-! ## Two levels -/

section

variable [Ord K] [TransOrd K] [Ord L]

/-- The inner table a subscript yields: the stored one, or an empty one. -/
def row (table : Table K (Table L V)) (key : K) : Table L V :=
  table.getD key ∅

/-- A row depends on its key only. -/
theorem row_congr {first second : Table K (Table L V)} {key : K} (same : first[key]? = second[key]?) :
    first.row key = second.row key := by
  rw [row, row, ExtTreeMap.getD_eq_getD_getElem?, ExtTreeMap.getD_eq_getD_getElem?, same]

theorem row_of_getElem? {table : Table K (Table L V)} {key : K} {inner : Table L V}
    (found : table[key]? = some inner) : table.row key = inner := by
  rw [row, ExtTreeMap.getD_eq_getD_getElem?, found]
  rfl

theorem row_of_not_mem {table : Table K (Table L V)} {key : K} (absent : key ∉ table) :
    table.row key = ∅ :=
  ExtTreeMap.getD_eq_fallback absent

section

variable [LawfulEqOrd K] [DecidableEq K]

theorem row_insert (table : Table K (Table L V)) (key other : K) (inner : Table L V) :
    Table.row (ExtTreeMap.insert table key inner) other =
      if key = other then inner else table.row other := by
  simp only [row, ExtTreeMap.getD_insert, LawfulEqCmp.compare_eq_iff_eq]

theorem row_erase (table : Table K (Table L V)) (key other : K) :
    Table.row (ExtTreeMap.erase table key) other =
      if key = other then ∅ else table.row other := by
  simp only [row, ExtTreeMap.getD_erase, LawfulEqCmp.compare_eq_iff_eq]

/-- An empty row is no different from none. -/
theorem row_touch (table : Table K (Table L V)) (key other : K) :
    Table.row (table.insertIfNew key ∅) other = table.row other := by
  rw [row, row, ExtTreeMap.getD_eq_getD_getElem?, ExtTreeMap.getD_eq_getD_getElem?, getElem?_touch]
  split
  next same => rw [Option.getD_some, same]
  next => rfl

end

variable [TransOrd L]

/-- The assignment `table[key][column] = value`. -/
def store (table : Table K (Table L V)) (key : K) (column : L) (value : V) :
    Table K (Table L V) :=
  table.insert key ((table.row key).insert column value)

/-- A loop of assignments into one row.  An empty loop creates no row. -/
def storeAll (table : Table K (Table L V)) (key : K) :
    List (L × V) -> Table K (Table L V)
  | [] => table
  | (column, value) :: rest => (table.store key column value).storeAll key rest

theorem mem_of_mem_row {table : Table K (Table L V)} {key : K} {column : L}
    (found : column ∈ table.row key) : key ∈ table := by
  apply Classical.byContradiction
  intro absent
  rw [row_of_not_mem absent] at found
  exact ExtTreeMap.not_mem_empty found

theorem getElem?_row_eq_some_iff {table : Table K (Table L V)} {key : K} {column : L} {value : V} :
    (table.row key)[column]? = some value <->
      Exists fun inner : Table L V => table[key]? = some inner ∧ inner[column]? = some value := by
  constructor
  · intro found
    by_cases present : key ∈ table
    · have stored := ExtTreeMap.getElem?_eq_some_getElem present
      rw [row_of_getElem? stored] at found
      exact ⟨_, stored, found⟩
    · rw [row_of_not_mem present, ExtTreeMap.getElem?_empty] at found
      cases found
  · rintro ⟨inner, stored, found⟩
    rw [row_of_getElem? stored, found]

variable [LawfulEqOrd K]

theorem mem_store (table : Table K (Table L V)) (key other : K) (column : L) (value : V) :
    other ∈ table.store key column value <-> key = other ∨ other ∈ table := by
  simp only [store, ExtTreeMap.mem_insert, LawfulEqCmp.compare_eq_iff_eq]

theorem mem_storeAll (table : Table K (Table L V)) (key other : K) (entries : List (L × V)) :
    other ∈ table.storeAll key entries <-> (key = other ∧ entries ≠ []) ∨ other ∈ table := by
  induction entries generalizing table with
  | nil => simp [storeAll]
  | cons entry rest ih =>
      rw [storeAll, ih, mem_store]
      constructor
      · rintro (⟨same, _⟩ | same | old)
        · exact Or.inl ⟨same, List.cons_ne_nil _ _⟩
        · exact Or.inl ⟨same, List.cons_ne_nil _ _⟩
        · exact Or.inr old
      · rintro (⟨same, _⟩ | old)
        · exact Or.inr (Or.inl same)
        · exact Or.inr (Or.inr old)

variable [DecidableEq K]

theorem of_getElem?_row_erase {table : Table K (Table L V)} {key other : K} {column : L} {value : V}
    (found : (Table.row (ExtTreeMap.erase table key) other)[column]? = some value) :
    key ≠ other ∧ (table.row other)[column]? = some value := by
  rw [row_erase] at found
  split at found
  next => cases found.symm.trans ExtTreeMap.getElem?_empty
  next different => exact ⟨different, found⟩

theorem of_getElem?_row_clear {table : Table K (Table L V)} {key other : K} {column : L} {value : V}
    (found : (Table.row (ExtTreeMap.insert table key ∅) other)[column]? = some value) :
    key ≠ other ∧ (table.row other)[column]? = some value := by
  rw [row_insert, ← row_erase] at found
  exact of_getElem?_row_erase found

/-- Other rows are not touched. -/
theorem getElem?_storeAll_of_ne (table : Table K (Table L V)) {key other : K} (entries : List (L × V))
    (different : other ≠ key) : (table.storeAll key entries)[other]? = table[other]? := by
  induction entries generalizing table with
  | nil => rfl
  | cons entry rest ih => rw [storeAll, ih, store, getElem?_insert_eq, if_neg different]

/-- The row depends on nothing but the row before. -/
theorem getElem?_storeAll_congr {first second : Table K (Table L V)} {key : K}
    (entries : List (L × V)) (same : first[key]? = second[key]?) :
    (first.storeAll key entries)[key]? = (second.storeAll key entries)[key]? := by
  induction entries generalizing first second with
  | nil => exact same
  | cons entry rest ih =>
      apply ih
      rw [store, store, getElem?_insert_eq, getElem?_insert_eq, row_congr same, if_pos rfl, if_pos rfl]

variable [LawfulEqOrd L]

/-- The loop adds exactly its own columns to the row. -/
theorem mem_row_storeAll (table : Table K (Table L V)) (key : K) (entries : List (L × V))
    (wanted : L) :
    wanted ∈ (table.storeAll key entries).row key <->
      wanted ∈ entries.map Prod.fst ∨ wanted ∈ table.row key := by
  induction entries generalizing table with
  | nil => simp [storeAll]
  | cons entry rest ih =>
      have stored : wanted ∈ (table.store key entry.1 entry.2).row key <->
          entry.1 = wanted ∨ wanted ∈ table.row key := by
        simp only [store, row_insert, if_true, ExtTreeMap.mem_insert, LawfulEqCmp.compare_eq_iff_eq]
      rw [storeAll, ih, stored, List.map_cons, List.mem_cons, @eq_comm _ wanted entry.1, or_left_comm,
        or_assoc]

variable [DecidableEq L]

/-- One column of one row is erased. -/
theorem getElem?_row_eraseColumn (table : Table K (Table L V)) (key other : K) (erased column : L) :
    (Table.row (ExtTreeMap.insert table key (ExtTreeMap.erase (table.row key) erased)) other)[column]? =
      if key = other ∧ erased = column then none else (table.row other)[column]? := by
  rw [row_insert]
  by_cases same : key = other
  · subst other
    simp only [if_true, ExtTreeMap.getElem?_erase, LawfulEqCmp.compare_eq_iff_eq, true_and]
  · rw [if_neg same, if_neg (fun both => same both.1)]

theorem mem_row_eraseColumn (table : Table K (Table L V)) (key other : K) (erased column : L) :
    column ∈ Table.row (ExtTreeMap.insert table key (ExtTreeMap.erase (table.row key) erased)) other <->
      ¬ (key = other ∧ erased = column) ∧ column ∈ table.row other := by
  rw [ExtTreeMap.mem_iff_isSome_getElem?, getElem?_row_eraseColumn, ExtTreeMap.mem_iff_isSome_getElem?]
  by_cases both : key = other ∧ erased = column
  · simp only [both, and_self, if_true, Option.isSome_none, Bool.false_eq_true, not_true_eq_false,
      false_and]
  · simp only [both, if_false, not_false_eq_true, true_and]

theorem of_getElem?_row_eraseColumn {table : Table K (Table L V)} {key other : K}
    {erased column : L} {value : V}
    (found : (Table.row (ExtTreeMap.insert table key (ExtTreeMap.erase (table.row key) erased)) other)[column]? =
      some value) : (table.row other)[column]? = some value := by
  rw [getElem?_row_eraseColumn] at found
  split at found
  · cases found
  · exact found

theorem getElem?_row_store (table : Table K (Table L V)) (key other : K) (column wanted : L)
    (value : V) :
    ((table.store key column value).row other)[wanted]? =
      if key = other ∧ column = wanted then some value else (table.row other)[wanted]? := by
  rw [store, row_insert]
  by_cases same : key = other
  · subst other
    simp only [if_true, ExtTreeMap.getElem?_insert, LawfulEqCmp.compare_eq_iff_eq, true_and]
  · simp only [same, false_and, if_false]

theorem getElem?_row_storeAll_of_ne (table : Table K (Table L V)) (key other : K)
    (entries : List (L × V)) (different : key ≠ other) (wanted : L) :
    ((table.storeAll key entries).row other)[wanted]? = (table.row other)[wanted]? := by
  induction entries generalizing table with
  | nil => rfl
  | cons entry rest ih =>
      rw [storeAll, ih, getElem?_row_store, if_neg (fun both => different both.1)]

/-- Whatever the row holds after the loop was assigned by it or held before. -/
theorem of_getElem?_row_storeAll (table : Table K (Table L V)) (key : K) (entries : List (L × V))
    (wanted : L) (value : V)
    (found : ((table.storeAll key entries).row key)[wanted]? = some value) :
    (wanted, value) ∈ entries ∨ (table.row key)[wanted]? = some value := by
  induction entries generalizing table with
  | nil => exact Or.inr found
  | cons entry rest ih =>
      rw [storeAll] at found
      rcases ih _ found with later | before
      · exact Or.inl (List.mem_cons_of_mem _ later)
      · rw [getElem?_row_store] at before
        by_cases same : entry.1 = wanted
        · subst same
          rw [if_pos ⟨rfl, rfl⟩] at before
          cases before
          exact Or.inl List.mem_cons_self
        · rw [if_neg (fun both => same both.2)] at before
          exact Or.inr before

end

/-! ## Sets in the cells of a two-level table -/

section

variable [Ord K] [TransOrd K] [Ord L] [Ord M]

/-- Write a row back, or drop it if nothing is left. -/
def shrinkRow (table : Table K (Table L (Keys M))) (key : K) (inner : Table L (Keys M)) :
    Table K (Table L (Keys M)) :=
  if inner.isEmpty then table.erase key else table.insert key inner

section

variable [LawfulEqOrd K] [DecidableEq K]

theorem getElem?_shrinkRow (table : Table K (Table L (Keys M))) (key other : K) (inner : Table L (Keys M)) :
    (table.shrinkRow key inner)[other]? =
      if other = key then if inner.isEmpty then none else some inner else table[other]? := by
  rw [shrinkRow]
  split
  · rw [getElem?_erase_eq]
  · rw [getElem?_insert_eq]

end

variable [TransOrd L]

/-- The set found under two keys, empty if either level is missing. -/
def cell (table : Table K (Table L (Keys M))) (key : K) (column : L) : Keys M :=
  (table.row key).getD column ∅

/-- Evaluating `table[key][column]` stores the missing levels. -/
def touchCell (table : Table K (Table L (Keys M))) (key : K) (column : L) :
    Table K (Table L (Keys M)) :=
  table.insert key ((table.row key).insertIfNew column ∅)

/-- Write a set back into its cell, or drop the cell if nothing is left. -/
def shrinkCell (inner : Table L (Keys M)) (column : L) (remaining : Keys M) : Table L (Keys M) :=
  if remaining.isEmpty then inner.erase column else inner.insert column remaining

/-- No empty row and no empty cell is stored. -/
structure Pruned (table : Table K (Table L (Keys M))) : Prop where
  rows : forall (key : K) (inner : Table L (Keys M)), table[key]? = some inner -> inner ≠ ∅
  cells : forall (key : K) (inner : Table L (Keys M)) (column : L) (members : Keys M),
    table[key]? = some inner -> inner[column]? = some members -> members ≠ ∅

theorem Pruned.empty : Pruned (∅ : Table K (Table L (Keys M))) where
  rows := by
    intro key inner found
    rw [ExtTreeMap.getElem?_empty] at found
    cases found
  cells := by
    intro key inner column members found
    rw [ExtTreeMap.getElem?_empty] at found
    cases found

/-- The cells of a row of a pruned table are inhabited, also where the row
is absent and the subscript yields an empty one. -/
theorem Pruned.row_cells {table : Table K (Table L (Keys M))} (pruned : table.Pruned) (key : K)
    (column : L) (members : Keys M) (stored : (table.row key)[column]? = some members) :
    members ≠ ∅ := by
  cases found : table[key]? with
  | none =>
      have absent : key ∉ table := by
        intro present
        have defined := ExtTreeMap.isSome_getElem?_iff_mem.mpr present
        rw [found] at defined
        cases defined
      rw [row_of_not_mem absent, ExtTreeMap.getElem?_empty] at stored
      cases stored
  | some inner =>
      rw [row_of_getElem? found] at stored
      exact pruned.cells key inner column members found stored

section

variable [LawfulEqOrd K] [DecidableEq K]

theorem cell_insert (table : Table K (Table L (Keys M))) (key other : K) (inner : Table L (Keys M))
    (column : L) :
    Table.cell (ExtTreeMap.insert table key inner) other column =
      if key = other then inner.getD column ∅ else table.cell other column := by
  rw [cell, row_insert]
  split <;> rfl

theorem cell_erase (table : Table K (Table L (Keys M))) (key other : K) (column : L) :
    Table.cell (ExtTreeMap.erase table key) other column =
      if key = other then ∅ else table.cell other column := by
  rw [cell, row_erase]
  by_cases same : key = other
  · rw [if_pos same, if_pos same, ExtTreeMap.getD_empty]
  · rw [if_neg same, if_neg same]
    rfl

theorem cell_shrinkRow (table : Table K (Table L (Keys M))) (key other : K)
    (inner : Table L (Keys M)) (wanted : L) :
    (table.shrinkRow key inner).cell other wanted =
      if key = other then inner.getD wanted ∅ else table.cell other wanted := by
  unfold shrinkRow
  split
  · rename_i vanished
    rw [cell_erase, ExtTreeMap.isEmpty_iff.mp vanished, ExtTreeMap.getD_empty]
  · rw [cell_insert]

/-- Replacing one row keeps the property if the new row has it. -/
theorem Pruned.insert {table : Table K (Table L (Keys M))} (pruned : table.Pruned) (key : K)
    (inner : Table L (Keys M)) (nonempty : inner ≠ ∅)
    (cells : forall (column : L) (members : Keys M),
      inner[column]? = some members -> members ≠ ∅) :
    Pruned (ExtTreeMap.insert table key inner) where
  rows other found stored := by
    rw [getElem?_insert_eq] at stored
    split at stored
    · cases stored
      exact nonempty
    · exact pruned.rows other found stored
  cells other found column members stored cellStored := by
    rw [getElem?_insert_eq] at stored
    split at stored
    · cases stored
      exact cells column members cellStored
    · exact pruned.cells other found column members stored cellStored

theorem Pruned.erase {table : Table K (Table L (Keys M))} (pruned : table.Pruned) (key : K) :
    Pruned (ExtTreeMap.erase table key) where
  rows other found stored := by
    rw [getElem?_erase_eq] at stored
    split at stored
    · cases stored
    · exact pruned.rows other found stored
  cells other found column members stored cellStored := by
    rw [getElem?_erase_eq] at stored
    split at stored
    · cases stored
    · exact pruned.cells other found column members stored cellStored

theorem Pruned.shrinkRow {table : Table K (Table L (Keys M))} (pruned : table.Pruned) (key : K)
    (inner : Table L (Keys M))
    (cells : forall (column : L) (members : Keys M),
      inner[column]? = some members -> members ≠ ∅) :
    Pruned (table.shrinkRow key inner) := by
  unfold Table.shrinkRow
  split
  · exact pruned.erase key
  · rename_i inhabited
    apply pruned.insert key inner _ cells
    intro vanished
    exact inhabited (ExtTreeMap.isEmpty_iff.mpr vanished)

variable [LawfulEqOrd L]

/-- A read through the subscript changes no set. -/
theorem cell_touchCell (table : Table K (Table L (Keys M))) (key other : K) (column wanted : L) :
    (table.touchCell key column).cell other wanted = table.cell other wanted := by
  rw [touchCell, cell_insert]
  by_cases same : key = other
  · subst other
    rw [if_pos rfl, ExtTreeMap.getD_insertIfNew]
    by_cases fresh : compare column wanted = .eq ∧ column ∉ table.row key
    · have equal := LawfulEqCmp.eq_of_compare fresh.1
      subst equal
      rw [if_pos fresh, cell, ExtTreeMap.getD_eq_fallback fresh.2]
    · rw [if_neg fresh]
      rfl
  · rw [if_neg same]

end

variable [TransOrd M]

/-- The call `table[key][column].insert(element)`. -/
def insertCell (table : Table K (Table L (Keys M))) (key : K) (column : L) (element : M) :
    Table K (Table L (Keys M)) :=
  table.insert key ((table.row key).insert column ((table.cell key column).insert element))

/-- Take an element out of its set, then drop the cell if it became empty,
then drop the row if it became empty. -/
def pruneCell (table : Table K (Table L (Keys M))) (key : K) (column : L) (element : M) :
    Table K (Table L (Keys M)) :=
  table.shrinkRow key
    (shrinkCell (table.row key) column ((table.cell key column).erase element))

theorem mem_row_of_mem_cell {table : Table K (Table L (Keys M))} {key : K} {column : L} {member : M}
    (found : member ∈ table.cell key column) : column ∈ table.row key := by
  apply Classical.byContradiction
  intro absent
  rw [cell, ExtTreeMap.getD_eq_fallback absent] at found
  exact ExtTreeSet.not_mem_empty found

section

variable [LawfulEqOrd K]

theorem mem_insertCell (table : Table K (Table L (Keys M))) (key other : K) (column : L)
    (element : M) :
    other ∈ table.insertCell key column element <-> key = other ∨ other ∈ table := by
  simp only [insertCell, ExtTreeMap.mem_insert, LawfulEqCmp.compare_eq_iff_eq]

/-- A row can only vanish or stay where a row was read. -/
theorem mem_of_mem_pruneCell {table : Table K (Table L (Keys M))} {key other : K} {column : L}
    {element : M} (present : key ∈ table)
    (member : other ∈ table.pruneCell key column element) : other ∈ table := by
  unfold pruneCell shrinkRow at member
  split at member
  · exact ExtTreeMap.mem_of_mem_erase member
  · rw [ExtTreeMap.mem_insert, LawfulEqCmp.compare_eq_iff_eq] at member
    rcases member with same | old
    · exact same ▸ present
    · exact old

variable [DecidableEq K] [LawfulEqOrd L]

/-- Reading an inhabited cell stores nothing. -/
theorem touchCell_of_mem {table : Table K (Table L (Keys M))} {key : K} {column : L} {member : M}
    (found : member ∈ table.cell key column) : table.touchCell key column = table := by
  have column_mem := mem_row_of_mem_cell found
  have key_mem := mem_of_mem_row column_mem
  rw [touchCell, insertIfNew_of_mem _ _ _ column_mem]
  apply ExtTreeMap.ext_getElem?
  intro other
  rw [getElem?_insert_eq]
  split
  next same => exact same ▸ (ExtTreeMap.getElem?_eq_some_getD key_mem).symm
  next => rfl

theorem insertCell_touchCell (table : Table K (Table L (Keys M))) (key : K) (column : L)
    (element : M) :
    (table.touchCell key column).insertCell key column element =
      table.insertCell key column element := by
  have sameCell := cell_touchCell table key key column column
  have sameRow : ((table.touchCell key column).row key).insert column
      ((table.cell key column).insert element) =
      (table.row key).insert column ((table.cell key column).insert element) := by
    rw [touchCell, row_insert, if_pos rfl]
    apply ExtTreeMap.ext_getElem?
    intro other
    simp only [ExtTreeMap.getElem?_insert, ExtTreeMap.getElem?_insertIfNew]
    by_cases same : compare column other = .eq
    · simp only [same, if_true]
    · simp only [same, if_false, false_and]
  rw [insertCell, sameCell, sameRow, insertCell, touchCell, insert_insert]

variable [DecidableEq L]

theorem Pruned.insertCell {table : Table K (Table L (Keys M))} (pruned : table.Pruned) (key : K)
    (column : L) (element : M) : Pruned (table.insertCell key column element) := by
  apply pruned.insert
  · exact ExtTreeMap.insert_ne_empty
  · intro other members stored
    rw [getElem?_insert_eq] at stored
    split at stored
    · cases stored
      exact ExtTreeSet.insert_ne_empty
    · exact pruned.row_cells key other members stored

theorem Pruned.pruneCell {table : Table K (Table L (Keys M))} (pruned : table.Pruned) (key : K)
    (column : L) (element : M) : Pruned (table.pruneCell key column element) := by
  apply pruned.shrinkRow
  intro other members stored
  unfold shrinkCell at stored
  split at stored
  next =>
    rw [getElem?_erase_eq] at stored
    split at stored
    · cases stored
    · exact pruned.row_cells key other members stored
  next remains =>
    rw [getElem?_insert_eq] at stored
    split at stored
    · cases stored
      exact fun vanished => remains (ExtTreeSet.isEmpty_iff.mpr vanished)
    · exact pruned.row_cells key other members stored

end

section

variable [LawfulEqOrd L] [DecidableEq L]

theorem getD_shrinkCell (inner : Table L (Keys M)) (column wanted : L) (remaining : Keys M) :
    (shrinkCell inner column remaining).getD wanted ∅ =
      if column = wanted then remaining else inner.getD wanted ∅ := by
  unfold shrinkCell
  split
  · rename_i vanished
    simp only [ExtTreeMap.getD_erase, LawfulEqCmp.compare_eq_iff_eq]
    rw [ExtTreeSet.isEmpty_iff.mp vanished]
  · simp only [ExtTreeMap.getD_insert, LawfulEqCmp.compare_eq_iff_eq]

variable [LawfulEqOrd K] [DecidableEq K] [LawfulEqOrd M]

/-- Exactly one membership is added. -/
theorem mem_cell_insertCell (table : Table K (Table L (Keys M))) (key other : K)
    (column wanted : L) (element member : M) :
    member ∈ (table.insertCell key column element).cell other wanted <->
      (key = other ∧ column = wanted ∧ element = member) ∨ member ∈ table.cell other wanted := by
  rw [insertCell, cell_insert]
  by_cases same : key = other
  · subst other
    simp only [if_true, ExtTreeMap.getD_insert, LawfulEqCmp.compare_eq_iff_eq, true_and]
    by_cases sameColumn : column = wanted
    · subst wanted
      simp only [if_true, ExtTreeSet.mem_insert, LawfulEqCmp.compare_eq_iff_eq, true_and]
    · simp only [sameColumn, if_false, false_and, false_or]
      rfl
  · simp only [same, if_false, false_and, false_or]

/-- Exactly one membership is taken away. -/
theorem mem_cell_pruneCell (table : Table K (Table L (Keys M))) (key other : K)
    (column wanted : L) (element member : M) :
    member ∈ (table.pruneCell key column element).cell other wanted <->
      ¬ (key = other ∧ column = wanted ∧ element = member) ∧ member ∈ table.cell other wanted := by
  rw [pruneCell, cell_shrinkRow, getD_shrinkCell]
  by_cases sameKey : key = other
  · subst other
    by_cases sameColumn : column = wanted
    · subst wanted
      simp only [if_true, ExtTreeSet.mem_erase, ne_eq, LawfulEqCmp.compare_eq_iff_eq, true_and]
    · simp only [if_true, sameColumn, if_false, false_and, and_false, not_false_eq_true, true_and]
      rfl
  · simp only [sameKey, if_false, false_and, not_false_eq_true, true_and]

end

end

end Table
end Foundation
end Umundo
