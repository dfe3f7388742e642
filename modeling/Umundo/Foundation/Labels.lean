import Umundo.Foundation.Table

namespace Umundo
namespace Foundation

open Std

/-!
# Tables inside tables

The entries of an inner table can be kept in an outer one, if their keys are marked.  A
label marks a key and recognises the keys it has marked.  Nothing else is required of it,
so keys may be strings of any kind.

What is written under a label and what is read from there are described by lookups alone.
Entries under other labels are passed over one at a time.
-/

/-- A way to mark keys, and to recognise those that are marked. -/
structure Label (Key : Type) where
  attach : Key -> Key
  detach : Key -> Option Key
  detach_eq_some_iff : forall whole rest, detach whole = some rest <-> whole = attach rest

namespace Label

section

variable {Key : Type} (label : Label Key)

theorem detach_attach (key : Key) : label.detach (label.attach key) = some key :=
  (label.detach_eq_some_iff _ _).mpr rfl

theorem attach_injective {first second : Key} (same : label.attach first = label.attach second) :
    first = second := by
  have detached := label.detach_attach first
  rw [same, label.detach_attach] at detached
  exact (Option.some.inj detached).symm

/-- What one of two labels marks is not marked by the other one. -/
def Apart (first second : Label Key) : Prop :=
  forall key, first.detach (second.attach key) = none

end

variable {Key Value : Type} [Ord Key] [LawfulEqOrd Key] (label : Label Key)

private theorem distinct_detach (entries : List (Key × Value))
    (distinct : entries.Pairwise fun left right => ¬ compare left.1 right.1 = .eq) :
    (entries.filterMap fun entry => (label.detach entry.1).map fun key => (key, entry.2)).Pairwise
      fun left right => ¬ compare left.1 right.1 = .eq := by
  apply distinct.filterMap
  intro left right different kept leftKept other rightKept
  obtain ⟨leftKey, leftDetached, rfl⟩ := Option.map_eq_some_iff.mp leftKept
  obtain ⟨rightKey, rightDetached, rfl⟩ := Option.map_eq_some_iff.mp rightKept
  rw [LawfulEqCmp.compare_eq_iff_eq] at different ⊢
  intro same
  apply different
  rw [(label.detach_eq_some_iff _ _).mp leftDetached, (label.detach_eq_some_iff _ _).mp rightDetached]
  exact congrArg label.attach same

private theorem distinct_attach (entries : List (Key × Value))
    (distinct : entries.Pairwise fun left right => ¬ compare left.1 right.1 = .eq) :
    (entries.map fun entry => (label.attach entry.1, entry.2)).Pairwise
      fun left right => ¬ compare left.1 right.1 = .eq := by
  apply List.pairwise_map.mpr
  apply distinct.imp
  intro left right different
  rw [LawfulEqCmp.compare_eq_iff_eq] at different ⊢
  intro same
  exact different (label.attach_injective same)

variable [TransOrd Key]

/-- The entries under a label, with the label cut off. -/
def read (table : Table Key Value) : Table Key Value :=
  ExtTreeMap.ofList (table.toList.filterMap fun entry =>
    (label.detach entry.1).map fun key => (key, entry.2))

/-- Add all entries of a table under a label. -/
def write (inner table : Table Key Value) : Table Key Value :=
  table.insertMany (inner.toList.map fun entry => (label.attach entry.1, entry.2))

variable [DecidableEq Key]

theorem getElem?_read (table : Table Key Value) (key : Key) :
    (label.read table)[key]? = table[label.attach key]? := by
  have distinct := label.distinct_detach _ (ExtTreeMap.distinct_keys_toList (t := table))
  refine Option.ext fun value => ?_
  rw [read, Table.getElem?_ofList_eq_some_iff distinct, List.mem_filterMap,
    ← ExtTreeMap.mem_toList_iff_getElem?_eq_some]
  constructor
  · rintro ⟨⟨whole, stored⟩, present, detached⟩
    obtain ⟨rest, begins, same⟩ := Option.map_eq_some_iff.mp detached
    cases same
    rwa [← (label.detach_eq_some_iff _ _).mp begins]
  · intro present
    refine ⟨(label.attach key, value), present, ?_⟩
    rw [label.detach_attach]
    rfl

/-- An entry with the label comes from the inner table if it has one. -/
theorem getElem?_write_self (inner table : Table Key Value) (key : Key) :
    (label.write inner table)[label.attach key]? = inner[key]?.or table[label.attach key]? := by
  rw [write]
  cases held : inner[key]? with
  | none =>
      rw [Option.none_or]
      apply ExtTreeMap.getElem?_insertMany_list_of_contains_eq_false
      rw [← Bool.not_eq_true, List.contains_iff_mem]
      intro listed
      obtain ⟨found, member, same⟩ := List.mem_map.mp listed
      obtain ⟨⟨other, stored⟩, present, rfl⟩ := List.mem_map.mp member
      cases label.attach_injective same
      cases held.symm.trans (ExtTreeMap.mem_toList_iff_getElem?_eq_some.mp present)
  | some value =>
      apply ExtTreeMap.getElem?_insertMany_list_of_mem ReflCmp.compare_self
      · exact label.distinct_attach _ ExtTreeMap.distinct_keys_toList
      · exact List.mem_map.mpr ⟨(key, value), ExtTreeMap.mem_toList_iff_getElem?_eq_some.mpr held, rfl⟩

/-- An entry without the label is not touched. -/
theorem getElem?_write_other (inner table : Table Key Value) {key : Key}
    (unlabelled : label.detach key = none) : (label.write inner table)[key]? = table[key]? := by
  apply ExtTreeMap.getElem?_insertMany_list_of_contains_eq_false
  rw [← Bool.not_eq_true, List.contains_iff_mem]
  intro listed
  obtain ⟨found, member, same⟩ := List.mem_map.mp listed
  obtain ⟨⟨other, stored⟩, present, rfl⟩ := List.mem_map.mp member
  change label.attach other = key at same
  rw [← same, label.detach_attach] at unlabelled
  cases unlabelled

end Label

/-! ## Labels made of letters -/

section

variable {Letter : Type} {first second : List Letter}

/-- Neither list begins with the other one. -/
def Diverge (first second : List Letter) : Prop :=
  ¬ first <+: second ∧ ¬ second <+: first

/-- Whatever follows the one list, it does not begin with the other one. -/
theorem Diverge.not_prefix_append (diverge : Diverge first second) (key : List Letter) :
    ¬ first <+: second ++ key := by
  intro begins
  rcases List.prefix_or_prefix_of_prefix begins (List.prefix_append second key) with inside | outside
  · exact diverge.1 inside
  · exact diverge.2 outside

theorem Diverge.append_ne (diverge : Diverge first second) (key : List Letter) : first ++ key ≠ second := by
  rintro rfl
  exact diverge.1 (List.prefix_append first key)

variable [DecidableEq Letter]

instance (first second : List Letter) : Decidable (Diverge first second) :=
  inferInstanceAs (Decidable (_ ∧ _))

/-- The label that puts some letters in front of a key. -/
def Label.ofList (letters : List Letter) : Label (List Letter) where
  attach key := letters ++ key
  detach whole := if letters <+: whole then some (whole.drop letters.length) else none
  detach_eq_some_iff whole rest := by
    constructor
    · intro detached
      split at detached
      next begins =>
        cases detached
        obtain ⟨key, rfl⟩ := begins
        rw [List.drop_left]
      next => cases detached
    · rintro rfl
      rw [if_pos (List.prefix_append letters rest), List.drop_left]

theorem Diverge.detach (diverge : Diverge first second) : (Label.ofList first).detach second = none :=
  if_neg diverge.1

/-- Labels that diverge are never confused. -/
theorem Diverge.apart (diverge : Diverge first second) : (Label.ofList first).Apart (Label.ofList second) :=
  fun key => if_neg (diverge.not_prefix_append key)

end

end Foundation
end Umundo
