import Mathlib.Tactic.Common

namespace Umundo
namespace Foundation

/-!
# A set replicated over a first-in first-out channel

One side owns a set and announces each insertion and removal; the other side
keeps a copy and applies the announcements as they arrive.  `replay` is the
copy after all announcements still in flight have been applied.  The owner's
set and the replayed copy agree in every state of a correct replication,
although the copy itself lags behind.
-/

/-- One announcement about an element. -/
inductive Update (Element : Type) where
  | add (element : Element)
  | remove (element : Element)

namespace Update

variable {Element : Type}

/-- The element an announcement is about. -/
def subject : Update Element -> Element
  | add element => element
  | remove element => element

/-- Apply one announcement to a copy. -/
def apply (present : Element -> Prop) : Update Element -> Element -> Prop
  | add element, other => element = other ∨ present other
  | remove element, other => element ≠ other ∧ present other

theorem apply_mono {smaller larger : Element -> Prop} (update : Update Element) {other : Element}
    (included : smaller other -> larger other) :
    update.apply smaller other -> update.apply larger other := by
  cases update with
  | add element =>
      rintro (same | old)
      · exact Or.inl same
      · exact Or.inr (included old)
  | remove element =>
      rintro ⟨different, old⟩
      exact ⟨different, included old⟩

end Update

variable {Element : Type}

/-- The copy after all announcements in flight have been applied, in order. -/
def replay (present : Element -> Prop) : List (Update Element) -> Element -> Prop
  | [] => present
  | update :: rest => replay (update.apply present) rest

@[simp] theorem replay_nil (present : Element -> Prop) (element : Element) :
    replay present [] element <-> present element := Iff.rfl

theorem replay_cons (present : Element -> Prop) (update : Update Element)
    (rest : List (Update Element)) (element : Element) :
    replay present (update :: rest) element <-> replay (update.apply present) rest element :=
  Iff.rfl

theorem replay_append (present : Element -> Prop) (first second : List (Update Element))
    (element : Element) :
    replay present (first ++ second) element <-> replay (replay present first) second element := by
  induction first generalizing present with
  | nil => exact Iff.rfl
  | cons update rest ih => exact ih (update.apply present)

/-- Only the copy's own view of an element decides what is replayed for it. -/
theorem replay_mono {smaller larger : Element -> Prop} (updates : List (Update Element))
    {element : Element} (included : smaller element -> larger element) :
    replay smaller updates element -> replay larger updates element := by
  induction updates generalizing smaller larger with
  | nil => exact included
  | cons update rest ih => exact ih (update.apply_mono included)

theorem replay_congr {left right : Element -> Prop} (updates : List (Update Element))
    {element : Element} (same : left element <-> right element) :
    replay left updates element <-> replay right updates element :=
  ⟨replay_mono updates same.mp, replay_mono updates same.mpr⟩

/-- Without a removal of an element, it is in the copy if it was there or is
announced. -/
theorem replay_of_remove_not_mem (present : Element -> Prop) (updates : List (Update Element))
    {element : Element} (kept : .remove element ∉ updates) :
    replay present updates element <-> .add element ∈ updates ∨ present element := by
  induction updates generalizing present with
  | nil => simp
  | cons update rest ih =>
      have parts := not_or.mp (mt List.mem_cons.mpr kept)
      rw [replay_cons, ih _ parts.2, List.mem_cons]
      cases update with
      | add added =>
          simp only [Update.apply, Update.add.injEq]
          grind
      | remove removed =>
          have different : removed ≠ element := fun same => parts.1 (same ▸ rfl)
          simp only [Update.apply, different, ne_eq, not_false_eq_true, true_and, reduceCtorEq,
            false_or]

/-- Without an announcement of an element, it is in the copy if it was there
and is not removed. -/
theorem replay_of_add_not_mem (present : Element -> Prop) (updates : List (Update Element))
    {element : Element} (unannounced : .add element ∉ updates) :
    replay present updates element <-> .remove element ∉ updates ∧ present element := by
  induction updates generalizing present with
  | nil => simp
  | cons update rest ih =>
      have parts := not_or.mp (mt List.mem_cons.mpr unannounced)
      rw [replay_cons, ih _ parts.2, List.mem_cons]
      cases update with
      | add added =>
          have different : added ≠ element := fun same => parts.1 (same ▸ rfl)
          simp only [Update.apply, different, false_or, reduceCtorEq]
      | remove removed =>
          simp only [Update.apply, Update.remove.injEq]
          grind

/-- An element is in the copy if nothing removes it after it was last announced. -/
theorem replay_iff (present : Element -> Prop) (updates : List (Update Element)) (element : Element) :
    replay present updates element <->
      (Exists fun before => Exists fun after =>
        updates = before ++ .add element :: after ∧ .remove element ∉ after) ∨
      (present element ∧ .remove element ∉ updates) := by
  induction updates generalizing present with
  | nil => simp
  | cons update rest ih =>
      rw [replay_cons, ih]
      constructor
      · rintro (⟨before, after, split, kept⟩ | ⟨applied, kept⟩)
        · exact .inl ⟨update :: before, after, by rw [split]; rfl, kept⟩
        · cases update with
          | add added =>
              rcases applied with rfl | old
              · exact .inl ⟨[], rest, rfl, kept⟩
              · exact .inr ⟨old, by simpa using kept⟩
          | remove removed =>
              exact .inr ⟨applied.2, by simpa using ⟨applied.1.symm, kept⟩⟩
      · rintro (⟨before, after, split, kept⟩ | ⟨old, kept⟩)
        · cases before with
          | nil =>
              obtain ⟨rfl, rfl⟩ := List.cons.inj split
              exact .inr ⟨.inl rfl, kept⟩
          | cons first before =>
              exact .inl ⟨before, after, (List.cons.inj split).2, kept⟩
        · obtain ⟨here, later⟩ := not_or.mp (mt List.mem_cons.mpr kept)
          refine .inr ⟨?_, later⟩
          cases update with
          | add added => exact .inr old
          | remove removed => exact ⟨fun same => here (same ▸ rfl), old⟩

/-- No announced element is removed after it was last announced. -/
def Settled (updates : List (Update Element)) : Prop :=
  forall element, .add element ∈ updates -> Exists fun before => Exists fun after =>
    updates = before ++ .add element :: after ∧ .remove element ∉ after

theorem replay_grouped (present : Element -> Prop) (removals additions : List Element)
    (element : Element) :
    replay present (removals.map .remove ++ additions.map .add) element <->
      element ∈ additions ∨ (element ∉ removals ∧ present element) := by
  rw [replay_append, replay_of_remove_not_mem _ _ (by simp), replay_of_add_not_mem _ _ (by simp)]
  simp

/-- Applying all removals before all announcements changes nothing exactly for a settled
list of updates. -/
theorem replay_grouped_iff_settled (present : Element -> Prop) {updates : List (Update Element)}
    (removals additions : List Element)
    (removed : forall element, .remove element ∈ updates <-> element ∈ removals)
    (added : forall element, .add element ∈ updates <-> element ∈ additions) :
    (forall element, replay present updates element <->
      replay present (removals.map .remove ++ additions.map .add) element) <-> Settled updates := by
  constructor
  · intro same element announced
    have kept := (same element).mpr
      ((replay_grouped present removals additions element).mpr (.inl ((added element).mp announced)))
    rcases (replay_iff present updates element).mp kept with last | ⟨_, untouched⟩
    · exact last
    · obtain ⟨before, after, split⟩ := List.append_of_mem announced
      refine ⟨before, after, split, fun later => untouched ?_⟩
      rw [split]
      exact List.mem_append_right before (List.mem_cons_of_mem _ later)
  · intro settled element
    rw [replay_grouped, replay_iff, ← added, ← removed]
    constructor
    · rintro (⟨before, after, split, _⟩ | ⟨old, untouched⟩)
      · exact .inl (split ▸ List.mem_append_right before List.mem_cons_self)
      · exact .inr ⟨untouched, old⟩
    · rintro (announced | ⟨untouched, old⟩)
      · exact .inl (settled element announced)
      · exact .inr ⟨old, untouched⟩

theorem present_or_add_of_replay {present : Element -> Prop} {updates : List (Update Element)}
    {element : Element} (replayed : replay present updates element) :
    present element ∨ .add element ∈ updates := by
  induction updates generalizing present with
  | nil => exact Or.inl replayed
  | cons update rest ih =>
      rcases ih replayed with applied | later
      · cases update with
        | add added =>
            rcases applied with same | old
            · exact Or.inr (same ▸ List.mem_cons_self)
            · exact Or.inl old
        | remove removed => exact Or.inl applied.2
      · exact Or.inr (List.mem_cons_of_mem _ later)

instance Update.decidableApply [DecidableEq Element] (present : Element -> Prop)
    [DecidablePred present] (update : Update Element) : DecidablePred (update.apply present) :=
  match update with
  | .add element => fun other => inferInstanceAs (Decidable (element = other ∨ present other))
  | .remove element => fun other => inferInstanceAs (Decidable (element ≠ other ∧ present other))

instance replay.decidable [DecidableEq Element] (present : Element -> Prop)
    [DecidablePred present] (updates : List (Update Element)) : DecidablePred (replay present updates) :=
  match updates with
  | [] => inferInstanceAs (DecidablePred present)
  | update :: rest => replay.decidable (update.apply present) rest

end Foundation
end Umundo
