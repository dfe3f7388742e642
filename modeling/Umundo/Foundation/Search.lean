import Mathlib.Data.List.Infix

namespace Umundo
namespace Foundation

/-!
# The first occurrence of a list in another one

A search yields the offset of the first occurrence.  Whether something occurs at all, and
whether it stands at the beginning, can be read off the offset.  Whether it stands at the
end cannot, because there may be an occurrence before the last one.
-/

section

variable {Letter : Type} [DecidableEq Letter]

/-- The offset of the first occurrence. -/
def position (target : List Letter) : List Letter -> Option Nat
  | [] => if target = [] then some 0 else none
  | letter :: rest =>
      if target <+: letter :: rest then some 0 else (position target rest).map (· + 1)

variable {target text : List Letter}

theorem position_eq_zero_iff : position target text = some 0 <-> target <+: text := by
  cases text with
  | nil => simp [position]
  | cons letter rest =>
      rw [position]
      split
      next begins => exact iff_of_true rfl begins
      next elsewhere => simp [elsewhere]

/-- The offset that is found is the offset of an occurrence, and the first one. -/
theorem position_eq_some_iff {offset : Nat} :
    position target text = some offset <->
      offset ≤ text.length ∧ target <+: text.drop offset ∧
        forall earlier, earlier < offset -> ¬ target <+: text.drop earlier := by
  induction text generalizing offset with
  | nil =>
      simp only [position, List.drop_nil, List.prefix_nil, List.length_nil, Nat.le_zero]
      by_cases empty : target = []
      · simp only [empty, if_true, Option.some.injEq, true_and, not_true_eq_false]
        constructor
        · rintro rfl
          exact ⟨rfl, nofun⟩
        · exact fun found => found.1.symm
      · simp [empty]
  | cons letter rest ih =>
      cases offset with
      | zero =>
          rw [position_eq_zero_iff]
          simp
      | succ offset =>
          rw [position]
          split
          next begins =>
            refine iff_of_false (by simp) ?_
            rintro ⟨_, _, first⟩
            exact first 0 (Nat.succ_pos offset) begins
          next elsewhere =>
            simp only [Option.map_eq_some_iff, Nat.add_right_cancel_iff, exists_eq_right, ih,
              List.length_cons, List.drop_succ_cons, Nat.add_le_add_iff_right]
            refine and_congr_right fun _ => and_congr_right fun _ => ?_
            constructor
            · intro first earlier before
              cases earlier with
              | zero => exact elsewhere
              | succ earlier => exact first earlier (Nat.lt_of_succ_lt_succ before)
            · intro first earlier before
              exact first (earlier + 1) (Nat.succ_lt_succ before)

/-- Something is found exactly if it occurs. -/
theorem position_ne_none_iff : position target text ≠ none <-> target <:+: text := by
  induction text with
  | nil => simp [position]
  | cons letter rest ih =>
      rw [position, List.infix_cons_iff]
      split
      next begins => exact iff_of_true nofun (.inl begins)
      next elsewhere =>
        rw [or_iff_right elsewhere, ← ih]
        cases position target rest <;> simp

/-- No occurrence leaves something behind. -/
def OnlyAtEnd (target text : List Letter) : Prop :=
  forall before after, text = before ++ (target ++ after) -> after = []

/-- The first occurrence is found at the end if it is the only one. -/
theorem position_eq_length_sub_iff :
    (target.length ≤ text.length ∧ position target text = some (text.length - target.length)) <->
      target <:+ text ∧ OnlyAtEnd target text := by
  constructor
  · rintro ⟨short, found⟩
    obtain ⟨inside, ends, first⟩ := position_eq_some_iff.mp found
    have whole : target = text.drop (text.length - target.length) := by
      refine ends.eq_of_length ?_
      rw [List.length_drop]
      omega
    refine ⟨List.suffix_iff_eq_drop.mpr whole, ?_⟩
    rintro before after rfl
    by_contra more
    have rest : 0 < after.length := List.length_pos_iff.mpr more
    refine first before.length ?_ ?_
    · simp only [List.length_append]
      omega
    · rw [List.drop_left]
      exact List.prefix_append target after
  · rintro ⟨⟨before, rfl⟩, only⟩
    have offset : (before ++ target).length - target.length = before.length := by
      rw [List.length_append, Nat.add_sub_cancel]
    refine ⟨by simp, ?_⟩
    rw [offset, position_eq_some_iff]
    refine ⟨by simp, by simp, ?_⟩
    rintro earlier sooner ⟨after, occurrence⟩
    have split : before ++ target = (before ++ target).take earlier ++ (target ++ after) := by
      rw [occurrence, List.take_append_drop]
    have nothing := only _ _ split
    have lengths := congrArg List.length split
    rw [nothing] at lengths
    simp only [List.length_append, List.length_take, List.length_nil] at lengths
    omega

end

end Foundation
end Umundo
