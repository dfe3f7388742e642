import Mathlib.Tactic.Common

namespace Umundo
namespace Foundation

/-!
# Actions on one part of a state

A state has a part for every key, and `view state key` is that part together with
everything that all parts share.  An action belongs to a key if it looks at nothing but
that view, and leaves the views of all other keys as they are.  Two actions that belong to
different keys can be carried out in either order.
-/

variable {State Key View Output : Type}

/-- The action looks at the view of one key, and changes no other view. -/
structure ActsAt (view : State -> Key -> View) (key : Key) (act : State -> State × List Output) :
    Prop where
  elsewhere : forall (state : State) (other : Key), other ≠ key ->
    view (act state).1 other = view state other
  determined : forall {first second : State}, view first key = view second key ->
    view (act first).1 key = view (act second).1 key ∧ (act first).2 = (act second).2

namespace ActsAt

variable {view : State -> Key -> View} {key : Key} {act next : State -> State × List Output}

/-- Nothing is changed. -/
theorem emits {outputs : State -> List Output}
    (determined : forall {first second : State}, view first key = view second key ->
      outputs first = outputs second) : ActsAt view key fun state => (state, outputs state) where
  elsewhere _ _ _ := rfl
  determined same := ⟨same, determined same⟩

theorem idle : ActsAt view key fun state => (state, ([] : List Output)) :=
  emits fun _ => rfl

/-- The same action, written in another way. -/
theorem congr (first : ActsAt view key act) (same : forall state, next state = act state) :
    ActsAt view key next := by
  rw [funext same]
  exact first

/-- One action after the other. -/
theorem followedBy (first : ActsAt view key act) (second : ActsAt view key next) :
    ActsAt view key fun state => ((next (act state).1).1, (act state).2 ++ (next (act state).1).2) where
  elsewhere state other different :=
    (second.elsewhere _ other different).trans (first.elsewhere state other different)
  determined same := by
    obtain ⟨middle, before⟩ := first.determined same
    obtain ⟨final, after⟩ := second.determined middle
    exact ⟨final, by rw [before, after]⟩

/-- A choice that the view decides. -/
theorem choice {condition : State -> Prop} [DecidablePred condition]
    (decided : forall {first second : State}, view first key = view second key ->
      (condition first <-> condition second))
    (yes : ActsAt view key act) (no : ActsAt view key next) :
    ActsAt view key fun state => if condition state then act state else next state where
  elsewhere state other different := by
    split
    · exact yes.elsewhere state other different
    · exact no.elsewhere state other different
  determined {first second} same := by
    by_cases met : condition first
    · rw [if_pos met, if_pos ((decided same).mp met)]
      exact yes.determined same
    · rw [if_neg met, if_neg (mt (decided same).mpr met)]
      exact no.determined same

/-- A look-up that the view decides, and what is done with its result. -/
theorem lookup {Value : Type} (value : State -> Option Value) {acts : Value -> State -> State × List Output}
    (decided : forall {first second : State}, view first key = view second key ->
      value first = value second)
    (found : forall held, ActsAt view key (acts held)) (missed : ActsAt view key act) :
    ActsAt view key fun state => (value state).elim (act state) fun held => acts held state where
  elsewhere state other different := by
    cases value state with
    | none => exact missed.elsewhere state other different
    | some held => exact (found held).elsewhere state other different
  determined {first second} same := by
    rw [decided same]
    cases value second with
    | none => exact missed.determined same
    | some held => exact (found held).determined same

/-- Whatever happens at another key does not influence an action. -/
theorem unaffected {other : Key} (first : ActsAt view key act) (second : ActsAt view other next)
    (different : key ≠ other) (state : State) :
    view (act (next state).1).1 key = view (act state).1 key ∧ (act (next state).1).2 = (act state).2 :=
  first.determined (second.elsewhere state key different)

/-- Actions at different keys commute. -/
theorem commute (extensional : forall {first second : State},
      (forall key, view first key = view second key) -> first = second)
    {other : Key} (first : ActsAt view key act) (second : ActsAt view other next)
    (different : key ≠ other) (state : State) :
    (next (act state).1).1 = (act (next state).1).1 := by
  apply extensional
  intro part
  by_cases here : part = key
  · subst here
    rw [second.elsewhere _ _ different, (first.unaffected second different state).1]
  · by_cases there : part = other
    · subst there
      rw [first.elsewhere _ _ here, (second.unaffected first different.symm state).1]
    · rw [second.elsewhere _ _ there, first.elsewhere _ _ here, first.elsewhere _ _ here,
        second.elsewhere _ _ there]

end ActsAt

end Foundation
end Umundo
