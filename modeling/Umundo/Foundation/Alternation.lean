import Mathlib.Data.List.Chain
import Umundo.Foundation.Machine

namespace Umundo
namespace Foundation

/-!
# Calls that open and close

Something is opened by one call and closed by another one.  The calls alternate if each
of them finds it the other way round.  They are balanced if it is never closed more often
than it was opened, which is all that is left if it may also be given up without a call.

The rules at the end derive both for whole runs of a machine from what one step does.
-/

section

variable {Call : Type} (opening closing : Call)

/-- Every call changes whether it is open. -/
def Alternates : Bool -> List Call -> Prop
  | _, [] => True
  | false, call :: rest => call = opening ∧ Alternates true rest
  | true, call :: rest => call = closing ∧ Alternates false rest

/-- What one step does: nothing, or one call that changes whether it is open. -/
inductive Switches : Bool -> List Call -> Bool -> Prop
  | idle (isOpen : Bool) : Switches isOpen [] isOpen
  | opens : Switches false [opening] true
  | closes : Switches true [closing] false

/-- After every call it was closed at most as often as it was opened, the credit included. -/
def Balanced [BEq Call] (credit : Nat) (calls : List Call) : Prop :=
  forall earlier, earlier <+: calls -> earlier.count closing ≤ earlier.count opening + credit

end

section

variable {Call : Type} {opening closing : Call}

theorem Switches.alternates_append {isOpen after : Bool} {calls : List Call}
    (switches : Switches opening closing isOpen calls after) (rest : List Call) :
    Alternates opening closing isOpen (calls ++ rest) <-> Alternates opening closing after rest := by
  cases switches with
  | idle => exact Iff.rfl
  | opens => exact and_iff_right rfl
  | closes => exact and_iff_right rfl

/-- No two successive calls are equal. -/
theorem Alternates.isChain (different : opening ≠ closing) {isOpen : Bool} {calls : List Call}
    (alternates : Alternates opening closing isOpen calls) : calls.IsChain (· ≠ ·) := by
  induction calls generalizing isOpen with
  | nil => exact .nil
  | cons call rest ih =>
      cases rest with
      | nil => exact .singleton call
      | cons next rest =>
          cases isOpen with
          | false =>
              obtain ⟨rfl, rfl, later⟩ := alternates
              exact .cons_cons different (@ih true ⟨rfl, later⟩)
          | true =>
              obtain ⟨rfl, rfl, later⟩ := alternates
              exact .cons_cons different.symm (@ih false ⟨rfl, later⟩)

variable [BEq Call]

theorem Balanced.nil (credit : Nat) : Balanced opening closing credit [] := by
  intro earlier begins
  rw [List.prefix_nil.mp begins]
  exact Nat.zero_le _

theorem Balanced.mono {credit more : Nat} (le : credit ≤ more) {calls : List Call}
    (balanced : Balanced opening closing credit calls) : Balanced opening closing more calls :=
  fun earlier begins => Nat.le_trans (balanced earlier begins) (Nat.add_le_add_left le _)

/-- A call pays for the calls after it, or is paid from the credit. -/
theorem Balanced.cons [LawfulBEq Call] (different : opening ≠ closing) {call : Call} {credit next : Nat}
    {calls : List Call} (paid : call = opening ∧ next = credit + 1 ∨ call = closing ∧ credit = next + 1)
    (balanced : Balanced opening closing next calls) :
    Balanced opening closing credit (call :: calls) := by
  intro earlier begins
  rcases List.prefix_cons_iff.mp begins with rfl | ⟨rest, rfl, inner⟩
  · exact Nat.zero_le _
  · have later := balanced rest inner
    rcases paid with ⟨rfl, rfl⟩ | ⟨rfl, rfl⟩
    · rw [List.count_cons_of_ne different, List.count_cons_self]
      omega
    · rw [List.count_cons_of_ne different.symm, List.count_cons_self]
      omega

end

/-! ## Runs -/

section

variable {State Input Output Call : Type} {step : State -> Input -> State × List Output}
  {allowed : State -> Input -> Prop} {opening closing : Call}
  (about : List Output -> List Call) (about_nil : about [] = [])
  (about_append : forall first second, about (first ++ second) = about first ++ about second)
  (isOpen : State -> Bool) (invariant : State -> Prop)
  (preserved : forall state input, invariant state -> allowed state input ->
    invariant (step state input).1)

include about_nil about_append preserved

/-- The calls of a run alternate exactly if every step switches, provided that a step
which does not switch makes a call that is out of turn. -/
theorem alternates_iff_of_run (condition : State -> Input -> Prop)
    (switches : forall state input, invariant state -> allowed state input -> condition state input ->
      Switches opening closing (isOpen state) (about (step state input).2) (isOpen (step state input).1))
    (stumbles : forall state input, invariant state -> allowed state input -> ¬ condition state input ->
      forall rest, ¬ Alternates opening closing (isOpen state) (about (step state input).2 ++ rest))
    {state : State} (start : invariant state) {inputs : List Input}
    (admitted : Admits step allowed state inputs) :
    Alternates opening closing (isOpen state) (about (run step state inputs).2) <->
      Admits step condition state inputs := by
  induction inputs generalizing state with
  | nil =>
      rw [run, about_nil]
      exact Iff.rfl
  | cons input rest ih =>
      rw [run, about_append, Admits]
      by_cases met : condition state input
      · rw [(switches state input start admitted.1 met).alternates_append, and_iff_right met]
        exact ih (preserved state input start admitted.1) admitted.2
      · exact iff_of_false (stumbles state input start admitted.1 met _) (fun both => met both.1)

/-- The calls of a run alternate if every step switches. -/
theorem alternates_of_run
    (switches : forall state input, invariant state -> allowed state input ->
      Switches opening closing (isOpen state) (about (step state input).2) (isOpen (step state input).1))
    {state : State} (start : invariant state) {inputs : List Input}
    (admitted : Admits step allowed state inputs) :
    Alternates opening closing (isOpen state) (about (run step state inputs).2) :=
  (alternates_iff_of_run about about_nil about_append isOpen invariant preserved (fun _ _ => True)
    (fun state input holds allows _ => switches state input holds allows)
    (fun _ _ _ _ never => absurd trivial never) start admitted).mpr (admits_true step state inputs)

/-- The calls of a run are balanced if every step switches, or gives up without a call. -/
theorem balanced_of_run [BEq Call] [LawfulBEq Call] (different : opening ≠ closing)
    (switches : forall state input, invariant state -> allowed state input ->
      Switches opening closing (isOpen state) (about (step state input).2)
          (isOpen (step state input).1) ∨
        about (step state input).2 = [] ∧ isOpen (step state input).1 = false)
    {state : State} (start : invariant state) {inputs : List Input}
    (admitted : Admits step allowed state inputs) :
    Balanced opening closing (isOpen state).toNat (about (run step state inputs).2) := by
  induction inputs generalizing state with
  | nil =>
      rw [run, about_nil]
      exact .nil _
  | cons input rest ih =>
      have later := ih (preserved state input start admitted.1) admitted.2
      rw [run, about_append]
      rcases switches state input start admitted.1 with switched | ⟨silent, closed⟩
      · generalize isOpen state = before at switched ⊢
        generalize isOpen (step state input).1 = after at switched later
        generalize about (step state input).2 = calls at switched ⊢
        cases switched with
        | idle => exact later
        | opens => exact .cons different (.inl ⟨rfl, rfl⟩) later
        | closes => exact .cons different (.inr ⟨rfl, rfl⟩) later
      · rw [closed] at later
        rw [silent]
        exact later.mono (Nat.zero_le _)

end

end Foundation
end Umundo
