import Mathlib.Tactic.Common

namespace Umundo
namespace Foundation

/-!
# Runs of a deterministic machine

A component reacts to one input at a time: it changes its state and emits a
list of outputs.  A run feeds it a finite list of inputs.  `Admits` restricts
a run to inputs that are allowed in the state they meet, so that a promise of
the environment can be stated about the state *before* each step.

The rules below are the only inductions over runs the development needs.
Every safety result is obtained from a start lemma and a step lemma.
-/

variable {State Input Output : Type}

/-- Feed a list of inputs, collecting the outputs in order. -/
def run (step : State -> Input -> State × List Output) :
    State -> List Input -> State × List Output
  | state, [] => (state, [])
  | state, input :: rest =>
      ((run step (step state input).1 rest).1,
        (step state input).2 ++ (run step (step state input).1 rest).2)

/-- Every input of the list is allowed in the state that receives it. -/
def Admits (step : State -> Input -> State × List Output) (allowed : State -> Input -> Prop) :
    State -> List Input -> Prop
  | _, [] => True
  | state, input :: rest => allowed state input ∧ Admits step allowed (step state input).1 rest

instance Admits.decidable (step : State -> Input -> State × List Output)
    (allowed : State -> Input -> Prop) [forall state input, Decidable (allowed state input)] :
    (state : State) -> (inputs : List Input) -> Decidable (Admits step allowed state inputs)
  | _, [] => .isTrue trivial
  | state, input :: rest =>
      have := Admits.decidable step allowed (step state input).1 rest
      inferInstanceAs (Decidable (allowed state input ∧ _))

section

variable {step : State -> Input -> State × List Output} {allowed : State -> Input -> Prop}

theorem run_append (state : State) (first second : List Input) :
    run step state (first ++ second) =
      ((run step (run step state first).1 second).1,
        (run step state first).2 ++ (run step (run step state first).1 second).2) := by
  induction first generalizing state with
  | nil => rfl
  | cons input rest ih =>
      rw [List.cons_append, run, ih]
      simp only [run, List.append_assoc]

theorem admits_append (state : State) (first second : List Input) :
    Admits step allowed state (first ++ second) <->
      Admits step allowed state first ∧
        Admits step allowed (run step state first).1 second := by
  induction first generalizing state with
  | nil => simp only [List.nil_append, Admits, run, true_and]
  | cons input rest ih =>
      rw [List.cons_append, Admits, ih, Admits, run, and_assoc]

/-- Two promises that are both kept. -/
theorem Admits.and {also : State -> Input -> Prop} {state : State} {inputs : List Input}
    (first : Admits step allowed state inputs) (second : Admits step also state inputs) :
    Admits step (fun state input => allowed state input ∧ also state input) state inputs := by
  induction inputs generalizing state with
  | nil => exact trivial
  | cons input rest ih => exact ⟨⟨first.1, second.1⟩, ih first.2 second.2⟩

/-- An invariant that one step preserves holds after every run. -/
theorem invariant_of_run (invariant : State -> Prop)
    (preserved : forall state input, invariant state -> allowed state input ->
      invariant (step state input).1)
    {state : State} (start : invariant state) {inputs : List Input}
    (admitted : Admits step allowed state inputs) : invariant (run step state inputs).1 := by
  induction inputs generalizing state with
  | nil => exact start
  | cons input rest ih =>
      exact ih (preserved state input start admitted.1) admitted.2

/-- An invariant may also speak about the inputs consumed so far. -/
theorem invariant_of_history (invariant : List Input -> State -> Prop)
    (preserved : forall past state input, invariant past state -> allowed state input ->
      invariant (past ++ [input]) (step state input).1)
    {past : List Input} {state : State} (start : invariant past state) {inputs : List Input}
    (admitted : Admits step allowed state inputs) :
    invariant (past ++ inputs) (run step state inputs).1 := by
  induction inputs generalizing past state with
  | nil =>
      rw [List.append_nil]
      exact start
  | cons input rest ih =>
      have later := ih (preserved past state input start admitted.1) admitted.2
      rw [List.append_assoc] at later
      exact later

/-- What every step emits from a state with the invariant is all that a run emits. -/
theorem outputs_of_run (invariant : State -> Prop) (property : Output -> Prop)
    (preserved : forall state input, invariant state -> allowed state input ->
      invariant (step state input).1)
    (emitted : forall state input, invariant state -> allowed state input ->
      forall output, output ∈ (step state input).2 -> property output)
    {state : State} (start : invariant state) {inputs : List Input}
    (admitted : Admits step allowed state inputs) :
    forall output, output ∈ (run step state inputs).2 -> property output := by
  induction inputs generalizing state with
  | nil =>
      intro output member
      cases member
  | cons input rest ih =>
      intro output member
      rcases List.mem_append.mp member with now | later
      · exact emitted state input start admitted.1 output now
      · exact ih (preserved state input start admitted.1) admitted.2 output later

/-- If a step emits what is wanted exactly under a condition, then a run does so exactly if
the condition is always met. -/
theorem outputs_iff_admits (invariant : State -> Prop) (property : Output -> Prop)
    (condition : State -> Input -> Prop)
    (preserved : forall state input, invariant state -> allowed state input ->
      invariant (step state input).1)
    (exact_step : forall state input, invariant state -> allowed state input ->
      ((forall output, output ∈ (step state input).2 -> property output) <-> condition state input))
    {state : State} (start : invariant state) {inputs : List Input}
    (admitted : Admits step allowed state inputs) :
    (forall output, output ∈ (run step state inputs).2 -> property output) <->
      Admits step condition state inputs := by
  induction inputs generalizing state with
  | nil => exact ⟨fun _ => trivial, fun _ _ member => absurd member List.not_mem_nil⟩
  | cons input rest ih =>
      have later := ih (preserved state input start admitted.1) admitted.2
      rw [Admits, ← exact_step state input start admitted.1, ← later, run]
      simp only [List.mem_append, or_imp, forall_and]

/-- If the outputs depend on the inputs alone, so do those of a run. -/
theorem outputs_eq_flatMap (emitted : Input -> List Output)
    (alone : forall state input, (step state input).2 = emitted input) (state : State)
    (inputs : List Input) : (run step state inputs).2 = inputs.flatMap emitted := by
  induction inputs generalizing state with
  | nil => rfl
  | cons input rest ih => rw [run, List.flatMap_cons, alone, ih]

/-- Every output of a run is the output of one of its steps. -/
theorem step_of_output {state : State} {inputs : List Input} {output : Output}
    (member : output ∈ (run step state inputs).2) :
    Exists fun before : List Input => Exists fun input : Input => Exists fun after : List Input =>
      inputs = before ++ input :: after ∧ output ∈ (step (run step state before).1 input).2 := by
  induction inputs generalizing state with
  | nil => cases member
  | cons input rest ih =>
      rcases List.mem_append.mp member with now | later
      · exact ⟨[], input, rest, rfl, now⟩
      · obtain ⟨before, next, after, split, emitted⟩ := ih later
        exact ⟨input :: before, next, after, by rw [split]; rfl, emitted⟩

/-- Every state on the way has a property. -/
def Always (step : State -> Input -> State × List Output) (property : State -> Prop) :
    State -> List Input -> Prop
  | state, [] => property state
  | state, input :: rest => property state ∧ Always step property (step state input).1 rest

instance Always.decidable (step : State -> Input -> State × List Output) (property : State -> Prop)
    [DecidablePred property] :
    (state : State) -> (inputs : List Input) -> Decidable (Always step property state inputs)
  | state, [] => inferInstanceAs (Decidable (property state))
  | state, input :: rest =>
      have := Always.decidable step property (step state input).1 rest
      inferInstanceAs (Decidable (property state ∧ _))

/-- What follows from an invariant holds in every state on the way. -/
theorem always_of_invariant (invariant property : State -> Prop)
    (preserved : forall state input, invariant state -> allowed state input ->
      invariant (step state input).1)
    (follows : forall state, invariant state -> property state)
    {state : State} (start : invariant state) {inputs : List Input}
    (admitted : Admits step allowed state inputs) : Always step property state inputs := by
  induction inputs generalizing state with
  | nil => exact follows state start
  | cons input rest ih =>
      exact ⟨follows state start, ih (preserved state input start admitted.1) admitted.2⟩

theorem Always.last {property : State -> Prop} {state : State} {inputs : List Input}
    (always : Always step property state inputs) : property (run step state inputs).1 := by
  induction inputs generalizing state with
  | nil => exact always
  | cons input rest ih => exact ih always.2

/-- A promise may also be about the states alone. -/
theorem Always.admits {property : State -> Prop} {state : State} {inputs : List Input}
    (always : Always step property state inputs) :
    Admits step (fun state _ => property state) state inputs := by
  induction inputs generalizing state with
  | nil => exact trivial
  | cons input rest ih => exact ⟨always.1, ih always.2⟩

/-- If, from a good state, the next one is good exactly under a condition,
then a run is good throughout exactly if the condition is always met. -/
theorem always_iff_admits (invariant property : State -> Prop) (condition : State -> Input -> Prop)
    (preserved : forall state input, invariant state -> allowed state input ->
      invariant (step state input).1)
    (exact_step : forall state input, invariant state -> allowed state input -> property state ->
      (property (step state input).1 <-> condition state input))
    {state : State} (start : invariant state) (good : property state) {inputs : List Input}
    (admitted : Admits step allowed state inputs) :
    Always step property state inputs <-> Admits step condition state inputs := by
  induction inputs generalizing state with
  | nil => exact ⟨fun _ => trivial, fun _ => good⟩
  | cons input rest ih =>
      have next := exact_step state input start admitted.1 good
      have later := ih (preserved state input start admitted.1)
      constructor
      · rintro ⟨_, always⟩
        have kept : property (step state input).1 := by
          cases rest with
          | nil => exact always
          | cons _ _ => exact always.1
        exact ⟨next.mp kept, (later kept admitted.2).mp always⟩
      · rintro ⟨met, conditions⟩
        exact ⟨good, (later (next.mpr met) admitted.2).mpr conditions⟩

/-- All states and all outputs of a run are good exactly if those of every step are. -/
theorem always_and_outputs_iff {property : State -> Prop} {good : Output -> Prop} {state : State}
    {inputs : List Input} :
    (Always step property state inputs ∧ forall output, output ∈ (run step state inputs).2 -> good output) <->
      property state ∧ Admits step (fun state input => property (step state input).1 ∧
        forall output, output ∈ (step state input).2 -> good output) state inputs := by
  induction inputs generalizing state with
  | nil => exact and_congr_right fun _ => ⟨fun _ => trivial, fun _ _ member => absurd member List.not_mem_nil⟩
  | cons input rest ih =>
      have later := @ih (step state input).1
      rw [Always, run, Admits, and_assoc]
      refine and_congr_right fun _ => ?_
      rw [and_right_comm, ← later, and_assoc]
      refine and_congr_right fun _ => ?_
      simp only [List.mem_append, or_imp, forall_and, and_comm]

/-- Two conditions on steps that agree as long as the first one is met agree on runs. -/
theorem admits_iff_admits (invariant : State -> Prop) (wanted condition : State -> Input -> Prop)
    (preserved : forall state input, invariant state -> allowed state input -> wanted state input ->
      invariant (step state input).1)
    (exact_step : forall state input, invariant state -> allowed state input ->
      (wanted state input <-> condition state input))
    {state : State} (start : invariant state) {inputs : List Input}
    (admitted : Admits step allowed state inputs) :
    Admits step wanted state inputs <-> Admits step condition state inputs := by
  induction inputs generalizing state with
  | nil => exact Iff.rfl
  | cons input rest ih =>
      rw [Admits, Admits, exact_step state input start admitted.1]
      refine and_congr_right fun met => ?_
      have now := (exact_step state input start admitted.1).mpr met
      exact ih (preserved state input start admitted.1 now) admitted.2

/-- A machine that follows another one step by step emits the same. -/
theorem simulation_of_run {Abstract : Type} {follow : Abstract -> Input -> Abstract × List Output}
    (relation : State -> Abstract -> Prop)
    (simulated : forall state abstract input, relation state abstract -> allowed state input ->
      relation (step state input).1 (follow abstract input).1 ∧
        (step state input).2 = (follow abstract input).2)
    {state : State} {abstract : Abstract} (start : relation state abstract) {inputs : List Input}
    (admitted : Admits step allowed state inputs) :
    relation (run step state inputs).1 (run follow abstract inputs).1 ∧
      (run step state inputs).2 = (run follow abstract inputs).2 := by
  induction inputs generalizing state abstract with
  | nil => exact ⟨start, rfl⟩
  | cons input rest ih =>
      obtain ⟨related, now⟩ := simulated state abstract input start admitted.1
      obtain ⟨final, later⟩ := ih related admitted.2
      refine ⟨final, ?_⟩
      rw [run, run, now, later]

end

section

variable {Other OtherOutput : Type} {step : State -> Input -> State × List Output}
  {follow : Other -> Input -> Other × List OtherOutput} (project : State -> Other)

/-- A part of the state that moves on its own can be run on its own. -/
theorem run_project (part : forall state input, project (step state input).1 = (follow (project state) input).1)
    (state : State) (inputs : List Input) :
    project (run step state inputs).1 = (run follow (project state) inputs).1 := by
  induction inputs generalizing state with
  | nil => rfl
  | cons input rest ih => rw [run, run, ih, part]

/-- A condition on such a part can be checked on its own. -/
theorem admits_project {allowed : State -> Input -> Prop} {permitted : Other -> Input -> Prop}
    (part : forall state input, project (step state input).1 = (follow (project state) input).1)
    (same : forall state input, allowed state input <-> permitted (project state) input)
    (state : State) (inputs : List Input) :
    Admits step allowed state inputs <-> Admits follow permitted (project state) inputs := by
  induction inputs generalizing state with
  | nil => exact Iff.rfl
  | cons input rest ih => rw [Admits, Admits, same, ih, part]

end

/-- Carry a history variable along.  It records the past and influences
nothing. -/
def observe {History : Type} (step : State -> Input -> State × List Output)
    (note : State -> History -> Input -> History) (watched : State × History) (input : Input) :
    (State × History) × List Output :=
  (((step watched.1 input).1, note watched.1 watched.2 input), (step watched.1 input).2)

/-- A condition on the inputs alone can be checked input by input. -/
theorem admits_of_forall {step : State -> Input -> State × List Output} {condition : Input -> Prop}
    {inputs : List Input} (every : forall input, input ∈ inputs -> condition input) (state : State) :
    Admits step (fun _ input => condition input) state inputs := by
  induction inputs generalizing state with
  | nil => exact trivial
  | cons input rest ih =>
      exact ⟨every input List.mem_cons_self,
        ih (fun other member => every other (List.mem_cons_of_mem input member)) _⟩

/-- The unrestricted machine admits everything. -/
theorem admits_true (step : State -> Input -> State × List Output) (state : State)
    (inputs : List Input) : Admits step (fun _ _ => True) state inputs := by
  induction inputs generalizing state with
  | nil => exact trivial
  | cons input rest ih => exact ⟨trivial, ih _⟩

end Foundation
end Umundo
