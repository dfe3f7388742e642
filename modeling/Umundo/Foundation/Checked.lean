import Umundo.Foundation.Machine

namespace Umundo
namespace Foundation

/-!
# Programs that check themselves

A program with assertions, and with pointers that may be null, either ends or is
aborted on the way.  It is an `Option`, and `none` is the abort.  `check` is an
assertion, and a lookup is a dereference.

`Ensures` is total correctness for such a program: it is not aborted and ends
with a result of the kind that is described.  `Yields` is partial correctness, which
says nothing if the program is aborted.  The rules follow the shape of a program, so a
proof about a program walks along it.
-/

variable {Result Next Item : Type}

/-- Go on if the condition holds. -/
def check (condition : Prop) [Decidable condition] (rest : Option Result) : Option Result :=
  if condition then rest else none

theorem check_of {condition : Prop} [Decidable condition] (holds : condition) (rest : Option Result) :
    check condition rest = rest :=
  if_pos holds

theorem check_of_not {condition : Prop} [Decidable condition] (fails : ¬ condition) (rest : Option Result) :
    check condition rest = none :=
  if_neg fails

/-- The program ends, and its result has the property. -/
def Ensures (program : Option Result) (property : Result -> Prop) : Prop :=
  Exists fun result => program = some result ∧ property result

namespace Ensures

variable {property weaker : Result -> Prop}

theorem done {result : Result} (holds : property result) : Ensures (some result) property :=
  ⟨result, rfl, holds⟩

theorem mono {program : Option Result} (ensured : Ensures program property)
    (implies : forall result, property result -> weaker result) : Ensures program weaker := by
  obtain ⟨result, ends, holds⟩ := ensured
  exact ⟨result, ends, implies result holds⟩

theorem check {condition : Prop} [Decidable condition] {rest : Option Result}
    (holds : condition) (ensured : Ensures rest property) :
    Ensures (check condition rest) property := by
  rw [Foundation.check, if_pos holds]
  exact ensured

theorem bind {program : Option Result} {next : Result -> Option Next} {final : Next -> Prop}
    (first : Ensures program property)
    (second : forall result, property result -> Ensures (next result) final) :
    Ensures (program.bind next) final := by
  obtain ⟨result, ends, holds⟩ := first
  rw [ends, Option.bind_some]
  exact second result holds

theorem map {program : Option Result} {next : Result -> Next} {final : Next -> Prop}
    (first : Ensures program property) (second : forall result, property result -> final (next result)) :
    Ensures (program.map next) final := by
  obtain ⟨result, ends, holds⟩ := first
  rw [ends, Option.map_some]
  exact done (second result holds)

/-- A dereference that finds something. -/
theorem found {pointer : Option Item} {item : Item} {next : Item -> Option Result}
    (present : pointer = some item) (ensured : Ensures (next item) property) :
    Ensures (pointer.bind next) property := by
  rw [present, Option.bind_some]
  exact ensured

/-- A loop whose body keeps an invariant. -/
theorem loop {body : Result -> Item -> Option Result} {items : List Item}
    (kept : forall state item, item ∈ items -> property state -> Ensures (body state item) property)
    {state : Result} (start : property state) : Ensures (items.foldlM body state) property := by
  induction items generalizing state with
  | nil => exact done start
  | cons item rest ih =>
      rw [List.foldlM_cons]
      apply bind (kept state item List.mem_cons_self start)
      intro next holds
      exact ih (fun other later member => kept other later (List.mem_cons_of_mem item member)) holds

end Ensures

/-- If the program ends, its result has the property. -/
def Yields (program : Option Result) (property : Result -> Prop) : Prop :=
  forall result, program = some result -> property result

theorem Ensures.yields {program : Option Result} {property : Result -> Prop}
    (ensured : Ensures program property) : Yields program property := by
  obtain ⟨result, ends, holds⟩ := ensured
  exact fun other same => Option.some.inj (ends.symm.trans same) ▸ holds

namespace Yields

variable {property weaker : Result -> Prop}

theorem done {result : Result} (holds : property result) : Yields (some result) property :=
  fun _ ends => Option.some.inj ends ▸ holds

theorem mono {program : Option Result} (yielded : Yields program property)
    (implies : forall result, property result -> weaker result) : Yields program weaker :=
  fun result ends => implies result (yielded result ends)

theorem check {condition : Prop} [Decidable condition] {rest : Option Result}
    (yielded : condition -> Yields rest property) : Yields (check condition rest) property := by
  rw [Foundation.check]
  split
  next holds => exact yielded holds
  next => exact fun _ ends => by cases ends

theorem bind {program : Option Result} {next : Result -> Option Next} {final : Next -> Prop}
    (first : Yields program property)
    (second : forall result, property result -> Yields (next result) final) :
    Yields (program.bind next) final := by
  intro last ends
  obtain ⟨result, reached, rest⟩ := Option.bind_eq_some_iff.mp ends
  exact second result (first result reached) last rest

theorem map {program : Option Result} {next : Result -> Next} {final : Next -> Prop}
    (first : Yields program property) (second : forall result, property result -> final (next result)) :
    Yields (program.map next) final := by
  intro last ends
  obtain ⟨result, reached, rfl⟩ := Option.map_eq_some_iff.mp ends
  exact second result (first result reached)

/-- A dereference, with what it found. -/
theorem found {pointer : Option Item} {next : Item -> Option Result}
    (yielded : forall item, pointer = some item -> Yields (next item) property) :
    Yields (pointer.bind next) property := by
  intro last ends
  obtain ⟨item, present, rest⟩ := Option.bind_eq_some_iff.mp ends
  exact yielded item present last rest

/-- A loop whose body keeps an invariant. -/
theorem loop {body : Result -> Item -> Option Result} {items : List Item}
    (kept : forall state item, item ∈ items -> property state -> Yields (body state item) property)
    {state : Result} (start : property state) : Yields (items.foldlM body state) property := by
  induction items generalizing state with
  | nil => exact done start
  | cons item rest ih =>
      rw [List.foldlM_cons]
      refine bind (kept state item List.mem_cons_self start) ?_
      intro next holds
      exact ih (fun other later member => kept other later (List.mem_cons_of_mem item member)) holds

end Yields

/-! ## Machines with assertions -/

section

variable {State Input Output : Type}

/-- Feed a list of inputs to a machine that may be aborted on the way. -/
def runChecked (step : State -> Input -> Option (State × List Output)) :
    State -> List Input -> Option (State × List Output)
  | state, [] => some (state, [])
  | state, input :: rest =>
      (step state input).bind fun now =>
        (runChecked step now.1 rest).map fun later => (later.1, now.2 ++ later.2)

/-- Such a run ends if every step does.  The invariant knows which inputs are still to come. -/
theorem Ensures.runChecked (invariant : State -> List Input -> Prop) (property : Output -> Prop)
    {step : State -> Input -> Option (State × List Output)}
    (safe : forall state input rest, invariant state (input :: rest) ->
      Ensures (step state input) fun now =>
        invariant now.1 rest ∧ forall output, output ∈ now.2 -> property output)
    {state : State} {inputs : List Input} (start : invariant state inputs) :
    Ensures (runChecked step state inputs) fun result =>
      invariant result.1 [] ∧ forall output, output ∈ result.2 -> property output := by
  induction inputs generalizing state with
  | nil => exact .done ⟨start, fun _ member => absurd member List.not_mem_nil⟩
  | cons input rest ih =>
      refine .bind (safe state input rest start) fun now kept => ?_
      refine (ih kept.1).map fun later after => ⟨after.1, fun output member => ?_⟩
      exact (List.mem_append.mp member).elim (kept.2 output) (after.2 output)

end

end Foundation
end Umundo
