import Umundo.Foundation.Machine

namespace Umundo
namespace Foundation

/-!
# Registration with suspensions

Items are registered somewhere until they are removed.  A suspension withdraws all of
them and keeps a snapshot, and the resumption registers what is in the snapshot again.
Between the two the snapshot is a copy that nobody maintains: it is this that goes wrong
when items are added or removed during a suspension.

A `Registrar` is such a component, reduced to the items it has.  `wanted` is what its
user expects, namely the items that were added and not removed since.
-/

structure Registrar (Item : Type) where
  registered : Item -> Prop
  snapshot : Item -> Prop
  suspended : Bool

namespace Registrar

variable {Item : Type}

/-- Registrars are given by what they have. -/
theorem eq_of_iff {first second : Registrar Item} (suspended : first.suspended = second.suspended)
    (registered : forall item, first.registered item <-> second.registered item)
    (snapshot : forall item, first.snapshot item <-> second.snapshot item) : first = second := by
  obtain ⟨one, two, three⟩ := first
  obtain ⟨one', two', three'⟩ := second
  have same : one = one' := funext fun item => propext (registered item)
  have same' : two = two' := funext fun item => propext (snapshot item)
  subst same same'
  rw [show three = three' from suspended]

inductive Call (Item : Type) where
  | add (item : Item)
  | remove (item : Item)
  | suspend
  | resume
  /-- a call that is about something else -/
  | elsewhere

def call (registrar : Registrar Item) : Call Item -> Registrar Item
  | .add item =>
      { registrar with registered := fun other => item = other ∨ registrar.registered other }
  | .remove item =>
      { registrar with registered := fun other => item ≠ other ∧ registrar.registered other }
  | .suspend =>
      if registrar.suspended then registrar
      else ⟨fun _ => False, registrar.registered, true⟩
  | .resume =>
      if registrar.suspended then
        ⟨fun other => registrar.snapshot other ∨ registrar.registered other, fun _ => False, false⟩
      else registrar
  | .elsewhere => registrar

/-- What the user wants after a call. -/
def Call.want (wanted : Item -> Prop) : Call Item -> Item -> Prop
  | .add item, other => item = other ∨ wanted other
  | .remove item, other => item ≠ other ∧ wanted other
  | _, other => wanted other

/-- Unless the registrar is suspended, what is wanted is registered, and nothing else. -/
def Faithful (registrar : Registrar Item) (wanted : Item -> Prop) : Prop :=
  registrar.suspended = false -> forall item, registrar.registered item <-> wanted item

/-- Nothing is registered during a suspension. -/
def Silent (registrar : Registrar Item) : Prop :=
  registrar.suspended = true -> forall item, ¬ registrar.registered item

/-- What is wanted is registered or will be registered again. -/
def Covers (registrar : Registrar Item) (wanted : Item -> Prop) : Prop :=
  forall item, wanted item -> registrar.registered item ∨
    (registrar.suspended = true ∧ registrar.snapshot item)

/-- Nothing is added during a suspension, and all of the snapshot is still wanted when it
is registered again. -/
def Timely (registrar : Registrar Item) (wanted : Item -> Prop) : Call Item -> Prop
  | .add _ => registrar.suspended = false
  | .resume => registrar.suspended = true -> forall item, registrar.snapshot item -> wanted item
  | _ => True

section

variable {registrar : Registrar Item} {wanted : Item -> Prop}

theorem Covers.call (covers : registrar.Covers wanted) (call : Call Item) :
    (registrar.call call).Covers (call.want wanted) := by
  intro item still
  cases call with
  | add added =>
      rcases still with same | before
      · exact .inl (.inl same)
      · exact (covers item before).imp_left .inr
  | remove removed =>
      obtain ⟨different, before⟩ := still
      exact (covers item before).imp_left fun registered => ⟨different, registered⟩
  | suspend =>
      rw [Registrar.call]
      split
      next => exact covers item still
      next awake => exact .inr ⟨rfl, (covers item still).resolve_right fun saved => awake saved.1⟩
  | resume =>
      rw [Registrar.call]
      split
      next => exact .inl ((covers item still).elim .inr fun saved => .inl saved.2)
      next => exact covers item still
  | elsewhere => exact covers item still

/-- A call is harmless exactly if it is timely. -/
theorem faithful_call_iff (covers : registrar.Covers wanted) (faithful : registrar.Faithful wanted)
    (silent : registrar.Silent) (call : Call Item) :
    ((registrar.call call).Faithful (call.want wanted) ∧ (registrar.call call).Silent) <->
      registrar.Timely wanted call := by
  cases call with
  | add added =>
      constructor
      · rintro ⟨_, quiet⟩
        by_contra asleep
        exact quiet ((Bool.not_eq_false _).mp asleep) added (.inl rfl)
      · intro awake
        refine ⟨fun _ item => or_congr_right (faithful awake item), fun asleep => ?_⟩
        rw [Timely] at awake
        change registrar.suspended = true at asleep
        rw [awake] at asleep
        cases asleep
  | remove removed =>
      refine iff_of_true ⟨fun awake item => ?_, fun asleep item registered => ?_⟩ trivial
      · exact and_congr_right fun _ => faithful awake item
      · exact silent asleep item registered.2
  | suspend =>
      refine iff_of_true ?_ trivial
      rw [Registrar.call]
      split
      next => exact ⟨faithful, silent⟩
      next => exact ⟨fun awake => Bool.noConfusion awake, fun _ _ registered => registered⟩
  | resume =>
      rw [Registrar.call, Timely]
      split
      next asleep =>
        rw [forall_prop_of_true asleep]
        constructor
        · rintro ⟨after, _⟩ item saved
          exact (after rfl item).mp (.inl saved)
        · intro still
          refine ⟨fun _ item => ⟨?_, fun wants => ?_⟩, fun asleep => Bool.noConfusion asleep⟩
          · rintro (saved | registered)
            · exact still item saved
            · exact absurd registered (silent asleep item)
          · exact (covers item wants).elim .inr fun saved => .inl saved.2
      next awake => exact iff_of_true ⟨faithful, silent⟩ fun asleep => absurd asleep awake
  | elsewhere => exact iff_of_true ⟨faithful, silent⟩ trivial

/-! A strict registrar refuses to remove what is not registered.  It may register during a
suspension. -/

/-- The call is not refused. -/
def Legal (registrar : Registrar Item) : Call Item -> Prop
  | .remove item => registrar.registered item
  | _ => True

/-- Nothing is registered that is not wanted. -/
def Sound (registrar : Registrar Item) (wanted : Item -> Prop) : Prop :=
  forall item, registrar.registered item -> wanted item

/-- During a suspension only what is registered is removed, and all of the snapshot is still
wanted when it is registered again. -/
def Punctual (registrar : Registrar Item) (wanted : Item -> Prop) : Call Item -> Prop
  | .remove item => registrar.suspended = true -> registrar.registered item
  | .resume => registrar.suspended = true -> forall item, registrar.snapshot item -> wanted item
  | _ => True

theorem Sound.call (sound : registrar.Sound wanted) {call : Call Item}
    (faithful : (registrar.call call).Faithful (call.want wanted)) :
    (registrar.call call).Sound (call.want wanted) := by
  intro item registered
  cases call with
  | add added => exact registered.imp_right (sound item)
  | remove removed => exact registered.imp_right (sound item)
  | suspend =>
      rw [Registrar.call] at registered
      split at registered
      next => exact sound item registered
      next => exact registered.elim
  | resume =>
      rw [Registrar.call] at registered faithful
      split at registered
      next asleep =>
        rw [if_pos asleep] at faithful
        exact (faithful rfl item).mp registered
      next => exact sound item registered
  | elsewhere => exact sound item registered

/-- A call is neither refused nor harmful exactly if it is punctual. -/
theorem legal_call_iff (covers : registrar.Covers wanted) (sound : registrar.Sound wanted)
    (faithful : registrar.Faithful wanted) {call : Call Item}
    (owned : forall item, call = .remove item -> wanted item) :
    (registrar.Legal call ∧ (registrar.call call).Faithful (call.want wanted)) <->
      registrar.Punctual wanted call := by
  cases call with
  | add added => exact iff_of_true ⟨trivial, fun awake item => or_congr_right (faithful awake item)⟩ trivial
  | remove removed =>
      constructor
      · exact fun fine _ => fine.1
      · intro punctual
        refine ⟨?_, fun awake item => and_congr_right fun _ => faithful awake item⟩
        cases suspended : registrar.suspended with
        | true => exact punctual suspended
        | false => exact (faithful suspended removed).mpr (owned removed rfl)
  | suspend =>
      refine iff_of_true ⟨trivial, ?_⟩ trivial
      rw [Registrar.call]
      split
      next => exact faithful
      next => exact fun awake => Bool.noConfusion awake
  | resume =>
      rw [Registrar.call, Punctual]
      split
      next asleep =>
        rw [forall_prop_of_true asleep]
        constructor
        · rintro ⟨_, after⟩ item saved
          exact (after rfl item).mp (.inl saved)
        · intro still
          refine ⟨trivial, fun _ item => ⟨?_, fun wants => ?_⟩⟩
          · exact fun held => held.elim (still item) (sound item)
          · exact (covers item wants).elim .inr fun saved => .inl saved.2
      next awake => exact iff_of_true ⟨trivial, faithful⟩ fun asleep => absurd asleep awake
  | elsewhere => exact iff_of_true ⟨trivial, faithful⟩ trivial

end

/-! ## Machines that are registrars

A machine with inputs that mean calls is seen as a registrar.  What it does right then
depends on the calls alone. -/

section

variable {State Input Output : Type}

/-- The machine together with what its user wants. -/
def wanting (step : State -> Input -> State × List Output) (call : Input -> Call Item) :
    State × (Item -> Prop) -> Input -> (State × (Item -> Prop)) × List Output :=
  observe step fun _ wanted input => (call input).want wanted

/-- Exactly what is wanted is registered, and nothing during a suspension. -/
def Maintains (registrar : State -> Registrar Item) (watched : State × (Item -> Prop)) : Prop :=
  (registrar watched.1).Faithful watched.2 ∧ (registrar watched.1).Silent

def TimelyCall (registrar : State -> Registrar Item) (call : Input -> Call Item)
    (watched : State × (Item -> Prop)) (input : Input) : Prop :=
  (registrar watched.1).Timely watched.2 (call input)

theorem maintains_iff {step : State -> Input -> State × List Output} {call : Input -> Call Item}
    {registrar : State -> Registrar Item} {allowed : State -> Input -> Prop} (invariant : State -> Prop)
    (refines : forall state input, invariant state -> allowed state input ->
      invariant (step state input).1 ∧
        registrar (step state input).1 = (registrar state).call (call input))
    {start : State} (holds : invariant start) (awake : (registrar start).suspended = false)
    (vacant : forall item, ¬ (registrar start).registered item) {inputs : List Input}
    (admitted : Admits (wanting step call) (fun watched => allowed watched.1)
      (start, fun _ => False) inputs) :
    Always (wanting step call) (Maintains registrar) (start, fun _ => False) inputs <->
      Admits (wanting step call) (TimelyCall registrar call) (start, fun _ => False) inputs := by
  refine always_iff_admits
    (fun watched => invariant watched.1 ∧ (registrar watched.1).Covers watched.2) _ _ ?_ ?_
    ⟨holds, fun _ => False.elim⟩ ⟨fun _ item => iff_false_intro (vacant item), ?_⟩ admitted
  · rintro ⟨state, wanted⟩ input ⟨kept, covers⟩ permitted
    obtain ⟨after, same⟩ := refines state input kept permitted
    refine ⟨after, ?_⟩
    change Covers (registrar (step state input).1) _
    rw [same]
    exact covers.call (call input)
  · rintro ⟨state, wanted⟩ input ⟨kept, covers⟩ permitted ⟨faithful, silent⟩
    change (Faithful (registrar (step state input).1) _ ∧ Silent (registrar (step state input).1)) <-> _
    rw [(refines state input kept permitted).2]
    exact faithful_call_iff covers faithful silent (call input)
  · intro asleep
    rw [awake] at asleep
    cases asleep

def FaithfulTo (registrar : State -> Registrar Item) (watched : State × (Item -> Prop)) : Prop :=
  (registrar watched.1).Faithful watched.2

def PunctualCall (registrar : State -> Registrar Item) (call : Input -> Call Item)
    (watched : State × (Item -> Prop)) (input : Input) : Prop :=
  (registrar watched.1).Punctual watched.2 (call input)

/-- The same for a strict registrar, which fails when it refuses a call. -/
theorem faithful_iff {step : State -> Input -> State × List Output} {call : Input -> Call Item}
    {registrar : State -> Registrar Item} {allowed : State × (Item -> Prop) -> Input -> Prop}
    {failure : Output} (invariant : State -> Prop)
    (owned : forall watched input, allowed watched input ->
      forall item, call input = .remove item -> watched.2 item)
    (accepts : forall watched input, invariant watched.1 -> allowed watched input ->
      (registrar watched.1).Legal (call input) ->
        invariant (step watched.1 input).1 ∧
          registrar (step watched.1 input).1 = (registrar watched.1).call (call input) ∧
          failure ∉ (step watched.1 input).2)
    (refuses : forall watched input, invariant watched.1 -> allowed watched input ->
      ¬ (registrar watched.1).Legal (call input) -> failure ∈ (step watched.1 input).2)
    {start : State} (holds : invariant start) (vacant : forall item, ¬ (registrar start).registered item)
    {inputs : List Input} (admitted : Admits (wanting step call) allowed (start, fun _ => False) inputs) :
    (Always (wanting step call) (FaithfulTo registrar) (start, fun _ => False) inputs ∧
      failure ∉ (run (wanting step call) (start, fun _ => False) inputs).2) <->
      Admits (wanting step call) (PunctualCall registrar call) (start, fun _ => False) inputs := by
  have quiet (outputs : List Output) :
      failure ∉ outputs <-> forall output, output ∈ outputs -> output ≠ failure :=
    ⟨fun absent output member same => absent (same ▸ member), fun every member => every _ member rfl⟩
  rw [quiet, always_and_outputs_iff, and_iff_right]
  · refine admits_iff_admits (fun watched => invariant watched.1 ∧
      (registrar watched.1).Covers watched.2 ∧ (registrar watched.1).Sound watched.2 ∧
        (registrar watched.1).Faithful watched.2) _ _ ?_ ?_
      ⟨holds, fun _ => False.elim, fun item held => (vacant item held).elim, ?_⟩ admitted
    · rintro ⟨state, wanted⟩ input ⟨kept, covers, sound, _⟩ permitted ⟨faithful, harmless⟩
      have legal : (registrar state).Legal (call input) := by
        by_contra illegal
        exact (quiet _).mpr harmless (refuses (state, wanted) input kept permitted illegal)
      obtain ⟨after, same, _⟩ := accepts (state, wanted) input kept permitted legal
      refine ⟨after, ?_, ?_, faithful⟩
      · change Covers (registrar (step state input).1) _
        rw [same]
        exact covers.call (call input)
      · change Sound (registrar (step state input).1) _
        change Faithful (registrar (step state input).1) _ at faithful
        rw [same] at faithful ⊢
        exact sound.call faithful
    · rintro ⟨state, wanted⟩ input ⟨kept, covers, sound, faithful⟩ permitted
      refine Iff.trans ?_ (legal_call_iff covers sound faithful (owned _ input permitted))
      rw [← quiet]
      change Faithful (registrar (step state input).1) _ ∧ failure ∉ (step state input).2 <-> _
      by_cases legal : (registrar state).Legal (call input)
      · obtain ⟨_, same, absent⟩ := accepts (state, wanted) input kept permitted legal
        rw [same, and_iff_left absent, and_iff_right legal]
        rfl
      · exact iff_of_false (fun fine => fine.2 (refuses (state, wanted) input kept permitted legal))
          fun fine => legal fine.1
    · exact fun _ item => iff_false_intro (vacant item)
  · exact fun _ item => iff_false_intro (vacant item)

end

end Registrar

end Foundation
end Umundo
