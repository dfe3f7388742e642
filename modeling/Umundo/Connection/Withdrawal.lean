import Mathlib.Data.Fintype.Basic
import Umundo.Connection.PublisherHost

namespace Umundo
namespace Connection

open Foundation Std

/-!
# Withdrawn subscriptions

The assertion in `removedSubscriber` says that only established subscribers
are removed.  The nodes withdraw a subscription as soon as it is on record,
whether or not the publisher's own socket has heard of the subscriber, and
whether or not another node has withdrawn it before.  The assertion holds in
the runs in which neither matters: a subscription is withdrawn by the only
pair of nodes that has it on record, and not while the publisher still waits
for the other half.
-/

/-- The publisher has the subscriber, or is waiting for its second half. -/
def Slot.Held (slot : Slot) : Prop :=
  slot.established.isSome = true ∨
    Exists fun remoteId : CString => slot.pending = some remoteId ∧ remoteId ≠ .empty

namespace Slot

variable {greeter : Bool} {subId : CString} {slot : Slot}

theorem Held.frame (held : slot.Held) (data : Bytes) :
    Held (step greeter subId slot (.frame data)).1 := by
  rcases slot with ⟨pending, zmq, established⟩
  cases pending with
  | none => exact held
  | some remoteId => exact .inl rfl

/-- A node's half is lost if it meets the empty entry of a greeter. -/
theorem held_addedSubscriber {remoteId : CString} (named : remoteId.length ≠ 0)
    (usable : slot.pending ≠ some .empty ∨ slot.established.isSome = true) :
    Held (step greeter subId slot (.addedSubscriber remoteId subId)).1 := by
  rcases slot with ⟨pending, zmq, established⟩
  rw [step, if_pos named]
  cases pending with
  | some earlier =>
      rcases usable with different | known
      · exact .inr ⟨earlier, rfl, fun empty => different (congrArg some empty)⟩
      · exact .inl known
  | none =>
      cases zmq with
      | true => exact .inl rfl
      | false => exact .inr ⟨remoteId, rfl, fun empty => named (congrArg CString.length empty)⟩

/-- Only a removal can fail the assertion. -/
theorem unestablished_not_mem_establish (other : CString) (slot : Slot) :
    .unestablished other ∉ (establish greeter subId slot).2 := by
  unfold establish
  split
  · cases greeter <;> simp
  · simp

theorem unestablished_not_mem_addedSubscriber (other remoteId : CString) :
    .unestablished other ∉ (step greeter subId slot (.addedSubscriber remoteId subId)).2 := by
  rw [step]
  split
  · split
    · simp
    · exact unestablished_not_mem_establish other _
  · exact unestablished_not_mem_establish other _

theorem unestablished_not_mem_removedSubscriber (other remoteId : CString)
    (established : slot.established.isSome = true) :
    .unestablished other ∉ (step greeter subId slot (.removedSubscriber remoteId subId)).2 := by
  rw [step, established]
  cases greeter <;> simp

end Slot

namespace Host

variable {Index : Type}

/-- No other pair of nodes has the subscription on record. -/
def Sole (pubId subId : CString) (host : Host Index) (index : Index) (remoteId : CString) : Prop :=
  forall other guest, host.Recorded pubId subId other guest -> index = other ∧ remoteId = guest

/-- The entry of a greeter does not stand in for the half of a node, and the
last node withdraws a subscription whose second half is not awaited. -/
def Permits (pubId : CString) (host : Host Index) (index : Index) : PublisherEvent -> Prop
  | .addedSubscriber _ subId =>
      host.publisher.pendingSubscriptions[subId]? ≠ some .empty ∨
        subId ∈ host.publisher.subscriptions
  | .removedSubscriber remoteId subId =>
      host.publisher.pendingSubscriptions.getD subId .empty = .empty ∧
        host.Sole pubId subId index remoteId
  | .frame _ => True

def Orderly (pubId : CString) (host : Host Index) : HostEvent Index -> Prop
  | .node index event =>
      forall call, call ∈ host.calls pubId (.node index event) -> host.Permits pubId index call
  | .frame _ => True

section

variable [Fintype Index] [DecidableEq Index]

instance (pubId subId : CString) (host : Host Index) (index : Index) (remoteId : CString) :
    Decidable (host.Sole pubId subId index remoteId) :=
  decidable_of_iff
    (forall other, forall guest, guest ∈ (host.nodes other).subscriptions.keys ->
      (host.nodes other).Records pubId subId guest -> index = other ∧ remoteId = guest)
    ⟨fun sole other guest recorded =>
        sole other guest (ExtTreeMap.mem_keys.mpr
          (Table.mem_of_mem_row (Table.mem_row_of_mem_cell recorded))) recorded,
      fun sole other guest _ recorded => sole other guest recorded⟩

instance (pubId : CString) (host : Host Index) (index : Index) :
    DecidablePred (host.Permits pubId index) := fun call =>
  match call with
  | .addedSubscriber _ _ => inferInstanceAs (Decidable (_ ∨ _))
  | .removedSubscriber _ _ => inferInstanceAs (Decidable (_ ∧ _))
  | .frame _ => inferInstanceAs (Decidable True)

instance (pubId : CString) (host : Host Index) : DecidablePred (host.Orderly pubId) := fun event =>
  match event with
  | .node index event =>
      inferInstanceAs (Decidable (forall call, call ∈ host.calls pubId (.node index event) -> _))
  | .frame _ => inferInstanceAs (Decidable True)

end

/-- The assertion will hold for every subscriber on record. -/
structure Sound (pubId : CString) (host : Host Index) : Prop where
  consistent : host.Consistent
  held : forall subId index remoteId, host.Recorded pubId subId index remoteId ->
    (host.publisher.slot subId).Held

section

variable {pubId : CString} {host : Host Index}

theorem Sound.init (uuid : Index -> CString) (greeter : Bool) :
    (init uuid greeter).Sound pubId where
  consistent := Consistent.init uuid greeter
  held := by
    intro subId index remoteId recorded
    simp [Recorded, ZeroMQNode.Records, Host.init, ZeroMQNode.init, Table.cell, Table.row] at recorded

/-- What is permitted about a subscriber. -/
private theorem permits_of_orderly {index : Index} {event : NodeEvent} {call : PublisherEvent}
    {subId : CString} {told : List PublisherEvent} (orderly : host.Orderly pubId (.node index event))
    (same : concerning subId (host.calls pubId (.node index event)) = told) (member : call ∈ told) :
    host.Permits pubId index call := by
  rw [← same] at member
  exact orderly call (List.mem_filter.mp member).1

/-- A permitted withdrawal finds the subscriber established. -/
private theorem Sound.established (sound : host.Sound pubId) {index : Index}
    {remoteId subId : CString} (recorded : host.Recorded pubId subId index remoteId)
    (permitted : host.Permits pubId index (.removedSubscriber remoteId subId)) :
    (host.publisher.slot subId).established.isSome = true := by
  rcases sound.held subId index remoteId recorded with known | ⟨waiting, pending, nonempty⟩
  · exact known
  · refine absurd ?_ nonempty
    have empty := permitted.1
    rw [ExtTreeMap.getD_eq_getD_getElem?] at empty
    have entry : host.publisher.pendingSubscriptions[subId]? = some waiting := pending
    rw [entry] at empty
    exact empty

variable [DecidableEq Index]

/-- One permitted step, and one subscriber. -/
private theorem Sound.step_spec (sound : host.Sound pubId) {event : HostEvent Index}
    (orderly : host.Orderly pubId event) (subId : CString) :
    (forall index remoteId, (host.step pubId event).1.Recorded pubId subId index remoteId ->
        ((host.step pubId event).1.publisher.slot subId).Held) ∧
      .unestablished subId ∉ (host.step pubId event).2.filter (fun effect => effect.subId = subId) := by
  have move : host.Move pubId subId (host.step pubId event).1 event _ := sound.consistent.move event
  have slot := host.slot_step pubId event subId
  generalize told : concerning subId (host.calls pubId event) = calls at move slot
  rw [slot.1, slot.2]
  cases move with
  | quiet records =>
      refine ⟨?_, List.not_mem_nil⟩
      intro index remoteId recorded
      exact sound.held subId index remoteId ((records index remoteId).mp recorded)
  | dropped index guest unpublished recorded records =>
      refine ⟨?_, List.not_mem_nil⟩
      intro other remoteId recorded
      exact sound.held subId other remoteId (records other remoteId recorded)
  | joins index guest length published records =>
      have permitted := permits_of_orderly orderly told List.mem_cons_self
      rw [run, run, List.append_nil]
      refine ⟨fun _ _ _ => Slot.held_addedSubscriber (by omega) ?_,
        Slot.unestablished_not_mem_addedSubscriber _ _⟩
      exact permitted.imp_right ExtTreeMap.mem_iff_isSome_getElem?.mp
  | leaves index guest recorded records =>
      have permitted := permits_of_orderly orderly told List.mem_cons_self
      rw [run, run, List.append_nil]
      refine ⟨?_, Slot.unestablished_not_mem_removedSubscriber subId guest
        (sound.established recorded permitted)⟩
      intro other remoteId kept
      rcases (records other remoteId).mp kept with ⟨different, earlier⟩
      exact absurd (permitted.2 other remoteId earlier) different
  | framed data subject records =>
      rw [run, run, List.append_nil]
      refine ⟨?_, Slot.unestablished_not_mem_establish _ _⟩
      intro index remoteId recorded
      exact (sound.held subId index remoteId ((records index remoteId).mp recorded)).frame data

theorem Sound.step (sound : host.Sound pubId) {event : HostEvent Index}
    (orderly : host.Orderly pubId event) : (host.step pubId event).1.Sound pubId where
  consistent := sound.consistent.step event
  held subId := (sound.step_spec orderly subId).1

/-- In every run whose withdrawals are orderly, a subscriber that is removed
is established. -/
theorem established_of_run (pubId : CString) (uuid : Index -> CString) (greeter : Bool)
    (events : List (HostEvent Index))
    (admitted : Admits (step pubId) (Orderly pubId) (init uuid greeter) events) (subId : CString) :
    .unestablished subId ∉ (run (step pubId) (init uuid greeter) events).2 := by
  intro failed
  refine outputs_of_run (Sound pubId) (fun effect => effect ≠ .unestablished subId)
    (fun _ _ sound orderly => sound.step orderly) ?_ (Sound.init uuid greeter) admitted _ failed rfl
  intro state input sound orderly effect member same
  subst same
  exact (sound.step_spec orderly subId).2 (List.mem_filter.mpr ⟨member, decide_eq_true rfl⟩)

theorem established_of_run_farewell :
    let remote := exampleStub 98 (by decide)
    let pub := examplePublisher 99 (by decide) ⟨[102], by decide⟩
    let subId := repeatedUuid 100 (by decide)
    let start : Host Unit := init (fun _ => repeatedUuid 97 (by decide)) true
    let events : List (HostEvent Unit) :=
      [.node () (.added remote), .node () (.addPublisher pub),
        .node () (.message remote.uuid (ControlMessage.subscribe pub subId).encode),
        .frame (1 :: subId.bytes), .node () (.removed remote)]
    Admits (step pub.uuid) (Orderly pub.uuid) start events ∧
      .unestablished subId ∉ (run (step pub.uuid) start events).2 := by
  intro remote pub subId start events
  have admitted : Admits (step pub.uuid) (Orderly pub.uuid) start events := by decide +kernel
  exact ⟨admitted, established_of_run pub.uuid (fun _ => repeatedUuid 97 (by decide)) true events
    admitted subId⟩

/-- A subscriber that leaves before its own socket was heard. -/
theorem unestablished_before_frame :
    let remote := exampleStub 98 (by decide)
    let pub := examplePublisher 99 (by decide) ⟨[102], by decide⟩
    let subId := repeatedUuid 100 (by decide)
    let start : Host Unit := init (fun _ => repeatedUuid 97 (by decide)) false
    let events : List (HostEvent Unit) :=
      [.node () (.added remote), .node () (.addPublisher pub),
        .node () (.message remote.uuid (ControlMessage.subscribe pub subId).encode),
        .node () (.message remote.uuid (ControlMessage.unsubscribe pub subId).encode)]
    .unestablished subId ∈ (run (step pub.uuid) start events).2 := by
  decide +kernel

end

end Host
end Connection
end Umundo
