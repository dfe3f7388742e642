import Umundo.Connection.Withdrawal

namespace Umundo
namespace Connection

open Foundation Std

/-!
# One pair of nodes is enough

A publisher is meant to serve a subscriber as long as one pair of nodes, one
on either side, has the subscription on record.  This module watches one
subscriber of one publisher that belongs to any number of nodes.  Any number
of pairs record the subscription, the frame of the subscriber arrives, and the
pairs withdraw it again in any order, between any other events.

The publisher indexes its subscribers by their uuid alone, so the first pair
that withdraws takes the subscriber away from all the others.
-/

namespace PublisherEvent

def isFrame : PublisherEvent -> Bool
  | .frame _ => true
  | .addedSubscriber _ _ => false
  | .removedSubscriber _ _ => false

/-- The node a subscriber is withdrawn from. -/
def withdrawnBy : PublisherEvent -> Option CString
  | .removedSubscriber remoteId _ => some remoteId
  | .addedSubscriber _ _ => none
  | .frame _ => none

end PublisherEvent

/-! ## The slot of the subscriber -/

/-- How the slot follows what has happened: whether a pair has the
subscription on record, whether the frame has arrived, and whether some pair
has withdrawn. -/
structure Course (linked : Prop) (framed left : Bool) (slot : Slot) : Prop where
  /-- at first, only nodes have been heard of -/
  unframed : framed = false ->
    slot.zmq = false ∧ slot.established = none ∧ (slot.pending.isSome = true <-> linked)
  /-- then the subscriber is there with the first record -/
  joined : framed = true -> left = false ->
    (linked -> slot.established.isSome = true) ∧ (¬ linked -> slot = ⟨none, true, none⟩)
  /-- and gone with the first that is withdrawn -/
  parted : left = true -> framed = true ∧ slot.established = none

namespace Course

variable {linked : Prop} {framed left greeter : Bool} {subId : CString} {slot : Slot}

theorem congr {other : Prop} (course : Course linked framed left slot) (same : other <-> linked) :
    Course other framed left slot := by
  rwa [propext same]

theorem addedSubscriber (course : Course linked framed left slot) (staying : left = false)
    {remoteId : CString} (named : remoteId.length ≠ 0) :
    Course True framed left (Slot.step greeter subId slot (.addedSubscriber remoteId subId)).1 := by
  rcases slot with ⟨pending, zmq, established⟩
  rw [Slot.step, if_pos named]
  refine ⟨?_, ?_, fun gone => absurd (staying.symm.trans gone) Bool.false_ne_true⟩
  · intro unframed
    rcases course.unframed unframed with ⟨rfl, rfl, _⟩
    cases pending with
    | some earlier => exact ⟨rfl, rfl, fun _ => trivial, fun _ => rfl⟩
    | none => exact ⟨rfl, rfl, fun _ => trivial, fun _ => rfl⟩
  · intro arrived _
    refine ⟨fun _ => ?_, fun never => absurd trivial never⟩
    rcases course.joined arrived staying with ⟨present, absent⟩
    by_cases recorded : linked
    · have known : established.isSome = true := present recorded
      cases pending with
      | some earlier => exact known
      | none =>
          cases zmq with
          | true => rfl
          | false => exact known
    · cases absent recorded
      rfl

theorem frame (course : Course linked framed left slot) (staying : left = false) (data : Bytes) :
    Course linked true left (Slot.step greeter subId slot (.frame data)).1 := by
  rcases slot with ⟨pending, zmq, established⟩
  refine ⟨nofun, ?_, fun gone => absurd (staying.symm.trans gone) Bool.false_ne_true⟩
  intro _ _
  cases arrived : framed with
  | false =>
      rcases course.unframed arrived with ⟨rfl, rfl, waiting⟩
      cases pending with
      | some remoteId => exact ⟨fun _ => rfl, fun unlinked => absurd (waiting.mp rfl) unlinked⟩
      | none => exact ⟨fun recorded => absurd (waiting.mpr recorded) nofun, fun _ => rfl⟩
  | true =>
      rcases course.joined arrived staying with ⟨present, absent⟩
      constructor
      · intro recorded
        cases pending with
        | some remoteId => rfl
        | none => exact present recorded
      · intro unlinked
        cases absent unlinked
        rfl

theorem removedSubscriber (other : Prop) (subId remoteId : CString) :
    Course other true true (Slot.step greeter subId slot (.removedSubscriber remoteId subId)).1 :=
  ⟨nofun, fun _ => nofun, fun _ => ⟨rfl, rfl⟩⟩

end Course

/-! ## The nodes and the publisher -/

/-- A host, and what one subscriber of its publisher has been through: its
frame has arrived, some pair has withdrawn it. -/
structure Watch (Index : Type) where
  host : Host Index
  framed : Bool
  left : Bool

namespace Watch

variable {Index : Type}

def init (uuid : Index -> CString) (greeter : Bool) : Watch Index where
  host := .init uuid greeter
  framed := false
  left := false

section

variable (pubId subId : CString)

/-- What the publisher is told about the subscriber. -/
def told (watch : Watch Index) (event : HostEvent Index) : List PublisherEvent :=
  concerning subId (watch.host.calls pubId event)

/-- The remote nodes that withdraw the subscriber. -/
def withdrawals (watch : Watch Index) (event : HostEvent Index) : List CString :=
  (watch.told pubId subId event).filterMap PublisherEvent.withdrawnBy

def step [DecidableEq Index] (watch : Watch Index) (event : HostEvent Index) :
    Watch Index × List PublisherEffect :=
  let outcome := watch.host.step pubId event
  (⟨outcome.1, watch.framed || (watch.told pubId subId event).any PublisherEvent.isFrame,
      watch.left || !(watch.withdrawals pubId subId event).isEmpty⟩,
    outcome.2)

/-- A pair of nodes has the subscription on record. -/
def Linked (watch : Watch Index) : Prop :=
  Exists fun index => Exists fun remoteId => watch.host.Recorded pubId subId index remoteId

/-- Once the frame has arrived, the publisher serves the subscriber exactly
as long as a pair of nodes has the subscription on record. -/
def Served (watch : Watch Index) : Prop :=
  watch.framed = true ->
    (subId ∈ watch.host.publisher.subscriptions <-> watch.Linked pubId subId)

/-- The subscriber is withdrawn after its frame has arrived, and does not
return. -/
def Timely (watch : Watch Index) : PublisherEvent -> Prop
  | .addedSubscriber _ _ => watch.left = false
  | .removedSubscriber _ _ => watch.framed = true
  | .frame _ => watch.left = false

/-- The publisher stays with its nodes. -/
def Belongs : HostEvent Index -> Prop
  | .node _ event => ¬ event.Unpublishes pubId
  | .frame _ => True

def Admissible (watch : Watch Index) (event : HostEvent Index) : Prop :=
  Belongs pubId event ∧ forall call, call ∈ watch.told pubId subId event -> watch.Timely call

/-- Nobody else has the subscription on record when it is withdrawn. -/
def LeavesLast (watch : Watch Index) : HostEvent Index -> Prop
  | .node index event => forall remoteId,
      remoteId ∈ watch.withdrawals pubId subId (.node index event) ->
        watch.host.Sole pubId subId index remoteId
  | .frame _ => True

section

variable [Fintype Index] [DecidableEq Index]

instance : DecidablePred (NodeEvent.Unpublishes pubId) := fun event =>
  match event with
  | .removePublisher pub => inferInstanceAs (Decidable (pub.uuid = pubId))
  | .added _ => .isFalse id
  | .removed _ => .isFalse id
  | .message _ _ => .isFalse id
  | .addSubscriber _ => .isFalse id
  | .removeSubscriber _ => .isFalse id
  | .addPublisher _ => .isFalse id

instance : DecidablePred (Belongs pubId : HostEvent Index -> Prop) := fun event =>
  match event with
  | .node _ event => inferInstanceAs (Decidable (¬ event.Unpublishes pubId))
  | .frame _ => .isTrue trivial

instance (watch : Watch Index) : DecidablePred watch.Timely := fun call =>
  match call with
  | .addedSubscriber _ _ => inferInstanceAs (Decidable (watch.left = false))
  | .removedSubscriber _ _ => inferInstanceAs (Decidable (watch.framed = true))
  | .frame _ => inferInstanceAs (Decidable (watch.left = false))

instance (watch : Watch Index) : DecidablePred (watch.Admissible pubId subId) := fun _ =>
  inferInstanceAs (Decidable (_ ∧ _))

instance (watch : Watch Index) : DecidablePred (watch.LeavesLast pubId subId) := fun event =>
  match event with
  | .node index event =>
      inferInstanceAs (Decidable (forall remoteId,
        remoteId ∈ watch.withdrawals pubId subId (.node index event) -> _))
  | .frame _ => .isTrue trivial

end

/-- What is known of the subscriber. -/
structure Tracked (watch : Watch Index) : Prop where
  consistent : watch.host.Consistent
  published : forall index remoteId, watch.host.Recorded pubId subId index remoteId ->
    pubId ∈ (watch.host.nodes index).localPubs
  course : Course (watch.Linked pubId subId) watch.framed watch.left (watch.host.publisher.slot subId)

end

section

variable {pubId subId : CString} {watch : Watch Index}

theorem Tracked.init (uuid : Index -> CString) (greeter : Bool) :
    (init uuid greeter).Tracked pubId subId := by
  have unlinked : ¬ (Watch.init uuid greeter).Linked pubId subId := by
    rintro ⟨index, remoteId, recorded⟩
    simp [Watch.init, Host.Recorded, ZeroMQNode.Records, Host.init, ZeroMQNode.init, Table.cell,
      Table.row] at recorded
  have slot : (Watch.init uuid greeter).host.publisher.slot subId = ⟨none, false, none⟩ := by
    simp [Watch.init, Host.init, ZeroMQPublisher.init, ZeroMQPublisher.slot]
  refine ⟨Host.Consistent.init uuid greeter, ?_, ?_, ?_, ?_⟩
  · intro index remoteId recorded
    exact absurd ⟨index, remoteId, recorded⟩ unlinked
  · intro _
    rw [slot]
    refine ⟨rfl, rfl, ?_, fun linked => absurd linked unlinked⟩
    intro pending
    cases pending
  · intro framed
    cases framed
  · intro left
    cases left

/-- A tracked subscriber is served unless a record outlives a withdrawal. -/
theorem Tracked.served_iff (tracked : watch.Tracked pubId subId) :
    watch.Served pubId subId <-> (watch.left = true -> ¬ watch.Linked pubId subId) := by
  have member : subId ∈ watch.host.publisher.subscriptions <->
      (watch.host.publisher.slot subId).established.isSome = true :=
    ExtTreeMap.mem_iff_isSome_getElem?
  cases left : watch.left with
  | true =>
      rcases tracked.course.parted left with ⟨framed, gone⟩
      simp [Served, framed, member, gone]
  | false =>
      refine ⟨fun _ => nofun, fun _ framed => ?_⟩
      rw [member]
      refine ⟨fun known => ?_, (tracked.course.joined framed left).1⟩
      by_contra unlinked
      rw [(tracked.course.joined framed left).2 unlinked] at known
      cases known

variable [DecidableEq Index]

private theorem linked_step_iff {event : HostEvent Index}
    (records : forall index remoteId,
      (watch.host.step pubId event).1.Recorded pubId subId index remoteId <->
        watch.host.Recorded pubId subId index remoteId) :
    (watch.step pubId subId event).1.Linked pubId subId <-> watch.Linked pubId subId :=
  exists_congr fun index => exists_congr fun remoteId => records index remoteId

/-- The records that are there are records of nodes the publisher is with. -/
private theorem Tracked.published_step (tracked : watch.Tracked pubId subId) {event : HostEvent Index}
    (belongs : Belongs pubId event) {index : Index} {remoteId : CString}
    (recorded : (watch.host.step pubId event).1.Recorded pubId subId index remoteId) :
    pubId ∈ ((watch.host.step pubId event).1.nodes index).localPubs := by
  have earlier : pubId ∈ (watch.host.nodes index).localPubs := by
    have move : watch.host.Move pubId subId _ event _ := tracked.consistent.move event
    generalize concerning subId (watch.host.calls pubId event) = told at move
    cases move with
    | quiet records => exact tracked.published index remoteId ((records index remoteId).mp recorded)
    | framed _ _ records => exact tracked.published index remoteId ((records index remoteId).mp recorded)
    | dropped _ _ _ _ records => exact tracked.published index remoteId (records index remoteId recorded)
    | leaves _ _ _ records =>
        exact tracked.published index remoteId ((records index remoteId).mp recorded).2
    | joins host guest _ published records =>
        rcases (records index remoteId).mp recorded with ⟨same, _⟩ | old
        · exact same ▸ published
        · exact tracked.published index remoteId old
  cases event with
  | frame data => exact earlier
  | node other event =>
      by_cases same : index = other
      · subst other
        simp only [Host.step, Function.update_self]
        exact (tracked.consistent index).mem_localPubs_step belongs earlier
      · simp only [Host.step, Function.update_of_ne same]
        exact earlier

theorem Tracked.step (tracked : watch.Tracked pubId subId) {event : HostEvent Index}
    (admissible : watch.Admissible pubId subId event) :
    (watch.step pubId subId event).1.Tracked pubId subId := by
  refine ⟨tracked.consistent.step event,
    fun index remoteId recorded => tracked.published_step admissible.1 recorded, ?_⟩
  have move : watch.host.Move pubId subId (watch.host.step pubId event).1 event
    (watch.told pubId subId event) := tracked.consistent.move event
  have slot : (watch.step pubId subId event).1.host.publisher.slot subId =
      (run (Slot.step watch.host.publisher.greeter subId) (watch.host.publisher.slot subId)
        (watch.told pubId subId event)).1 := (watch.host.slot_step pubId event subId).1
  have framed : (watch.step pubId subId event).1.framed =
    (watch.framed || (watch.told pubId subId event).any PublisherEvent.isFrame) := rfl
  have left : (watch.step pubId subId event).1.left = (watch.left ||
    !((watch.told pubId subId event).filterMap PublisherEvent.withdrawnBy).isEmpty) := rfl
  have timely := admissible.2
  rw [slot, framed, left]
  generalize watch.told pubId subId event = told at move timely
  cases move with
  | quiet records =>
      rw [List.any_nil, Bool.or_false, List.filterMap_nil, List.isEmpty_nil, Bool.not_true,
        Bool.or_false]
      exact tracked.course.congr (linked_step_iff records)
  | joins index guest length published records =>
      have linked : (watch.step pubId subId (.node index _)).1.Linked pubId subId :=
        ⟨index, guest, (records index guest).mpr (.inl ⟨rfl, rfl⟩)⟩
      have staying := timely _ List.mem_cons_self
      simp only [List.any_cons, List.any_nil, PublisherEvent.isFrame, PublisherEvent.withdrawnBy,
        List.filterMap_cons, List.filterMap_nil, List.isEmpty_nil, Bool.not_true, Bool.or_false]
      exact (tracked.course.addedSubscriber staying (by omega)).congr (iff_true_intro linked)
  | leaves index guest recorded records =>
      have arrived : watch.framed = true := timely _ List.mem_cons_self
      simp only [PublisherEvent.withdrawnBy, List.filterMap_cons, List.isEmpty_cons, Bool.not_false,
        Bool.or_true, arrived, Bool.true_or]
      exact Course.removedSubscriber _ subId guest
  | dropped index guest unpublished recorded records =>
      exact absurd (tracked.published index guest recorded) unpublished
  | framed data subject records =>
      have staying := timely _ List.mem_cons_self
      simp only [List.any_cons, PublisherEvent.isFrame, PublisherEvent.withdrawnBy, Bool.true_or,
        List.filterMap_cons, List.filterMap_nil, List.isEmpty_nil, Bool.not_true, Bool.or_false,
        Bool.or_true]
      exact (tracked.course.frame staying data).congr (linked_step_iff records)

omit [DecidableEq Index] in
private theorem leavesLast_of_no_withdrawal {event : HostEvent Index}
    (none : watch.withdrawals pubId subId event = []) : watch.LeavesLast pubId subId event := by
  cases event with
  | frame data => exact trivial
  | node index event =>
      intro remoteId member
      rw [none] at member
      cases member

/-- From a state in which the subscriber is served, it is served after a step
exactly if the step does not withdraw it from anybody else. -/
theorem Tracked.served_step_iff (tracked : watch.Tracked pubId subId) {event : HostEvent Index}
    (admissible : watch.Admissible pubId subId event) (served : watch.Served pubId subId) :
    (watch.step pubId subId event).1.Served pubId subId <-> watch.LeavesLast pubId subId event := by
  rw [(tracked.step admissible).served_iff]
  rw [tracked.served_iff] at served
  have move : watch.host.Move pubId subId (watch.host.step pubId event).1 event
    (watch.told pubId subId event) := tracked.consistent.move event
  have left : (watch.step pubId subId event).1.left =
    (watch.left || !(watch.withdrawals pubId subId event).isEmpty) := rfl
  have withdrawn : watch.withdrawals pubId subId event =
    (watch.told pubId subId event).filterMap PublisherEvent.withdrawnBy := rfl
  have timely := admissible.2
  rw [left]
  generalize watch.told pubId subId event = told at move timely withdrawn
  cases move with
  | quiet records =>
      refine iff_of_true ?_ (leavesLast_of_no_withdrawal withdrawn)
      rw [withdrawn, linked_step_iff records, List.filterMap_nil, List.isEmpty_nil, Bool.not_true,
        Bool.or_false]
      exact served
  | joins index guest length published records =>
      have staying : watch.left = false := timely _ List.mem_cons_self
      refine iff_of_true ?_ (leavesLast_of_no_withdrawal withdrawn)
      rw [withdrawn, staying]
      nofun
  | framed data subject records =>
      have staying : watch.left = false := timely _ List.mem_cons_self
      refine iff_of_true ?_ trivial
      rw [withdrawn, staying]
      nofun
  | dropped index guest unpublished recorded records =>
      exact absurd (tracked.published index guest recorded) unpublished
  | leaves index guest recorded records =>
      constructor
      · intro gone remoteId member other remote kept
        rw [withdrawn] at gone member
        cases List.mem_singleton.mp member
        by_contra different
        exact gone (Bool.or_true _) ⟨other, remote, (records other remote).mpr ⟨different, kept⟩⟩
      · rintro last _ ⟨other, remote, kept⟩
        rcases (records other remote).mp kept with ⟨different, earlier⟩
        refine different (last guest ?_ other remote earlier)
        rw [withdrawn]
        exact List.mem_cons_self

/-- Along every run, the subscriber is served exactly if it is always the
last pair that withdraws it. -/
theorem served_iff_of_run (pubId subId : CString) (uuid : Index -> CString) (greeter : Bool)
    (events : List (HostEvent Index))
    (admitted : Admits (step pubId subId) (Admissible pubId subId) (init uuid greeter) events) :
    Always (step pubId subId) (Served pubId subId) (init uuid greeter) events <->
      Admits (step pubId subId) (LeavesLast pubId subId) (init uuid greeter) events :=
  always_iff_admits (Tracked pubId subId) (Served pubId subId) (LeavesLast pubId subId)
    (fun _ _ tracked admissible => tracked.step admissible)
    (fun _ _ tracked admissible served => tracked.served_step_iff admissible served)
    (Tracked.init uuid greeter) nofun admitted

theorem served_iff_of_run_sole :
    let remote := exampleStub 98 (by decide)
    let pub := examplePublisher 99 (by decide) ⟨[102], by decide⟩
    let subId := repeatedUuid 100 (by decide)
    let start : Watch Unit := init (fun _ => repeatedUuid 97 (by decide)) true
    let events : List (HostEvent Unit) :=
      [.node () (.added remote), .node () (.addPublisher pub),
        .node () (.message remote.uuid (ControlMessage.subscribe pub subId).encode),
        .frame (1 :: subId.bytes), .node () (.removed remote)]
    Admits (step pub.uuid subId) (Admissible pub.uuid subId) start events ∧
      Always (step pub.uuid subId) (Served pub.uuid subId) start events := by
  intro remote pub subId start events
  have admitted : Admits (step pub.uuid subId) (Admissible pub.uuid subId) start events := by
    decide +kernel
  refine ⟨admitted, (served_iff_of_run pub.uuid subId _ true events admitted).mpr ?_⟩
  change Admits (step pub.uuid subId) (LeavesLast pub.uuid subId) start events
  decide +kernel

/-- Two remote nodes announce a subscriber, and one of them withdraws it. -/
theorem unserved_after_withdrawal :
    let first := exampleStub 98 (by decide)
    let second := exampleStub 101 (by decide)
    let pub := examplePublisher 99 (by decide) ⟨[102], by decide⟩
    let subId := repeatedUuid 100 (by decide)
    let start : Watch Unit := init (fun _ => repeatedUuid 97 (by decide)) false
    let events : List (HostEvent Unit) :=
      [.node () (.added first), .node () (.added second), .node () (.addPublisher pub),
        .node () (.message first.uuid (ControlMessage.subscribe pub subId).encode),
        .node () (.message second.uuid (ControlMessage.subscribe pub subId).encode),
        .frame (1 :: subId.bytes),
        .node () (.message first.uuid (ControlMessage.unsubscribe pub subId).encode)]
    Admits (step pub.uuid subId) (Admissible pub.uuid subId) start events ∧
      ¬ Always (step pub.uuid subId) (Served pub.uuid subId) start events := by
  intro first second pub subId start events
  refine ⟨by decide +kernel, fun always => ?_⟩
  have served := always.last
  have framed : (run (step pub.uuid subId) start events).1.framed = true := by decide +kernel
  have recorded : ((run (step pub.uuid subId) start events).1.host.nodes ()).Records pub.uuid subId
    second.uuid := by decide +kernel
  have gone : subId ∉ (run (step pub.uuid subId) start events).1.host.publisher.subscriptions := by
    decide +kernel
  exact gone ((served framed).mpr ⟨(), second.uuid, recorded⟩)

end

end Watch
end Connection
end Umundo
