import Mathlib.Logic.Function.Basic
import Umundo.Connection.PublisherCalls

namespace Umundo
namespace Connection

open Foundation Std

/-!
# A publisher and the nodes it was added to

A publisher may be added to any number of nodes of a process.  Each of them
records the subscriptions of the remote nodes it knows, and each of them calls
the same publisher.  The subscription frames reach the publisher on a socket
of its own.

The nodes and the publisher are run together here.  What a step means to one
subscriber is again one of a few moves, which change the records of the nodes
and the slot of the subscriber.
-/

/-- The nodes of a process, and one of its publishers. -/
structure Host (Index : Type) where
  nodes : Index -> ZeroMQNode
  publisher : ZeroMQPublisher

inductive HostEvent (Index : Type) where
  | node (index : Index) (event : NodeEvent)
  /-- a frame on the socket of the publisher -/
  | frame (data : Bytes)

namespace Host

variable {Index : Type} [DecidableEq Index]

def init (uuid : Index -> CString) (greeter : Bool) : Host Index where
  nodes := fun index => .init (uuid index)
  publisher := .init greeter

/-- What the publisher is told in one step. -/
def calls (pubId : CString) (host : Host Index) : HostEvent Index -> List PublisherEvent
  | .node index event => callsTo pubId ((host.nodes index).step event).2
  | .frame data => [.frame data]

def step (pubId : CString) (host : Host Index) (event : HostEvent Index) :
    Host Index × List PublisherEffect :=
  let told := run ZeroMQPublisher.step host.publisher (host.calls pubId event)
  match event with
  | .node index event =>
      (⟨Function.update host.nodes index ((host.nodes index).step event).1, told.1⟩, told.2)
  | .frame _ => (⟨host.nodes, told.1⟩, told.2)

/-- A pair of a local and a remote node has the subscription on record. -/
def Recorded (pubId subId : CString) (host : Host Index) (index : Index) (remoteId : CString) : Prop :=
  (host.nodes index).Records pubId subId remoteId

/-- What a step means to one subscriber, and what the publisher is told of it. -/
inductive Move (pubId subId : CString) (host after : Host Index) :
    HostEvent Index -> List PublisherEvent -> Prop
  | quiet {event : HostEvent Index} :
      (forall index remoteId, after.Recorded pubId subId index remoteId <->
        host.Recorded pubId subId index remoteId) ->
      Move pubId subId host after event []
  | joins {event : NodeEvent} (index : Index) (guest : CString) :
      guest.length = 36 -> pubId ∈ (host.nodes index).localPubs ->
      (forall other remoteId, after.Recorded pubId subId other remoteId <->
        (index = other ∧ guest = remoteId) ∨ host.Recorded pubId subId other remoteId) ->
      Move pubId subId host after (.node index event) [.addedSubscriber guest subId]
  | leaves {event : NodeEvent} (index : Index) (guest : CString) :
      host.Recorded pubId subId index guest ->
      (forall other remoteId, after.Recorded pubId subId other remoteId <->
        ¬ (index = other ∧ guest = remoteId) ∧ host.Recorded pubId subId other remoteId) ->
      Move pubId subId host after (.node index event) [.removedSubscriber guest subId]
  | dropped {event : NodeEvent} (index : Index) (guest : CString) :
      pubId ∉ (host.nodes index).localPubs -> host.Recorded pubId subId index guest ->
      (forall other remoteId, after.Recorded pubId subId other remoteId ->
        host.Recorded pubId subId other remoteId) ->
      Move pubId subId host after (.node index event) []
  | framed (data : Bytes) :
      subscribedBy data = some subId ->
      (forall index remoteId, after.Recorded pubId subId index remoteId <->
        host.Recorded pubId subId index remoteId) ->
      Move pubId subId host after (.frame data) [.frame data]

/-- The nodes of a host are nodes that can be reached. -/
def Consistent (host : Host Index) : Prop :=
  forall index, (host.nodes index).Consistent

section

variable {pubId subId : CString} {host : Host Index}

omit [DecidableEq Index] in
theorem Consistent.init (uuid : Index -> CString) (greeter : Bool) : (init uuid greeter).Consistent :=
  fun index => ZeroMQNode.Consistent.init (uuid index)

theorem Consistent.step (consistent : host.Consistent) (event : HostEvent Index) :
    (host.step pubId event).1.Consistent := by
  intro other
  cases event with
  | node index event =>
      by_cases same : other = index
      · subst other
        simp only [Host.step, Function.update_self]
        exact (consistent index).step event
      · simp only [Host.step, Function.update_of_ne same]
        exact consistent other
  | frame data => exact consistent other

/-- A step changes the records of its own node, and no others. -/
private theorem recorded_step_iff {index : Index} {event : NodeEvent}
    {recorded : Index -> CString -> Prop}
    (here : forall remoteId,
      ((host.nodes index).step event).1.Records pubId subId remoteId <-> recorded index remoteId)
    (elsewhere : forall other remoteId, index ≠ other ->
      (recorded other remoteId <-> host.Recorded pubId subId other remoteId))
    (other : Index) (remoteId : CString) :
    (host.step pubId (.node index event)).1.Recorded pubId subId other remoteId <->
      recorded other remoteId := by
  by_cases same : index = other
  · subst other
    rw [← here remoteId]
    simp only [Recorded, Host.step, Function.update_self]
  · rw [elsewhere other remoteId same]
    simp only [Recorded, Host.step, Function.update_of_ne (Ne.symm same)]

private theorem recorded_withdrawn_iff {index : Index} {event : NodeEvent} {guest : CString}
    (records : forall remoteId, ((host.nodes index).step event).1.Records pubId subId remoteId <->
      guest ≠ remoteId ∧ (host.nodes index).Records pubId subId remoteId) :
    forall other remoteId,
      (host.step pubId (.node index event)).1.Recorded pubId subId other remoteId <->
        ¬ (index = other ∧ guest = remoteId) ∧ host.Recorded pubId subId other remoteId := by
  refine recorded_step_iff ?_ ?_
  · intro remoteId
    simp only [records, true_and, Recorded, ne_eq]
  · intro other remoteId different
    exact and_iff_right (fun same => different same.1)

theorem Consistent.move (consistent : host.Consistent) (event : HostEvent Index) :
    Move pubId subId host (host.step pubId event).1 event (concerning subId (host.calls pubId event)) := by
  cases event with
  | frame data =>
      by_cases subject : subscribedBy data = some subId
      · have told : concerning subId (host.calls pubId (.frame data)) = [.frame data] :=
          List.filter_cons_of_pos (decide_eq_true subject)
        rw [told]
        exact .framed data subject (fun _ _ => Iff.rfl)
      · have told : concerning subId (host.calls pubId (.frame data)) = [] :=
          List.filter_cons_of_neg (fun found => subject (of_decide_eq_true found))
        rw [told]
        exact .quiet (fun _ _ => Iff.rfl)
  | node index event =>
      have turn : (host.nodes index).Turn pubId subId ((host.nodes index).step event) :=
        (consistent index).turn event
      have calls : host.calls pubId (.node index event) =
        callsTo pubId ((host.nodes index).step event).2 := rfl
      rw [calls]
      cases turn with
      | quiet silent records =>
          rw [silent]
          exact .quiet (recorded_step_iff records (fun _ _ _ => Iff.rfl))
      | joins guest known published fresh told records =>
          rw [told]
          refine .joins index guest ((consistent index).named guest known) published
            (recorded_step_iff ?_ ?_)
          · intro remoteId
            simp only [records, true_and, Recorded]
          · intro other remoteId different
            exact or_iff_right (fun same => different same.1)
      | leaves guest recorded told records =>
          rw [told]
          exact .leaves index guest recorded (recorded_withdrawn_iff records)
      | dropped guest unpublished recorded silent records =>
          rw [silent]
          exact .dropped index guest unpublished recorded
            (fun other remoteId kept => ((recorded_withdrawn_iff records other remoteId).mp kept).2)

/-- One step, seen from the slot of one subscriber. -/
theorem slot_step (pubId : CString) (host : Host Index) (event : HostEvent Index) (subId : CString) :
    (host.step pubId event).1.publisher.slot subId =
        (run (Slot.step host.publisher.greeter subId) (host.publisher.slot subId)
          (concerning subId (host.calls pubId event))).1 ∧
      (host.step pubId event).2.filter (fun effect => effect.subId = subId) =
        (run (Slot.step host.publisher.greeter subId) (host.publisher.slot subId)
          (concerning subId (host.calls pubId event))).2 := by
  have told := host.publisher.run_slot (host.calls pubId event) subId
  cases event with
  | node index event => exact told
  | frame data => exact told

end

end Host
end Connection
end Umundo
