import Umundo.Connection.PublisherSuspension

namespace Umundo
namespace Connection

open Foundation Std

/-!
# Subscriptions at a suspended node

A suspended node has forgotten all remote nodes, with their publishers and
subscriptions.  Its publishers should forget the remote subscribers as well.  But the
publishers are removed before the remote nodes are, and only local publishers are told
that a subscriber is gone.  Publishers that were announced by nodes which were never
discovered are not forgotten either.
-/

namespace LifecycleNode

/-- All subscriptions end with a suspension.  The publishers are in any state. -/
structure SubscriptionsEnd (publishers : CString -> ZeroMQPublisher) (state next : LifecycleNode)
    (effects : List LifecycleEffect) : Prop where
  nodes : next.node.nodes = ∅
  sockets : next.node.sockets = ∅
  remotePubs : next.node.remotePubs = ∅
  subscriptions : next.node.subscriptions = ∅
  pending : forall remoteId uuid, uuid ∉ next.node.pendingRemotePubs.row remoteId
  reported : forall pubId remoteId subId, pubId ∈ state.node.localPubs ->
    state.node.Records pubId subId remoteId ->
      (publisherCalls pubId effects).count (.removedSubscriber remoteId subId) = 1
  ended : forall pubId remoteId subId, pubId ∈ state.node.localPubs ->
    state.node.Records pubId subId remoteId ->
      subId ∉ (run ZeroMQPublisher.step (publishers pubId)
        (publisherCalls pubId effects)).1.subscriptions

/-- Nobody has subscribed to a local publisher, and every node that announced a publisher
was discovered. -/
structure Unsubscribed (state : LifecycleNode) : Prop where
  unrecorded : forall pubId remoteId subId, pubId ∈ state.node.localPubs ->
    ¬ state.node.Records pubId subId remoteId
  discovered : forall remoteId uuid, remoteId ∉ state.node.nodes ->
    uuid ∉ state.node.pendingRemotePubs.row remoteId

namespace Orderly

variable {state : LifecycleNode}

theorem step_any (orderly : state.Orderly) {event : LifecycleEvent} (allowed : state.Allowed event) :
    Orderly (state.step event).1 := by
  by_cases legal : state.registrar.Legal event.call
  · exact (orderly.step allowed legal).1
  · rw [orderly.step_refused legal]
    exact orderly

/-- What every call of `suspend` leaves, also if the node is suspended already. -/
theorem step_suspend (orderly : state.Orderly) :
    (state.step .suspend).1.node.nodes = ∅ ∧
      (forall remoteId, (state.step .suspend).1.node.pendingRemotePubs.row remoteId =
        if remoteId ∈ state.node.nodes then ∅ else state.node.pendingRemotePubs.row remoteId) ∧
      forall pubId, publisherCalls pubId (state.step .suspend).2 = [] := by
  cases suspended : state.isSuspended with
  | true =>
      have same : state.step .suspend = (state, []) := by
        rw [LifecycleNode.step, LifecycleNode.react, LifecycleNode.suspend, if_pos suspended]
        rfl
      have nodes := orderly.quiet suspended
      rw [same]
      refine ⟨nodes, fun remoteId => ?_, fun _ => rfl⟩
      rw [if_neg]
      rw [nodes]
      exact ExtTreeMap.not_mem_empty
  | false =>
      obtain ⟨next, ends, after, discreet⟩ := suspend_spec orderly.valid suspended
      rw [LifecycleNode.step, LifecycleNode.react, ends]
      refine ⟨after.nodes, fun remoteId => ?_, publisherCalls_of_discreet discreet⟩
      split
      next known =>
        refine Table.row_of_not_mem fun present => ?_
        rw [ExtTreeMap.mem_iff_isSome_getElem?] at present
        rw [Option.getD_some, after.gone remoteId known] at present
        cases present
      next unknown => exact Table.row_congr (after.kept remoteId unknown)

/-- Suspending a node ends its subscriptions exactly if there are none to be reported and
nothing is pending for a node that is not there. -/
theorem subscriptionsEnd_iff (orderly : state.Orderly) (publishers : CString -> ZeroMQPublisher) :
    SubscriptionsEnd publishers state (state.step .suspend).1 (state.step .suspend).2 <->
      state.Unsubscribed := by
  obtain ⟨nodes, pending, silent⟩ := orderly.step_suspend
  have after : Orderly (state.step .suspend).1 := orderly.step_any trivial
  have consistent := after.valid.toConsistent
  constructor
  · intro ends
    refine ⟨fun pubId remoteId subId published recorded => ?_, fun remoteId uuid unknown => ?_⟩
    · have once := ends.reported pubId remoteId subId published recorded
      rw [silent] at once
      cases once
    · have left := ends.pending remoteId uuid
      rw [pending, if_neg unknown] at left
      exact left
  · intro unsubscribed
    have none (remoteId : CString) : remoteId ∉ (state.step .suspend).1.node.nodes := by
      rw [nodes]
      exact ExtTreeMap.not_mem_empty
    refine ⟨nodes, ?_, ?_, ?_, fun remoteId uuid => ?_, ?_, ?_⟩
    · exact Table.eq_empty_of_not_mem fun remoteId member =>
        none remoteId ((consistent.sockets_iff remoteId).mp member)
    · exact Table.eq_empty_of_not_mem fun remoteId member =>
        none remoteId (consistent.remote_known remoteId member)
    · exact Table.eq_empty_of_not_mem fun remoteId member =>
        none remoteId (consistent.subscriptions_known remoteId member)
    · rw [pending]
      split
      next => exact ExtTreeMap.not_mem_empty
      next unknown => exact unsubscribed.discovered remoteId uuid unknown
    · exact fun pubId remoteId subId published recorded =>
        absurd recorded (unsubscribed.unrecorded pubId remoteId subId published)
    · exact fun pubId remoteId subId published recorded =>
        absurd recorded (unsubscribed.unrecorded pubId remoteId subId published)

end Orderly

/-- In every state that can be reached, suspending the node ends all subscriptions if and
only if nobody has subscribed to a local publisher and every node that announced a
publisher was discovered. -/
theorem subscriptionsEnd_iff_of_run (uuid : CString) (publishers : CString -> ZeroMQPublisher)
    (events : List LifecycleEvent) (admitted : Admits step Allowed (init uuid) events) :
    SubscriptionsEnd publishers (run step (init uuid) events).1
        (step (run step (init uuid) events).1 .suspend).1
        (step (run step (init uuid) events).1 .suspend).2 <->
      Unsubscribed (run step (init uuid) events).1 := by
  have orderly : Orderly (run step (init uuid) events).1 :=
    invariant_of_run Orderly (fun _ _ kept allowed => kept.step_any allowed) (.init uuid) admitted
  exact orderly.subscriptionsEnd_iff publishers

private def home : CString := repeatedUuid 106 (by decide)

private def visitor : NodeStub := exampleStub 107 (by decide)

private def feed : PublisherInfo := examplePublisher 108 (by decide) (.ofBytes [102])

private def reader : CString := repeatedUuid 109 (by decide)

/-- A visitor announces a publisher and is discovered. -/
private def greeted : List LifecycleEvent :=
  [.node (.addPublisher feed), .node (.message visitor.uuid (ControlMessage.pubAdded feed).encode),
    .node (.added visitor)]

theorem subscriptionsEnd_iff_of_run_greeted :
    SubscriptionsEnd (fun _ => .init false) (run step (init home) greeted).1
      (step (run step (init home) greeted).1 .suspend).1
      (step (run step (init home) greeted).1 .suspend).2 := by
  have told : Admits step Allowed (init home) greeted ∧
      (run step (init home) greeted).1.node.subscriptions.isEmpty = true ∧
      (run step (init home) greeted).1.node.pendingRemotePubs.keys = [visitor.uuid] ∧
      visitor.uuid ∈ (run step (init home) greeted).1.node.nodes := by
    decide +kernel
  obtain ⟨admitted, vacant, listed, known⟩ := told
  refine (subscriptionsEnd_iff_of_run home _ greeted admitted).mpr ⟨?_, ?_⟩
  · intro pubId remoteId subId _ recorded
    have filed := Table.mem_row_of_mem_cell recorded
    rw [ExtTreeMap.isEmpty_iff.mp vacant, Table.row_of_not_mem ExtTreeMap.not_mem_empty] at filed
    exact ExtTreeMap.not_mem_empty filed
  · intro remoteId uuid unknown
    rw [Table.row_of_not_mem]
    · exact ExtTreeMap.not_mem_empty
    · intro member
      rw [← ExtTreeMap.mem_keys, listed] at member
      exact unknown (List.mem_singleton.mp member ▸ known)

private def subscribed : List LifecycleEvent :=
  [.node (.addPublisher feed), .node (.added visitor),
    .node (.message visitor.uuid (ControlMessage.subscribe feed reader).encode)]

private def established : ZeroMQPublisher :=
  (run ZeroMQPublisher.step (.init false)
    [.addedSubscriber visitor.uuid reader, .frame (1 :: reader.bytes)]).1

/-- The publisher keeps the subscriber of a node that is gone. -/
theorem subscriber_outlives_suspension :
    Admits step Allowed (init home) subscribed ∧
      ¬ SubscriptionsEnd (fun _ => established) (run step (init home) subscribed).1
        (step (run step (init home) subscribed).1 .suspend).1
        (step (run step (init home) subscribed).1 .suspend).2 := by
  have told : Admits step Allowed (init home) subscribed ∧
      feed.uuid ∈ (run step (init home) subscribed).1.node.localPubs ∧
      (run step (init home) subscribed).1.node.Records feed.uuid reader visitor.uuid ∧
      reader ∈ (run ZeroMQPublisher.step established
        (publisherCalls feed.uuid (step (run step (init home) subscribed).1 .suspend).2)).1.subscriptions := by
    decide +kernel
  obtain ⟨admitted, published, recorded, kept⟩ := told
  exact ⟨admitted, fun ends => ends.ended feed.uuid visitor.uuid reader published recorded kept⟩

end LifecycleNode

end Connection
end Umundo
