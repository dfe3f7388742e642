import Umundo.Connection.NodeMessages
import Umundo.Foundation.Locality

namespace Umundo
namespace Connection

open Foundation Std

/-!
# Events of different remote nodes

Discovery and the messages of remote nodes all act on the same nested tables.  But every
event is about one remote node, and all it looks at are the entries of that node, our own
publishers and our own subscribers.  So the events of two different remote nodes can be
exchanged: the tables are the same afterwards, every node has been sent the same messages,
and every subscriber has made the same connections.
-/

/-- All that a node keeps about one remote node, and what it shares between all of them. -/
structure RemoteView where
  uuid : CString
  localPubs : Table CString PublisherInfo
  localSubs : Keys Subscriber
  stub : Option NodeStub
  socket : Option (Option Socket)
  remotePubs : Option (Table CString PublisherStub)
  pendingRemotePubs : Option (Table CString PublisherStub)
  subscriptions : Option (Table CString (Keys CString))

namespace ZeroMQNode

def view (node : ZeroMQNode) (remoteId : CString) : RemoteView where
  uuid := node.uuid
  localPubs := node.localPubs
  localSubs := node.localSubs
  stub := node.nodes[remoteId]?
  socket := node.sockets[remoteId]?
  remotePubs := node.remotePubs[remoteId]?
  pendingRemotePubs := node.pendingRemotePubs[remoteId]?
  subscriptions := node.subscriptions[remoteId]?

/-- Nothing but the views makes up a node. -/
theorem eq_of_view {first second : ZeroMQNode}
    (same : forall remoteId, first.view remoteId = second.view remoteId) : first = second := by
  have nodes : first.nodes = second.nodes :=
    ExtTreeMap.ext_getElem? fun remoteId => congrArg RemoteView.stub (same remoteId)
  have sockets : first.sockets = second.sockets :=
    ExtTreeMap.ext_getElem? fun remoteId => congrArg RemoteView.socket (same remoteId)
  have remotePubs : first.remotePubs = second.remotePubs :=
    ExtTreeMap.ext_getElem? fun remoteId => congrArg RemoteView.remotePubs (same remoteId)
  have pendingRemotePubs : first.pendingRemotePubs = second.pendingRemotePubs :=
    ExtTreeMap.ext_getElem? fun remoteId => congrArg RemoteView.pendingRemotePubs (same remoteId)
  have subscriptions : first.subscriptions = second.subscriptions :=
    ExtTreeMap.ext_getElem? fun remoteId => congrArg RemoteView.subscriptions (same remoteId)
  have shared := same .empty
  have uuid : first.uuid = second.uuid := congrArg RemoteView.uuid shared
  have localPubs : first.localPubs = second.localPubs := congrArg RemoteView.localPubs shared
  have localSubs : first.localSubs = second.localSubs := congrArg RemoteView.localSubs shared
  cases first
  cases second
  simp only at nodes sockets remotePubs pendingRemotePubs subscriptions uuid localPubs localSubs
  subst nodes sockets remotePubs pendingRemotePubs subscriptions uuid localPubs localSubs
  rfl

/-! ## Every event acts on one remote node -/

section

variable {remoteId : CString} {first second : ZeroMQNode}

theorem actsAt_park (pub : Option PublisherStub) :
    ActsAt view remoteId fun node => (node.park remoteId pub, ([] : List Effect)) := by
  cases pub with
  | none => exact .idle
  | some pub =>
      refine ⟨fun node other different => ?_, fun {first second} same => ⟨?_, rfl⟩⟩
      · simp only [park, view, Table.store, Table.getElem?_insert_eq, if_neg different]
      · have row := Table.row_congr (congrArg RemoteView.pendingRemotePubs same)
        simp only [view, RemoteView.mk.injEq] at same
        simp only [park, view, Table.store, Table.getElem?_insert_eq, if_true, same, row]

theorem linkPublisher_congr (same : first.view remoteId = second.view remoteId)
    (socket : Option Socket) (pub : PublisherStub) :
    first.linkPublisher socket pub = second.linkPublisher socket pub := by
  have localSubs : first.localSubs = second.localSubs := congrArg RemoteView.localSubs same
  rw [linkPublisher, linkPublisher, subscribersOn, subscribersOn, localSubs]

theorem removeRemotePubFromLocalSubs_congr (same : first.view remoteId = second.view remoteId)
    (pub : PublisherStub) :
    first.removeRemotePubFromLocalSubs pub = second.removeRemotePubFromLocalSubs pub := by
  have localSubs : first.localSubs = second.localSubs := congrArg RemoteView.localSubs same
  rw [removeRemotePubFromLocalSubs, removeRemotePubFromLocalSubs, subscribersOn, subscribersOn, localSubs]

theorem actsAt_promote : ActsAt view remoteId fun node => node.promote remoteId := by
  refine ⟨fun node other different => ?_, fun {first second} same => ?_⟩
  · rcases node.promote_cases remoteId with ⟨_, still⟩ | ⟨stub, pending, known, parked⟩
    · rw [still]
    · simp only [promote_of_known known parked, view, Table.getElem?_touch, if_neg different.symm,
        Table.getElem?_storeAll_of_ne _ _ different, Table.getElem?_insert_eq, if_neg different]
  · have nodes : first.nodes[remoteId]? = second.nodes[remoteId]? := congrArg RemoteView.stub same
    have pendings : first.pendingRemotePubs[remoteId]? = second.pendingRemotePubs[remoteId]? :=
      congrArg RemoteView.pendingRemotePubs same
    rcases first.promote_cases remoteId with ⟨absent, still⟩ | ⟨stub, pending, known, parked⟩
    · have unmoved : second.promote remoteId = (second, []) := by
        rcases absent with unknown | unparked
        · exact promote_of_unknown (mt (Table.mem_congr nodes).mpr unknown)
        · exact promote_of_unparked (mt (Table.mem_congr pendings).mpr unparked)
      rw [still, unmoved]
      exact ⟨same, rfl⟩
    · have socket : first.sockets.getD remoteId none = second.sockets.getD remoteId none :=
        Table.getD_congr (congrArg RemoteView.socket same) none
      have rows := fun entries => Table.getElem?_storeAll_congr entries
        (congrArg RemoteView.remotePubs same : first.remotePubs[remoteId]? = second.remotePubs[remoteId]?)
      rw [promote_of_known known parked, promote_of_known (nodes ▸ known) (pendings ▸ parked), socket]
      refine ⟨?_, List.flatMap_congr fun pub _ => linkPublisher_congr same _ pub⟩
      simp only [view, RemoteView.mk.injEq] at same
      simp only [view, Table.getElem?_touch, Table.getElem?_insert_eq, if_true, same, rows]

theorem actsAt_addRemotePubToLocalSubs (pub : Option PublisherStub) :
    ActsAt view remoteId fun node => node.addRemotePubToLocalSubs remoteId pub :=
  (actsAt_park pub).followedBy actsAt_promote

/-- The callbacks of discovery do nothing if they are about the node itself. -/
theorem actsAt_unlessOwn {act : ZeroMQNode -> ZeroMQNode × List Effect} (acts : ActsAt view remoteId act)
    (uuid : CString) : ActsAt view remoteId fun node => if uuid = node.uuid then (node, []) else act node := by
  refine .choice (fun {first second} same => ?_) .idle acts
  have own : first.uuid = second.uuid := congrArg RemoteView.uuid same
  rw [own]

theorem actsAt_added (stub : NodeStub) : ActsAt view stub.uuid fun node => node.added stub := by
  have connects : ActsAt view stub.uuid fun node => (node.connect stub,
      announce ⟨stub.uuid, stub.address⟩ (node.localPubs.size - 1 : Int)
        (node.localPubs.toList.map Prod.snd)) := by
    refine ⟨fun node other different => ?_, fun {first second} same => ?_⟩
    · simp only [connect, view, Table.getElem?_insert_eq, if_neg different]
    · have localPubs : first.localPubs = second.localPubs := congrArg RemoteView.localPubs same
      refine ⟨?_, by rw [localPubs]⟩
      simp only [view, RemoteView.mk.injEq] at same
      simp only [connect, view, Table.getElem?_insert_eq, if_true, same]
  exact actsAt_unlessOwn (connects.followedBy (actsAt_addRemotePubToLocalSubs none)) stub.uuid

theorem dropSubscriptions_congr (same : first.view remoteId = second.view remoteId) :
    first.dropSubscriptions remoteId = second.dropSubscriptions remoteId := by
  have localPubs : first.localPubs = second.localPubs := congrArg RemoteView.localPubs same
  rw [dropSubscriptions, dropSubscriptions, localPubs,
    Table.row_congr (congrArg RemoteView.subscriptions same)]

/-- The three parts of `removed`. -/
theorem actsAt_removed (stub : NodeStub) : ActsAt view stub.uuid fun node => node.removed stub := by
  have unlinks : ActsAt view stub.uuid fun node =>
      if stub.uuid ∈ node.nodes then
        ({ node with remotePubs := node.remotePubs.insertIfNew stub.uuid ∅ },
          (node.remotePubs.row stub.uuid).toList.flatMap fun entry =>
            node.removeRemotePubFromLocalSubs entry.2)
      else (node, []) := by
    refine .choice (fun same => Table.mem_congr (congrArg RemoteView.stub same)) ?_ .idle
    refine ⟨fun node other different => ?_, fun {first second} same => ⟨?_, ?_⟩⟩
    · simp only [view, Table.getElem?_touch, if_neg different.symm]
    · simp only [view, RemoteView.mk.injEq] at same
      simp only [view, Table.getElem?_touch, if_true, same]
    · rw [Table.row_congr (congrArg RemoteView.remotePubs same)]
      exact List.flatMap_congr fun entry _ => removeRemotePubFromLocalSubs_congr same entry.2
  have parts : ActsAt view stub.uuid fun node => (node, node.dropSubscriptions stub.uuid) :=
    .emits dropSubscriptions_congr
  have forgets : ActsAt view stub.uuid fun node =>
      if stub.uuid ∉ node.sockets then (node, [])
      else
        ({ node with
            sockets := node.sockets.erase stub.uuid
            remotePubs := node.remotePubs.erase stub.uuid
            subscriptions := node.subscriptions.erase stub.uuid
            nodes := node.nodes.erase stub.uuid
            pendingRemotePubs := node.pendingRemotePubs.erase stub.uuid },
          [Effect.close (node.sockets.getD stub.uuid none)]) := by
    refine .choice (fun same => not_congr (Table.mem_congr (congrArg RemoteView.socket same))) .idle ?_
    refine ⟨fun node other different => ?_, fun {first second} same => ⟨?_, ?_⟩⟩
    · simp only [view, Table.getElem?_erase_eq, if_neg different]
    · simp only [view, RemoteView.mk.injEq] at same
      simp only [view, Table.getElem?_erase_eq, if_true, same]
    · rw [Table.getD_congr (congrArg RemoteView.socket same)]
  refine (actsAt_unlessOwn ((unlinks.followedBy parts).followedBy forgets) stub.uuid).congr fun node => ?_
  simp only [removed]
  by_cases own : stub.uuid = node.uuid
  · rw [if_pos own, if_pos own]
  · rw [if_neg own, if_neg own]
    by_cases known : stub.uuid ∈ node.nodes <;> by_cases connected : stub.uuid ∈ node.sockets <;>
      simp only [known, connected, not_true_eq_false, not_false_eq_true, if_true, if_false,
        List.append_nil, dropSubscriptions]

theorem actsAt_processPubAdded (message : Bytes) :
    ActsAt view remoteId fun node => node.processPubAdded remoteId message := by
  cases decoded : decodePub message with
  | none => exact ActsAt.idle.congr fun node => by rw [processPubAdded, decoded]
  | some pub =>
      refine (actsAt_addRemotePubToLocalSubs (some (.ofInfo pub))).congr fun node => ?_
      rw [processPubAdded, decoded]

theorem actsAt_processPubRemoved (message : Bytes) :
    ActsAt view remoteId fun node => node.processPubRemoved remoteId message := by
  cases decoded : decodePub message with
  | none => exact ActsAt.idle.congr fun node => by rw [processPubRemoved, decoded]
  | some pub =>
      have withdraws (pubStub : PublisherStub) : ActsAt view remoteId fun node =>
          ({ node with remotePubs :=
              node.remotePubs.insert remoteId ((node.remotePubs.row remoteId).erase pub.uuid) },
            node.removeRemotePubFromLocalSubs pubStub) := by
        refine ⟨fun node other different => ?_, fun {first second} same => ⟨?_, ?_⟩⟩
        · simp only [view, Table.getElem?_insert_eq, if_neg different]
        · have row := Table.row_congr (congrArg RemoteView.remotePubs same)
          simp only [view, RemoteView.mk.injEq] at same
          simp only [view, Table.getElem?_insert_eq, if_true, same, row]
        · exact removeRemotePubFromLocalSubs_congr same pubStub
      refine (ActsAt.lookup (fun node => (node.remotePubs.row remoteId)[pub.uuid]?) (fun same => ?_)
        withdraws .idle).congr fun node => ?_
      · rw [Table.row_congr (congrArg RemoteView.remotePubs same)]
      · rw [processPubRemoved, decoded]
        dsimp only
        cases (node.remotePubs.row remoteId)[pub.uuid]? <;> rfl

/-- A write to one row of the subscriptions. -/
theorem actsAt_subscriptions
    (write : Table CString (Table CString (Keys CString)) -> Table CString (Table CString (Keys CString)))
    (calls : List Effect)
    (others : forall table other, other ≠ remoteId -> (write table)[other]? = table[other]?)
    (own : forall {first second}, first[remoteId]? = second[remoteId]? ->
      (write first)[remoteId]? = (write second)[remoteId]?) :
    ActsAt view remoteId fun node => ({ node with subscriptions := write node.subscriptions }, calls) := by
  refine ⟨fun node other different => ?_, fun {first second} same => ⟨?_, rfl⟩⟩
  · simp only [view, others _ other different]
  · have row := own (congrArg RemoteView.subscriptions same :
      first.subscriptions[remoteId]? = second.subscriptions[remoteId]?)
    simp only [view, RemoteView.mk.injEq] at same
    simp only [view, row, same]

theorem actsAt_processSubscription (message : Bytes) (subscribe : Bool) :
    ActsAt view remoteId fun node => node.processSubscription remoteId message subscribe := by
  cases decoded : decodeSubscription message with
  | none => exact ActsAt.idle.congr fun node => processSubscription_of_malformed decoded
  | some found =>
      obtain ⟨pub, subId⟩ := found
      have row {first second : Table CString (Table CString (Keys CString))}
          (same : first[remoteId]? = second[remoteId]?) := Table.row_congr same
      have recorded {first second : ZeroMQNode} (same : first.view remoteId = second.view remoteId) :
          subId ∈ first.subscriptions.cell remoteId pub.uuid <->
            subId ∈ second.subscriptions.cell remoteId pub.uuid := by
        rw [Table.cell, Table.cell, row (congrArg RemoteView.subscriptions same)]
      have subscribes := @actsAt_subscriptions remoteId
        (fun table => table.insertCell remoteId pub.uuid subId)
        [.addedSubscriber pub.uuid remoteId subId]
        (fun table other different => by
          rw [Table.insertCell, Table.getElem?_insert_eq, if_neg different])
        (fun same => by
          simp only [Table.insertCell, Table.getElem?_insert_eq, if_true, Table.cell, row same])
      have unsubscribes := @actsAt_subscriptions remoteId
        (fun table => table.pruneCell remoteId pub.uuid subId)
        [.removedSubscriber pub.uuid remoteId subId]
        (fun table other different => by
          rw [Table.pruneCell, Table.getElem?_shrinkRow, if_neg different])
        (fun same => by
          rw [Table.pruneCell, Table.pruneCell, Table.getElem?_shrinkRow, Table.getElem?_shrinkRow,
            if_pos rfl, if_pos rfl, Table.cell, Table.cell, row same])
      have published {first second : ZeroMQNode} (same : first.view remoteId = second.view remoteId) :
          pub.uuid ∈ first.localPubs <-> pub.uuid ∈ second.localPubs := by
        have localPubs : first.localPubs = second.localPubs := congrArg RemoteView.localPubs same
        rw [localPubs]
      cases subscribe with
      | true =>
          refine (ActsAt.choice published (.choice recorded .idle subscribes) .idle).congr fun node => ?_
          by_cases known : pub.uuid ∈ node.localPubs
          · rw [processSubscription_subscribe decoded known, if_pos known]
          · rw [processSubscription_of_unpublished decoded known, if_neg known]
      | false =>
          refine (ActsAt.choice published (.choice recorded unsubscribes .idle) .idle).congr fun node => ?_
          by_cases known : pub.uuid ∈ node.localPubs
          · rw [processSubscription_unsubscribe decoded known, if_pos known]
          · rw [processSubscription_of_unpublished decoded known, if_neg known]

theorem actsAt_dispatch (message : Bytes) :
    ActsAt view remoteId fun node => node.dispatch remoteId message := by
  unfold dispatch
  dsimp only
  by_cases pubAdded : messageType message = MessageType.pubAdded.code
  · simp only [if_pos pubAdded]
    exact actsAt_processPubAdded message
  · by_cases pubRemoved : messageType message = MessageType.pubRemoved.code
    · simp only [if_neg pubAdded, if_pos pubRemoved]
      exact actsAt_processPubRemoved message
    · by_cases subscribe : messageType message = MessageType.subscribe.code
      · simp only [if_neg pubAdded, if_neg pubRemoved, if_pos subscribe]
        exact actsAt_processSubscription message true
      · by_cases unsubscribe : messageType message = MessageType.unsubscribe.code
        · simp only [if_neg pubAdded, if_neg pubRemoved, if_neg subscribe, if_pos unsubscribe]
          exact actsAt_processSubscription message false
        · simp only [if_neg pubAdded, if_neg pubRemoved, if_neg subscribe, if_neg unsubscribe]
          exact .idle

theorem actsAt_receive (message : Bytes) :
    ActsAt view remoteId fun node => node.receive remoteId message := by
  refine .choice (fun {first second} same => ?_) (actsAt_dispatch message) .idle
  rw [accepts_iff, accepts_iff, Table.mem_congr (congrArg RemoteView.stub same)]

end

end ZeroMQNode

/-- The remote node that an event is about. -/
def NodeEvent.subject : NodeEvent -> Option CString
  | .added stub => some stub.uuid
  | .removed stub => some stub.uuid
  | .message remoteId _ => some remoteId
  | .addSubscriber _ => none
  | .removeSubscriber _ => none
  | .addPublisher _ => none
  | .removePublisher _ => none

namespace ZeroMQNode

theorem actsAt_step {event : NodeEvent} {remoteId : CString} (about : event.subject = some remoteId) :
    ActsAt view remoteId fun node => node.step event := by
  cases event with
  | added stub =>
      cases about
      exact actsAt_added stub
  | removed stub =>
      cases about
      exact actsAt_removed stub
  | message sender body =>
      cases about
      exact actsAt_receive body
  | addSubscriber => cases about
  | removeSubscriber => cases about
  | addPublisher => cases about
  | removePublisher => cases about

end ZeroMQNode

/-! ## What others see -/

/-- The addresses that a subscriber is connected to.  It never disconnects. -/
def connectionsAfter (sub : Subscriber) (connections : Keys CString) (effects : List Effect) :
    Keys CString :=
  effects.foldl (fun connections effect =>
    match effect with
    | .subscriberAdded other pub => if other = sub then connections.insert pub.address else connections
    | _ => connections) connections

theorem mem_connectionsAfter {sub : Subscriber} {connections : Keys CString} {effects : List Effect}
    {address : CString} :
    address ∈ connectionsAfter sub connections effects <->
      address ∈ connections ∨ Exists fun pub : PublisherStub =>
        .subscriberAdded sub pub ∈ effects ∧ pub.address = address := by
  induction effects generalizing connections with
  | nil => simp [connectionsAfter]
  | cons effect rest ih =>
      rw [connectionsAfter, List.foldl_cons]
      refine ih.trans ?_
      cases effect with
      | subscriberAdded other pub =>
          by_cases same : other = sub
          · subst same
            simp only [if_true, ExtTreeSet.mem_insert, LawfulEqCmp.compare_eq_iff_eq, List.mem_cons,
              Effect.subscriberAdded.injEq, true_and]
            grind
          · simp [same, Ne.symm same]
      | send => simp
      | close => simp
      | subscriberRemoved => simp
      | addedSubscriber => simp
      | removedSubscriber => simp

/-- The order of the calls makes no difference to a subscriber. -/
theorem connectionsAfter_comm (sub : Subscriber) (connections : Keys CString)
    (first second : List Effect) :
    connectionsAfter sub connections (first ++ second) =
      connectionsAfter sub connections (second ++ first) := by
  apply ExtTreeSet.ext_mem
  intro address
  simp only [mem_connectionsAfter, List.mem_append, or_comm]

namespace ZeroMQNode

/-- An event about one remote node sends nothing to another one. -/
theorem Consistent.messagesTo_step_of_ne {node : ZeroMQNode} (consistent : node.Consistent)
    {event : NodeEvent} {remoteId other : CString} (about : event.subject = some remoteId)
    (different : remoteId ≠ other) : messagesTo other (node.step event).2 = [] := by
  apply List.eq_nil_iff_forall_not_mem.mpr
  intro message member
  have sends := consistent.mem_messagesTo_step.mp member
  cases sends with
  | listing => exact different (Option.some.inj about).symm
  | discovered => exact different (Option.some.inj about).symm
  | announced => exact different (Option.some.inj about).symm
  | subscribed => cases about
  | unsubscribed => cases about
  | published => cases about
  | withdrawn => cases about

/-- Two events about different remote nodes can be exchanged in every state that a node
can reach. -/
theorem remote_events_commute (uuid : CString) (history : List NodeEvent) {first second : NodeEvent}
    {here there : CString} (firstAbout : first.subject = some here)
    (secondAbout : second.subject = some there) (different : here ≠ there) :
    let node := (run step (init uuid) history).1
    (run step node [first, second]).1 = (run step node [second, first]).1 ∧
      (forall remoteId, messagesTo remoteId (run step node [first, second]).2 =
        messagesTo remoteId (run step node [second, first]).2) ∧
      forall sub connections, connectionsAfter sub connections (run step node [first, second]).2 =
        connectionsAfter sub connections (run step node [second, first]).2 := by
  intro node
  have consistent : node.Consistent := (Consistent.init uuid).run history
  have one := actsAt_step firstAbout
  have other := actsAt_step secondAbout
  -- each event emits the same, whether it comes first or second
  have firstSame : ((node.step second).1.step first).2 = (node.step first).2 :=
    (one.unaffected other different node).2
  have secondSame : ((node.step first).1.step second).2 = (node.step second).2 :=
    (other.unaffected one different.symm node).2
  have forward : run step node [first, second] =
      (((node.step first).1.step second).1, (node.step first).2 ++ (node.step second).2) := by
    simp only [run, secondSame, List.append_nil]
  have backward : run step node [second, first] =
      (((node.step second).1.step first).1, (node.step second).2 ++ (node.step first).2) := by
    simp only [run, firstSame, List.append_nil]
  rw [forward, backward]
  refine ⟨one.commute eq_of_view other different node, fun remoteId => ?_,
    fun sub connections => connectionsAfter_comm sub connections _ _⟩
  simp only [messagesTo, List.filterMap_append]
  by_cases same : here = remoteId
  · have silent := consistent.messagesTo_step_of_ne secondAbout (same ▸ different.symm)
    rw [messagesTo] at silent
    rw [silent, List.nil_append, List.append_nil]
  · have silent := consistent.messagesTo_step_of_ne firstAbout same
    rw [messagesTo] at silent
    rw [silent, List.nil_append, List.append_nil]

/-- A discovery and an announcement: both send messages and make connections. -/
theorem remote_events_commute_discovery :
    let channel := CString.ofBytes [99]
    let known := exampleStub 97 (by decide)
    let newcomer := exampleStub 98 (by decide)
    let pub := examplePublisher 99 (by decide) channel
    let sub := exampleSubscriber 100 (by decide) channel
    let history := [NodeEvent.addPublisher pub, .addSubscriber sub, .added known]
    let first := NodeEvent.added newcomer
    let second := NodeEvent.message known.uuid (ControlMessage.pubAdded pub).encode
    let node := (run step (init (repeatedUuid 101 (by decide))) history).1
    messagesTo newcomer.uuid (run step node [first, second]).2 = [.pubAdded pub] ∧
      messagesTo known.uuid (run step node [first, second]).2 = [.subscribe pub sub.uuid] ∧
      (run step node [first, second]).1 = (run step node [second, first]).1 := by
  intro channel known newcomer pub sub history first second node
  exact ⟨by decide +kernel, by decide +kernel,
    (@remote_events_commute _ history first second newcomer.uuid known.uuid rfl rfl
      (by decide +kernel)).1⟩

end ZeroMQNode

end Connection
end Umundo
