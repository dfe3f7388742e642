import Umundo.Connection.NodeTables

namespace Umundo
namespace Connection

open Foundation Std

/-!
# What a node tells another node

The effects of an operation contain the control messages it sends.  For every
operation this module says which messages go to a given node, and which
publishers the tables list for that node afterwards.  Later modules use these
equivalences and never look at the loops that send.
-/

/-- The node is reported as removed. -/
def NodeEvent.Removes (remoteId : CString) : NodeEvent -> Prop
  | .removed stub => stub.uuid = remoteId
  | _ => False

/-- The publisher is taken off a node. -/
def NodeEvent.Unpublishes (pubId : CString) : NodeEvent -> Prop
  | .removePublisher pub => pub.uuid = pubId
  | _ => False

/-- The control message an effect sends to a given node. -/
def Effect.sentTo (remoteId : CString) : Effect -> Option ControlMessage
  | .send (some client) message _ => if client.peer = remoteId then some message else none
  | _ => none

/-- The control messages that are sent to a given node, in order. -/
def messagesTo (remoteId : CString) (effects : List Effect) : List ControlMessage :=
  effects.filterMap (Effect.sentTo remoteId)

theorem mem_messagesTo {remoteId : CString} {effects : List Effect} {message : ControlMessage} :
    message ∈ messagesTo remoteId effects <->
      Exists fun client : Socket => Exists fun sndMore : Bool =>
        client.peer = remoteId ∧ Effect.send (some client) message sndMore ∈ effects := by
  simp only [messagesTo, List.mem_filterMap]
  constructor
  · rintro ⟨effect, member, sent⟩
    cases effect with
    | send socket other sndMore =>
        cases socket with
        | none => cases sent
        | some client =>
            by_cases same : client.peer = remoteId
            · rw [Effect.sentTo, if_pos same] at sent
              cases sent
              exact ⟨client, sndMore, same, member⟩
            · rw [Effect.sentTo, if_neg same] at sent
              cases sent
    | close => cases sent
    | subscriberAdded => cases sent
    | subscriberRemoved => cases sent
    | addedSubscriber => cases sent
    | removedSubscriber => cases sent
  · rintro ⟨client, sndMore, same, member⟩
    exact ⟨_, member, if_pos same⟩

namespace ZeroMQNode

/-! ## Sockets -/

/-- The socket of a known node leads to that node. -/
theorem Consistent.client {node : ZeroMQNode} (consistent : node.Consistent) {remoteId : CString}
    (known : remoteId ∈ node.nodes) :
    Exists fun client : Socket =>
      node.sockets.getD remoteId none = some client ∧ client.peer = remoteId := by
  rcases consistent.socketLookups.nonnull remoteId (Or.inr known) with ⟨client, found⟩
  rcases consistent.socket_peer remoteId _ found with ⟨_, same, peer⟩
  cases same
  refine ⟨client, ?_, peer⟩
  rw [ExtTreeMap.getD_eq_getD_getElem?, found]
  rfl

/-- A socket that is filed under one node leads to no other. -/
theorem Consistent.getD_socket_iff {node : ZeroMQNode} (consistent : node.Consistent)
    {remoteId other : CString} (known : remoteId ∈ node.nodes) :
    (Exists fun client : Socket => node.sockets.getD remoteId none = some client ∧ client.peer = other) <->
      remoteId = other := by
  rcases consistent.client known with ⟨client, found, peer⟩
  constructor
  · rintro ⟨_, stored, same⟩
    rw [found] at stored
    cases stored
    exact peer.symm.trans same
  · intro same
    exact ⟨client, found, peer.trans same⟩

/-! ## Announced publishers -/

theorem Consistent.known_of_getElem?_row {node : ZeroMQNode} (consistent : node.Consistent)
    {remoteId uuid : CString} {pub : PublisherStub}
    (listed : (node.remotePubs.row remoteId)[uuid]? = some pub) : remoteId ∈ node.nodes := by
  apply Classical.byContradiction
  intro unknown
  rw [consistent.row_of_unknown unknown, ExtTreeMap.getElem?_empty] at listed
  cases listed

theorem Consistent.known_of_mem_row {node : ZeroMQNode} (consistent : node.Consistent)
    {remoteId uuid : CString} (listed : uuid ∈ node.remotePubs.row remoteId) :
    remoteId ∈ node.nodes :=
  consistent.remote_known remoteId (Table.mem_of_mem_row listed)

theorem mem_row_park {node : ZeroMQNode} {remoteId other uuid : CString} {pub : PublisherStub} :
    uuid ∈ (node.park remoteId (some pub)).pendingRemotePubs.row other <->
      (remoteId = other ∧ pub.uuid = uuid) ∨ uuid ∈ node.pendingRemotePubs.row other := by
  rw [ExtTreeMap.mem_iff_isSome_getElem?, ExtTreeMap.mem_iff_isSome_getElem?, park,
    Table.getElem?_row_store]
  by_cases same : remoteId = other ∧ pub.uuid = uuid
  · simp only [same, and_self, if_true, Option.isSome_some, true_or]
  · simp only [same, if_false, false_or]

private theorem mem_map_promotedPubs {stub : NodeStub} {pending : Table CString PublisherStub}
    {uuid : CString} (filed : forall (key : CString) (pub : PublisherStub),
      pending[key]? = some pub -> pub.uuid = key) :
    uuid ∈ (promotedPubs stub pending).map (fun pub => pub.uuid) <-> uuid ∈ pending := by
  simp only [List.mem_map, mem_promotedPubs]
  constructor
  · rintro ⟨_, ⟨key, original, found, updated⟩, equal⟩
    subst updated
    have renamed : uuid = key := equal.symm.trans (filed key original found)
    exact Table.mem_of_getElem? (renamed ▸ found)
  · intro member
    have found := ExtTreeMap.getElem?_eq_some_getElem member
    exact ⟨_, ⟨uuid, pending[uuid], found, rfl⟩, filed uuid pending[uuid] found⟩

/-- Promotion turns what is parked into publishers, if the node is known. -/
theorem Consistent.mem_row_promote {node : ZeroMQNode} (consistent : node.Consistent)
    {remoteId other uuid : CString} :
    uuid ∈ (node.promote remoteId).1.remotePubs.row other <->
      (remoteId = other ∧ remoteId ∈ node.nodes ∧ uuid ∈ node.pendingRemotePubs.row remoteId) ∨
        uuid ∈ node.remotePubs.row other := by
  rcases node.promote_cases remoteId with ⟨absent, same⟩ | ⟨stub, pending, known, parked⟩
  · have nothing : ¬ (remoteId ∈ node.nodes ∧ uuid ∈ node.pendingRemotePubs.row remoteId) := by
      rintro ⟨known, parked⟩
      exact absent.elim (fun unknown => unknown known)
        (fun unparked => unparked (Table.mem_of_mem_row parked))
    simp only [same, nothing, and_false, false_or]
  · have present : remoteId ∈ node.nodes :=
      Table.mem_of_getElem? known
    have filed := consistent.pending_uuid remoteId
    rw [Table.row_of_getElem? parked] at filed
    rw [promote_of_known known parked]
    by_cases same : remoteId = other
    · subst other
      simp only [Table.mem_row_storeAll, List.map_map, Function.comp_def,
        mem_map_promotedPubs filed, present, Table.row_of_getElem? parked, true_and]
    · simp only [ExtTreeMap.mem_iff_isSome_getElem?,
        Table.getElem?_row_storeAll_of_ne _ _ _ _ same, same, false_and, false_or]

theorem row_promote_pending {node : ZeroMQNode} {remoteId other : CString} :
    (node.promote remoteId).1.pendingRemotePubs.row other =
      if remoteId = other ∧ remoteId ∈ node.nodes then ∅ else node.pendingRemotePubs.row other := by
  rcases node.promote_cases remoteId with ⟨absent, same⟩ | ⟨stub, pending, known, parked⟩
  · rw [same]
    by_cases both : remoteId = other ∧ remoteId ∈ node.nodes
    · rcases both with ⟨same, known⟩
      subst other
      rw [if_pos ⟨rfl, known⟩]
      exact Table.row_of_not_mem (absent.resolve_left (fun unknown => unknown known))
    · rw [if_neg both]
  · have present : remoteId ∈ node.nodes :=
      Table.mem_of_getElem? known
    simp only [promote_of_known known parked, Table.row_insert, present, and_true]

/-! ## The publishers listed after an event -/

@[simp] theorem added_localSubs (node : ZeroMQNode) (stub : NodeStub) :
    (node.added stub).1.localSubs = node.localSubs := by
  by_cases own : stub.uuid = node.uuid
  · rw [added, if_pos own]
  · rw [added_of_ne own, promote_localSubs]
    rfl

@[simp] theorem added_localPubs (node : ZeroMQNode) (stub : NodeStub) :
    (node.added stub).1.localPubs = node.localPubs := by
  by_cases own : stub.uuid = node.uuid
  · rw [added, if_pos own]
  · rw [added_of_ne own, promote_localPubs]
    rfl

theorem Consistent.mem_row_added {node : ZeroMQNode} (consistent : node.Consistent)
    {stub : NodeStub} {remoteId uuid : CString} :
    uuid ∈ (node.added stub).1.remotePubs.row remoteId <->
      (stub.uuid ≠ node.uuid ∧ stub.uuid = remoteId ∧ uuid ∈ node.pendingRemotePubs.row remoteId) ∨
        uuid ∈ node.remotePubs.row remoteId := by
  by_cases own : stub.uuid = node.uuid
  · simp only [ZeroMQNode.added, own, if_true, ne_eq, not_true_eq_false, false_and, false_or]
  · have known : stub.uuid ∈ (node.connect stub).nodes := ExtTreeMap.mem_insert_self
    rw [added_of_ne own, (consistent.connect own).mem_row_promote]
    simp only [ZeroMQNode.connect, ne_eq, own, not_false_eq_true, true_and]
    constructor
    · rintro (⟨same, _, parked⟩ | listed)
      · exact Or.inl ⟨same, same ▸ parked⟩
      · exact Or.inr listed
    · rintro (⟨same, parked⟩ | listed)
      · exact Or.inl ⟨same, known, same ▸ parked⟩
      · exact Or.inr listed

theorem Consistent.mem_row_removed {node : ZeroMQNode} (consistent : node.Consistent)
    {stub : NodeStub} {remoteId uuid : CString} :
    uuid ∈ (node.removed stub).1.remotePubs.row remoteId <->
      stub.uuid ≠ remoteId ∧ uuid ∈ node.remotePubs.row remoteId := by
  by_cases known : stub.uuid ∈ node.nodes
  · rw [consistent.removed_of_known known]
    simp only [Table.row_erase]
    by_cases same : stub.uuid = remoteId
    · simp only [same, if_true, ExtTreeMap.not_mem_empty, ne_eq, not_true_eq_false, false_and]
    · simp only [same, if_false, ne_eq, not_false_eq_true, true_and]
  · rw [consistent.removed_of_unknown known]
    constructor
    · intro listed
      exact ⟨fun same => known (same ▸ consistent.known_of_mem_row listed), listed⟩
    · exact And.right

/-- Without an announcement, a message adds no publisher. -/
theorem mem_row_of_mem_row_receive {node : ZeroMQNode} {sender remoteId uuid : CString}
    {body : Bytes}
    (silent : forall pub, ¬ (messageType body = MessageType.pubAdded.code ∧ decodePub body = some pub))
    (listed : uuid ∈ (node.receive sender body).1.remotePubs.row remoteId) :
    uuid ∈ node.remotePubs.row remoteId := by
  have spec := node.receive_spec sender body
  generalize node.receive sender body = outcome at spec listed
  cases spec with
  | pubAdded pub type decoded => exact (silent pub ⟨type, decoded⟩).elim
  | pubRemoved pub =>
      rw [ExtTreeMap.mem_iff_isSome_getElem?] at listed ⊢
      rcases Option.isSome_iff_exists.mp listed with ⟨found, stored⟩
      rw [Table.of_getElem?_row_eraseColumn stored]
      rfl
  | _ => exact listed

/-! ## Subscriptions sent out -/

theorem mem_subscribersOn {node : ZeroMQNode} {channelName : CString} {sub : Subscriber} :
    sub ∈ node.subscribersOn channelName <->
      sub ∈ node.localSubs ∧ sub.channelName = channelName := by
  simp only [subscribersOn, List.mem_filter, ExtTreeSet.mem_toList, decide_eq_true_eq]

theorem mem_publishersOn {node : ZeroMQNode} {channelName : CString} {socket : Option Socket}
    {pub : PublisherStub} :
    (socket, pub) ∈ node.publishersOn channelName <->
      Exists fun remoteId : CString => Exists fun uuid : CString =>
        (node.remotePubs.row remoteId)[uuid]? = some pub ∧ pub.channelName = channelName ∧
          node.sockets.getD remoteId none = socket := by
  simp only [publishersOn, List.mem_flatMap, List.mem_map, List.mem_filter, decide_eq_true_eq,
    Prod.exists, Prod.mk.injEq, ExtTreeMap.mem_toList_iff_getElem?_eq_some,
    Table.getElem?_row_eq_some_iff]
  constructor
  · rintro ⟨remoteId, pubs, stored, uuid, found, ⟨listed, channel⟩, socket, same⟩
    subst same
    exact ⟨remoteId, uuid, ⟨pubs, stored, listed⟩, channel, socket⟩
  · rintro ⟨remoteId, uuid, ⟨pubs, stored, listed⟩, channel, socket⟩
    exact ⟨remoteId, pubs, stored, uuid, pub, ⟨listed, channel⟩, socket, rfl⟩

/-- Everything that is sent, event by event.  The sockets are left out: each
message goes to the node it is sent to. -/
inductive Sends (node : ZeroMQNode) : NodeEvent -> CString -> ControlMessage -> Prop
  | listing (stub : NodeStub) (uuid : CString) (pub : PublisherInfo) :
      stub.uuid ≠ node.uuid -> node.localPubs[uuid]? = some pub ->
      Sends node (.added stub) stub.uuid (.pubAdded pub)
  | discovered (stub : NodeStub) (uuid : CString) (pub : PublisherStub) (sub : Subscriber) :
      stub.uuid ≠ node.uuid -> (node.pendingRemotePubs.row stub.uuid)[uuid]? = some pub ->
      sub ∈ node.localSubs -> sub.channelName = pub.channelName ->
      Sends node (.added stub) stub.uuid (.subscribe pub.info sub.uuid)
  | announced (remoteId : CString) (body : Bytes) (info : PublisherInfo) (uuid : CString)
      (pub : PublisherStub) (sub : Subscriber) :
      messageType body = MessageType.pubAdded.code -> decodePub body = some info ->
      remoteId ∈ node.nodes ->
      ((node.park remoteId (some (.ofInfo info))).pendingRemotePubs.row remoteId)[uuid]? = some pub ->
      sub ∈ node.localSubs -> sub.channelName = pub.channelName ->
      Sends node (.message remoteId body) remoteId (.subscribe pub.info sub.uuid)
  | subscribed (sub : Subscriber) (remoteId uuid : CString) (pub : PublisherStub) :
      (node.remotePubs.row remoteId)[uuid]? = some pub -> pub.channelName = sub.channelName ->
      Sends node (.addSubscriber sub) remoteId (.subscribe pub.info sub.uuid)
  | unsubscribed (sub : Subscriber) (remoteId uuid : CString) (pub : PublisherStub) :
      sub ∈ node.localSubs -> (node.remotePubs.row remoteId)[uuid]? = some pub ->
      pub.channelName = sub.channelName ->
      Sends node (.removeSubscriber sub) remoteId (.unsubscribe pub.info sub.uuid)
  | published (pub : PublisherInfo) (remoteId : CString) :
      pub.uuid ∉ node.localPubs -> remoteId ∈ node.nodes ->
      Sends node (.addPublisher pub) remoteId (.pubAdded pub)
  | withdrawn (pub : PublisherInfo) (remoteId : CString) :
      pub.uuid ∈ node.localPubs -> remoteId ∈ node.nodes ->
      Sends node (.removePublisher pub) remoteId (.pubRemoved pub)

theorem send_announce {client : Socket} {hasMore : Int} {pubs : List PublisherInfo}
    {socket : Option Socket} {message : ControlMessage} :
    (Exists fun sndMore : Bool => Effect.send socket message sndMore ∈ announce client hasMore pubs) <->
      socket = some client ∧ Exists fun pub : PublisherInfo => pub ∈ pubs ∧ message = .pubAdded pub := by
  induction pubs generalizing hasMore with
  | nil => simp [announce]
  | cons pub rest ih =>
      simp only [announce, List.mem_cons, exists_or, ih, Effect.send.injEq]
      grind

theorem send_promote {node : ZeroMQNode} {remoteId : CString} {socket : Option Socket}
    {message : ControlMessage} {sndMore : Bool} :
    Effect.send socket message sndMore ∈ (node.promote remoteId).2 <->
      sndMore = false ∧ socket = node.sockets.getD remoteId none ∧ remoteId ∈ node.nodes ∧
        Exists fun uuid : CString => Exists fun pub : PublisherStub => Exists fun sub : Subscriber =>
          (node.pendingRemotePubs.row remoteId)[uuid]? = some pub ∧ sub ∈ node.localSubs ∧
            sub.channelName = pub.channelName ∧ message = .subscribe pub.info sub.uuid := by
  rcases node.promote_cases remoteId with ⟨absent, same⟩ | ⟨stub, pending, known, parked⟩
  · rw [same]
    constructor
    · intro sent
      cases sent
    · rintro ⟨_, _, known, uuid, pub, _, found, _⟩
      have present : uuid ∈ node.pendingRemotePubs.row remoteId :=
        Table.mem_of_getElem? found
      exact absent.elim (fun unknown => (unknown known).elim)
        (fun unparked => (unparked (Table.mem_of_mem_row present)).elim)
  · have present : remoteId ∈ node.nodes :=
      Table.mem_of_getElem? known
    simp only [promote_of_known known parked, linkPublisher, List.mem_flatMap, mem_promotedPubs,
      mem_subscribersOn, List.mem_cons, List.not_mem_nil, or_false, reduceCtorEq, false_or,
      Effect.send.injEq, Table.row_of_getElem? parked, present, true_and]
    constructor
    · rintro ⟨_, ⟨uuid, pub, found, updated⟩, sub, ⟨member, channel⟩, sameSocket, sent, last⟩
      subst updated
      exact ⟨last, sameSocket, uuid, pub, sub, found, member, channel, sent⟩
    · rintro ⟨last, sameSocket, uuid, pub, sub, found, member, channel, sent⟩
      exact ⟨_, ⟨uuid, pub, found, rfl⟩, sub, ⟨member, channel⟩, sameSocket, sent, last⟩

theorem receive_of_pubAdded {node : ZeroMQNode} {remoteId : CString} {message : Bytes}
    {pub : PublisherInfo} (type : messageType message = MessageType.pubAdded.code)
    (decoded : decodePub message = some pub) :
    node.receive remoteId message = node.addRemotePubToLocalSubs remoteId (some (.ofInfo pub)) := by
  simp only [receive, accepts, type, beq_self_eq_true, Bool.true_or, if_true, dispatch,
    processPubAdded, decoded]

/-- Sent while a node is added: the listing of our publishers, then whatever
was parked for it. -/
private theorem send_added_iff {node : ZeroMQNode} {stub : NodeStub} {socket : Option Socket}
    {message : ControlMessage} :
    (Exists fun sndMore : Bool => Effect.send socket message sndMore ∈ (node.added stub).2) <->
      Sends node (.added stub) stub.uuid message ∧ socket = some ⟨stub.uuid, stub.address⟩ := by
  by_cases own : stub.uuid = node.uuid
  · simp only [added, if_pos own, List.not_mem_nil, exists_false, false_iff]
    rintro ⟨sends, _⟩
    cases sends with
    | listing _ _ _ other => exact other own
    | discovered _ _ _ _ other => exact other own
  · have effects : (node.added stub).2 =
        announce ⟨stub.uuid, stub.address⟩ (node.localPubs.size - 1 : Int)
          (node.localPubs.toList.map Prod.snd) ++ ((node.connect stub).promote stub.uuid).2 := by
      simp only [added, if_neg own]
      rfl
    have connected : (node.connect stub).sockets.getD stub.uuid none =
        some ⟨stub.uuid, stub.address⟩ := by
      simp only [connect, ExtTreeMap.getD_insert_self]
    have known : stub.uuid ∈ (node.connect stub).nodes := ExtTreeMap.mem_insert_self
    rw [effects]
    simp only [List.mem_append, exists_or, send_announce, send_promote, connected, known,
      List.mem_map, Prod.exists, ExtTreeMap.mem_toList_iff_getElem?_eq_some, true_and]
    constructor
    · rintro (⟨sameSocket, pub, ⟨uuid, _, found, same⟩, sent⟩ |
        ⟨_, _, sameSocket, uuid, pub, sub, found, member, channel, sent⟩)
      · subst same
        subst sent
        exact ⟨.listing stub uuid _ own found, sameSocket⟩
      · subst sent
        exact ⟨.discovered stub uuid pub sub own found member channel, sameSocket⟩
    · rintro ⟨sends, sameSocket⟩
      cases sends with
      | listing _ uuid pub _ found => exact Or.inl ⟨sameSocket, pub, ⟨uuid, pub, found, rfl⟩, rfl⟩
      | discovered _ uuid pub sub _ found member channel =>
          exact Or.inr ⟨false, rfl, sameSocket, uuid, pub, sub, found, member, channel, rfl⟩

private theorem not_send_dropSubscriptions {node : ZeroMQNode} {remoteId : CString}
    {socket : Option Socket} {message : ControlMessage} {sndMore : Bool} :
    Effect.send socket message sndMore ∉ node.dropSubscriptions remoteId := by
  simp only [dropSubscriptions, List.mem_flatMap, Prod.exists, not_exists, not_and]
  intro uuid subs _
  split <;> simp

private theorem not_send_removeRemotePub {node : ZeroMQNode} {pub : PublisherStub}
    {socket : Option Socket} {message : ControlMessage} {sndMore : Bool} :
    Effect.send socket message sndMore ∉ node.removeRemotePubFromLocalSubs pub := by
  simp [removeRemotePubFromLocalSubs]

/-- Nothing is sent when a node vanishes. -/
private theorem Consistent.not_send_removed {node : ZeroMQNode} (consistent : node.Consistent)
    {stub : NodeStub} {socket : Option Socket} {message : ControlMessage} {sndMore : Bool} :
    Effect.send socket message sndMore ∉ (node.removed stub).2 := by
  by_cases known : stub.uuid ∈ node.nodes
  · rw [consistent.removed_of_known known]
    simp [not_send_dropSubscriptions, not_send_removeRemotePub]
  · rw [consistent.removed_of_unknown known]
    exact List.not_mem_nil

private theorem send_receive_iff {node : ZeroMQNode} {remoteId : CString} {body : Bytes}
    {socket : Option Socket} {message : ControlMessage} :
    (Exists fun sndMore : Bool => Effect.send socket message sndMore ∈ (node.receive remoteId body).2) <->
      Sends node (.message remoteId body) remoteId message ∧
        socket = node.sockets.getD remoteId none := by
  constructor
  · rintro ⟨sndMore, sent⟩
    have spec := node.receive_spec remoteId body
    generalize node.receive remoteId body = outcome at spec sent
    cases spec with
    | ignored => cases sent
    | pubAdded info type decoded =>
        rcases send_promote.mp sent with ⟨_, sameSocket, known, uuid, pub, sub, found, member, channel, equal⟩
        rw [park_sockets] at sameSocket
        rw [park_nodes] at known
        rw [park_localSubs] at member
        subst equal
        exact ⟨.announced remoteId body info uuid pub sub type decoded known found member channel,
          sameSocket⟩
    | pubRemoved => exact (not_send_removeRemotePub sent).elim
    | subscribed => simp at sent
    | unsubscribed => simp at sent
  · rintro ⟨sends, sameSocket⟩
    cases sends with
    | announced _ _ info uuid pub sub type decoded known found member channel =>
        rw [receive_of_pubAdded type decoded]
        refine ⟨false, send_promote.mpr ⟨rfl, ?_, ?_, uuid, pub, sub, found, ?_, channel, rfl⟩⟩
        · rw [park_sockets]
          exact sameSocket
        · rw [park_nodes]
          exact known
        · rw [park_localSubs]
          exact member

private theorem send_addSubscriber_iff {node : ZeroMQNode} {sub : Subscriber}
    {socket : Option Socket} {message : ControlMessage} :
    (Exists fun sndMore : Bool => Effect.send socket message sndMore ∈ (node.addSubscriber sub).2) <->
      Exists fun remoteId : CString => Sends node (.addSubscriber sub) remoteId message ∧
        node.sockets.getD remoteId none = socket := by
  simp only [addSubscriber, List.mem_flatMap, Prod.exists, mem_publishersOn, List.mem_cons,
    List.not_mem_nil, or_false, reduceCtorEq, false_or, Effect.send.injEq]
  constructor
  · rintro ⟨_, _, pub, ⟨remoteId, uuid, found, channel, stored⟩, sameSocket, sent, _⟩
    subst sent
    exact ⟨remoteId, .subscribed sub remoteId uuid pub found channel, stored.trans sameSocket.symm⟩
  · rintro ⟨remoteId, sends, stored⟩
    cases sends with
    | subscribed _ _ uuid pub found channel =>
        exact ⟨false, socket, pub, ⟨remoteId, uuid, found, channel, stored⟩, rfl, rfl, rfl⟩

private theorem send_removeSubscriber_iff {node : ZeroMQNode} {sub : Subscriber}
    {socket : Option Socket} {message : ControlMessage} :
    (Exists fun sndMore : Bool => Effect.send socket message sndMore ∈ (node.removeSubscriber sub).2) <->
      Exists fun remoteId : CString => Sends node (.removeSubscriber sub) remoteId message ∧
        node.sockets.getD remoteId none = socket := by
  by_cases present : sub ∈ node.localSubs
  · simp only [removeSubscriber, present, not_true_eq_false, if_false, List.mem_flatMap,
      Prod.exists, mem_publishersOn, List.mem_cons, List.not_mem_nil, or_false, reduceCtorEq,
      Effect.send.injEq]
    constructor
    · rintro ⟨_, _, pub, ⟨remoteId, uuid, found, channel, stored⟩, sameSocket, sent, _⟩
      subst sent
      exact ⟨remoteId, .unsubscribed sub remoteId uuid pub present found channel,
        stored.trans sameSocket.symm⟩
    · rintro ⟨remoteId, sends, stored⟩
      cases sends with
      | unsubscribed _ _ uuid pub _ found channel =>
          exact ⟨false, socket, pub, ⟨remoteId, uuid, found, channel, stored⟩, rfl, rfl, rfl⟩
  · simp only [removeSubscriber, present, not_false_eq_true, if_true, List.not_mem_nil,
      exists_false, false_iff]
    rintro ⟨remoteId, sends, _⟩
    cases sends with
    | unsubscribed _ _ _ _ member => exact present member

private theorem Consistent.send_broadcast_iff {node : ZeroMQNode} (consistent : node.Consistent)
    {other message : ControlMessage} {socket : Option Socket} :
    (Exists fun sndMore : Bool => Effect.send socket message sndMore ∈ node.broadcast other) <->
      message = other ∧ Exists fun remoteId : CString => remoteId ∈ node.nodes ∧
        node.sockets.getD remoteId none = socket := by
  simp only [broadcast, List.mem_map, Prod.exists, ExtTreeMap.mem_toList_iff_getElem?_eq_some,
    Effect.send.injEq]
  constructor
  · rintro ⟨_, remoteId, stored, found, same, sent, _⟩
    subst same
    refine ⟨sent.symm, remoteId, (consistent.sockets_iff remoteId).mp ?_, ?_⟩
    · exact Table.mem_of_getElem? found
    · rw [ExtTreeMap.getD_eq_getD_getElem?, found]
      rfl
  · rintro ⟨sent, remoteId, known, stored⟩
    rcases consistent.socketLookups.nonnull remoteId (Or.inr known) with ⟨client, found⟩
    rw [ExtTreeMap.getD_eq_getD_getElem?, found] at stored
    exact ⟨false, remoteId, some client, found, stored, sent.symm, rfl⟩

/-- A new publisher is announced to every known node. -/
private theorem Consistent.send_addPublisher_iff {node : ZeroMQNode} (consistent : node.Consistent)
    {pub : PublisherInfo} {socket : Option Socket} {message : ControlMessage} :
    (Exists fun sndMore : Bool => Effect.send socket message sndMore ∈ (node.addPublisher pub).2) <->
      Exists fun remoteId : CString => Sends node (.addPublisher pub) remoteId message ∧
        node.sockets.getD remoteId none = socket := by
  by_cases present : pub.uuid ∈ node.localPubs
  · simp only [addPublisher, present, not_true_eq_false, if_false, List.not_mem_nil, exists_false,
      false_iff]
    rintro ⟨_, sends, _⟩
    cases sends with
    | published _ _ fresh => exact fresh present
  · simp only [addPublisher, present, not_false_eq_true, if_true, consistent.send_broadcast_iff]
    constructor
    · rintro ⟨same, remoteId, known, stored⟩
      subst same
      exact ⟨remoteId, .published pub remoteId present known, stored⟩
    · rintro ⟨remoteId, sends, stored⟩
      cases sends with
      | published _ _ _ known => exact ⟨rfl, remoteId, known, stored⟩

private theorem Consistent.send_removePublisher_iff {node : ZeroMQNode} (consistent : node.Consistent)
    {pub : PublisherInfo} {socket : Option Socket} {message : ControlMessage} :
    (Exists fun sndMore : Bool => Effect.send socket message sndMore ∈ (node.removePublisher pub).2) <->
      Exists fun remoteId : CString => Sends node (.removePublisher pub) remoteId message ∧
        node.sockets.getD remoteId none = socket := by
  by_cases present : pub.uuid ∈ node.localPubs
  · simp only [removePublisher, present, if_true, consistent.send_broadcast_iff]
    constructor
    · rintro ⟨same, remoteId, known, stored⟩
      subst same
      exact ⟨remoteId, .withdrawn pub remoteId present known, stored⟩
    · rintro ⟨remoteId, sends, stored⟩
      cases sends with
      | withdrawn _ _ _ known => exact ⟨rfl, remoteId, known, stored⟩
  · simp only [removePublisher, present, if_false, List.not_mem_nil, exists_false, false_iff]
    rintro ⟨_, sends, _⟩
    cases sends with
    | withdrawn _ _ published => exact present published

private theorem Consistent.receive_sockets {node : ZeroMQNode} (consistent : node.Consistent)
    (remoteId : CString) (message : Bytes) :
    (node.receive remoteId message).1.sockets = node.sockets := by
  have spec := node.receive_spec remoteId message
  generalize node.receive remoteId message = outcome at spec
  cases spec with
  | pubAdded pub => exact consistent.socketLookups.addRemotePub remoteId _
  | _ => rfl

/-- What an event sends, and over which sockets. -/
theorem Consistent.send_iff {node : ZeroMQNode} (consistent : node.Consistent) (event : NodeEvent)
    (socket : Option Socket) (message : ControlMessage) :
    (Exists fun sndMore : Bool => Effect.send socket message sndMore ∈ (node.step event).2) <->
      Exists fun remoteId : CString => Sends node event remoteId message ∧
        (node.step event).1.sockets.getD remoteId none = socket := by
  cases event with
  | added stub =>
      rw [ZeroMQNode.step, send_added_iff]
      by_cases own : stub.uuid = node.uuid
      · constructor
        · rintro ⟨sends, _⟩
          cases sends <;> contradiction
        · rintro ⟨_, sends, _⟩
          cases sends <;> contradiction
      · have connected : (node.added stub).1.sockets.getD stub.uuid none =
            some ⟨stub.uuid, stub.address⟩ := by
          rw [consistent.socketLookups.added stub own, ExtTreeMap.getD_insert_self]
        constructor
        · rintro ⟨sends, sameSocket⟩
          exact ⟨stub.uuid, sends, connected.trans sameSocket.symm⟩
        · rintro ⟨remoteId, sends, sameSocket⟩
          have target : remoteId = stub.uuid := by cases sends <;> rfl
          subst target
          exact ⟨sends, sameSocket.symm.trans connected⟩
  | removed stub =>
      constructor
      · rintro ⟨_, sent⟩
        exact (consistent.not_send_removed sent).elim
      · rintro ⟨_, sends, _⟩
        cases sends
  | message sender body =>
      rw [ZeroMQNode.step, send_receive_iff, consistent.receive_sockets]
      constructor
      · rintro ⟨sends, sameSocket⟩
        exact ⟨sender, sends, sameSocket.symm⟩
      · rintro ⟨remoteId, sends, sameSocket⟩
        have target : remoteId = sender := by cases sends; rfl
        subst target
        exact ⟨sends, sameSocket.symm⟩
  | addSubscriber sub =>
      rw [ZeroMQNode.step, consistent.socketLookups.addSubscriber]
      exact send_addSubscriber_iff
  | removeSubscriber sub =>
      rw [ZeroMQNode.step, consistent.socketLookups.removeSubscriber]
      exact send_removeSubscriber_iff
  | addPublisher pub =>
      have sockets : (node.addPublisher pub).1.sockets = node.sockets := by rw [addPublisher_eq]
      rw [ZeroMQNode.step, sockets]
      exact consistent.send_addPublisher_iff
  | removePublisher pub =>
      have sockets : (node.removePublisher pub).1.sockets = node.sockets := by rw [removePublisher_eq]
      rw [ZeroMQNode.step, sockets]
      exact consistent.send_removePublisher_iff

section Frame

variable (node : ZeroMQNode) (remoteId : CString) (message : Bytes)

@[simp] theorem receive_uuid : (node.receive remoteId message).1.uuid = node.uuid := by
  have spec := node.receive_spec remoteId message
  generalize node.receive remoteId message = outcome at spec
  cases spec with
  | pubAdded pub => exact (promote_uuid _ _).trans (park_uuid _ _ _)
  | _ => rfl

@[simp] theorem receive_nodes : (node.receive remoteId message).1.nodes = node.nodes := by
  have spec := node.receive_spec remoteId message
  generalize node.receive remoteId message = outcome at spec
  cases spec with
  | pubAdded pub => exact (promote_nodes _ _).trans (park_nodes _ _ _)
  | _ => rfl

@[simp] theorem receive_localPubs : (node.receive remoteId message).1.localPubs = node.localPubs := by
  have spec := node.receive_spec remoteId message
  generalize node.receive remoteId message = outcome at spec
  cases spec with
  | pubAdded pub => exact (promote_localPubs _ _).trans (park_localPubs _ _ _)
  | _ => rfl

@[simp] theorem receive_localSubs : (node.receive remoteId message).1.localSubs = node.localSubs := by
  have spec := node.receive_spec remoteId message
  generalize node.receive remoteId message = outcome at spec
  cases spec with
  | pubAdded pub => exact (promote_localSubs _ _).trans (park_localSubs _ _ _)
  | _ => rfl

end Frame

theorem Consistent.step_uuid {node : ZeroMQNode} (consistent : node.Consistent)
    (event : NodeEvent) : (node.step event).1.uuid = node.uuid := by
  cases event with
  | added stub =>
      by_cases own : stub.uuid = node.uuid
      · rw [ZeroMQNode.step, ZeroMQNode.added, if_pos own]
      · rw [ZeroMQNode.step, added_of_ne own, promote_uuid]
        rfl
  | removed stub =>
      by_cases known : stub.uuid ∈ node.nodes
      · rw [ZeroMQNode.step, consistent.removed_of_known known]
      · rw [ZeroMQNode.step, consistent.removed_of_unknown known]
  | message sender body => exact receive_uuid node sender body
  | addSubscriber sub => rfl
  | removeSubscriber sub => rw [ZeroMQNode.step, consistent.removeSubscriber_eq]
  | addPublisher pub => rw [ZeroMQNode.step, addPublisher_eq]
  | removePublisher pub => rw [ZeroMQNode.step, removePublisher_eq]

/-- A node that is not removed stays known. -/
theorem Consistent.mem_nodes_step {node : ZeroMQNode} (consistent : node.Consistent)
    {event : NodeEvent} {remoteId : CString} (present : ¬ event.Removes remoteId)
    (known : remoteId ∈ node.nodes) : remoteId ∈ (node.step event).1.nodes := by
  cases event with
  | added stub =>
      by_cases own : stub.uuid = node.uuid
      · rw [ZeroMQNode.step, ZeroMQNode.added, if_pos own]
        exact known
      · rw [ZeroMQNode.step, added_of_ne own, promote_nodes]
        exact ExtTreeMap.mem_insert.mpr (Or.inr known)
  | removed stub =>
      by_cases listed : stub.uuid ∈ node.nodes
      · rw [ZeroMQNode.step, consistent.removed_of_known listed]
        refine ExtTreeMap.mem_erase.mpr ⟨?_, known⟩
        intro same
        exact present (LawfulEqCmp.eq_of_compare same)
      · rw [ZeroMQNode.step, consistent.removed_of_unknown listed]
        exact known
  | message sender body =>
      rw [ZeroMQNode.step, receive_nodes]
      exact known
  | addSubscriber sub => exact known
  | removeSubscriber sub =>
      rw [ZeroMQNode.step, consistent.removeSubscriber_eq]
      exact known
  | addPublisher pub =>
      rw [ZeroMQNode.step, addPublisher_eq]
      exact known
  | removePublisher pub =>
      rw [ZeroMQNode.step, removePublisher_eq]
      exact known

theorem mem_localPubs_addPublisher {node : ZeroMQNode} {pub : PublisherInfo} {uuid : CString} :
    uuid ∈ (node.addPublisher pub).1.localPubs <-> pub.uuid = uuid ∨ uuid ∈ node.localPubs := by
  simp only [addPublisher_eq, ExtTreeMap.mem_insertIfNew, LawfulEqCmp.compare_eq_iff_eq]

theorem mem_localPubs_removePublisher {node : ZeroMQNode} {pub : PublisherInfo} {uuid : CString} :
    uuid ∈ (node.removePublisher pub).1.localPubs <-> pub.uuid ≠ uuid ∧ uuid ∈ node.localPubs := by
  simp only [removePublisher_eq, ExtTreeMap.mem_erase, ne_eq, LawfulEqCmp.compare_eq_iff_eq]

/-- A publisher that is not removed stays local. -/
theorem Consistent.mem_localPubs_step {node : ZeroMQNode} (consistent : node.Consistent)
    {event : NodeEvent} {pubId : CString} (kept : ¬ event.Unpublishes pubId)
    (published : pubId ∈ node.localPubs) : pubId ∈ (node.step event).1.localPubs := by
  cases event with
  | added stub => rwa [ZeroMQNode.step, added_localPubs]
  | removed stub =>
      by_cases known : stub.uuid ∈ node.nodes
      · rwa [ZeroMQNode.step, consistent.removed_of_known known]
      · rwa [ZeroMQNode.step, consistent.removed_of_unknown known]
  | message remoteId body => rwa [ZeroMQNode.step, receive_localPubs]
  | addSubscriber sub => exact published
  | removeSubscriber sub => rwa [ZeroMQNode.step, consistent.removeSubscriber_eq]
  | addPublisher pub => exact mem_localPubs_addPublisher.mpr (.inr published)
  | removePublisher pub => exact mem_localPubs_removePublisher.mpr ⟨kept, published⟩

/-- A message is only ever sent to a node that is known afterwards. -/
theorem Consistent.known_of_sends {node : ZeroMQNode} (consistent : node.Consistent)
    {event : NodeEvent} {remoteId : CString} {message : ControlMessage}
    (sends : Sends node event remoteId message) : remoteId ∈ (node.step event).1.nodes := by
  cases sends with
  | listing stub _ _ other =>
      rw [ZeroMQNode.step, added_of_ne other, promote_nodes]
      exact ExtTreeMap.mem_insert_self
  | discovered stub _ _ _ other =>
      rw [ZeroMQNode.step, added_of_ne other, promote_nodes]
      exact ExtTreeMap.mem_insert_self
  | announced remoteId body info _ _ _ type decoded known =>
      rw [ZeroMQNode.step, receive_nodes]
      exact known
  | subscribed sub _ _ _ listed =>
      rw [ZeroMQNode.step, consistent.addSubscriber_eq]
      exact consistent.known_of_getElem?_row listed
  | unsubscribed sub _ _ _ _ listed =>
      rw [ZeroMQNode.step, consistent.removeSubscriber_eq]
      exact consistent.known_of_getElem?_row listed
  | published pub _ _ known =>
      rw [ZeroMQNode.step, addPublisher_eq]
      exact known
  | withdrawn pub _ _ known =>
      rw [ZeroMQNode.step, removePublisher_eq]
      exact known

/-- The messages that reach a given node. -/
theorem Consistent.mem_messagesTo_step {node : ZeroMQNode} (consistent : node.Consistent)
    {event : NodeEvent} {remoteId : CString} {message : ControlMessage} :
    message ∈ messagesTo remoteId (node.step event).2 <-> Sends node event remoteId message := by
  rw [mem_messagesTo]
  constructor
  · rintro ⟨client, sndMore, peer, sent⟩
    rcases (consistent.send_iff event _ _).mp ⟨sndMore, sent⟩ with ⟨target, sends, stored⟩
    have known := consistent.known_of_sends sends
    have same := ((consistent.step event).getD_socket_iff known).mp ⟨client, stored, peer⟩
    exact same ▸ sends
  · intro sends
    rcases (consistent.step event).client (consistent.known_of_sends sends) with ⟨client, stored, peer⟩
    rcases (consistent.send_iff event _ _).mpr ⟨remoteId, sends, stored⟩ with ⟨sndMore, sent⟩
    exact ⟨client, sndMore, peer, sent⟩

/-- No message is sent over a null socket. -/
theorem Consistent.client_of_send {node : ZeroMQNode} (consistent : node.Consistent)
    {event : NodeEvent} {socket : Option Socket} {message : ControlMessage} {sndMore : Bool}
    (sent : Effect.send socket message sndMore ∈ (node.step event).2) :
    Exists fun client : Socket => socket = some client ∧ Sends node event client.peer message := by
  rcases (consistent.send_iff event _ _).mp ⟨sndMore, sent⟩ with ⟨remoteId, sends, stored⟩
  rcases (consistent.step event).client (consistent.known_of_sends sends) with ⟨client, found, peer⟩
  exact ⟨client, stored.symm.trans found, peer ▸ sends⟩

/-! ## Receiving what another node has sent -/

theorem receive_pubAdded (node : ZeroMQNode) (remoteId : CString) (pub : PublisherInfo) :
    node.receive remoteId (ControlMessage.pubAdded pub).encode =
      node.addRemotePubToLocalSubs remoteId (some (.ofInfo pub)) :=
  receive_of_pubAdded (messageType_toNetwork _ _) (decodePub_written _ pub)

/-- Anything but an announcement needs a known sender. -/
private theorem receive_of_ne {node : ZeroMQNode} {remoteId : CString} {message : ControlMessage}
    (other : message.type ≠ .pubAdded) :
    node.receive remoteId message.encode =
      if remoteId ∈ node.nodes then node.dispatch remoteId message.encode else (node, []) := by
  have type : messageType message.encode = message.type.code := messageType_toNetwork _ _
  by_cases known : remoteId ∈ node.nodes
  · rw [receive, if_pos (accepts_iff.mpr (Or.inr known)), if_pos known]
  · rw [receive, if_neg known, if_neg]
    intro accepted
    exact (accepts_iff.mp accepted).elim
      (fun same => other (MessageType.eq_of_code (type.symm.trans same))) known

theorem receive_pubRemoved (node : ZeroMQNode) (remoteId : CString) (pub : PublisherInfo) :
    node.receive remoteId (ControlMessage.pubRemoved pub).encode =
      if remoteId ∈ node.nodes then
        match (node.remotePubs.row remoteId)[pub.uuid]? with
        | none => (node, [])
        | some pubStub =>
            ({ node with remotePubs :=
                node.remotePubs.insert remoteId ((node.remotePubs.row remoteId).erase pub.uuid) },
              node.removeRemotePubFromLocalSubs pubStub)
      else (node, []) := by
  have type : messageType (ControlMessage.pubRemoved pub).encode = MessageType.pubRemoved.code :=
    messageType_toNetwork _ _
  have decoded : decodePub (ControlMessage.pubRemoved pub).encode = some pub :=
    decodePub_written _ pub
  have dispatched : node.dispatch remoteId (ControlMessage.pubRemoved pub).encode =
      node.processPubRemoved remoteId (ControlMessage.pubRemoved pub).encode := by
    rw [dispatch, type]
    rfl
  rewrite [receive_of_ne (by simp [ControlMessage.type]), dispatched, processPubRemoved, decoded]
  rfl

theorem receive_subscribe (node : ZeroMQNode) (remoteId : CString) (pub : PublisherInfo)
    (subId : CString) :
    node.receive remoteId (ControlMessage.subscribe pub subId).encode =
      if remoteId ∈ node.nodes ∧ pub.uuid ∈ node.localPubs ∧
          subId ∉ node.subscriptions.cell remoteId pub.uuid then
        ({ node with subscriptions := node.subscriptions.insertCell remoteId pub.uuid subId },
          [.addedSubscriber pub.uuid remoteId subId])
      else (node, []) := by
  have type : messageType (ControlMessage.subscribe pub subId).encode = MessageType.subscribe.code :=
    messageType_toNetwork _ _
  have decoded : decodeSubscription (ControlMessage.subscribe pub subId).encode = some (pub, subId) :=
    decodeSubscription_written _ pub subId
  have dispatched : node.dispatch remoteId (ControlMessage.subscribe pub subId).encode =
      node.processSubscription remoteId (ControlMessage.subscribe pub subId).encode true := by
    rw [dispatch, type]
    rfl
  rw [receive_of_ne (by simp [ControlMessage.type]), dispatched]
  by_cases known : remoteId ∈ node.nodes
  · by_cases published : pub.uuid ∈ node.localPubs
    · rw [if_pos known, processSubscription_subscribe decoded published]
      by_cases recorded : subId ∈ node.subscriptions.cell remoteId pub.uuid
      · rw [if_pos recorded, if_neg (fun all => all.2.2 recorded)]
      · rw [if_neg recorded, if_pos ⟨known, published, recorded⟩]
    · rw [if_pos known, processSubscription_of_unpublished decoded published,
        if_neg (fun all => published all.2.1)]
  · rw [if_neg known, if_neg (fun all => known all.1)]

theorem receive_unsubscribe (node : ZeroMQNode) (remoteId : CString) (pub : PublisherInfo)
    (subId : CString) :
    node.receive remoteId (ControlMessage.unsubscribe pub subId).encode =
      if remoteId ∈ node.nodes ∧ pub.uuid ∈ node.localPubs ∧
          subId ∈ node.subscriptions.cell remoteId pub.uuid then
        ({ node with subscriptions := node.subscriptions.pruneCell remoteId pub.uuid subId },
          [.removedSubscriber pub.uuid remoteId subId])
      else (node, []) := by
  have type : messageType (ControlMessage.unsubscribe pub subId).encode =
      MessageType.unsubscribe.code := messageType_toNetwork _ _
  have decoded : decodeSubscription (ControlMessage.unsubscribe pub subId).encode =
      some (pub, subId) := decodeSubscription_written _ pub subId
  have dispatched : node.dispatch remoteId (ControlMessage.unsubscribe pub subId).encode =
      node.processSubscription remoteId (ControlMessage.unsubscribe pub subId).encode false := by
    rw [dispatch, type]
    rfl
  rw [receive_of_ne (by simp [ControlMessage.type]), dispatched]
  by_cases known : remoteId ∈ node.nodes
  · by_cases published : pub.uuid ∈ node.localPubs
    · rw [if_pos known, processSubscription_unsubscribe decoded published]
      by_cases recorded : subId ∈ node.subscriptions.cell remoteId pub.uuid
      · rw [if_pos recorded, if_pos ⟨known, published, recorded⟩]
      · rw [if_neg recorded, if_neg (fun all => recorded all.2.2)]
    · rw [if_pos known, processSubscription_of_unpublished decoded published,
        if_neg (fun all => published all.2.1)]
  · rw [if_neg known, if_neg (fun all => known all.1)]

theorem mem_cell_receive_subscribe {node : ZeroMQNode} {remoteId other pubId subId : CString}
    {pub : PublisherInfo} {sub : CString} :
    subId ∈ (node.receive remoteId (ControlMessage.subscribe pub sub).encode).1.subscriptions.cell other pubId <->
      (remoteId ∈ node.nodes ∧ pub.uuid ∈ node.localPubs ∧
        remoteId = other ∧ pub.uuid = pubId ∧ sub = subId) ∨ subId ∈ node.subscriptions.cell other pubId := by
  rw [receive_subscribe]
  split
  · rename_i accepted
    rw [Table.mem_cell_insertCell]
    simp only [accepted.1, accepted.2.1, true_and]
  · rename_i refused
    constructor
    · exact Or.inr
    · rintro (⟨known, published, sameNode, samePub, sameSub⟩ | recorded)
      · subst sameNode
        subst samePub
        subst sameSub
        exact Classical.byContradiction (fun fresh => refused ⟨known, published, fresh⟩)
      · exact recorded

theorem mem_cell_receive_unsubscribe {node : ZeroMQNode} {remoteId other pubId subId : CString}
    {pub : PublisherInfo} {sub : CString} :
    subId ∈ (node.receive remoteId (ControlMessage.unsubscribe pub sub).encode).1.subscriptions.cell other pubId <->
      ¬ (remoteId ∈ node.nodes ∧ pub.uuid ∈ node.localPubs ∧
        remoteId = other ∧ pub.uuid = pubId ∧ sub = subId) ∧ subId ∈ node.subscriptions.cell other pubId := by
  rw [receive_unsubscribe]
  split
  · rename_i accepted
    rw [Table.mem_cell_pruneCell]
    simp only [accepted.1, accepted.2.1, true_and]
  · rename_i refused
    constructor
    · intro recorded
      refine ⟨?_, recorded⟩
      rintro ⟨known, published, sameNode, samePub, sameSub⟩
      subst sameNode
      subst samePub
      subst sameSub
      exact refused ⟨known, published, recorded⟩
    · exact And.right

theorem receive_pubAdded_subscriptions (node : ZeroMQNode) (remoteId : CString) (pub : PublisherInfo) :
    (node.receive remoteId (ControlMessage.pubAdded pub).encode).1.subscriptions =
      node.subscriptions := by
  rw [receive_pubAdded]
  exact (promote_subscriptions _ _).trans (park_subscriptions _ _ _)

theorem receive_pubRemoved_subscriptions (node : ZeroMQNode) (remoteId : CString)
    (pub : PublisherInfo) :
    (node.receive remoteId (ControlMessage.pubRemoved pub).encode).1.subscriptions =
      node.subscriptions := by
  rw [receive_pubRemoved]
  split
  · split <;> rfl
  · rfl

end ZeroMQNode
end Connection
end Umundo
