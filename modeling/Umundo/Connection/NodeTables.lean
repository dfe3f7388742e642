import Umundo.Connection.Node

namespace Umundo
namespace Connection

open Foundation Std

/-!
# Consistency of a node's tables

The node checks itself with `validateState`, but that check skips every
remote node for which announcements were ever parked.  The invariant proved
here has no such gap.  It says more than the check in three further places:
parked stubs are filed under their own uuid, a socket is never null and
belongs to the node it is filed under, and no row of subscriptions is empty.

`Consistent` is preserved by every event in every order.  The endpoint data
of remote publishers needs one promise of the environment in addition: a node
is reported as added only while it is unknown, which is what a node query
does.
-/

namespace ZeroMQNode

/-! ## What parking and promoting leave alone -/

section Frame

variable (node : ZeroMQNode) (remoteId : CString) (pub : Option PublisherStub)

@[simp] theorem park_uuid : (node.park remoteId pub).uuid = node.uuid := by cases pub <;> rfl

@[simp] theorem park_nodes : (node.park remoteId pub).nodes = node.nodes := by cases pub <;> rfl

@[simp] theorem park_sockets : (node.park remoteId pub).sockets = node.sockets := by
  cases pub <;> rfl

@[simp] theorem park_remotePubs : (node.park remoteId pub).remotePubs = node.remotePubs := by
  cases pub <;> rfl

@[simp] theorem park_subscriptions :
    (node.park remoteId pub).subscriptions = node.subscriptions := by cases pub <;> rfl

@[simp] theorem park_localPubs : (node.park remoteId pub).localPubs = node.localPubs := by
  cases pub <;> rfl

@[simp] theorem park_localSubs : (node.park remoteId pub).localSubs = node.localSubs := by
  cases pub <;> rfl

@[simp] theorem promote_uuid : (node.promote remoteId).1.uuid = node.uuid := by
  unfold promote
  split <;> rfl

@[simp] theorem promote_nodes : (node.promote remoteId).1.nodes = node.nodes := by
  unfold promote
  split <;> rfl

@[simp] theorem promote_subscriptions :
    (node.promote remoteId).1.subscriptions = node.subscriptions := by
  unfold promote
  split <;> rfl

@[simp] theorem promote_localPubs : (node.promote remoteId).1.localPubs = node.localPubs := by
  unfold promote
  split <;> rfl

@[simp] theorem promote_localSubs : (node.promote remoteId).1.localSubs = node.localSubs := by
  unfold promote
  split <;> rfl

end Frame

/-! ## Promotion, case by case -/

theorem promote_of_unknown {node : ZeroMQNode} {remoteId : CString}
    (unknown : remoteId ∉ node.nodes) : node.promote remoteId = (node, []) := by
  have absent := ExtTreeMap.getElem?_eq_none unknown
  simp only [promote, absent]

theorem promote_of_unparked {node : ZeroMQNode} {remoteId : CString}
    (unparked : remoteId ∉ node.pendingRemotePubs) : node.promote remoteId = (node, []) := by
  have absent := ExtTreeMap.getElem?_eq_none unparked
  unfold promote
  rw [absent]
  split
  · rename_i impossible
    cases impossible
  · rfl

/-- The stubs that promotion files, with the endpoint data of their node. -/
def promotedPubs (stub : NodeStub) (pending : Table CString PublisherStub) : List PublisherStub :=
  pending.toList.map (fun entry => entry.2.setEndPoint stub)

theorem promote_of_known {node : ZeroMQNode} {remoteId : CString} {stub : NodeStub}
    {pending : Table CString PublisherStub} (known : node.nodes[remoteId]? = some stub)
    (parked : node.pendingRemotePubs[remoteId]? = some pending) :
    node.promote remoteId =
      ({ node with
          sockets := node.sockets.insertIfNew remoteId none
          remotePubs := node.remotePubs.storeAll remoteId
            ((promotedPubs stub pending).map (fun pub => (pub.uuid, pub)))
          pendingRemotePubs := node.pendingRemotePubs.insert remoteId ∅ },
        (promotedPubs stub pending).flatMap
          (fun pub => node.linkPublisher (node.sockets.getD remoteId none) pub)) := by
  simp only [promote, known, parked]
  rfl

/-- Every promotion is one of these two. -/
theorem promote_cases (node : ZeroMQNode) (remoteId : CString) :
    ((remoteId ∉ node.nodes ∨ remoteId ∉ node.pendingRemotePubs) ∧
        node.promote remoteId = (node, [])) ∨
      Exists fun stub : NodeStub => Exists fun pending : Table CString PublisherStub =>
        node.nodes[remoteId]? = some stub ∧ node.pendingRemotePubs[remoteId]? = some pending := by
  by_cases known : remoteId ∈ node.nodes
  · by_cases parked : remoteId ∈ node.pendingRemotePubs
    · exact Or.inr ⟨_, _, ExtTreeMap.getElem?_eq_some_getElem known,
        ExtTreeMap.getElem?_eq_some_getElem parked⟩
    · exact Or.inl ⟨Or.inr parked, promote_of_unparked parked⟩
  · exact Or.inl ⟨Or.inl known, promote_of_unknown known⟩

theorem mem_promotedPubs {stub : NodeStub} {pending : Table CString PublisherStub}
    {pub : PublisherStub} :
    pub ∈ promotedPubs stub pending <->
      Exists fun uuid : CString => Exists fun parked : PublisherStub =>
        pending[uuid]? = some parked ∧ parked.setEndPoint stub = pub := by
  simp only [promotedPubs, List.mem_map, Prod.exists, ExtTreeMap.mem_toList_iff_getElem?_eq_some]

/-- A publisher listed after a promotion was listed before or was parked. -/
theorem of_getElem?_row_promote {node : ZeroMQNode} {remoteId other uuid : CString}
    {pub : PublisherStub}
    (stored : ((node.promote remoteId).1.remotePubs.row other)[uuid]? = some pub) :
    (node.remotePubs.row other)[uuid]? = some pub ∨
      (remoteId = other ∧ pub.uuid = uuid ∧ Exists fun stub : NodeStub =>
        Exists fun key : CString => Exists fun parked : PublisherStub =>
          node.nodes[remoteId]? = some stub ∧ (node.pendingRemotePubs.row remoteId)[key]? = some parked ∧
            parked.setEndPoint stub = pub) := by
  rcases node.promote_cases remoteId with ⟨_, same⟩ | ⟨stub, pending, known, parked⟩
  · rw [same] at stored
    exact Or.inl stored
  · rw [promote_of_known known parked] at stored
    by_cases same : remoteId = other
    · subst other
      rcases Table.of_getElem?_row_storeAll _ _ _ _ _ stored with listed | old
      · rcases List.mem_map.mp listed with ⟨promoted, member, equal⟩
        cases equal
        rcases mem_promotedPubs.mp member with ⟨key, original, found, updated⟩
        rw [← Table.row_of_getElem? parked] at found
        exact Or.inr ⟨rfl, rfl, stub, key, original, known, found, updated⟩
      · exact Or.inl old
    · rw [Table.getElem?_row_storeAll_of_ne _ _ _ _ same] at stored
      exact Or.inl stored

/-- Promotion parks nothing. -/
theorem of_getElem?_row_promote_pending {node : ZeroMQNode} {remoteId other uuid : CString}
    {pub : PublisherStub}
    (stored : ((node.promote remoteId).1.pendingRemotePubs.row other)[uuid]? = some pub) :
    (node.pendingRemotePubs.row other)[uuid]? = some pub := by
  rcases node.promote_cases remoteId with ⟨_, same⟩ | ⟨stub, pending, known, parked⟩
  · rw [same] at stored
    exact stored
  · rw [promote_of_known known parked] at stored
    exact (Table.of_getElem?_row_clear stored).2

/-- A publisher parked after parking was parked before or is the new one. -/
theorem of_getElem?_row_park {node : ZeroMQNode} {remoteId other uuid : CString}
    {pub found : PublisherStub}
    (stored : ((node.park remoteId (some pub)).pendingRemotePubs.row other)[uuid]? = some found) :
    (pub.uuid = uuid ∧ pub = found) ∨ (node.pendingRemotePubs.row other)[uuid]? = some found := by
  simp only [park, Table.getElem?_row_store] at stored
  by_cases same : remoteId = other ∧ pub.uuid = uuid
  · rw [if_pos same] at stored
    exact Or.inl ⟨same.2, Option.some.inj stored⟩
  · rw [if_neg same] at stored
    exact Or.inr stored

/-! ## The invariant -/

/-- What holds of the tables after any sequence of events. -/
structure Consistent (node : ZeroMQNode) : Prop where
  sockets_iff : forall remoteId, remoteId ∈ node.sockets <-> remoteId ∈ node.nodes
  socket_peer : forall (remoteId : CString) (socket : Option Socket),
    node.sockets[remoteId]? = some socket ->
      Exists fun client : Socket => socket = some client ∧ client.peer = remoteId
  remote_known : forall remoteId, remoteId ∈ node.remotePubs -> remoteId ∈ node.nodes
  remote_uuid : forall (remoteId uuid : CString) (pub : PublisherStub),
    (node.remotePubs.row remoteId)[uuid]? = some pub -> pub.uuid = uuid
  pending_uuid : forall (remoteId uuid : CString) (pub : PublisherStub),
    (node.pendingRemotePubs.row remoteId)[uuid]? = some pub -> pub.uuid = uuid
  subscriptions_known : forall remoteId, remoteId ∈ node.subscriptions -> remoteId ∈ node.nodes
  subscriptions_pruned : node.subscriptions.Pruned
  local_uuid : forall (uuid : CString) (pub : PublisherInfo),
    node.localPubs[uuid]? = some pub -> pub.uuid = uuid
  unaware : node.uuid ∉ node.nodes
  named : forall remoteId, remoteId ∈ node.nodes -> remoteId.length = 36

/-- Remote publishers carry the endpoint data of their node. -/
def EndPointsMatch (node : ZeroMQNode) : Prop :=
  forall (remoteId uuid : CString) (pub : PublisherStub) (stub : NodeStub),
    (node.remotePubs.row remoteId)[uuid]? = some pub -> node.nodes[remoteId]? = some stub ->
      pub.host = stub.host ∧ pub.domain = stub.domain ∧ pub.transport = stub.transport ∧
        pub.ip = stub.ip

theorem Consistent.init (uuid : CString) : Consistent (init uuid) where
  sockets_iff remoteId := by simp [ZeroMQNode.init]
  socket_peer remoteId socket found := by simp [ZeroMQNode.init] at found
  remote_known remoteId present := by simp [ZeroMQNode.init] at present
  remote_uuid remoteId uuid pub found := by simp [ZeroMQNode.init, Table.row] at found
  pending_uuid remoteId uuid pub found := by simp [ZeroMQNode.init, Table.row] at found
  subscriptions_known remoteId present := by simp [ZeroMQNode.init] at present
  subscriptions_pruned := Table.Pruned.empty
  local_uuid uuid pub found := by simp [ZeroMQNode.init] at found
  unaware := by simp [ZeroMQNode.init]
  named remoteId present := by simp [ZeroMQNode.init] at present

theorem EndPointsMatch.init (uuid : CString) : EndPointsMatch (init uuid) := by
  intro remoteId uuid pub stub found
  simp [ZeroMQNode.init, Table.row] at found

/-! ## Preservation: announcements -/

theorem Consistent.park {node : ZeroMQNode} (consistent : node.Consistent) (remoteId : CString)
    (pub : Option PublisherStub) : Consistent (node.park remoteId pub) := by
  cases pub with
  | none => exact consistent
  | some pub =>
      refine { consistent with pending_uuid := ?_ }
      intro other uuid found stored
      rcases of_getElem?_row_park stored with ⟨filed, same⟩ | old
      · exact same ▸ filed
      · exact consistent.pending_uuid other uuid found old

/-- Promotion looks a socket up that is there. -/
theorem Consistent.promote_sockets {node : ZeroMQNode} (consistent : node.Consistent)
    (remoteId : CString) : (node.promote remoteId).1.sockets = node.sockets := by
  rcases node.promote_cases remoteId with ⟨_, same⟩ | ⟨stub, pending, known, parked⟩
  · rw [same]
  · rw [promote_of_known known parked]
    apply Table.insertIfNew_of_mem
    exact (consistent.sockets_iff remoteId).mpr (Table.mem_of_getElem? known)

theorem Consistent.promote_remote_known {node : ZeroMQNode} (consistent : node.Consistent)
    {remoteId other : CString} (member : other ∈ (node.promote remoteId).1.remotePubs) :
    other ∈ node.nodes := by
  rcases node.promote_cases remoteId with ⟨_, same⟩ | ⟨stub, pending, known, parked⟩
  · rw [same] at member
    exact consistent.remote_known other member
  · rw [promote_of_known known parked] at member
    rcases (Table.mem_storeAll _ _ _ _).mp member with ⟨same, _⟩ | old
    · exact same ▸ Table.mem_of_getElem? known
    · exact consistent.remote_known other old

theorem Consistent.promote {node : ZeroMQNode} (consistent : node.Consistent) (remoteId : CString) :
    Consistent (node.promote remoteId).1 where
  sockets_iff := by
    rw [consistent.promote_sockets, promote_nodes]
    exact consistent.sockets_iff
  socket_peer := by
    rw [consistent.promote_sockets]
    exact consistent.socket_peer
  remote_known other member := by
    rw [promote_nodes]
    exact consistent.promote_remote_known member
  remote_uuid other uuid pub stored := by
    rcases of_getElem?_row_promote stored with old | ⟨_, filed, _⟩
    · exact consistent.remote_uuid other uuid pub old
    · exact filed
  pending_uuid other uuid pub stored :=
    consistent.pending_uuid other uuid pub (of_getElem?_row_promote_pending stored)
  subscriptions_known := by
    rw [promote_subscriptions, promote_nodes]
    exact consistent.subscriptions_known
  subscriptions_pruned := by
    rw [promote_subscriptions]
    exact consistent.subscriptions_pruned
  local_uuid := by
    rw [promote_localPubs]
    exact consistent.local_uuid
  unaware := by
    rw [promote_nodes, promote_uuid]
    exact consistent.unaware
  named := by
    rw [promote_nodes]
    exact consistent.named

theorem Consistent.addRemotePubToLocalSubs {node : ZeroMQNode} (consistent : node.Consistent)
    (remoteId : CString) (pub : Option PublisherStub) :
    Consistent (node.addRemotePubToLocalSubs remoteId pub).1 :=
  (consistent.park remoteId pub).promote remoteId

theorem EndPointsMatch.promote {node : ZeroMQNode} (matching : node.EndPointsMatch)
    (remoteId : CString) : EndPointsMatch (node.promote remoteId).1 := by
  intro other uuid pub found stored present
  rw [promote_nodes] at present
  rcases of_getElem?_row_promote stored with old | ⟨same, _, stub, _, original, known, _, updated⟩
  · exact matching other uuid pub found old present
  · subst same
    have same : stub = found := Option.some.inj (known.symm.trans present)
    subst updated
    subst same
    exact ⟨rfl, rfl, rfl, rfl⟩

theorem EndPointsMatch.addRemotePubToLocalSubs {node : ZeroMQNode} (matching : node.EndPointsMatch)
    (remoteId : CString) (pub : Option PublisherStub) :
    EndPointsMatch (node.addRemotePubToLocalSubs remoteId pub).1 := by
  apply EndPointsMatch.promote
  intro other uuid found stub stored present
  rw [park_remotePubs] at stored
  rw [park_nodes] at present
  exact matching other uuid found stub stored present

/-! ## Preservation: discovery -/

/-- The node after the connection to a newly discovered node was made. -/
def connect (node : ZeroMQNode) (stub : NodeStub) : ZeroMQNode :=
  { node with
    nodes := node.nodes.insert stub.uuid stub
    sockets := node.sockets.insert stub.uuid (some ⟨stub.uuid, stub.address⟩) }

theorem added_of_ne {node : ZeroMQNode} {stub : NodeStub} (other : stub.uuid ≠ node.uuid) :
    (node.added stub).1 = ((node.connect stub).promote stub.uuid).1 := by
  simp only [added, if_neg other]
  rfl

theorem Consistent.connect {node : ZeroMQNode} (consistent : node.Consistent) {stub : NodeStub}
    (different : stub.uuid ≠ node.uuid) : Consistent (node.connect stub) where
  sockets_iff remoteId := by
    simp only [ZeroMQNode.connect, ExtTreeMap.mem_insert, consistent.sockets_iff]
  socket_peer remoteId socket found := by
    simp only [ZeroMQNode.connect, ExtTreeMap.getElem?_insert,
      LawfulEqCmp.compare_eq_iff_eq] at found
    by_cases same : stub.uuid = remoteId
    · rw [if_pos same] at found
      cases found
      exact ⟨_, rfl, same⟩
    · rw [if_neg same] at found
      exact consistent.socket_peer remoteId socket found
  remote_known remoteId present :=
    ExtTreeMap.mem_insert.mpr (Or.inr (consistent.remote_known remoteId present))
  remote_uuid := consistent.remote_uuid
  pending_uuid := consistent.pending_uuid
  subscriptions_known remoteId present :=
    ExtTreeMap.mem_insert.mpr (Or.inr (consistent.subscriptions_known remoteId present))
  subscriptions_pruned := consistent.subscriptions_pruned
  local_uuid := consistent.local_uuid
  unaware := by
    intro member
    rcases ExtTreeMap.mem_insert.mp member with same | old
    · exact different (LawfulEqCmp.eq_of_compare same)
    · exact consistent.unaware old
  named remoteId present := by
    rcases ExtTreeMap.mem_insert.mp present with same | old
    · exact LawfulEqCmp.eq_of_compare same ▸ stub.uuid_length
    · exact consistent.named remoteId old

theorem Consistent.added {node : ZeroMQNode} (consistent : node.Consistent) (stub : NodeStub) :
    Consistent (node.added stub).1 := by
  by_cases own : stub.uuid = node.uuid
  · rw [ZeroMQNode.added, if_pos own]
    exact consistent
  · rw [added_of_ne own]
    exact (consistent.connect own).promote stub.uuid

theorem Consistent.row_of_unknown {node : ZeroMQNode} (consistent : node.Consistent)
    {remoteId : CString} (unknown : remoteId ∉ node.nodes) : node.remotePubs.row remoteId = ∅ :=
  Table.row_of_not_mem (fun present => unknown (consistent.remote_known remoteId present))

/-- A node that is unknown has no publishers yet, so none of them can carry
the data of a former stub. -/
theorem EndPointsMatch.added {node : ZeroMQNode} (consistent : node.Consistent)
    (matching : node.EndPointsMatch) {stub : NodeStub} (unknown : stub.uuid ∉ node.nodes) :
    EndPointsMatch (node.added stub).1 := by
  by_cases own : stub.uuid = node.uuid
  · rw [ZeroMQNode.added, if_pos own]
    exact matching
  · rw [added_of_ne own]
    apply EndPointsMatch.promote
    intro other uuid pub found stored present
    simp only [ZeroMQNode.connect, ExtTreeMap.getElem?_insert,
      LawfulEqCmp.compare_eq_iff_eq] at stored present
    by_cases same : stub.uuid = other
    · subst other
      rw [consistent.row_of_unknown unknown, ExtTreeMap.getElem?_empty] at stored
      cases stored
    · rw [if_neg same] at present
      exact matching other uuid pub found stored present

theorem Consistent.dropSubscriptions_of_unknown {node : ZeroMQNode} (consistent : node.Consistent)
    {remoteId : CString} (unknown : remoteId ∉ node.nodes) :
    node.dropSubscriptions remoteId = [] := by
  have absent : node.subscriptions.row remoteId = ∅ :=
    Table.row_of_not_mem (fun present => unknown (consistent.subscriptions_known remoteId present))
  simp only [dropSubscriptions, absent, ExtTreeMap.toList_eq_nil_iff.mpr, List.flatMap_nil]

/-- The removal of a node that was never added changes nothing. -/
theorem Consistent.removed_of_unknown {node : ZeroMQNode} (consistent : node.Consistent)
    {stub : NodeStub} (unknown : stub.uuid ∉ node.nodes) : node.removed stub = (node, []) := by
  have socketless : stub.uuid ∉ node.sockets :=
    fun present => unknown ((consistent.sockets_iff stub.uuid).mp present)
  by_cases own : stub.uuid = node.uuid
  · rw [ZeroMQNode.removed, if_pos own]
  · simp only [ZeroMQNode.removed, own, if_false, unknown, socketless, not_false_eq_true, if_true,
      consistent.dropSubscriptions_of_unknown unknown, List.append_nil]

/-- The removal of a known node erases it from every table that mentions it. -/
theorem Consistent.removed_of_known {node : ZeroMQNode} (consistent : node.Consistent)
    {stub : NodeStub} (known : stub.uuid ∈ node.nodes) :
    node.removed stub =
      ({ node with
          sockets := node.sockets.erase stub.uuid
          remotePubs := node.remotePubs.erase stub.uuid
          subscriptions := node.subscriptions.erase stub.uuid
          nodes := node.nodes.erase stub.uuid
          pendingRemotePubs := node.pendingRemotePubs.erase stub.uuid },
        ((node.remotePubs.row stub.uuid).toList.flatMap fun entry =>
            node.removeRemotePubFromLocalSubs entry.2) ++
          node.dropSubscriptions stub.uuid ++ [.close (node.sockets.getD stub.uuid none)]) := by
  have connected : stub.uuid ∈ node.sockets := (consistent.sockets_iff stub.uuid).mpr known
  have other : stub.uuid ≠ node.uuid := fun own => consistent.unaware (own ▸ known)
  simp only [ZeroMQNode.removed, other, if_false, known, if_true, connected, not_true_eq_false,
    Table.erase_insertIfNew]

theorem Consistent.removed {node : ZeroMQNode} (consistent : node.Consistent) (stub : NodeStub) :
    Consistent (node.removed stub).1 := by
  by_cases known : stub.uuid ∈ node.nodes
  · rw [consistent.removed_of_known known]
    refine ⟨?_, ?_, ?_, ?_, ?_, ?_, ?_, consistent.local_uuid, ?_, ?_⟩
    · intro remoteId
      simp only [ExtTreeMap.mem_erase, consistent.sockets_iff]
    · intro remoteId socket found
      rw [Table.getElem?_erase_eq] at found
      split at found
      · cases found
      · exact consistent.socket_peer remoteId socket found
    · intro remoteId present
      have parts := ExtTreeMap.mem_erase.mp present
      exact ExtTreeMap.mem_erase.mpr ⟨parts.1, consistent.remote_known remoteId parts.2⟩
    · intro remoteId uuid pub stored
      exact consistent.remote_uuid remoteId uuid pub (Table.of_getElem?_row_erase stored).2
    · intro remoteId uuid pub stored
      exact consistent.pending_uuid remoteId uuid pub (Table.of_getElem?_row_erase stored).2
    · intro remoteId present
      have parts := ExtTreeMap.mem_erase.mp present
      exact ExtTreeMap.mem_erase.mpr ⟨parts.1, consistent.subscriptions_known remoteId parts.2⟩
    · exact consistent.subscriptions_pruned.erase stub.uuid
    · exact fun member => consistent.unaware (ExtTreeMap.mem_of_mem_erase member)
    · exact fun remoteId member => consistent.named remoteId (ExtTreeMap.mem_of_mem_erase member)
  · rw [consistent.removed_of_unknown known]
    exact consistent

theorem EndPointsMatch.removed {node : ZeroMQNode} (consistent : node.Consistent)
    (matching : node.EndPointsMatch) (stub : NodeStub) : EndPointsMatch (node.removed stub).1 := by
  by_cases known : stub.uuid ∈ node.nodes
  · rw [consistent.removed_of_known known]
    intro remoteId uuid pub found stored present
    rcases Table.of_getElem?_row_erase stored with ⟨different, old⟩
    rw [Table.getElem?_erase_eq, if_neg different.symm] at present
    exact matching remoteId uuid pub found old present
  · rw [consistent.removed_of_unknown known]
    exact matching

/-! ## Preservation: control messages -/

/-- Everything one received message can do.  A subscription that is already
recorded, like any message that is refused, has no effect at all. -/
inductive Received (node : ZeroMQNode) (remoteId : CString) (message : Bytes) :
    ZeroMQNode × List Effect -> Prop
  | ignored : Received node remoteId message (node, [])
  | pubAdded (pub : PublisherInfo) :
      messageType message = MessageType.pubAdded.code -> decodePub message = some pub ->
      Received node remoteId message (node.addRemotePubToLocalSubs remoteId (some (.ofInfo pub)))
  | pubRemoved (pub : PublisherInfo) (pubStub : PublisherStub) :
      remoteId ∈ node.nodes -> messageType message = MessageType.pubRemoved.code ->
      decodePub message = some pub -> (node.remotePubs.row remoteId)[pub.uuid]? = some pubStub ->
      Received node remoteId message
        ({ node with remotePubs :=
            node.remotePubs.insert remoteId ((node.remotePubs.row remoteId).erase pub.uuid) },
          node.removeRemotePubFromLocalSubs pubStub)
  | subscribed (pub : PublisherInfo) (subId : CString) :
      remoteId ∈ node.nodes -> messageType message = MessageType.subscribe.code ->
      decodeSubscription message = some (pub, subId) -> pub.uuid ∈ node.localPubs ->
      subId ∉ node.subscriptions.cell remoteId pub.uuid ->
      Received node remoteId message
        ({ node with subscriptions := node.subscriptions.insertCell remoteId pub.uuid subId },
          [.addedSubscriber pub.uuid remoteId subId])
  | unsubscribed (pub : PublisherInfo) (subId : CString) :
      remoteId ∈ node.nodes -> messageType message = MessageType.unsubscribe.code ->
      decodeSubscription message = some (pub, subId) -> pub.uuid ∈ node.localPubs ->
      subId ∈ node.subscriptions.cell remoteId pub.uuid ->
      Received node remoteId message
        ({ node with subscriptions := node.subscriptions.pruneCell remoteId pub.uuid subId },
          [.removedSubscriber pub.uuid remoteId subId])

/-- The subscripts in the test for a known subscription leave no trace: the
levels they create are filled at once, or were there before. -/
theorem processSubscription_subscribe {node : ZeroMQNode} {remoteId : CString} {message : Bytes}
    {pub : PublisherInfo} {subId : CString}
    (decoded : decodeSubscription message = some (pub, subId))
    (published : pub.uuid ∈ node.localPubs) :
    node.processSubscription remoteId message true =
      if subId ∈ node.subscriptions.cell remoteId pub.uuid then (node, [])
      else
        ({ node with subscriptions := node.subscriptions.insertCell remoteId pub.uuid subId },
          [.addedSubscriber pub.uuid remoteId subId]) := by
  simp only [processSubscription, decoded, published, not_true_eq_false, if_false, if_true,
    Table.cell_touchCell, Table.insertCell_touchCell]
  by_cases recorded : subId ∈ node.subscriptions.cell remoteId pub.uuid
  · simp only [recorded, not_true_eq_false, if_false, if_true, Table.touchCell_of_mem recorded]
  · simp only [recorded, not_false_eq_true, if_true, if_false]

theorem processSubscription_unsubscribe {node : ZeroMQNode} {remoteId : CString} {message : Bytes}
    {pub : PublisherInfo} {subId : CString}
    (decoded : decodeSubscription message = some (pub, subId))
    (published : pub.uuid ∈ node.localPubs) :
    node.processSubscription remoteId message false =
      if subId ∈ node.subscriptions.cell remoteId pub.uuid then
        ({ node with subscriptions := node.subscriptions.pruneCell remoteId pub.uuid subId },
          [.removedSubscriber pub.uuid remoteId subId])
      else (node, []) := by
  simp only [processSubscription, decoded, published, not_true_eq_false, if_false,
    Bool.false_eq_true]

theorem processSubscription_of_unpublished {node : ZeroMQNode} {remoteId : CString}
    {message : Bytes} {pub : PublisherInfo} {subId : CString} {subscribe : Bool}
    (decoded : decodeSubscription message = some (pub, subId))
    (unpublished : pub.uuid ∉ node.localPubs) :
    node.processSubscription remoteId message subscribe = (node, []) := by
  simp only [processSubscription, decoded, unpublished, not_false_eq_true, if_true]

theorem processSubscription_of_malformed {node : ZeroMQNode} {remoteId : CString}
    {message : Bytes} {subscribe : Bool} (malformed : decodeSubscription message = none) :
    node.processSubscription remoteId message subscribe = (node, []) := by
  simp only [processSubscription, malformed]

private theorem received_processPubRemoved {node : ZeroMQNode} {remoteId : CString}
    {message : Bytes} (known : remoteId ∈ node.nodes)
    (type : messageType message = MessageType.pubRemoved.code) :
    Received node remoteId message (node.processPubRemoved remoteId message) := by
  unfold processPubRemoved
  cases decoded : decodePub message with
  | none => exact .ignored
  | some pub =>
      dsimp only
      cases found : (node.remotePubs.row remoteId)[pub.uuid]? with
      | none => exact .ignored
      | some pubStub => exact .pubRemoved pub pubStub known type decoded found

private theorem received_subscribe {node : ZeroMQNode} {remoteId : CString} {message : Bytes}
    (known : remoteId ∈ node.nodes) (type : messageType message = MessageType.subscribe.code) :
    Received node remoteId message (node.processSubscription remoteId message true) := by
  cases decoded : decodeSubscription message with
  | none =>
      rw [processSubscription_of_malformed decoded]
      exact .ignored
  | some found =>
      by_cases published : found.1.uuid ∈ node.localPubs
      · rw [processSubscription_subscribe decoded published]
        by_cases recorded : found.2 ∈ node.subscriptions.cell remoteId found.1.uuid
        · rw [if_pos recorded]
          exact .ignored
        · rw [if_neg recorded]
          exact .subscribed found.1 found.2 known type decoded published recorded
      · rw [processSubscription_of_unpublished decoded published]
        exact .ignored

private theorem received_unsubscribe {node : ZeroMQNode} {remoteId : CString} {message : Bytes}
    (known : remoteId ∈ node.nodes) (type : messageType message = MessageType.unsubscribe.code) :
    Received node remoteId message (node.processSubscription remoteId message false) := by
  cases decoded : decodeSubscription message with
  | none =>
      rw [processSubscription_of_malformed decoded]
      exact .ignored
  | some found =>
      by_cases published : found.1.uuid ∈ node.localPubs
      · rw [processSubscription_unsubscribe decoded published]
        by_cases recorded : found.2 ∈ node.subscriptions.cell remoteId found.1.uuid
        · rw [if_pos recorded]
          exact .unsubscribed found.1 found.2 known type decoded published recorded
        · rw [if_neg recorded]
          exact .ignored
      · rw [processSubscription_of_unpublished decoded published]
        exact .ignored

theorem accepts_iff {node : ZeroMQNode} {remoteId : CString} {type : UInt16} :
    accepts node.nodes.contains remoteId type = true <->
      type = MessageType.pubAdded.code ∨ remoteId ∈ node.nodes := by
  simp only [accepts, Bool.or_eq_true, beq_iff_eq, ExtTreeMap.contains_iff_mem]

theorem receive_spec (node : ZeroMQNode) (remoteId : CString) (message : Bytes) :
    Received node remoteId message (node.receive remoteId message) := by
  unfold receive
  by_cases accepted : accepts node.nodes.contains remoteId (messageType message) = true
  · rw [if_pos accepted]
    unfold dispatch
    dsimp only
    by_cases pubAdded : messageType message = MessageType.pubAdded.code
    · rw [if_pos pubAdded, processPubAdded]
      cases decoded : decodePub message with
      | none => exact .ignored
      | some pub => exact .pubAdded pub pubAdded decoded
    · have known := (accepts_iff.mp accepted).resolve_left pubAdded
      rw [if_neg pubAdded]
      by_cases pubRemoved : messageType message = MessageType.pubRemoved.code
      · rw [if_pos pubRemoved]
        exact received_processPubRemoved known pubRemoved
      · rw [if_neg pubRemoved]
        by_cases subscribe : messageType message = MessageType.subscribe.code
        · rw [if_pos subscribe]
          exact received_subscribe known subscribe
        · rw [if_neg subscribe]
          by_cases unsubscribe : messageType message = MessageType.unsubscribe.code
          · rw [if_pos unsubscribe]
            exact received_unsubscribe known unsubscribe
          · rw [if_neg unsubscribe]
            exact .ignored
  · rw [if_neg accepted]
    exact .ignored

theorem Consistent.receive {node : ZeroMQNode} (consistent : node.Consistent) (remoteId : CString)
    (message : Bytes) : Consistent (node.receive remoteId message).1 := by
  have spec := node.receive_spec remoteId message
  generalize node.receive remoteId message = outcome at spec
  cases spec with
  | ignored => exact consistent
  | pubAdded pub _ _ => exact consistent.addRemotePubToLocalSubs remoteId _
  | pubRemoved pub pubStub known _ _ found =>
      refine { consistent with remote_known := ?_, remote_uuid := ?_ }
      · intro other member
        rcases ExtTreeMap.mem_insert.mp member with same | old
        · exact LawfulEqCmp.eq_of_compare same ▸ known
        · exact consistent.remote_known other old
      · intro other uuid stub stored
        exact consistent.remote_uuid other uuid stub (Table.of_getElem?_row_eraseColumn stored)
  | subscribed pub subId known _ _ _ _ =>
      refine { consistent with subscriptions_known := ?_, subscriptions_pruned := ?_ }
      · intro other member
        rcases (Table.mem_insertCell _ _ _ _ _).mp member with same | old
        · exact same ▸ known
        · exact consistent.subscriptions_known other old
      · exact consistent.subscriptions_pruned.insertCell remoteId pub.uuid subId
  | unsubscribed pub subId known _ _ _ recorded =>
      have present := Table.mem_of_mem_row (Table.mem_row_of_mem_cell recorded)
      refine { consistent with subscriptions_known := ?_, subscriptions_pruned := ?_ }
      · intro other member
        exact consistent.subscriptions_known other (Table.mem_of_mem_pruneCell present member)
      · exact consistent.subscriptions_pruned.pruneCell remoteId pub.uuid subId

theorem EndPointsMatch.receive {node : ZeroMQNode} (matching : node.EndPointsMatch)
    (remoteId : CString) (message : Bytes) : EndPointsMatch (node.receive remoteId message).1 := by
  have spec := node.receive_spec remoteId message
  generalize node.receive remoteId message = outcome at spec
  cases spec with
  | ignored => exact matching
  | pubAdded pub _ _ => exact matching.addRemotePubToLocalSubs remoteId _
  | pubRemoved pub pubStub known _ _ found =>
      intro other uuid stub nodeStub stored present
      exact matching other uuid stub nodeStub (Table.of_getElem?_row_eraseColumn stored) present
  | subscribed pub subId known _ _ _ _ => exact matching
  | unsubscribed pub subId known _ _ _ _ => exact matching

/-! ## Preservation: own publishers and subscribers -/

/-- A loop of socket lookups for nodes that all have a socket. -/
private theorem foldl_insertIfNew_of_mem (sockets : Table CString (Option Socket))
    (remoteIds : List CString) (connected : forall remoteId, remoteId ∈ remoteIds -> remoteId ∈ sockets) :
    remoteIds.foldl (fun table remoteId => table.insertIfNew remoteId none) sockets = sockets := by
  induction remoteIds with
  | nil => rfl
  | cons remoteId rest ih =>
      rw [List.foldl_cons, Table.insertIfNew_of_mem _ _ _ (connected remoteId List.mem_cons_self)]
      exact ih (fun other member => connected other (List.mem_cons_of_mem _ member))

/-- The socket lookups of the subscriber operations insert nothing. -/
theorem Consistent.touchSockets {node : ZeroMQNode} (consistent : node.Consistent) :
    node.touchSockets = node.sockets := by
  apply foldl_insertIfNew_of_mem
  intro remoteId listed
  have present := ExtTreeMap.mem_keys.mp listed
  exact (consistent.sockets_iff remoteId).mpr (consistent.remote_known remoteId present)

theorem Consistent.addSubscriber_eq {node : ZeroMQNode} (consistent : node.Consistent)
    (sub : Subscriber) :
    (node.addSubscriber sub).1 = { node with localSubs := node.localSubs.insert sub } := by
  simp only [addSubscriber, consistent.touchSockets]

theorem Consistent.removeSubscriber_eq {node : ZeroMQNode} (consistent : node.Consistent)
    (sub : Subscriber) :
    (node.removeSubscriber sub).1 = { node with localSubs := node.localSubs.erase sub } := by
  by_cases present : sub ∈ node.localSubs
  · simp only [removeSubscriber, present, not_true_eq_false, if_false, consistent.touchSockets]
  · have unchanged : node.localSubs.erase sub = node.localSubs := by
      apply ExtTreeSet.ext_mem
      intro other
      simp only [ExtTreeSet.mem_erase, ne_eq, LawfulEqCmp.compare_eq_iff_eq]
      constructor
      · exact And.right
      · intro member
        exact ⟨fun same => present (same ▸ member), member⟩
    simp only [removeSubscriber, present, not_false_eq_true, if_true, unchanged]

theorem addPublisher_eq (node : ZeroMQNode) (pub : PublisherInfo) :
    (node.addPublisher pub).1 = { node with localPubs := node.localPubs.insertIfNew pub.uuid pub } := by
  by_cases present : pub.uuid ∈ node.localPubs
  · simp only [addPublisher, present, not_true_eq_false, if_false,
      Table.insertIfNew_of_mem _ _ _ present]
  · have inserted : node.localPubs.insert pub.uuid pub = node.localPubs.insertIfNew pub.uuid pub := by
      apply ExtTreeMap.ext_getElem?
      intro other
      rw [ExtTreeMap.getElem?_insert, ExtTreeMap.getElem?_insertIfNew]
      by_cases same : compare pub.uuid other = .eq
      · rw [if_pos same, if_pos ⟨same, present⟩]
      · rw [if_neg same, if_neg (fun both => same both.1)]
    simp only [addPublisher, present, not_false_eq_true, if_true, inserted]

theorem removePublisher_eq (node : ZeroMQNode) (pub : PublisherInfo) :
    (node.removePublisher pub).1 = { node with localPubs := node.localPubs.erase pub.uuid } := by
  by_cases present : pub.uuid ∈ node.localPubs
  · simp only [removePublisher, present, if_true]
  · have unchanged : node.localPubs.erase pub.uuid = node.localPubs := by
      apply ExtTreeMap.ext_getElem?
      intro other
      rw [Table.getElem?_erase_eq]
      split
      next same => rw [same, ExtTreeMap.getElem?_eq_none present]
      next => rfl
    simp only [removePublisher, present, if_false, unchanged]

/-! ## Every run keeps the tables consistent -/

theorem Consistent.step {node : ZeroMQNode} (consistent : node.Consistent) (event : NodeEvent) :
    Consistent (node.step event).1 := by
  cases event with
  | added stub => exact consistent.added stub
  | removed stub => exact consistent.removed stub
  | message remoteId body => exact consistent.receive remoteId body
  | addSubscriber sub =>
      rw [ZeroMQNode.step, consistent.addSubscriber_eq]
      exact { consistent with }
  | removeSubscriber sub =>
      rw [ZeroMQNode.step, consistent.removeSubscriber_eq]
      exact { consistent with }
  | addPublisher pub =>
      rw [ZeroMQNode.step, addPublisher_eq]
      refine { consistent with local_uuid := ?_ }
      intro uuid found stored
      simp only [ExtTreeMap.getElem?_insertIfNew, LawfulEqCmp.compare_eq_iff_eq] at stored
      split at stored
      · rename_i fresh
        cases stored
        exact fresh.1
      · exact consistent.local_uuid uuid found stored
  | removePublisher pub =>
      rw [ZeroMQNode.step, removePublisher_eq]
      refine { consistent with local_uuid := ?_ }
      intro uuid found stored
      rw [Table.getElem?_erase_eq] at stored
      split at stored
      · cases stored
      · exact consistent.local_uuid uuid found stored

/-- The environment reports a node as added only while it is unknown, and
removes only publishers it has added. -/
def Admissible (node : ZeroMQNode) : NodeEvent -> Prop
  | .added stub => stub.uuid ∉ node.nodes
  | .removePublisher pub => pub.uuid ∈ node.localPubs
  | _ => True

instance (node : ZeroMQNode) : (event : NodeEvent) -> Decidable (node.Admissible event)
  | .added stub => inferInstanceAs (Decidable (stub.uuid ∉ node.nodes))
  | .removePublisher pub => inferInstanceAs (Decidable (pub.uuid ∈ node.localPubs))
  | .removed _ | .message _ _ | .addSubscriber _ | .removeSubscriber _ | .addPublisher _ =>
      inferInstanceAs (Decidable True)

theorem EndPointsMatch.step {node : ZeroMQNode} (consistent : node.Consistent)
    (matching : node.EndPointsMatch) (event : NodeEvent) (admissible : node.Admissible event) :
    EndPointsMatch (node.step event).1 := by
  cases event with
  | added stub => exact matching.added consistent admissible
  | removed stub => exact matching.removed consistent stub
  | message remoteId body => exact matching.receive remoteId body
  | addSubscriber sub => exact matching
  | removeSubscriber sub =>
      rw [ZeroMQNode.step, consistent.removeSubscriber_eq]
      exact matching
  | addPublisher pub =>
      rw [ZeroMQNode.step, addPublisher_eq]
      exact matching
  | removePublisher pub =>
      rw [ZeroMQNode.step, removePublisher_eq]
      exact matching

/-- Whatever happens, the tables stay consistent. -/
theorem Consistent.run {node : ZeroMQNode} (consistent : node.Consistent) (events : List NodeEvent) :
    Consistent (Foundation.run ZeroMQNode.step node events).1 :=
  invariant_of_run Consistent (fun _ event valid _ => valid.step event) consistent
    (admits_true ZeroMQNode.step node events)

theorem consistent_of_run {uuid : CString} {events : List NodeEvent}
    (admissible : Admits step Admissible (init uuid) events) :
    Consistent (run step (init uuid) events).1 ∧ EndPointsMatch (run step (init uuid) events).1 := by
  apply invariant_of_run (fun node => Consistent node ∧ EndPointsMatch node) _
    ⟨Consistent.init uuid, EndPointsMatch.init uuid⟩ admissible
  intro node event valid allowed
  exact ⟨valid.1.step event, valid.2.step valid.1 event allowed⟩

/-! ## The tables a run can reach -/

/-- The lookups of a node's socket neither store an entry nor meet a null
socket.  The lookup made while a node is added is one of them. -/
structure SocketLookups (node : ZeroMQNode) : Prop where
  added : forall stub : NodeStub, stub.uuid ≠ node.uuid ->
    (node.added stub).1.sockets = node.sockets.insert stub.uuid (some ⟨stub.uuid, stub.address⟩)
  addSubscriber : forall sub, (node.addSubscriber sub).1.sockets = node.sockets
  removeSubscriber : forall sub, (node.removeSubscriber sub).1.sockets = node.sockets
  addRemotePub : forall remoteId pub,
    (node.addRemotePubToLocalSubs remoteId pub).1.sockets = node.sockets
  nonnull : forall remoteId, remoteId ∈ node.remotePubs ∨ remoteId ∈ node.nodes ->
    Exists fun client : Socket => node.sockets[remoteId]? = some (some client)

theorem Consistent.socketLookups {node : ZeroMQNode} (consistent : node.Consistent) :
    SocketLookups node where
  added stub different := by
    rw [added_of_ne different, (consistent.connect different).promote_sockets]
    rfl
  addSubscriber sub := by rw [consistent.addSubscriber_eq]
  removeSubscriber sub := by rw [consistent.removeSubscriber_eq]
  addRemotePub remoteId pub := by
    rw [ZeroMQNode.addRemotePubToLocalSubs, (consistent.park remoteId pub).promote_sockets, park_sockets]
  nonnull remoteId present := by
    have known : remoteId ∈ node.nodes := by
      rcases present with remote | known
      · exact consistent.remote_known remoteId remote
      · exact known
    have connected := ExtTreeMap.isSome_getElem?_iff_mem.mpr ((consistent.sockets_iff remoteId).mpr known)
    rcases Option.isSome_iff_exists.mp connected with ⟨socket, found⟩
    rcases consistent.socket_peer remoteId socket found with ⟨client, equal, _⟩
    exact ⟨client, equal ▸ found⟩

/-- The properties of the tables that hold in every reachable state. -/
structure TableInvariant (node : ZeroMQNode) : Prop where
  nodes_sockets : forall remoteId, remoteId ∈ node.nodes <-> remoteId ∈ node.sockets
  remotePubs_nodes : forall remoteId, remoteId ∈ node.remotePubs -> remoteId ∈ node.nodes
  remotePubs_stub : forall (remoteId uuid : CString) (pubs : Table CString PublisherStub)
    (pub : PublisherStub), node.remotePubs[remoteId]? = some pubs -> pubs[uuid]? = some pub ->
    pub.uuid = uuid ∧ Exists fun stub : NodeStub => node.nodes[remoteId]? = some stub ∧
      pub.host = stub.host ∧ pub.domain = stub.domain ∧ pub.transport = stub.transport ∧
        pub.ip = stub.ip
  subscriptions_nodes : forall remoteId, remoteId ∈ node.subscriptions -> remoteId ∈ node.nodes
  subscriptions_rows : forall (remoteId : CString) (pubs : Table CString (Keys CString)),
    node.subscriptions[remoteId]? = some pubs -> pubs ≠ ∅
  subscriptions_cells : forall (remoteId uuid : CString) (pubs : Table CString (Keys CString))
    (subs : Keys CString), node.subscriptions[remoteId]? = some pubs -> pubs[uuid]? = some subs ->
    subs ≠ ∅

/-- Any admissible sequence of events, from empty tables, reaches a state
with consistent tables, in which no socket lookup inserts. -/
theorem tables_of_run (uuid : CString) (events : List NodeEvent)
    (admissible : Admits step Admissible (init uuid) events) :
    TableInvariant (run step (init uuid) events).1 ∧
      SocketLookups (run step (init uuid) events).1 := by
  rcases consistent_of_run admissible with ⟨consistent, matching⟩
  refine ⟨⟨?_, consistent.remote_known, ?_, consistent.subscriptions_known,
    consistent.subscriptions_pruned.rows, ?_⟩, consistent.socketLookups⟩
  · intro remoteId
    exact (consistent.sockets_iff remoteId).symm
  · intro remoteId uuid pubs pub stored found
    have row := Table.row_of_getElem? stored
    have known := consistent.remote_known remoteId
      (Table.mem_of_getElem? stored)
    rcases Table.getElem?_of_mem known with ⟨stub, present⟩
    rw [← row] at found
    exact ⟨consistent.remote_uuid remoteId uuid pub found, stub, present,
      matching remoteId uuid pub stub found present⟩
  · intro remoteId uuid pubs subs
    exact consistent.subscriptions_pruned.cells remoteId pubs uuid subs

/-- A node announces a publisher before it is discovered; it is discovered,
subscribed to and removed again. -/
theorem tables_of_run_discovery :
    let remote := exampleStub 98 (by decide)
    let pub := examplePublisher 99 (by decide) ⟨[102], by decide⟩
    let events : List NodeEvent :=
      [.message remote.uuid (ControlMessage.pubAdded pub).encode, .added remote,
        .addSubscriber (exampleSubscriber 100 (by decide) ⟨[102], by decide⟩), .removed remote]
    Admits step Admissible (init (repeatedUuid 97 (by decide))) events ∧
      TableInvariant (run step (init (repeatedUuid 97 (by decide))) events).1 := by
  refine ⟨by decide +kernel, (tables_of_run _ _ ?_).1⟩
  decide +kernel

end ZeroMQNode
end Connection
end Umundo
