import Umundo.Connection.NodeMessages
import Umundo.Foundation.Replica

namespace Umundo
namespace Connection

open Foundation Std

/-!
# Channel matching

A node subscribes its local subscribers to remote publishers from four
places: when a node is discovered, when a publisher is announced, when a
subscriber is added and when one is removed.  Each place covers a part of the
pairs of publishers and subscribers.  The result of this module is that
together they cover exactly the pairs on the same channel, in any order of
events.

Publishers and subscribers are referred to by their uuid in messages.  The
results need that the channel name of an object with a given uuid is fixed.
-/

namespace ZeroMQNode

/-! ## Fixed channel names -/

section Channels

variable (pubChannel subChannel : CString -> CString)

/-- An event that keeps to the channel names of publishers and subscribers. -/
def KeepsChannels : NodeEvent -> Prop
  | .message _ body => messageType body = MessageType.pubAdded.code ->
      match decodePub body with
      | some pub => pub.channelName = pubChannel pub.uuid
      | none => True
  | .addSubscriber sub => sub.channelName = subChannel sub.uuid
  | .addPublisher pub => pub.channelName = pubChannel pub.uuid
  | _ => True

instance : (event : NodeEvent) -> Decidable (KeepsChannels pubChannel subChannel event)
  | .message _ body =>
      have : Decidable (match decodePub body with
          | some pub => pub.channelName = pubChannel pub.uuid
          | none => True) := by split <;> infer_instance
      inferInstanceAs (Decidable (messageType body = MessageType.pubAdded.code -> _))
  | .addSubscriber sub => inferInstanceAs (Decidable (sub.channelName = subChannel sub.uuid))
  | .addPublisher pub => inferInstanceAs (Decidable (pub.channelName = pubChannel pub.uuid))
  | .added _ | .removed _ | .removeSubscriber _ | .removePublisher _ =>
      inferInstanceAs (Decidable True)

/-- All channel names in the tables are the fixed ones. -/
structure FixedChannels (node : ZeroMQNode) : Prop where
  remote : forall (remoteId uuid : CString) (pub : PublisherStub),
    (node.remotePubs.row remoteId)[uuid]? = some pub -> pub.channelName = pubChannel uuid
  pending : forall (remoteId uuid : CString) (pub : PublisherStub),
    (node.pendingRemotePubs.row remoteId)[uuid]? = some pub -> pub.channelName = pubChannel uuid
  subs : forall sub, sub ∈ node.localSubs -> sub.channelName = subChannel sub.uuid
  pubs : forall (uuid : CString) (pub : PublisherInfo), node.localPubs[uuid]? = some pub ->
    pub.channelName = pubChannel uuid

end Channels

section

variable {pubChannel subChannel : CString -> CString}

theorem FixedChannels.init (uuid : CString) : FixedChannels pubChannel subChannel (init uuid) where
  remote remoteId uuid pub found := by simp [ZeroMQNode.init, Table.row] at found
  pending remoteId uuid pub found := by simp [ZeroMQNode.init, Table.row] at found
  subs sub member := by simp [ZeroMQNode.init] at member
  pubs uuid pub found := by simp [ZeroMQNode.init] at found

theorem FixedChannels.park {node : ZeroMQNode} (fixed : FixedChannels pubChannel subChannel node)
    (remoteId : CString) {pub : PublisherStub} (channel : pub.channelName = pubChannel pub.uuid) :
    FixedChannels pubChannel subChannel (node.park remoteId (some pub)) := by
  refine { fixed with pending := ?_ }
  intro other uuid found stored
  rcases of_getElem?_row_park stored with ⟨filed, same⟩ | old
  · exact same ▸ filed ▸ channel
  · exact fixed.pending other uuid found old

theorem FixedChannels.promote {node : ZeroMQNode} (consistent : node.Consistent)
    (fixed : FixedChannels pubChannel subChannel node) (remoteId : CString) :
    FixedChannels pubChannel subChannel (node.promote remoteId).1 where
  remote other uuid pub stored := by
    rcases of_getElem?_row_promote stored with old | ⟨_, filed, stub, key, parked, _, found, updated⟩
    · exact fixed.remote other uuid pub old
    · subst updated
      have renamed : key = uuid := (consistent.pending_uuid remoteId key parked found).symm.trans filed
      exact renamed ▸ fixed.pending remoteId key parked found
  pending other uuid pub stored :=
    fixed.pending other uuid pub (of_getElem?_row_promote_pending stored)
  subs := by
    rw [promote_localSubs]
    exact fixed.subs
  pubs := by
    rw [promote_localPubs]
    exact fixed.pubs

theorem FixedChannels.removed {node : ZeroMQNode} (consistent : node.Consistent)
    (fixed : FixedChannels pubChannel subChannel node) (stub : NodeStub) :
    FixedChannels pubChannel subChannel (node.removed stub).1 := by
  by_cases known : stub.uuid ∈ node.nodes
  · rw [consistent.removed_of_known known]
    refine { fixed with remote := ?_, pending := ?_ }
    · intro remoteId uuid pub stored
      exact fixed.remote remoteId uuid pub (Table.of_getElem?_row_erase stored).2
    · intro remoteId uuid pub stored
      exact fixed.pending remoteId uuid pub (Table.of_getElem?_row_erase stored).2
  · rw [consistent.removed_of_unknown known]
    exact fixed

theorem FixedChannels.receive {node : ZeroMQNode} (consistent : node.Consistent)
    (fixed : FixedChannels pubChannel subChannel node) {remoteId : CString} {body : Bytes}
    (keeps : KeepsChannels pubChannel subChannel (.message remoteId body)) :
    FixedChannels pubChannel subChannel (node.receive remoteId body).1 := by
  have spec := node.receive_spec remoteId body
  generalize node.receive remoteId body = outcome at spec
  cases spec with
  | ignored => exact fixed
  | pubAdded pub type decoded =>
      have channel : pub.channelName = pubChannel pub.uuid := by
        have kept := keeps type
        rw [decoded] at kept
        exact kept
      exact (fixed.park remoteId channel).promote (consistent.park remoteId _) remoteId
  | pubRemoved pub =>
      refine { fixed with remote := ?_ }
      intro other uuid found stored
      exact fixed.remote other uuid found (Table.of_getElem?_row_eraseColumn stored)
  | subscribed => exact { fixed with }
  | unsubscribed => exact { fixed with }

theorem FixedChannels.step {node : ZeroMQNode} (consistent : node.Consistent)
    (fixed : FixedChannels pubChannel subChannel node) {event : NodeEvent}
    (keeps : KeepsChannels pubChannel subChannel event) :
    FixedChannels pubChannel subChannel (node.step event).1 := by
  cases event with
  | added stub =>
      by_cases own : stub.uuid = node.uuid
      · rw [ZeroMQNode.step, ZeroMQNode.added, if_pos own]
        exact fixed
      · rw [ZeroMQNode.step, added_of_ne own]
        exact FixedChannels.promote (consistent.connect own) { fixed with } stub.uuid
  | removed stub => exact fixed.removed consistent stub
  | message remoteId body => exact fixed.receive consistent keeps
  | addSubscriber sub =>
      rw [ZeroMQNode.step, consistent.addSubscriber_eq]
      refine { fixed with subs := ?_ }
      intro other member
      rcases ExtTreeSet.mem_insert.mp member with same | old
      · exact LawfulEqCmp.eq_of_compare same ▸ keeps
      · exact fixed.subs other old
  | removeSubscriber sub =>
      rw [ZeroMQNode.step, consistent.removeSubscriber_eq]
      exact { fixed with subs := fun other member => fixed.subs other (ExtTreeSet.mem_of_mem_erase member) }
  | addPublisher pub =>
      rw [ZeroMQNode.step, addPublisher_eq]
      refine { fixed with pubs := ?_ }
      intro uuid found stored
      simp only [ExtTreeMap.getElem?_insertIfNew, LawfulEqCmp.compare_eq_iff_eq] at stored
      split at stored
      · rename_i fresh
        cases stored
        exact fresh.1 ▸ keeps
      · exact fixed.pubs uuid found stored
  | removePublisher pub =>
      rw [ZeroMQNode.step, removePublisher_eq]
      refine { fixed with pubs := ?_ }
      intro uuid found stored
      rw [Table.getElem?_erase_eq] at stored
      split at stored
      · cases stored
      · exact fixed.pubs uuid found stored

/-! ## Subscriptions in messages -/

/-- A local subscriber with a given uuid listens on a channel. -/
def Interested (node : ZeroMQNode) (channelName subId : CString) : Prop :=
  Exists fun sub : Subscriber =>
    sub ∈ node.localSubs ∧ sub.uuid = subId ∧ sub.channelName = channelName

/-- A listed publisher and a local subscriber have the same channel name. -/
def Matches (node : ZeroMQNode) (remoteId : CString) (pair : CString × CString) : Prop :=
  Exists fun pub : PublisherStub =>
    (node.remotePubs.row remoteId)[pair.1]? = some pub ∧ node.Interested pub.channelName pair.2

theorem FixedChannels.matches_iff {node : ZeroMQNode}
    (fixed : FixedChannels pubChannel subChannel node) {remoteId pubId subId : CString} :
    node.Matches remoteId (pubId, subId) <->
      pubId ∈ node.remotePubs.row remoteId ∧ node.Interested (pubChannel pubId) subId := by
  constructor
  · rintro ⟨pub, found, interested⟩
    refine ⟨Table.mem_of_getElem? found, ?_⟩
    exact fixed.remote remoteId pubId pub found ▸ interested
  · rintro ⟨listed, interested⟩
    have found := ExtTreeMap.getElem?_eq_some_getElem listed
    exact ⟨_, found, (fixed.remote remoteId pubId _ found).symm ▸ interested⟩

theorem interested_congr {node other : ZeroMQNode} (same : other.localSubs = node.localSubs)
    {channelName subId : CString} :
    other.Interested channelName subId <-> node.Interested channelName subId := by
  rw [Interested, same, Interested]

theorem Consistent.interested_addSubscriber {node : ZeroMQNode} (consistent : node.Consistent)
    {sub : Subscriber} {channelName subId : CString} :
    (node.addSubscriber sub).1.Interested channelName subId <->
      (sub.uuid = subId ∧ sub.channelName = channelName) ∨ node.Interested channelName subId := by
  simp only [consistent.addSubscriber_eq, Interested, ExtTreeSet.mem_insert,
    LawfulEqCmp.compare_eq_iff_eq]
  constructor
  · rintro ⟨other, same | member, matching⟩
    · subst same
      exact Or.inl matching
    · exact Or.inr ⟨other, member, matching⟩
  · rintro (matching | ⟨other, member, matching⟩)
    · exact ⟨sub, Or.inl rfl, matching⟩
    · exact ⟨other, Or.inr member, matching⟩

/-- Local subscribers with the same uuid are the same. -/
theorem FixedChannels.eq_of_uuid {node : ZeroMQNode}
    (fixed : FixedChannels pubChannel subChannel node) {first second : Subscriber}
    (firstMember : first ∈ node.localSubs) (secondMember : second ∈ node.localSubs)
    (same : first.uuid = second.uuid) : first = second := by
  have channel : first.channelName = second.channelName := by
    rw [fixed.subs first firstMember, fixed.subs second secondMember, same]
  rcases first with ⟨firstUuid, firstChannel, _⟩
  rcases second with ⟨secondUuid, secondChannel, _⟩
  cases same
  cases channel
  rfl

theorem FixedChannels.interested_removeSubscriber {node : ZeroMQNode}
    (consistent : node.Consistent) (fixed : FixedChannels pubChannel subChannel node)
    {sub : Subscriber} {channelName subId : CString} :
    (node.removeSubscriber sub).1.Interested channelName subId <->
      ¬ (sub ∈ node.localSubs ∧ sub.uuid = subId ∧ sub.channelName = channelName) ∧
        node.Interested channelName subId := by
  simp only [consistent.removeSubscriber_eq, Interested, ExtTreeSet.mem_erase, ne_eq,
    LawfulEqCmp.compare_eq_iff_eq]
  constructor
  · rintro ⟨other, ⟨different, member⟩, uuid, channel⟩
    refine ⟨?_, other, member, uuid, channel⟩
    rintro ⟨present, same, _⟩
    exact different (fixed.eq_of_uuid present member (same.trans uuid.symm))
  · rintro ⟨others, other, member, uuid, channel⟩
    refine ⟨other, ⟨?_, member⟩, uuid, channel⟩
    rintro same
    subst same
    exact others ⟨member, uuid, channel⟩

end

end ZeroMQNode

/-- What a control message announces about a pair of a publisher and a
subscriber. -/
def subscriptionUpdate : ControlMessage -> Option (Update (CString × CString))
  | .subscribe pub subId => some (.add (pub.uuid, subId))
  | .unsubscribe pub subId => some (.remove (pub.uuid, subId))
  | _ => none

def subscriptionUpdates (messages : List ControlMessage) : List (Update (CString × CString)) :=
  messages.filterMap subscriptionUpdate

theorem mem_subscriptionUpdates_add {messages : List ControlMessage} {pubId subId : CString} :
    .add (pubId, subId) ∈ subscriptionUpdates messages <->
      Exists fun pub : PublisherInfo => pub.uuid = pubId ∧ .subscribe pub subId ∈ messages := by
  simp only [subscriptionUpdates, List.mem_filterMap]
  constructor
  · rintro ⟨message, member, announced⟩
    cases message with
    | subscribe pub other =>
        cases announced
        exact ⟨pub, rfl, member⟩
    | _ => cases announced
  · rintro ⟨pub, same, member⟩
    exact ⟨_, member, by rw [subscriptionUpdate, same]⟩

theorem mem_subscriptionUpdates_remove {messages : List ControlMessage} {pubId subId : CString} :
    .remove (pubId, subId) ∈ subscriptionUpdates messages <->
      Exists fun pub : PublisherInfo => pub.uuid = pubId ∧ .unsubscribe pub subId ∈ messages := by
  simp only [subscriptionUpdates, List.mem_filterMap]
  constructor
  · rintro ⟨message, member, announced⟩
    cases message with
    | unsubscribe pub other =>
        cases announced
        exact ⟨pub, rfl, member⟩
    | _ => cases announced
  · rintro ⟨pub, same, member⟩
    exact ⟨_, member, by rw [subscriptionUpdate, same]⟩

namespace ZeroMQNode

section

variable {pubChannel subChannel : CString -> CString}

/-- What a promotion subscribes to: every parked publisher with an interested
subscriber. -/
private theorem exists_parked_iff {node : ZeroMQNode} (consistent : node.Consistent)
    (fixed : FixedChannels pubChannel subChannel node) (remoteId pubId subId : CString) :
    (Exists fun uuid : CString => Exists fun pub : PublisherStub => Exists fun sub : Subscriber =>
      (node.pendingRemotePubs.row remoteId)[uuid]? = some pub ∧ sub ∈ node.localSubs ∧
        sub.channelName = pub.channelName ∧ pub.uuid = pubId ∧ sub.uuid = subId) <->
      pubId ∈ node.pendingRemotePubs.row remoteId ∧ node.Interested (pubChannel pubId) subId := by
  constructor
  · rintro ⟨uuid, pub, sub, found, member, channel, samePub, sameSub⟩
    have renamed : uuid = pubId := (consistent.pending_uuid remoteId uuid pub found).symm.trans samePub
    subst renamed
    refine ⟨Table.mem_of_getElem? found, sub, member, sameSub, ?_⟩
    exact channel.trans (fixed.pending remoteId uuid pub found)
  · rintro ⟨parked, sub, member, sameSub, channel⟩
    have found := ExtTreeMap.getElem?_eq_some_getElem parked
    exact ⟨pubId, _, sub, found, member, channel.trans (fixed.pending remoteId pubId _ found).symm,
      consistent.pending_uuid remoteId pubId _ found, sameSub⟩

theorem sends_subscribe_added {node : ZeroMQNode} (consistent : node.Consistent)
    (fixed : FixedChannels pubChannel subChannel node) {stub : NodeStub}
    {remoteId pubId subId : CString} :
    (Exists fun pub : PublisherInfo => pub.uuid = pubId ∧
        Sends node (.added stub) remoteId (.subscribe pub subId)) <->
      stub.uuid ≠ node.uuid ∧ stub.uuid = remoteId ∧ pubId ∈ node.pendingRemotePubs.row remoteId ∧
        node.Interested (pubChannel pubId) subId := by
  constructor
  · rintro ⟨_, samePub, sends⟩
    cases sends with
    | discovered _ uuid pub sub other found member channel =>
        exact ⟨other, rfl, (exists_parked_iff consistent fixed _ _ _).mp
          ⟨uuid, pub, sub, found, member, channel, samePub, rfl⟩⟩
  · rintro ⟨other, same, parked⟩
    subst same
    rcases (exists_parked_iff consistent fixed _ _ _).mpr parked with
      ⟨uuid, pub, sub, found, member, channel, samePub, sameSub⟩
    subst sameSub
    exact ⟨pub.info, samePub, .discovered stub uuid pub sub other found member channel⟩

theorem sends_subscribe_addSubscriber {node : ZeroMQNode} (consistent : node.Consistent)
    (fixed : FixedChannels pubChannel subChannel node) {sub : Subscriber}
    {remoteId pubId subId : CString} :
    (Exists fun pub : PublisherInfo => pub.uuid = pubId ∧
        Sends node (.addSubscriber sub) remoteId (.subscribe pub subId)) <->
      pubId ∈ node.remotePubs.row remoteId ∧ sub.uuid = subId ∧
        sub.channelName = pubChannel pubId := by
  constructor
  · rintro ⟨_, samePub, sends⟩
    cases sends with
    | subscribed _ _ uuid pub found channel =>
        have renamed : uuid = pubId := (consistent.remote_uuid remoteId uuid pub found).symm.trans samePub
        subst renamed
        refine ⟨Table.mem_of_getElem? found, rfl, ?_⟩
        exact channel.symm.trans (fixed.remote remoteId uuid pub found)
  · rintro ⟨listed, sameSub, channel⟩
    subst sameSub
    have found := ExtTreeMap.getElem?_eq_some_getElem listed
    refine ⟨_, consistent.remote_uuid remoteId pubId _ found, .subscribed sub remoteId pubId _ found ?_⟩
    exact (fixed.remote remoteId pubId _ found).trans channel.symm

theorem sends_unsubscribe_removeSubscriber {node : ZeroMQNode} (consistent : node.Consistent)
    (fixed : FixedChannels pubChannel subChannel node) {sub : Subscriber}
    {remoteId pubId subId : CString} :
    (Exists fun pub : PublisherInfo => pub.uuid = pubId ∧
        Sends node (.removeSubscriber sub) remoteId (.unsubscribe pub subId)) <->
      sub ∈ node.localSubs ∧ pubId ∈ node.remotePubs.row remoteId ∧ sub.uuid = subId ∧
        sub.channelName = pubChannel pubId := by
  constructor
  · rintro ⟨_, samePub, sends⟩
    cases sends with
    | unsubscribed _ _ uuid pub member found channel =>
        have renamed : uuid = pubId := (consistent.remote_uuid remoteId uuid pub found).symm.trans samePub
        subst renamed
        refine ⟨member, Table.mem_of_getElem? found, rfl, ?_⟩
        exact channel.symm.trans (fixed.remote remoteId uuid pub found)
  · rintro ⟨member, listed, sameSub, channel⟩
    subst sameSub
    have found := ExtTreeMap.getElem?_eq_some_getElem listed
    refine ⟨_, consistent.remote_uuid remoteId pubId _ found,
      .unsubscribed sub remoteId pubId _ member found ?_⟩
    exact (fixed.remote remoteId pubId _ found).trans channel.symm

theorem sends_subscribe_message {node : ZeroMQNode} (consistent : node.Consistent)
    (fixed : FixedChannels pubChannel subChannel node) {sender remoteId pubId subId : CString}
    {body : Bytes} {info : PublisherInfo}
    (keeps : KeepsChannels pubChannel subChannel (.message sender body))
    (type : messageType body = MessageType.pubAdded.code) (decoded : decodePub body = some info) :
    (Exists fun pub : PublisherInfo => pub.uuid = pubId ∧
        Sends node (.message sender body) remoteId (.subscribe pub subId)) <->
      sender ∈ node.nodes ∧ sender = remoteId ∧
        pubId ∈ (node.park sender (some (.ofInfo info))).pendingRemotePubs.row sender ∧
          node.Interested (pubChannel pubId) subId := by
  have channel : info.channelName = pubChannel info.uuid := by
    have kept := keeps type
    rw [decoded] at kept
    exact kept
  have parkedIff := exists_parked_iff (consistent.park sender (some (.ofInfo info)))
    (fixed.park sender channel) sender pubId subId
  constructor
  · rintro ⟨_, samePub, sends⟩
    cases sends with
    | announced _ _ other uuid pub sub _ decodedOther known found member channel =>
        cases decoded.symm.trans decodedOther
        exact ⟨known, rfl, parkedIff.mp ⟨uuid, pub, sub, found, member, channel, samePub, rfl⟩⟩
  · rintro ⟨known, same, parked⟩
    subst same
    rcases parkedIff.mpr parked with ⟨uuid, pub, sub, found, member, channel, samePub, sameSub⟩
    subst sameSub
    exact ⟨pub.info, samePub,
      .announced sender body info uuid pub sub type decoded known found member channel⟩

end

end ZeroMQNode

/-! ## Links -/

/-- A node, with the pairs of publishers and subscribers it has linked. -/
structure Linking where
  node : ZeroMQNode
  linked : CString -> CString × CString -> Prop

namespace Linking

/-- A link is made by a SUBSCRIBE.  It is cut by an UNSUBSCRIBE, when the
publisher leaves the table of its node, or when its node is removed. -/
def step (linking : Linking) (event : NodeEvent) : Linking × List Effect :=
  let outcome := linking.node.step event
  ({ node := outcome.1
     linked := fun remoteId pair =>
      replay (linking.linked remoteId) (subscriptionUpdates (messagesTo remoteId outcome.2)) pair ∧
        ¬ (pair.1 ∈ linking.node.remotePubs.row remoteId ∧
            pair.1 ∉ outcome.1.remotePubs.row remoteId) ∧
          ¬ event.Removes remoteId },
    outcome.2)

/-- A fresh node has linked nothing. -/
def init (uuid : CString) : Linking := ⟨ZeroMQNode.init uuid, fun _ _ => False⟩

/-- Exactly the pairs with the same channel name are linked. -/
def Exact (linking : Linking) : Prop :=
  forall remoteId pair, linking.linked remoteId pair <-> linking.node.Matches remoteId pair

section

variable {pubChannel subChannel : CString -> CString}

/-- An event that sends no UNSUBSCRIBE and unlists no publisher only links. -/
private theorem linked_of_gain {linking : Linking} (consistent : linking.node.Consistent)
    {event : NodeEvent} {remoteId pubId subId : CString}
    (kept : forall pub, ¬ ZeroMQNode.Sends linking.node event remoteId (.unsubscribe pub subId))
    (listed : pubId ∈ linking.node.remotePubs.row remoteId ->
      pubId ∈ (linking.node.step event).1.remotePubs.row remoteId)
    (present : ¬ event.Removes remoteId) :
    (linking.step event).1.linked remoteId (pubId, subId) <->
      (Exists fun pub : PublisherInfo => pub.uuid = pubId ∧
        ZeroMQNode.Sends linking.node event remoteId (.subscribe pub subId)) ∨
        linking.linked remoteId (pubId, subId) := by
  have unremoved : .remove (pubId, subId) ∉
      subscriptionUpdates (messagesTo remoteId (linking.node.step event).2) := by
    rw [mem_subscriptionUpdates_remove]
    rintro ⟨pub, _, sent⟩
    exact kept pub (consistent.mem_messagesTo_step.mp sent)
  have stays : ¬ (pubId ∈ linking.node.remotePubs.row remoteId ∧
      pubId ∉ (linking.node.step event).1.remotePubs.row remoteId) :=
    fun vanished => vanished.2 (listed vanished.1)
  simp only [step, replay_of_remove_not_mem _ _ unremoved, mem_subscriptionUpdates_add,
    consistent.mem_messagesTo_step, stays, present, not_false_eq_true, and_true]

/-- An event that sends no SUBSCRIBE only cuts links. -/
private theorem linked_of_loss {linking : Linking} (consistent : linking.node.Consistent)
    {event : NodeEvent} {remoteId pubId subId : CString}
    (silent : forall pub, ¬ ZeroMQNode.Sends linking.node event remoteId (.subscribe pub subId)) :
    (linking.step event).1.linked remoteId (pubId, subId) <->
      (¬ Exists fun pub : PublisherInfo => pub.uuid = pubId ∧
        ZeroMQNode.Sends linking.node event remoteId (.unsubscribe pub subId)) ∧
        linking.linked remoteId (pubId, subId) ∧
          ¬ (pubId ∈ linking.node.remotePubs.row remoteId ∧
            pubId ∉ (linking.node.step event).1.remotePubs.row remoteId) ∧
          ¬ event.Removes remoteId := by
  have unadded : .add (pubId, subId) ∉
      subscriptionUpdates (messagesTo remoteId (linking.node.step event).2) := by
    rw [mem_subscriptionUpdates_add]
    rintro ⟨pub, _, sent⟩
    exact silent pub (consistent.mem_messagesTo_step.mp sent)
  simp only [step, replay_of_add_not_mem _ _ unadded, mem_subscriptionUpdates_remove,
    consistent.mem_messagesTo_step, and_assoc]

theorem Exact.init (uuid : CString) : Exact (init uuid) := by
  intro remoteId pair
  constructor
  · intro linked
    exact linked.elim
  · rintro ⟨pub, found, _⟩
    simp [Linking.init, ZeroMQNode.init, Table.row] at found

private theorem Exact.added {linking : Linking} (exact : linking.Exact)
    (consistent : linking.node.Consistent)
    (fixed : linking.node.FixedChannels pubChannel subChannel) (stub : NodeStub)
    {remoteId pubId subId : CString} :
    (linking.step (.added stub)).1.linked remoteId (pubId, subId) <->
      pubId ∈ (linking.node.added stub).1.remotePubs.row remoteId ∧
        linking.node.Interested (pubChannel pubId) subId := by
  rw [linked_of_gain consistent, ZeroMQNode.sends_subscribe_added consistent fixed, exact,
    fixed.matches_iff, consistent.mem_row_added]
  · grind
  · intro pub sends
    cases sends
  · intro listed
    exact consistent.mem_row_added.mpr (Or.inr listed)
  · exact id

private theorem Exact.removed {linking : Linking} (exact : linking.Exact)
    (consistent : linking.node.Consistent)
    (fixed : linking.node.FixedChannels pubChannel subChannel) (stub : NodeStub)
    {remoteId pubId subId : CString} :
    (linking.step (.removed stub)).1.linked remoteId (pubId, subId) <->
      pubId ∈ (linking.node.removed stub).1.remotePubs.row remoteId ∧
        linking.node.Interested (pubChannel pubId) subId := by
  have silent : forall message, ¬ ZeroMQNode.Sends linking.node (.removed stub) remoteId message := by
    intro message sends
    cases sends
  rw [linked_of_loss consistent (fun pub => silent _), exact, fixed.matches_iff]
  simp only [silent, and_false, exists_false, not_false_eq_true, true_and, NodeEvent.Removes,
    ZeroMQNode.step, consistent.mem_row_removed]
  grind

/-- A message either announces a publisher, which only makes links, or it
sends nothing at all. -/
private theorem Exact.message {linking : Linking} (exact : linking.Exact)
    (consistent : linking.node.Consistent)
    (fixed : linking.node.FixedChannels pubChannel subChannel) {sender : CString} {body : Bytes}
    (keeps : ZeroMQNode.KeepsChannels pubChannel subChannel (.message sender body))
    {remoteId pubId subId : CString} :
    (linking.step (.message sender body)).1.linked remoteId (pubId, subId) <->
      pubId ∈ (linking.node.receive sender body).1.remotePubs.row remoteId ∧
        linking.node.Interested (pubChannel pubId) subId := by
  by_cases announces : Exists fun pub : PublisherInfo =>
      messageType body = MessageType.pubAdded.code ∧ decodePub body = some pub
  · rcases announces with ⟨pub, type, decoded⟩
    have row : forall uuid, uuid ∈ (linking.node.receive sender body).1.remotePubs.row remoteId <->
        (sender = remoteId ∧ sender ∈ linking.node.nodes ∧
          uuid ∈ (linking.node.park sender (some (.ofInfo pub))).pendingRemotePubs.row sender) ∨
          uuid ∈ linking.node.remotePubs.row remoteId := by
      intro uuid
      rw [ZeroMQNode.receive_of_pubAdded type decoded, ZeroMQNode.addRemotePubToLocalSubs,
        (consistent.park sender _).mem_row_promote, ZeroMQNode.park_nodes, ZeroMQNode.park_remotePubs]
    rw [linked_of_gain consistent,
      ZeroMQNode.sends_subscribe_message consistent fixed keeps type decoded, exact,
      fixed.matches_iff, row]
    · grind
    · intro pub sends
      cases sends
    · intro listed
      exact (row pubId).mpr (Or.inr listed)
    · exact id
  · have silent : forall message, ¬ ZeroMQNode.Sends linking.node (.message sender body) remoteId message := by
      intro message sends
      cases sends with
      | announced _ _ pub _ _ _ type decoded => exact announces ⟨pub, type, decoded⟩
    have shrinks : pubId ∈ (linking.node.receive sender body).1.remotePubs.row remoteId ->
        pubId ∈ linking.node.remotePubs.row remoteId :=
      ZeroMQNode.mem_row_of_mem_row_receive (fun pub both => announces ⟨pub, both⟩)
    rw [linked_of_loss consistent (fun pub => silent _), exact, fixed.matches_iff]
    simp only [silent, and_false, exists_false, not_false_eq_true, true_and, NodeEvent.Removes,
      ZeroMQNode.step, and_true]
    grind

/-- Events that are about neither remote publishers nor subscribers. -/
private theorem Exact.unrelated {linking : Linking} (exact : linking.Exact)
    (consistent : linking.node.Consistent)
    (fixed : linking.node.FixedChannels pubChannel subChannel) {event : NodeEvent}
    {remoteId pubId subId : CString}
    (unsubscribed : forall pub, ¬ ZeroMQNode.Sends linking.node event remoteId (.unsubscribe pub subId))
    (unlinked : forall pub, ¬ ZeroMQNode.Sends linking.node event remoteId (.subscribe pub subId))
    (row : (linking.node.step event).1.remotePubs = linking.node.remotePubs)
    (present : ¬ event.Removes remoteId) :
    (linking.step event).1.linked remoteId (pubId, subId) <->
      pubId ∈ linking.node.remotePubs.row remoteId ∧
        linking.node.Interested (pubChannel pubId) subId := by
  have listed : pubId ∈ linking.node.remotePubs.row remoteId ->
      pubId ∈ (linking.node.step event).1.remotePubs.row remoteId := by
    rw [row]
    exact id
  rw [linked_of_gain consistent unsubscribed listed present, exact, fixed.matches_iff]
  simp only [unlinked, and_false, exists_false, false_or]

/-- Exactness is kept by every event that keeps to the channel names. -/
theorem Exact.step {linking : Linking} (exact : linking.Exact)
    (consistent : linking.node.Consistent)
    (fixed : linking.node.FixedChannels pubChannel subChannel) {event : NodeEvent}
    (keeps : ZeroMQNode.KeepsChannels pubChannel subChannel event) :
    Exact (linking.step event).1 := by
  rintro remoteId ⟨pubId, subId⟩
  change _ <-> (linking.node.step event).1.Matches remoteId (pubId, subId)
  rw [(fixed.step consistent keeps).matches_iff]
  cases event with
  | added stub =>
      rw [exact.added consistent fixed]
      exact and_congr_right'
        (ZeroMQNode.interested_congr (ZeroMQNode.added_localSubs linking.node stub)).symm
  | removed stub =>
      have subs : (linking.node.removed stub).1.localSubs = linking.node.localSubs := by
        by_cases known : stub.uuid ∈ linking.node.nodes
        · rw [consistent.removed_of_known known]
        · rw [consistent.removed_of_unknown known]
      rw [exact.removed consistent fixed]
      exact and_congr_right' (ZeroMQNode.interested_congr subs).symm
  | message sender body =>
      rw [exact.message consistent fixed keeps]
      exact and_congr_right'
        (ZeroMQNode.interested_congr (ZeroMQNode.receive_localSubs linking.node sender body)).symm
  | addSubscriber sub =>
      have row : (linking.node.addSubscriber sub).1.remotePubs = linking.node.remotePubs := rfl
      rw [linked_of_gain consistent, ZeroMQNode.sends_subscribe_addSubscriber consistent fixed,
        exact, fixed.matches_iff]
      · rw [ZeroMQNode.step, consistent.interested_addSubscriber, row]
        grind
      · intro pub sends
        cases sends
      · exact id
      · exact id
  | removeSubscriber sub =>
      have row : (linking.node.removeSubscriber sub).1.remotePubs = linking.node.remotePubs := by
        rw [consistent.removeSubscriber_eq]
      rw [linked_of_loss consistent,
        ZeroMQNode.sends_unsubscribe_removeSubscriber consistent fixed, exact, fixed.matches_iff]
      · simp only [ZeroMQNode.step, fixed.interested_removeSubscriber consistent, row,
          NodeEvent.Removes]
        grind
      · intro pub sends
        cases sends
  | addPublisher pub =>
      have same : (linking.node.addPublisher pub).1.remotePubs = linking.node.remotePubs ∧
          (linking.node.addPublisher pub).1.localSubs = linking.node.localSubs := by
        rw [ZeroMQNode.addPublisher_eq]
        exact ⟨rfl, rfl⟩
      rw [ZeroMQNode.step, same.1, ZeroMQNode.interested_congr same.2]
      exact exact.unrelated consistent fixed (by rintro _ ⟨⟩) (by rintro _ ⟨⟩) same.1 id
  | removePublisher pub =>
      have same : (linking.node.removePublisher pub).1.remotePubs = linking.node.remotePubs ∧
          (linking.node.removePublisher pub).1.localSubs = linking.node.localSubs := by
        rw [ZeroMQNode.removePublisher_eq]
        exact ⟨rfl, rfl⟩
      rw [ZeroMQNode.step, same.1, ZeroMQNode.interested_congr same.2]
      exact exact.unrelated consistent fixed (by rintro _ ⟨⟩) (by rintro _ ⟨⟩) same.1 id

/-- A SUBSCRIBE goes to a node that lists the publisher afterwards, for a
local subscriber with the publisher's channel name. -/
def Justified (node : ZeroMQNode) : Effect -> Prop
  | .send socket (.subscribe pub subId) _ =>
      Exists fun client : Socket => socket = some client ∧
        node.Matches client.peer (pub.uuid, subId) ∧ node.Interested pub.channelName subId
  | _ => True

private theorem channelName_of_sends {node : ZeroMQNode} (consistent : node.Consistent)
    (fixed : node.FixedChannels pubChannel subChannel) {event : NodeEvent}
    (keeps : ZeroMQNode.KeepsChannels pubChannel subChannel event) {remoteId subId : CString}
    {pub : PublisherInfo} (sends : ZeroMQNode.Sends node event remoteId (.subscribe pub subId)) :
    pub.channelName = pubChannel pub.uuid := by
  cases sends with
  | discovered stub uuid pub sub _ found =>
      rw [PublisherStub.info, consistent.pending_uuid _ uuid pub found]
      exact fixed.pending _ uuid pub found
  | announced _ body info uuid pub sub type decoded _ found =>
      have channel : info.channelName = pubChannel info.uuid := by
        have kept := keeps type
        rw [decoded] at kept
        exact kept
      rw [PublisherStub.info, (consistent.park remoteId _).pending_uuid _ uuid pub found]
      exact (fixed.park remoteId channel).pending _ uuid pub found
  | subscribed sub _ uuid pub found =>
      rw [PublisherStub.info, consistent.remote_uuid _ uuid pub found]
      exact fixed.remote _ uuid pub found

/-- Where a SUBSCRIBE is sent to, its publisher is listed afterwards. -/
theorem listed_of_sends {node : ZeroMQNode} (consistent : node.Consistent)
    (fixed : node.FixedChannels pubChannel subChannel) {event : NodeEvent}
    (keeps : ZeroMQNode.KeepsChannels pubChannel subChannel event) {remoteId subId : CString}
    {pub : PublisherInfo} (sends : ZeroMQNode.Sends node event remoteId (.subscribe pub subId)) :
    pub.uuid ∈ (node.step event).1.remotePubs.row remoteId ∧
      (node.step event).1.Interested (pubChannel pub.uuid) subId := by
  cases event with
  | added stub =>
      rcases (ZeroMQNode.sends_subscribe_added consistent fixed).mp ⟨pub, rfl, sends⟩ with
        ⟨other, same, parked, interested⟩
      exact ⟨consistent.mem_row_added.mpr (Or.inl ⟨other, same, parked⟩),
        (ZeroMQNode.interested_congr (ZeroMQNode.added_localSubs node stub)).mpr interested⟩
  | message sender body =>
      have announced : Exists fun info : PublisherInfo =>
          messageType body = MessageType.pubAdded.code ∧ decodePub body = some info := by
        cases sends with
        | announced _ _ info _ _ _ type decoded => exact ⟨info, type, decoded⟩
      rcases announced with ⟨info, type, decoded⟩
      rcases (ZeroMQNode.sends_subscribe_message consistent fixed keeps type decoded).mp
        ⟨pub, rfl, sends⟩ with ⟨known, same, parked, interested⟩
      refine ⟨?_, (ZeroMQNode.interested_congr
        (ZeroMQNode.receive_localSubs node sender body)).mpr interested⟩
      rw [ZeroMQNode.step, ZeroMQNode.receive_of_pubAdded type decoded,
        ZeroMQNode.addRemotePubToLocalSubs, (consistent.park sender _).mem_row_promote,
        ZeroMQNode.park_nodes]
      exact Or.inl ⟨same, known, parked⟩
  | addSubscriber sub =>
      rcases (ZeroMQNode.sends_subscribe_addSubscriber consistent fixed).mp ⟨pub, rfl, sends⟩ with
        ⟨listed, same, channel⟩
      exact ⟨listed, consistent.interested_addSubscriber.mpr (Or.inl ⟨same, channel⟩)⟩
  | removed stub => cases sends
  | removeSubscriber sub => cases sends
  | addPublisher pub => cases sends
  | removePublisher pub => cases sends

theorem justified_of_mem_step {node : ZeroMQNode} (consistent : node.Consistent)
    (fixed : node.FixedChannels pubChannel subChannel) {event : NodeEvent}
    (keeps : ZeroMQNode.KeepsChannels pubChannel subChannel event) {effect : Effect}
    (made : effect ∈ (node.step event).2) : Justified (node.step event).1 effect := by
  cases effect with
  | send socket message sndMore =>
      cases message with
      | subscribe pub subId =>
          rcases consistent.client_of_send made with ⟨client, same, sends⟩
          have listed := listed_of_sends consistent fixed keeps sends
          have channel := channelName_of_sends consistent fixed keeps sends
          exact ⟨client, same, (fixed.step consistent keeps).matches_iff.mpr listed,
            channel ▸ listed.2⟩
      | _ => trivial
  | _ => trivial

end

/-- In any run, whatever the order of discoveries, announcements and local
subscribers, exactly the pairs on the same channel are linked.  No step sends
a SUBSCRIBE for another pair, or for a publisher that is still parked. -/
theorem exact_of_run (pubChannel subChannel : CString -> CString) (uuid : CString)
    (events : List NodeEvent)
    (keeps : Admits step (fun _ => ZeroMQNode.KeepsChannels pubChannel subChannel) (init uuid) events) :
    Exact (run step (init uuid) events).1 ∧
      forall event, ZeroMQNode.KeepsChannels pubChannel subChannel event ->
        forall effect, effect ∈ ((run step (init uuid) events).1.step event).2 ->
          Justified ((run step (init uuid) events).1.step event).1.node effect := by
  have invariant := invariant_of_run
    (fun linking => linking.node.Consistent ∧
      linking.node.FixedChannels pubChannel subChannel ∧ linking.Exact)
    (fun linking event valid allowed => ⟨valid.1.step event, valid.2.1.step valid.1 allowed,
      valid.2.2.step valid.1 valid.2.1 allowed⟩)
    ⟨ZeroMQNode.Consistent.init uuid, ZeroMQNode.FixedChannels.init uuid, Exact.init uuid⟩ keeps
  refine ⟨invariant.2.2, ?_⟩
  intro event allowed effect made
  exact justified_of_mem_step invariant.1 invariant.2.1 allowed made

/-- A publisher is announced before its node is discovered; a subscriber on
its channel is added in between. -/
theorem exact_of_run_pending :
    let remote := exampleStub 98 (by decide)
    let channel : CString := ⟨[102], by decide⟩
    let events : List NodeEvent :=
      [.message remote.uuid (ControlMessage.pubAdded (examplePublisher 99 (by decide) channel)).encode,
        .addSubscriber (exampleSubscriber 100 (by decide) channel), .added remote]
    Admits step (fun _ => ZeroMQNode.KeepsChannels (fun _ => channel) (fun _ => channel))
        (init (repeatedUuid 97 (by decide))) events ∧
      Exact (run step (init (repeatedUuid 97 (by decide))) events).1 := by
  refine ⟨by decide +kernel, (exact_of_run (fun _ => ⟨[102], by decide⟩)
    (fun _ => ⟨[102], by decide⟩) _ _ ?_).1⟩
  decide +kernel

end Linking
end Connection
end Umundo
