import Umundo.Connection.PublisherAgreement
import Umundo.Connection.ChannelMatching

namespace Umundo
namespace Connection

open Foundation Std

/-!
# Agreement on subscriptions

A node records which subscribers of the other node are subscribed to its
publishers.  The record follows the SUBSCRIBE and UNSUBSCRIBE messages of the
other node, but both are ignored while the publisher is unknown.  Moreover a
node that was told to forget a publisher sends no UNSUBSCRIBE for it.  Since
the record survives the removal of its publisher, a subscriber that leaves in
the meantime is still recorded when the publisher returns.

Two conditions exclude this.  An UNSUBSCRIBE for a recorded subscription must
not arrive while its publisher is removed.  And a subscriber must not leave
while the other node records it, or is about to record it, for a publisher
that its own node does not list.  In every run that keeps to them the records
are exact whenever no message is under way.
-/

namespace ZeroMQNode

/-- A remote subscriber is recorded for a publisher. -/
def Recorded (node : ZeroMQNode) (remoteId : CString) (pair : CString × CString) : Prop :=
  pair.2 ∈ node.subscriptions.cell remoteId pair.1

instance (node : ZeroMQNode) (remoteId : CString) (pair : CString × CString) :
    Decidable (node.Recorded remoteId pair) :=
  inferInstanceAs (Decidable (_ ∈ _))

theorem Consistent.known_of_recorded {node : ZeroMQNode} (consistent : node.Consistent)
    {remoteId : CString} {pair : CString × CString} (recorded : node.Recorded remoteId pair) :
    remoteId ∈ node.nodes :=
  consistent.subscriptions_known remoteId
    (Table.mem_of_mem_row (Table.mem_row_of_mem_cell recorded))

/-- An UNSUBSCRIBE for a recorded subscription finds its publisher. -/
def Heeds (node : ZeroMQNode) (remoteId : CString) : ControlMessage -> Prop
  | .unsubscribe pub subId =>
      node.Recorded remoteId (pub.uuid, subId) -> pub.uuid ∈ node.localPubs
  | _ => True

instance (node : ZeroMQNode) (remoteId : CString) :
    (message : ControlMessage) -> Decidable (node.Heeds remoteId message)
  | .unsubscribe pub subId =>
      inferInstanceAs (Decidable (node.Recorded remoteId (pub.uuid, subId) -> pub.uuid ∈ node.localPubs))
  | .pubAdded _ | .pubRemoved _ | .subscribe _ _ => inferInstanceAs (Decidable True)

section

variable {node : ZeroMQNode} {remoteId : CString} {message : ControlMessage}
  {pair : CString × CString}

/-- A message records nothing that it does not announce, provided that no
UNSUBSCRIBE for a recorded subscription is ignored. -/
theorem replay_of_recorded_receive (consistent : node.Consistent)
    (heeded : node.Heeds remoteId message)
    (recorded : (node.receive remoteId message.encode).1.Recorded remoteId pair) :
    replay (node.Recorded remoteId) (subscriptionUpdates [message]) pair := by
  rcases pair with ⟨pubId, subId⟩
  cases message with
  | pubAdded pub =>
      rw [Recorded, receive_pubAdded_subscriptions] at recorded
      exact recorded
  | pubRemoved pub =>
      rw [Recorded, receive_pubRemoved_subscriptions] at recorded
      exact recorded
  | subscribe pub sub =>
      rcases mem_cell_receive_subscribe.mp recorded with ⟨_, _, _, samePub, sameSub⟩ | old
      · exact Or.inl (Prod.ext samePub sameSub)
      · exact Or.inr old
  | unsubscribe pub sub =>
      rcases mem_cell_receive_unsubscribe.mp recorded with ⟨kept, old⟩
      refine ⟨?_, old⟩
      intro same
      have parts := Prod.mk.inj same
      exact kept ⟨consistent.known_of_recorded old, heeded (same ▸ old), rfl, parts.1, parts.2⟩

/-- For a publisher that is there, everything announced is recorded. -/
theorem recorded_receive_of_replay (known : remoteId ∈ node.nodes)
    (published : pair.1 ∈ node.localPubs)
    (announced : replay (node.Recorded remoteId) (subscriptionUpdates [message]) pair) :
    (node.receive remoteId message.encode).1.Recorded remoteId pair := by
  rcases pair with ⟨pubId, subId⟩
  cases message with
  | pubAdded pub =>
      rw [Recorded, receive_pubAdded_subscriptions]
      exact announced
  | pubRemoved pub =>
      rw [Recorded, receive_pubRemoved_subscriptions]
      exact announced
  | subscribe pub sub =>
      refine mem_cell_receive_subscribe.mpr ?_
      rcases announced with same | old
      · cases same
        exact Or.inl ⟨known, published, rfl, rfl, rfl⟩
      · exact Or.inr old
  | unsubscribe pub sub =>
      rcases announced with ⟨different, old⟩
      refine mem_cell_receive_unsubscribe.mpr ⟨?_, old⟩
      rintro ⟨_, _, _, samePub, sameSub⟩
      exact different (Prod.ext samePub sameSub)

end

end ZeroMQNode

namespace NodePair

section

variable (stub : Side -> NodeStub) (pubChannel subChannel : CString -> CString)

/-- A node records a subscription, or is about to. -/
def WillRecord (pair : NodePair) (host : Side) (subscription : CString × CString) : Prop :=
  replay ((pair.node host).Recorded (stub host.other).uuid)
    (subscriptionUpdates (pair.inbox host)) subscription

/-- The channel names are fixed.  An UNSUBSCRIBE for a recorded subscription
finds its publisher.  A subscriber that leaves is recorded, or about to be
recorded, only for publishers its own node still lists. -/
def Orderly (pair : NodePair) : PairEvent -> Prop
  | .addPublisher _ pub => pub.channelName = pubChannel pub.uuid
  | .addSubscriber _ sub => sub.channelName = subChannel sub.uuid
  | .removeSubscriber side sub => forall pubId,
      pair.WillRecord stub side.other (pubId, sub.uuid) ->
        pubId ∈ (pair.node side).remotePubs.row (stub side.other).uuid
  | .deliver side => forall message, message ∈ (pair.inbox side).head? ->
      (pair.node side).Heeds (stub side.other).uuid message
  | _ => True

/-- What holds in every state of an orderly run.  `backed` bounds what will
be recorded from above, `served` from below. -/
structure Aligned (pair : NodePair) : Prop where
  regular : Regular stub pair
  complete : Complete stub pair
  fixed : forall side, (pair.node side).FixedChannels pubChannel subChannel
  announced : forall side pub, .pubAdded pub ∈ pair.inbox side ->
    pub.channelName = pubChannel pub.uuid
  backed : forall host pubId subId, pair.WillRecord stub host (pubId, subId) ->
    (pair.node host.other).Interested (pubChannel pubId) subId
  served : forall host pubId subId,
    pubId ∈ (pair.node host.other).remotePubs.row (stub host).uuid ->
    pubId ∈ (pair.node host).localPubs ->
    .add pubId ∉ publisherUpdates (pair.inbox host.other) ->
    (pair.node host.other).Interested (pubChannel pubId) subId ->
    pair.WillRecord stub host (pubId, subId)

end

variable {stub : Side -> NodeStub} {pubChannel subChannel : CString -> CString}

theorem Aligned.init : Aligned stub pubChannel subChannel (init stub) where
  regular := Regular.init stub
  complete := Complete.init stub
  fixed side := ZeroMQNode.FixedChannels.init _
  announced side pub member := by simp [NodePair.init] at member
  backed host pubId subId recorded := by
    simp [NodePair.init, ZeroMQNode.init, WillRecord, subscriptionUpdates, ZeroMQNode.Recorded,
      Table.cell, Table.row] at recorded
  served host pubId subId listed := by simp [NodePair.init, ZeroMQNode.init, Table.row] at listed

section

variable {pair : NodePair} {event : PairEvent} {actor : Side} {remaining : List ControlMessage}
  {nodeEvent : NodeEvent}

/-- Orderly events keep to the channel names, also where a node only learns
them from a message. -/
private theorem keepsChannels_of_orderly (aligned : Aligned stub pubChannel subChannel pair)
    (occurs : Occurs stub pair event actor remaining nodeEvent)
    (orderly : Orderly stub pubChannel subChannel pair event) :
    ZeroMQNode.KeepsChannels pubChannel subChannel nodeEvent := by
  cases occurs with
  | discover => trivial
  | addPublisher _ pub => exact orderly
  | removePublisher _ pub => trivial
  | addSubscriber _ sub => exact orderly
  | removeSubscriber _ sub => trivial
  | deliver _ message rest inbox =>
      intro type
      have same : message.type = .pubAdded :=
        MessageType.eq_of_code ((messageType_toNetwork _ _).symm.trans type)
      cases message with
      | pubAdded pub =>
          have decoded : decodePub (ControlMessage.pubAdded pub).encode = some pub :=
            decodePub_written _ pub
          rw [decoded]
          exact aligned.announced actor pub (by rw [inbox]; exact List.mem_cons_self)
      | _ => cases same

private theorem announced_of_act (aligned : Aligned stub pubChannel subChannel pair)
    (occurs : Occurs stub pair event actor remaining nodeEvent)
    (orderly : Orderly stub pubChannel subChannel pair event) (side : Side) (pub : PublisherInfo)
    (member : .pubAdded pub ∈ (pair.act stub actor remaining nodeEvent).1.inbox side) :
    pub.channelName = pubChannel pub.uuid := by
  have consistent := aligned.regular.consistent actor
  rcases side.eq_or_eq_other actor with same | same
  · subst same
    rw [act_inbox_self] at member
    refine aligned.announced side pub ?_
    rcases occurs.heard_or_deliver consistent with ⟨same, _⟩ | ⟨message, _, inbox, _⟩
    · exact same ▸ member
    · rw [inbox]
      exact List.mem_cons_of_mem _ member
  · subst same
    rw [act_inbox_other] at member
    rcases List.mem_append.mp member with old | sent
    · exact aligned.announced actor.other pub old
    · have sends := consistent.mem_messagesTo_step.mp sent
      cases occurs with
      | discover =>
          cases sends with
          | listing _ uuid _ _ found =>
              rw [consistent.local_uuid uuid pub found]
              exact (aligned.fixed actor).pubs uuid pub found
      | addPublisher _ pub =>
          cases sends
          exact orderly
      | _ => cases sends

/-! ## The recording side acts -/

/-- Only a delivery changes the records. -/
private theorem recorded_or_deliver (consistent : (pair.node actor).Consistent)
    (occurs : Occurs stub pair event actor remaining nodeEvent) :
    (remaining = pair.inbox actor ∧
        ((pair.node actor).step nodeEvent).1.subscriptions = (pair.node actor).subscriptions) ∨
      Exists fun message : ControlMessage => event = .deliver actor ∧
        pair.inbox actor = message :: remaining ∧
          nodeEvent = .message (stub actor.other).uuid message.encode := by
  cases occurs with
  | discover =>
      refine Or.inl ⟨rfl, ?_⟩
      by_cases own : (stub actor.other).uuid = (pair.node actor).uuid
      · rw [ZeroMQNode.step, ZeroMQNode.added, if_pos own]
      · rw [ZeroMQNode.step, ZeroMQNode.added_of_ne own, ZeroMQNode.promote_subscriptions]
        rfl
  | addPublisher _ pub =>
      rw [ZeroMQNode.step, ZeroMQNode.addPublisher_eq]
      exact Or.inl ⟨rfl, rfl⟩
  | removePublisher _ pub =>
      rw [ZeroMQNode.step, ZeroMQNode.removePublisher_eq]
      exact Or.inl ⟨rfl, rfl⟩
  | addSubscriber _ sub => exact Or.inl ⟨rfl, rfl⟩
  | removeSubscriber _ sub =>
      rw [ZeroMQNode.step, consistent.removeSubscriber_eq]
      exact Or.inl ⟨rfl, rfl⟩
  | deliver _ message rest inbox => exact Or.inr ⟨message, rfl, inbox, rfl⟩

private theorem willRecord_cons {host : Side} {message : ControlMessage}
    {subscription : CString × CString} (inbox : pair.inbox host = message :: remaining) :
    pair.WillRecord stub host subscription <->
      replay (replay ((pair.node host).Recorded (stub host.other).uuid) (subscriptionUpdates [message]))
        (subscriptionUpdates remaining) subscription := by
  rw [WillRecord, inbox, ← replay_append, subscriptionUpdates, subscriptionUpdates,
    subscriptionUpdates, ← List.filterMap_append]
  rfl

private theorem willRecord_of_act_self (consistent : (pair.node actor).Consistent)
    (occurs : Occurs stub pair event actor remaining nodeEvent)
    (orderly : Orderly stub pubChannel subChannel pair event) {subscription : CString × CString}
    (recorded : (pair.act stub actor remaining nodeEvent).1.WillRecord stub actor subscription) :
    pair.WillRecord stub actor subscription := by
  rw [WillRecord, act_node_self, act_inbox_self] at recorded
  rcases recorded_or_deliver consistent occurs with ⟨same, table⟩ | ⟨message, same, inbox, delivered⟩
  · rw [same] at recorded
    refine replay_mono _ ?_ recorded
    rw [ZeroMQNode.Recorded, table]
    exact id
  · subst delivered
    subst same
    rw [willRecord_cons inbox]
    have heeded := orderly message (by rw [inbox]; rfl)
    exact replay_mono _ (ZeroMQNode.replay_of_recorded_receive consistent heeded) recorded

private theorem willRecord_act_self (consistent : (pair.node actor).Consistent)
    (occurs : Occurs stub pair event actor remaining nodeEvent)
    (known : (stub actor.other).uuid ∈ (pair.node actor).nodes) {pubId subId : CString}
    (published : pubId ∈ (pair.node actor).localPubs)
    (recorded : pair.WillRecord stub actor (pubId, subId)) :
    (pair.act stub actor remaining nodeEvent).1.WillRecord stub actor (pubId, subId) := by
  rw [WillRecord, act_node_self, act_inbox_self]
  rcases recorded_or_deliver consistent occurs with ⟨same, table⟩ | ⟨message, same, inbox, delivered⟩
  · rw [same]
    refine replay_mono _ ?_ recorded
    rw [ZeroMQNode.Recorded, ZeroMQNode.Recorded, table]
    exact id
  · subst delivered
    subst same
    rw [willRecord_cons inbox] at recorded
    exact replay_mono _ (ZeroMQNode.recorded_receive_of_replay known published) recorded

/-- A publisher that is there without being announced was there before. -/
private theorem published_of_unannounced (regular : Regular stub pair)
    (occurs : Occurs stub pair event actor remaining nodeEvent)
    (known : (stub actor.other).uuid ∈ (pair.node actor).nodes) {pubId : CString}
    (published : pubId ∈ ((pair.node actor).step nodeEvent).1.localPubs)
    (unannounced : .add pubId ∉ publisherUpdates
      (messagesTo (stub actor.other).uuid ((pair.node actor).step nodeEvent).2)) :
    pubId ∈ (pair.node actor).localPubs := by
  have consistent := regular.consistent actor
  rcases host_cases regular occurs with same | ⟨pub, same⟩ | ⟨pub, same⟩ | ⟨_, pubs, _⟩
  · subst same
    rw [ZeroMQNode.step, ZeroMQNode.added_localPubs] at published
    exact published
  · subst same
    apply Classical.byContradiction
    intro fresh
    have same := (ZeroMQNode.mem_localPubs_addPublisher.mp published).resolve_right fresh
    subst same
    exact unannounced (mem_publisherUpdates_add.mpr
      ⟨pub, rfl, consistent.mem_messagesTo_step.mpr (.published pub _ fresh known)⟩)
  · subst same
    exact (ZeroMQNode.mem_localPubs_removePublisher.mp published).2
  · exact pubs ▸ published

private theorem served_host (aligned : Aligned stub pubChannel subChannel pair)
    (occurs : Occurs stub pair event actor remaining nodeEvent) {pubId subId : CString}
    (listed : pubId ∈ (pair.node actor.other).remotePubs.row (stub actor).uuid)
    (published : pubId ∈ ((pair.node actor).step nodeEvent).1.localPubs)
    (unannounced : .add pubId ∉
      publisherUpdates ((pair.act stub actor remaining nodeEvent).1.inbox actor.other))
    (interested : (pair.node actor.other).Interested (pubChannel pubId) subId) :
    (pair.act stub actor remaining nodeEvent).1.WillRecord stub actor (pubId, subId) := by
  have consistent := aligned.regular.consistent actor
  have known : (stub actor.other).uuid ∈ (pair.node actor).nodes := by
    apply Classical.byContradiction
    intro unaware
    have silent := aligned.regular.silent actor.other
    rw [Side.other_other] at silent
    exact (silent unaware).2 pubId (Or.inl listed)
  rw [act_inbox_other, publisherUpdates, List.filterMap_append, List.mem_append, not_or] at unannounced
  have before := published_of_unannounced aligned.regular occurs known published unannounced.2
  exact willRecord_act_self consistent occurs known before
    (aligned.served actor pubId subId listed before unannounced.1 interested)

/-! ## The subscribing side acts -/

private theorem willRecord_act_other {subscription : CString × CString} :
    (pair.act stub actor remaining nodeEvent).1.WillRecord stub actor.other subscription <->
      replay (pair.WillRecord stub actor.other)
        (subscriptionUpdates (messagesTo (stub actor.other).uuid ((pair.node actor).step nodeEvent).2))
        subscription := by
  rw [WillRecord, act_node_other, act_inbox_other, subscriptionUpdates, List.filterMap_append,
    replay_append]
  exact Iff.rfl

private theorem willRecord_of_kept (consistent : (pair.node actor).Consistent)
    {pubId subId : CString}
    (kept : forall pub, ¬ (pair.node actor).Sends nodeEvent (stub actor.other).uuid (.unsubscribe pub subId)) :
    (pair.act stub actor remaining nodeEvent).1.WillRecord stub actor.other (pubId, subId) <->
      (Exists fun pub : PublisherInfo => pub.uuid = pubId ∧
        (pair.node actor).Sends nodeEvent (stub actor.other).uuid (.subscribe pub subId)) ∨
        pair.WillRecord stub actor.other (pubId, subId) := by
  have unremoved : .remove (pubId, subId) ∉ subscriptionUpdates
      (messagesTo (stub actor.other).uuid ((pair.node actor).step nodeEvent).2) := by
    rw [mem_subscriptionUpdates_remove]
    rintro ⟨pub, _, sent⟩
    exact kept pub (consistent.mem_messagesTo_step.mp sent)
  simp only [willRecord_act_other, replay_of_remove_not_mem _ _ unremoved,
    mem_subscriptionUpdates_add, consistent.mem_messagesTo_step]

private theorem willRecord_removeSubscriber (consistent : (pair.node actor).Consistent)
    (fixed : (pair.node actor).FixedChannels pubChannel subChannel) {sub : Subscriber}
    {pubId subId : CString} :
    (pair.act stub actor remaining (.removeSubscriber sub)).1.WillRecord stub actor.other (pubId, subId) <->
      ¬ (sub ∈ (pair.node actor).localSubs ∧
          pubId ∈ (pair.node actor).remotePubs.row (stub actor.other).uuid ∧
          sub.uuid = subId ∧ sub.channelName = pubChannel pubId) ∧
        pair.WillRecord stub actor.other (pubId, subId) := by
  have unadded : .add (pubId, subId) ∉ subscriptionUpdates
      (messagesTo (stub actor.other).uuid ((pair.node actor).step (.removeSubscriber sub)).2) := by
    rw [mem_subscriptionUpdates_add]
    rintro ⟨pub, _, sent⟩
    cases consistent.mem_messagesTo_step.mp sent
  simp only [willRecord_act_other, replay_of_add_not_mem _ _ unadded,
    mem_subscriptionUpdates_remove, consistent.mem_messagesTo_step,
    ZeroMQNode.sends_unsubscribe_removeSubscriber consistent fixed]

/-- Interest grows unless a subscriber leaves. -/
private theorem interested_of_kept (consistent : (pair.node actor).Consistent)
    (occurs : Occurs stub pair event actor remaining nodeEvent)
    (kept : forall sub, nodeEvent ≠ .removeSubscriber sub) {channelName subId : CString}
    (interested : (pair.node actor).Interested channelName subId) :
    ((pair.node actor).step nodeEvent).1.Interested channelName subId := by
  cases occurs with
  | discover =>
      exact (ZeroMQNode.interested_congr (ZeroMQNode.added_localSubs _ _)).mpr interested
  | addPublisher _ pub =>
      rw [ZeroMQNode.step, ZeroMQNode.addPublisher_eq]
      exact interested
  | removePublisher _ pub =>
      rw [ZeroMQNode.step, ZeroMQNode.removePublisher_eq]
      exact interested
  | addSubscriber _ sub => exact consistent.interested_addSubscriber.mpr (Or.inr interested)
  | removeSubscriber _ sub => exact (kept sub rfl).elim
  | deliver _ message rest inbox =>
      exact (ZeroMQNode.interested_congr (ZeroMQNode.receive_localSubs _ _ _)).mpr interested

private theorem backed_guest (aligned : Aligned stub pubChannel subChannel pair)
    (occurs : Occurs stub pair event actor remaining nodeEvent)
    (orderly : Orderly stub pubChannel subChannel pair event) {pubId subId : CString}
    (recorded : (pair.act stub actor remaining nodeEvent).1.WillRecord stub actor.other (pubId, subId)) :
    ((pair.node actor).step nodeEvent).1.Interested (pubChannel pubId) subId := by
  have consistent := aligned.regular.consistent actor
  have fixed := aligned.fixed actor
  have keeps := keepsChannels_of_orderly aligned occurs orderly
  have before := aligned.backed actor.other pubId subId
  rw [Side.other_other] at before
  by_cases leaves : Exists fun sub : Subscriber => nodeEvent = .removeSubscriber sub
  · rcases leaves with ⟨sub, same⟩
    subst same
    rw [willRecord_removeSubscriber consistent fixed] at recorded
    refine (fixed.interested_removeSubscriber consistent).mpr ⟨?_, before recorded.2⟩
    rintro ⟨member, same, channel⟩
    cases occurs with
    | removeSubscriber =>
        have listed := orderly pubId (same ▸ recorded.2)
        exact recorded.1 ⟨member, listed, same, channel⟩
  · have kept : forall sub, nodeEvent ≠ .removeSubscriber sub := fun sub same => leaves ⟨sub, same⟩
    rw [willRecord_of_kept consistent] at recorded
    · rcases recorded with ⟨pub, same, sends⟩ | old
      · subst same
        exact (Linking.listed_of_sends consistent fixed keeps sends).2
      · exact interested_of_kept consistent occurs kept (before old)
    · intro pub sends
      generalize (stub actor.other).uuid = target at sends
      cases sends with
      | unsubscribed sub => exact kept sub rfl

/-- A delivery to the subscribing node either lists a publisher, for which it
subscribes, or is about other publishers. -/
private theorem served_deliver (aligned : Aligned stub pubChannel subChannel pair)
    {message : ControlMessage} (inbox : pair.inbox actor = message :: remaining)
    (keeps : ZeroMQNode.KeepsChannels pubChannel subChannel
      (.message (stub actor.other).uuid message.encode)) {pubId subId : CString}
    (listed : pubId ∈ ((pair.node actor).receive (stub actor.other).uuid message.encode).1.remotePubs.row
      (stub actor.other).uuid)
    (published : pubId ∈ (pair.node actor.other).localPubs)
    (unannounced : .add pubId ∉ publisherUpdates remaining)
    (interested : (pair.node actor).Interested (pubChannel pubId) subId) :
    (Exists fun pub : PublisherInfo => pub.uuid = pubId ∧
      (pair.node actor).Sends (.message (stub actor.other).uuid message.encode)
        (stub actor.other).uuid (.subscribe pub subId)) ∨
      pair.WillRecord stub actor.other (pubId, subId) := by
  have consistent := aligned.regular.consistent actor
  have before := aligned.served actor.other pubId subId
  rw [Side.other_other] at before
  -- an older listing is served as long as this message does not announce it again
  have old : pubId ∈ (pair.node actor).remotePubs.row (stub actor.other).uuid ->
      publisherUpdate message ≠ some (.add pubId) ->
      pair.WillRecord stub actor.other (pubId, subId) := by
    intro member different
    refine before member published ?_ interested
    rw [inbox]
    intro announced
    rcases List.mem_filterMap.mp announced with ⟨other, sent, update⟩
    rcases List.mem_cons.mp sent with same | later
    · exact different (same ▸ update)
    · exact unannounced (List.mem_filterMap.mpr ⟨other, later, update⟩)
  by_cases announcing : message.type = .pubAdded
  · cases message with
    | pubAdded pub =>
        have subscribed : (stub actor.other).uuid ∈ (pair.node actor).nodes ->
            pubId ∈ ((pair.node actor).park (stub actor.other).uuid
              (some (.ofInfo pub))).pendingRemotePubs.row (stub actor.other).uuid ->
            Exists fun pub' : PublisherInfo => pub'.uuid = pubId ∧
              (pair.node actor).Sends (.message (stub actor.other).uuid (ControlMessage.pubAdded pub).encode)
                (stub actor.other).uuid (.subscribe pub' subId) := by
          intro known parked
          exact (ZeroMQNode.sends_subscribe_message consistent (aligned.fixed actor) keeps
            (messageType_toNetwork _ _) (decodePub_written _ pub)).mpr ⟨known, rfl, parked, interested⟩
        rw [ZeroMQNode.receive_pubAdded, ZeroMQNode.addRemotePubToLocalSubs,
          (consistent.park _ _).mem_row_promote, ZeroMQNode.park_nodes, ZeroMQNode.park_remotePubs] at listed
        rcases listed with ⟨_, known, parked⟩ | member
        · exact Or.inl (subscribed known parked)
        · by_cases same : pub.uuid = pubId
          · exact Or.inl (subscribed (consistent.known_of_mem_row member)
              (ZeroMQNode.mem_row_park.mpr (Or.inl ⟨rfl, same⟩)))
          · refine Or.inr (old member ?_)
            intro again
            exact same (Update.add.inj (Option.some.inj again))
    | _ => cases announcing
  · refine Or.inr (old (ZeroMQNode.mem_row_of_mem_row_receive ?_ listed) ?_)
    · rintro pub ⟨type, _⟩
      exact announcing (MessageType.eq_of_code ((messageType_toNetwork _ _).symm.trans type))
    · cases message with
      | pubAdded pub => exact (announcing rfl).elim
      | _ => simp [publisherUpdate]

private theorem served_guest (aligned : Aligned stub pubChannel subChannel pair)
    (occurs : Occurs stub pair event actor remaining nodeEvent)
    (orderly : Orderly stub pubChannel subChannel pair event) {pubId subId : CString}
    (listed : pubId ∈ ((pair.node actor).step nodeEvent).1.remotePubs.row (stub actor.other).uuid)
    (published : pubId ∈ (pair.node actor.other).localPubs)
    (unannounced : .add pubId ∉ publisherUpdates remaining)
    (interested : ((pair.node actor).step nodeEvent).1.Interested (pubChannel pubId) subId) :
    (pair.act stub actor remaining nodeEvent).1.WillRecord stub actor.other (pubId, subId) := by
  have consistent := aligned.regular.consistent actor
  have fixed := aligned.fixed actor
  have keeps := keepsChannels_of_orderly aligned occurs orderly
  have before := aligned.served actor.other pubId subId
  rw [Side.other_other] at before
  cases occurs with
  | discover =>
      rw [ZeroMQNode.step, ZeroMQNode.interested_congr (ZeroMQNode.added_localSubs _ _)] at interested
      rw [willRecord_of_kept consistent (by rintro _ ⟨⟩),
        ZeroMQNode.sends_subscribe_added consistent fixed]
      rcases consistent.mem_row_added.mp listed with ⟨other, same, parked⟩ | old
      · exact Or.inl ⟨other, same, parked, interested⟩
      · exact Or.inr (before old published unannounced interested)
  | addPublisher _ pub =>
      rw [ZeroMQNode.step, ZeroMQNode.addPublisher_eq] at listed interested
      rw [willRecord_of_kept consistent (by rintro _ ⟨⟩)]
      exact Or.inr (before listed published unannounced interested)
  | removePublisher _ pub =>
      rw [ZeroMQNode.step, ZeroMQNode.removePublisher_eq] at listed interested
      rw [willRecord_of_kept consistent (by rintro _ ⟨⟩)]
      exact Or.inr (before listed published unannounced interested)
  | addSubscriber _ sub =>
      rw [willRecord_of_kept consistent (by rintro _ ⟨⟩),
        ZeroMQNode.sends_subscribe_addSubscriber consistent fixed]
      rcases consistent.interested_addSubscriber.mp interested with ⟨same, channel⟩ | old
      · exact Or.inl ⟨listed, same, channel⟩
      · exact Or.inr (before listed published unannounced old)
  | removeSubscriber _ sub =>
      have parts := (fixed.interested_removeSubscriber consistent).mp interested
      rw [ZeroMQNode.step, consistent.removeSubscriber_eq] at listed
      rw [willRecord_removeSubscriber consistent fixed]
      exact ⟨fun all => parts.1 ⟨all.1, all.2.2⟩, before listed published unannounced parts.2⟩
  | deliver _ message rest inbox =>
      rw [ZeroMQNode.step, ZeroMQNode.interested_congr (ZeroMQNode.receive_localSubs _ _ _)] at interested
      rw [willRecord_of_kept consistent (by rintro _ ⟨⟩)]
      exact served_deliver aligned inbox keeps listed published unannounced interested

end

/-! ## Every orderly run -/

theorem Aligned.step {pair : NodePair} {event : PairEvent}
    (aligned : Aligned stub pubChannel subChannel pair)
    (orderly : Orderly stub pubChannel subChannel pair event) :
    Aligned stub pubChannel subChannel (pair.step stub event).1 := by
  rcases pair.step_cases event with same | ⟨actor, remaining, nodeEvent, occurs, equal⟩
  · rw [same]
    exact aligned
  · have consistent := aligned.regular.consistent actor
    have keeps := keepsChannels_of_orderly aligned occurs orderly
    have complete := aligned.complete.step aligned.regular event
    rw [equal] at complete ⊢
    refine ⟨aligned.regular.act occurs, complete, ?_, announced_of_act aligned occurs orderly, ?_, ?_⟩
    · exact forall_node_act (fun _ node => node.FixedChannels pubChannel subChannel) aligned.fixed
        ((aligned.fixed actor).step consistent keeps) remaining
    · intro host pubId subId recorded
      rcases host.eq_or_eq_other actor with same | same
      · subst same
        rw [act_node_other]
        exact aligned.backed host pubId subId (willRecord_of_act_self consistent occurs orderly recorded)
      · subst same
        rw [Side.other_other, act_node_self]
        exact backed_guest aligned occurs orderly recorded
    · intro host pubId subId
      rcases host.eq_or_eq_other actor with same | same
      · subst same
        rw [act_node_other, act_node_self]
        exact served_host aligned occurs
      · subst same
        rw [Side.other_other, act_node_other, act_node_self, act_inbox_self]
        exact served_guest aligned occurs orderly

/-- Once both nodes have added each other and everything was delivered, one
node records exactly the subscribers of the other one on each channel. -/
def SubscriptionsAgree (stub : Side -> NodeStub) (pair : NodePair) (host : Side) : Prop :=
  pair.Acquainted stub -> (forall side, pair.inbox side = []) ->
    forall (pubId : CString) (pub : PublisherInfo), (pair.node host).localPubs[pubId]? = some pub ->
      forall subId, subId ∈ (pair.node host).subscriptions.cell (stub host.other).uuid pubId <->
        (pair.node host.other).Interested pub.channelName subId

theorem Aligned.agree {pair : NodePair} (aligned : Aligned stub pubChannel subChannel pair)
    (host : Side) : pair.SubscriptionsAgree stub host := by
  intro acquainted delivered pubId pub found subId
  have channel := (aligned.fixed host).pubs pubId pub found
  have recorded : pair.WillRecord stub host (pubId, subId) <->
      subId ∈ (pair.node host).subscriptions.cell (stub host.other).uuid pubId := by
    rw [WillRecord, delivered]
    exact Iff.rfl
  rw [channel, ← recorded]
  constructor
  · exact aligned.backed host pubId subId
  · intro interested
    have published : pubId ∈ (pair.node host).localPubs :=
      Table.mem_of_getElem? found
    have promised := aligned.complete host.other pubId
    rw [Side.other_other] at promised
    have listed := (aligned.regular.promised_iff acquainted (delivered host.other)).mp
      (promised (acquainted host) published)
    rw [Side.other_other] at listed
    refine aligned.served host pubId subId listed published ?_ interested
    rw [delivered]
    exact List.not_mem_nil

/-- In every orderly run the records are exact whenever nothing is under way. -/
theorem subscriptions_agree_of_run (stub : Side -> NodeStub)
    (pubChannel subChannel : CString -> CString) (events : List PairEvent) (host : Side)
    (orderly : Admits (step stub) (Orderly stub pubChannel subChannel) (init stub) events) :
    SubscriptionsAgree stub (run (step stub) (init stub) events).1 host :=
  (invariant_of_run (Aligned stub pubChannel subChannel)
    (fun _ _ aligned allowed => aligned.step allowed) Aligned.init orderly).agree host

/-! ## Concrete runs -/

/-- The publishers a subscription may be recorded for are those that are
recorded or announced, so there is a finite number of them. -/
private theorem forall_willRecord_iff {pair : NodePair} {host : Side} {subId : CString}
    {property : CString -> Prop} :
    (forall pubId, pubId ∈ ((pair.node host).subscriptions.row (stub host.other).uuid).keys ++
        (subscriptionUpdates (pair.inbox host)).map (fun update => update.subject.1) ->
      pair.WillRecord stub host (pubId, subId) -> property pubId) <->
      forall pubId, pair.WillRecord stub host (pubId, subId) -> property pubId := by
  constructor
  · intro listed pubId recorded
    refine listed pubId (List.mem_append.mpr ?_) recorded
    rcases present_or_add_of_replay recorded with old | announced
    · exact Or.inl (ExtTreeMap.mem_keys.mpr (Table.mem_row_of_mem_cell old))
    · exact Or.inr (List.mem_map.mpr ⟨_, announced, rfl⟩)
  · intro all pubId _
    exact all pubId

instance (stub : Side -> NodeStub) (pubChannel subChannel : CString -> CString) (pair : NodePair) :
    (event : PairEvent) -> Decidable (Orderly stub pubChannel subChannel pair event)
  | .addPublisher _ pub => inferInstanceAs (Decidable (pub.channelName = pubChannel pub.uuid))
  | .addSubscriber _ sub => inferInstanceAs (Decidable (sub.channelName = subChannel sub.uuid))
  | .removeSubscriber side sub =>
      have (pubId : CString) : Decidable (pair.WillRecord stub side.other (pubId, sub.uuid)) :=
        replay.decidable _ _ _
      decidable_of_iff _ forall_willRecord_iff
  | .deliver side =>
      inferInstanceAs (Decidable (forall message, message ∈ (pair.inbox side).head? -> _))
  | .discover _ | .removePublisher _ _ => inferInstanceAs (Decidable True)

/-- A subscriber leaves and a publisher is removed, in this order. -/
theorem subscriptions_agree_of_run_leaving :
    let channel : CString := ⟨[102], by decide⟩
    let pub := examplePublisher 99 (by decide) channel
    let sub := exampleSubscriber 100 (by decide) channel
    let events : List PairEvent :=
      [.discover .a, .discover .b, .addPublisher .a pub, .addSubscriber .b sub, .deliver .b,
        .deliver .a, .removeSubscriber .b sub, .deliver .a, .removePublisher .a pub, .deliver .b,
        .addPublisher .a pub, .deliver .b]
    Admits (step exampleStubs) (Orderly exampleStubs (fun _ => channel) (fun _ => channel))
        (init exampleStubs) events ∧
      SubscriptionsAgree exampleStubs (run (step exampleStubs) (init exampleStubs) events).1 .a := by
  refine ⟨by decide +kernel, subscriptions_agree_of_run _ (fun _ => ⟨[102], by decide⟩)
    (fun _ => ⟨[102], by decide⟩) _ _ ?_⟩
  decide +kernel

/-- A publisher is removed; its subscriber leaves before it returns, and is
still recorded afterwards. -/
theorem subscriptions_disagree_after_return :
    let channel : CString := ⟨[102], by decide⟩
    let pub := examplePublisher 99 (by decide) channel
    let sub := exampleSubscriber 100 (by decide) channel
    let events : List PairEvent :=
      [.discover .a, .discover .b, .addPublisher .a pub, .addSubscriber .b sub, .deliver .b,
        .deliver .a, .removePublisher .a pub, .deliver .b, .removeSubscriber .b sub,
        .addPublisher .a pub, .deliver .b]
    ¬ SubscriptionsAgree exampleStubs (run (step exampleStubs) (init exampleStubs) events).1 .a := by
  intro channel pub sub events agree
  have acquainted : (run (step exampleStubs) (init exampleStubs) events).1.Acquainted exampleStubs := by
    decide +kernel
  have delivered : forall side, (run (step exampleStubs) (init exampleStubs) events).1.inbox side = [] := by
    intro side
    cases side <;> decide +kernel
  have found : ((run (step exampleStubs) (init exampleStubs) events).1.node .a).localPubs[pub.uuid]? =
      some pub := by
    decide +kernel
  rcases (agree acquainted delivered pub.uuid pub found sub.uuid).mp (by decide +kernel) with
    ⟨other, member, _⟩
  have gone : ((run (step exampleStubs) (init exampleStubs) events).1.node (Side.other .a)).localSubs = ∅ := by
    decide +kernel
  rw [gone] at member
  exact ExtTreeSet.not_mem_empty member

end NodePair
end Connection
end Umundo
