import Mathlib.Data.List.Perm.Basic
import Mathlib.Logic.Function.Basic
import Umundo.Connection.NodePair
import Umundo.Connection.PublisherCalls
import Umundo.Connection.Standing

namespace Umundo
namespace Connection

open Foundation Std

/-!
# Subscribers that come and go

A publisher stays at node `a`.  Node `b` adds and removes subscribers on the
publisher's channel, in any order and any number of times.  The SUBSCRIBE and
UNSUBSCRIBE messages travel to node `a`; a subscriber that is told about the
publisher connects its socket to it, and the new connection sends the names
the socket subscribes to.  Messages and frames may be delivered arbitrarily
late, and frames of different subscribers in any order.

A subscriber remembers the addresses it has connected to and never forgets
them, so a subscriber that returns sends no second frame.
-/

namespace ZeroMQSubscriber

/-- Connect to a publisher, unless there is a connection already.  Returns the
connections and the addresses `zmq_connect` was called with. -/
def added (connections : Keys CString) (pub : PublisherStub) : Keys CString × List CString :=
  if pub.address ∈ connections then (connections, [])
  else (connections.insert pub.address, [pub.address])

/-- The connection is kept. -/
def removed (connections : Keys CString) (_pub : PublisherStub) : Keys CString := connections

/-- What a socket sends on a new connection: the channel name and the uuid of
its subscriber, each as a subscription. -/
def subscriptions (sub : Subscriber) : List Bytes :=
  [1 :: sub.channelName.bytes, 1 :: sub.uuid.bytes]

end ZeroMQSubscriber

/-- A call on a subscriber, and the frames that reach the given address.  The
connections of the subscribers are indexed by their uuids. -/
def connectStep (address : CString) (connections : CString -> Keys CString) :
    Effect -> (CString -> Keys CString) × List Bytes
  | .subscriberAdded sub pub =>
      let outcome := ZeroMQSubscriber.added (connections sub.uuid) pub
      (Function.update connections sub.uuid outcome.1,
        outcome.2.flatMap fun target =>
          if target = address then ZeroMQSubscriber.subscriptions sub else [])
  | .subscriberRemoved sub pub =>
      (Function.update connections sub.uuid (ZeroMQSubscriber.removed (connections sub.uuid) pub), [])
  | .send _ _ _ => (connections, [])
  | .close _ => (connections, [])
  | .addedSubscriber _ _ _ => (connections, [])
  | .removedSubscriber _ _ _ => (connections, [])

/-- Two nodes, a publisher of the first, the connections of the subscribers of
the second, and the frames on their way to the publisher. -/
structure Churn where
  pair : NodePair
  publisher : ZeroMQPublisher
  connections : CString -> Keys CString
  frames : List Bytes

inductive ChurnEvent where
  | addSubscriber (sub : Subscriber)
  | removeSubscriber (sub : Subscriber)
  | deliver (side : Side)
  /-- one of the frames under way arrives -/
  | frame (index : Nat)

namespace Churn

section

variable (stub : Side -> NodeStub) (pub : PublisherInfo)

/-- The publisher, as node `b` knows it. -/
def remote : PublisherStub := (PublisherStub.ofInfo pub).setEndPoint (stub .a)

/-- Node `b` acts, and its subscribers hear of it. -/
def act (churn : Churn) (event : PairEvent) : Churn :=
  let outcome := churn.pair.step stub event
  let heard := run (connectStep (remote stub pub).address) churn.connections outcome.2
  { churn with
    pair := outcome.1
    connections := heard.1
    frames := churn.frames ++ heard.2 }

def step (churn : Churn) : ChurnEvent -> Churn × List PublisherEffect
  | .addSubscriber sub => (churn.act stub pub (.addSubscriber .b sub), [])
  | .removeSubscriber sub => (churn.act stub pub (.removeSubscriber .b sub), [])
  | .deliver .b => (churn.act stub pub (.deliver .b), [])
  | .deliver .a =>
      let outcome := churn.pair.step stub (.deliver .a)
      let told := run ZeroMQPublisher.step churn.publisher (callsTo pub.uuid outcome.2)
      ({ churn with
          pair := outcome.1
          publisher := told.1 },
        told.2)
  | .frame index =>
      match churn.frames[index]? with
      | none => (churn, [])
      | some data =>
          ({ churn with
              publisher := (churn.publisher.step (.frame data)).1
              frames := churn.frames.eraseIdx index },
            (churn.publisher.step (.frame data)).2)

/-- The notice a message is about a subscription. -/
def notice (pubId subId : CString) : ControlMessage -> Option Bool
  | .subscribe info other => if info.uuid = pubId ∧ other = subId then some true else none
  | .unsubscribe info other => if info.uuid = pubId ∧ other = subId then some false else none
  | .pubAdded _ => none
  | .pubRemoved _ => none

/-- Where a subscriber stands. -/
def standing (churn : Churn) (subId : CString) : Standing where
  listed := Exists fun sub : Subscriber => sub ∈ (churn.pair.node .b).localSubs ∧ sub.uuid = subId
  notices := (churn.pair.inbox .a).filterMap (notice pub.uuid subId)
  recorded := (churn.pair.node .a).Records pub.uuid subId (stub .b).uuid
  connected := (remote stub pub).address ∈ churn.connections subId
  flying := churn.frames.countP (fun data => subscribedBy data = some subId)
  slot := churn.publisher.slot subId

/-- The nodes know each other and the publisher. -/
structure Introduced (churn : Churn) : Prop where
  consistent : forall side, (churn.pair.node side).Consistent
  acquainted : churn.pair.Acquainted stub
  published : pub.uuid ∈ (churn.pair.node .a).localPubs
  known : ((churn.pair.node .b).remotePubs.row (stub .a).uuid)[pub.uuid]? = some (remote stub pub)

/-- The nodes know each other and the publisher, and there has been no
subscriber yet. -/
structure Calm (churn : Churn) : Prop extends Introduced stub pub churn where
  quiet : forall side, churn.pair.inbox side = []
  unlisted : (churn.pair.node .b).localSubs = ∅
  unrecorded : (churn.pair.node .a).subscriptions.row (stub .b).uuid = ∅
  unsubscribed : forall subId, churn.publisher.slot subId = ⟨none, false, none⟩
  unconnected : forall subId, (remote stub pub).address ∉ churn.connections subId
  landed : churn.frames = []

/-- A removal is only delivered if no frame of the subscriber is under way. -/
def Follows (churn : Churn) : ControlMessage -> Prop
  | .unsubscribe info subId =>
      info.uuid = pub.uuid -> churn.frames.countP (fun data => subscribedBy data = some subId) = 0
  | .subscribe _ _ => True
  | .pubAdded _ => True
  | .pubRemoved _ => True

/-- The subscribers are on the channel of the publisher.  A subscriber that
has been removed is not added again.  Its removal is not delivered before its
frame.  No subscriber has the name of the channel for its uuid. -/
def Orderly (churn : Churn) : ChurnEvent -> Prop
  | .addSubscriber sub =>
      sub.channelName = pub.channelName ∧ sub.uuid ≠ pub.channelName ∧
        (sub ∈ (churn.pair.node .b).localSubs ∨
          (remote stub pub).address ∉ churn.connections sub.uuid)
  | .removeSubscriber sub => sub.channelName = pub.channelName
  | .deliver .a =>
      forall message, message ∈ (churn.pair.inbox .a).head? -> churn.Follows pub message
  | .deliver .b => True
  | .frame _ => True

/-- Nothing is under way. -/
def Quiet (churn : Churn) : Prop :=
  (forall side, churn.pair.inbox side = []) ∧ churn.frames = []

end

/-! ## Connections and frames -/

section

variable {address : CString} {connections : CString -> Keys CString}

/-- Only news of a publisher makes a subscriber connect. -/
private theorem connectStep_of_silent {effect : Effect}
    (silent : forall sub pub, effect ≠ .subscriberAdded sub pub) :
    connectStep address connections effect = (connections, []) := by
  cases effect with
  | subscriberAdded sub pub => exact absurd rfl (silent sub pub)
  | subscriberRemoved sub pub =>
      simp only [connectStep, ZeroMQSubscriber.removed, Function.update_eq_self]
  | _ => rfl

private theorem run_connectStep_of_silent {effects : List Effect}
    (silent : forall sub pub, .subscriberAdded sub pub ∉ effects) :
    run (connectStep address) connections effects = (connections, []) := by
  induction effects with
  | nil => rfl
  | cons effect rest ih =>
      have unchanged : connectStep address connections effect = (connections, []) :=
        connectStep_of_silent (fun sub pub same => silent sub pub (same ▸ List.mem_cons_self))
      rw [run, unchanged, ih (fun sub pub member => silent sub pub (List.mem_cons_of_mem _ member))]
      rfl

/-- One subscriber is told about a publisher. -/
private theorem connectStep_subscriberAdded (address : CString) (connections : CString -> Keys CString)
    (sub : Subscriber) (pub : PublisherStub) :
    (forall other, other ≠ sub.uuid ->
        (connectStep address connections (.subscriberAdded sub pub)).1 other = connections other) ∧
      (address ∈ (connectStep address connections (.subscriberAdded sub pub)).1 sub.uuid <->
        pub.address = address ∨ address ∈ connections sub.uuid) ∧
      (connectStep address connections (.subscriberAdded sub pub)).2 =
        if pub.address = address ∧ address ∉ connections sub.uuid then
          ZeroMQSubscriber.subscriptions sub
        else [] := by
  simp only [connectStep, ZeroMQSubscriber.added, Function.update_self]
  refine ⟨fun other different => Function.update_of_ne different _ _, ?_⟩
  by_cases present : pub.address ∈ connections sub.uuid
  · rw [if_pos present]
    by_cases same : pub.address = address
    · subst same
      simp [present]
    · simp [same]
  · rw [if_neg present]
    by_cases same : pub.address = address
    · subst same
      simp [present]
    · simp [same]

/-- One subscriber is told about some publishers, one of them at the address:
it is connected in the end, and has sent its frames if it was not before. -/
private theorem run_connectStep (address : CString) (connections : CString -> Keys CString)
    {sub : Subscriber} {effects : List Effect}
    (told : forall other pub, .subscriberAdded other pub ∈ effects -> other = sub)
    (reached : address ∈ connections sub.uuid ∨
      Exists fun pub : PublisherStub => .subscriberAdded sub pub ∈ effects ∧ pub.address = address) :
    (forall other, other ≠ sub.uuid ->
        (run (connectStep address) connections effects).1 other = connections other) ∧
      address ∈ (run (connectStep address) connections effects).1 sub.uuid ∧
      (run (connectStep address) connections effects).2 =
        if address ∈ connections sub.uuid then [] else ZeroMQSubscriber.subscriptions sub := by
  induction effects generalizing connections with
  | nil =>
      rcases reached with connected | ⟨_, member, _⟩
      · exact ⟨fun _ _ => rfl, connected, (if_pos connected).symm⟩
      · cases member
  | cons effect rest ih =>
      have later : forall other pub, .subscriberAdded other pub ∈ rest -> other = sub :=
        fun other pub member => told other pub (List.mem_cons_of_mem _ member)
      by_cases news : Exists fun pub : PublisherStub => effect = .subscriberAdded sub pub
      · rcases news with ⟨pub, rfl⟩
        rcases connectStep_subscriberAdded address connections sub pub with ⟨others, inserted, sent⟩
        have connected : address ∈ (connectStep address connections (.subscriberAdded sub pub)).1 sub.uuid ∨
            Exists fun pub : PublisherStub => .subscriberAdded sub pub ∈ rest ∧ pub.address = address := by
          rcases reached with earlier | ⟨other, member, same⟩
          · exact .inl (inserted.mpr (.inr earlier))
          · rcases List.mem_cons.mp member with head | tail
            · cases head
              exact .inl (inserted.mpr (.inl same))
            · exact .inr ⟨other, tail, same⟩
        rcases ih _ later connected with ⟨unchanged, final, more⟩
        refine ⟨fun other different => (unchanged other different).trans (others other different),
          final, ?_⟩
        rw [run, sent, more]
        by_cases earlier : address ∈ connections sub.uuid
        · simp [earlier, inserted]
        · by_cases same : pub.address = address
          · simp [earlier, inserted, same]
          · simp [earlier, inserted, same]
      · have silent : connectStep address connections effect = (connections, []) := by
          apply connectStep_of_silent
          rintro other pub rfl
          exact news ⟨pub, by rw [told other pub List.mem_cons_self]⟩
        rw [run, silent]
        refine ih _ later (reached.imp_right ?_)
        rintro ⟨pub, member, same⟩
        refine ⟨pub, (List.mem_cons.mp member).resolve_left ?_, same⟩
        rintro rfl
        exact news ⟨pub, rfl⟩

end

/-- A frame made from a text of the length of a uuid subscribes to it. -/
private theorem subscribedBy_cons (text : CString) :
    subscribedBy (1 :: text.bytes) = if text.length = 36 then some text else none := by
  by_cases length : text.length = 36
  · have fits : (1 :: text.bytes).length = 37 ∧ (1 :: text.bytes).head? = some 1 :=
      ⟨congrArg Nat.succ length, rfl⟩
    rw [subscribedBy, if_pos fits, if_pos length, List.tail_cons, CString.ofBytes_bytes]
  · rw [subscribedBy, if_neg (fun fits => length (Nat.succ.inj fits.1)), if_neg length]

/-- A connection carries one frame for its subscriber.  The other one could
only be mistaken for the frame of a subscriber named like the channel. -/
private theorem countP_subscriptions {sub : Subscriber} {subId : CString}
    (other : subId ≠ sub.channelName) :
    (ZeroMQSubscriber.subscriptions sub).countP (fun data => subscribedBy data = some subId) =
      if subId = sub.uuid then 1 else 0 := by
  have channel : ¬ subscribedBy (1 :: sub.channelName.bytes) = some subId := by
    rw [subscribedBy_cons]
    split
    · exact fun same => other (Option.some.inj same).symm
    · nofun
  have own : subscribedBy (1 :: sub.uuid.bytes) = some sub.uuid := by
    rw [subscribedBy_cons, if_pos sub.uuid_length]
  rw [ZeroMQSubscriber.subscriptions, List.countP_cons_of_neg (by simpa using channel),
    List.countP_cons, own]
  by_cases same : subId = sub.uuid
  · simp [same]
  · simp [same, Ne.symm same]

/-- Notices of one kind only, and at least one of them. -/
private theorem notices_eq_replicate {pubId subId : CString} {messages : List ControlMessage}
    {kind : Bool}
    (only : forall message, message ∈ messages -> forall other,
      notice pubId subId message = some other -> other = kind)
    (present : Exists fun message => message ∈ messages ∧ notice pubId subId message = some kind) :
    Exists fun more => messages.filterMap (notice pubId subId) = List.replicate (more + 1) kind := by
  have same := List.eq_replicate_of_mem (l := messages.filterMap (notice pubId subId)) (a := kind) (by
    intro other member
    rcases List.mem_filterMap.mp member with ⟨message, listed, noticed⟩
    exact only message listed other noticed)
  rcases present with ⟨message, listed, noticed⟩
  have member : kind ∈ messages.filterMap (notice pubId subId) :=
    List.mem_filterMap.mpr ⟨message, listed, noticed⟩
  refine ⟨(messages.filterMap (notice pubId subId)).length - 1, ?_⟩
  rw [Nat.sub_add_cancel (List.length_pos_of_mem member)]
  exact same

/-! ## The invariant -/

/-- Every subscriber is somewhere on its way. -/
structure Kept (stub : Side -> NodeStub) (pub : PublisherInfo) (churn : Churn) : Prop extends
    Introduced stub pub churn where
  quiet : churn.pair.inbox .b = []
  subscriptions : forall message, message ∈ churn.pair.inbox .a ->
    Exists fun info : PublisherInfo => Exists fun subId : CString =>
      message = .subscribe info subId ∨ message = .unsubscribe info subId
  channel : forall sub : Subscriber, sub ∈ (churn.pair.node .b).localSubs ->
    sub.channelName = pub.channelName
  stranger : (churn.standing stub pub pub.channelName).Stranger
  phases : forall subId, subId ≠ pub.channelName -> (churn.standing stub pub subId).Phase

section

variable {stub : Side -> NodeStub} {pub : PublisherInfo} {churn : Churn}

theorem Calm.kept (calm : churn.Calm stub pub) : churn.Kept stub pub := by
  have unlisted : forall subId, ¬ (churn.standing stub pub subId).listed := by
    rintro subId ⟨sub, member, _⟩
    rw [calm.unlisted] at member
    exact ExtTreeSet.not_mem_empty member
  have unnoticed : forall subId, (churn.standing stub pub subId).notices = [] := by
    intro subId
    simp only [standing, calm.quiet .a, List.filterMap_nil]
  have unrecorded : forall subId, ¬ (churn.standing stub pub subId).recorded := by
    intro subId recorded
    have member := Table.mem_row_of_mem_cell recorded
    rw [calm.unrecorded] at member
    exact ExtTreeMap.not_mem_empty member
  have slot : forall subId, (churn.standing stub pub subId).slot = ⟨none, false, none⟩ :=
    calm.unsubscribed
  refine { calm with
    quiet := calm.quiet .b
    subscriptions := ?_
    channel := ?_
    stranger := ⟨unlisted _, unnoticed _, unrecorded _, by rw [slot], by rw [slot]⟩
    phases := ?_ }
  · intro message member
    rw [calm.quiet .a] at member
    cases member
  · intro sub member
    rw [calm.unlisted] at member
    exact absurd member ExtTreeSet.not_mem_empty
  · intro subId _
    refine .fresh (unlisted _) (unrecorded _) (calm.unconnected _) (unnoticed _) ?_ (slot _)
    simp only [standing, calm.landed, List.countP_nil]

/-! ## Node `b` adds and removes subscribers -/

/-- An action of node `b` that concerns its own subscribers only. -/
private theorem Introduced.act (introduced : churn.Introduced stub pub) {event : PairEvent}
    {nodeEvent : NodeEvent}
    (acts : churn.pair.step stub event = churn.pair.act stub .b (churn.pair.inbox .b) nodeEvent)
    (nodes : ((churn.pair.node .b).step nodeEvent).1.nodes = (churn.pair.node .b).nodes)
    (pubs : ((churn.pair.node .b).step nodeEvent).1.remotePubs = (churn.pair.node .b).remotePubs) :
    (churn.act stub pub event).Introduced stub pub := by
  have first : (churn.act stub pub event).pair.node .a = churn.pair.node .a := by
    simp only [Churn.act, acts]
    exact NodePair.act_node_other churn.pair .b _ _
  have second : (churn.act stub pub event).pair.node .b = ((churn.pair.node .b).step nodeEvent).1 := by
    simp only [Churn.act, acts]
    exact NodePair.act_node_self churn.pair .b _ _
  refine ⟨?_, ?_, ?_, ?_⟩
  · intro side
    cases side with
    | a => exact first ▸ introduced.consistent .a
    | b => exact second ▸ (introduced.consistent .b).step nodeEvent
  · intro side
    cases side with
    | a => exact first ▸ introduced.acquainted .a
    | b =>
        rw [second, nodes]
        exact introduced.acquainted .b
  · exact first ▸ introduced.published
  · rw [second, pubs]
    exact introduced.known

/-- What node `b` sends when it adds a subscriber. -/
private theorem mem_messagesTo_addSubscriber (introduced : churn.Introduced stub pub)
    {sub : Subscriber} {message : ControlMessage} :
    message ∈ messagesTo (stub .a).uuid ((churn.pair.node .b).step (.addSubscriber sub)).2 <->
      Exists fun uuid : CString => Exists fun found : PublisherStub =>
        ((churn.pair.node .b).remotePubs.row (stub .a).uuid)[uuid]? = some found ∧
          found.channelName = sub.channelName ∧ message = .subscribe found.info sub.uuid := by
  rw [(introduced.consistent .b).mem_messagesTo_step]
  constructor
  · intro sends
    generalize (stub .a).uuid = target at sends ⊢
    cases sends with
    | subscribed _ _ uuid found listed same => exact ⟨uuid, found, listed, same, rfl⟩
  · rintro ⟨uuid, found, listed, same, rfl⟩
    exact .subscribed sub _ uuid found listed same

private theorem notices_addSubscriber (introduced : churn.Introduced stub pub) {sub : Subscriber}
    (channel : sub.channelName = pub.channelName) :
    Exists fun more =>
      (messagesTo (stub .a).uuid ((churn.pair.node .b).step (.addSubscriber sub)).2).filterMap
        (notice pub.uuid sub.uuid) = List.replicate (more + 1) true := by
  refine notices_eq_replicate ?_ ⟨.subscribe (remote stub pub).info sub.uuid, ?_, if_pos ⟨rfl, rfl⟩⟩
  · intro message member kind noticed
    rcases (mem_messagesTo_addSubscriber introduced).mp member with ⟨_, found, _, _, rfl⟩
    simp only [notice] at noticed
    split at noticed
    · exact (Option.some.inj noticed).symm
    · cases noticed
  · exact (mem_messagesTo_addSubscriber introduced).mpr
      ⟨pub.uuid, remote stub pub, introduced.known, channel.symm, rfl⟩

private theorem notices_act (subId : CString) {event : PairEvent} {nodeEvent : NodeEvent}
    (acts : churn.pair.step stub event = churn.pair.act stub .b (churn.pair.inbox .b) nodeEvent) :
    ((churn.act stub pub event).standing stub pub subId).notices =
      (churn.standing stub pub subId).notices ++
        (messagesTo (stub .a).uuid ((churn.pair.node .b).step nodeEvent).2).filterMap
          (notice pub.uuid subId) := by
  have inbox : (churn.act stub pub event).pair.inbox .a = churn.pair.inbox .a ++
      messagesTo (stub .a).uuid ((churn.pair.node .b).step nodeEvent).2 := by
    simp only [Churn.act, acts]
    exact NodePair.act_inbox_other churn.pair .b _ _
  simp only [standing, inbox, List.filterMap_append]

private theorem notices_act_of_silent {subId : CString} {event : PairEvent} {nodeEvent : NodeEvent}
    (acts : churn.pair.step stub event = churn.pair.act stub .b (churn.pair.inbox .b) nodeEvent)
    (silent : forall message,
      message ∈ messagesTo (stub .a).uuid ((churn.pair.node .b).step nodeEvent).2 ->
        notice pub.uuid subId message = none) :
    ((churn.act stub pub event).standing stub pub subId).notices =
      (churn.standing stub pub subId).notices := by
  rw [notices_act subId acts, List.filterMap_eq_nil_iff.mpr silent, List.append_nil]

private theorem recorded_act (subId : CString) {event : PairEvent} {nodeEvent : NodeEvent}
    (acts : churn.pair.step stub event = churn.pair.act stub .b (churn.pair.inbox .b) nodeEvent) :
    ((churn.act stub pub event).standing stub pub subId).recorded <->
      (churn.standing stub pub subId).recorded := by
  have node : (churn.act stub pub event).pair.node .a = churn.pair.node .a := by
    simp only [Churn.act, acts]
    exact NodePair.act_node_other churn.pair .b _ _
  simp only [standing, node]

/-- The news of the publisher reaches the subscriber that is added. -/
private theorem run_connectStep_addSubscriber (introduced : churn.Introduced stub pub)
    {sub : Subscriber} (channel : sub.channelName = pub.channelName) :
    (forall other, other ≠ sub.uuid ->
        (churn.act stub pub (.addSubscriber .b sub)).connections other = churn.connections other) ∧
      (remote stub pub).address ∈
        (churn.act stub pub (.addSubscriber .b sub)).connections sub.uuid ∧
      (churn.act stub pub (.addSubscriber .b sub)).frames =
        churn.frames ++ if (remote stub pub).address ∈ churn.connections sub.uuid then []
          else ZeroMQSubscriber.subscriptions sub := by
  have told : forall other found,
      .subscriberAdded other found ∈ ((churn.pair.node .b).step (.addSubscriber sub)).2 ->
        other = sub := by
    intro other found member
    simp only [ZeroMQNode.step, ZeroMQNode.addSubscriber, List.mem_flatMap, List.mem_cons,
      List.not_mem_nil, or_false, Effect.subscriberAdded.injEq, reduceCtorEq] at member
    rcases member with ⟨_, _, same, _⟩
    exact same
  have reached : .subscriberAdded sub (remote stub pub) ∈
      ((churn.pair.node .b).step (.addSubscriber sub)).2 := by
    refine List.mem_flatMap.mpr ⟨((churn.pair.node .b).sockets.getD (stub .a).uuid none,
      remote stub pub), ?_, List.mem_cons_self⟩
    exact ZeroMQNode.mem_publishersOn.mpr
      ⟨(stub .a).uuid, pub.uuid, introduced.known, channel.symm, rfl⟩
  rcases run_connectStep (remote stub pub).address churn.connections told
    (.inr ⟨remote stub pub, reached, rfl⟩) with ⟨others, connected, frames⟩
  exact ⟨others, connected, congrArg (churn.frames ++ ·) frames⟩

/-- What node `b` sends when it removes a subscriber. -/
private theorem mem_messagesTo_removeSubscriber (introduced : churn.Introduced stub pub)
    {sub : Subscriber} {message : ControlMessage} :
    message ∈ messagesTo (stub .a).uuid ((churn.pair.node .b).step (.removeSubscriber sub)).2 <->
      sub ∈ (churn.pair.node .b).localSubs ∧
        Exists fun uuid : CString => Exists fun found : PublisherStub =>
          ((churn.pair.node .b).remotePubs.row (stub .a).uuid)[uuid]? = some found ∧
            found.channelName = sub.channelName ∧ message = .unsubscribe found.info sub.uuid := by
  rw [(introduced.consistent .b).mem_messagesTo_step]
  constructor
  · intro sends
    generalize (stub .a).uuid = target at sends ⊢
    cases sends with
    | unsubscribed _ _ uuid found present listed same => exact ⟨present, uuid, found, listed, same, rfl⟩
  · rintro ⟨present, uuid, found, listed, same, rfl⟩
    exact .unsubscribed sub _ uuid found present listed same

private theorem notices_removeSubscriber (introduced : churn.Introduced stub pub) {sub : Subscriber}
    (present : sub ∈ (churn.pair.node .b).localSubs) (channel : sub.channelName = pub.channelName) :
    Exists fun more =>
      (messagesTo (stub .a).uuid ((churn.pair.node .b).step (.removeSubscriber sub)).2).filterMap
        (notice pub.uuid sub.uuid) = List.replicate (more + 1) false := by
  refine notices_eq_replicate ?_ ⟨.unsubscribe (remote stub pub).info sub.uuid, ?_, if_pos ⟨rfl, rfl⟩⟩
  · intro message member kind noticed
    rcases (mem_messagesTo_removeSubscriber introduced).mp member with ⟨_, _, found, _, _, rfl⟩
    simp only [notice] at noticed
    split at noticed
    · exact (Option.some.inj noticed).symm
    · cases noticed
  · exact (mem_messagesTo_removeSubscriber introduced).mpr
      ⟨present, pub.uuid, remote stub pub, introduced.known, channel.symm, rfl⟩

/-- The removal of a subscriber opens no connection. -/
private theorem act_removeSubscriber (churn : Churn) (stub : Side -> NodeStub) (pub : PublisherInfo)
    (sub : Subscriber) :
    (churn.act stub pub (.removeSubscriber .b sub)).connections = churn.connections ∧
      (churn.act stub pub (.removeSubscriber .b sub)).frames = churn.frames := by
  have silent : run (connectStep (remote stub pub).address) churn.connections
      ((churn.pair.node .b).step (.removeSubscriber sub)).2 = (churn.connections, []) := by
    apply run_connectStep_of_silent
    intro other found member
    simp only [ZeroMQNode.step, ZeroMQNode.removeSubscriber] at member
    split at member
    · cases member
    · simp at member
  constructor
  · exact congrArg Prod.fst silent
  · exact (congrArg (churn.frames ++ ·) (congrArg Prod.snd silent)).trans (List.append_nil _)

/-- On one channel, a subscriber is known by its uuid. -/
private theorem Kept.eq_of_uuid (kept : churn.Kept stub pub) {sub other : Subscriber}
    (channel : sub.channelName = pub.channelName) (member : other ∈ (churn.pair.node .b).localSubs)
    (same : other.uuid = sub.uuid) : other = sub := by
  have channels := (kept.channel other member).trans channel.symm
  cases other
  cases sub
  cases same
  cases channels
  rfl

private theorem mem_localSubs_removeSubscriber (introduced : churn.Introduced stub pub)
    (sub other : Subscriber) :
    other ∈ ((churn.act stub pub (.removeSubscriber .b sub)).pair.node .b).localSubs <->
      sub ≠ other ∧ other ∈ (churn.pair.node .b).localSubs := by
  have equal : (churn.act stub pub (.removeSubscriber .b sub)).pair.node .b =
    ((churn.pair.node .b).removeSubscriber sub).1 := rfl
  rw [equal, (introduced.consistent .b).removeSubscriber_eq]
  simp only [ExtTreeSet.mem_erase, ne_eq, LawfulEqCmp.compare_eq_iff_eq]

/-- The removal of a subscriber concerns nobody else, and nobody at all if it
was not there. -/
private theorem unmoved_removeSubscriber (introduced : churn.Introduced stub pub) {sub : Subscriber}
    {subId : CString} (other : sub ∉ (churn.pair.node .b).localSubs ∨ subId ≠ sub.uuid) :
    Standing.Unmoved (churn.standing stub pub subId)
      ((churn.act stub pub (.removeSubscriber .b sub)).standing stub pub subId) := by
  refine ⟨?_, ?_, recorded_act subId rfl, ?_, rfl⟩
  · refine exists_congr (fun found => ?_)
    rw [mem_localSubs_removeSubscriber introduced, and_assoc]
    refine and_iff_right_of_imp ?_
    rintro ⟨member, named⟩ same
    subst same
    exact other.elim (fun absent => absent member) (fun different => different named.symm)
  · apply notices_act_of_silent rfl
    intro message member
    rcases (mem_messagesTo_removeSubscriber introduced).mp member with ⟨present, _, _, _, _, rfl⟩
    exact if_neg (fun same => other.elim (fun absent => absent present)
      (fun different => different same.2.symm))
  · simp only [standing, (churn.act_removeSubscriber stub pub sub).1]

theorem Kept.removeSubscriber (kept : churn.Kept stub pub) {sub : Subscriber}
    (channel : sub.channelName = pub.channelName) :
    (churn.act stub pub (.removeSubscriber .b sub)).Kept stub pub := by
  have node : ((churn.pair.node .b).step (.removeSubscriber sub)).1 = _ :=
    (kept.consistent .b).removeSubscriber_eq sub
  have localSubs := mem_localSubs_removeSubscriber kept.toIntroduced sub
  rcases churn.act_removeSubscriber stub pub sub with ⟨connections, frames⟩
  have flying : forall subId,
      ((churn.act stub pub (.removeSubscriber .b sub)).standing stub pub subId).flying =
        (churn.standing stub pub subId).flying := by
    intro subId
    simp only [standing, frames]
  have nodes : ((churn.pair.node .b).step (.removeSubscriber sub)).1.nodes =
    (churn.pair.node .b).nodes := by rw [node]
  have pubs : ((churn.pair.node .b).step (.removeSubscriber sub)).1.remotePubs =
    (churn.pair.node .b).remotePubs := by rw [node]
  refine { kept.toIntroduced.act rfl nodes pubs with
    quiet := kept.quiet
    subscriptions := ?_
    channel := fun other member => kept.channel other ((localSubs other).mp member).2
    stranger := ?_
    phases := ?_ }
  · intro message member
    rcases List.mem_append.mp member with earlier | sent
    · exact kept.subscriptions message earlier
    · rcases (mem_messagesTo_removeSubscriber kept.toIntroduced).mp sent with ⟨_, _, found, _, _, same⟩
      exact ⟨found.info, sub.uuid, .inr same⟩
  · refine kept.stranger.congr (unmoved_removeSubscriber kept.toIntroduced ?_)
    by_contra listed
    rcases not_or.mp listed with ⟨present, named⟩
    exact kept.stranger.unlisted ⟨sub, not_not.mp present, (not_not.mp named).symm⟩
  · intro subId other
    by_cases moved : sub ∈ (churn.pair.node .b).localSubs ∧ subId = sub.uuid
    · rcases moved with ⟨present, rfl⟩
      refine (kept.phases sub.uuid other).removeSubscriber ⟨sub, present, rfl⟩ ?_ ?_
        (recorded_act _ rfl) ?_ (flying _) rfl
      · rintro ⟨found, member, same⟩
        rcases (localSubs found).mp member with ⟨different, earlier⟩
        exact different (kept.eq_of_uuid channel earlier same).symm
      · rcases notices_removeSubscriber kept.toIntroduced present channel with ⟨more, same⟩
        exact ⟨more, (notices_act _ rfl).trans (congrArg _ same)⟩
      · simp only [standing, connections]
    · exact (kept.phases subId other).congr
        (unmoved_removeSubscriber kept.toIntroduced (not_and_or.mp moved)) (flying subId)

private theorem listed_addSubscriber (sub : Subscriber) (subId : CString) :
    ((churn.act stub pub (.addSubscriber .b sub)).standing stub pub subId).listed <->
      sub.uuid = subId ∨ (churn.standing stub pub subId).listed := by
  simp [standing, Churn.act, NodePair.step, NodePair.act, ZeroMQNode.step, ZeroMQNode.addSubscriber,
    or_and_right, exists_or]

/-- A new subscriber concerns nobody else. -/
private theorem unmoved_addSubscriber (introduced : churn.Introduced stub pub) {sub : Subscriber}
    (channel : sub.channelName = pub.channelName) {subId : CString} (other : subId ≠ sub.uuid) :
    Standing.Unmoved (churn.standing stub pub subId)
      ((churn.act stub pub (.addSubscriber .b sub)).standing stub pub subId) := by
  refine ⟨?_, ?_, recorded_act subId rfl, ?_, rfl⟩
  · rw [listed_addSubscriber]
    exact or_iff_right (Ne.symm other)
  · apply notices_act_of_silent rfl
    intro message member
    rcases (mem_messagesTo_addSubscriber introduced).mp member with ⟨_, _, _, _, rfl⟩
    exact if_neg (fun same => other same.2.symm)
  · simp only [standing, (run_connectStep_addSubscriber introduced channel).1 subId other]

/-- A new connection puts one frame with the uuid of its subscriber under way. -/
private theorem flying_addSubscriber (introduced : churn.Introduced stub pub) {sub : Subscriber}
    (channel : sub.channelName = pub.channelName) {subId : CString} (other : subId ≠ pub.channelName) :
    ((churn.act stub pub (.addSubscriber .b sub)).standing stub pub subId).flying =
      (churn.standing stub pub subId).flying +
        if subId = sub.uuid ∧ (remote stub pub).address ∉ churn.connections sub.uuid then 1 else 0 := by
  simp only [standing, (run_connectStep_addSubscriber introduced channel).2.2, List.countP_append]
  by_cases linked : (remote stub pub).address ∈ churn.connections sub.uuid
  · simp [linked]
  · rw [if_neg linked, countP_subscriptions (channel ▸ other)]
    simp [linked]

theorem Kept.addSubscriber (kept : churn.Kept stub pub) {sub : Subscriber}
    (orderly : churn.Orderly stub pub (.addSubscriber sub)) :
    (churn.act stub pub (.addSubscriber .b sub)).Kept stub pub := by
  rcases orderly with ⟨channel, unreserved, once⟩
  refine { kept.toIntroduced.act rfl rfl rfl with
    quiet := kept.quiet
    subscriptions := ?_
    channel := ?_
    stranger := kept.stranger.congr
      (unmoved_addSubscriber kept.toIntroduced channel (Ne.symm unreserved))
    phases := ?_ }
  · intro message member
    rcases List.mem_append.mp member with earlier | sent
    · exact kept.subscriptions message earlier
    · rcases (mem_messagesTo_addSubscriber kept.toIntroduced).mp sent with ⟨_, found, _, _, same⟩
      exact ⟨found.info, sub.uuid, .inl same⟩
  · intro other member
    rcases ExtTreeSet.mem_insert.mp member with same | earlier
    · exact LawfulEqCmp.eq_of_compare same ▸ channel
    · exact kept.channel other earlier
  · intro subId other
    by_cases same : subId = sub.uuid
    · subst same
      refine (kept.phases sub.uuid other).addSubscriber (once.imp_left (fun member => ⟨sub, member, rfl⟩))
        ((listed_addSubscriber sub _).mpr (.inl rfl))
        (run_connectStep_addSubscriber kept.toIntroduced channel).2.1 ?_ (recorded_act _ rfl) ?_ ?_ rfl
      · rcases notices_addSubscriber kept.toIntroduced channel with ⟨more, same⟩
        exact ⟨more, (notices_act _ rfl).trans (congrArg _ same)⟩
      · intro apart
        rw [flying_addSubscriber kept.toIntroduced channel other, if_pos ⟨rfl, apart⟩]
      · intro linked
        rw [flying_addSubscriber kept.toIntroduced channel other, if_neg (fun both => both.2 linked)]
        rfl
    · refine (kept.phases subId other).congr
        (unmoved_addSubscriber kept.toIntroduced channel same) ?_
      rw [flying_addSubscriber kept.toIntroduced channel other, if_neg (fun both => same both.1)]
      rfl

end

end Churn
end Connection
end Umundo
