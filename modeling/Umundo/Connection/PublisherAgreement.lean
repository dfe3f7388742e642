import Umundo.Connection.NodePair

namespace Umundo
namespace Connection

open Foundation Std

/-!
# Agreement on publishers

Each of two nodes lists the publishers of the other one.  No publisher is
ever missing from that list for good.  A publisher that was removed may stay
in it, however: its withdrawal is dropped by a node that has not discovered
the sender yet, although the announcement before it was parked.  If no
withdrawal arrives that early, both lists are exact.
-/

namespace ZeroMQNode

/-- While a node is added, all our publishers are announced to it. -/
theorem Consistent.sends_pubAdded_added {node : ZeroMQNode} (consistent : node.Consistent)
    {stub : NodeStub} {remoteId pubId : CString} :
    (Exists fun pub : PublisherInfo => pub.uuid = pubId ∧
        Sends node (.added stub) remoteId (.pubAdded pub)) <->
      stub.uuid ≠ node.uuid ∧ stub.uuid = remoteId ∧ pubId ∈ node.localPubs := by
  constructor
  · rintro ⟨pub, same, sends⟩
    cases sends with
    | listing _ uuid _ other found =>
        have filed := consistent.local_uuid uuid pub found
        subst same
        subst filed
        exact ⟨other, rfl, Table.mem_of_getElem? found⟩
  · rintro ⟨other, same, published⟩
    subst same
    have found := ExtTreeMap.getElem?_eq_some_getElem published
    exact ⟨_, consistent.local_uuid pubId _ found, .listing stub pubId _ other found⟩

end ZeroMQNode

namespace NodePair

variable {stub : Side -> NodeStub}

/-- The publishers a node will have heard of once its inbox is delivered. -/
def Promised (stub : Side -> NodeStub) (pair : NodePair) (guest : Side) (pubId : CString) : Prop :=
  replay ((pair.node guest).Heard (stub guest.other).uuid) (publisherUpdates (pair.inbox guest)) pubId

/-- Once a node is known to the other one, it will have heard of every
publisher there. -/
def Complete (stub : Side -> NodeStub) (pair : NodePair) : Prop :=
  forall guest pubId, (stub guest).uuid ∈ (pair.node guest.other).nodes ->
    pubId ∈ (pair.node guest.other).localPubs -> pair.Promised stub guest pubId

/-- A node will have heard of no other publishers. -/
def Sound (stub : Side -> NodeStub) (pair : NodePair) : Prop :=
  forall guest pubId, pair.Promised stub guest pubId -> pubId ∈ (pair.node guest.other).localPubs

theorem Regular.not_promised {pair : NodePair} (regular : Regular stub pair) {guest : Side}
    (unaware : (stub guest).uuid ∉ (pair.node guest.other).nodes) (pubId : CString) :
    ¬ pair.Promised stub guest pubId := by
  rcases regular.silent guest unaware with ⟨quiet, unheard⟩
  rw [Promised, quiet]
  exact unheard pubId

/-! ## The publishing side acts -/

/-- What is announced changes what the other node will have heard. -/
theorem promised_act_other {pair : NodePair} {actor : Side} {remaining : List ControlMessage}
    {event : NodeEvent} {pubId : CString} :
    (pair.act stub actor remaining event).1.Promised stub actor.other pubId <->
      replay (pair.Promised stub actor.other)
        (publisherUpdates (messagesTo (stub actor.other).uuid ((pair.node actor).step event).2)) pubId := by
  rw [Promised, act_node_other, act_inbox_other, publisherUpdates, List.filterMap_append,
    replay_append]
  exact Iff.rfl

section

variable {pair : NodePair} {actor : Side} {remaining : List ControlMessage} {event : NodeEvent}
  {pubId : CString}

private theorem promised_of_kept (consistent : (pair.node actor).Consistent)
    (kept : forall pub, ¬ (pair.node actor).Sends event (stub actor.other).uuid (.pubRemoved pub)) :
    (pair.act stub actor remaining event).1.Promised stub actor.other pubId <->
      (Exists fun pub : PublisherInfo => pub.uuid = pubId ∧
        (pair.node actor).Sends event (stub actor.other).uuid (.pubAdded pub)) ∨
        pair.Promised stub actor.other pubId := by
  have unremoved : .remove pubId ∉ publisherUpdates
      (messagesTo (stub actor.other).uuid ((pair.node actor).step event).2) := by
    rw [mem_publisherUpdates_remove]
    rintro ⟨pub, _, sent⟩
    exact kept pub (consistent.mem_messagesTo_step.mp sent)
  simp only [promised_act_other, replay_of_remove_not_mem _ _ unremoved, mem_publisherUpdates_add,
    consistent.mem_messagesTo_step]

private theorem promised_removePublisher (consistent : (pair.node actor).Consistent)
    {pub : PublisherInfo} :
    (pair.act stub actor remaining (.removePublisher pub)).1.Promised stub actor.other pubId <->
      ¬ (pub.uuid = pubId ∧ pub.uuid ∈ (pair.node actor).localPubs ∧
          (stub actor.other).uuid ∈ (pair.node actor).nodes) ∧
        pair.Promised stub actor.other pubId := by
  have unadded : .add pubId ∉ publisherUpdates
      (messagesTo (stub actor.other).uuid ((pair.node actor).step (.removePublisher pub)).2) := by
    rw [mem_publisherUpdates_add]
    rintro ⟨other, _, sent⟩
    cases consistent.mem_messagesTo_step.mp sent
  have withdrawn : (Exists fun other : PublisherInfo => other.uuid = pubId ∧
      (pair.node actor).Sends (.removePublisher pub) (stub actor.other).uuid (.pubRemoved other)) <->
      pub.uuid = pubId ∧ pub.uuid ∈ (pair.node actor).localPubs ∧
        (stub actor.other).uuid ∈ (pair.node actor).nodes := by
    constructor
    · rintro ⟨_, same, sends⟩
      cases sends with
      | withdrawn _ _ published known => exact ⟨same, published, known⟩
    · rintro ⟨same, published, known⟩
      exact ⟨pub, same, .withdrawn pub _ published known⟩
  simp only [promised_act_other, replay_of_add_not_mem _ _ unadded, mem_publisherUpdates_remove,
    consistent.mem_messagesTo_step, withdrawn]

end

/-- Publishers are announced in three ways.  No other event of the
publishing node has anything to do with them. -/
theorem host_cases {pair : NodePair} (regular : Regular stub pair) {actor : Side}
    {remaining : List ControlMessage} {cause : PairEvent} {event : NodeEvent}
    (occurs : Occurs stub pair cause actor remaining event) :
    event = .added (stub actor.other) ∨
      (Exists fun pub : PublisherInfo => event = .addPublisher pub) ∨
      (Exists fun pub : PublisherInfo => event = .removePublisher pub) ∨
      (((pair.node actor).step event).1.nodes = (pair.node actor).nodes ∧
        ((pair.node actor).step event).1.localPubs = (pair.node actor).localPubs ∧
        forall pubId, (pair.act stub actor remaining event).1.Promised stub actor.other pubId <->
          pair.Promised stub actor.other pubId) := by
  have consistent := regular.consistent actor
  have unannounced : (forall pub, ¬ (pair.node actor).Sends event (stub actor.other).uuid (.pubAdded pub)) ->
      (forall pub, ¬ (pair.node actor).Sends event (stub actor.other).uuid (.pubRemoved pub)) ->
      forall pubId, (pair.act stub actor remaining event).1.Promised stub actor.other pubId <->
        pair.Promised stub actor.other pubId := by
    intro unadded kept pubId
    simp only [promised_of_kept consistent kept, unadded, and_false, exists_false, false_or]
  cases occurs with
  | discover => exact Or.inl rfl
  | addPublisher _ pub => exact Or.inr (Or.inl ⟨pub, rfl⟩)
  | removePublisher _ pub => exact Or.inr (Or.inr (Or.inl ⟨pub, rfl⟩))
  | addSubscriber _ sub =>
      exact Or.inr (Or.inr (Or.inr ⟨rfl, rfl, unannounced (by rintro _ ⟨⟩) (by rintro _ ⟨⟩)⟩))
  | removeSubscriber _ sub =>
      refine Or.inr (Or.inr (Or.inr ⟨?_, ?_, unannounced (by rintro _ ⟨⟩) (by rintro _ ⟨⟩)⟩))
      · rw [ZeroMQNode.step, consistent.removeSubscriber_eq]
      · rw [ZeroMQNode.step, consistent.removeSubscriber_eq]
  | deliver _ message rest inbox =>
      exact Or.inr (Or.inr (Or.inr ⟨ZeroMQNode.receive_nodes _ _ _, ZeroMQNode.receive_localPubs _ _ _,
        unannounced (by rintro _ ⟨⟩) (by rintro _ ⟨⟩)⟩))

private theorem complete_host {pair : NodePair} (regular : Regular stub pair)
    (complete : Complete stub pair) {actor : Side} {remaining : List ControlMessage}
    {cause : PairEvent} {event : NodeEvent}
    (occurs : Occurs stub pair cause actor remaining event) {pubId : CString}
    (known : (stub actor.other).uuid ∈ ((pair.node actor).step event).1.nodes)
    (published : pubId ∈ ((pair.node actor).step event).1.localPubs) :
    (pair.act stub actor remaining event).1.Promised stub actor.other pubId := by
  have consistent := regular.consistent actor
  have before := complete actor.other pubId
  rw [Side.other_other] at before
  rcases host_cases regular occurs with same | ⟨pub, same⟩ | ⟨pub, same⟩ | ⟨nodes, pubs, unchanged⟩
  · subst same
    have foreign : (stub actor.other).uuid ≠ (pair.node actor).uuid := by
      intro own
      have unaware := (consistent.step (.added (stub actor.other))).unaware
      rw [consistent.step_uuid, ← own] at unaware
      exact unaware known
    rw [ZeroMQNode.step, ZeroMQNode.added_localPubs] at published
    rw [promised_of_kept consistent (by rintro _ ⟨⟩), consistent.sends_pubAdded_added]
    exact Or.inl ⟨foreign, rfl, published⟩
  · subst same
    rw [ZeroMQNode.step, ZeroMQNode.addPublisher_eq] at known
    rw [promised_of_kept consistent (by rintro _ ⟨⟩)]
    by_cases old : pubId ∈ (pair.node actor).localPubs
    · exact Or.inr (before known old)
    · have same := (ZeroMQNode.mem_localPubs_addPublisher.mp published).resolve_right old
      subst same
      exact Or.inl ⟨pub, rfl, .published pub _ old known⟩
  · subst same
    rw [ZeroMQNode.step, ZeroMQNode.removePublisher_eq] at known
    have parts := ZeroMQNode.mem_localPubs_removePublisher.mp published
    rw [promised_removePublisher consistent]
    exact ⟨fun all => parts.1 all.1, before known parts.2⟩
  · rw [nodes] at known
    rw [pubs] at published
    exact (unchanged pubId).mpr (before known published)

private theorem sound_host {pair : NodePair} (regular : Regular stub pair)
    (sound : Sound stub pair) {actor : Side} {remaining : List ControlMessage}
    {cause : PairEvent} {event : NodeEvent}
    (occurs : Occurs stub pair cause actor remaining event) {pubId : CString}
    (promised : (pair.act stub actor remaining event).1.Promised stub actor.other pubId) :
    pubId ∈ ((pair.node actor).step event).1.localPubs := by
  have consistent := regular.consistent actor
  have before := sound actor.other pubId
  rw [Side.other_other] at before
  rcases host_cases regular occurs with same | ⟨pub, same⟩ | ⟨pub, same⟩ | ⟨nodes, pubs, unchanged⟩
  · subst same
    rw [promised_of_kept consistent (by rintro _ ⟨⟩), consistent.sends_pubAdded_added] at promised
    rw [ZeroMQNode.step, ZeroMQNode.added_localPubs]
    exact promised.elim (fun announced => announced.2.2) before
  · subst same
    rw [promised_of_kept consistent (by rintro _ ⟨⟩)] at promised
    refine ZeroMQNode.mem_localPubs_addPublisher.mpr ?_
    rcases promised with ⟨_, same, sends⟩ | old
    · cases sends
      exact Or.inl same
    · exact Or.inr (before old)
  · subst same
    rw [promised_removePublisher consistent] at promised
    refine ZeroMQNode.mem_localPubs_removePublisher.mpr ⟨?_, before promised.2⟩
    intro same
    -- a removed publisher that is still promised was never withdrawn, so nothing is promised
    refine regular.not_promised ?_ pubId promised.2
    rw [Side.other_other]
    intro known
    exact promised.1 ⟨same, same ▸ before promised.2, known⟩
  · rw [pubs]
    exact before ((unchanged pubId).mp promised)

/-! ## The listening side acts -/

section

variable {pair : NodePair} {event : PairEvent} {actor : Side} {remaining : List ControlMessage}
  {nodeEvent : NodeEvent} {pubId : CString}

/-- A withdrawal reaches a node only after its sender was discovered. -/
def Timely (stub : Side -> NodeStub) (pair : NodePair) : PairEvent -> Prop
  | .deliver side => forall message, message ∈ (pair.inbox side).head? ->
      message.type = .pubRemoved -> (stub side.other).uuid ∈ (pair.node side).nodes
  | _ => True

instance (stub : Side -> NodeStub) (pair : NodePair) :
    (event : PairEvent) -> Decidable (Timely stub pair event)
  | .deliver side => inferInstanceAs (Decidable (forall message, message ∈ (pair.inbox side).head? -> _))
  | .discover _ | .addPublisher _ _ | .removePublisher _ _ | .addSubscriber _ _
  | .removeSubscriber _ _ => inferInstanceAs (Decidable True)

private theorem promised_cons {guest : Side} {message : ControlMessage}
    (inbox : pair.inbox guest = message :: remaining) :
    pair.Promised stub guest pubId <->
      replay (replay ((pair.node guest).Heard (stub guest.other).uuid) (publisherUpdates [message]))
        (publisherUpdates remaining) pubId := by
  rw [Promised, inbox, ← replay_append, publisherUpdates, publisherUpdates, publisherUpdates,
    ← List.filterMap_append]
  rfl

/-- Taking a timely message out of the inbox changes nothing of what the
node will have heard. -/
private theorem promised_of_timely (regular : Regular stub pair)
    (occurs : Occurs stub pair event actor remaining nodeEvent) (timely : Timely stub pair event) :
    (pair.act stub actor remaining nodeEvent).1.Promised stub actor pubId <->
      pair.Promised stub actor pubId := by
  have consistent := regular.consistent actor
  rcases occurs.heard_or_deliver consistent with ⟨same, heard⟩ | ⟨message, same, inbox, delivered⟩
  · rw [Promised, act_node_self, act_inbox_self, same]
    exact replay_congr _ (heard _ _)
  · subst delivered
    subst same
    rw [Promised, act_node_self, act_inbox_self, promised_cons inbox]
    apply replay_congr
    apply consistent.heard_receive (regular.drained actor)
    intro pub withdrawal
    subst withdrawal
    exact timely _ (by rw [inbox]; rfl) rfl

/-- An untimely message may only leave something that should be gone. -/
private theorem promised_of_promised (regular : Regular stub pair)
    (occurs : Occurs stub pair event actor remaining nodeEvent)
    (promised : pair.Promised stub actor pubId) :
    (pair.act stub actor remaining nodeEvent).1.Promised stub actor pubId := by
  by_cases timely : Timely stub pair event
  · exact (promised_of_timely regular occurs timely).mpr promised
  · rcases occurs.heard_or_deliver (regular.consistent actor) with
      ⟨same, heard⟩ | ⟨message, same, inbox, delivered⟩
    · rw [Promised, act_node_self, act_inbox_self, same]
      exact (replay_congr _ (heard _ _)).mpr promised
    · subst delivered
      subst same
      simp only [Timely, inbox, List.head?_cons, Option.mem_some, forall_eq', Classical.not_imp] at timely
      cases message with
      | pubRemoved pub =>
          rw [promised_cons inbox] at promised
          rw [Promised, act_node_self, act_inbox_self, ZeroMQNode.step,
            ZeroMQNode.receive_pubRemoved_of_unknown timely.2]
          exact replay_mono _ And.right promised
      | _ => cases timely.1

end

/-! ## Every run -/

theorem Complete.init (stub : Side -> NodeStub) : Complete stub (init stub) := by
  intro guest pubId known
  simp [NodePair.init, ZeroMQNode.init] at known

theorem Sound.init (stub : Side -> NodeStub) : Sound stub (init stub) := by
  intro guest pubId promised
  exact ((Regular.init stub).not_promised (by simp [NodePair.init, ZeroMQNode.init]) pubId promised).elim

theorem Complete.step {pair : NodePair} (regular : Regular stub pair)
    (complete : Complete stub pair) (event : PairEvent) :
    Complete stub (pair.step stub event).1 := by
  rcases pair.step_cases event with same | ⟨actor, remaining, nodeEvent, occurs, equal⟩
  · rw [same]
    exact complete
  · rw [equal]
    intro guest pubId
    rcases guest.eq_or_eq_other actor with same | same
    · subst same
      rw [act_node_other]
      intro known published
      exact promised_of_promised regular occurs (complete guest pubId known published)
    · subst same
      rw [Side.other_other, act_node_self]
      exact complete_host regular complete occurs

theorem Sound.step {pair : NodePair} (regular : Regular stub pair) (sound : Sound stub pair)
    {event : PairEvent} (timely : Timely stub pair event) :
    Sound stub (pair.step stub event).1 := by
  rcases pair.step_cases event with same | ⟨actor, remaining, nodeEvent, occurs, equal⟩
  · rw [same]
    exact sound
  · rw [equal]
    intro guest pubId
    rcases guest.eq_or_eq_other actor with same | same
    · subst same
      rw [act_node_other, promised_of_timely regular occurs timely]
      exact sound guest pubId
    · subst same
      rw [Side.other_other, act_node_self]
      exact sound_host regular sound occurs

/-- Once both nodes have added each other and everything was delivered, one
node lists exactly the publishers of the other one. -/
def PublishersAgree (stub : Side -> NodeStub) (pair : NodePair) (guest : Side) : Prop :=
  pair.Acquainted stub -> pair.inbox guest = [] -> forall pubId,
    pubId ∈ (pair.node guest).remotePubs.row (stub guest.other).uuid <->
      pubId ∈ (pair.node guest.other).localPubs

theorem Regular.promised_iff {pair : NodePair} (regular : Regular stub pair)
    (acquainted : pair.Acquainted stub) {guest : Side} (delivered : pair.inbox guest = [])
    {pubId : CString} :
    pair.Promised stub guest pubId <->
      pubId ∈ (pair.node guest).remotePubs.row (stub guest.other).uuid := by
  rw [Promised, delivered]
  exact (regular.drained guest).heard_iff (acquainted guest)

/-- In every run, each node ends up listing all publishers of the other one. -/
theorem publishers_listed_of_run (stub : Side -> NodeStub) (events : List PairEvent) (guest : Side)
    (acquainted : (run (step stub) (init stub) events).1.Acquainted stub)
    (delivered : (run (step stub) (init stub) events).1.inbox guest = []) {pubId : CString}
    (published : pubId ∈ ((run (step stub) (init stub) events).1.node guest.other).localPubs) :
    pubId ∈ ((run (step stub) (init stub) events).1.node guest).remotePubs.row (stub guest.other).uuid := by
  have invariant := invariant_of_run (fun pair => Regular stub pair ∧ Complete stub pair)
    (fun pair event valid _ => ⟨valid.1.step event, valid.2.step valid.1 event⟩)
    ⟨Regular.init stub, Complete.init stub⟩ (admits_true (step stub) (init stub) events)
  have aware := acquainted guest.other
  rw [Side.other_other] at aware
  exact (invariant.1.promised_iff acquainted delivered).mp (invariant.2 guest pubId aware published)

/-- In every run in which all withdrawals are timely, the lists are exact. -/
theorem publishers_agree_of_run (stub : Side -> NodeStub) (events : List PairEvent) (guest : Side)
    (timely : Admits (step stub) (Timely stub) (init stub) events) :
    PublishersAgree stub (run (step stub) (init stub) events).1 guest := by
  intro acquainted delivered pubId
  have invariant := invariant_of_run (fun pair => Regular stub pair ∧ Sound stub pair)
    (fun pair event valid allowed => ⟨valid.1.step event, valid.2.step valid.1 allowed⟩)
    ⟨Regular.init stub, Sound.init stub⟩ timely
  constructor
  · intro listed
    exact invariant.2 guest pubId ((invariant.1.promised_iff acquainted delivered).mpr listed)
  · exact publishers_listed_of_run stub events guest acquainted delivered

/-- The announcement overtakes the discovery; the withdrawal does not. -/
theorem publishers_agree_of_run_parked :
    let pub := examplePublisher 99 (by decide) ⟨[102], by decide⟩
    let events : List PairEvent :=
      [.discover .a, .addPublisher .a pub, .deliver .b, .discover .b, .removePublisher .a pub,
        .deliver .b]
    Admits (step exampleStubs) (Timely exampleStubs) (init exampleStubs) events ∧
      PublishersAgree exampleStubs (run (step exampleStubs) (init exampleStubs) events).1 .b := by
  refine ⟨by decide +kernel, publishers_agree_of_run _ _ _ ?_⟩
  decide +kernel

/-- A publisher is announced and withdrawn before the sender is discovered.
It is listed afterwards, and stays so. -/
theorem publishers_disagree_after_discovery :
    let pub := examplePublisher 99 (by decide) ⟨[102], by decide⟩
    let events : List PairEvent :=
      [.discover .a, .addPublisher .a pub, .removePublisher .a pub, .deliver .b, .deliver .b,
        .discover .b]
    ¬ PublishersAgree exampleStubs (run (step exampleStubs) (init exampleStubs) events).1 .b := by
  intro pub events agree
  have acquainted : (run (step exampleStubs) (init exampleStubs) events).1.Acquainted exampleStubs := by
    decide +kernel
  have listed := (agree acquainted (by decide +kernel) pub.uuid).mp (by decide +kernel)
  revert listed
  decide +kernel

end NodePair
end Connection
end Umundo
