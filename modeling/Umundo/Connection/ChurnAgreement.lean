import Mathlib.Data.List.Perm.Basic
import Umundo.Connection.SubscriberChurn

namespace Umundo
namespace Connection

open Foundation Std

/-!
# The subscribers a publisher ends up with

What node `b` announces reaches node `a` in order, and the frames of its
subscribers reach the publisher in any order.  Every delivery moves the
subscriber it is about to its next phase and leaves the others alone, so once
nothing is under way the publisher has the subscribers that node `b` lists.
-/

namespace Churn

/-! ## Deliveries -/

section

variable {stub : Side -> NodeStub} {pub : PublisherInfo} {churn : Churn}

/-- Node `a` calls the publisher about a subscription that is not on record. -/
private theorem concerning_subscribe {node : ZeroMQNode} {info : PublisherInfo}
    {remoteId pubId other subId : CString} (known : remoteId ∈ node.nodes)
    (published : pubId ∈ node.localPubs) :
    concerning subId (callsTo pubId (node.receive remoteId (ControlMessage.subscribe info other).encode).2) =
      if (info.uuid = pubId ∧ other = subId) ∧ ¬ node.Records pubId subId remoteId then
        [.addedSubscriber remoteId other]
      else [] := by
  rw [ZeroMQNode.receive_subscribe]
  apply concerning_conditional rfl rfl
  rintro rfl rfl
  exact ⟨fun fresh => fresh.2.2, fun fresh => ⟨known, published, fresh⟩⟩

private theorem concerning_unsubscribe {node : ZeroMQNode} {info : PublisherInfo}
    {remoteId pubId other subId : CString} (known : remoteId ∈ node.nodes)
    (published : pubId ∈ node.localPubs) :
    concerning subId (callsTo pubId (node.receive remoteId (ControlMessage.unsubscribe info other).encode).2) =
      if (info.uuid = pubId ∧ other = subId) ∧ node.Records pubId subId remoteId then
        [.removedSubscriber remoteId other]
      else [] := by
  rw [ZeroMQNode.receive_unsubscribe]
  apply concerning_conditional rfl rfl
  rintro rfl rfl
  exact ⟨fun found => found.2.2, fun found => ⟨known, published, found⟩⟩

/-- A node answers a subscription with no message. -/
private theorem messagesTo_receive_subscription {node : ZeroMQNode} {info : PublisherInfo}
    {remoteId target subId : CString} {message : ControlMessage}
    (kind : message = .subscribe info subId ∨ message = .unsubscribe info subId) :
    messagesTo target (node.receive remoteId message.encode).2 = [] := by
  rcases kind with rfl | rfl
  · rw [ZeroMQNode.receive_subscribe]
    split <;> rfl
  · rw [ZeroMQNode.receive_unsubscribe]
    split <;> rfl

/-- Node `a` receives a message.  The publisher is told what follows from it. -/
private theorem step_deliver (stub : Side -> NodeStub) (pub : PublisherInfo)
    {message : ControlMessage} {rest : List ControlMessage}
    (inbox : churn.pair.inbox .a = message :: rest) :
    (churn.step stub pub (.deliver .a)).1 =
      { churn with
        pair := (churn.pair.act stub .a rest (.message (stub .b).uuid message.encode)).1
        publisher := (run ZeroMQPublisher.step churn.publisher (callsTo pub.uuid
          ((churn.pair.node .a).receive (stub .b).uuid message.encode).2)).1 } := by
  simp only [Churn.step, NodePair.step, inbox]
  rfl

/-- Whether a message is about a subscription. -/
private theorem notice_eq_none_iff {info : PublisherInfo} {pubId subId other : CString}
    {message : ControlMessage}
    (kind : message = .subscribe info other ∨ message = .unsubscribe info other) :
    notice pubId subId message = none <-> ¬ (info.uuid = pubId ∧ other = subId) := by
  rcases kind with rfl | rfl <;> simp [notice]

/-- A delivery to node `a` changes nothing the nodes know of each other. -/
private theorem Introduced.deliver (introduced : churn.Introduced stub pub)
    {message : ControlMessage} {rest : List ControlMessage}
    (inbox : churn.pair.inbox .a = message :: rest) :
    (churn.step stub pub (.deliver .a)).1.Introduced stub pub := by
  have first : (churn.step stub pub (.deliver .a)).1.pair.node .a =
      ((churn.pair.node .a).step (.message (stub .b).uuid message.encode)).1 := by
    rw [step_deliver stub pub inbox]
    rfl
  have second : (churn.step stub pub (.deliver .a)).1.pair.node .b = churn.pair.node .b := by
    rw [step_deliver stub pub inbox]
    rfl
  refine ⟨?_, ?_, ?_, second ▸ introduced.known⟩
  · intro side
    cases side with
    | a => exact first ▸ (introduced.consistent .a).step _
    | b => exact second ▸ introduced.consistent .b
  · intro side
    cases side with
    | a =>
        rw [first, ZeroMQNode.step, ZeroMQNode.receive_nodes]
        exact introduced.acquainted .a
    | b => exact second ▸ introduced.acquainted .b
  · rw [first, ZeroMQNode.step, ZeroMQNode.receive_localPubs]
    exact introduced.published

/-- The slot of a subscriber after a delivery. -/
private theorem slot_deliver {message : ControlMessage} {rest : List ControlMessage}
    (inbox : churn.pair.inbox .a = message :: rest) {subId : CString} {told : List PublisherEvent}
    (calls : concerning subId (callsTo pub.uuid
      ((churn.pair.node .a).receive (stub .b).uuid message.encode).2) = told) :
    ((churn.step stub pub (.deliver .a)).1.standing stub pub subId).slot =
      (run (Slot.step churn.publisher.greeter subId) (churn.publisher.slot subId) told).1 := by
  have slot := (churn.publisher.run_slot (callsTo pub.uuid
    ((churn.pair.node .a).receive (stub .b).uuid message.encode).2) subId).1
  rw [calls] at slot
  rw [step_deliver stub pub inbox]
  exact slot

/-- A subscriber that a delivery is not about does not move. -/
private theorem unmoved_deliver {message : ControlMessage} {rest : List ControlMessage}
    (inbox : churn.pair.inbox .a = message :: rest) {subId : CString}
    (unnoticed : notice pub.uuid subId message = none)
    (records : ((churn.pair.node .a).receive (stub .b).uuid message.encode).1.Records pub.uuid subId
      (stub .b).uuid <-> (churn.pair.node .a).Records pub.uuid subId (stub .b).uuid)
    (silent : concerning subId (callsTo pub.uuid
      ((churn.pair.node .a).receive (stub .b).uuid message.encode).2) = []) :
    Standing.Unmoved (churn.standing stub pub subId)
      ((churn.step stub pub (.deliver .a)).1.standing stub pub subId) := by
  have slot := slot_deliver inbox silent
  rw [step_deliver stub pub inbox] at slot ⊢
  refine ⟨Iff.rfl, ?_, records, Iff.rfl, slot⟩
  simp only [standing, inbox]
  rw [List.filterMap_cons_none unnoticed]
  rfl

/-- A delivery to node `a` is right if it is right for the subscriber the
message is about. -/
private theorem Kept.of_delivery (kept : churn.Kept stub pub) {message : ControlMessage}
    {rest : List ControlMessage} (inbox : churn.pair.inbox .a = message :: rest)
    {info : PublisherInfo} {other : CString}
    (kind : message = .subscribe info other ∨ message = .unsubscribe info other)
    (unrecorded : forall subId, ¬ (info.uuid = pub.uuid ∧ other = subId) ->
      (((churn.pair.node .a).receive (stub .b).uuid message.encode).1.Records pub.uuid subId
          (stub .b).uuid <-> (churn.pair.node .a).Records pub.uuid subId (stub .b).uuid) ∧
        concerning subId (callsTo pub.uuid
          ((churn.pair.node .a).receive (stub .b).uuid message.encode).2) = [])
    (moved : info.uuid = pub.uuid -> other ≠ pub.channelName ->
      ((churn.step stub pub (.deliver .a)).1.standing stub pub other).Phase) :
    (churn.step stub pub (.deliver .a)).1.Kept stub pub := by
  have equal := step_deliver stub pub inbox
  have unmoved : forall subId, ¬ (info.uuid = pub.uuid ∧ other = subId) ->
      Standing.Unmoved (churn.standing stub pub subId)
        ((churn.step stub pub (.deliver .a)).1.standing stub pub subId) := by
    intro subId elsewhere
    rcases unrecorded subId elsewhere with ⟨records, silent⟩
    exact unmoved_deliver inbox ((notice_eq_none_iff kind).mpr elsewhere) records silent
  have strange : ¬ (info.uuid = pub.uuid ∧ other = pub.channelName) := by
    intro same
    have none := kept.stranger.unnoticed
    simp only [standing, inbox, List.filterMap_eq_nil_iff] at none
    exact (notice_eq_none_iff kind).mp (none message List.mem_cons_self) same
  have same : (churn.step stub pub (.deliver .a)).1.pair.node .b = churn.pair.node .b := by
    rw [equal]
    rfl
  refine { kept.toIntroduced.deliver inbox with
    quiet := ?_
    subscriptions := ?_
    channel := same ▸ kept.channel
    stranger := kept.stranger.congr (unmoved _ strange)
    phases := ?_ }
  · have answered : (churn.step stub pub (.deliver .a)).1.pair.inbox .b = churn.pair.inbox .b ++
        messagesTo (stub .b).uuid ((churn.pair.node .a).receive (stub .b).uuid message.encode).2 := by
      rw [equal]
      rfl
    rw [answered, kept.quiet, messagesTo_receive_subscription kind]
    rfl
  · intro later member
    have remaining : (churn.step stub pub (.deliver .a)).1.pair.inbox .a = rest := by
      rw [equal]
      rfl
    rw [remaining] at member
    exact kept.subscriptions later (inbox ▸ List.mem_cons_of_mem _ member)
  · intro subId unreserved
    by_cases about : info.uuid = pub.uuid ∧ other = subId
    · rcases about with ⟨same, rfl⟩
      exact moved same unreserved
    · refine (kept.phases subId unreserved).congr (unmoved subId about) ?_
      rw [equal]
      rfl

private theorem Kept.deliver_subscribe (kept : churn.Kept stub pub) {rest : List ControlMessage}
    {info : PublisherInfo} {subId : CString}
    (inbox : churn.pair.inbox .a = .subscribe info subId :: rest) :
    (churn.step stub pub (.deliver .a)).1.Kept stub pub := by
  have known := kept.acquainted .a
  have calls : forall other, concerning other (callsTo pub.uuid ((churn.pair.node .a).receive
      (stub .b).uuid (ControlMessage.subscribe info subId).encode).2) = _ :=
    fun other => concerning_subscribe known kept.published
  have records : forall other, ((churn.pair.node .a).receive (stub .b).uuid
      (ControlMessage.subscribe info subId).encode).1.Records pub.uuid other (stub .b).uuid <-> _ :=
    fun other => ZeroMQNode.mem_cell_receive_subscribe
  refine kept.of_delivery inbox (.inl rfl) ?_ ?_
  · intro other elsewhere
    refine ⟨?_, (calls other).trans (if_neg (fun both => elsewhere both.1))⟩
    rw [records]
    exact or_iff_right (fun same => elsewhere same.2.2.2)
  · intro same unreserved
    have about : info.uuid = pub.uuid ∧ subId = subId := ⟨same, rfl⟩
    have equal := step_deliver stub pub inbox
    have called : ¬ (churn.standing stub pub subId).recorded ->
        ((churn.step stub pub (.deliver .a)).1.standing stub pub subId).slot =
          (Slot.step churn.publisher.greeter subId (churn.publisher.slot subId)
            (.addedSubscriber (stub .b).uuid subId)).1 :=
      fun fresh => slot_deliver inbox ((calls subId).trans (if_pos ⟨about, fresh⟩))
    refine (kept.phases subId unreserved).subscribe
      (fun empty => absurd ((stub .b).uuid_length.symm.trans empty) nofun) ?_ ?_ ?_ ?_ ?_ ?_ called
    · rw [equal]
      simp only [standing, inbox]
      exact List.filterMap_cons_some (if_pos about)
    · rw [equal]
      rfl
    · rw [equal]
      exact (records subId).mpr (.inl ⟨known, same ▸ kept.published, rfl, same, rfl⟩)
    · rw [equal]
      rfl
    · rw [equal]
      rfl
    · intro recorded
      exact slot_deliver inbox ((calls subId).trans (if_neg (fun fresh => fresh.2 recorded)))

private theorem Kept.deliver_unsubscribe (kept : churn.Kept stub pub) {rest : List ControlMessage}
    {info : PublisherInfo} {subId : CString}
    (inbox : churn.pair.inbox .a = .unsubscribe info subId :: rest)
    (landed : info.uuid = pub.uuid -> (churn.standing stub pub subId).flying = 0) :
    (churn.step stub pub (.deliver .a)).1.Kept stub pub := by
  have known := kept.acquainted .a
  have calls : forall other, concerning other (callsTo pub.uuid ((churn.pair.node .a).receive
      (stub .b).uuid (ControlMessage.unsubscribe info subId).encode).2) = _ :=
    fun other => concerning_unsubscribe known kept.published
  have records : forall other, ((churn.pair.node .a).receive (stub .b).uuid
      (ControlMessage.unsubscribe info subId).encode).1.Records pub.uuid other (stub .b).uuid <-> _ :=
    fun other => ZeroMQNode.mem_cell_receive_unsubscribe
  refine kept.of_delivery inbox (.inr rfl) ?_ ?_
  · intro other elsewhere
    refine ⟨?_, (calls other).trans (if_neg (fun both => elsewhere both.1))⟩
    rw [records]
    exact and_iff_right (fun same => elsewhere same.2.2.2)
  · intro same unreserved
    have about : info.uuid = pub.uuid ∧ subId = subId := ⟨same, rfl⟩
    have equal := step_deliver stub pub inbox
    have called : (churn.standing stub pub subId).recorded ->
        ((churn.step stub pub (.deliver .a)).1.standing stub pub subId).slot =
          (Slot.step churn.publisher.greeter subId (churn.publisher.slot subId)
            (.removedSubscriber (stub .b).uuid subId)).1 :=
      fun recorded => slot_deliver inbox ((calls subId).trans (if_pos ⟨about, recorded⟩))
    refine (kept.phases subId unreserved).unsubscribe ?_ (landed same) ?_ ?_ ?_ ?_ ?_ called
    · rw [equal]
      simp only [standing, inbox]
      exact List.filterMap_cons_some (if_pos about)
    · rw [equal]
      rfl
    · rw [equal]
      exact fun recorded =>
        ((records subId).mp recorded).1 ⟨known, same ▸ kept.published, rfl, same, rfl⟩
    · rw [equal]
      rfl
    · rw [equal]
      rfl
    · intro absent
      exact slot_deliver inbox ((calls subId).trans (if_neg (fun found => absent found.2)))

theorem Kept.deliver (kept : churn.Kept stub pub)
    (orderly : churn.Orderly stub pub (.deliver .a)) :
    (churn.step stub pub (.deliver .a)).1.Kept stub pub := by
  cases inbox : churn.pair.inbox .a with
  | nil =>
      have same : (churn.step stub pub (.deliver .a)).1 = churn := by
        simp only [Churn.step, NodePair.step, inbox]
        rfl
      rw [same]
      exact kept
  | cons message rest =>
      rcases kept.subscriptions message (inbox ▸ List.mem_cons_self) with ⟨info, subId, rfl | rfl⟩
      · exact kept.deliver_subscribe inbox
      · exact kept.deliver_unsubscribe inbox (orderly (.unsubscribe info subId) (by rw [inbox]; rfl))

/-- A frame arrives. -/
theorem Kept.frame (kept : churn.Kept stub pub) (index : Nat) :
    (churn.step stub pub (.frame index)).1.Kept stub pub := by
  cases found : churn.frames[index]? with
  | none =>
      have same : (churn.step stub pub (.frame index)).1 = churn := by
        simp only [Churn.step, found]
      rw [same]
      exact kept
  | some data =>
      have equal : (churn.step stub pub (.frame index)).1 =
          { churn with
            publisher := (churn.publisher.step (.frame data)).1
            frames := churn.frames.eraseIdx index } := by
        simp only [Churn.step, found]
      have slot : forall subId, ((churn.step stub pub (.frame index)).1.standing stub pub subId).slot =
          if subscribedBy data = some subId then
            (Slot.step churn.publisher.greeter subId (churn.publisher.slot subId) (.frame data)).1
          else churn.publisher.slot subId := by
        intro subId
        rw [equal]
        exact churn.publisher.slot_step (.frame data) subId
      have flying : forall subId, (churn.standing stub pub subId).flying =
          ((churn.step stub pub (.frame index)).1.standing stub pub subId).flying +
            if subscribedBy data = some subId then 1 else 0 := by
        intro subId
        rcases List.getElem?_eq_some_iff.mp found with ⟨inside, same⟩
        have taken := (List.getElem_cons_eraseIdx_perm inside).countP_eq
          (fun frame => decide (subscribedBy frame = some subId))
        rw [equal]
        simp only [standing]
        rw [← taken, same, List.countP_cons]
        simp only [decide_eq_true_eq]
      rw [equal] at slot flying ⊢
      refine { kept with stranger := ?_, phases := ?_ }
      · by_cases subject : subscribedBy data = some pub.channelName
        · exact kept.stranger.frame Iff.rfl rfl Iff.rfl ((slot _).trans (if_pos subject))
        · exact kept.stranger.congr ⟨Iff.rfl, rfl, Iff.rfl, Iff.rfl, (slot _).trans (if_neg subject)⟩
      · intro subId unreserved
        have phase := kept.phases subId unreserved
        by_cases subject : subscribedBy data = some subId
        · refine phase.frame ?_ Iff.rfl rfl Iff.rfl Iff.rfl ((slot _).trans (if_pos subject))
          rw [flying, if_pos subject]
        · refine phase.congr ⟨Iff.rfl, rfl, Iff.rfl, Iff.rfl, (slot _).trans (if_neg subject)⟩ ?_
          rw [flying, if_neg subject]
          rfl

theorem Kept.step (kept : churn.Kept stub pub) {event : ChurnEvent}
    (orderly : churn.Orderly stub pub event) : (churn.step stub pub event).1.Kept stub pub := by
  cases event with
  | addSubscriber sub => exact kept.addSubscriber orderly
  | removeSubscriber sub => exact kept.removeSubscriber orderly
  | deliver side =>
      cases side with
      | a => exact kept.deliver orderly
      | b =>
          have same : (churn.step stub pub (.deliver .b)).1 = churn := by
            simp only [Churn.step, Churn.act, NodePair.step, kept.quiet, run, List.append_nil]
          rw [same]
          exact kept
  | frame index => exact kept.frame index

/-- Once nothing is under way, the publisher has exactly the subscribers that
node `b` lists. -/
theorem Kept.subscribers_agree (kept : churn.Kept stub pub) (quiet : churn.Quiet) (subId : CString) :
    subId ∈ churn.publisher.subscriptions <->
      Exists fun sub : Subscriber => sub ∈ (churn.pair.node .b).localSubs ∧ sub.uuid = subId := by
  have member : subId ∈ churn.publisher.subscriptions <->
      (churn.standing stub pub subId).slot.established.isSome = true :=
    ExtTreeMap.mem_iff_isSome_getElem?
  rw [member]
  by_cases reserved : subId = pub.channelName
  · subst reserved
    rw [kept.stranger.unestablished]
    exact iff_of_false nofun kept.stranger.unlisted
  · refine (kept.phases subId reserved).established_iff ?_ ?_
    · simp only [standing, quiet.1 .a, List.filterMap_nil]
    · simp only [standing, quiet.2, List.countP_nil]

/-- In every run from a calm start in which no subscriber returns and no
removal overtakes a frame, the publisher ends up with the subscribers of node
`b`. -/
theorem subscribers_agree_of_run (stub : Side -> NodeStub) (pub : PublisherInfo) (start : Churn)
    (calm : start.Calm stub pub) (events : List ChurnEvent)
    (admitted : Admits (step stub pub) (Orderly stub pub) start events)
    (quiet : (run (step stub pub) start events).1.Quiet) (subId : CString) :
    subId ∈ (run (step stub pub) start events).1.publisher.subscriptions <->
      Exists fun sub : Subscriber =>
        sub ∈ ((run (step stub pub) start events).1.pair.node .b).localSubs ∧ sub.uuid = subId :=
  (invariant_of_run (Kept stub pub) (fun _ _ kept orderly => kept.step orderly) calm.kept
    admitted).subscribers_agree quiet subId

instance (pub : PublisherInfo) (churn : Churn) : DecidablePred (churn.Follows pub) := fun message =>
  match message with
  | .unsubscribe info subId => inferInstanceAs (Decidable (info.uuid = pub.uuid ->
      churn.frames.countP (fun data => subscribedBy data = some subId) = 0))
  | .subscribe _ _ => .isTrue trivial
  | .pubAdded _ => .isTrue trivial
  | .pubRemoved _ => .isTrue trivial

instance (stub : Side -> NodeStub) (pub : PublisherInfo) (churn : Churn) :
    DecidablePred (churn.Orderly stub pub) := fun event =>
  match event with
  | .addSubscriber _ => inferInstanceAs (Decidable (_ ∧ _))
  | .removeSubscriber sub => inferInstanceAs (Decidable (sub.channelName = pub.channelName))
  | .deliver .a =>
      inferInstanceAs (Decidable (forall message, message ∈ (churn.pair.inbox .a).head? -> _))
  | .deliver .b => .isTrue trivial
  | .frame _ => .isTrue trivial

/-- A publisher for concrete runs. -/
def examplePub : PublisherInfo := examplePublisher 99 (by decide) ⟨[102], by decide⟩

/-- Two nodes that have just become acquainted. -/
def examplePair : NodePair :=
  (run (NodePair.step NodePair.exampleStubs) (NodePair.init NodePair.exampleStubs)
    [.discover .a, .discover .b, .addPublisher .a examplePub, .deliver .b]).1

def exampleStart (greeter : Bool) : Churn where
  pair := examplePair
  publisher := .init greeter
  connections := fun _ => ∅
  frames := []

theorem calm_exampleStart (greeter : Bool) :
    (exampleStart greeter).Calm NodePair.exampleStubs examplePub := by
  have regular : examplePair.Regular NodePair.exampleStubs :=
    invariant_of_run (NodePair.Regular NodePair.exampleStubs)
      (fun _ event regular _ => regular.step event) (NodePair.Regular.init _) (admits_true _ _ _)
  have acquainted : examplePair.Acquainted NodePair.exampleStubs := by decide +kernel
  have published : examplePub.uuid ∈ (examplePair.node .a).localPubs := by decide +kernel
  have known : ((examplePair.node .b).remotePubs.row (NodePair.exampleStubs .a).uuid)[examplePub.uuid]? =
    some (remote NodePair.exampleStubs examplePub) := by decide +kernel
  have quiet : forall side, examplePair.inbox side = [] := by
    intro side
    cases side <;> decide +kernel
  have unlisted : (examplePair.node .b).localSubs = ∅ := by decide +kernel
  have unrecorded : (examplePair.node .a).subscriptions.row (NodePair.exampleStubs .b).uuid = ∅ := by
    decide +kernel
  refine ⟨⟨regular.consistent, acquainted, published, known⟩, quiet, unlisted, unrecorded, ?_, ?_, rfl⟩
  · simp [exampleStart, ZeroMQPublisher.init, ZeroMQPublisher.slot]
  · simp [exampleStart]

theorem subscribers_agree_of_run_once :
    let sub := exampleSubscriber 100 (by decide) ⟨[102], by decide⟩
    let start := exampleStart true
    let events : List ChurnEvent :=
      [.addSubscriber sub, .frame 1, .deliver .a, .frame 0]
    let final := (run (step NodePair.exampleStubs examplePub) start events).1
    Admits (step NodePair.exampleStubs examplePub)
        (Orderly NodePair.exampleStubs examplePub) start events ∧ final.Quiet ∧
      (sub.uuid ∈ final.publisher.subscriptions <->
        Exists fun other : Subscriber =>
          other ∈ (final.pair.node .b).localSubs ∧ other.uuid = sub.uuid) := by
  intro sub start events final
  have admitted : Admits (step NodePair.exampleStubs examplePub)
      (Orderly NodePair.exampleStubs examplePub) start events := by
    decide +kernel
  have quiet : final.Quiet := by
    refine ⟨fun side => ?_, ?_⟩
    · cases side <;> decide +kernel
    · decide +kernel
  exact ⟨admitted, quiet, subscribers_agree_of_run _ _ start (calm_exampleStart true) events admitted
    quiet sub.uuid⟩

/-- A subscriber that is removed and added again is missing at the publisher. -/
theorem subscribers_disagree_after_return :
    let sub := exampleSubscriber 100 (by decide) ⟨[102], by decide⟩
    let start := exampleStart false
    let events : List ChurnEvent :=
      [.addSubscriber sub, .deliver .a, .frame 0, .frame 0, .removeSubscriber sub, .deliver .a,
        .addSubscriber sub, .deliver .a]
    let final := (run (step NodePair.exampleStubs examplePub) start events).1
    start.Calm NodePair.exampleStubs examplePub ∧ final.Quiet ∧
      sub ∈ (final.pair.node .b).localSubs ∧ sub.uuid ∉ final.publisher.subscriptions := by
  intro sub start events final
  refine ⟨calm_exampleStart false, ⟨fun side => ?_, ?_⟩, ?_, ?_⟩
  · cases side <;> decide +kernel
  · decide +kernel
  · decide +kernel
  · decide +kernel

end

end Churn
end Connection
end Umundo
