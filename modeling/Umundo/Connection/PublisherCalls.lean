import Mathlib.Data.List.Basic
import Umundo.Connection.NodeMessages
import Umundo.Connection.Publisher

namespace Umundo
namespace Connection

open Foundation Std

/-!
# The calls of a node on its publishers

A node records which remote subscribers have subscribed to which of its
publishers, and calls a publisher whenever a record is made or withdrawn.
What a step of the node means to one subscriber of one publisher is one of
four things: nothing, a new record, a withdrawn record, or a record that is
dropped without a call because the publisher is no longer local.
-/

/-- The call on the publisher with the given uuid, if it is one. -/
def Effect.call (pubId : CString) : Effect -> Option PublisherEvent
  | .addedSubscriber target remoteId subId =>
      if target = pubId then some (.addedSubscriber remoteId subId) else none
  | .removedSubscriber target remoteId subId =>
      if target = pubId then some (.removedSubscriber remoteId subId) else none
  | .send _ _ _ => none
  | .close _ => none
  | .subscriberAdded _ _ => none
  | .subscriberRemoved _ _ => none

def callsTo (pubId : CString) (effects : List Effect) : List PublisherEvent :=
  effects.filterMap (Effect.call pubId)

@[simp] theorem callsTo_append (pubId : CString) (first second : List Effect) :
    callsTo pubId (first ++ second) = callsTo pubId first ++ callsTo pubId second :=
  List.filterMap_append

theorem callsTo_eq_nil {pubId : CString} {effects : List Effect}
    (silent : forall effect, effect ∈ effects -> effect.call pubId = none) :
    callsTo pubId effects = [] :=
  List.filterMap_eq_nil_iff.mpr silent

theorem concerning_singleton {pubId subId target other : CString} {effect : Effect}
    {call : PublisherEvent} (named : effect.call pubId = if target = pubId then some call else none)
    (subject : call.subject = some other) :
    concerning subId (callsTo pubId [effect]) =
      if target = pubId ∧ other = subId then [call] else [] := by
  by_cases same : target = pubId
  · rw [if_pos same] at named
    simp [callsTo, named, concerning, subject, same, List.filter_cons]
  · rw [if_neg same] at named
    simp [callsTo, named, concerning, same]

/-- The calls about one subscriber if there is one call or none. -/
theorem concerning_conditional {made expected : Prop} [Decidable made] [Decidable expected]
    {after node : ZeroMQNode} {pubId subId target other : CString} {effect : Effect}
    {call : PublisherEvent} (named : effect.call pubId = if target = pubId then some call else none)
    (subject : call.subject = some other)
    (exactly : target = pubId -> other = subId -> (made <-> expected)) :
    concerning subId (callsTo pubId (if made then (after, [effect]) else (node, [])).2) =
      if (target = pubId ∧ other = subId) ∧ expected then [call] else [] := by
  by_cases happens : made
  · rw [if_pos happens]
    refine (concerning_singleton named subject).trans ?_
    by_cases about : target = pubId ∧ other = subId
    · rw [if_pos about, if_pos ⟨about, (exactly about.1 about.2).mp happens⟩]
    · rw [if_neg about, if_neg (fun both => about both.1)]
  · rw [if_neg happens, if_neg (fun both => happens ((exactly both.1.1 both.1.2).mpr both.2))]
    rfl

namespace ZeroMQNode

/-- The subscription of a remote subscriber is on record. -/
def Records (node : ZeroMQNode) (pubId subId remoteId : CString) : Prop :=
  subId ∈ node.subscriptions.cell remoteId pubId

instance (node : ZeroMQNode) (pubId subId remoteId : CString) :
    Decidable (node.Records pubId subId remoteId) :=
  inferInstanceAs (Decidable (_ ∈ _))

/-- What a step means to one subscriber of one publisher. -/
inductive Turn (node : ZeroMQNode) (pubId subId : CString) :
    ZeroMQNode × List Effect -> Prop
  | quiet {outcome : ZeroMQNode × List Effect} :
      concerning subId (callsTo pubId outcome.2) = [] ->
      (forall remoteId, outcome.1.Records pubId subId remoteId <-> node.Records pubId subId remoteId) ->
      Turn node pubId subId outcome
  | joins {outcome : ZeroMQNode × List Effect} (guest : CString) :
      guest ∈ node.nodes -> pubId ∈ node.localPubs -> ¬ node.Records pubId subId guest ->
      concerning subId (callsTo pubId outcome.2) = [.addedSubscriber guest subId] ->
      (forall remoteId, outcome.1.Records pubId subId remoteId <->
        guest = remoteId ∨ node.Records pubId subId remoteId) ->
      Turn node pubId subId outcome
  | leaves {outcome : ZeroMQNode × List Effect} (guest : CString) :
      node.Records pubId subId guest ->
      concerning subId (callsTo pubId outcome.2) = [.removedSubscriber guest subId] ->
      (forall remoteId, outcome.1.Records pubId subId remoteId <->
        guest ≠ remoteId ∧ node.Records pubId subId remoteId) ->
      Turn node pubId subId outcome
  | dropped {outcome : ZeroMQNode × List Effect} (guest : CString) :
      pubId ∉ node.localPubs -> node.Records pubId subId guest ->
      concerning subId (callsTo pubId outcome.2) = [] ->
      (forall remoteId, outcome.1.Records pubId subId remoteId <->
        guest ≠ remoteId ∧ node.Records pubId subId remoteId) ->
      Turn node pubId subId outcome

section

variable {node : ZeroMQNode} {pubId subId : CString}

/-- Nothing happens to any record. -/
private theorem Turn.of_unchanged {outcome : ZeroMQNode × List Effect}
    (silent : callsTo pubId outcome.2 = [])
    (unchanged : outcome.1.subscriptions = node.subscriptions) : Turn node pubId subId outcome := by
  refine .quiet ?_ ?_
  · rw [silent]
    rfl
  · intro remoteId
    rw [Records, unchanged]
    rfl

private theorem callsTo_announce (pubId : CString) (client : Socket) (hasMore : Int)
    (pubs : List PublisherInfo) : callsTo pubId (announce client hasMore pubs) = [] := by
  induction pubs generalizing hasMore with
  | nil => rfl
  | cons pub rest ih =>
      rw [announce, callsTo, List.filterMap_cons]
      exact ih _

private theorem callsTo_promote (node : ZeroMQNode) (pubId remoteId : CString) :
    callsTo pubId (node.promote remoteId).2 = [] := by
  apply callsTo_eq_nil
  intro effect member
  unfold promote at member
  split at member
  · simp only [linkPublisher, List.mem_flatMap, List.mem_cons, List.not_mem_nil, or_false] at member
    rcases member with ⟨_, _, _, _, rfl | rfl⟩ <;> rfl
  · cases member

theorem callsTo_removeRemotePub (node : ZeroMQNode) (pubId : CString) (pub : PublisherStub) :
    callsTo pubId (node.removeRemotePubFromLocalSubs pub) = [] := by
  apply callsTo_eq_nil
  intro effect member
  rcases List.mem_map.mp member with ⟨_, _, rfl⟩
  rfl

theorem callsTo_broadcast (node : ZeroMQNode) (pubId : CString) (message : ControlMessage) :
    callsTo pubId (node.broadcast message) = [] := by
  apply callsTo_eq_nil
  intro effect member
  rcases List.mem_map.mp member with ⟨_, _, rfl⟩
  rfl

/-- The calls about one subscriber, out of a loop over a set of them. -/
private theorem concerning_loop (pubId subId remoteId : CString) (subIds : Keys CString) :
    concerning subId (callsTo pubId
        (subIds.toList.map fun other => .removedSubscriber pubId remoteId other)) =
      if subId ∈ subIds then [.removedSubscriber remoteId subId] else [] := by
  have calls : callsTo pubId (subIds.toList.map fun other => .removedSubscriber pubId remoteId other) =
      subIds.toList.map fun other => .removedSubscriber remoteId other := by
    rw [callsTo, List.filterMap_map, ← List.filterMap_eq_map]
    apply List.filterMap_congr
    intro other _
    exact if_pos rfl
  have subjects : ((fun event : PublisherEvent => decide (event.subject = some subId)) ∘
      fun other => PublisherEvent.removedSubscriber remoteId other) =
      fun other => decide (other = subId) := by
    funext other
    simp [PublisherEvent.subject]
  rw [calls, concerning, List.filter_map, subjects, Table.filter_toList_eq]
  split <;> rfl

/-- The loop over the records of a vanished node calls a publisher once for
every subscriber on record. -/
private theorem concerning_dropSubscriptions (node : ZeroMQNode) (pubId subId remoteId : CString) :
    concerning subId (callsTo pubId (node.dropSubscriptions remoteId)) =
      if pubId ∈ node.localPubs ∧ node.Records pubId subId remoteId then
        [.removedSubscriber remoteId subId]
      else [] := by
  rw [dropSubscriptions, callsTo, List.filterMap_flatMap, concerning, List.filter_flatMap,
    Table.flatMap_toList_of_ne _ pubId]
  · have members : node.Records pubId subId remoteId <->
        subId ∈ ((node.subscriptions.row remoteId)[pubId]?.getD ∅ : Keys CString) := by
      rw [Records, Table.cell, ExtTreeMap.getD_eq_getD_getElem?]
    simp only [members]
    by_cases published : pubId ∈ node.localPubs
    · simp only [published, if_true, true_and]
      cases (node.subscriptions.row remoteId)[pubId]? with
      | none => simp
      | some subIds => exact concerning_loop pubId subId remoteId subIds
    · cases (node.subscriptions.row remoteId)[pubId]? <;> simp [published]
  · intro other subIds different
    have silent : (if other ∈ node.localPubs then
        subIds.toList.map fun subId => Effect.removedSubscriber other remoteId subId else []).filterMap
          (Effect.call pubId) = [] := by
      apply callsTo_eq_nil
      intro effect member
      split at member
      · rcases List.mem_map.mp member with ⟨_, _, rfl⟩
        exact if_neg different
      · cases member
    rw [silent]
    rfl

/-- A known node vanishes. -/
private theorem Consistent.turn_removed (consistent : node.Consistent) (stub : NodeStub) :
    Turn node pubId subId (node.removed stub) := by
  by_cases known : stub.uuid ∈ node.nodes
  · have unlinked : callsTo pubId ((node.remotePubs.row stub.uuid).toList.flatMap fun entry =>
        node.removeRemotePubFromLocalSubs entry.2) = [] := by
      rw [callsTo, List.filterMap_flatMap, List.flatMap_eq_nil_iff]
      intro entry _
      exact node.callsTo_removeRemotePub pubId entry.2
    have calls : concerning subId (callsTo pubId (node.removed stub).2) =
        if pubId ∈ node.localPubs ∧ node.Records pubId subId stub.uuid then
          [.removedSubscriber stub.uuid subId]
        else [] := by
      rw [consistent.removed_of_known known, ← node.concerning_dropSubscriptions pubId subId stub.uuid,
        callsTo_append, callsTo_append, unlinked]
      exact congrArg (concerning subId) (List.append_nil _)
    have records : forall remoteId, (node.removed stub).1.Records pubId subId remoteId <->
        stub.uuid ≠ remoteId ∧ node.Records pubId subId remoteId := by
      intro remoteId
      rw [consistent.removed_of_known known, Records, Table.cell_erase]
      split
      · simp [*]
      · simp [*, Records]
    by_cases recorded : node.Records pubId subId stub.uuid
    · by_cases published : pubId ∈ node.localPubs
      · rw [if_pos ⟨published, recorded⟩] at calls
        exact .leaves stub.uuid recorded calls records
      · rw [if_neg (fun both => published both.1)] at calls
        exact .dropped stub.uuid published recorded calls records
    · rw [if_neg (fun both => recorded both.2)] at calls
      refine .quiet calls (fun remoteId => (records remoteId).trans ?_)
      refine and_iff_right_of_imp (fun present same => recorded ?_)
      exact same ▸ present
  · rw [consistent.removed_of_unknown known]
    exact .of_unchanged rfl rfl

private theorem turn_receive (node : ZeroMQNode) (pubId subId remoteId : CString) (message : Bytes) :
    Turn node pubId subId (node.receive remoteId message) := by
  have spec := node.receive_spec remoteId message
  generalize node.receive remoteId message = outcome at spec
  cases spec with
  | ignored => exact .of_unchanged rfl rfl
  | pubAdded pub _ _ =>
      refine .of_unchanged (callsTo_promote _ _ _) ?_
      exact (promote_subscriptions _ _).trans (park_subscriptions _ _ _)
  | pubRemoved pub pubStub _ _ _ _ => exact .of_unchanged (callsTo_removeRemotePub _ _ _) rfl
  | subscribed pub other known _ _ published fresh =>
      have calls : concerning subId (callsTo pubId [.addedSubscriber pub.uuid remoteId other]) =
          if pub.uuid = pubId ∧ other = subId then [.addedSubscriber remoteId other] else [] :=
        concerning_singleton rfl rfl
      by_cases concerned : pub.uuid = pubId ∧ other = subId
      · rw [if_pos concerned] at calls
        rcases concerned with ⟨rfl, rfl⟩
        refine .joins remoteId known published fresh calls ?_
        intro guest
        simp only [Records, Table.mem_cell_insertCell, and_true]
      · refine .quiet (calls.trans (if_neg concerned)) ?_
        · intro guest
          simp only [Records, Table.mem_cell_insertCell]
          exact or_iff_right (fun same => concerned same.2)
  | unsubscribed pub other known _ _ published recorded =>
      have calls : concerning subId (callsTo pubId [.removedSubscriber pub.uuid remoteId other]) =
          if pub.uuid = pubId ∧ other = subId then [.removedSubscriber remoteId other] else [] :=
        concerning_singleton rfl rfl
      by_cases concerned : pub.uuid = pubId ∧ other = subId
      · rw [if_pos concerned] at calls
        rcases concerned with ⟨rfl, rfl⟩
        refine .leaves remoteId recorded calls ?_
        intro guest
        simp only [Records, Table.mem_cell_pruneCell, and_true, ne_eq]
      · refine .quiet (calls.trans (if_neg concerned)) ?_
        · intro guest
          simp only [Records, Table.mem_cell_pruneCell]
          exact and_iff_right (fun same => concerned same.2)

/-- Every step is one of the four. -/
theorem Consistent.turn (consistent : node.Consistent) (event : NodeEvent) :
    Turn node pubId subId (node.step event) := by
  cases event with
  | added stub =>
      by_cases own : stub.uuid = node.uuid
      · rw [ZeroMQNode.step, ZeroMQNode.added, if_pos own]
        exact .of_unchanged rfl rfl
      · refine .of_unchanged ?_ ?_
        · simp only [ZeroMQNode.step, ZeroMQNode.added, if_neg own, callsTo_append, callsTo_announce,
            List.nil_append]
          exact callsTo_promote _ _ _
        · rw [ZeroMQNode.step, added_of_ne own, promote_subscriptions]
          rfl
  | removed stub => exact consistent.turn_removed stub
  | message remoteId body => exact node.turn_receive pubId subId remoteId body
  | addSubscriber sub =>
      refine .of_unchanged (callsTo_eq_nil ?_) rfl
      intro effect member
      rcases List.mem_flatMap.mp member with ⟨_, _, listed⟩
      simp only [List.mem_cons, List.not_mem_nil, or_false] at listed
      rcases listed with rfl | rfl <;> rfl
  | removeSubscriber sub =>
      by_cases present : sub ∈ node.localSubs
      · rw [ZeroMQNode.step, ZeroMQNode.removeSubscriber, if_neg (not_not_intro present)]
        refine .of_unchanged (callsTo_eq_nil ?_) rfl
        intro effect member
        rcases List.mem_flatMap.mp member with ⟨_, _, listed⟩
        simp only [List.mem_cons, List.not_mem_nil, or_false] at listed
        rcases listed with rfl | rfl <;> rfl
      · rw [ZeroMQNode.step, ZeroMQNode.removeSubscriber, if_pos present]
        exact .of_unchanged rfl rfl
  | addPublisher pub =>
      refine .of_unchanged ?_ (by rw [ZeroMQNode.step, addPublisher_eq])
      rw [ZeroMQNode.step, ZeroMQNode.addPublisher]
      split
      · exact node.callsTo_broadcast pubId _
      · rfl
  | removePublisher pub =>
      refine .of_unchanged ?_ (by rw [ZeroMQNode.step, removePublisher_eq])
      rw [ZeroMQNode.step, ZeroMQNode.removePublisher]
      split
      · exact node.callsTo_broadcast pubId _
      · rfl

end

end ZeroMQNode
end Connection
end Umundo
