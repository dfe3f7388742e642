import Umundo.Connection.NodeMessages
import Umundo.Foundation.Replica

namespace Umundo
namespace Connection

open Foundation Std

/-!
# What a node has heard of another node's publishers

A publisher that was announced is listed for its node, or parked while that
node is not discovered yet.  Both count as heard.  Discovery only moves
publishers from one table to the other, so it does not change what was heard,
and an announcement always adds to it.  A withdrawal is different: it takes
effect only if its sender is known.
-/

/-- What a control message announces about a publisher. -/
def publisherUpdate : ControlMessage -> Option (Update CString)
  | .pubAdded pub => some (.add pub.uuid)
  | .pubRemoved pub => some (.remove pub.uuid)
  | _ => none

def publisherUpdates (messages : List ControlMessage) : List (Update CString) :=
  messages.filterMap publisherUpdate

theorem mem_publisherUpdates_add {messages : List ControlMessage} {pubId : CString} :
    .add pubId ∈ publisherUpdates messages <->
      Exists fun pub : PublisherInfo => pub.uuid = pubId ∧ .pubAdded pub ∈ messages := by
  simp only [publisherUpdates, List.mem_filterMap]
  constructor
  · rintro ⟨message, member, announced⟩
    cases message with
    | pubAdded pub =>
        cases announced
        exact ⟨pub, rfl, member⟩
    | pubRemoved pub => cases announced
    | _ => cases announced
  · rintro ⟨pub, same, member⟩
    exact ⟨_, member, by rw [publisherUpdate, same]⟩

theorem mem_publisherUpdates_remove {messages : List ControlMessage} {pubId : CString} :
    .remove pubId ∈ publisherUpdates messages <->
      Exists fun pub : PublisherInfo => pub.uuid = pubId ∧ .pubRemoved pub ∈ messages := by
  simp only [publisherUpdates, List.mem_filterMap]
  constructor
  · rintro ⟨message, member, announced⟩
    cases message with
    | pubRemoved pub =>
        cases announced
        exact ⟨pub, rfl, member⟩
    | pubAdded pub => cases announced
    | _ => cases announced
  · rintro ⟨pub, same, member⟩
    exact ⟨_, member, by rw [publisherUpdate, same]⟩

namespace ZeroMQNode

/-- A publisher of a remote node is listed or parked. -/
def Heard (node : ZeroMQNode) (remoteId pubId : CString) : Prop :=
  pubId ∈ node.remotePubs.row remoteId ∨ pubId ∈ node.pendingRemotePubs.row remoteId

/-- Nothing is parked for a node that is known. -/
def Drained (node : ZeroMQNode) : Prop :=
  forall remoteId, remoteId ∈ node.nodes -> node.pendingRemotePubs.row remoteId = ∅

theorem Drained.init (uuid : CString) : Drained (init uuid) := by
  intro remoteId known
  simp [ZeroMQNode.init] at known

theorem Drained.step {node : ZeroMQNode} (consistent : node.Consistent) (drained : node.Drained)
    (event : NodeEvent) : Drained (node.step event).1 := by
  cases event with
  | added stub =>
      by_cases own : stub.uuid = node.uuid
      · rw [ZeroMQNode.step, added, if_pos own]
        exact drained
      · rw [ZeroMQNode.step, added_of_ne own]
        intro remoteId known
        rw [promote_nodes] at known
        rw [row_promote_pending]
        split
        · rfl
        · rename_i different
          rcases ExtTreeMap.mem_insert.mp known with same | old
          · have same := LawfulEqCmp.eq_of_compare same
            exact (different ⟨same, same ▸ known⟩).elim
          · exact drained remoteId old
  | removed stub =>
      by_cases known : stub.uuid ∈ node.nodes
      · rw [ZeroMQNode.step, consistent.removed_of_known known]
        intro remoteId present
        rw [Table.row_erase]
        split
        · rfl
        · exact drained remoteId (ExtTreeMap.mem_of_mem_erase present)
      · rw [ZeroMQNode.step, consistent.removed_of_unknown known]
        exact drained
  | message sender body =>
      have spec := node.receive_spec sender body
      rw [ZeroMQNode.step]
      generalize node.receive sender body = outcome at spec
      cases spec with
      | pubAdded pub =>
          intro remoteId known
          rw [addRemotePubToLocalSubs, promote_nodes] at known
          rw [addRemotePubToLocalSubs, row_promote_pending]
          split
          · rfl
          · rename_i different
            have other : sender ≠ remoteId := fun same => different ⟨same, same ▸ known⟩
            rw [park_nodes] at known
            rw [park, Table.store, Table.row_insert, if_neg other]
            exact drained remoteId known
      | _ => exact drained
  | addSubscriber sub =>
      rw [ZeroMQNode.step, consistent.addSubscriber_eq]
      exact drained
  | removeSubscriber sub =>
      rw [ZeroMQNode.step, consistent.removeSubscriber_eq]
      exact drained
  | addPublisher pub =>
      rw [ZeroMQNode.step, addPublisher_eq]
      exact drained
  | removePublisher pub =>
      rw [ZeroMQNode.step, removePublisher_eq]
      exact drained

/-- For a known node, heard means listed. -/
theorem Drained.heard_iff {node : ZeroMQNode} (drained : node.Drained) {remoteId pubId : CString}
    (known : remoteId ∈ node.nodes) :
    node.Heard remoteId pubId <-> pubId ∈ node.remotePubs.row remoteId := by
  rw [Heard, drained remoteId known]
  simp only [ExtTreeMap.not_mem_empty, or_false]

/-- Promotion moves publishers between the two tables. -/
theorem Consistent.heard_promote {node : ZeroMQNode} (consistent : node.Consistent)
    {sender remoteId pubId : CString} :
    (node.promote sender).1.Heard remoteId pubId <-> node.Heard remoteId pubId := by
  rw [Heard, consistent.mem_row_promote, row_promote_pending, Heard]
  by_cases moved : sender = remoteId ∧ sender ∈ node.nodes
  · rcases moved with ⟨same, known⟩
    subst same
    simp only [known, true_and, and_self, if_true, ExtTreeMap.not_mem_empty, or_false]
    exact or_comm
  · rw [if_neg moved]
    constructor
    · rintro ((⟨same, known, _⟩ | listed) | parked)
      · exact (moved ⟨same, known⟩).elim
      · exact Or.inl listed
      · exact Or.inr parked
    · rintro (listed | parked)
      · exact Or.inl (Or.inr listed)
      · exact Or.inr parked

theorem Consistent.heard_added {node : ZeroMQNode} (consistent : node.Consistent)
    {stub : NodeStub} {remoteId pubId : CString} :
    (node.added stub).1.Heard remoteId pubId <-> node.Heard remoteId pubId := by
  by_cases own : stub.uuid = node.uuid
  · rw [ZeroMQNode.added, if_pos own]
  · rw [added_of_ne own, (consistent.connect own).heard_promote]
    exact Iff.rfl

/-- Delivering a message updates what was heard of its sender as the message
announces, except that a withdrawal from an unknown node is dropped. -/
theorem Consistent.heard_receive {node : ZeroMQNode} (consistent : node.Consistent)
    (drained : node.Drained) {remoteId pubId : CString} {message : ControlMessage}
    (effective : forall pub, message = .pubRemoved pub -> remoteId ∈ node.nodes) :
    (node.receive remoteId message.encode).1.Heard remoteId pubId <->
      replay (node.Heard remoteId) (publisherUpdates [message]) pubId := by
  cases message with
  | pubAdded pub =>
      rw [receive_pubAdded, ZeroMQNode.addRemotePubToLocalSubs,
        (consistent.park remoteId _).heard_promote, Heard, park_remotePubs, mem_row_park]
      change _ <-> pub.uuid = pubId ∨ node.Heard remoteId pubId
      simp only [PublisherStub.ofInfo, true_and, Heard]
      grind
  | pubRemoved pub =>
      have known := effective pub rfl
      change _ <-> pub.uuid ≠ pubId ∧ node.Heard remoteId pubId
      rw [receive_pubRemoved, if_pos known, drained.heard_iff known]
      cases listed : (node.remotePubs.row remoteId)[pub.uuid]? with
      | none =>
          have unlisted : pub.uuid ∉ node.remotePubs.row remoteId := by
            rw [ExtTreeMap.mem_iff_isSome_getElem?, listed]
            exact Bool.false_ne_true
          rw [drained.heard_iff known]
          exact ⟨fun member => ⟨fun same => unlisted (same ▸ member), member⟩, And.right⟩
      | some pubStub =>
          simp only [Heard, drained remoteId known, ExtTreeMap.not_mem_empty, or_false,
            Table.mem_row_eraseColumn, true_and, ne_eq]
  | subscribe pub subId =>
      rw [receive_subscribe]
      split <;> exact Iff.rfl
  | unsubscribe pub subId =>
      rw [receive_unsubscribe]
      split <;> exact Iff.rfl

/-- A withdrawal that is dropped changes nothing. -/
theorem receive_pubRemoved_of_unknown {node : ZeroMQNode} {remoteId : CString}
    (unknown : remoteId ∉ node.nodes) (pub : PublisherInfo) :
    node.receive remoteId (ControlMessage.pubRemoved pub).encode = (node, []) := by
  rw [receive_pubRemoved, if_neg unknown]

end ZeroMQNode
end Connection
end Umundo
