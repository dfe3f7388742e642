import Mathlib.Data.List.Perm.Subperm
import Umundo.Connection.PublisherCalls
import Umundo.Foundation.Checked

namespace Umundo
namespace Connection

open Foundation Std

/-!
# Suspending and resuming a node

A node is suspended by removing its publishers, which it remembers, and by pretending
that every remote node vanished.  It is resumed by adding the publishers again.  Remote
nodes are found again by a new query.

The functions that take part in this check themselves: here a failed assertion aborts
the program.  `validateState` is called at the end of most functions.
-/

namespace ZeroMQNode

/-- A remote publisher is filed under its uuid and has the address of its node. -/
def validPublisher (stub : NodeStub) (entry : CString × PublisherStub) : Bool :=
  entry.1 == entry.2.uuid && stub.host == entry.2.host && stub.domain == entry.2.domain &&
    stub.transport == entry.2.transport && stub.ip == entry.2.ip

/-- All assertions of `validateState`. -/
def validateState (node : ZeroMQNode) : Bool :=
  node.nodes.keys.all (fun remoteId => decide (remoteId ∈ node.sockets)) &&
  node.nodes.size == node.sockets.size &&
  node.remotePubs.toList.all (fun entry => decide (entry.1 ∈ node.pendingRemotePubs) ||
    decide (entry.1 ∈ node.sockets) && node.nodes[entry.1]?.any fun stub =>
      entry.2.toList.all (validPublisher stub)) &&
  decide (node.remotePubs.size ≤ node.nodes.size) &&
  node.subscriptions.toList.all fun entry => decide (entry.1 ∈ node.nodes) &&
    decide (0 < entry.2.size) && entry.2.toList.all fun subscribers => decide (0 < subscribers.2.size)

def validated (result : ZeroMQNode × List Effect) : Option (ZeroMQNode × List Effect) :=
  check (result.1.validateState = true) (some result)

/-- A publisher with a known uuid is one on the same channel. -/
def addPublisherChecked (node : ZeroMQNode) (pub : PublisherInfo) :
    Option (ZeroMQNode × List Effect) :=
  check (node.localPubs[pub.uuid]?.all (fun known => pub.channelName == known.channelName) = true) <|
  validated (node.addPublisher pub)

/-- Only known publishers are removed. -/
def removePublisherChecked (node : ZeroMQNode) (pub : PublisherInfo) :
    Option (ZeroMQNode × List Effect) :=
  check (pub.uuid ∈ node.localPubs) <|
  check (pub.uuid ∉ (node.removePublisher pub).1.localPubs) <|
  validated (node.removePublisher pub)

def removedChecked (node : ZeroMQNode) (stub : NodeStub) : Option (ZeroMQNode × List Effect) :=
  if stub.uuid = node.uuid then some (node.removed stub)
  else if stub.uuid ∉ node.sockets then validated (node.removed stub)
  else
    check ((node.removed stub).1.sockets.size = (node.removed stub).1.nodes.size) <|
    validated (node.removed stub)

end ZeroMQNode

/-- What a node does while it is suspended or resumed, besides its usual calls. -/
inductive LifecycleEffect where
  | call (effect : Effect)
  | publisherSuspended (pubId : CString)
  | publisherResumed (pubId : CString)
  | subscriberResumed (sub : Subscriber)
  /-- `Discovery::unbrowse(_nodeQuery)` -/
  | unbrowse
  /-- the thread is joined, and the node socket is closed -/
  | stopped
  /-- `init(_config)` -/
  | started
  | aborted
deriving DecidableEq

/-- A node that can be suspended.  The publishers of the node are objects that may be bound
to another port when they are resumed. -/
structure LifecycleNode where
  node : ZeroMQNode
  isSuspended : Bool
  suspendedLocalPubs : Table CString PublisherInfo

namespace LifecycleNode

def init (uuid : CString) : LifecycleNode := ⟨.init uuid, false, ∅⟩

def calls (result : ZeroMQNode × List Effect) : ZeroMQNode × List LifecycleEffect :=
  (result.1, result.2.map .call)

/-- One iteration of the loop over the local publishers in `suspend`. -/
def suspendPublisher (node : ZeroMQNode) (pub : PublisherInfo) :
    Option (ZeroMQNode × List LifecycleEffect) :=
  (node.removePublisherChecked pub).map fun result =>
    (result.1, .publisherSuspended pub.uuid :: result.2.map .call)

/-- One iteration of the loop over the remote nodes in `suspend`. -/
def forgetNode (node : ZeroMQNode) (stub : NodeStub) : Option (ZeroMQNode × List LifecycleEffect) :=
  (node.removedChecked stub).map calls

def suspend (state : LifecycleNode) : Option (LifecycleNode × List LifecycleEffect) :=
  if state.isSuspended then some (state, [])
  else
    (runChecked suspendPublisher state.node (state.node.localPubs.toList.map Prod.snd)).bind
      fun withdrawn =>
        check (withdrawn.1.localPubs.size = 0) <|
        (runChecked forgetNode withdrawn.1 (withdrawn.1.nodes.toList.map Prod.snd)).map
          fun emptied =>
            (⟨emptied.1, true, state.node.localPubs⟩,
              .unbrowse :: withdrawn.2 ++ emptied.2 ++ [.stopped])

/-- A publisher is bound again.  If the node knows it, this is the object it knows. -/
def rebind (node : ZeroMQNode) (pub : PublisherInfo) : ZeroMQNode :=
  if pub.uuid ∈ node.localPubs then { node with localPubs := node.localPubs.insert pub.uuid pub }
  else node

/-- One iteration of the loop over the suspended publishers in `resume`. -/
def resumePublisher (node : ZeroMQNode) (pub : PublisherInfo) :
    Option (ZeroMQNode × List LifecycleEffect) :=
  ((rebind node pub).addPublisherChecked pub).map fun result =>
    (result.1, .publisherResumed pub.uuid :: result.2.map .call)

/-- The ports are those to which the publishers are bound. -/
def resume (ports : CString -> UInt16) (state : LifecycleNode) :
    Option (LifecycleNode × List LifecycleEffect) :=
  if state.isSuspended then
    (runChecked resumePublisher state.node (state.suspendedLocalPubs.toList.map fun entry =>
        { entry.2 with port := ports entry.1 })).map fun restored =>
      (⟨restored.1, false, ∅⟩,
        restored.2 ++ restored.1.localSubs.toList.map .subscriberResumed ++ [.started])
  else some (state, [])

end LifecycleNode

/-! ## Runs -/

inductive LifecycleEvent where
  | node (event : NodeEvent)
  | suspend
  | resume (ports : CString -> UInt16)

namespace LifecycleNode

/-- An event that is not about the suspension. -/
def nodeStep (node : ZeroMQNode) : NodeEvent -> Option (ZeroMQNode × List Effect)
  | .addPublisher pub => node.addPublisherChecked pub
  | .removePublisher pub => node.removePublisherChecked pub
  | .removed stub => node.removedChecked stub
  | event => some (node.step event)

/-- A call, or nothing if it is aborted. -/
def react (state : LifecycleNode) : LifecycleEvent -> Option (LifecycleNode × List LifecycleEffect)
  | .node event => (nodeStep state.node event).map fun result =>
      ({ state with node := result.1 }, result.2.map .call)
  | .suspend => state.suspend
  | .resume ports => state.resume ports

def step (state : LifecycleNode) (event : LifecycleEvent) : LifecycleNode × List LifecycleEffect :=
  (state.react event).getD (state, [.aborted])

end LifecycleNode

/-! ## Valid states -/

namespace ZeroMQNode

/-- All that the assertions rely on. -/
structure Valid (node : ZeroMQNode) : Prop extends Consistent node where
  matching : node.EndPointsMatch
  stubs : forall (remoteId : CString) (stub : NodeStub), node.nodes[remoteId]? = some stub ->
    stub.uuid = remoteId

namespace Valid

variable {node : ZeroMQNode}

theorem init (uuid : CString) : Valid (init uuid) where
  toConsistent := .init uuid
  matching := .init uuid
  stubs remoteId stub found := by simp [ZeroMQNode.init] at found

private theorem size_le_of_subset {V W : Type} {first : Table CString V} {second : Table CString W}
    (subset : forall key, key ∈ first -> key ∈ second) : first.size ≤ second.size := by
  rw [← ExtTreeMap.length_keys, ← ExtTreeMap.length_keys]
  refine (List.subperm_of_subset (Table.nodup_keys first) fun key member => ?_).length_le
  exact ExtTreeMap.mem_keys.mpr (subset key (ExtTreeMap.mem_keys.mp member))

theorem size_sockets (valid : node.Valid) : node.sockets.size = node.nodes.size :=
  Nat.le_antisymm (size_le_of_subset fun remoteId => (valid.sockets_iff remoteId).mp)
    (size_le_of_subset fun remoteId => (valid.sockets_iff remoteId).mpr)

private theorem pos_size_of_ne {V : Type} {table : Table CString V} (filled : table ≠ ∅) :
    0 < table.size := by
  rw [Nat.pos_iff_ne_zero]
  intro none
  exact filled (ExtTreeMap.eq_empty_iff_size_eq_zero.mpr none)

private theorem validPublishers (valid : node.Valid) {remoteId : CString} {stub : NodeStub}
    {pubs : Table CString PublisherStub} (known : node.nodes[remoteId]? = some stub)
    (filed : node.remotePubs[remoteId]? = some pubs) : pubs.toList.all (validPublisher stub) = true := by
  rw [List.all_eq_true]
  rintro ⟨uuid, pub⟩ listed
  have stored : (node.remotePubs.row remoteId)[uuid]? = some pub := by
    rw [Table.row_of_getElem? filed]
    exact ExtTreeMap.mem_toList_iff_getElem?_eq_some.mp listed
  obtain ⟨host, domain, transport, ip⟩ := valid.matching remoteId uuid pub stub stored known
  rw [validPublisher, valid.remote_uuid remoteId uuid pub stored, host, domain, transport, ip]
  simp only [beq_self_eq_true, Bool.and_self]

theorem validateState (valid : node.Valid) : node.validateState = true := by
  simp only [ZeroMQNode.validateState, Bool.and_eq_true, List.all_eq_true, decide_eq_true_eq, beq_iff_eq,
    ExtTreeMap.mem_keys, ExtTreeMap.mem_toList_iff_getElem?_eq_some, Prod.forall]
  refine ⟨⟨⟨⟨fun remoteId => (valid.sockets_iff remoteId).mpr, valid.size_sockets.symm⟩,
    fun remoteId pubs filed => ?_⟩, size_le_of_subset valid.remote_known⟩, fun remoteId pubs filed => ?_⟩
  · have known := valid.remote_known remoteId (Table.mem_of_getElem? filed)
    obtain ⟨stub, found⟩ :=
      Table.getElem?_of_mem known
    rw [found, Option.any_some, valid.validPublishers found filed,
      decide_eq_true ((valid.sockets_iff remoteId).mpr known)]
    exact Bool.or_true _
  · have member := Table.mem_of_getElem? filed
    refine ⟨⟨valid.subscriptions_known remoteId member, ?_⟩, fun pubId subscribers stored => ?_⟩
    · exact pos_size_of_ne (valid.subscriptions_pruned.rows remoteId pubs filed)
    · have filled := valid.subscriptions_pruned.cells remoteId pubs pubId subscribers filed stored
      rw [Nat.pos_iff_ne_zero]
      intro none
      exact filled (ExtTreeSet.eq_empty_iff_size_eq_zero.mpr none)

theorem validated_eq {result : ZeroMQNode × List Effect} (valid : result.1.Valid) :
    validated result = some result :=
  if_pos valid.validateState

private theorem stubs_of_nodes (valid : node.Valid) {next : ZeroMQNode} (same : next.nodes = node.nodes)
    (remoteId : CString) (stub : NodeStub) (found : next.nodes[remoteId]? = some stub) :
    stub.uuid = remoteId :=
  valid.stubs remoteId stub (same ▸ found)

theorem removed (valid : node.Valid) (stub : NodeStub) : Valid (node.removed stub).1 where
  toConsistent := valid.toConsistent.removed stub
  matching := valid.matching.removed valid.toConsistent stub
  stubs remoteId other found := by
    by_cases known : stub.uuid ∈ node.nodes
    · rw [valid.removed_of_known known, Table.getElem?_erase_eq] at found
      split at found
      · cases found
      · exact valid.stubs remoteId other found
    · rw [valid.removed_of_unknown known] at found
      exact valid.stubs remoteId other found

theorem added (valid : node.Valid) {stub : NodeStub} (fresh : stub.uuid ∉ node.nodes) :
    Valid (node.added stub).1 where
  toConsistent := valid.toConsistent.added stub
  matching := valid.matching.added valid.toConsistent fresh
  stubs remoteId other found := by
    by_cases own : stub.uuid = node.uuid
    · rw [ZeroMQNode.added, if_pos own] at found
      exact valid.stubs remoteId other found
    · rw [added_of_ne own, promote_nodes] at found
      change (node.nodes.insert stub.uuid stub)[remoteId]? = some other at found
      rw [Table.getElem?_insert_eq] at found
      split at found
      next same => exact Option.some.inj found ▸ same.symm
      next => exact valid.stubs remoteId other found

/-- Every event of a node that is told about unknown nodes only. -/
theorem step (valid : node.Valid) {event : NodeEvent}
    (fresh : forall stub, event = .added stub -> stub.uuid ∉ node.nodes) :
    Valid (node.step event).1 := by
  have consistent := valid.toConsistent.step event
  cases event with
  | added stub => exact valid.added (fresh stub rfl)
  | removed stub => exact valid.removed stub
  | message remoteId body =>
      exact ⟨consistent, valid.matching.receive remoteId body, valid.stubs_of_nodes (receive_nodes _ _ _)⟩
  | addSubscriber sub => exact ⟨consistent, valid.matching, valid.stubs⟩
  | removeSubscriber sub =>
      rw [ZeroMQNode.step, valid.removeSubscriber_eq] at consistent ⊢
      exact ⟨consistent, valid.matching, valid.stubs⟩
  | addPublisher pub =>
      rw [ZeroMQNode.step, addPublisher_eq] at consistent ⊢
      exact ⟨consistent, valid.matching, valid.stubs⟩
  | removePublisher pub =>
      rw [ZeroMQNode.step, removePublisher_eq] at consistent ⊢
      exact ⟨consistent, valid.matching, valid.stubs⟩

theorem addPublisher (valid : node.Valid) (pub : PublisherInfo) : Valid (node.addPublisher pub).1 :=
  show Valid (node.step (.addPublisher pub)).1 from valid.step fun _ other => by cases other

theorem removePublisher (valid : node.Valid) (pub : PublisherInfo) :
    Valid (node.removePublisher pub).1 :=
  show Valid (node.step (.removePublisher pub)).1 from valid.step fun _ other => by cases other

/-! No assertion fails, except that unknown publishers are not removed. -/

theorem addPublisherChecked_eq (valid : node.Valid) {pub : PublisherInfo}
    (same : forall known, node.localPubs[pub.uuid]? = some known -> pub.channelName = known.channelName) :
    node.addPublisherChecked pub = some (node.addPublisher pub) := by
  rw [addPublisherChecked, check, if_pos]
  · exact validated_eq (valid.addPublisher pub)
  · rw [Option.all_eq_true_iff_get]
    intro present
    exact beq_iff_eq.mpr (same _ (Option.some_get present).symm)

theorem removePublisherChecked_eq (valid : node.Valid) (pub : PublisherInfo) :
    node.removePublisherChecked pub =
      if pub.uuid ∈ node.localPubs then some (node.removePublisher pub) else none := by
  rw [removePublisherChecked, check]
  refine if_congr Iff.rfl ?_ rfl
  rw [check, if_pos]
  · exact validated_eq (valid.removePublisher pub)
  · rw [removePublisher_eq]
    exact fun still => (ExtTreeMap.mem_erase.mp still).1 ReflCmp.compare_self

theorem removedChecked_eq (valid : node.Valid) (stub : NodeStub) :
    node.removedChecked stub = some (node.removed stub) := by
  have after := valid.removed stub
  rw [removedChecked]
  split
  · rfl
  · split
    · exact validated_eq after
    · rw [check, if_pos after.size_sockets, validated_eq after]

end Valid

end ZeroMQNode

/-! ## Suspending -/

namespace LifecycleNode

/-- The calls on the publisher with the given uuid. -/
def publisherCalls (pubId : CString) (effects : List LifecycleEffect) : List PublisherEvent :=
  effects.filterMap fun effect => match effect with
    | .call effect => effect.call pubId
    | _ => none

/-- Nothing fails, and no publisher is told about a subscriber. -/
def Discreet (effect : LifecycleEffect) : Prop :=
  effect ≠ .aborted ∧ forall called, effect = .call called -> forall pubId, called.call pubId = none

theorem publisherCalls_of_discreet {effects : List LifecycleEffect}
    (discreet : forall effect, effect ∈ effects -> Discreet effect) (pubId : CString) :
    publisherCalls pubId effects = [] := by
  refine List.filterMap_eq_nil_iff.mpr fun effect member => ?_
  cases effect with
  | call called => exact (discreet _ member).2 called rfl pubId
  | _ => rfl

private theorem discreet_calls {effects : List Effect}
    (silent : forall pubId, callsTo pubId effects = []) :
    forall effect, effect ∈ effects.map LifecycleEffect.call -> Discreet effect := by
  intro effect member
  obtain ⟨called, listed, rfl⟩ := List.mem_map.mp member
  refine ⟨LifecycleEffect.noConfusion, fun other same pubId => ?_⟩
  cases same
  exact List.filterMap_eq_nil_iff.mp (silent pubId) called listed

private theorem mem_rest_iff {first key : CString} {rest : List CString} (fresh : first ∉ rest) :
    first ≠ key ∧ key ∈ first :: rest <-> key ∈ rest := by
  rw [List.mem_cons]
  constructor
  · rintro ⟨different, listed⟩
    exact listed.resolve_left (Ne.symm different)
  · intro listed
    refine ⟨?_, .inr listed⟩
    rintro rfl
    exact fresh listed

/-- On the way through the loop over the local publishers. -/
structure Withdrawing (origin node : ZeroMQNode) (rest : List PublisherInfo) : Prop where
  valid : node.Valid
  same : Exists fun pubs => node = { origin with localPubs := pubs }
  once : (rest.map PublisherInfo.uuid).Nodup
  left : forall uuid, uuid ∈ node.localPubs <-> uuid ∈ rest.map PublisherInfo.uuid

theorem Withdrawing.step {origin node : ZeroMQNode} {pub : PublisherInfo} {rest : List PublisherInfo}
    (withdrawing : Withdrawing origin node (pub :: rest)) :
    Ensures (suspendPublisher node pub) fun next =>
      Withdrawing origin next.1 rest ∧ forall effect, effect ∈ next.2 -> Discreet effect := by
  have known : pub.uuid ∈ node.localPubs := (withdrawing.left pub.uuid).mpr List.mem_cons_self
  obtain ⟨fresh, once⟩ := List.nodup_cons.mp withdrawing.once
  rw [suspendPublisher, withdrawing.valid.removePublisherChecked_eq, if_pos known]
  refine .done ⟨⟨withdrawing.valid.removePublisher pub, ?_, once, fun uuid => ?_⟩, fun effect member => ?_⟩
  · obtain ⟨pubs, same⟩ := withdrawing.same
    rw [node.removePublisher_eq, same]
    exact ⟨_, rfl⟩
  · rw [node.removePublisher_eq, ExtTreeMap.mem_erase, ne_eq, LawfulEqCmp.compare_eq_iff_eq,
      withdrawing.left, List.map_cons]
    exact mem_rest_iff fresh
  · rcases List.mem_cons.mp member with rfl | called
    · exact ⟨LifecycleEffect.noConfusion, fun _ => LifecycleEffect.noConfusion⟩
    · refine discreet_calls (fun pubId => ?_) effect called
      rw [ZeroMQNode.removePublisher, if_pos known]
      exact node.callsTo_broadcast pubId _

/-- On the way through the loop over the remote nodes.  There are no local publishers. -/
structure Forgetting (origin node : ZeroMQNode) (rest : List NodeStub) : Prop where
  valid : node.Valid
  localPubs : node.localPubs = ∅
  once : (rest.map NodeStub.uuid).Nodup
  left : forall remoteId, remoteId ∈ node.nodes <-> remoteId ∈ rest.map NodeStub.uuid
  known : forall remoteId, remoteId ∈ node.nodes -> remoteId ∈ origin.nodes
  gone : forall remoteId : CString, remoteId ∈ origin.nodes -> remoteId ∉ node.nodes ->
    node.pendingRemotePubs[remoteId]? = none
  kept : forall remoteId : CString, remoteId ∉ origin.nodes ->
    node.pendingRemotePubs[remoteId]? = origin.pendingRemotePubs[remoteId]?

/-- Publishers are told nothing when a remote node vanishes, if none of them is left. -/
private theorem Forgetting.discreet {origin node : ZeroMQNode} {stub : NodeStub} {rest : List NodeStub}
    (forgetting : Forgetting origin node (stub :: rest)) :
    forall effect, effect ∈ (calls (node.removed stub)).2 -> Discreet effect := by
  have known : stub.uuid ∈ node.nodes := (forgetting.left stub.uuid).mpr List.mem_cons_self
  have dropped : node.dropSubscriptions stub.uuid = [] := by
    refine List.flatMap_eq_nil_iff.mpr fun entry _ => if_neg ?_
    rw [forgetting.localPubs]
    exact ExtTreeMap.not_mem_empty
  refine discreet_calls fun pubId => ?_
  have unlinked : callsTo pubId ((node.remotePubs.row stub.uuid).toList.flatMap fun entry =>
      node.removeRemotePubFromLocalSubs entry.2) = [] := by
    rw [callsTo, List.filterMap_flatMap, List.flatMap_eq_nil_iff]
    exact fun entry _ => node.callsTo_removeRemotePub pubId entry.2
  rw [forgetting.valid.removed_of_known known, dropped, List.append_nil, callsTo_append, unlinked]
  rfl

theorem Forgetting.step {origin node : ZeroMQNode} {stub : NodeStub} {rest : List NodeStub}
    (forgetting : Forgetting origin node (stub :: rest)) :
    Ensures (forgetNode node stub) fun next =>
      Forgetting origin next.1 rest ∧ forall effect, effect ∈ next.2 -> Discreet effect := by
  have known : stub.uuid ∈ node.nodes := (forgetting.left stub.uuid).mpr List.mem_cons_self
  have after := forgetting.valid.removed_of_known known
  obtain ⟨fresh, once⟩ := List.nodup_cons.mp forgetting.once
  have remaining (remoteId : CString) : remoteId ∈ (node.removed stub).1.nodes <->
      stub.uuid ≠ remoteId ∧ remoteId ∈ node.nodes := by
    rw [after, ExtTreeMap.mem_erase, ne_eq, LawfulEqCmp.compare_eq_iff_eq]
  have erased : (node.removed stub).1.pendingRemotePubs = node.pendingRemotePubs.erase stub.uuid := by
    rw [after]
  rw [forgetNode, forgetting.valid.removedChecked_eq]
  refine .done ⟨⟨forgetting.valid.removed stub, ?_, once, fun remoteId => ?_, fun remoteId member => ?_,
    fun remoteId before now => ?_, fun remoteId unknown => ?_⟩, forgetting.discreet⟩
  · rw [calls, after]
    exact forgetting.localPubs
  · refine (remaining remoteId).trans ?_
    rw [forgetting.left, List.map_cons]
    exact mem_rest_iff fresh
  · exact forgetting.known remoteId ((remaining remoteId).mp member).2
  · rw [calls, erased, Table.getElem?_erase_eq]
    split
    next => rfl
    next different =>
      refine forgetting.gone remoteId before fun present => now ?_
      exact (remaining remoteId).mpr ⟨Ne.symm different, present⟩
  · rw [calls, erased, Table.getElem?_erase_eq, if_neg, forgetting.kept remoteId unknown]
    rintro rfl
    exact unknown (forgetting.known stub.uuid known)

/-- What a suspension leaves. -/
structure Suspended (state next : LifecycleNode) : Prop where
  valid : next.node.Valid
  isSuspended : next.isSuspended = true
  suspendedLocalPubs : next.suspendedLocalPubs = state.node.localPubs
  localPubs : next.node.localPubs = ∅
  nodes : next.node.nodes = ∅
  gone : forall remoteId : CString, remoteId ∈ state.node.nodes ->
    next.node.pendingRemotePubs[remoteId]? = none
  kept : forall remoteId : CString, remoteId ∉ state.node.nodes ->
    next.node.pendingRemotePubs[remoteId]? = state.node.pendingRemotePubs[remoteId]?

/-- Values that know their keys. -/
private theorem map_name_toList {V : Type} {table : Table CString V} {name : V -> CString}
    (named : forall (key : CString) (value : V), table[key]? = some value -> name value = key) :
    (table.toList.map Prod.snd).map name = table.keys := by
  rw [List.map_map, ← ExtTreeMap.map_fst_toList_eq_keys]
  refine List.map_congr_left fun entry listed => ?_
  exact named entry.1 entry.2 (ExtTreeMap.mem_toList_iff_getElem?_eq_some.mp listed)

private theorem withdrawing_start {node : ZeroMQNode} (valid : node.Valid) :
    Withdrawing node node (node.localPubs.toList.map Prod.snd) := by
  have uuids := map_name_toList valid.local_uuid
  refine ⟨valid, ⟨_, rfl⟩, ?_, fun uuid => ?_⟩
  · rw [uuids]
    exact Table.nodup_keys _
  · rw [uuids, ExtTreeMap.mem_keys]

private theorem forgetting_start {node : ZeroMQNode} (valid : node.Valid) (withdrawn : node.localPubs = ∅) :
    Forgetting node node (node.nodes.toList.map Prod.snd) := by
  have uuids := map_name_toList valid.stubs
  refine ⟨valid, withdrawn, ?_, fun remoteId => ?_, fun _ => id, fun _ here gone => absurd here gone,
    fun _ _ => rfl⟩
  · rw [uuids]
    exact Table.nodup_keys _
  · rw [uuids, ExtTreeMap.mem_keys]

theorem suspend_spec {state : LifecycleNode} (valid : state.node.Valid)
    (awake : state.isSuspended = false) :
    Ensures state.suspend fun result => Suspended state result.1 ∧
      forall effect, effect ∈ result.2 -> Discreet effect := by
  rw [suspend, if_neg (Bool.eq_false_iff.mp awake)]
  refine .bind (.runChecked (Withdrawing state.node) Discreet (fun _ _ _ => Withdrawing.step)
    (withdrawing_start valid)) fun middle withdrawn => ?_
  obtain ⟨withdrawn, discreet⟩ := withdrawn
  have vacant : middle.1.localPubs = ∅ :=
    Table.eq_empty_of_not_mem fun uuid => List.not_mem_nil ∘ (withdrawn.left uuid).mp
  refine .check (by rw [vacant]; rfl) ?_
  refine (Ensures.runChecked (Forgetting middle.1) Discreet (fun _ _ _ => Forgetting.step)
    (forgetting_start withdrawn.valid vacant)).map fun last emptied => ?_
  obtain ⟨emptied, discreet'⟩ := emptied
  have unchanged : middle.1.nodes = state.node.nodes ∧
      middle.1.pendingRemotePubs = state.node.pendingRemotePubs := by
    obtain ⟨pubs, same⟩ := withdrawn.same
    rw [same]
    exact ⟨rfl, rfl⟩
  have nodes : last.1.nodes = ∅ :=
    Table.eq_empty_of_not_mem fun remoteId => List.not_mem_nil ∘ (emptied.left remoteId).mp
  refine ⟨⟨emptied.valid, rfl, rfl, emptied.localPubs, nodes, fun remoteId before => ?_,
    fun remoteId unknown => ?_⟩, fun effect member => ?_⟩
  · refine emptied.gone remoteId (unchanged.1 ▸ before) ?_
    rw [nodes]
    exact ExtTreeMap.not_mem_empty
  · rw [← unchanged.2]
    exact emptied.kept remoteId (unchanged.1 ▸ unknown)
  · simp only [List.cons_append, List.mem_cons, List.mem_append, List.not_mem_nil, or_false] at member
    rcases member with rfl | (first | second) | rfl
    · exact ⟨LifecycleEffect.noConfusion, fun _ => LifecycleEffect.noConfusion⟩
    · exact discreet effect first
    · exact discreet' effect second
    · exact ⟨LifecycleEffect.noConfusion, fun _ => LifecycleEffect.noConfusion⟩

/-! ## Resuming -/

private theorem valid_rebind {node : ZeroMQNode} (valid : node.Valid) (pub : PublisherInfo) :
    (rebind node pub).Valid := by
  rw [rebind]
  split
  next =>
    refine ⟨{ valid.toConsistent with local_uuid := fun uuid found stored => ?_ }, valid.matching, valid.stubs⟩
    rw [Table.getElem?_insert_eq] at stored
    split at stored
    next same => exact Option.some.inj stored ▸ same.symm
    next => exact valid.local_uuid uuid found stored
  next => exact valid

private theorem mem_rebind (node : ZeroMQNode) (pub : PublisherInfo) (uuid : CString) :
    uuid ∈ (rebind node pub).localPubs <-> uuid ∈ node.localPubs := by
  rw [rebind]
  split
  next known =>
    change uuid ∈ node.localPubs.insert pub.uuid pub <-> _
    rw [ExtTreeMap.mem_insert, LawfulEqCmp.compare_eq_iff_eq]
    refine or_iff_right_of_imp ?_
    rintro rfl
    exact known
  next => rfl

/-- On the way through the loop over the suspended publishers. -/
structure Restoring (origin : ZeroMQNode) (wanted : CString -> Prop) (node : ZeroMQNode)
    (rest : List PublisherInfo) : Prop where
  valid : node.Valid
  same : Exists fun pubs => node = { origin with localPubs := pubs }
  left : forall uuid, uuid ∈ rest.map PublisherInfo.uuid ∨ uuid ∈ node.localPubs <-> wanted uuid

theorem Restoring.step {origin node : ZeroMQNode} {wanted : CString -> Prop} {pub : PublisherInfo}
    {rest : List PublisherInfo} (restoring : Restoring origin wanted node (pub :: rest)) :
    Ensures (resumePublisher node pub) fun next =>
      Restoring origin wanted next.1 rest ∧ forall effect, effect ∈ next.2 -> effect ≠ .aborted := by
  have valid := valid_rebind restoring.valid pub
  have own (known : PublisherInfo) (found : (rebind node pub).localPubs[pub.uuid]? = some known) :
      pub.channelName = known.channelName := by
    rw [rebind] at found
    split at found
    next => exact congrArg PublisherInfo.channelName (Option.some.inj (ExtTreeMap.getElem?_insert_self.symm.trans found))
    next unknown =>
      rw [getElem?_neg node.localPubs pub.uuid unknown] at found
      cases found
  rw [resumePublisher, valid.addPublisherChecked_eq own]
  refine .done ⟨⟨valid.addPublisher pub, ?_, fun uuid => ?_⟩, fun effect member => ?_⟩
  · obtain ⟨pubs, same⟩ := restoring.same
    rw [ZeroMQNode.addPublisher_eq, rebind, same]
    split <;> exact ⟨_, rfl⟩
  · rw [ZeroMQNode.addPublisher_eq, ExtTreeMap.mem_insertIfNew, LawfulEqCmp.compare_eq_iff_eq, mem_rebind,
      ← restoring.left uuid, List.map_cons, List.mem_cons, or_left_comm, or_assoc, eq_comm]
  · rcases List.mem_cons.mp member with rfl | called
    · exact LifecycleEffect.noConfusion
    · obtain ⟨_, _, rfl⟩ := List.mem_map.mp called
      exact LifecycleEffect.noConfusion

/-- What a resumption leaves. -/
structure Resumed (state next : LifecycleNode) : Prop where
  valid : next.node.Valid
  isSuspended : next.isSuspended = false
  suspendedLocalPubs : next.suspendedLocalPubs = ∅
  same : Exists fun pubs => next.node = { state.node with localPubs := pubs }
  localPubs : forall uuid, uuid ∈ next.node.localPubs <->
    uuid ∈ state.suspendedLocalPubs ∨ uuid ∈ state.node.localPubs

theorem resume_spec {state : LifecycleNode} (valid : state.node.Valid)
    (filed : forall (uuid : CString) (pub : PublisherInfo), state.suspendedLocalPubs[uuid]? = some pub ->
      pub.uuid = uuid) (asleep : state.isSuspended = true) (ports : CString -> UInt16) :
    Ensures (state.resume ports) fun result => Resumed state result.1 ∧
      forall effect, effect ∈ result.2 -> effect ≠ .aborted := by
  have uuids : (state.suspendedLocalPubs.toList.map fun entry =>
      { entry.2 with port := ports entry.1 }).map PublisherInfo.uuid = state.suspendedLocalPubs.keys := by
    rw [← map_name_toList filed, List.map_map, List.map_map]
    rfl
  rw [resume, if_pos asleep]
  have start : Restoring state.node
      (fun uuid => uuid ∈ state.suspendedLocalPubs ∨ uuid ∈ state.node.localPubs) state.node
      (state.suspendedLocalPubs.toList.map fun entry => { entry.2 with port := ports entry.1 }) := by
    refine ⟨valid, ⟨_, rfl⟩, fun uuid => ?_⟩
    rw [uuids, ExtTreeMap.mem_keys]
  refine (Ensures.runChecked _ (· ≠ .aborted) (fun _ _ _ => Restoring.step) start).map
    fun last restored => ?_
  obtain ⟨restored, quiet⟩ := restored
  refine ⟨⟨restored.valid, rfl, rfl, restored.same, fun uuid => ?_⟩, fun effect member => ?_⟩
  · exact (or_iff_right List.not_mem_nil).symm.trans (restored.left uuid)
  · simp only [List.mem_append, List.mem_map, List.mem_singleton] at member
    rcases member with (before | ⟨_, _, rfl⟩) | rfl
    · exact quiet effect before
    · exact LifecycleEffect.noConfusion
    · exact LifecycleEffect.noConfusion

end LifecycleNode

end Connection
end Umundo
