import Umundo.Connection.NodeLifecycle
import Umundo.Foundation.Suspension

namespace Umundo
namespace Connection

open Foundation Std
open Foundation.Registrar (wanting FaithfulTo PunctualCall)

/-!
# Local publishers over suspensions

To its user a node is a registrar of publishers that refuses to remove a publisher it
does not know: an assertion fails.  A suspension moves all publishers to a snapshot,
which `removePublisher` does not look at.
-/

/-- What an event means to the local publishers. -/
def LifecycleEvent.call : LifecycleEvent -> Registrar.Call CString
  | .node (.addPublisher pub) => .add pub.uuid
  | .node (.removePublisher pub) => .remove pub.uuid
  | .node _ => .elsewhere
  | .suspend => .suspend
  | .resume _ => .resume

namespace LifecycleNode

def registrar (state : LifecycleNode) : Registrar CString where
  registered uuid := uuid ∈ state.node.localPubs
  snapshot uuid := uuid ∈ state.suspendedLocalPubs
  suspended := state.isSuspended

/-- A node is told about remote nodes while it has a query, and about unknown ones only.
Messages arrive while its thread runs.  A publisher stays on its channel. -/
def Allowed (state : LifecycleNode) : LifecycleEvent -> Prop
  | .node (.added stub) => state.isSuspended = false ∧ stub.uuid ∉ state.node.nodes
  | .node (.removed _) => state.isSuspended = false
  | .node (.message _ _) => state.isSuspended = false
  | .node (.addPublisher pub) =>
      forall known, known ∈ state.node.localPubs[pub.uuid]? -> pub.channelName = known.channelName
  | _ => True

instance (state : LifecycleNode) (event : LifecycleEvent) : Decidable (state.Allowed event) := by
  unfold Allowed
  split <;> infer_instance

/-- Only publishers that were added and not removed since are removed. -/
def Owned (wanted : CString -> Prop) : LifecycleEvent -> Prop
  | .node (.removePublisher pub) => wanted pub.uuid
  | _ => True

/-- The invariant of a node that may be suspended. -/
structure Orderly (state : LifecycleNode) : Prop where
  valid : state.node.Valid
  filed : forall (uuid : CString) (pub : PublisherInfo), state.suspendedLocalPubs[uuid]? = some pub ->
    pub.uuid = uuid
  quiet : state.isSuspended = true -> state.node.nodes = ∅

namespace Orderly

variable {state : LifecycleNode}

theorem init (uuid : CString) : Orderly (init uuid) where
  valid := .init uuid
  filed key pub found := by simp [LifecycleNode.init] at found
  quiet := fun asleep => by cases asleep

/-- No assertion fails in an event of the node itself, unless an unknown publisher is
removed. -/
theorem nodeStep_eq (orderly : state.Orderly) {event : NodeEvent} (allowed : state.Allowed (.node event))
    (legal : state.registrar.Legal (LifecycleEvent.node event).call) :
    nodeStep state.node event = some (state.node.step event) := by
  cases event with
  | addPublisher pub => exact orderly.valid.addPublisherChecked_eq allowed
  | removePublisher pub =>
      rw [nodeStep, orderly.valid.removePublisherChecked_eq]
      exact if_pos legal
  | removed stub => exact orderly.valid.removedChecked_eq stub
  | _ => rfl

private theorem nodes_step (orderly : state.Orderly) {event : NodeEvent}
    (allowed : state.Allowed (.node event)) (asleep : state.isSuspended = true) :
    (state.node.step event).1.nodes = ∅ := by
  have nodes := orderly.quiet asleep
  cases event with
  | added stub => exact absurd asleep (Bool.eq_false_iff.mp allowed.1)
  | removed stub => exact absurd asleep (Bool.eq_false_iff.mp allowed)
  | message remoteId body => exact absurd asleep (Bool.eq_false_iff.mp allowed)
  | addSubscriber sub => exact nodes
  | removeSubscriber sub =>
      rw [ZeroMQNode.step, orderly.valid.removeSubscriber_eq]
      exact nodes
  | addPublisher pub =>
      rw [ZeroMQNode.step, ZeroMQNode.addPublisher_eq]
      exact nodes
  | removePublisher pub =>
      rw [ZeroMQNode.step, ZeroMQNode.removePublisher_eq]
      exact nodes

private theorem registrar_node (orderly : state.Orderly) (event : NodeEvent) :
    registrar { state with node := (state.node.step event).1 } =
      state.registrar.call (LifecycleEvent.node event).call := by
  cases event with
  | added stub =>
      refine Registrar.eq_of_iff rfl (fun uuid => ?_) fun _ => Iff.rfl
      exact iff_of_eq (congrArg (uuid ∈ ·) (state.node.added_localPubs stub))
  | removed stub =>
      refine Registrar.eq_of_iff rfl (fun uuid => ?_) fun _ => Iff.rfl
      by_cases known : stub.uuid ∈ state.node.nodes
      · rw [ZeroMQNode.step, orderly.valid.removed_of_known known]
        rfl
      · rw [ZeroMQNode.step, orderly.valid.removed_of_unknown known]
        rfl
  | message remoteId body =>
      refine Registrar.eq_of_iff rfl (fun uuid => ?_) fun _ => Iff.rfl
      exact iff_of_eq (congrArg (uuid ∈ ·) (ZeroMQNode.receive_localPubs _ _ _))
  | addSubscriber sub => rfl
  | removeSubscriber sub =>
      rw [ZeroMQNode.step, orderly.valid.removeSubscriber_eq]
      rfl
  | addPublisher pub =>
      exact Registrar.eq_of_iff rfl (fun _ => ZeroMQNode.mem_localPubs_addPublisher) fun _ => Iff.rfl
  | removePublisher pub =>
      exact Registrar.eq_of_iff rfl (fun _ => ZeroMQNode.mem_localPubs_removePublisher) fun _ => Iff.rfl

private theorem suspend (orderly : state.Orderly) :
    Ensures state.suspend fun next => next.1.Orderly ∧
      next.1.registrar = state.registrar.call .suspend ∧
      forall effect, effect ∈ next.2 -> effect ≠ .aborted := by
  unfold Registrar.call
  cases suspended : state.isSuspended with
  | true =>
      refine ⟨(state, []), if_pos suspended, orderly, (if_pos suspended).symm, ?_⟩
      exact fun _ member => absurd member List.not_mem_nil
  | false =>
      refine (suspend_spec orderly.valid suspended).mono fun next after => ⟨⟨after.1.valid, ?_, ?_⟩,
        .trans ?_ (if_neg (Bool.eq_false_iff.mp suspended)).symm, fun effect member => ?_⟩
      · rw [after.1.suspendedLocalPubs]
        exact orderly.valid.local_uuid
      · exact fun _ => after.1.nodes
      · refine Registrar.eq_of_iff after.1.isSuspended (fun uuid => iff_false_intro ?_) fun uuid => ?_
        · rw [registrar, after.1.localPubs]
          exact ExtTreeMap.not_mem_empty
        · exact iff_of_eq (congrArg (uuid ∈ ·) after.1.suspendedLocalPubs)
      · exact (after.2 effect member).1

private theorem resume (orderly : state.Orderly) (ports : CString -> UInt16) :
    Ensures (state.resume ports) fun next => next.1.Orderly ∧
      next.1.registrar = state.registrar.call .resume ∧
      forall effect, effect ∈ next.2 -> effect ≠ .aborted := by
  unfold Registrar.call
  cases suspended : state.isSuspended with
  | true =>
      refine (resume_spec orderly.valid orderly.filed suspended ports).mono fun next after =>
        ⟨⟨after.1.valid, ?_, fun asleep => ?_⟩, .trans ?_ (if_pos suspended).symm, after.2⟩
      · rw [after.1.suspendedLocalPubs]
        intro uuid pub found
        rw [ExtTreeMap.getElem?_empty] at found
        cases found
      · rw [after.1.isSuspended] at asleep
        cases asleep
      · refine Registrar.eq_of_iff after.1.isSuspended after.1.localPubs fun uuid => iff_false_intro ?_
        rw [registrar, after.1.suspendedLocalPubs]
        exact ExtTreeMap.not_mem_empty
  | false =>
      have awake := Bool.eq_false_iff.mp suspended
      refine ⟨(state, []), if_neg awake, orderly, (if_neg awake).symm, ?_⟩
      exact fun _ member => absurd member List.not_mem_nil

/-- An event that is not refused. -/
theorem react (orderly : state.Orderly) {event : LifecycleEvent} (allowed : state.Allowed event)
    (legal : state.registrar.Legal event.call) :
    Ensures (state.react event) fun next => next.1.Orderly ∧
      next.1.registrar = state.registrar.call event.call ∧
      forall effect, effect ∈ next.2 -> effect ≠ .aborted := by
  cases event with
  | node event =>
      rw [LifecycleNode.react, orderly.nodeStep_eq allowed legal]
      refine .done ⟨⟨?_, orderly.filed, orderly.nodes_step allowed⟩, orderly.registrar_node event, ?_⟩
      · refine orderly.valid.step fun stub added => ?_
        rw [added] at allowed
        exact allowed.2
      · intro effect member
        obtain ⟨_, _, rfl⟩ := List.mem_map.mp member
        exact LifecycleEffect.noConfusion
  | suspend => exact orderly.suspend
  | resume ports => exact orderly.resume ports

theorem step (orderly : state.Orderly) {event : LifecycleEvent} (allowed : state.Allowed event)
    (legal : state.registrar.Legal event.call) :
    Orderly (state.step event).1 ∧
      (state.step event).1.registrar = state.registrar.call event.call ∧
      LifecycleEffect.aborted ∉ (state.step event).2 := by
  obtain ⟨next, ends, kept, same, quiet⟩ := orderly.react allowed legal
  rw [LifecycleNode.step, ends]
  exact ⟨kept, same, fun member => quiet _ member rfl⟩

theorem step_refused (orderly : state.Orderly) {event : LifecycleEvent}
    (illegal : ¬ state.registrar.Legal event.call) : state.step event = (state, [.aborted]) := by
  have refused : state.react event = none := by
    cases event with
    | node event =>
        cases event with
        | removePublisher pub =>
            have unknown : pub.uuid ∉ state.node.localPubs := illegal
            rw [LifecycleNode.react, nodeStep, orderly.valid.removePublisherChecked_eq, if_neg unknown]
            rfl
        | _ => exact absurd trivial illegal
    | _ => exact absurd trivial illegal
  rw [LifecycleNode.step, refused]
  rfl

end Orderly

/-- In every run in which only own publishers are removed, no assertion fails and the local
publishers are those that were added and not removed since, in every state in which the
node is not suspended, if and only if no publisher of a snapshot is removed during the
suspension: only publishers that were added during it are, and all of the snapshot is
still wanted in the end. -/
theorem publishers_iff_of_run (uuid : CString) (events : List LifecycleEvent)
    (admitted : Admits (wanting step LifecycleEvent.call)
      (fun watched event => watched.1.Allowed event ∧ Owned watched.2 event)
      (init uuid, fun _ => False) events) :
    (Always (wanting step LifecycleEvent.call) (FaithfulTo registrar) (init uuid, fun _ => False) events ∧
      LifecycleEffect.aborted ∉
        (run (wanting step LifecycleEvent.call) (init uuid, fun _ => False) events).2) <->
      Admits (wanting step LifecycleEvent.call) (PunctualCall registrar LifecycleEvent.call)
        (init uuid, fun _ => False) events := by
  refine Registrar.faithful_iff Orderly ?_ ?_ ?_ (.init uuid) (fun _ => ExtTreeMap.not_mem_empty) admitted
  · rintro ⟨state, wanted⟩ event ⟨_, owned⟩ item removes
    cases event with
    | node event =>
        cases event with
        | removePublisher pub =>
            cases removes
            exact owned
        | _ => cases removes
    | _ => cases removes
  · exact fun watched event orderly permitted legal => orderly.step permitted.1 legal
  · intro watched event orderly _ illegal
    rw [orderly.step_refused illegal]
    exact List.mem_singleton_self _

/-! A publisher is kept over a suspension, and another one is added and removed during it. -/

private def self : CString := repeatedUuid 103 (by decide)

private def lasting : PublisherInfo := examplePublisher 104 (by decide) (.ofBytes [102])

private def fleeting : PublisherInfo := examplePublisher 105 (by decide) (.ofBytes [103])

private def interlude : List LifecycleEvent :=
  [.node (.addPublisher lasting), .suspend, .node (.addPublisher fleeting),
    .node (.removePublisher fleeting), .resume fun _ => 4244, .node (.removePublisher lasting)]

theorem publishers_iff_of_run_interlude :
    Always (wanting step LifecycleEvent.call) (FaithfulTo registrar) (init self, fun _ => False) interlude ∧
      LifecycleEffect.aborted ∉
        (run (wanting step LifecycleEvent.call) (init self, fun _ => False) interlude).2 := by
  have told : Admits step Allowed (init self) interlude ∧
      fleeting.uuid ∈ (run step (init self) (interlude.take 3)).1.node.localPubs ∧
      (run step (init self) (interlude.take 4)).1.suspendedLocalPubs.keys = [lasting.uuid] ∧
      (run step (init self) (interlude.take 5)).1.isSuspended = false ∧
      fleeting.uuid ≠ lasting.uuid := by
    decide +kernel
  obtain ⟨⟨first, second, third, fourth, fifth, sixth, _⟩, present, saved, resumed, different⟩ := told
  refine (publishers_iff_of_run self interlude ?_).mpr ?_
  · exact ⟨⟨first, trivial⟩, ⟨second, trivial⟩, ⟨third, trivial⟩, ⟨fourth, .inl rfl⟩, ⟨fifth, trivial⟩,
      ⟨sixth, different, .inr (.inl rfl)⟩, trivial⟩
  · refine ⟨trivial, trivial, trivial, fun _ => present, fun _ uuid member => ?_, fun asleep => ?_, trivial⟩
    · have listed : uuid ∈ [lasting.uuid] := saved ▸ ExtTreeMap.mem_keys.mpr member
      rw [List.mem_singleton.mp listed]
      exact ⟨different, .inr (.inl rfl)⟩
    · exact absurd asleep (Bool.eq_false_iff.mp resumed)

private def retracted : List LifecycleEvent :=
  [.node (.addPublisher lasting), .suspend, .node (.removePublisher lasting)]

/-- A publisher cannot be removed while its node is suspended. -/
theorem removed_during_suspension :
    Admits (wanting step LifecycleEvent.call)
        (fun watched event => watched.1.Allowed event ∧ Owned watched.2 event)
        (init self, fun _ => False) retracted ∧
      LifecycleEffect.aborted ∈
        (run (wanting step LifecycleEvent.call) (init self, fun _ => False) retracted).2 := by
  have told : Admits step Allowed (init self) retracted ∧
      LifecycleEffect.aborted ∈ (run step (init self) retracted).2 := by
    decide +kernel
  obtain ⟨⟨first, second, third, _⟩, fails⟩ := told
  exact ⟨⟨⟨first, trivial⟩, ⟨second, trivial⟩, ⟨third, .inl rfl⟩, trivial⟩, fails⟩

end LifecycleNode

end Connection
end Umundo
