import Umundo.Connection.PublisherCalls
import Umundo.Foundation.Alternation

namespace Umundo
namespace Connection

open Foundation Std

/-!
# The calls on a publisher are balanced

A node calls a publisher when a subscription is recorded and when it is withdrawn.  The
record outlives the publisher, but not the remote node, so that a record may also vanish
without a call.  Whatever happens to a node, a subscription is never withdrawn more often
than it was made.  As long as the publisher is local the two calls take turns.
-/

/-- The calls on a publisher about one subscriber of one remote node. -/
def callsAbout (pubId remoteId subId : CString) (effects : List Effect) : List PublisherEvent :=
  (callsTo pubId effects).filter fun call =>
    call = .addedSubscriber remoteId subId ∨ call = .removedSubscriber remoteId subId

theorem callsAbout_append (pubId remoteId subId : CString) (first second : List Effect) :
    callsAbout pubId remoteId subId (first ++ second) =
      callsAbout pubId remoteId subId first ++ callsAbout pubId remoteId subId second := by
  rw [callsAbout, callsTo_append, List.filter_append]
  rfl

/-- They are some of the calls about that subscriber. -/
theorem callsAbout_eq (pubId remoteId subId : CString) (effects : List Effect) :
    callsAbout pubId remoteId subId effects =
      (concerning subId (callsTo pubId effects)).filter fun call =>
        call = .addedSubscriber remoteId subId ∨ call = .removedSubscriber remoteId subId := by
  rw [concerning, List.filter_filter, callsAbout]
  refine List.filter_congr fun call _ => ?_
  rw [Bool.eq_iff_iff, Bool.and_eq_true, decide_eq_true_eq, decide_eq_true_eq]
  refine ⟨fun about => ⟨about, ?_⟩, And.left⟩
  rcases about with rfl | rfl <;> rfl

namespace ZeroMQNode

variable {node : ZeroMQNode} {pubId remoteId subId : CString}

/-- A step makes or withdraws a record together with the call, or drops it while the
publisher is not local. -/
theorem Consistent.switches (consistent : node.Consistent) (event : NodeEvent) :
    Switches (.addedSubscriber remoteId subId) (.removedSubscriber remoteId subId)
        (decide (node.Records pubId subId remoteId))
        (callsAbout pubId remoteId subId (node.step event).2)
        (decide ((node.step event).1.Records pubId subId remoteId)) ∨
      pubId ∉ node.localPubs ∧ callsAbout pubId remoteId subId (node.step event).2 = [] ∧
        decide ((node.step event).1.Records pubId subId remoteId) = false := by
  have turn : Turn node pubId subId (node.step event) := consistent.turn event
  rw [callsAbout_eq]
  generalize node.step event = outcome at turn ⊢
  cases turn with
  | quiet silent same =>
      rw [silent, decide_eq_decide.mpr (same remoteId)]
      exact .inl (.idle _)
  | joins guest _ _ absent called records =>
      rw [called]
      by_cases here : guest = remoteId
      · subst here
        rw [decide_eq_false absent, decide_eq_true ((records guest).mpr (.inl rfl))]
        simp only [List.filter_cons, true_or, decide_true, if_true, List.filter_nil]
        exact .inl .opens
      · have other := (records remoteId).trans (or_iff_right here)
        rw [decide_eq_decide.mpr other]
        simp only [List.filter_cons, PublisherEvent.addedSubscriber.injEq, here, false_and,
          reduceCtorEq, or_self, decide_false, Bool.false_eq_true, if_false, List.filter_nil]
        exact .inl (.idle _)
  | leaves guest present called records =>
      rw [called]
      by_cases here : guest = remoteId
      · subst here
        rw [decide_eq_true present, decide_eq_false (fun still => ((records guest).mp still).1 rfl)]
        simp only [List.filter_cons, or_true, decide_true, if_true, List.filter_nil]
        exact .inl .closes
      · have other := (records remoteId).trans (and_iff_right here)
        rw [decide_eq_decide.mpr other]
        simp only [List.filter_cons, PublisherEvent.removedSubscriber.injEq, here, false_and,
          reduceCtorEq, or_self, decide_false, Bool.false_eq_true, if_false, List.filter_nil]
        exact .inl (.idle _)
  | dropped guest unpublished present silent records =>
      rw [silent]
      by_cases here : guest = remoteId
      · subst here
        exact .inr ⟨unpublished, rfl, decide_eq_false fun still => ((records guest).mp still).1 rfl⟩
      · rw [decide_eq_decide.mpr ((records remoteId).trans (and_iff_right here))]
        exact .inl (.idle _)

/-- Nothing is recorded at a new node. -/
theorem not_records_init (uuid pubId subId remoteId : CString) :
    ¬ (init uuid).Records pubId subId remoteId := by
  intro recorded
  exact absurd (Table.mem_of_mem_row (Table.mem_row_of_mem_cell recorded)) ExtTreeMap.not_mem_empty

/-- In every run of a node, a subscription is at no time withdrawn more often than it was
made, and while the publisher stays local it is made and withdrawn in turns. -/
theorem calls_balanced_of_run (uuid pubId remoteId subId : CString) (events : List NodeEvent) :
    (forall earlier, earlier <+: callsAbout pubId remoteId subId (run step (init uuid) events).2 ->
      earlier.count (.removedSubscriber remoteId subId) ≤
        earlier.count (.addedSubscriber remoteId subId)) ∧
    (forall before interval after, events = before ++ interval ++ after ->
      Always step (fun node => pubId ∈ node.localPubs) (run step (init uuid) before).1 interval ->
        (callsAbout pubId remoteId subId
          (run step (run step (init uuid) before).1 interval).2).IsChain (· ≠ ·)) := by
  have different : PublisherEvent.addedSubscriber remoteId subId ≠ .removedSubscriber remoteId subId := by
    simp
  have append := callsAbout_append pubId remoteId subId
  constructor
  · have balanced := balanced_of_run
      (callsAbout pubId remoteId subId) rfl append (fun node => decide (node.Records pubId subId remoteId))
      Consistent (fun node event consistent _ => consistent.step event) different
      (fun node event consistent _ => (consistent.switches event).imp_right And.right)
      (.init uuid) (admits_true step (init uuid) events)
    rw [decide_eq_false (not_records_init uuid pubId subId remoteId)] at balanced
    exact balanced
  · rintro before interval after rfl stays
    refine Alternates.isChain different (alternates_of_run (callsAbout pubId remoteId subId) rfl append
      (fun node => decide (node.Records pubId subId remoteId)) Consistent
      (fun node event consistent _ => consistent.step event) ?_ ((Consistent.init uuid).run before) stays.admits)
    intro node event consistent present
    exact (consistent.switches event).resolve_right fun dropped => dropped.1 present

/-- A remote node subscribes, unsubscribes and subscribes again. -/
theorem calls_balanced_of_run_returning :
    let guest := exampleStub 97 (by decide)
    let pub := examplePublisher 98 (by decide) (.ofBytes [99])
    let subId := repeatedUuid 100 (by decide)
    let before := [NodeEvent.added guest, .addPublisher pub]
    let interval := [NodeEvent.message guest.uuid (ControlMessage.subscribe pub subId).encode,
      .message guest.uuid (ControlMessage.subscribe pub subId).encode,
      .message guest.uuid (ControlMessage.unsubscribe pub subId).encode,
      .message guest.uuid (ControlMessage.subscribe pub subId).encode]
    let node := init (repeatedUuid 101 (by decide))
    callsAbout pub.uuid guest.uuid subId (run step (run step node before).1 interval).2 =
        [.addedSubscriber guest.uuid subId, .removedSubscriber guest.uuid subId,
          .addedSubscriber guest.uuid subId] ∧
      (callsAbout pub.uuid guest.uuid subId
        (run step (run step node before).1 interval).2).IsChain (· ≠ ·) := by
  intro guest pub subId before interval node
  have stays : Always step (fun node => pub.uuid ∈ node.localPubs) (run step node before).1 interval := by
    decide +kernel
  exact ⟨by decide +kernel, (calls_balanced_of_run _ pub.uuid guest.uuid subId (before ++ interval)).2
    before interval [] (List.append_nil _).symm stays⟩

end ZeroMQNode

end Connection
end Umundo
