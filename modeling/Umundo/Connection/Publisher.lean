import Umundo.Foundation.CString
import Umundo.Foundation.Table
import Umundo.Foundation.Machine

namespace Umundo
namespace Connection

open Foundation Std

/-!
# The subscribers of a publisher

A publisher learns of a subscriber twice: a node reports it after a SUBSCRIBE
on the node socket, and the subscriber's own socket sends its uuid as a
subscription to the publisher's socket.  A subscriber is entered when both
halves have arrived.  The halves wait in two tables until then.

All three tables are indexed by the uuid of the subscriber, and every
operation only touches the entries of one subscriber.  The second part of
this module uses that: a publisher is, for every subscriber, a small machine
over the three entries, its slot.
-/

/-- What happens inside a publisher, in order. -/
inductive PublisherEffect where
  /-- the assignment to `_subscriptions[subId]` -/
  | entered (subId remoteId : CString)
  /-- `_greeter->welcome` -/
  | welcome (nodeId subId : CString)
  /-- `_greeter->farewell` -/
  | farewell (nodeId subId : CString)
  /-- the assertion in `removedSubscriber` fails -/
  | unestablished (subId : CString)
deriving DecidableEq

/-- The state of a publisher.  The greeter is a pointer that may be null. -/
structure ZeroMQPublisher where
  pendingZMQSubscriptions : Keys CString
  pendingSubscriptions : Table CString CString
  subscriptions : Table CString CString
  greeter : Bool

/-- What a publisher is told by its nodes, and what arrives on its socket. -/
inductive PublisherEvent where
  | addedSubscriber (remoteId subId : CString)
  | removedSubscriber (remoteId subId : CString)
  | frame (data : Bytes)
deriving DecidableEq

namespace ZeroMQPublisher

def init (greeter : Bool) : ZeroMQPublisher where
  pendingZMQSubscriptions := ∅
  pendingSubscriptions := ∅
  subscriptions := ∅
  greeter := greeter

/-- Enter a subscriber if both halves are there.  The greeter is given the
pending entry, which was just erased; reading it stores an empty one. -/
def establish (publisher : ZeroMQPublisher) (subId : CString) :
    ZeroMQPublisher × List PublisherEffect :=
  if subId ∉ publisher.pendingSubscriptions ∨ subId ∉ publisher.pendingZMQSubscriptions then
    (publisher, [])
  else
    let remoteId := publisher.pendingSubscriptions.getD subId .empty
    let moved : ZeroMQPublisher := { publisher with
      subscriptions := publisher.subscriptions.insert subId remoteId
      pendingSubscriptions := publisher.pendingSubscriptions.erase subId
      pendingZMQSubscriptions := publisher.pendingZMQSubscriptions.erase subId }
    if publisher.greeter then
      ({ moved with
          pendingSubscriptions := moved.pendingSubscriptions.insertIfNew subId .empty },
        [.entered subId remoteId, .welcome (moved.pendingSubscriptions.getD subId .empty) subId])
    else (moved, [.entered subId remoteId])

/-- The function `run` calls this one without a remote node. -/
def addedSubscriber (publisher : ZeroMQPublisher) (remoteId subId : CString) :
    ZeroMQPublisher × List PublisherEffect :=
  if remoteId.length ≠ 0 then
    if subId ∈ publisher.pendingSubscriptions then (publisher, [])
    else
      establish { publisher with
        pendingSubscriptions := publisher.pendingSubscriptions.insert subId remoteId } subId
  else publisher.establish subId

/-- If assertions are compiled out, an unknown subscriber is removed all the
same. -/
def removedSubscriber (publisher : ZeroMQPublisher) (_remoteId subId : CString) :
    ZeroMQPublisher × List PublisherEffect :=
  let failed := if subId ∈ publisher.subscriptions then [] else [PublisherEffect.unestablished subId]
  let erased : ZeroMQPublisher := { publisher with
    subscriptions := publisher.subscriptions.erase subId }
  if publisher.greeter then
    ({ erased with
        pendingSubscriptions := publisher.pendingSubscriptions.insertIfNew subId .empty },
      failed ++ [.farewell (publisher.pendingSubscriptions.getD subId .empty) subId])
  else (erased, failed)

end ZeroMQPublisher

/-- The subscriber whose uuid a frame subscribes to.  Only the length tells
such a frame from a subscription to a channel. -/
def subscribedBy (data : Bytes) : Option CString :=
  if data.length = 37 ∧ data.head? = some 1 then some (.ofBytes data.tail) else none

namespace ZeroMQPublisher

/-- One iteration of `run`. -/
def receiveFrame (publisher : ZeroMQPublisher) (data : Bytes) :
    ZeroMQPublisher × List PublisherEffect :=
  match subscribedBy data with
  | none => (publisher, [])
  | some subId =>
      addedSubscriber { publisher with
        pendingZMQSubscriptions := publisher.pendingZMQSubscriptions.insert subId } .empty subId

def step (publisher : ZeroMQPublisher) : PublisherEvent -> ZeroMQPublisher × List PublisherEffect
  | .addedSubscriber remoteId subId => publisher.addedSubscriber remoteId subId
  | .removedSubscriber remoteId subId => publisher.removedSubscriber remoteId subId
  | .frame data => publisher.receiveFrame data

/-- A node names itself, and only an established subscriber is removed. -/
def Admissible (publisher : ZeroMQPublisher) : PublisherEvent -> Prop
  | .addedSubscriber remoteId _ => remoteId.length ≠ 0
  | .removedSubscriber _ subId => subId ∈ publisher.subscriptions
  | .frame _ => True

instance (publisher : ZeroMQPublisher) : DecidablePred publisher.Admissible := fun event =>
  match event with
  | .addedSubscriber remoteId _ => inferInstanceAs (Decidable (remoteId.length ≠ 0))
  | .removedSubscriber _ subId => inferInstanceAs (Decidable (subId ∈ publisher.subscriptions))
  | .frame _ => inferInstanceAs (Decidable True)

end ZeroMQPublisher

/-! ## One subscriber -/

/-- The subscriber an effect is about. -/
def PublisherEffect.subId : PublisherEffect -> CString
  | .entered subId _ => subId
  | .welcome _ subId => subId
  | .farewell _ subId => subId
  | .unestablished subId => subId

/-- The subscriber an event is about. -/
def PublisherEvent.subject : PublisherEvent -> Option CString
  | .addedSubscriber _ subId => some subId
  | .removedSubscriber _ subId => some subId
  | .frame data => subscribedBy data

/-- The events about one subscriber. -/
def concerning (subId : CString) (events : List PublisherEvent) : List PublisherEvent :=
  events.filter (fun event => event.subject = some subId)

/-- The three entries of one subscriber. -/
structure Slot where
  pending : Option CString
  zmq : Bool
  established : Option CString
deriving DecidableEq

namespace Slot

section

variable (greeter : Bool) (subId : CString)

def establish (slot : Slot) : Slot × List PublisherEffect :=
  match slot.pending, slot.zmq with
  | some remoteId, true =>
      (⟨if greeter then some .empty else none, false, some remoteId⟩,
        .entered subId remoteId :: if greeter then [.welcome .empty subId] else [])
  | _, _ => (slot, [])

def step (slot : Slot) : PublisherEvent -> Slot × List PublisherEffect
  | .addedSubscriber remoteId _ =>
      if remoteId.length ≠ 0 then
        match slot.pending with
        | some _ => (slot, [])
        | none => establish greeter subId { slot with pending := some remoteId }
      else establish greeter subId slot
  | .removedSubscriber _ _ =>
      ({ slot with
          established := none
          pending := if greeter then some (slot.pending.getD .empty) else slot.pending },
        (if slot.established.isSome then [] else [.unestablished subId]) ++
          if greeter then [.farewell (slot.pending.getD .empty) subId] else [])
  | .frame _ => establish greeter subId { slot with zmq := true }

/-- A slot only speaks of its own subscriber. -/
theorem subId_of_mem_establish {slot : Slot} {effect : PublisherEffect}
    (member : effect ∈ (establish greeter subId slot).2) : effect.subId = subId := by
  unfold establish at member
  split at member
  · rcases List.mem_cons.mp member with rfl | welcomed
    · rfl
    · cases greeter with
      | false => cases welcomed
      | true =>
          cases List.mem_singleton.mp welcomed
          rfl
  · cases member

theorem subId_of_mem_step {slot : Slot} {event : PublisherEvent} {effect : PublisherEffect}
    (member : effect ∈ (step greeter subId slot event).2) : effect.subId = subId := by
  cases event with
  | addedSubscriber remoteId other =>
      simp only [step] at member
      split at member
      · split at member
        · cases member
        · exact subId_of_mem_establish greeter subId member
      · exact subId_of_mem_establish greeter subId member
  | removedSubscriber remoteId other =>
      rcases List.mem_append.mp member with failed | parted
      · split at failed
        · cases failed
        · cases List.mem_singleton.mp failed
          rfl
      · split at parted
        · cases List.mem_singleton.mp parted
          rfl
        · cases parted
  | frame data => exact subId_of_mem_establish greeter subId member

end

end Slot

namespace ZeroMQPublisher

def slot (publisher : ZeroMQPublisher) (subId : CString) : Slot where
  pending := publisher.pendingSubscriptions[subId]?
  zmq := publisher.pendingZMQSubscriptions.contains subId
  established := publisher.subscriptions[subId]?

private theorem contains_eq_of_mem {keys : Keys CString} {subId : CString} (member : subId ∈ keys) :
    keys.contains subId = true :=
  ExtTreeSet.contains_iff_mem.mpr member

private theorem contains_eq_of_not_mem {keys : Keys CString} {subId : CString}
    (absent : subId ∉ keys) : keys.contains subId = false :=
  Bool.eq_false_iff.mpr (fun present => absent (ExtTreeSet.contains_iff_mem.mp present))

/-- An operation on a publisher is an operation on one slot. -/
def ActsOn (publisher : ZeroMQPublisher) (subId : CString)
    (outcome : ZeroMQPublisher × List PublisherEffect) (moved : Slot × List PublisherEffect) : Prop :=
  outcome.2 = moved.2 ∧
    forall other, outcome.1.slot other = if subId = other then moved.1 else publisher.slot other

private theorem actsOn_refl (publisher : ZeroMQPublisher) (subId : CString) :
    publisher.ActsOn subId (publisher, []) (publisher.slot subId, []) := by
  refine ⟨rfl, ?_⟩
  intro other
  split
  · rename_i same
    rw [same]
  · rfl

/-- Two changes of the same slot, one after the other. -/
private theorem ActsOn.trans {publisher changed : ZeroMQPublisher} {subId : CString} {slot : Slot}
    {outcome : ZeroMQPublisher × List PublisherEffect} {moved : Slot × List PublisherEffect}
    (first : publisher.ActsOn subId (changed, []) (slot, []))
    (second : changed.ActsOn subId outcome moved) : publisher.ActsOn subId outcome moved := by
  refine ⟨second.1, ?_⟩
  intro other
  rw [second.2 other]
  split
  · rfl
  · rename_i different
    rw [first.2 other, if_neg different]

private theorem actsOn_establish (publisher : ZeroMQPublisher) (subId : CString) :
    publisher.ActsOn subId (publisher.establish subId)
      (Slot.establish publisher.greeter subId (publisher.slot subId)) := by
  unfold ActsOn
  by_cases waiting : subId ∈ publisher.pendingSubscriptions
  · have pending := ExtTreeMap.getElem?_eq_some_getElem waiting
    have value : publisher.pendingSubscriptions.getD subId .empty = publisher.pendingSubscriptions[subId] := by
      rw [ExtTreeMap.getD_eq_getD_getElem?, pending]
      rfl
    by_cases subscribed : subId ∈ publisher.pendingZMQSubscriptions
    · have zmq := contains_eq_of_mem subscribed
      have ready : ¬ (subId ∉ publisher.pendingSubscriptions ∨
          subId ∉ publisher.pendingZMQSubscriptions) :=
        fun either => either.elim (fun absent => absent waiting) (fun absent => absent subscribed)
      have entered : Slot.establish publisher.greeter subId (publisher.slot subId) =
          (⟨if publisher.greeter then some .empty else none, false,
              some publisher.pendingSubscriptions[subId]⟩,
            .entered subId publisher.pendingSubscriptions[subId] ::
              if publisher.greeter then [.welcome .empty subId] else []) := by
        simp only [Slot.establish, slot, pending, zmq]
      rw [entered, establish, if_neg ready, value]
      cases publisher.greeter with
      | false =>
          refine ⟨rfl, ?_⟩
          intro other
          by_cases same : subId = other
          · subst other
            simp [slot]
          · simp [slot, same, ExtTreeMap.getElem?_erase, ExtTreeMap.getElem?_insert,
              ExtTreeSet.contains_erase]
      | true =>
          refine ⟨by simp, ?_⟩
          intro other
          by_cases same : subId = other
          · subst other
            simp only [slot, if_true, Table.getElem?_touch]
            simp
          · simp only [slot, if_true, Table.getElem?_touch]
            simp [same, ExtTreeMap.getElem?_erase, ExtTreeMap.getElem?_insert,
              ExtTreeSet.contains_erase]
    · simp [establish, slot, Slot.establish, pending, subscribed, contains_eq_of_not_mem subscribed]
  · simp [establish, slot, Slot.establish, waiting]

@[simp] theorem establish_greeter (publisher : ZeroMQPublisher) (subId : CString) :
    (publisher.establish subId).1.greeter = publisher.greeter := by
  unfold establish
  split
  · rfl
  · dsimp only
    split <;> rfl

@[simp] theorem step_greeter (publisher : ZeroMQPublisher) (event : PublisherEvent) :
    (publisher.step event).1.greeter = publisher.greeter := by
  cases event with
  | addedSubscriber remoteId subId =>
      simp only [step, addedSubscriber]
      split
      · split
        · rfl
        · exact establish_greeter _ _
      · exact establish_greeter _ _
  | removedSubscriber remoteId subId =>
      simp only [step, removedSubscriber]
      split <;> rfl
  | frame data =>
      simp only [step, receiveFrame]
      split
      · rfl
      · exact establish_greeter _ _

private theorem actsOn_pending (publisher : ZeroMQPublisher) (remoteId subId : CString) :
    publisher.ActsOn subId
      ({ publisher with
          pendingSubscriptions := publisher.pendingSubscriptions.insert subId remoteId }, [])
      ({ publisher.slot subId with pending := some remoteId }, []) := by
  refine ⟨rfl, ?_⟩
  intro other
  by_cases same : subId = other
  · subst other
    simp [slot]
  · simp [slot, same, ExtTreeMap.getElem?_insert]

private theorem actsOn_zmq (publisher : ZeroMQPublisher) (subId : CString) :
    publisher.ActsOn subId
      ({ publisher with
          pendingZMQSubscriptions := publisher.pendingZMQSubscriptions.insert subId }, [])
      ({ publisher.slot subId with zmq := true }, []) := by
  refine ⟨rfl, ?_⟩
  intro other
  by_cases same : subId = other
  · subst other
    simp [slot]
  · simp [slot, same, ExtTreeSet.contains_insert]

private theorem actsOn_addedSubscriber (publisher : ZeroMQPublisher) (remoteId subId : CString) :
    publisher.ActsOn subId (publisher.addedSubscriber remoteId subId)
      (Slot.step publisher.greeter subId (publisher.slot subId) (.addedSubscriber remoteId subId)) := by
  by_cases named : remoteId.length ≠ 0
  · rw [addedSubscriber, if_pos named, Slot.step, if_pos named]
    by_cases waiting : subId ∈ publisher.pendingSubscriptions
    · have pending : (publisher.slot subId).pending = some publisher.pendingSubscriptions[subId] :=
        ExtTreeMap.getElem?_eq_some_getElem waiting
      simp only [if_pos waiting, pending]
      exact publisher.actsOn_refl subId
    · have pending : (publisher.slot subId).pending = none := ExtTreeMap.getElem?_eq_none waiting
      have stored := publisher.actsOn_pending remoteId subId
      have entered := actsOn_establish { publisher with
        pendingSubscriptions := publisher.pendingSubscriptions.insert subId remoteId } subId
      rw [stored.2 subId, if_pos rfl] at entered
      simp only [if_neg waiting, pending]
      exact stored.trans entered
  · rw [addedSubscriber, if_neg named, Slot.step, if_neg named]
    exact publisher.actsOn_establish subId

private theorem actsOn_removedSubscriber (publisher : ZeroMQPublisher) (remoteId subId : CString) :
    publisher.ActsOn subId (publisher.removedSubscriber remoteId subId)
      (Slot.step publisher.greeter subId (publisher.slot subId) (.removedSubscriber remoteId subId)) := by
  have known : (publisher.slot subId).established.isSome = decide (subId ∈ publisher.subscriptions) := by
    rw [slot, ← ExtTreeMap.contains_eq_isSome_getElem?, Bool.eq_iff_iff, decide_eq_true_iff,
      ExtTreeMap.mem_iff_contains]
  have value : (publisher.slot subId).pending.getD .empty =
      publisher.pendingSubscriptions.getD subId .empty := by
    rw [slot, ExtTreeMap.getD_eq_getD_getElem?]
  rw [removedSubscriber, Slot.step, known, value]
  cases publisher.greeter with
  | false =>
      refine ⟨by simp, ?_⟩
      intro other
      by_cases same : subId = other
      · subst other
        simp [slot]
      · simp [slot, same, ExtTreeMap.getElem?_erase]
  | true =>
      refine ⟨by simp, ?_⟩
      intro other
      by_cases same : subId = other
      · subst other
        simp only [slot, if_true, Table.getElem?_touch, ExtTreeMap.getD_eq_getD_getElem?]
        simp
      · simp only [slot, if_true, Table.getElem?_touch]
        simp [same, ExtTreeMap.getElem?_erase]

/-- A publisher is a collection of slots: an event concerns the slot of its
subject, and nothing else. -/
theorem actsOn_step (publisher : ZeroMQPublisher) {event : PublisherEvent} {subId : CString}
    (subject : event.subject = some subId) :
    publisher.ActsOn subId (publisher.step event)
      (Slot.step publisher.greeter subId (publisher.slot subId) event) := by
  cases event with
  | addedSubscriber remoteId other =>
      cases subject
      exact publisher.actsOn_addedSubscriber remoteId subId
  | removedSubscriber remoteId other =>
      cases subject
      exact publisher.actsOn_removedSubscriber remoteId subId
  | frame data =>
      have stored := publisher.actsOn_zmq subId
      have entered := actsOn_establish { publisher with
        pendingZMQSubscriptions := publisher.pendingZMQSubscriptions.insert subId } subId
      rw [stored.2 subId, if_pos rfl] at entered
      have received : publisher.receiveFrame data = establish { publisher with
          pendingZMQSubscriptions := publisher.pendingZMQSubscriptions.insert subId } subId := by
        rw [receiveFrame, show subscribedBy data = some subId from subject]
        exact if_neg (by simp [CString.length, CString.empty])
      rw [step, received]
      exact stored.trans entered

/-- Any other frame is ignored. -/
theorem step_of_no_subject (publisher : ZeroMQPublisher) {event : PublisherEvent}
    (anonymous : event.subject = none) : publisher.step event = (publisher, []) := by
  cases event with
  | addedSubscriber remoteId subId => cases anonymous
  | removedSubscriber remoteId subId => cases anonymous
  | frame data =>
      rw [step, receiveFrame, show subscribedBy data = none from anonymous]

/-- One step, seen from one subscriber. -/
theorem slot_step (publisher : ZeroMQPublisher) (event : PublisherEvent) (subId : CString) :
    (publisher.step event).1.slot subId =
      if event.subject = some subId then
        (Slot.step publisher.greeter subId (publisher.slot subId) event).1
      else publisher.slot subId := by
  cases subject : event.subject with
  | none =>
      rw [publisher.step_of_no_subject subject]
      rfl
  | some other =>
      rw [(publisher.actsOn_step subject).2 subId]
      by_cases same : other = subId
      · subst same
        rw [if_pos rfl, if_pos rfl]
      · rw [if_neg same, if_neg (fun equal => same (Option.some.inj equal))]

/-- One step, heard by one subscriber. -/
private theorem filter_step (publisher : ZeroMQPublisher) (event : PublisherEvent) (subId : CString) :
    (publisher.step event).2.filter (fun effect => effect.subId = subId) =
      if event.subject = some subId then
        (Slot.step publisher.greeter subId (publisher.slot subId) event).2
      else [] := by
  cases subject : event.subject with
  | none =>
      rw [publisher.step_of_no_subject subject]
      rfl
  | some other =>
      rw [(publisher.actsOn_step subject).1]
      by_cases same : other = subId
      · subst same
        rw [if_pos rfl]
        apply List.filter_eq_self.mpr
        intro effect member
        exact decide_eq_true (Slot.subId_of_mem_step _ _ member)
      · rw [if_neg (fun equal => same (Option.some.inj equal))]
        apply List.filter_eq_nil_iff.mpr
        intro effect member found
        exact same ((Slot.subId_of_mem_step _ _ member).symm.trans (of_decide_eq_true found))

/-- A run of a publisher is, for every subscriber, the run of its slot on the
events about it. -/
theorem run_slot (publisher : ZeroMQPublisher) (events : List PublisherEvent) (subId : CString) :
    (run step publisher events).1.slot subId =
        (run (Slot.step publisher.greeter subId) (publisher.slot subId) (concerning subId events)).1 ∧
      (run step publisher events).2.filter (fun effect => effect.subId = subId) =
        (run (Slot.step publisher.greeter subId) (publisher.slot subId) (concerning subId events)).2 := by
  induction events generalizing publisher with
  | nil => exact ⟨rfl, rfl⟩
  | cons event rest ih =>
      have later := ih (publisher.step event).1
      rw [step_greeter, slot_step] at later
      rw [run, List.filter_append, filter_step, concerning, List.filter_cons]
      by_cases about : event.subject = some subId
      · simp only [about, decide_true, if_true] at later ⊢
        rw [run, later.1, later.2]
        exact ⟨rfl, rfl⟩
      · simp only [about, decide_false, if_false, List.nil_append, Bool.false_eq_true] at later ⊢
        exact later

end ZeroMQPublisher
end Connection
end Umundo
