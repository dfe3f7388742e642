import Umundo.Connection.Handshake
import Umundo.Foundation.Alternation

namespace Umundo
namespace Connection

open Foundation Std

/-!
# What a greeter is told

A greeter wants to hear of every subscriber that comes and goes, in turns, together with
the node the subscriber belongs to.  It is not supposed to change what the publisher
does.  To say which node it ought to be told, this module keeps the node that
`addedSubscriber` has recorded for every subscriber beside the publisher.

The publisher looks the node up after its entry was erased.  The greeter is told an empty
name every time, and the entry that the look-up leaves behind outlasts the subscription.
-/

/-- The methods of a greeter. -/
inductive Greeting where
  | welcome
  | farewell
deriving DecidableEq

/-- A call of the greeter and the node it ought to name. -/
structure Callback where
  greeting : Greeting
  nodeId : CString
  subId : CString
  recorded : Option CString
deriving DecidableEq

def Callback.Addressed (callback : Callback) : Prop :=
  callback.recorded = some callback.nodeId

instance : DecidablePred Callback.Addressed := fun callback =>
  inferInstanceAs (Decidable (callback.recorded = some callback.nodeId))

def PublisherEffect.callback (recorded : CString -> Option CString) : PublisherEffect -> Option Callback
  | .entered _ _ => none
  | .welcome nodeId subId => some ⟨.welcome, nodeId, subId, recorded subId⟩
  | .farewell nodeId subId => some ⟨.farewell, nodeId, subId, recorded subId⟩
  | .unestablished _ => none

/-- The calls about one subscriber. -/
def greetings (subId : CString) (callbacks : List Callback) : List Greeting :=
  callbacks.filterMap (fun callback => if callback.subId = subId then some callback.greeting else none)

/-- A publisher, and the node that was last recorded for each of its subscribers. -/
structure GuestBook where
  publisher : ZeroMQPublisher
  recorded : CString -> Option CString

namespace GuestBook

def init (greeter : Bool) : GuestBook where
  publisher := .init greeter
  recorded := fun _ => none

/-- The assignment to `_pendingSubscriptions[subId]` in `addedSubscriber`. -/
def record (book : GuestBook) : PublisherEvent -> CString -> Option CString
  | .addedSubscriber remoteId subId =>
      if remoteId.length ≠ 0 ∧ subId ∉ book.publisher.pendingSubscriptions then
        Function.update book.recorded subId (some remoteId)
      else book.recorded
  | .removedSubscriber _ _ => book.recorded
  | .frame _ => book.recorded

def step (book : GuestBook) (event : PublisherEvent) : GuestBook × List Callback :=
  let outcome := book.publisher.step event
  (⟨outcome.1, book.record event⟩, outcome.2.filterMap (PublisherEffect.callback (book.record event)))

def Admissible (book : GuestBook) (event : PublisherEvent) : Prop :=
  book.publisher.Admissible event

instance (book : GuestBook) : DecidablePred book.Admissible := fun event =>
  inferInstanceAs (Decidable (book.publisher.Admissible event))

end GuestBook

/-- What a greeter may rely on. -/
structure GreeterContract (events : List PublisherEvent) : Prop where
  alternating : forall subId, Alternates Greeting.welcome Greeting.farewell false
    (greetings subId (run GuestBook.step (.init true) events).2)
  addressed : forall callback, callback ∈ (run GuestBook.step (.init true) events).2 ->
    callback.Addressed
  unobtrusive :
    let greeted := (run ZeroMQPublisher.step (.init true) events).1
    let alone := (run ZeroMQPublisher.step (.init false) events).1
    greeted.subscriptions = alone.subscriptions ∧
      greeted.pendingSubscriptions = alone.pendingSubscriptions ∧
      greeted.pendingZMQSubscriptions = alone.pendingZMQSubscriptions

/-! ## One subscriber under a greeter -/

/-- What an admissible event does to the slot of its subject. -/
inductive Slot.Greeted (subId : CString) (slot : Slot) :
    PublisherEvent -> Slot × List PublisherEffect -> Prop
  | known {remoteId earlier : CString} (pending : slot.pending = some earlier) :
      Greeted subId slot (.addedSubscriber remoteId subId) (slot, [])
  | waits {remoteId : CString} (named : remoteId.length ≠ 0) (pending : slot.pending = none)
      (zmq : slot.zmq = false) :
      Greeted subId slot (.addedSubscriber remoteId subId) ({ slot with pending := some remoteId }, [])
  | joins {remoteId : CString} (named : remoteId.length ≠ 0) (pending : slot.pending = none)
      (zmq : slot.zmq = true) :
      Greeted subId slot (.addedSubscriber remoteId subId)
        (⟨some .empty, false, some remoteId⟩, [.entered subId remoteId, .welcome .empty subId])
  | subscribes {data : Bytes} (pending : slot.pending = none) :
      Greeted subId slot (.frame data) ({ slot with zmq := true }, [])
  | enters {data : Bytes} {remoteId : CString} (pending : slot.pending = some remoteId) :
      Greeted subId slot (.frame data)
        (⟨some .empty, false, some remoteId⟩, [.entered subId remoteId, .welcome .empty subId])
  | leaves {remoteId node : CString} (established : slot.established = some node) :
      Greeted subId slot (.removedSubscriber remoteId subId)
        ({ slot with established := none, pending := some (slot.pending.getD .empty) },
          [.farewell (slot.pending.getD .empty) subId])

/-- The entry that the greeter's look-up has left behind. -/
def Slot.Stuck (slot : Slot) : Prop :=
  slot.established.isSome = true -> slot.pending = some .empty

namespace Slot

variable {subId : CString} {slot : Slot}

theorem greeted_addedSubscriber {remoteId : CString} (named : remoteId.length ≠ 0) :
    Greeted subId slot (.addedSubscriber remoteId subId)
      (step true subId slot (.addedSubscriber remoteId subId)) := by
  rw [step, if_pos named]
  rcases slot with ⟨pending, zmq, established⟩
  cases pending with
  | some earlier => exact .known rfl
  | none =>
      cases zmq with
      | true => exact .joins named rfl rfl
      | false => exact .waits named rfl rfl

theorem greeted_frame (data : Bytes) :
    Greeted subId slot (.frame data) (step true subId slot (.frame data)) := by
  rcases slot with ⟨pending, zmq, established⟩
  cases pending with
  | some remoteId => exact .enters rfl
  | none => exact .subscribes rfl

theorem greeted_removedSubscriber (remoteId : CString) (present : slot.established.isSome = true) :
    Greeted subId slot (.removedSubscriber remoteId subId)
      (step true subId slot (.removedSubscriber remoteId subId)) := by
  rcases slot with ⟨pending, zmq, established⟩
  cases established with
  | some node => exact .leaves rfl
  | none => cases present

theorem Greeted.stuck {event : PublisherEvent} {outcome : Slot × List PublisherEffect}
    (greeted : Greeted subId slot event outcome) (stuck : slot.Stuck) : outcome.1.Stuck := by
  intro present
  cases greeted with
  | known pending => exact stuck present
  | waits named pending zmq =>
      have empty := stuck present
      rw [pending] at empty
      cases empty
  | joins named pending zmq => rfl
  | subscribes pending => exact stuck present
  | enters pending => rfl
  | leaves established => cases present

end Slot

namespace ZeroMQPublisher

theorem greeted_step (publisher : ZeroMQPublisher) {event : PublisherEvent} {subId : CString}
    (subject : event.subject = some subId) (admissible : publisher.Admissible event) :
    Slot.Greeted subId (publisher.slot subId) event (Slot.step true subId (publisher.slot subId) event) := by
  cases event with
  | addedSubscriber remoteId other =>
      cases subject
      exact Slot.greeted_addedSubscriber admissible
  | removedSubscriber remoteId other =>
      cases subject
      exact Slot.greeted_removedSubscriber remoteId (ExtTreeMap.mem_iff_isSome_getElem?.mp admissible)
  | frame data => exact Slot.greeted_frame data

end ZeroMQPublisher

/-! ## Runs -/

namespace GuestBook

/-- A publisher with a greeter.  What was recorded for a subscriber has a name. -/
structure Greets (book : GuestBook) : Prop where
  greeter : book.publisher.greeter = true
  stuck : forall subId, (book.publisher.slot subId).Stuck
  named : forall subId, book.recorded subId ≠ some .empty

theorem Greets.init : (GuestBook.init true).Greets where
  greeter := rfl
  stuck := by
    intro subId present
    simp [GuestBook.init, ZeroMQPublisher.init, ZeroMQPublisher.slot] at present
  named := nofun

theorem record_named (book : GuestBook) (named : forall subId, book.recorded subId ≠ some .empty)
    (event : PublisherEvent) (subId : CString) : book.record event subId ≠ some .empty := by
  cases event with
  | addedSubscriber remoteId other =>
      rw [record]
      split
      next fresh =>
        rw [Function.update_apply]
        split
        · intro same
          cases same
          exact fresh.1 rfl
        · exact named subId
      · exact named subId
  | removedSubscriber remoteId other => exact named subId
  | frame data => exact named subId

theorem Greets.step {book : GuestBook} (greets : book.Greets) {event : PublisherEvent}
    (admissible : book.Admissible event) : (book.step event).1.Greets where
  greeter := (ZeroMQPublisher.step_greeter _ _).trans greets.greeter
  stuck := by
    intro subId
    change ((book.publisher.step event).1.slot subId).Stuck
    rw [book.publisher.slot_step, greets.greeter]
    split
    next subject => exact (book.publisher.greeted_step subject admissible).stuck (greets.stuck subId)
    · exact greets.stuck subId
  named := book.record_named greets.named event

/-- The calls a step makes. -/
theorem step_callbacks {book : GuestBook} (greets : book.Greets) {event : PublisherEvent}
    {subId : CString} (subject : event.subject = some subId) :
    (book.step event).2 =
      (Slot.step true subId (book.publisher.slot subId) event).2.filterMap
        (PublisherEffect.callback (book.record event)) := by
  rw [step, (book.publisher.actsOn_step subject).1, greets.greeter]

theorem callbacks_of_no_subject {book : GuestBook} {event : PublisherEvent}
    (anonymous : event.subject = none) : (book.step event).2 = [] := by
  rw [step, book.publisher.step_of_no_subject anonymous]
  rfl

/-- The greeter is told an empty name every time. -/
theorem nodeId_of_mem_step {book : GuestBook} (greets : book.Greets) {event : PublisherEvent}
    (admissible : book.Admissible event) {callback : Callback}
    (member : callback ∈ (book.step event).2) : ¬ callback.Addressed := by
  suffices told : callback.nodeId = .empty ∧ callback.recorded = book.record event callback.subId by
    rw [Callback.Addressed, told.1, told.2]
    exact book.record_named greets.named event _
  cases subject : event.subject with
  | none =>
      rw [callbacks_of_no_subject subject] at member
      cases member
  | some subId =>
      have greeted := book.publisher.greeted_step subject admissible
      rw [step_callbacks greets subject] at member
      generalize Slot.step true subId (book.publisher.slot subId) event = outcome at greeted member
      cases greeted with
      | known pending => cases member
      | waits named pending zmq => cases member
      | subscribes pending => cases member
      | joins named pending zmq =>
          cases List.mem_singleton.mp member
          exact ⟨rfl, rfl⟩
      | enters pending =>
          cases List.mem_singleton.mp member
          exact ⟨rfl, rfl⟩
      | leaves established =>
          cases List.mem_singleton.mp member
          have empty := greets.stuck subId (by rw [established]; rfl)
          refine ⟨?_, rfl⟩
          rw [empty]
          rfl

/-- A step only makes calls about its subject. -/
theorem subject_of_mem_step {book : GuestBook} {event : PublisherEvent} {callback : Callback}
    (member : callback ∈ (book.step event).2) : event.subject = some callback.subId := by
  cases subject : event.subject with
  | none =>
      rw [callbacks_of_no_subject subject] at member
      cases member
  | some subId =>
      obtain ⟨effect, listed, found⟩ := List.mem_filterMap.mp member
      rw [(book.publisher.actsOn_step subject).1] at listed
      have about := Slot.subId_of_mem_step _ _ listed
      cases effect <;> cases found <;> rw [← about] <;> rfl

end GuestBook

/-! ## Runs in which both halves meet -/

section

variable {events : List PublisherEvent} {event : PublisherEvent} {subId : CString}

theorem Met.concat (met : Met events subId) (event : PublisherEvent) : Met (events ++ [event]) subId :=
  ⟨(announced_concat _ _ _).mpr (.inl met.1), (framed_concat _ _ _).mpr (.inl met.2)⟩

theorem met_concat_of_ne (other : event.subject ≠ some subId) :
    Met (events ++ [event]) subId <-> Met events subId := by
  rw [Met, Met, announced_concat, framed_concat]
  refine and_congr (or_iff_left ?_) (or_iff_left ?_)
  · rintro ⟨remoteId, rfl⟩
    exact other rfl
  · rintro ⟨data, rfl, subject⟩
    exact other subject

/-- The tables tell which half has arrived, as long as only one has. -/
structure Slot.Remembers (events : List PublisherEvent) (subId : CString) (slot : Slot) : Prop where
  pending : slot.pending.isSome = true <-> Announced events subId
  zmq : slot.zmq = true <-> Framed events subId
  established : slot.established = none

/-- An event completes a subscription, or it does the same as without a greeter. -/
theorem Slot.Greeted.meets_or_quiet {slot : Slot} {outcome : Slot × List PublisherEffect}
    (greeted : Greeted subId slot event outcome) (subject : event.subject = some subId)
    (unmet : ¬ Met events subId) (remembers : slot.Remembers events subId) :
    (Met (events ++ [event]) subId ∧ PublisherEffect.welcome .empty subId ∈ outcome.2) ∨
      (¬ Met (events ++ [event]) subId ∧ outcome.1 = (Slot.step false subId slot event).1 ∧
        outcome.2 = []) := by
  rw [Met, announced_concat, framed_concat]
  rcases slot with ⟨waiting, subscribed, present⟩
  cases greeted with
  | @known remoteId earlier pending =>
      cases pending
      have announced := remembers.pending.mp rfl
      refine .inr ⟨?_, ?_, rfl⟩
      · simpa [Met, announced] using unmet
      · rw [Slot.step]
        split
        · rfl
        next unnamed =>
          have framed : subscribed = false := by
            rw [Bool.eq_false_iff]
            exact fun set => unmet ⟨announced, remembers.zmq.mp set⟩
          rw [framed]
          rfl
  | @waits remoteId named pending zmq =>
      cases pending
      cases zmq
      have unframed : ¬ Framed events subId := fun framed => Bool.false_ne_true (remembers.zmq.mpr framed)
      refine .inr ⟨by simp [unframed], ?_, rfl⟩
      rw [Slot.step, if_pos named]
      rfl
  | @joins remoteId named pending zmq =>
      cases zmq
      have framed := remembers.zmq.mp rfl
      exact .inl ⟨⟨.inr ⟨remoteId, rfl⟩, .inl framed⟩, by simp⟩
  | @subscribes data pending =>
      cases pending
      have unannounced : ¬ Announced events subId :=
        fun announced => Bool.false_ne_true (remembers.pending.mpr announced)
      exact .inr ⟨by simp [unannounced], rfl, rfl⟩
  | @enters data remoteId pending =>
      cases pending
      have announced := remembers.pending.mp rfl
      exact .inl ⟨⟨.inl announced, .inr ⟨data, rfl, subject⟩⟩, by simp⟩
  | @leaves remoteId node established =>
      cases remembers.established.symm.trans established

/-- Without a greeter, the name of a node is pending or nothing is. -/
theorem Slot.pending_step_alone {slot : Slot} (named : slot.pending ≠ some .empty)
    (calls : forall remoteId, event = .addedSubscriber remoteId subId -> remoteId.length ≠ 0)
    (subject : event.subject = some subId) :
    (Slot.step false subId slot event).1.pending ≠ some .empty := by
  rcases slot with ⟨pending, zmq, established⟩
  cases event with
  | addedSubscriber remoteId other =>
      cases subject
      have length := calls remoteId rfl
      rw [Slot.step, if_pos length]
      cases pending with
      | some earlier => exact named
      | none =>
          cases zmq with
          | true => exact Option.some_ne_none _ ∘ Eq.symm
          | false =>
              intro empty
              cases empty
              exact length rfl
  | removedSubscriber remoteId other => exact named
  | frame data => cases pending <;> exact Option.some_ne_none _ ∘ Eq.symm

end

namespace GuestBook

theorem run_publisher (greeter : Bool) (events : List PublisherEvent) :
    (run step (init greeter) events).1.publisher = (run ZeroMQPublisher.step (.init greeter) events).1 :=
  run_project publisher (fun _ _ => rfl) _ events

/-- The accounts of the two halves, as the tables show them. -/
theorem accounts_of_run {events : List PublisherEvent} (admitted : Admits step Admissible (init true) events)
    (subId : CString) :
    (¬ Met events subId -> ((run step (init true) events).1.publisher.slot subId).Remembers events subId) ∧
      (Met events subId ->
        ((run step (init true) events).1.publisher.slot subId).pending = some .empty) := by
  have alone : Admits ZeroMQPublisher.step ZeroMQPublisher.Admissible (.init true) events :=
    (admits_project publisher (fun _ _ => rfl) (fun _ _ => Iff.rfl) (init true) events).mp admitted
  have kept : Admits Handshake.step Handshake.Admissible (.init true) events :=
    (admits_project Handshake.publisher (fun _ _ => rfl) (fun _ _ => Iff.rfl) (.init true) events).mpr alone
  have accounts := (Handshake.accounts_of_run true events kept).2.1 subId
  have publisher : (run Handshake.step (.init true) events).1.publisher =
      (run step (init true) events).1.publisher :=
    (run_project Handshake.publisher (fun _ _ => rfl) _ events).trans (run_publisher true events).symm
  have slot : ((run Handshake.step (.init true) events).1.seat subId).slot =
      (run step (init true) events).1.publisher.slot subId := by
    rw [Handshake.seat, publisher]
  rw [← slot]
  refine ⟨fun unmet => ?_, accounts.stuck rfl⟩
  obtain ⟨pending, zmq, established⟩ := accounts.unmet unmet
  exact ⟨pending, zmq, established⟩

theorem greets_of_run {events : List PublisherEvent} (admitted : Admits step Admissible (init true) events) :
    (run step (init true) events).1.Greets :=
  invariant_of_run Greets (fun _ _ greets admissible => greets.step admissible) .init admitted

/-- The greeter is called about a subscriber exactly if both of its halves have arrived. -/
theorem called_iff_of_run {events : List PublisherEvent}
    (admitted : Admits step Admissible (init true) events) (subId : CString) :
    (Exists fun callback => callback ∈ (run step (init true) events).2 ∧ callback.subId = subId) <->
      Met events subId := by
  induction events using List.reverseRecOn with
  | nil =>
      refine iff_of_false ?_ ?_
      · rintro ⟨callback, member, _⟩
        cases member
      · rintro ⟨⟨remoteId, member⟩, _⟩
        cases member
  | append_singleton events event ih =>
      obtain ⟨earlier, admissible, _⟩ := (admits_append _ _ _).mp admitted
      have before := ih earlier
      simp only [run_append, run, List.append_nil, List.mem_append, or_and_right, exists_or, before]
      by_cases met : Met events subId
      · exact iff_of_true (.inl met) (met.concat event)
      · rw [or_iff_right met]
        by_cases subject : event.subject = some subId
        · have greets := greets_of_run earlier
          have greeted := (run step (init true) events).1.publisher.greeted_step subject admissible
          rw [step_callbacks greets subject]
          rcases greeted.meets_or_quiet subject met ((accounts_of_run earlier subId).1 met) with
            ⟨now, welcomed⟩ | ⟨never, _, silent⟩
          · exact iff_of_true ⟨_, List.mem_filterMap.mpr ⟨_, welcomed, rfl⟩, rfl⟩ now
          · refine iff_of_false ?_ never
            rw [silent]
            rintro ⟨callback, member, _⟩
            cases member
        · rw [met_concat_of_ne subject]
          refine iff_of_false ?_ met
          rintro ⟨callback, member, rfl⟩
          exact subject (subject_of_mem_step member)

/-- The node is right in every call exactly if there is no call. -/
theorem callbacks_addressed_iff {events : List PublisherEvent}
    (admitted : Admits step Admissible (init true) events) :
    (forall callback, callback ∈ (run step (init true) events).2 -> callback.Addressed) <->
      forall subId, ¬ Met events subId := by
  have misled := outputs_of_run Greets (fun callback => ¬ callback.Addressed)
    (fun _ _ greets admissible => greets.step admissible)
    (fun _ _ greets admissible _ member => nodeId_of_mem_step greets admissible member) .init admitted
  constructor
  · intro addressed subId met
    obtain ⟨callback, member, _⟩ := (called_iff_of_run admitted subId).mpr met
    exact misled callback member (addressed callback member)
  · intro never callback member
    exact absurd ((called_iff_of_run admitted _).mp ⟨callback, member, rfl⟩) (never callback.subId)

/-! ## Two runs -/

private theorem alone_greeter (events : List PublisherEvent) :
    (run ZeroMQPublisher.step (.init false) events).1.greeter = false :=
  invariant_of_run (fun publisher : ZeroMQPublisher => publisher.greeter = false)
    (fun _ _ alone _ => (ZeroMQPublisher.step_greeter _ _).trans alone) rfl
    (admits_true ZeroMQPublisher.step _ events)

/-- Without the greeter no empty name is ever pending. -/
theorem pending_alone {events : List PublisherEvent} (admitted : Admits step Admissible (init true) events)
    (subId : CString) :
    ((run ZeroMQPublisher.step (.init false) events).1.slot subId).pending ≠ some .empty := by
  induction events using List.reverseRecOn with
  | nil => simp [run, ZeroMQPublisher.init, ZeroMQPublisher.slot]
  | append_singleton events event ih =>
      obtain ⟨earlier, admissible, _⟩ := (admits_append _ _ _).mp admitted
      simp only [run_append, run]
      rw [ZeroMQPublisher.slot_step, alone_greeter]
      split
      next subject =>
        refine Slot.pending_step_alone (ih earlier) ?_ subject
        rintro remoteId rfl
        exact admissible
      · exact ih earlier

/-- The greeter leaves the entries of a subscriber alone exactly as long as both of its
halves have not arrived. -/
theorem slot_iff_of_run {events : List PublisherEvent} (admitted : Admits step Admissible (init true) events)
    (subId : CString) :
    (run ZeroMQPublisher.step (.init true) events).1.slot subId =
        (run ZeroMQPublisher.step (.init false) events).1.slot subId <->
      ¬ Met events subId := by
  constructor
  · intro same met
    have stuck := (accounts_of_run admitted subId).2 met
    rw [run_publisher, same] at stuck
    exact pending_alone admitted subId stuck
  · -- as long as the halves have not met, every step is the same with and without a greeter
    intro unmet
    induction events using List.reverseRecOn with
    | nil => rfl
    | append_singleton events event ih =>
        obtain ⟨earlier, admissible, _⟩ := (admits_append _ _ _).mp admitted
        have before : ¬ Met events subId := fun met => unmet (met.concat event)
        have same := ih earlier before
        have greets := (greets_of_run earlier).greeter
        have remembers := (accounts_of_run earlier subId).1 before
        change ZeroMQPublisher.Admissible _ event at admissible
        rw [run_publisher] at greets remembers admissible
        simp only [run_append, run]
        rw [ZeroMQPublisher.slot_step, ZeroMQPublisher.slot_step, alone_greeter, greets, ← same]
        split
        next subject =>
          have greeted := ZeroMQPublisher.greeted_step _ subject admissible
          exact ((greeted.meets_or_quiet subject before remembers).resolve_left
            (fun met => unmet met.1)).2.1
        · rfl

/-! ## Taking turns -/

/-- A subscription frame of a subscriber that is still established. -/
def Resubscribes (subId : CString) (book : GuestBook) : PublisherEvent -> Prop
  | .addedSubscriber _ _ => False
  | .removedSubscriber _ _ => False
  | .frame data => subscribedBy data = some subId ∧ subId ∈ book.publisher.subscriptions

def established (subId : CString) (book : GuestBook) : Bool :=
  (book.publisher.slot subId).established.isSome

theorem greetings_of_ne {book : GuestBook} {event : PublisherEvent} {subId : CString}
    (other : event.subject ≠ some subId) : greetings subId (book.step event).2 = [] := by
  refine List.filterMap_eq_nil_iff.mpr (fun callback member => if_neg ?_)
  rintro rfl
  exact other (subject_of_mem_step member)

theorem greetings_entered (recorded : CString -> Option CString) (subId remoteId : CString) :
    greetings subId ([PublisherEffect.entered subId remoteId, .welcome .empty subId].filterMap
      (PublisherEffect.callback recorded)) = [.welcome] := by
  simp [greetings, List.filterMap_cons, PublisherEffect.callback]

theorem greetings_farewell (recorded : CString -> Option CString) (subId nodeId : CString) :
    greetings subId ([PublisherEffect.farewell nodeId subId].filterMap
      (PublisherEffect.callback recorded)) = [.farewell] := by
  simp [greetings, PublisherEffect.callback]

/-- A step calls the greeter in turn, or welcomes an established subscriber. -/
theorem switches_or_stumbles {book : GuestBook} (greets : book.Greets) {event : PublisherEvent}
    (admissible : book.Admissible event) (subId : CString) :
    (¬ book.Resubscribes subId event ∧
        Switches Greeting.welcome Greeting.farewell (book.established subId)
          (greetings subId (book.step event).2) ((book.step event).1.established subId)) ∨
      (book.Resubscribes subId event ∧ book.established subId = true ∧
        greetings subId (book.step event).2 = [.welcome]) := by
  have after : (book.step event).1.publisher = (book.publisher.step event).1 := rfl
  have present : subId ∈ book.publisher.subscriptions <-> book.established subId = true :=
    ExtTreeMap.mem_iff_isSome_getElem?
  by_cases subject : event.subject = some subId
  · have greeted := book.publisher.greeted_step subject admissible
    have absent : (book.publisher.slot subId).pending = none ->
        (book.publisher.slot subId).established = none := by
      intro pending
      by_contra some
      have stuck := greets.stuck subId (Option.isSome_iff_ne_none.mpr some)
      rw [pending] at stuck
      cases stuck
    rw [step_callbacks greets subject, established, established, after, ZeroMQPublisher.slot_step,
      if_pos subject, greets.greeter]
    rw [established] at present
    generalize Slot.step true subId (book.publisher.slot subId) event = outcome at greeted
    cases greeted with
    | known pending => exact .inl ⟨id, .idle _⟩
    | waits named pending zmq => exact .inl ⟨id, .idle _⟩
    | subscribes pending =>
        rw [absent pending] at present
        exact .inl ⟨fun again => Bool.false_ne_true (present.mp again.2), .idle _⟩
    | joins named pending zmq =>
        rw [absent pending, greetings_entered]
        exact .inl ⟨id, .opens⟩
    | enters pending =>
        cases was : (book.publisher.slot subId).established with
        | none =>
            rw [was] at present
            refine .inl ⟨fun again => Bool.false_ne_true (present.mp again.2), ?_⟩
            rw [greetings_entered]
            exact .opens
        | some node =>
            rw [was] at present
            exact .inr ⟨⟨subject, present.mpr rfl⟩, rfl, greetings_entered _ _ _⟩
    | leaves was =>
        rw [was, greetings_farewell]
        exact .inl ⟨id, .closes⟩
  · rw [greetings_of_ne subject, established, established, after, ZeroMQPublisher.slot_step, if_neg subject]
    refine .inl ⟨?_, .idle _⟩
    cases event with
    | addedSubscriber remoteId other => exact id
    | removedSubscriber remoteId other => exact id
    | frame data => exact fun again => subject again.1

/-- The greeter is called in turns exactly if no established subscriber subscribes again. -/
theorem alternates_iff_of_run {events : List PublisherEvent}
    (admitted : Admits step Admissible (init true) events) (subId : CString) :
    Alternates Greeting.welcome Greeting.farewell false (greetings subId (run step (init true) events).2) <->
      Admits step (fun book event => ¬ book.Resubscribes subId event) (init true) events := by
  have closed : (init true).established subId = false := by
    simp [established, init, ZeroMQPublisher.init, ZeroMQPublisher.slot]
  rw [← closed]
  refine Foundation.alternates_iff_of_run (greetings subId) rfl (fun _ _ => List.filterMap_append)
    (established subId) Greets (fun _ _ greets admissible => greets.step admissible) _ ?_ ?_ .init admitted
  · intro book event greets admissible once
    exact ((switches_or_stumbles greets admissible subId).resolve_right (fun again => once again.1)).2
  · intro book event greets admissible again rest alternates
    obtain ⟨_, already, calls⟩ :=
      (switches_or_stumbles greets admissible subId).resolve_left (fun once => again once.1)
    rw [already, calls] at alternates
    cases alternates.1

end GuestBook

/-- The tables of a publisher are the entries of all subscribers. -/
theorem ZeroMQPublisher.tables_eq_iff (first second : ZeroMQPublisher) :
    (first.subscriptions = second.subscriptions ∧
        first.pendingSubscriptions = second.pendingSubscriptions ∧
        first.pendingZMQSubscriptions = second.pendingZMQSubscriptions) <->
      forall subId, first.slot subId = second.slot subId := by
  constructor
  · rintro ⟨subscriptions, pending, zmq⟩ subId
    rw [slot, slot, subscriptions, pending, zmq]
  · intro same
    refine ⟨ExtTreeMap.ext_getElem? fun subId => ?_, ExtTreeMap.ext_getElem? fun subId => ?_,
      ExtTreeSet.ext_contains fun subId => ?_⟩
    · exact congrArg Slot.established (same subId)
    · exact congrArg Slot.pending (same subId)
    · exact congrArg Slot.zmq (same subId)

namespace GuestBook

/-- A greeter can rely on its contract exactly as long as no subscriber is established.
Its calls take turns for as long as no established subscriber subscribes again. -/
theorem contract_iff_of_run (events : List PublisherEvent)
    (admitted : Admits step Admissible (init true) events) :
    (GreeterContract events <-> forall subId, ¬ Met events subId) ∧
      forall subId,
        Alternates Greeting.welcome Greeting.farewell false
            (greetings subId (run step (init true) events).2) <->
          Admits step (fun book event => ¬ book.Resubscribes subId event) (init true) events := by
  refine ⟨⟨?_, ?_⟩, alternates_iff_of_run admitted⟩
  · intro contract
    exact (callbacks_addressed_iff admitted).mp contract.addressed
  · intro never
    refine ⟨?_, (callbacks_addressed_iff admitted).mpr never, ?_⟩
    · intro subId
      have silent : greetings subId (run step (init true) events).2 = [] := by
        refine List.filterMap_eq_nil_iff.mpr (fun callback member => if_neg fun about => ?_)
        exact never subId ((called_iff_of_run admitted subId).mp ⟨callback, member, about⟩)
      rw [silent]
      exact trivial
    · exact (ZeroMQPublisher.tables_eq_iff _ _).mpr fun subId =>
        (slot_iff_of_run admitted subId).mpr (never subId)

theorem contract_iff_of_run_strangers :
    let subId : CString := ⟨List.replicate 36 110, by decide⟩
    let other : CString := ⟨List.replicate 36 111, by decide⟩
    let remoteId : CString := ⟨List.replicate 36 112, by decide⟩
    let events : List PublisherEvent := [.frame (1 :: subId.bytes), .addedSubscriber remoteId other]
    Admits step Admissible (init true) events ∧ GreeterContract events := by
  intro subId other remoteId events
  have admitted : Admits step Admissible (init true) events := by decide +kernel
  refine ⟨admitted, (contract_iff_of_run events admitted).1.mpr ?_⟩
  rintro third ⟨⟨node, announced⟩, data, framed, subject⟩
  obtain ⟨rfl, rfl⟩ : node = remoteId ∧ third = other := by simpa [events] using announced
  obtain rfl : data = 1 :: subId.bytes := by simpa [events] using framed
  revert subject
  decide +kernel

/-- A subscriber whose two halves arrive, and the first of them twice. -/
theorem greeted_without_node :
    let subId : CString := ⟨List.replicate 36 110, by decide⟩
    let remoteId : CString := ⟨List.replicate 36 112, by decide⟩
    let events : List PublisherEvent :=
      [.frame (1 :: subId.bytes), .addedSubscriber remoteId subId, .frame (1 :: subId.bytes)]
    Admits step Admissible (init true) events ∧
      (run step (init true) events).2 =
        [⟨.welcome, .empty, subId, some remoteId⟩, ⟨.welcome, .empty, subId, some remoteId⟩] ∧
      (run ZeroMQPublisher.step (.init true) events).1.subscriptions[subId]? = some .empty ∧
      (run ZeroMQPublisher.step (.init false) events).1.subscriptions[subId]? = some remoteId ∧
      ¬ GreeterContract events := by
  intro subId remoteId events
  have calls : (run step (init true) events).2 =
      [⟨.welcome, .empty, subId, some remoteId⟩, ⟨.welcome, .empty, subId, some remoteId⟩] := by
    decide +kernel
  refine ⟨by decide +kernel, calls, by decide +kernel, by decide +kernel, ?_⟩
  intro contract
  have addressed := contract.addressed
  rw [calls] at addressed
  exact absurd (addressed _ List.mem_cons_self) (by decide +kernel)

end GuestBook
end Connection
end Umundo
