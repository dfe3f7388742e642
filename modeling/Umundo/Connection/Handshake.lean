import Mathlib.Data.List.Basic
import Mathlib.Data.List.Induction
import Umundo.Connection.Publisher

namespace Umundo
namespace Connection

open Foundation Std

/-!
# The two halves of a subscription

A subscriber is to be entered once for every pair of a half from a node and a
half from the publisher's socket.  To say so, this module keeps, beside the
publisher, the halves that have arrived since a subscriber was last entered.
These books are not part of the program.  An entry is justified if the books
hold both halves and the value stored is the node of the first.
-/

inductive Half where
  /-- `addedSubscriber` called by a node -/
  | node (remoteId : CString)
  /-- a subscription frame read by `run` -/
  | xpub
deriving DecidableEq

def PublisherEvent.halves : PublisherEvent -> List Half
  | .addedSubscriber remoteId _ => [.node remoteId]
  | .removedSubscriber _ _ => []
  | .frame _ => [.xpub]

/-- A subscriber is entered, while these halves are in the books. -/
structure Entry where
  subId : CString
  remoteId : CString
  halves : List Half

def Entry.Justified (entry : Entry) : Prop :=
  Half.node entry.remoteId ∈ entry.halves ∧ Half.xpub ∈ entry.halves

instance : DecidablePred Entry.Justified := fun entry =>
  inferInstanceAs (Decidable (Half.node entry.remoteId ∈ entry.halves ∧ Half.xpub ∈ entry.halves))

def PublisherEffect.entry (halves : CString -> List Half) : PublisherEffect -> Option Entry
  | .entered subId remoteId => some ⟨subId, remoteId, halves subId⟩
  | .welcome _ _ => none
  | .farewell _ _ => none
  | .unestablished _ => none

/-- A publisher and its books. -/
structure Handshake where
  publisher : ZeroMQPublisher
  halves : CString -> List Half

namespace Handshake

def init (greeter : Bool) : Handshake where
  publisher := .init greeter
  halves := fun _ => []

def step (handshake : Handshake) (event : PublisherEvent) : Handshake × List Entry :=
  let outcome := handshake.publisher.step event
  let halves := fun subId =>
    if event.subject = some subId then event.halves ++ handshake.halves subId
    else handshake.halves subId
  let entries := outcome.2.filterMap (PublisherEffect.entry halves)
  (⟨outcome.1, fun subId => if subId ∈ entries.map Entry.subId then [] else halves subId⟩, entries)

def Admissible (handshake : Handshake) (event : PublisherEvent) : Prop :=
  handshake.publisher.Admissible event

instance (handshake : Handshake) : DecidablePred handshake.Admissible := fun event =>
  inferInstanceAs (Decidable (handshake.publisher.Admissible event))

end Handshake

/-! ## Halves that have arrived before -/

/-- Some node has announced the subscriber. -/
def Announced (events : List PublisherEvent) (subId : CString) : Prop :=
  Exists fun remoteId => PublisherEvent.addedSubscriber remoteId subId ∈ events

/-- The socket has received a subscription to the subscriber's uuid. -/
def Framed (events : List PublisherEvent) (subId : CString) : Prop :=
  Exists fun data => PublisherEvent.frame data ∈ events ∧ subscribedBy data = some subId

/-- Both halves have arrived at some time. -/
def Met (events : List PublisherEvent) (subId : CString) : Prop :=
  Announced events subId ∧ Framed events subId

/-- A frame for a subscriber arrives though both halves were there before. -/
def Repeats (before : List PublisherEvent) : PublisherEvent -> Prop
  | .addedSubscriber _ _ => False
  | .removedSubscriber _ _ => False
  | .frame data =>
      Exists fun subId => subscribedBy data = some subId ∧ Met before subId

def NeverRepeats (events : List PublisherEvent) : Prop :=
  forall before event after, events = before ++ event :: after -> ¬ Repeats before event

theorem neverRepeats_nil : NeverRepeats [] := by
  intro before event after split
  cases before <;> cases split

theorem neverRepeats_concat (events : List PublisherEvent) (event : PublisherEvent) :
    NeverRepeats (events ++ [event]) <-> NeverRepeats events ∧ ¬ Repeats events event := by
  constructor
  · intro never
    refine ⟨?_, never events event [] rfl⟩
    intro before earlier after split
    refine never before earlier (after ++ [event]) ?_
    rw [split, List.append_assoc, List.cons_append]
  · rintro ⟨never, last⟩ before earlier after split
    rcases List.eq_nil_or_concat after with none | ⟨rest, final, concat⟩
    · rw [none] at split
      rcases List.append_inj' split rfl with ⟨same, head⟩
      cases head
      rw [← same]
      exact last
    · rw [concat, List.concat_eq_append, ← List.cons_append, ← List.append_assoc] at split
      rcases List.append_inj' split rfl with ⟨same, head⟩
      exact never before earlier rest same

theorem announced_concat (events : List PublisherEvent) (event : PublisherEvent) (subId : CString) :
    Announced (events ++ [event]) subId <->
      Announced events subId ∨ Exists fun remoteId => event = .addedSubscriber remoteId subId := by
  simp only [Announced, List.mem_append, List.mem_singleton, exists_or, eq_comm]

theorem framed_concat (events : List PublisherEvent) (event : PublisherEvent) (subId : CString) :
    Framed (events ++ [event]) subId <->
      Framed events subId ∨
        Exists fun data => event = .frame data ∧ subscribedBy data = some subId := by
  simp only [Framed, List.mem_append, List.mem_singleton, or_and_right, exists_or, eq_comm]

/-! ## The books of one subscriber -/

/-- The slot of a subscriber and the halves in its books. -/
structure Seat where
  slot : Slot
  halves : List Half

namespace Seat

section

variable (greeter : Bool) (subId : CString)

def step (seat : Seat) (event : PublisherEvent) : Seat × List Entry :=
  let outcome := Slot.step greeter subId seat.slot event
  let halves := event.halves ++ seat.halves
  let entries := outcome.2.filterMap (PublisherEffect.entry (fun _ => halves))
  (⟨outcome.1, if entries = [] then halves else []⟩, entries)

/-- A half that completes nothing is kept. -/
private def keep (slot : Slot) (half : Half) (seat : Seat) : Seat × List Entry :=
  (⟨slot, half :: seat.halves⟩, [])

/-- A half that completes the other one is used up. -/
private def enter (remoteId : CString) (half : Half) (seat : Seat) : Seat × List Entry :=
  (⟨⟨if greeter then some .empty else none, false, some remoteId⟩, []⟩,
    [⟨subId, remoteId, half :: seat.halves⟩])

private theorem step_addedSubscriber (seat : Seat) {remoteId : CString} (named : remoteId.length ≠ 0) :
    step greeter subId seat (.addedSubscriber remoteId subId) =
      match seat.slot.pending with
      | some _ => keep seat.slot (.node remoteId) seat
      | none =>
          if seat.slot.zmq then enter greeter subId remoteId (.node remoteId) seat
          else keep { seat.slot with pending := some remoteId } (.node remoteId) seat := by
  rcases seat with ⟨⟨pending, zmq, established⟩, halves⟩
  simp only [step, Slot.step, if_pos named]
  cases pending with
  | some earlier => rfl
  | none => cases zmq <;> cases greeter <;> rfl

private theorem step_frame (seat : Seat) (data : Bytes) :
    step greeter subId seat (.frame data) =
      match seat.slot.pending with
      | some remoteId => enter greeter subId remoteId .xpub seat
      | none => keep { seat.slot with zmq := true } .xpub seat := by
  rcases seat with ⟨⟨pending, zmq, established⟩, halves⟩
  cases pending with
  | some remoteId => cases greeter <;> rfl
  | none => rfl

private theorem step_removedSubscriber (seat : Seat) (remoteId : CString) :
    step greeter subId seat (.removedSubscriber remoteId subId) =
      (⟨(Slot.step greeter subId seat.slot (.removedSubscriber remoteId subId)).1, seat.halves⟩,
        []) := by
  rcases seat with ⟨⟨pending, zmq, established⟩, halves⟩
  cases established <;> cases greeter <;> rfl

end

end Seat

namespace Handshake

def seat (handshake : Handshake) (subId : CString) : Seat where
  slot := handshake.publisher.slot subId
  halves := handshake.halves subId

section

variable (handshake : Handshake) {event : PublisherEvent} {subId : CString}

theorem step_of_no_subject (anonymous : event.subject = none) :
    handshake.step event = (handshake, []) := by
  simp only [step, handshake.publisher.step_of_no_subject anonymous, anonymous]
  rfl

theorem step_entries (subject : event.subject = some subId) :
    (handshake.step event).2 =
      (Seat.step handshake.publisher.greeter subId (handshake.seat subId) event).2 := by
  have effects := (handshake.publisher.actsOn_step subject).1
  simp only [step, Seat.step, effects, subject]
  apply List.filterMap_congr
  intro effect member
  cases effect with
  | entered other remoteId =>
      have same : other = subId := Slot.subId_of_mem_step _ _ member
      subst other
      simp [PublisherEffect.entry, seat]
  | welcome node other => rfl
  | farewell node other => rfl
  | unestablished other => rfl

theorem seat_step (event : PublisherEvent) (subId : CString) :
    (handshake.step event).1.seat subId =
      if event.subject = some subId then
        (Seat.step handshake.publisher.greeter subId (handshake.seat subId) event).1
      else handshake.seat subId := by
  cases subject : event.subject with
  | none =>
      rw [handshake.step_of_no_subject subject]
      rfl
  | some other =>
      have entries := handshake.step_entries subject
      have named : forall entry, entry ∈ (handshake.step event).2 -> entry.subId = other := by
        intro entry member
        rw [entries] at member
        rcases List.mem_filterMap.mp member with ⟨effect, listed, found⟩
        cases effect <;> cases found
        exact Slot.subId_of_mem_step _ _ listed
      have expand : (handshake.step event).1.seat subId =
          ⟨(handshake.publisher.step event).1.slot subId,
            if subId ∈ (handshake.step event).2.map Entry.subId then []
            else if event.subject = some subId then event.halves ++ handshake.halves subId
            else handshake.halves subId⟩ := rfl
      rw [expand, handshake.publisher.slot_step, subject]
      by_cases same : other = subId
      · subst other
        have mentioned : subId ∈ (handshake.step event).2.map Entry.subId <->
            ¬ (handshake.step event).2 = [] := by
          constructor
          · rintro member none
            rw [none] at member
            cases member
          · intro some
            rcases List.exists_mem_of_ne_nil _ some with ⟨entry, member⟩
            exact List.mem_map.mpr ⟨entry, member, named entry member⟩
        rw [entries] at mentioned
        simp only [entries, mentioned, if_true, ite_not]
        rfl
      · have unmentioned : subId ∉ (handshake.step event).2.map Entry.subId := by
          intro member
          rcases List.mem_map.mp member with ⟨entry, listed, found⟩
          exact same ((named entry listed).symm.trans found)
        have different : ¬ some other = some subId := fun equal => same (Option.some.inj equal)
        rw [if_neg unmentioned, if_neg different, if_neg different, if_neg different]
        rfl

end

end Handshake

/-! ## What the books say after a run -/

/-- The books of one subscriber after the given events. -/
structure Accounts (greeter : Bool) (subId : CString) (events : List PublisherEvent) (seat : Seat) :
    Prop where
  named : forall remoteId, .node remoteId ∈ seat.halves -> remoteId.length ≠ 0
  backed : greeter = false ∨ ¬ Met events subId ->
    (forall remoteId, seat.slot.pending = some remoteId -> .node remoteId ∈ seat.halves) ∧
      (seat.slot.zmq = true -> .xpub ∈ seat.halves)
  /-- until both halves have arrived, the tables tell which one has -/
  unmet : ¬ Met events subId ->
    (seat.slot.pending.isSome = true <-> Announced events subId) ∧
      (seat.slot.zmq = true <-> Framed events subId) ∧ seat.slot.established = none
  /-- afterwards, the greeter has left an empty entry behind -/
  stuck : greeter = true -> Met events subId -> seat.slot.pending = some .empty

namespace Accounts

variable {greeter : Bool} {subId : CString} {events : List PublisherEvent} {seat : Seat}

theorem init (greeter : Bool) (subId : CString) :
    Accounts greeter subId [] ((Handshake.init greeter).seat subId) := by
  have slot : ((Handshake.init greeter).seat subId).slot = ⟨none, false, none⟩ := by
    simp [Handshake.init, Handshake.seat, ZeroMQPublisher.init, ZeroMQPublisher.slot]
  constructor
  · intro remoteId member
    cases member
  · simp [slot]
  · simp [slot, Announced, Framed]
  · rintro _ ⟨⟨remoteId, member⟩, _⟩
    cases member

/-- Nothing is known of an event about somebody else. -/
theorem congr (accounts : Accounts greeter subId events seat) {later : List PublisherEvent}
    (announced : Announced later subId <-> Announced events subId)
    (framed : Framed later subId <-> Framed events subId) : Accounts greeter subId later seat := by
  have met : Met later subId <-> Met events subId := and_congr announced framed
  constructor
  · exact accounts.named
  · rw [met]
    exact accounts.backed
  · rw [met, announced, framed]
    exact accounts.unmet
  · rw [met]
    exact accounts.stuck

/-- An empty entry is all that is left once both halves have been used. -/
theorem of_met (met : Met events subId) (established : Option CString) :
    Accounts greeter subId events
      ⟨⟨if greeter then some .empty else none, false, established⟩, []⟩ := by
  constructor
  · nofun
  · rintro (silent | unmet)
    · rw [silent]
      exact ⟨nofun, nofun⟩
    · exact absurd met unmet
  · intro unmet
    exact absurd met unmet
  · intro greets _
    rw [greets]
    rfl

/-- Without a pending entry the books can still be trusted. -/
theorem trusted (accounts : Accounts greeter subId events seat)
    (absent : seat.slot.pending = none) : greeter = false ∨ ¬ Met events subId := by
  cases greeter with
  | false => exact .inl rfl
  | true =>
      refine .inr (fun met => ?_)
      have empty := accounts.stuck rfl met
      rw [absent] at empty
      cases empty

theorem met_of_ready (accounts : Accounts greeter subId events seat) {later : List PublisherEvent}
    (pending : seat.slot.pending.isSome = true ∨ Announced later subId)
    (zmq : seat.slot.zmq = true ∨ Framed later subId)
    (announced : Announced events subId -> Announced later subId)
    (framed : Framed events subId -> Framed later subId) : Met later subId := by
  by_cases met : Met events subId
  · exact ⟨announced met.1, framed met.2⟩
  · have tables := accounts.unmet met
    exact ⟨pending.elim (fun some => announced (tables.1.mp some)) id,
      zmq.elim (fun set => framed (tables.2.1.mp set)) id⟩

theorem addedSubscriber (accounts : Accounts greeter subId events seat) {remoteId : CString}
    (length : remoteId.length ≠ 0) :
    Accounts greeter subId (events ++ [.addedSubscriber remoteId subId])
        (Seat.step greeter subId seat (.addedSubscriber remoteId subId)).1 ∧
      forall entry, entry ∈ (Seat.step greeter subId seat (.addedSubscriber remoteId subId)).2 ->
        entry.Justified := by
  have announced : Announced (events ++ [.addedSubscriber remoteId subId]) subId :=
    (announced_concat _ _ _).mpr (.inr ⟨remoteId, rfl⟩)
  have framed : Framed (events ++ [.addedSubscriber remoteId subId]) subId <-> Framed events subId := by
    simp [framed_concat]
  have met : Met events subId -> Met (events ++ [.addedSubscriber remoteId subId]) subId :=
    fun met => ⟨announced, framed.mpr met.2⟩
  have named : forall node, Half.node node ∈ Half.node remoteId :: seat.halves -> node.length ≠ 0 := by
    intro node member
    rcases List.mem_cons.mp member with now | earlier
    · cases now
      exact length
    · exact accounts.named node earlier
  rw [Seat.step_addedSubscriber greeter subId seat length]
  cases pending : seat.slot.pending with
  | some earlier =>
      refine ⟨⟨named, ?_, ?_, ?_⟩, nofun⟩
      · intro trusted
        have backed := accounts.backed (trusted.imp_right (fun unmet earlier => unmet (met earlier)))
        exact ⟨fun node same => List.mem_cons_of_mem _ (backed.1 node same),
          fun set => List.mem_cons_of_mem _ (backed.2 set)⟩
      · intro unmet
        have tables := accounts.unmet (fun earlier => unmet (met earlier))
        refine ⟨⟨fun _ => announced, fun _ => ?_⟩, tables.2.1.trans framed.symm, tables.2.2⟩
        change seat.slot.pending.isSome = true
        rw [pending]
        rfl
      · intro greets done
        change seat.slot.pending = _
        refine accounts.stuck greets (accounts.met_of_ready ?_ (.inr (framed.mp done.2)) id id)
        rw [pending]
        exact .inl rfl
  | none =>
      have backed := accounts.backed (accounts.trusted pending)
      cases zmq : seat.slot.zmq with
      | true =>
          refine ⟨of_met (accounts.met_of_ready (.inr announced) (.inl zmq) (fun _ => announced)
            framed.mpr) _, ?_⟩
          intro entry member
          cases List.mem_singleton.mp member
          exact ⟨List.mem_cons_self, List.mem_cons_of_mem _ (backed.2 zmq)⟩
      | false =>
          refine ⟨⟨named, ?_, ?_, ?_⟩, nofun⟩
          · intro _
            refine ⟨?_, fun set => List.mem_cons_of_mem _ (backed.2 set)⟩
            intro node same
            cases same
            exact List.mem_cons_self
          · intro unmet
            have tables := accounts.unmet (fun earlier => unmet (met earlier))
            exact ⟨⟨fun _ => announced, fun _ => rfl⟩, tables.2.1.trans framed.symm, tables.2.2⟩
          · intro greets done
            have unmet := (accounts.trusted pending).resolve_left (by simp [greets])
            have set := (accounts.unmet unmet).2.1.mpr (framed.mp done.2)
            rw [zmq] at set
            cases set

/-- A frame enters a waiting subscriber, and does so rightly unless the
waiting entry is the one the greeter left behind. -/
theorem frame (accounts : Accounts greeter subId events seat) {data : Bytes}
    (subject : subscribedBy data = some subId) :
    Accounts greeter subId (events ++ [.frame data]) (Seat.step greeter subId seat (.frame data)).1 ∧
      ((forall entry, entry ∈ (Seat.step greeter subId seat (.frame data)).2 -> entry.Justified) <->
        greeter = false ∨ ¬ Met events subId) := by
  have announced : Announced (events ++ [.frame data]) subId <-> Announced events subId := by
    simp [announced_concat]
  have framed : Framed (events ++ [.frame data]) subId :=
    (framed_concat _ _ _).mpr (.inr ⟨data, rfl, subject⟩)
  have met : Met events subId -> Met (events ++ [.frame data]) subId :=
    fun met => ⟨announced.mpr met.1, framed⟩
  rw [Seat.step_frame]
  cases pending : seat.slot.pending with
  | some remoteId =>
      have waiting : seat.slot.pending.isSome = true := by
        rw [pending]
        rfl
      refine ⟨of_met (accounts.met_of_ready (.inl waiting) (.inr framed) announced.mpr
        (fun _ => framed)) _, ?_⟩
      constructor
      · intro justified
        cases greets : greeter with
        | false => exact .inl rfl
        | true =>
            refine .inr (fun done => ?_)
            have empty := accounts.stuck greets done
            rw [pending] at empty
            cases empty
            have half := (justified _ List.mem_cons_self).1
            exact accounts.named .empty ((List.mem_cons.mp half).resolve_left nofun) rfl
      · intro trusted entry member
        cases List.mem_singleton.mp member
        exact ⟨List.mem_cons_of_mem _ ((accounts.backed trusted).1 remoteId pending),
          List.mem_cons_self⟩
  | none =>
      have trusted := accounts.trusted pending
      refine ⟨⟨?_, ?_, ?_, ?_⟩, fun _ => trusted, fun _ => nofun⟩
      · intro node member
        exact accounts.named node ((List.mem_cons.mp member).resolve_left nofun)
      · intro _
        refine ⟨?_, fun _ => List.mem_cons_self⟩
        intro node same
        exact List.mem_cons_of_mem _ ((accounts.backed trusted).1 node same)
      · intro unmet
        have tables := accounts.unmet (fun earlier => unmet (met earlier))
        exact ⟨tables.1.trans announced.symm, ⟨fun _ => framed, fun _ => rfl⟩, tables.2.2⟩
      · intro greets done
        have unmet := trusted.resolve_left (by simp [greets])
        have waiting := (accounts.unmet unmet).1.mpr (announced.mp done.1)
        rw [pending] at waiting
        cases waiting

theorem removedSubscriber (accounts : Accounts greeter subId events seat) (remoteId : CString)
    (established : seat.slot.established.isSome = true) :
    Accounts greeter subId (events ++ [.removedSubscriber remoteId subId])
      (Seat.step greeter subId seat (.removedSubscriber remoteId subId)).1 := by
  have met : Met events subId := by
    by_contra unmet
    rw [(accounts.unmet unmet).2.2] at established
    cases established
  have next : Accounts greeter subId events
      (Seat.step greeter subId seat (.removedSubscriber remoteId subId)).1 := by
    rw [Seat.step_removedSubscriber]
    refine ⟨accounts.named, ?_, fun unmet => absurd met unmet, ?_⟩
    · rintro (silent | unmet)
      · rw [silent]
        exact accounts.backed (.inl silent)
      · exact absurd met unmet
    · intro greets _
      have empty := accounts.stuck greets met
      simp only [Slot.step, greets, if_true, empty]
      rfl
  apply next.congr
  · simp [announced_concat]
  · simp [framed_concat]

end Accounts

namespace Handshake

variable {greeter : Bool} {events : List PublisherEvent} {handshake : Handshake}

/-- An event leaves the books of everybody but its subject alone. -/
private theorem accounts_of_other {event : PublisherEvent} {subId : CString}
    (other : event.subject ≠ some subId)
    (accounts : Accounts greeter subId events (handshake.seat subId)) :
    Accounts greeter subId (events ++ [event]) ((handshake.step event).1.seat subId) := by
  rw [handshake.seat_step, if_neg other]
  apply accounts.congr
  · rw [announced_concat]
    refine or_iff_left ?_
    rintro ⟨remoteId, same⟩
    exact other (same ▸ rfl)
  · rw [framed_concat]
    refine or_iff_left ?_
    rintro ⟨data, same, subject⟩
    exact other (same ▸ subject)

/-- An event and the books of its subject. -/
private theorem accounts_of_subject (greets : handshake.publisher.greeter = greeter)
    {event : PublisherEvent} {subId : CString} (subject : event.subject = some subId)
    (accounts : Accounts greeter subId events (handshake.seat subId))
    (admissible : handshake.Admissible event) :
    Accounts greeter subId (events ++ [event]) ((handshake.step event).1.seat subId) ∧
      ((forall entry, entry ∈ (handshake.step event).2 -> entry.Justified) <->
        greeter = false ∨ ¬ Repeats events event) := by
  rw [handshake.seat_step, if_pos subject, handshake.step_entries subject, greets]
  cases event with
  | addedSubscriber remoteId other =>
      cases subject
      have outcome := accounts.addedSubscriber admissible
      exact ⟨outcome.1, fun _ => .inr id, fun _ => outcome.2⟩
  | removedSubscriber remoteId other =>
      cases subject
      have established : (handshake.seat subId).slot.established.isSome = true :=
        ExtTreeMap.mem_iff_isSome_getElem?.mp admissible
      refine ⟨accounts.removedSubscriber remoteId established, fun _ => .inr id, fun _ => ?_⟩
      rw [Seat.step_removedSubscriber]
      nofun
  | frame data =>
      have outcome := accounts.frame subject
      refine ⟨outcome.1, outcome.2.trans (or_congr_right (not_congr ?_))⟩
      constructor
      · intro met
        exact ⟨subId, subject, met⟩
      · rintro ⟨other, named, met⟩
        cases named.symm.trans subject
        exact met

/-- One event: the books stay in order, and the entries of the event are
justified unless the event repeats a frame under a greeter. -/
theorem accounts_step (greets : handshake.publisher.greeter = greeter)
    (accounts : forall subId, Accounts greeter subId events (handshake.seat subId))
    {event : PublisherEvent} (admissible : handshake.Admissible event) :
    (forall subId,
        Accounts greeter subId (events ++ [event]) ((handshake.step event).1.seat subId)) ∧
      ((forall entry, entry ∈ (handshake.step event).2 -> entry.Justified) <->
        greeter = false ∨ ¬ Repeats events event) := by
  constructor
  · intro subId
    by_cases subject : event.subject = some subId
    · exact (accounts_of_subject greets subject (accounts subId) admissible).1
    · exact accounts_of_other subject (accounts subId)
  · cases subject : event.subject with
    | some subId => exact (accounts_of_subject greets subject (accounts subId) admissible).2
    | none =>
        rw [handshake.step_of_no_subject subject]
        refine ⟨fun _ => .inr ?_, fun _ => nofun⟩
        cases event with
        | addedSubscriber remoteId subId => exact id
        | removedSubscriber remoteId subId => exact id
        | frame data =>
            rintro ⟨subId, named, _⟩
            cases subject.symm.trans named

/-- A whole run. -/
theorem accounts_of_run (greeter : Bool) (events : List PublisherEvent)
    (admitted : Admits step Admissible (init greeter) events) :
    (run step (init greeter) events).1.publisher.greeter = greeter ∧
      (forall subId,
        Accounts greeter subId events ((run step (init greeter) events).1.seat subId)) ∧
      ((forall entry, entry ∈ (run step (init greeter) events).2 -> entry.Justified) <->
        greeter = false ∨ NeverRepeats events) := by
  induction events using List.reverseRecOn with
  | nil => exact ⟨rfl, Accounts.init greeter, fun _ => .inr neverRepeats_nil, fun _ => nofun⟩
  | append_singleton events event ih =>
      rcases (admits_append _ _ _).mp admitted with ⟨earlier, admissible, _⟩
      rcases ih earlier with ⟨greets, accounts, justified⟩
      have outcome := accounts_step greets accounts admissible
      rw [run_append]
      refine ⟨(ZeroMQPublisher.step_greeter _ _).trans greets, outcome.1, ?_⟩
      simp only [run, List.append_nil, List.forall_mem_append]
      rw [justified, outcome.2, neverRepeats_concat, or_and_left]

/-- Every entry of a run is justified exactly if there is no greeter or no
frame arrives for a subscriber that both halves have already reached. -/
theorem justified_iff_of_run (greeter : Bool) (events : List PublisherEvent)
    (admitted : Admits step Admissible (init greeter) events) :
    (forall entry, entry ∈ (run step (init greeter) events).2 -> entry.Justified) <->
      greeter = false ∨ NeverRepeats events :=
  (accounts_of_run greeter events admitted).2.2

theorem justified_iff_of_run_welcome :
    let subId : CString := ⟨List.replicate 36 100, by decide⟩
    let remoteId : CString := ⟨List.replicate 36 98, by decide⟩
    let events : List PublisherEvent :=
      [.frame (1 :: subId.bytes), .addedSubscriber remoteId subId, .removedSubscriber remoteId subId]
    Admits step Admissible (init true) events ∧
      forall entry, entry ∈ (run step (init true) events).2 -> entry.Justified := by
  intro subId remoteId events
  have admitted : Admits step Admissible (init true) events := by decide +kernel
  refine ⟨admitted, (justified_iff_of_run true events admitted).mpr (.inr ?_)⟩
  have empty : ¬ Repeats [] (.frame (1 :: subId.bytes)) := by
    rintro ⟨other, _, ⟨node, member⟩, _⟩
    cases member
  exact (neverRepeats_concat [_, _] _).mpr
    ⟨(neverRepeats_concat [_] _).mpr
      ⟨(neverRepeats_concat [] _).mpr ⟨neverRepeats_nil, empty⟩, id⟩, id⟩

/-- A subscriber that leaves and returns is entered for no node at all. -/
theorem unjustified_after_return :
    let subId : CString := ⟨List.replicate 36 100, by decide⟩
    let remoteId : CString := ⟨List.replicate 36 98, by decide⟩
    let events : List PublisherEvent :=
      [.addedSubscriber remoteId subId, .frame (1 :: subId.bytes),
        .removedSubscriber remoteId subId, .addedSubscriber remoteId subId,
        .frame (1 :: subId.bytes)]
    Admits step Admissible (init true) events ∧
      ¬ forall entry, entry ∈ (run step (init true) events).2 -> entry.Justified := by
  decide +kernel

end Handshake

end Connection
end Umundo
