import Umundo.Connection.Publisher

namespace Umundo
namespace Connection

open Foundation

/-!
# The course of one subscription

A subscriber on another node reaches a publisher on two ways: notices travel
over the node sockets and are recorded by the publisher's node, and a frame
travels from the subscriber's socket to the publisher's.  This module follows
a single subscriber that is added, perhaps more than once, and then removed.
Its standing is everything there is to know about it: whether its node lists
it, the notices under way, whether the publisher's node has it on record,
whether its socket has connected, how many frames are under way, and its slot
at the publisher.

A subscription passes through five phases.  The frame and the first notice
may arrive in either order; the frame has to arrive before the notice of the
removal does.
-/

/-- Everything about one subscriber.  A notice is `true` for SUBSCRIBE and
`false` for UNSUBSCRIBE. -/
structure Standing where
  listed : Prop
  notices : List Bool
  recorded : Prop
  connected : Prop
  flying : Nat
  slot : Slot

namespace Standing

/-- SUBSCRIBE notices, followed by UNSUBSCRIBE notices. -/
def queue (adds removes : Nat) : List Bool :=
  List.replicate adds true ++ List.replicate removes false

/-- How far a subscription has got. -/
inductive Phase (standing : Standing) : Prop
  | fresh :
      ¬ standing.listed -> ¬ standing.recorded -> ¬ standing.connected ->
      standing.notices = [] -> standing.flying = 0 -> standing.slot = ⟨none, false, none⟩ ->
      Phase standing
  | announced (adds removes : Nat) (zmq : Bool) :
      (standing.listed <-> removes = 0) -> ¬ standing.recorded -> standing.connected ->
      standing.notices = queue (adds + 1) removes ->
      standing.flying = (if zmq then 0 else 1) -> standing.slot = ⟨none, zmq, none⟩ ->
      Phase standing
  | waiting (adds removes : Nat) (remoteId : CString) :
      (standing.listed <-> removes = 0) -> standing.recorded -> standing.connected ->
      standing.notices = queue adds removes -> standing.flying = 1 ->
      standing.slot = ⟨some remoteId, false, none⟩ -> Phase standing
  | joined (adds removes : Nat) :
      (standing.listed <-> removes = 0) -> standing.recorded -> standing.connected ->
      standing.notices = queue adds removes -> standing.flying = 0 ->
      standing.slot.established.isSome = true -> Phase standing
  | parted (removes : Nat) :
      ¬ standing.listed -> ¬ standing.recorded -> standing.connected ->
      standing.notices = queue 0 removes -> standing.flying = 0 ->
      standing.slot.established = none -> Phase standing

/-- Nobody has ever been added under this name. -/
structure Stranger (standing : Standing) : Prop where
  unlisted : ¬ standing.listed
  unnoticed : standing.notices = []
  unrecorded : ¬ standing.recorded
  unhalved : standing.slot.pending = none
  unestablished : standing.slot.established = none

/-- Nothing happens to a subscriber, except perhaps to its frames. -/
structure Unmoved (before after : Standing) : Prop where
  listed : after.listed <-> before.listed
  notices : after.notices = before.notices
  recorded : after.recorded <-> before.recorded
  connected : after.connected <-> before.connected
  slot : after.slot = before.slot

private theorem queue_zero_append (adds more : Nat) :
    queue adds 0 ++ List.replicate more true = queue (adds + more) 0 := by
  simp [queue]

private theorem queue_append (adds removes more : Nat) :
    queue adds removes ++ List.replicate more false = queue adds (removes + more) := by
  simp [queue]

private theorem queue_eq_true_cons {adds removes : Nat} {rest : List Bool}
    (equal : queue adds removes = true :: rest) :
    Exists fun earlier => adds = earlier + 1 ∧ rest = queue earlier removes := by
  cases adds with
  | zero =>
      cases removes with
      | zero => cases equal
      | succ removes => cases equal
  | succ earlier =>
      cases equal
      exact ⟨earlier, rfl, rfl⟩

private theorem queue_eq_false_cons {adds removes : Nat} {rest : List Bool}
    (equal : queue adds removes = false :: rest) :
    adds = 0 ∧ Exists fun earlier => removes = earlier + 1 ∧ rest = queue 0 earlier := by
  cases adds with
  | zero =>
      cases removes with
      | zero => cases equal
      | succ earlier =>
          cases equal
          exact ⟨rfl, earlier, rfl, rfl⟩
  | succ adds => cases equal

private theorem queue_eq_nil {adds removes : Nat} (equal : queue adds removes = []) :
    adds = 0 ∧ removes = 0 := by
  simpa [queue] using equal

section

variable {greeter : Bool} {subId : CString} {before after : Standing}

theorem Stranger.congr (stranger : before.Stranger) (unmoved : Unmoved before after) :
    after.Stranger where
  unlisted := mt unmoved.listed.mp stranger.unlisted
  unnoticed := unmoved.notices.trans stranger.unnoticed
  unrecorded := mt unmoved.recorded.mp stranger.unrecorded
  unhalved := unmoved.slot ▸ stranger.unhalved
  unestablished := unmoved.slot ▸ stranger.unestablished

theorem Phase.congr (phase : before.Phase) (unmoved : Unmoved before after)
    (flying : after.flying = before.flying) : after.Phase := by
  rcases unmoved with ⟨listed, notices, recorded, connected, slot⟩
  cases phase with
  | fresh absent unrecorded apart quiet none empty =>
      exact .fresh (mt listed.mp absent) (mt recorded.mp unrecorded) (mt connected.mp apart)
        (notices.trans quiet) (flying.trans none) (slot.trans empty)
  | announced adds removes zmq present unrecorded linked queued sent empty =>
      exact .announced adds removes zmq (listed.trans present) (mt recorded.mp unrecorded)
        (connected.mpr linked) (notices.trans queued) (flying.trans sent) (slot.trans empty)
  | waiting adds removes remoteId present known linked queued sent half =>
      exact .waiting adds removes remoteId (listed.trans present) (recorded.mpr known)
        (connected.mpr linked) (notices.trans queued) (flying.trans sent) (slot.trans half)
  | joined adds removes present known linked queued sent there =>
      exact .joined adds removes (listed.trans present) (recorded.mpr known) (connected.mpr linked)
        (notices.trans queued) (flying.trans sent) (slot ▸ there)
  | parted removes absent unrecorded linked queued sent gone =>
      exact .parted removes (mt listed.mp absent) (mt recorded.mp unrecorded) (connected.mpr linked)
        (notices.trans queued) (flying.trans sent) (slot ▸ gone)

/-- The subscriber is added.  It connects unless it has done so before. -/
theorem Phase.addSubscriber (phase : before.Phase)
    (once : before.listed ∨ ¬ before.connected) (listed : after.listed) (connected : after.connected)
    (notices : Exists fun more => after.notices = before.notices ++ List.replicate (more + 1) true)
    (recorded : after.recorded <-> before.recorded)
    (unconnected : ¬ before.connected -> after.flying = before.flying + 1)
    (reconnected : before.connected -> after.flying = before.flying)
    (slot : after.slot = before.slot) : after.Phase := by
  rcases notices with ⟨more, notices⟩
  cases phase with
  | fresh absent unrecorded apart quiet none empty =>
      refine .announced more 0 false (iff_of_true listed rfl) (mt recorded.mp unrecorded) connected
        ?_ ?_ (slot.trans empty)
      · rw [notices, quiet]
        simp [queue]
      · rw [unconnected apart, none]
        rfl
  | announced adds removes zmq present unrecorded linked queued flying empty =>
      cases present.mp (once.resolve_right (not_not_intro linked))
      refine .announced (adds + more + 1) 0 zmq (iff_of_true listed rfl) (mt recorded.mp unrecorded)
        connected ?_ ((reconnected linked).trans flying) (slot.trans empty)
      rw [notices, queued, queue_zero_append]
      congr 1
      omega
  | waiting adds removes remoteId present known linked queued flying half =>
      cases present.mp (once.resolve_right (not_not_intro linked))
      refine .waiting (adds + (more + 1)) 0 remoteId (iff_of_true listed rfl) (recorded.mpr known)
        connected ?_ ((reconnected linked).trans flying) (slot.trans half)
      rw [notices, queued, queue_zero_append]
  | joined adds removes present known linked queued flying there =>
      cases present.mp (once.resolve_right (not_not_intro linked))
      refine .joined (adds + (more + 1)) 0 (iff_of_true listed rfl) (recorded.mpr known) connected ?_
        ((reconnected linked).trans flying) (slot ▸ there)
      rw [notices, queued, queue_zero_append]
  | parted removes absent unrecorded linked queued flying gone =>
      exact (once.elim absent (fun apart => apart linked)).elim

/-- The subscriber is removed by its node. -/
theorem Phase.removeSubscriber (phase : before.Phase) (present : before.listed)
    (absent : ¬ after.listed)
    (notices : Exists fun more => after.notices = before.notices ++ List.replicate (more + 1) false)
    (recorded : after.recorded <-> before.recorded) (connected : after.connected <-> before.connected)
    (flying : after.flying = before.flying) (slot : after.slot = before.slot) : after.Phase := by
  rcases notices with ⟨more, notices⟩
  have listed : forall removes, after.listed <-> removes + (more + 1) = 0 :=
    fun removes => iff_of_false absent (by omega)
  cases phase with
  | fresh unlisted _ _ _ _ _ => exact absurd present unlisted
  | announced adds removes zmq _ unrecorded linked queued sent empty =>
      refine .announced adds (removes + (more + 1)) zmq (listed removes) (mt recorded.mp unrecorded)
        (connected.mpr linked) ?_ (flying.trans sent) (slot.trans empty)
      rw [notices, queued, queue_append]
  | waiting adds removes remoteId _ known linked queued sent half =>
      refine .waiting adds (removes + (more + 1)) remoteId (listed removes) (recorded.mpr known)
        (connected.mpr linked) ?_ (flying.trans sent) (slot.trans half)
      rw [notices, queued, queue_append]
  | joined adds removes _ known linked queued sent there =>
      refine .joined adds (removes + (more + 1)) (listed removes) (recorded.mpr known)
        (connected.mpr linked) ?_ (flying.trans sent) (slot ▸ there)
      rw [notices, queued, queue_append]
  | parted removes unlisted _ _ _ _ _ => exact absurd present unlisted

/-- A SUBSCRIBE is delivered.  The publisher is called unless the subscription
was on record before. -/
theorem Phase.subscribe (phase : before.Phase) {remoteId : CString} (named : remoteId.length ≠ 0)
    (notices : before.notices = true :: after.notices) (listed : after.listed <-> before.listed)
    (recorded : after.recorded) (connected : after.connected <-> before.connected)
    (flying : after.flying = before.flying)
    (known : before.recorded -> after.slot = before.slot)
    (called : ¬ before.recorded ->
      after.slot = (Slot.step greeter subId before.slot (.addedSubscriber remoteId subId)).1) :
    after.Phase := by
  cases phase with
  | fresh _ _ _ quiet _ _ =>
      rw [quiet] at notices
      cases notices
  | announced adds removes zmq present unrecorded linked queued sent empty =>
      have slot := called unrecorded
      rw [queued] at notices
      rcases queue_eq_true_cons notices with ⟨earlier, same, rest⟩
      cases same
      rw [empty, Slot.step, if_pos named] at slot
      cases zmq with
      | true =>
          refine .joined adds removes (listed.trans present) recorded (connected.mpr linked) rest
            (flying.trans sent) ?_
          rw [slot]
          rfl
      | false =>
          exact .waiting adds removes remoteId (listed.trans present) recorded
            (connected.mpr linked) rest (flying.trans sent) slot
  | waiting adds removes other present earlier linked queued sent half =>
      rw [queued] at notices
      rcases queue_eq_true_cons notices with ⟨fewer, _, rest⟩
      exact .waiting fewer removes other (listed.trans present) recorded (connected.mpr linked) rest
        (flying.trans sent) ((known earlier).trans half)
  | joined adds removes present earlier linked queued sent there =>
      rw [queued] at notices
      rcases queue_eq_true_cons notices with ⟨fewer, _, rest⟩
      exact .joined fewer removes (listed.trans present) recorded (connected.mpr linked) rest
        (flying.trans sent) ((known earlier) ▸ there)
  | parted removes _ _ _ queued _ _ =>
      rw [queued] at notices
      rcases queue_eq_true_cons notices with ⟨_, none, _⟩
      cases none

/-- An UNSUBSCRIBE is delivered, and no frame is under way. -/
theorem Phase.unsubscribe (phase : before.Phase) {remoteId : CString}
    (notices : before.notices = false :: after.notices) (landed : before.flying = 0)
    (listed : after.listed <-> before.listed) (unrecorded : ¬ after.recorded)
    (connected : after.connected <-> before.connected) (flying : after.flying = before.flying)
    (unknown : ¬ before.recorded -> after.slot = before.slot)
    (called : before.recorded ->
      after.slot = (Slot.step greeter subId before.slot (.removedSubscriber remoteId subId)).1) :
    after.Phase := by
  cases phase with
  | fresh _ _ _ quiet _ _ =>
      rw [quiet] at notices
      cases notices
  | announced adds removes zmq _ _ _ queued _ _ =>
      rw [queued] at notices
      cases (queue_eq_false_cons notices).1
  | waiting adds removes other _ _ _ _ sent _ => exact absurd (sent.symm.trans landed) nofun
  | joined adds removes present known linked queued sent there =>
      rw [queued] at notices
      rcases queue_eq_false_cons notices with ⟨_, fewer, same, rest⟩
      refine .parted fewer ?_ unrecorded (connected.mpr linked) rest (flying.trans sent) ?_
      · rw [listed, present, same]
        exact Nat.succ_ne_zero fewer
      · rw [called known]
        rfl
  | parted removes absent earlier linked queued sent gone =>
      rw [queued] at notices
      rcases queue_eq_false_cons notices with ⟨_, fewer, _, rest⟩
      exact .parted fewer (mt listed.mp absent) unrecorded (connected.mpr linked) rest
        (flying.trans sent) (unknown earlier ▸ gone)

/-- The frame of the subscriber arrives. -/
theorem Phase.frame (phase : before.Phase) {data : Bytes}
    (flying : before.flying = after.flying + 1) (listed : after.listed <-> before.listed)
    (notices : after.notices = before.notices) (recorded : after.recorded <-> before.recorded)
    (connected : after.connected <-> before.connected)
    (slot : after.slot = (Slot.step greeter subId before.slot (.frame data)).1) : after.Phase := by
  cases phase with
  | fresh _ _ _ _ none _ => exact absurd (flying.symm.trans none) (Nat.succ_ne_zero _)
  | announced adds removes zmq present unrecorded linked queued sent empty =>
      cases zmq with
      | true => exact absurd (flying.symm.trans sent) (Nat.succ_ne_zero _)
      | false =>
          refine .announced adds removes true (listed.trans present) (mt recorded.mp unrecorded)
            (connected.mpr linked) (notices.trans queued) ?_ ?_
          · exact Nat.succ.inj (flying.symm.trans sent)
          · rw [slot, empty]
            rfl
  | waiting adds removes remoteId present known linked queued sent half =>
      refine .joined adds removes (listed.trans present) (recorded.mpr known) (connected.mpr linked)
        (notices.trans queued) (Nat.succ.inj (flying.symm.trans sent)) ?_
      rw [slot, half]
      rfl
  | joined adds removes _ _ _ _ sent _ => exact absurd (flying.symm.trans sent) (Nat.succ_ne_zero _)
  | parted removes _ _ _ _ sent _ => exact absurd (flying.symm.trans sent) (Nat.succ_ne_zero _)

theorem Stranger.frame (stranger : before.Stranger) {data : Bytes}
    (listed : after.listed <-> before.listed) (notices : after.notices = before.notices)
    (recorded : after.recorded <-> before.recorded)
    (slot : after.slot = (Slot.step greeter subId before.slot (.frame data)).1) : after.Stranger := by
  have empty : after.slot = ⟨none, true, none⟩ := by
    rw [slot, Slot.step, Slot.establish, stranger.unhalved, stranger.unestablished]
  refine ⟨mt listed.mp stranger.unlisted, notices.trans stranger.unnoticed,
    mt recorded.mp stranger.unrecorded, ?_, ?_⟩
  · rw [empty]
  · rw [empty]

/-- Once nothing is under way, the publisher has the subscriber exactly if its
node lists it. -/
theorem Phase.established_iff (phase : before.Phase) (quiet : before.notices = [])
    (landed : before.flying = 0) :
    before.slot.established.isSome = true <-> before.listed := by
  cases phase with
  | fresh absent _ _ _ _ empty =>
      rw [empty]
      exact iff_of_false nofun absent
  | announced adds removes zmq _ _ _ queued _ _ =>
      cases (queue_eq_nil (queued.symm.trans quiet)).1
  | waiting adds removes remoteId _ _ _ _ sent _ => exact absurd (sent.symm.trans landed) nofun
  | joined adds removes present _ _ queued _ there =>
      exact iff_of_true there (present.mpr (queue_eq_nil (queued.symm.trans quiet)).2)
  | parted removes absent _ _ _ _ gone =>
      rw [gone]
      exact iff_of_false nofun absent

end

end Standing
end Connection
end Umundo
