import Mathlib.Algebra.Order.BigOperators.Group.List
import Mathlib.Algebra.Order.Group.Nat
import Umundo.Connection.Publisher
import Umundo.Foundation.Memory

namespace Umundo
namespace Connection

open Foundation Std

/-!
# Subscription frames in memory

A subscriber subscribes to its channel and to its own uuid, and the socket of a publisher
receives one frame for each.  The publisher takes a frame of 37 bytes for a uuid and
terminates it in place, with a zero behind the 36 bytes.

This module follows the pointer into the memory of the frame: what it reads and writes,
and which strings it takes from there.  A channel name is an arbitrary string, which may
contain zero bytes.
-/

/-- A connected subscriber. -/
structure Listener where
  channelName : Bytes
  uuid : CString
  uuid_length : uuid.length = 36

/-- The frames that the socket options set in `init` cause. -/
def Listener.frames (listener : Listener) : List Bytes :=
  [1 :: listener.channelName, 1 :: listener.uuid.bytes]

/-- A frame, and the memory behind it. -/
structure Arrival where
  frame : Bytes
  behind : Bytes

/-- What `run` does with a frame. -/
inductive FrameEffect where
  /-- a byte of the frame is read or written -/
  | touched (index size : Nat)
  /-- `_pendingZMQSubscriptions.insert` -/
  | inserted (subId : CString)
  /-- `addedSubscriber` -/
  | called (subId : CString)

namespace FrameEffect

def insertion : FrameEffect -> Option CString
  | touched _ _ => none
  | inserted subId => some subId
  | called _ => none

def call : FrameEffect -> Option CString
  | touched _ _ => none
  | inserted _ => none
  | called subId => some subId

/-- Every byte lies in its frame. -/
def Inside : FrameEffect -> Prop
  | touched index size => index < size
  | inserted _ => True
  | called _ => True

instance : DecidablePred Inside := fun effect =>
  match effect with
  | touched index size => inferInstanceAs (Decidable (index < size))
  | inserted _ => inferInstanceAs (Decidable True)
  | called _ => inferInstanceAs (Decidable True)

end FrameEffect

/-- The memory once `subId[msgSize - 1] = 0` is executed, where `subId` is `data + 1`. -/
def Arrival.terminated (arrival : Arrival) : Bytes :=
  (arrival.frame ++ arrival.behind).set (1 + (arrival.frame.length - 1)) 0

/-- Make a string of the pointer `subId`. -/
def Arrival.subId (arrival : Arrival) : CString := stringAt arrival.terminated 1

/-- The bytes that are read to make that string. -/
def Arrival.reads (arrival : Arrival) : List FrameEffect :=
  (strlen arrival.terminated 1).examined.map fun index => .touched index arrival.frame.length

/-- One iteration of `run`, with its pointers. -/
def ZeroMQPublisher.handleFrame (publisher : ZeroMQPublisher) (arrival : Arrival) :
    ZeroMQPublisher × List FrameEffect :=
  let msgSize := arrival.frame.length
  if msgSize = 37 then
    let terminates := [FrameEffect.touched 0 msgSize, .touched (1 + (msgSize - 1)) msgSize]
    -- the byte was read before the write behind the frame
    if (arrival.frame ++ arrival.behind)[0]? = some 1 then
      let subId := arrival.subId
      let inserted : ZeroMQPublisher := { publisher with
        pendingZMQSubscriptions := publisher.pendingZMQSubscriptions.insert subId }
      ((inserted.addedSubscriber .empty subId).1,
        terminates ++ (arrival.reads ++ .inserted subId :: (arrival.reads ++ [.called subId])))
    else (publisher, terminates)
  else (publisher, [])

/-! ## One frame -/

section

variable (publisher : ZeroMQPublisher) (arrival : Arrival)

/-- The string in front of the terminator, wherever the terminator was written. -/
theorem Arrival.subId_eq (size : arrival.frame.length = 37) :
    arrival.subId = .ofBytes arrival.frame.tail := by
  have index : 1 + (arrival.frame.length - 1) = arrival.frame.length := by omega
  have some : 1 ≤ arrival.frame.length := by omega
  rw [subId, stringAt, terminated, index, List.set_append_right _ _ (Nat.le_refl _), Nat.sub_self,
    List.drop_append_of_le_length some, List.drop_one]
  cases arrival.behind with
  | nil => rw [List.set_nil, List.append_nil]
  | cons next rest =>
      apply CString.ext
      rw [List.set_cons_zero]
      change (arrival.frame.tail ++ 0 :: rest).takeWhile (fun byte => byte != 0) =
        arrival.frame.tail.takeWhile (fun byte => byte != 0)
      rw [List.takeWhile_append]
      split
      next whole =>
        have front : arrival.frame.tail.takeWhile (fun byte => byte != 0) <+: arrival.frame.tail :=
          List.takeWhile_prefix _
        simp [front.eq_of_length whole]
      · rfl

theorem Arrival.subscribedBy_eq :
    subscribedBy arrival.frame =
      if arrival.frame.length = 37 then
        if (arrival.frame ++ arrival.behind)[0]? = some 1 then some arrival.subId else none
      else none := by
  rw [subscribedBy]
  by_cases size : arrival.frame.length = 37
  · have first : (arrival.frame ++ arrival.behind)[0]? = arrival.frame.head? := by
      rw [List.getElem?_append_left (by omega), List.head?_eq_getElem?]
    rw [if_pos size, first, arrival.subId_eq size]
    simp only [size, true_and]
  · rw [if_neg size, if_neg (fun both => size both.1)]

theorem ZeroMQPublisher.handleFrame_publisher :
    (publisher.handleFrame arrival).1 = (publisher.receiveFrame arrival.frame).1 := by
  rw [handleFrame, receiveFrame, arrival.subscribedBy_eq]
  by_cases size : arrival.frame.length = 37
  · simp only [if_pos size]
    by_cases subscription : (arrival.frame ++ arrival.behind)[0]? = some 1
    · simp only [if_pos subscription]
    · simp only [if_neg subscription]
  · simp only [if_neg size]

/-- What is done with a frame does not depend on the publisher. -/
def Arrival.effects : List FrameEffect :=
  ((ZeroMQPublisher.init false).handleFrame arrival).2

theorem ZeroMQPublisher.handleFrame_effects :
    (publisher.handleFrame arrival).2 = arrival.effects := by
  rw [Arrival.effects, handleFrame, handleFrame]
  split
  · dsimp only
    split <;> rfl
  · rfl

/-- Apart from its bytes, a frame is used twice. -/
theorem Arrival.filterMap_effects {observed : FrameEffect -> Option CString}
    (blind : forall index size, observed (.touched index size) = none) :
    arrival.effects.filterMap observed =
      (subscribedBy arrival.frame).toList.flatMap fun subId =>
        [FrameEffect.inserted subId, .called subId].filterMap observed := by
  have silent : arrival.reads.filterMap observed = [] := by
    simp [reads, blind]
  rw [effects, ZeroMQPublisher.handleFrame, arrival.subscribedBy_eq]
  split
  · dsimp only
    split
    · simp [List.filterMap_cons, silent, blind]
    · simp [List.filterMap_cons, blind]
  · rfl

theorem Arrival.insertions :
    arrival.effects.filterMap FrameEffect.insertion = (subscribedBy arrival.frame).toList := by
  rw [arrival.filterMap_effects (fun _ _ => rfl)]
  exact List.flatMap_singleton' _

theorem Arrival.calls :
    arrival.effects.filterMap FrameEffect.call = (subscribedBy arrival.frame).toList := by
  rw [arrival.filterMap_effects (fun _ _ => rfl)]
  exact List.flatMap_singleton' _

/-- The terminator is written behind the frame. -/
theorem Arrival.inside_iff :
    (forall effect, effect ∈ arrival.effects -> effect.Inside) <-> arrival.frame.length ≠ 37 := by
  constructor
  · intro inside size
    have written : FrameEffect.touched 37 37 ∈ arrival.effects := by
      rw [effects, ZeroMQPublisher.handleFrame, if_pos size]
      dsimp only
      split <;> simp [size]
    exact Nat.lt_irrefl 37 (inside _ written)
  · intro size effect member
    rw [effects, ZeroMQPublisher.handleFrame, if_neg size] at member
    cases member

end

/-! ## Any number of frames -/

/-- The pointers leave the same tables behind as the frames seen as lists of bytes. -/
theorem run_handleFrame_publisher (publisher : ZeroMQPublisher) (arrivals : List Arrival) :
    (run ZeroMQPublisher.handleFrame publisher arrivals).1 =
      (run ZeroMQPublisher.receiveFrame publisher (arrivals.map Arrival.frame)).1 := by
  induction arrivals generalizing publisher with
  | nil => rfl
  | cons arrival rest ih => rw [run, List.map_cons, run, ih, ZeroMQPublisher.handleFrame_publisher]

theorem run_handleFrame (publisher : ZeroMQPublisher) (arrivals : List Arrival) :
    (run ZeroMQPublisher.handleFrame publisher arrivals).2 = arrivals.flatMap Arrival.effects :=
  outputs_eq_flatMap Arrival.effects ZeroMQPublisher.handleFrame_effects publisher arrivals

/-- The subscribers that are entered are those the frames name. -/
theorem filterMap_run {publisher : ZeroMQPublisher} {arrivals : List Arrival}
    {observed : FrameEffect -> Option CString}
    (each : forall arrival : Arrival,
      arrival.effects.filterMap observed = (subscribedBy arrival.frame).toList) :
    (run ZeroMQPublisher.handleFrame publisher arrivals).2.filterMap observed =
      (arrivals.map Arrival.frame).filterMap subscribedBy := by
  rw [run_handleFrame, List.filterMap_flatMap, List.filterMap_map, List.filterMap_eq_flatMap_toList]
  exact congrArg (List.flatMap · arrivals) (funext each)

theorem subscribedBy_uuid (listener : Listener) :
    subscribedBy (1 :: listener.uuid.bytes) = some listener.uuid := by
  have size : (1 :: listener.uuid.bytes).length = 37 := congrArg (· + 1) listener.uuid_length
  rw [subscribedBy, if_pos ⟨size, rfl⟩, List.tail_cons, CString.ofBytes_bytes]

/-- A channel name is taken for a uuid if it is as long as one. -/
theorem subscribedBy_channel (listener : Listener) :
    subscribedBy (1 :: listener.channelName) =
      if listener.channelName.length = 36 then some (.ofBytes listener.channelName) else none := by
  simp [subscribedBy]

/-- The subscribers that all frames together name. -/
theorem subscribedBy_frames (listeners : List Listener) :
    (listeners.flatMap Listener.frames).filterMap subscribedBy =
      listeners.flatMap fun listener =>
        (if listener.channelName.length = 36 then [CString.ofBytes listener.channelName] else []) ++
          [listener.uuid] := by
  rw [List.filterMap_flatMap]
  refine congrArg (List.flatMap · listeners) (funext fun listener => ?_)
  rw [Listener.frames, List.filterMap_cons, subscribedBy_channel, List.filterMap_cons, subscribedBy_uuid]
  by_cases long : listener.channelName.length = 36
  · simp only [if_pos long]
    rfl
  · simp only [if_neg long]
    rfl

/-- Each of them is named once by its own frame. -/
theorem perm_uuids_iff (listeners : List Listener) :
    ((listeners.flatMap Listener.frames).filterMap subscribedBy).Perm (listeners.map Listener.uuid) <->
      forall listener, listener ∈ listeners -> listener.channelName.length ≠ 36 := by
  rw [subscribedBy_frames]
  constructor
  · -- every channel name of this length is one string too many
    intro same listener member long
    have count := same.length_eq
    rw [List.length_flatMap, List.length_map] at count
    have more : (listeners.map fun _ => 1).sum < (listeners.map fun listener =>
        ((if listener.channelName.length = 36 then [CString.ofBytes listener.channelName] else []) ++
          [listener.uuid]).length).sum := by
      refine List.sum_lt_sum _ _ (fun _ _ => ?_) ⟨listener, member, ?_⟩
      · simp
      · simp [long]
    rw [count] at more
    simp at more
  · intro short
    refine List.Perm.of_eq ?_
    rw [List.map_eq_flatMap]
    refine List.flatMap_congr fun listener member => ?_
    rw [if_neg (short listener member), List.nil_append]

/-- The frames of any number of subscribers, in any order.  Exactly the uuids are entered
if and only if no channel name is as long as a uuid.  The publisher stays within its
frames if and only if there is no subscriber at all.  Its tables are those that the bytes of
the frames lead to, whatever stands behind them in memory. -/
theorem frames_handled_iff (publisher : ZeroMQPublisher) (listeners : List Listener)
    (arrivals : List Arrival)
    (arrived : (arrivals.map Arrival.frame).Perm (listeners.flatMap Listener.frames)) :
    let effects := (run ZeroMQPublisher.handleFrame publisher arrivals).2
    ((effects.filterMap FrameEffect.insertion).Perm (listeners.map Listener.uuid) ∧
          (effects.filterMap FrameEffect.call).Perm (listeners.map Listener.uuid) <->
        forall listener, listener ∈ listeners -> listener.channelName.length ≠ 36) ∧
      ((forall effect, effect ∈ effects -> effect.Inside) <-> listeners = []) ∧
      (run ZeroMQPublisher.handleFrame publisher arrivals).1 =
        (run ZeroMQPublisher.receiveFrame publisher (arrivals.map Arrival.frame)).1 := by
  intro effects
  have named := arrived.filterMap subscribedBy
  refine ⟨?_, ?_, run_handleFrame_publisher publisher arrivals⟩
  · rw [filterMap_run Arrival.insertions, filterMap_run Arrival.calls, and_self_iff, ← perm_uuids_iff]
    exact ⟨named.symm.trans, named.trans⟩
  · constructor
    · intro inside
      by_contra some
      obtain ⟨listener, member⟩ := List.exists_mem_of_ne_nil _ some
      have sent : 1 :: listener.uuid.bytes ∈ listeners.flatMap Listener.frames :=
        List.mem_flatMap.mpr ⟨listener, member, List.mem_cons_of_mem _ List.mem_cons_self⟩
      obtain ⟨arrival, present, frame⟩ := List.mem_map.mp (arrived.mem_iff.mpr sent)
      refine arrival.inside_iff.mp ?_ ?_
      · intro effect touched
        refine inside effect ?_
        rw [show effects = arrivals.flatMap Arrival.effects from run_handleFrame publisher arrivals]
        exact List.mem_flatMap.mpr ⟨arrival, present, touched⟩
      · rw [frame]
        exact congrArg (· + 1) listener.uuid_length
    · rintro rfl effect member
      obtain rfl : arrivals = [] := by simpa using arrived
      exact absurd member List.not_mem_nil

theorem frames_handled_iff_short_channel :
    let listener : Listener := ⟨[99, 104], ⟨List.replicate 36 113, by decide⟩, by decide⟩
    let arrivals : List Arrival := [⟨1 :: listener.uuid.bytes, [7]⟩, ⟨1 :: listener.channelName, [7]⟩]
    (arrivals.map Arrival.frame).Perm ([listener].flatMap Listener.frames) ∧
      ((run ZeroMQPublisher.handleFrame (.init false) arrivals).2.filterMap FrameEffect.insertion).Perm
        [listener.uuid] := by
  intro listener arrivals
  have arrived : (arrivals.map Arrival.frame).Perm ([listener].flatMap Listener.frames) :=
    List.Perm.swap _ _ _
  refine ⟨arrived, ((frames_handled_iff (.init false) [listener] arrivals arrived).1.mpr ?_).1⟩
  intro other member
  cases List.mem_singleton.mp member
  decide

/-- The subscriber of a service, whose channel is named by a uuid. -/
theorem service_channel_entered :
    let channelName : CString := ⟨List.replicate 36 114, by decide⟩
    let listener : Listener := ⟨channelName.bytes, ⟨List.replicate 36 113, by decide⟩, by decide⟩
    let arrivals : List Arrival := [⟨1 :: listener.channelName, [7]⟩, ⟨1 :: listener.uuid.bytes, [7]⟩]
    let effects := (run ZeroMQPublisher.handleFrame (.init false) arrivals).2
    arrivals.map Arrival.frame = [listener].flatMap Listener.frames ∧
      effects.filterMap FrameEffect.insertion = [channelName, listener.uuid] ∧
      effects.filterMap FrameEffect.call = [channelName, listener.uuid] ∧
      (Exists fun effect => effect ∈ effects ∧ ¬ effect.Inside) := by
  decide +kernel

end Connection
end Umundo
