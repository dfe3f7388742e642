import Umundo.Connection.DataMessage
import Umundo.Thread.Monitor

namespace Umundo
namespace Rpc

open Foundation Std Thread Connection

/-!
# Calls that wait for a reply

A remote procedure call and a lookup of a service follow one pattern.  The
caller registers a monitor under a fresh request id, publishes its request,
waits at the monitor, and finally collects the reply and removes both.
Messages arrive on another thread; one that answers a registered request
records the reply and signals the monitor.

The caller's steps are separate transitions, so that messages arrive anywhere
between them.  Where the caller of a request stands is part of the state.  Each
transition looks at one request only: `CallRow` is what the tables hold under
one id, and every transition acts on the rows one by one.
-/

/-- The meta key under which a reply names its request. -/
def respIdKey : CString := .ofBytes "respId".toUTF8.toList

/-- Where the caller of a request stands. -/
inductive Phase where
  | registered
  | sent
  | waiting
  | passed
  | returned
deriving DecidableEq

/-- The two maps, and where the callers stand. -/
structure PendingCalls (Reply : Type) where
  requests : Table CString Monitor
  responses : Table CString Reply
  phases : Table CString Phase

/-- What a caller does next. -/
inductive CallerStep where
  /-- `_requests[reqId] = Monitor()` -/
  | register
  /-- the request is published -/
  | send
  /-- `_requests[reqId].wait()` is called -/
  | wait
  /-- a blocked `wait` returns -/
  | wake
  /-- the reply is collected and the call returns -/
  | finish
deriving DecidableEq

/-- A step of a caller, or a message that arrives with what was made of it. -/
inductive CallEvent (Reply : Type) where
  | caller (reqId : CString) (step : CallerStep)
  | receive (reply : Reply) (message : Message)

/-- A call returns; its result is the null pointer if there is no reply. -/
structure Returned (Reply : Type) where
  reqId : CString
  out : Option Reply
deriving DecidableEq

namespace PendingCalls

variable {Reply : Type}

def init : PendingCalls Reply := ⟨∅, ∅, ∅⟩

/-- One step of the caller of a request, if it is at the place for it. -/
def call (calls : PendingCalls Reply) (reqId : CString) :
    CallerStep -> PendingCalls Reply × List (Returned Reply)
  | .register =>
      ({ calls with
          requests := calls.requests.insert reqId .new
          phases := calls.phases.insert reqId .registered }, [])
  | .send =>
      match calls.phases[reqId]? with
      | some .registered => ({ calls with phases := calls.phases.insert reqId .sent }, [])
      | _ => (calls, [])
  | .wait =>
      match calls.phases[reqId]? with
      | some .sent =>
          let entered := (calls.requests.getD reqId .new).enter
          ({ calls with
              requests := calls.requests.insert reqId entered.1
              phases := calls.phases.insert reqId (if entered.2 then .passed else .waiting) }, [])
      | _ => (calls, [])
  | .wake =>
      match calls.phases[reqId]?, (calls.requests.getD reqId .new).wake with
      | some .waiting, some monitor =>
          ({ calls with
              requests := calls.requests.insert reqId monitor
              phases := calls.phases.insert reqId .passed }, [])
      | _, _ => (calls, [])
  | .finish =>
      match calls.phases[reqId]? with
      | some .passed =>
          ({ requests := calls.requests.erase reqId
             responses := calls.responses.erase reqId
             phases := calls.phases.insert reqId .returned },
            [⟨reqId, calls.responses[reqId]?⟩])
      | _ => (calls, [])

/-- A message arrives.  Only a reply to a registered request is recorded. -/
def receive (calls : PendingCalls Reply) (reply : Reply) (message : Message) :
    PendingCalls Reply :=
  match message.metaMap[respIdKey]? with
  | none => calls
  | some respId =>
      if respId ∈ calls.requests then
        { calls with
          responses := calls.responses.insert respId reply
          requests := calls.requests.insert respId (calls.requests.getD respId .new).signal }
      else calls

def step (calls : PendingCalls Reply) :
    CallEvent Reply -> PendingCalls Reply × List (Returned Reply)
  | .caller reqId step => calls.call reqId step
  | .receive reply message => (calls.receive reply message, [])

/-- Request ids are never used twice. -/
def Fresh (calls : PendingCalls Reply) : CallEvent Reply -> Prop
  | .caller reqId .register => reqId ∉ calls.phases
  | _ => True

instance (calls : PendingCalls Reply) : (event : CallEvent Reply) -> Decidable (calls.Fresh event)
  | .caller reqId .register => inferInstanceAs (Decidable (reqId ∉ calls.phases))
  | .caller _ .send => .isTrue trivial
  | .caller _ .wait => .isTrue trivial
  | .caller _ .wake => .isTrue trivial
  | .caller _ .finish => .isTrue trivial
  | .receive _ _ => .isTrue trivial

end PendingCalls

/-! ## One request -/

/-- What the tables hold under one id. -/
structure CallRow (Reply : Type) where
  request : Option Monitor
  response : Option Reply
  phase : Option Phase

namespace CallRow

variable {Reply : Type}

/-- What a step of its caller does to a request. -/
def call (row : CallRow Reply) : CallerStep -> CallRow Reply
  | .register => ⟨some .new, row.response, some .registered⟩
  | .send =>
      match row.phase with
      | some .registered => { row with phase := some .sent }
      | _ => row
  | .wait =>
      match row.phase with
      | some .sent =>
          let entered := (row.request.getD .new).enter
          ⟨some entered.1, row.response, some (if entered.2 then .passed else .waiting)⟩
      | _ => row
  | .wake =>
      match row.phase, (row.request.getD .new).wake with
      | some .waiting, some monitor => ⟨some monitor, row.response, some .passed⟩
      | _, _ => row
  | .finish =>
      match row.phase with
      | some .passed => ⟨none, none, some .returned⟩
      | _ => row

/-- What a reply to it does to a request. -/
def receive (row : CallRow Reply) (reply : Reply) : CallRow Reply :=
  match row.request with
  | none => row
  | some monitor => ⟨some monitor.signal, some reply, row.phase⟩

/-- A monitor is registered while a call is under way.  Before its caller has
passed, it has a permit exactly if there is a reply; afterwards there is one. -/
def Consistent (row : CallRow Reply) : Prop :=
  match row.phase with
  | none => row.request = none ∧ row.response = none
  | some .returned => row.request = none ∧ row.response = none
  | some .passed => row.request.isSome = true ∧ row.response.isSome = true
  | some _ => Exists fun monitor : Monitor => row.request = some monitor ∧
      (0 < monitor.signaled <-> row.response.isSome = true)

/-- A caller that was not there before registers; every other step is taken
from wherever the caller stands. -/
theorem Consistent.call {row : CallRow Reply} (consistent : row.Consistent) (step : CallerStep)
    (fresh : step = .register -> row.phase = none) : (row.call step).Consistent := by
  rcases row with ⟨request, response, phase⟩
  cases step with
  | register =>
      cases fresh rfl
      have empty : response = none := consistent.2
      refine ⟨.new, rfl, ?_⟩
      simp [CallRow.call, Monitor.new, empty]
  | send =>
      rcases phase with _ | _ | _ | _ | _ | _ <;> exact consistent
  | wait =>
      rcases phase with _ | _ | _ | _ | _ | _
      case some.sent =>
        obtain ⟨monitor, registered, permit⟩ := consistent
        cases registered
        by_cases signaled : 0 < monitor.signaled
        · have entered : monitor.enter = ({ monitor with signaled := monitor.signaled - 1 }, true) :=
            if_pos signaled
          simp only [CallRow.call, Option.getD_some, entered, if_true]
          exact ⟨rfl, permit.mp signaled⟩
        · have entered : monitor.enter = ({ monitor with waiters := monitor.waiters + 1 }, false) :=
            if_neg signaled
          simp only [CallRow.call, Option.getD_some, entered, Bool.false_eq_true, if_false]
          exact ⟨_, rfl, permit⟩
      all_goals exact consistent
  | wake =>
      rcases phase with _ | _ | _ | _ | _ | _
      case some.waiting =>
        obtain ⟨monitor, registered, permit⟩ := consistent
        cases registered
        by_cases signaled : 0 < monitor.signaled
        · have woken : monitor.wake = some ⟨monitor.waiters - 1, monitor.signaled - 1⟩ :=
            if_pos signaled
          simp only [CallRow.call, Option.getD_some, woken]
          exact ⟨rfl, permit.mp signaled⟩
        · have asleep : monitor.wake = none := if_neg signaled
          simp only [CallRow.call, Option.getD_some, asleep]
          exact ⟨monitor, rfl, permit⟩
      all_goals exact consistent
  | finish =>
      rcases phase with _ | _ | _ | _ | _ | _
      case some.passed => exact ⟨rfl, rfl⟩
      all_goals exact consistent

theorem Consistent.receive {row : CallRow Reply} (consistent : row.Consistent) (reply : Reply) :
    (row.receive reply).Consistent := by
  rcases row with ⟨_ | monitor, response, phase⟩
  · exact consistent
  · have permit : 0 < monitor.signal.signaled := by
      rw [Monitor.signaled_signal]
      exact Nat.one_pos
    rcases phase with _ | _ | _ | _ | _ | _
    case none => cases consistent.1
    case some.returned => cases consistent.1
    case some.passed => exact ⟨rfl, rfl⟩
    all_goals exact ⟨_, rfl, fun _ => rfl, fun _ => permit⟩

end CallRow

namespace PendingCalls

variable {Reply : Type}

/-- What is stored under an id. -/
def row (calls : PendingCalls Reply) (reqId : CString) : CallRow Reply :=
  ⟨calls.requests[reqId]?, calls.responses[reqId]?, calls.phases[reqId]?⟩

/-- A caller changes the row of its own request, and no other. -/
theorem row_call (calls : PendingCalls Reply) (reqId other : CString) (step : CallerStep) :
    (calls.call reqId step).1.row other =
      if other = reqId then (calls.row reqId).call step else calls.row other := by
  by_cases same : other = reqId
  · subst same
    rw [if_pos rfl]
    cases step with
    | register => simp [call, row, CallRow.call]
    | send =>
        cases found : calls.phases[other]? with
        | none => simp [call, row, CallRow.call, found]
        | some phase => cases phase <;> simp [call, row, CallRow.call, found]
    | wait =>
        cases found : calls.phases[other]? with
        | none => simp [call, row, CallRow.call, found]
        | some phase =>
            cases phase <;>
              simp [call, row, CallRow.call, found, ExtTreeMap.getD_eq_getD_getElem?]
    | wake =>
        cases found : calls.phases[other]? with
        | none => simp [call, row, CallRow.call, found]
        | some phase =>
            cases woken : ((calls.requests[other]?).getD Monitor.new).wake with
            | none =>
                cases phase <;>
                  simp [call, row, CallRow.call, found, woken, ExtTreeMap.getD_eq_getD_getElem?]
            | some monitor =>
                cases phase <;>
                  simp [call, row, CallRow.call, found, woken, ExtTreeMap.getD_eq_getD_getElem?]
    | finish =>
        cases found : calls.phases[other]? with
        | none => simp [call, row, CallRow.call, found]
        | some phase => cases phase <;> simp [call, row, CallRow.call, found]
  · rw [if_neg same]
    cases step with
    | register => simp [call, row, Table.getElem?_insert_eq, same]
    | send =>
        simp only [call]
        split <;> simp [row, Table.getElem?_insert_eq, same]
    | wait =>
        simp only [call]
        split <;> simp [row, Table.getElem?_insert_eq, same]
    | wake =>
        simp only [call]
        split <;> simp [row, Table.getElem?_insert_eq, same]
    | finish =>
        simp only [call]
        split <;> simp [row, Table.getElem?_insert_eq, Table.getElem?_erase_eq, same]

/-- A message changes the row of the request it answers, and no other. -/
theorem row_receive (calls : PendingCalls Reply) (reply : Reply) (message : Message)
    (other : CString) :
    (calls.receive reply message).row other =
      if message.metaMap[respIdKey]? = some other then (calls.row other).receive reply
      else calls.row other := by
  cases found : message.metaMap[respIdKey]? with
  | none => simp [receive, found]
  | some respId =>
      by_cases same : respId = other
      · subst same
        by_cases registered : respId ∈ calls.requests
        · simp [receive, found, registered, row, CallRow.receive,
            ExtTreeMap.getD_eq_getD_getElem?]
        · simp [receive, found, registered, row, CallRow.receive]
      · have different : ¬ other = respId := fun equal => same equal.symm
        rw [if_neg (by simpa using same)]
        simp only [receive, found]
        split
        · simp [row, Table.getElem?_insert_eq, different]
        · rfl

/-! ## Runs -/

/-- Every request is consistent. -/
def Consistent (calls : PendingCalls Reply) : Prop :=
  forall reqId, (calls.row reqId).Consistent

theorem Consistent.init : (init : PendingCalls Reply).Consistent := by
  intro reqId
  exact ⟨ExtTreeMap.getElem?_empty, ExtTreeMap.getElem?_empty⟩

theorem Consistent.step {calls : PendingCalls Reply} (consistent : calls.Consistent)
    (event : CallEvent Reply) (fresh : calls.Fresh event) : (calls.step event).1.Consistent := by
  intro other
  cases event with
  | caller reqId step =>
      rw [PendingCalls.step, row_call]
      split
      · apply (consistent reqId).call
        intro registers
        subst registers
        exact ExtTreeMap.getElem?_eq_none fresh
      · exact consistent other
  | receive reply message =>
      rw [PendingCalls.step, row_receive]
      split
      · exact (consistent other).receive reply
      · exact consistent other

/-- Whatever is recorded for a request was delivered in a message that names it. -/
def Delivered (past : List (CallEvent Reply)) (calls : PendingCalls Reply) : Prop :=
  forall reqId reply, calls.responses[reqId]? = some reply ->
    Exists fun message : Message =>
      .receive reply message ∈ past ∧ message.metaMap[respIdKey]? = some reqId

theorem Delivered.init : Delivered [] (init : PendingCalls Reply) := by
  intro reqId reply found
  cases found.symm.trans ExtTreeMap.getElem?_empty

/-- A caller never adds a reply. -/
theorem response_of_call {row : CallRow Reply} {step : CallerStep} {reply : Reply}
    (found : (row.call step).response = some reply) : row.response = some reply := by
  rcases row with ⟨request, response, phase⟩
  cases step with
  | register => exact found
  | send => rcases phase with _ | _ | _ | _ | _ | _ <;> exact found
  | wait => rcases phase with _ | _ | _ | _ | _ | _ <;> exact found
  | wake =>
      rcases phase with _ | _ | _ | _ | _ | _
      case some.waiting =>
        simp only [CallRow.call] at found
        split at found <;> exact found
      all_goals exact found
  | finish =>
      rcases phase with _ | _ | _ | _ | _ | _
      case some.passed => cases found
      all_goals exact found

theorem Delivered.step {past : List (CallEvent Reply)} {calls : PendingCalls Reply}
    (delivered : Delivered past calls) (event : CallEvent Reply) :
    Delivered (past ++ [event]) (calls.step event).1 := by
  intro other reply found
  have earlier : calls.responses[other]? = some reply ->
      Exists fun message : Message => .receive reply message ∈ past ++ [event] ∧
        message.metaMap[respIdKey]? = some other := by
    intro present
    obtain ⟨message, member, names⟩ := delivered other reply present
    exact ⟨message, List.mem_append_left _ member, names⟩
  change ((calls.step event).1.row other).response = some reply at found
  cases event with
  | caller reqId step =>
      rw [PendingCalls.step, row_call] at found
      split at found
      next same =>
        subst same
        exact earlier (response_of_call found)
      next => exact earlier found
  | receive obj message =>
      rw [PendingCalls.step, row_receive] at found
      split at found
      next names =>
        rw [CallRow.receive] at found
        split at found
        · exact earlier found
        · cases found
          exact ⟨message, List.mem_append_right _ List.mem_cons_self, names⟩
      next => exact earlier found

/-- A call returns in one way only. -/
theorem finish_of_returned {calls : PendingCalls Reply} {event : CallEvent Reply}
    {returned : Returned Reply} (member : returned ∈ (calls.step event).2) :
    event = .caller returned.reqId .finish ∧
      calls.phases[returned.reqId]? = some .passed ∧
      returned.out = calls.responses[returned.reqId]? := by
  cases event with
  | receive reply message => cases member
  | caller reqId step =>
      cases step with
      | register => cases member
      | send =>
          simp only [PendingCalls.step, call] at member
          split at member <;> cases member
      | wait =>
          simp only [PendingCalls.step, call] at member
          split at member <;> cases member
      | wake =>
          simp only [PendingCalls.step, call] at member
          split at member <;> cases member
      | finish =>
          simp only [PendingCalls.step, call] at member
          split at member
          next passed =>
            cases List.mem_singleton.mp member
            exact ⟨rfl, passed, rfl⟩
          next => cases member

/-- Once its call has returned, a request stays where it is. -/
theorem returned_step {calls : PendingCalls Reply} {reqId : CString}
    (returned : calls.phases[reqId]? = some .returned) (event : CallEvent Reply)
    (fresh : calls.Fresh event) : (calls.step event).1.phases[reqId]? = some .returned := by
  change ((calls.step event).1.row reqId).phase = some .returned
  cases event with
  | caller other step =>
      rw [PendingCalls.step, row_call]
      split
      next same =>
        subst same
        have phase : (calls.row reqId).phase = some .returned := returned
        cases step with
        | register =>
            have used : reqId ∈ calls.phases := ExtTreeMap.mem_iff_isSome_getElem?.mpr (by simp [returned])
            exact absurd used fresh
        | send => simp [CallRow.call, phase]
        | wait => simp [CallRow.call, phase]
        | wake => simp [CallRow.call, phase]
        | finish => simp [CallRow.call, phase]
      next => exact returned
  | receive reply message =>
      rw [PendingCalls.step, row_receive]
      split
      · rw [CallRow.receive]
        split
        · exact returned
        · exact returned
      · exact returned

theorem phases_of_finish {calls : PendingCalls Reply} {reqId : CString}
    (passed : calls.phases[reqId]? = some .passed) :
    (calls.step (.caller reqId .finish)).1.phases[reqId]? = some .returned := by
  simp [PendingCalls.step, call, passed]

/-- The call of every result that a run has produced has returned for good. -/
theorem returned_of_output {events later : List (CallEvent Reply)} {returned : Returned Reply}
    (fresh : Admits step Fresh init (events ++ later))
    (member : returned ∈ (run step init events).2) :
    (run step init (events ++ later)).1.phases[returned.reqId]? = some .returned := by
  obtain ⟨before, event, after, split, emitted⟩ := step_of_output member
  obtain ⟨finishes, passed, _⟩ := finish_of_returned emitted
  have whole : events ++ later = (before ++ [event]) ++ (after ++ later) := by
    rw [split]
    simp only [List.append_assoc, List.cons_append, List.nil_append]
  rw [whole] at fresh ⊢
  rw [run_append]
  apply invariant_of_run (fun calls : PendingCalls Reply =>
    calls.phases[returned.reqId]? = some .returned) (fun _ event held => returned_step held event) _
    ((admits_append _ _ _).mp fresh).2
  rw [run_append, finishes]
  exact phases_of_finish passed

/-- Replies are never mixed up.  A call that returns yields what was delivered
in a message that names its request; a message that answers no outstanding
request changes neither map; and neither map keeps anything of a call that has
returned. -/
theorem replies_not_mixed_up (events : List (CallEvent Reply))
    (fresh : Admits step Fresh init events) :
    (forall returned, returned ∈ (run step init events).2 ->
      Exists fun reply : Reply => Exists fun message : Message =>
        .receive reply message ∈ events ∧ message.metaMap[respIdKey]? = some returned.reqId ∧
          returned.out = some reply) ∧
    (forall (reply : Reply) (message : Message),
      (forall respId, message.metaMap[respIdKey]? = some respId ->
        respId ∉ (run step init events).1.requests) ->
      ((run step init events).1.step (.receive reply message)).1 = (run step init events).1) ∧
    (forall later, Admits step Fresh init (events ++ later) ->
      forall returned, returned ∈ (run step init events).2 ->
        returned.reqId ∉ (run step init (events ++ later)).1.requests ∧
          returned.reqId ∉ (run step init (events ++ later)).1.responses) := by
  refine ⟨?_, ?_, ?_⟩
  · intro returned member
    obtain ⟨before, event, after, split, emitted⟩ := step_of_output member
    obtain ⟨_, passed, out⟩ := finish_of_returned emitted
    rw [split] at fresh
    have admitted := ((admits_append _ _ _).mp fresh).1
    have consistent := invariant_of_run Consistent (fun _ event held => held.step event)
      Consistent.init admitted returned.reqId
    have delivered : Delivered ([] ++ before) (run step init before).1 :=
      invariant_of_history Delivered (fun _ _ event held _ => held.step event) Delivered.init admitted
    simp only [CallRow.Consistent, row, passed] at consistent
    obtain ⟨reply, recorded⟩ := Option.isSome_iff_exists.mp consistent.2
    obtain ⟨message, arrived, names⟩ := delivered _ _ recorded
    refine ⟨reply, message, ?_, names, out.trans recorded⟩
    rw [split]
    exact List.mem_append_left _ arrived
  · intro reply message unknown
    rw [PendingCalls.step, receive]
    split
    next => rfl
    next respId names => exact if_neg (unknown respId names)
  · intro later admitted returned member
    have consistent := invariant_of_run Consistent (fun _ event held => held.step event)
      Consistent.init admitted returned.reqId
    simp only [CallRow.Consistent, row, returned_of_output admitted member] at consistent
    exact ⟨Table.not_mem_of_getElem? consistent.1, Table.not_mem_of_getElem? consistent.2⟩

/-- A message that answers a request. -/
def replyTo (reqId : CString) : Message := Message.setMeta .empty respIdKey reqId

/-- Two calls at once.  The second one is answered before its caller waits, the
first one twice and while it is blocked, and a third message answers nobody. -/
def twoCalls : List (CallEvent Nat) :=
  let first : CString := ⟨[97], by decide⟩
  let second : CString := ⟨[98], by decide⟩
  [.caller first .register, .caller first .send, .caller second .register, .caller first .wait,
    .caller second .send, .receive 1 (replyTo second), .receive 2 (replyTo ⟨[99], by decide⟩),
    .caller second .wait, .receive 3 (replyTo first), .receive 4 (replyTo first),
    .caller first .wake, .caller second .finish, .caller first .finish]

theorem replies_not_mixed_up_twoCalls :
    (run step init twoCalls).2 = [⟨⟨[98], by decide⟩, some 1⟩, ⟨⟨[97], by decide⟩, some 4⟩] ∧
      forall later, Admits step Fresh init (twoCalls ++ later) ->
        forall returned, returned ∈ (run step init twoCalls).2 ->
          returned.reqId ∉ (run step init (twoCalls ++ later)).1.requests ∧
            returned.reqId ∉ (run step init (twoCalls ++ later)).1.responses :=
  ⟨by decide +kernel, (replies_not_mixed_up twoCalls (by decide +kernel)).2.2⟩

end PendingCalls

end Rpc
end Umundo
