import Umundo.Rpc.PendingCalls

namespace Umundo
namespace Rpc

open Foundation Std Thread Connection

/-!
# Looking up a service

Both service managers, the one written in C++ and the one written in Java, look
up a service by publishing a request and waiting for a reply.  The C++ manager
registers its request before it publishes it, and its monitor remembers a signal
that comes too early: its lookup is the pattern of `PendingCalls`.  The Java
manager publishes first and registers afterwards, and a notification that finds
nobody waiting is gone.

A `Lookup` is what the two have in common.  A history variable holds the latest
reply that was delivered to each lookup under way, and no answer is lost if this
reply is recorded and the caller returns it by its own steps.
-/

/-- A manager with lookups under way. -/
structure Lookup (State Event Reply : Type) where
  step : State -> Event -> State × List (Returned Reply)
  /-- the request was sent and the lookup has not returned -/
  underWay : State -> CString -> Bool
  /-- `_findResponses` -/
  responses : State -> Table CString Reply
  /-- the request a message answers, and the reply -/
  answer : Event -> Option (CString × Reply)
  /-- the lookup whose caller takes a step -/
  caller : Event -> Option CString

namespace Lookup

variable {State Event Reply : Type} (lookup : Lookup State Event Reply)

/-- Remember the latest reply to each lookup under way. -/
def note (state : State) (answered : Table CString Reply) (event : Event) : Table CString Reply :=
  match lookup.answer event with
  | none => answered
  | some (reqId, reply) =>
      if lookup.underWay state reqId then answered.insert reqId reply else answered

/-- The caller returns the reply without anyone else's help. -/
def Completes (state : State) (reqId : CString) (reply : Reply) : Prop :=
  Exists fun events : List Event =>
    (forall event, event ∈ events -> lookup.caller event = some reqId) ∧
      ⟨reqId, some reply⟩ ∈ (run lookup.step state events).2

/-- Every lookup under way that was answered has its reply recorded and can
complete with it. -/
def NoAnswerLost (watched : State × Table CString Reply) : Prop :=
  forall reqId reply, watched.2[reqId]? = some reply ->
    lookup.underWay watched.1 reqId = true ->
    (lookup.responses watched.1)[reqId]? = some reply ∧ lookup.Completes watched.1 reqId reply

/-- The manager, with the history variable. -/
def watch : State × Table CString Reply -> Event -> (State × Table CString Reply) × List (Returned Reply) :=
  observe lookup.step lookup.note

variable {lookup}

theorem getElem?_note_self {state : State} {answered : Table CString Reply} {event : Event}
    {reqId : CString} {reply : Reply} (answers : lookup.answer event = some (reqId, reply))
    (running : lookup.underWay state reqId = true) :
    (lookup.note state answered event)[reqId]? = some reply := by
  simp [note, answers, running]

theorem getElem?_note_other {state : State} {answered : Table CString Reply} {event : Event}
    {reqId : CString} (unanswered : forall reply, lookup.answer event = some (reqId, reply) ->
      lookup.underWay state reqId = false) :
    (lookup.note state answered event)[reqId]? = answered[reqId]? := by
  rw [note]
  split
  next => rfl
  next other reply answers =>
    by_cases same : reqId = other
    · subst same
      simp [unanswered reply answers]
    · split
      · simp [Table.getElem?_insert_eq, same]
      · rfl

end Lookup

/-! ## The C++ manager -/

namespace PendingCalls

variable {Reply : Type}

/-- A call is under way from the moment its request is published. -/
def underWay : Option Phase -> Bool
  | some .sent => true
  | some .waiting => true
  | some .passed => true
  | _ => false

def lookup : Lookup (PendingCalls Reply) (CallEvent Reply) Reply where
  step := step
  underWay calls reqId := underWay calls.phases[reqId]?
  responses := responses
  answer
    | .receive reply message => message.metaMap[respIdKey]?.map fun reqId => (reqId, reply)
    | .caller _ _ => none
  caller
    | .caller reqId _ => some reqId
    | .receive _ _ => none

/-- A caller that has passed returns what is recorded. -/
private theorem finishes {calls : PendingCalls Reply} {reqId : CString} {reply : Reply}
    (passed : calls.phases[reqId]? = some .passed)
    (recorded : calls.responses[reqId]? = some reply) :
    ⟨reqId, some reply⟩ ∈ (run step calls [.caller reqId .finish]).2 := by
  simp [run, step, call, passed, recorded]

/-- A caller whose reply is recorded finds a permit, or has passed already. -/
theorem completes {calls : PendingCalls Reply} (consistent : calls.Consistent) {reqId : CString}
    {reply : Reply} (recorded : calls.responses[reqId]? = some reply)
    (running : underWay calls.phases[reqId]? = true) : lookup.Completes calls reqId reply := by
  have row := consistent reqId
  have stored : (calls.responses[reqId]?).isSome = true := by
    rw [recorded]
    rfl
  cases phase : calls.phases[reqId]? with
  | none =>
      rw [phase] at running
      cases running
  | some place =>
      rw [phase] at running
      simp only [CallRow.Consistent, PendingCalls.row, phase] at row
      cases place with
      | registered => cases running
      | returned => cases running
      | sent =>
          obtain ⟨monitor, registered, permit⟩ := row
          have entered : monitor.enter = ({ monitor with signaled := monitor.signaled - 1 }, true) :=
            if_pos (permit.mpr stored)
          refine ⟨[.caller reqId .wait, .caller reqId .finish], ?_, List.mem_append_right _ (finishes ?_ ?_)⟩
          · simp [lookup]
          · simp [lookup, step, call, phase, ExtTreeMap.getD_eq_getD_getElem?, registered, entered]
          · simp [lookup, step, call, phase, recorded]
      | waiting =>
          obtain ⟨monitor, registered, permit⟩ := row
          have woken : monitor.wake = some ⟨monitor.waiters - 1, monitor.signaled - 1⟩ :=
            if_pos (permit.mpr stored)
          refine ⟨[.caller reqId .wake, .caller reqId .finish], ?_, List.mem_append_right _ (finishes ?_ ?_)⟩
          · simp [lookup]
          · simp [lookup, step, call, phase, ExtTreeMap.getD_eq_getD_getElem?, registered, woken]
          · simp [lookup, step, call, phase, ExtTreeMap.getD_eq_getD_getElem?, registered, woken,
              recorded]
      | passed =>
          refine ⟨[.caller reqId .finish], ?_, finishes phase recorded⟩
          simp [lookup]

/-- The monitor of a call under way is registered. -/
theorem Consistent.registered_of_underWay {calls : PendingCalls Reply}
    (consistent : calls.Consistent) {reqId : CString}
    (running : underWay calls.phases[reqId]? = true) :
    Exists fun monitor : Monitor => calls.requests[reqId]? = some monitor := by
  have row := consistent reqId
  cases phase : calls.phases[reqId]? with
  | none =>
      rw [phase] at running
      cases running
  | some place =>
      rw [phase] at running
      simp only [CallRow.Consistent, PendingCalls.row, phase] at row
      cases place with
      | registered => cases running
      | returned => cases running
      | passed => exact Option.isSome_iff_exists.mp row.1
      | sent => exact ⟨_, row.choose_spec.1⟩
      | waiting => exact ⟨_, row.choose_spec.1⟩

/-- The latest reply to a lookup is recorded until the lookup returns. -/
def Recorded (watched : PendingCalls Reply × Table CString Reply) : Prop :=
  forall (reqId : CString) (reply : Reply), watched.2[reqId]? = some reply ->
    watched.1.phases[reqId]? = some .returned ∨
      underWay watched.1.phases[reqId]? = true ∧ watched.1.responses[reqId]? = some reply

/-- A call under way stays so, and keeps its reply, until it returns. -/
private theorem underWay_call {row : CallRow Reply} {step : CallerStep}
    (later : step ≠ .register) (running : underWay row.phase = true) :
    (row.call step).phase = some .returned ∨
      underWay (row.call step).phase = true ∧ (row.call step).response = row.response := by
  rcases row with ⟨request, response, phase⟩
  rcases phase with _ | _ | _ | _ | _ | _
  case none => cases running
  case some.registered => cases running
  case some.returned => cases running
  case some.sent =>
    cases step with
    | register => exact absurd rfl later
    | wait =>
        refine .inr ⟨?_, rfl⟩
        simp only [CallRow.call]
        split <;> rfl
    | _ => exact .inr ⟨rfl, rfl⟩
  case some.waiting =>
    cases step with
    | register => exact absurd rfl later
    | wake =>
        simp only [CallRow.call]
        split <;> exact .inr ⟨rfl, rfl⟩
    | _ => exact .inr ⟨rfl, rfl⟩
  case some.passed =>
    cases step with
    | register => exact absurd rfl later
    | finish => exact .inl rfl
    | _ => exact .inr ⟨rfl, rfl⟩

theorem Recorded.step {watched : PendingCalls Reply × Table CString Reply}
    (consistent : watched.1.Consistent) (recorded : Recorded watched) (event : CallEvent Reply)
    (fresh : watched.1.Fresh event) : Recorded (lookup.watch watched event).1 := by
  rcases watched with ⟨calls, answered⟩
  intro reqId reply found
  cases event with
  | caller other step =>
      have held := recorded reqId reply found
      change ((calls.call other step).1.row reqId).phase = _ ∨
        underWay ((calls.call other step).1.row reqId).phase = true ∧
          ((calls.call other step).1.row reqId).response = _
      rcases held with returned | ⟨running, present⟩
      · exact .inl (returned_step returned (.caller other step) fresh)
      · rw [row_call]
        split
        next same =>
          subst same
          have later : step ≠ .register := by
            intro registers
            subst registers
            have absent : calls.phases[reqId]? = none := ExtTreeMap.getElem?_eq_none fresh
            change underWay calls.phases[reqId]? = true at running
            rw [absent] at running
            cases running
          rw [← present]
          exact underWay_call later running
        next => exact .inr ⟨running, present⟩
  | receive other message =>
      change (lookup.note calls answered (.receive other message))[reqId]? = some reply at found
      change ((calls.receive other message).row reqId).phase = _ ∨
        underWay ((calls.receive other message).row reqId).phase = true ∧
          ((calls.receive other message).row reqId).response = _
      rw [row_receive]
      by_cases names : message.metaMap[respIdKey]? = some reqId
      · rw [if_pos names]
        have answers : lookup.answer (.receive other message) = some (reqId, other) := by
          simp [lookup, names]
        cases running : underWay calls.phases[reqId]? with
        | true =>
            rw [Lookup.getElem?_note_self answers running] at found
            cases found
            obtain ⟨monitor, registered⟩ := consistent.registered_of_underWay running
            have kept : (calls.row reqId).receive reply =
                ⟨some monitor.signal, some reply, calls.phases[reqId]?⟩ := by
              simp [row, CallRow.receive, registered]
            rw [kept]
            exact .inr ⟨running, rfl⟩
        | false =>
            rw [Lookup.getElem?_note_other fun _ _ => running] at found
            rcases recorded reqId reply found with returned | ⟨under, _⟩
            · refine .inl ?_
              rw [CallRow.receive]
              split <;> exact returned
            · exact absurd (running.symm.trans under) Bool.false_ne_true
      · rw [if_neg names]
        have unanswered : forall reply, lookup.answer (.receive other message) = some (reqId, reply) ->
            lookup.underWay calls reqId = false := by
          intro reply answers
          simp [lookup, names] at answers
        rw [Lookup.getElem?_note_other unanswered] at found
        exact recorded reqId reply found

/-- Every answer to a lookup of the C++ manager reaches its caller. -/
theorem always_noAnswerLost (events : List (CallEvent Reply))
    (fresh : Admits lookup.watch (fun watched event => watched.1.Fresh event) (init, ∅) events) :
    Always lookup.watch lookup.NoAnswerLost (init, ∅) events := by
  apply always_of_invariant (fun watched => watched.1.Consistent ∧ Recorded watched) _ _ _ _ fresh
  · rintro watched event ⟨consistent, recorded⟩ allowed
    exact ⟨consistent.step event allowed, recorded.step consistent event allowed⟩
  · rintro ⟨calls, answered⟩ ⟨consistent, recorded⟩ reqId reply found running
    rcases recorded reqId reply found with returned | ⟨_, present⟩
    · change underWay calls.phases[reqId]? = true at running
      rw [returned] at running
      cases running
    · exact ⟨present, completes consistent present running⟩
  · refine ⟨Consistent.init, ?_⟩
    intro reqId reply found
    cases found.symm.trans ExtTreeMap.getElem?_empty

end PendingCalls

/-! ## The Java manager -/

/-- Where the caller of a Java lookup stands. -/
inductive JavaPhase where
  | sent
  | registered
  | waiting
  | notified
  | returned
  /-- the lock object was gone when the caller asked for it -/
  | failed
deriving DecidableEq

/-- The two maps of the Java manager, and where the callers stand.  The objects
in `_findRequests` serve as locks only.  A lookup holds the manager's own lock,
so callers come one after the other; the model does not depend on it. -/
structure JavaManager (Reply : Type) where
  requests : Keys CString
  responses : Table CString Reply
  phases : Table CString JavaPhase

inductive JavaStep where
  /-- `_svcPub.send(findMsg)` -/
  | send
  /-- `_findRequests.put(reqId, new Object())` -/
  | put
  /-- `_findRequests.get(reqId).wait()` is called -/
  | wait
  /-- the notified caller collects the reply and returns -/
  | finish
deriving DecidableEq

inductive JavaEvent (Reply : Type) where
  | caller (reqId : CString) (step : JavaStep)
  | receive (reply : Reply) (message : Message)

namespace JavaManager

variable {Reply : Type}

def init : JavaManager Reply := ⟨∅, ∅, ∅⟩

/-- One step of the caller of a lookup, if it is at the place for it. -/
def find (manager : JavaManager Reply) (reqId : CString) :
    JavaStep -> JavaManager Reply × List (Returned Reply)
  | .send => ({ manager with phases := manager.phases.insert reqId .sent }, [])
  | .put =>
      match manager.phases[reqId]? with
      | some .sent =>
          ({ manager with
              requests := manager.requests.insert reqId
              phases := manager.phases.insert reqId .registered }, [])
      | _ => (manager, [])
  | .wait =>
      match manager.phases[reqId]? with
      | some .registered =>
          let place : JavaPhase := if reqId ∈ manager.requests then .waiting else .failed
          ({ manager with phases := manager.phases.insert reqId place }, [])
      | _ => (manager, [])
  | .finish =>
      match manager.phases[reqId]? with
      | some .notified =>
          ({ manager with
              responses := manager.responses.erase reqId
              phases := manager.phases.insert reqId .returned },
            [⟨reqId, manager.responses[reqId]?⟩])
      | _ => (manager, [])

/-- A message arrives.  A reply to a registered lookup is recorded, the caller is
notified if it waits, and the lookup is no longer registered. -/
def receive (manager : JavaManager Reply) (reply : Reply) (message : Message) :
    JavaManager Reply :=
  match message.metaMap[respIdKey]? with
  | none => manager
  | some respId =>
      if respId ∈ manager.requests then
        { requests := manager.requests.erase respId
          responses := manager.responses.insert respId reply
          phases :=
            if manager.phases[respId]? = some .waiting then manager.phases.insert respId .notified
            else manager.phases }
      else manager

def step (manager : JavaManager Reply) :
    JavaEvent Reply -> JavaManager Reply × List (Returned Reply)
  | .caller reqId step => manager.find reqId step
  | .receive reply message => (manager.receive reply message, [])

/-- Request ids are never used twice. -/
def Fresh (manager : JavaManager Reply) : JavaEvent Reply -> Prop
  | .caller reqId .send => reqId ∉ manager.phases
  | _ => True

instance (manager : JavaManager Reply) :
    (event : JavaEvent Reply) -> Decidable (manager.Fresh event)
  | .caller reqId .send => inferInstanceAs (Decidable (reqId ∉ manager.phases))
  | .caller _ .put => .isTrue trivial
  | .caller _ .wait => .isTrue trivial
  | .caller _ .finish => .isTrue trivial
  | .receive _ _ => .isTrue trivial

/-- A lookup is under way from the moment its request is published. -/
def underWay : Option JavaPhase -> Bool
  | some .sent => true
  | some .registered => true
  | some .waiting => true
  | some .notified => true
  | _ => false

def lookup : Lookup (JavaManager Reply) (JavaEvent Reply) Reply where
  step := step
  underWay manager reqId := underWay manager.phases[reqId]?
  responses := responses
  answer
    | .receive reply message => message.metaMap[respIdKey]?.map fun reqId => (reqId, reply)
    | .caller _ _ => none
  caller
    | .caller reqId _ => some reqId
    | .receive _ _ => none

/-- A reply to a lookup under way finds its caller waiting, or repeats the reply
that the caller was notified of. -/
def MeetsCaller (watched : JavaManager Reply × Table CString Reply) : JavaEvent Reply -> Prop
  | .caller _ _ => True
  | .receive reply message => forall reqId, message.metaMap[respIdKey]? = some reqId ->
      underWay watched.1.phases[reqId]? = true ->
      watched.1.phases[reqId]? = some .waiting ∨
        watched.1.phases[reqId]? = some .notified ∧ watched.1.responses[reqId]? = some reply

/-! A lookup seen by itself -/

/-- What the manager holds under one id. -/
structure Row (Reply : Type) where
  request : Bool
  response : Option Reply
  phase : Option JavaPhase

def row (manager : JavaManager Reply) (reqId : CString) : Row Reply :=
  ⟨manager.requests.contains reqId, manager.responses[reqId]?, manager.phases[reqId]?⟩

def Row.find (row : Row Reply) : JavaStep -> Row Reply
  | .send => { row with phase := some .sent }
  | .put =>
      match row.phase with
      | some .sent => { row with request := true, phase := some .registered }
      | _ => row
  | .wait =>
      match row.phase with
      | some .registered => { row with phase := some (if row.request then .waiting else .failed) }
      | _ => row
  | .finish =>
      match row.phase with
      | some .notified => { row with response := none, phase := some .returned }
      | _ => row

def Row.receive (row : Row Reply) (reply : Reply) : Row Reply :=
  if row.request then
    ⟨false, some reply, if row.phase = some .waiting then some .notified else row.phase⟩
  else row

theorem row_find (manager : JavaManager Reply) (reqId other : CString) (step : JavaStep) :
    (manager.find reqId step).1.row other =
      if other = reqId then (manager.row reqId).find step else manager.row other := by
  by_cases same : other = reqId
  · subst same
    rw [if_pos rfl]
    cases step with
    | send => simp [find, row, Row.find]
    | put =>
        cases found : manager.phases[other]? with
        | none => simp [find, row, Row.find, found]
        | some phase => cases phase <;> simp [find, row, Row.find, found]
    | wait =>
        cases found : manager.phases[other]? with
        | none => simp [find, row, Row.find, found]
        | some phase => cases phase <;> simp [find, row, Row.find, found]
    | finish =>
        cases found : manager.phases[other]? with
        | none => simp [find, row, Row.find, found]
        | some phase => cases phase <;> simp [find, row, Row.find, found]
  · rw [if_neg same]
    have different : ¬ reqId = other := fun equal => same equal.symm
    cases step with
    | send => simp [find, row, Table.getElem?_insert_eq, same]
    | put =>
        simp only [find]
        split <;> simp [row, Table.getElem?_insert_eq, same, different]
    | wait =>
        simp only [find]
        split <;> simp [row, Table.getElem?_insert_eq, same]
    | finish =>
        simp only [find]
        split <;> simp [row, Table.getElem?_insert_eq, Table.getElem?_erase_eq, same]

theorem row_receive (manager : JavaManager Reply) (reply : Reply) (message : Message)
    (other : CString) :
    (manager.receive reply message).row other =
      if message.metaMap[respIdKey]? = some other then (manager.row other).receive reply
      else manager.row other := by
  cases found : message.metaMap[respIdKey]? with
  | none => simp [receive, found]
  | some respId =>
      by_cases same : respId = other
      · subst same
        by_cases registered : respId ∈ manager.requests
        · by_cases waits : manager.phases[respId]? = some .waiting
          · simp [receive, found, registered, row, Row.receive, waits]
          · simp [receive, found, registered, row, Row.receive, waits]
        · simp [receive, found, registered, row, Row.receive]
      · have different : ¬ other = respId := fun equal => same equal.symm
        rw [if_neg (by simpa using same)]
        simp only [receive, found]
        split
        · split <;> simp [row, Table.getElem?_insert_eq, same, different]
        · rfl

/-- A lookup is registered while its caller waits, and neither before it has
registered nor after it was notified. -/
def Row.Consistent (row : Row Reply) : Prop :=
  match row.phase with
  | none => row.request = false ∧ row.response = none
  | some .sent => row.request = false ∧ row.response = none
  | some .registered => True
  | some .waiting => row.request = true
  | some .notified => row.request = false
  | some .returned => row.request = false
  | some .failed => row.request = false

theorem Row.Consistent.find {row : Row Reply} (consistent : row.Consistent) (step : JavaStep)
    (fresh : step = .send -> row.phase = none) : (row.find step).Consistent := by
  rcases row with ⟨request, response, phase⟩
  cases step with
  | send =>
      cases fresh rfl
      exact consistent
  | put =>
      rcases phase with _ | _ | _ | _ | _ | _ | _
      case some.sent => exact trivial
      all_goals exact consistent
  | wait =>
      rcases phase with _ | _ | _ | _ | _ | _ | _
      case some.registered => cases request <;> rfl
      all_goals exact consistent
  | finish =>
      rcases phase with _ | _ | _ | _ | _ | _ | _ <;> exact consistent

theorem Row.Consistent.receive {row : Row Reply} (consistent : row.Consistent) (reply : Reply) :
    (row.receive reply).Consistent := by
  rcases row with ⟨_ | _, response, phase⟩
  · exact consistent
  · rcases phase with _ | _ | _ | _ | _ | _ | _
    case none => cases consistent.1
    case some.sent => cases consistent.1
    case some.registered => exact trivial
    case some.waiting => rfl
    all_goals cases consistent

/-- A message neither starts nor ends a lookup. -/
theorem Row.underWay_receive (row : Row Reply) (reply : Reply) :
    underWay (row.receive reply).phase = underWay row.phase := by
  rw [Row.receive]
  split
  · dsimp only
    split
    next waits =>
      rw [waits]
      rfl
    next => rfl
  · rfl

/-- Only a reply that finds its caller waiting gets it notified. -/
theorem Row.Consistent.receive_notified_iff {row : Row Reply} (consistent : row.Consistent)
    (reply : Reply) :
    (row.receive reply).response = some reply ∧ (row.receive reply).phase = some .notified <->
      row.phase = some .waiting ∨ row.phase = some .notified ∧ row.response = some reply := by
  rcases row with ⟨request, response, phase⟩
  rcases phase with _ | _ | _ | _ | _ | _ | _
  case some.waiting =>
    have registered : request = true := consistent
    simp [Row.receive, registered]
  case some.notified =>
    have unregistered : request = false := consistent
    simp [Row.receive, unregistered]
  all_goals cases request <;> simp [Row.receive]

/-- Every lookup is consistent, and only lookups that exist were answered. -/
structure Consistent (watched : JavaManager Reply × Table CString Reply) : Prop where
  rows : forall reqId, (watched.1.row reqId).Consistent
  answered : forall reqId : CString, watched.1.phases[reqId]? = none -> watched.2[reqId]? = none

theorem Consistent.init : Consistent ((init, ∅) : JavaManager Reply × Table CString Reply) where
  rows reqId := ⟨(ExtTreeSet.contains_empty : (∅ : Keys CString).contains reqId = false),
    ExtTreeMap.getElem?_empty⟩
  answered _ _ := ExtTreeMap.getElem?_empty

/-- Lookups do not disappear. -/
private theorem phase_none_of_step {manager : JavaManager Reply} {event : JavaEvent Reply}
    {reqId : CString} (absent : (manager.step event).1.phases[reqId]? = none) :
    manager.phases[reqId]? = none := by
  change ((manager.step event).1.row reqId).phase = none at absent
  change (manager.row reqId).phase = none
  cases event with
  | caller other step =>
      rw [JavaManager.step, row_find] at absent
      split at absent
      next same =>
        subst same
        generalize manager.row reqId = row at absent ⊢
        rcases row with ⟨request, response, _ | phase⟩
        · rfl
        · cases step <;> cases phase <;> cases absent
      next => exact absent
  | receive reply message =>
      rw [JavaManager.step, row_receive] at absent
      split at absent
      · generalize manager.row reqId = row at absent ⊢
        rw [Row.receive] at absent
        split at absent
        · split at absent
          next => cases absent
          next => exact absent
        · exact absent
      · exact absent

theorem Consistent.step {watched : JavaManager Reply × Table CString Reply}
    (consistent : Consistent watched) (event : JavaEvent Reply) (fresh : watched.1.Fresh event) :
    Consistent (lookup.watch watched event).1 where
  rows other := by
    change ((watched.1.step event).1.row other).Consistent
    cases event with
    | caller reqId step =>
        rw [JavaManager.step, row_find]
        split
        · apply (consistent.rows reqId).find
          intro sends
          subst sends
          exact ExtTreeMap.getElem?_eq_none fresh
        · exact consistent.rows other
    | receive reply message =>
        rw [JavaManager.step, row_receive]
        split
        · exact (consistent.rows other).receive reply
        · exact consistent.rows other
  answered reqId absent := by
    have before := phase_none_of_step absent
    rw [← consistent.answered reqId before]
    apply Lookup.getElem?_note_other
    intro reply _
    change underWay watched.1.phases[reqId]? = false
    rw [before]
    rfl

/-- No step of the caller itself gets it notified. -/
private theorem unnotified_find {row : Row Reply} (unnotified : row.phase ≠ some .notified)
    (step : JavaStep) : (row.find step).phase ≠ some .notified := by
  rcases row with ⟨request, response, phase⟩
  cases step with
  | send => simp [Row.find]
  | put =>
      simp only [Row.find]
      split
      · simp
      · exact unnotified
  | wait =>
      simp only [Row.find]
      split
      · cases request <;> simp
      · exact unnotified
  | finish =>
      simp only [Row.find]
      exact unnotified

/-- A lookup returns in one way only. -/
private theorem notified_of_returned {manager : JavaManager Reply} {reqId : CString}
    {step : JavaStep} {returned : Returned Reply}
    (member : returned ∈ (manager.find reqId step).2) :
    manager.phases[reqId]? = some .notified := by
  cases step with
  | send => cases member
  | put =>
      simp only [find] at member
      split at member <;> cases member
  | wait =>
      simp only [find] at member
      split at member <;> cases member
  | finish =>
      simp only [find] at member
      split at member
      next notified => exact notified
      next => cases member

/-- A caller that was not notified never returns on its own. -/
theorem completes_iff {manager : JavaManager Reply} {reqId : CString} {reply : Reply}
    (recorded : manager.responses[reqId]? = some reply) :
    lookup.Completes manager reqId reply <-> manager.phases[reqId]? = some .notified := by
  constructor
  · rintro ⟨events, own, returns⟩
    by_contra waits
    refine outputs_of_run (fun state : JavaManager Reply => (state.row reqId).phase ≠ some .notified)
      (fun _ : Returned Reply => False) ?_ ?_ waits (admits_of_forall own manager) _ returns
    · intro state event unnotified isOwn
      cases event with
      | receive other message => cases isOwn
      | caller other step =>
          cases isOwn
          change (((state.find reqId step).1).row reqId).phase ≠ some .notified
          rw [row_find, if_pos rfl]
          exact unnotified_find unnotified step
    · intro state event unnotified isOwn returned member
      cases event with
      | receive other message => cases isOwn
      | caller other step =>
          cases isOwn
          exact unnotified (notified_of_returned member)
  · intro notified
    refine ⟨[.caller reqId .finish], ?_, ?_⟩
    · simp [lookup]
    · simp [lookup, run, JavaManager.step, find, notified, recorded]

/-- An answered lookup under way is fine exactly if its caller was notified of
the reply that is recorded. -/
theorem noAnswerLost_iff (watched : JavaManager Reply × Table CString Reply) :
    lookup.NoAnswerLost watched <->
      forall (reqId : CString) (reply : Reply), watched.2[reqId]? = some reply ->
        underWay (watched.1.row reqId).phase = true ->
        (watched.1.row reqId).response = some reply ∧
          (watched.1.row reqId).phase = some .notified := by
  apply forall_congr'
  intro reqId
  apply forall_congr'
  intro reply
  apply imp_congr_right
  intro _
  apply imp_congr_right
  intro _
  apply and_congr_right
  exact completes_iff

/-- The caller of an answered lookup has nothing left to do but return. -/
private theorem answered_find {row : Row Reply} {reply : Reply} {step : JavaStep}
    (exists_ : row.phase ≠ none) (later : step ≠ .send)
    (good : underWay row.phase = true -> row.response = some reply ∧ row.phase = some .notified)
    (running : underWay (row.find step).phase = true) :
    (row.find step).response = some reply ∧ (row.find step).phase = some .notified := by
  rcases row with ⟨request, response, phase⟩
  rcases phase with _ | _ | _ | _ | _ | _ | _
  case none => exact absurd rfl exists_
  case some.sent => cases (good rfl).2
  case some.registered => cases (good rfl).2
  case some.waiting => cases (good rfl).2
  case some.notified =>
    cases step with
    | send => exact absurd rfl later
    | finish => cases running
    | _ => exact good rfl
  case some.returned => cases step <;> first | exact absurd rfl later | cases running
  case some.failed => cases step <;> first | exact absurd rfl later | cases running

/-- From a state in which no answer is lost, the next step loses none exactly if
it is no reply that misses its caller. -/
theorem noAnswerLost_step_iff (watched : JavaManager Reply × Table CString Reply)
    (event : JavaEvent Reply) (consistent : Consistent watched) (fresh : watched.1.Fresh event)
    (good : lookup.NoAnswerLost watched) :
    lookup.NoAnswerLost (lookup.watch watched event).1 <-> MeetsCaller watched event := by
  rw [noAnswerLost_iff] at good ⊢
  rcases watched with ⟨manager, answered⟩
  cases event with
  | caller other step =>
      refine ⟨fun _ => trivial, ?_⟩
      intro _ reqId reply found running
      change answered[reqId]? = some reply at found
      change ((manager.find other step).1.row reqId).response = _ ∧
        ((manager.find other step).1.row reqId).phase = _
      change underWay ((manager.find other step).1.row reqId).phase = true at running
      have known : manager.phases[reqId]? ≠ none := by
        intro absent
        cases found.symm.trans (consistent.answered reqId absent)
      rw [row_find] at running ⊢
      by_cases same : reqId = other
      · subst same
        rw [if_pos rfl] at running ⊢
        refine answered_find known ?_ (good reqId reply found) running
        intro sends
        subst sends
        exact known (ExtTreeMap.getElem?_eq_none fresh)
      · rw [if_neg same] at running ⊢
        exact good reqId reply found running
  | receive other message =>
      have answers : forall reqId, message.metaMap[respIdKey]? = some reqId ->
          lookup.answer (.receive other message) = some (reqId, other) := by
        intro reqId names
        simp [lookup, names]
      constructor
      · intro after reqId names running
        have noted : (lookup.note manager answered (.receive other message))[reqId]? = some other :=
          Lookup.getElem?_note_self (answers reqId names) running
        have kept := after reqId other noted
        change underWay ((manager.receive other message).row reqId).phase = true ->
          ((manager.receive other message).row reqId).response = _ ∧
            ((manager.receive other message).row reqId).phase = _ at kept
        rw [row_receive, if_pos names, Row.underWay_receive] at kept
        exact ((consistent.rows reqId).receive_notified_iff other).mp (kept running)
      · intro meets reqId reply found running
        change ((manager.receive other message).row reqId).response = _ ∧
          ((manager.receive other message).row reqId).phase = _
        change underWay ((manager.receive other message).row reqId).phase = true at running
        change (lookup.note manager answered (.receive other message))[reqId]? = some reply at found
        rw [row_receive] at running ⊢
        by_cases names : message.metaMap[respIdKey]? = some reqId
        · rw [if_pos names] at running ⊢
          rw [Row.underWay_receive] at running
          rw [Lookup.getElem?_note_self (answers reqId names) running] at found
          cases found
          exact ((consistent.rows reqId).receive_notified_iff other).mpr (meets reqId names running)
        · rw [if_neg names] at running ⊢
          rw [Lookup.getElem?_note_other] at found
          · exact good reqId reply found running
          · intro reply answered
            simp [lookup, names] at answered

end JavaManager

/-- No answer is lost by the C++ manager.  None is lost by the Java manager
exactly if every reply finds its caller waiting, or repeats a reply the caller was
notified of. -/
theorem no_answer_lost {Reply : Type} (cpp : List (CallEvent Reply)) (java : List (JavaEvent Reply))
    (cppFresh : Admits PendingCalls.lookup.watch (fun watched event => watched.1.Fresh event)
      (PendingCalls.init, ∅) cpp)
    (javaFresh : Admits JavaManager.lookup.watch (fun watched event => watched.1.Fresh event)
      (JavaManager.init, ∅) java) :
    Always PendingCalls.lookup.watch PendingCalls.lookup.NoAnswerLost (PendingCalls.init, ∅) cpp ∧
    (Always JavaManager.lookup.watch JavaManager.lookup.NoAnswerLost (JavaManager.init, ∅) java <->
      Admits JavaManager.lookup.watch JavaManager.MeetsCaller (JavaManager.init, ∅) java) := by
  refine ⟨PendingCalls.always_noAnswerLost cpp cppFresh, ?_⟩
  refine always_iff_admits JavaManager.Consistent JavaManager.lookup.NoAnswerLost
    JavaManager.MeetsCaller ?_ JavaManager.noAnswerLost_step_iff JavaManager.Consistent.init ?_ javaFresh
  · intro watched event consistent fresh
    exact consistent.step event fresh
  · intro reqId reply found
    cases found.symm.trans ExtTreeMap.getElem?_empty

/-- A C++ lookup that is answered before its caller waits, and a Java lookup that
is answered while its caller waits. -/
theorem no_answer_lost_patient :
    Always PendingCalls.lookup.watch PendingCalls.lookup.NoAnswerLost (PendingCalls.init, ∅)
      [.caller ⟨[97], by decide⟩ .register, .caller ⟨[97], by decide⟩ .send,
        .receive 1 (PendingCalls.replyTo ⟨[97], by decide⟩), .caller ⟨[97], by decide⟩ .wait] ∧
    Always JavaManager.lookup.watch JavaManager.lookup.NoAnswerLost (JavaManager.init, ∅)
      [.caller ⟨[97], by decide⟩ .send, .caller ⟨[97], by decide⟩ .put,
        .caller ⟨[97], by decide⟩ .wait, .receive 1 (PendingCalls.replyTo ⟨[97], by decide⟩)] := by
  have both := no_answer_lost
    [.caller ⟨[97], by decide⟩ .register, .caller ⟨[97], by decide⟩ .send,
      .receive 1 (PendingCalls.replyTo ⟨[97], by decide⟩), .caller ⟨[97], by decide⟩ .wait]
    [.caller ⟨[97], by decide⟩ .send, .caller ⟨[97], by decide⟩ .put,
      .caller ⟨[97], by decide⟩ .wait, .receive 1 (PendingCalls.replyTo ⟨[97], by decide⟩)]
    (by decide +kernel) (by decide +kernel)
  refine ⟨both.1, both.2.mpr ⟨trivial, trivial, trivial, ?_, trivial⟩⟩
  intro reqId names _
  have reply : (PendingCalls.replyTo ⟨[97], by decide⟩).metaMap[respIdKey]? =
      some ⟨[97], by decide⟩ := by decide +kernel
  cases reply.symm.trans names
  exact .inl (by decide +kernel)

/-- A reply to a Java lookup that comes before the request is registered is
discarded, and its caller waits for ever.  One that comes before the caller waits
removes the lock object that the caller is about to ask for. -/
theorem java_answer_lost :
    ¬ Always JavaManager.lookup.watch JavaManager.lookup.NoAnswerLost (JavaManager.init, ∅)
        [.caller ⟨[97], by decide⟩ .send, .receive 1 (PendingCalls.replyTo ⟨[97], by decide⟩),
          .caller ⟨[97], by decide⟩ .put, .caller ⟨[97], by decide⟩ .wait] ∧
      (run JavaManager.step JavaManager.init
        [.caller ⟨[97], by decide⟩ .send, .receive 1 (PendingCalls.replyTo ⟨[97], by decide⟩),
          .caller ⟨[97], by decide⟩ .put, .caller ⟨[97], by decide⟩ .wait]).1.phases.toList =
        [(⟨[97], by decide⟩, .waiting)] ∧
      (run JavaManager.step JavaManager.init
        [.caller ⟨[97], by decide⟩ .send, .caller ⟨[97], by decide⟩ .put,
          .receive 1 (PendingCalls.replyTo ⟨[97], by decide⟩),
          .caller ⟨[97], by decide⟩ .wait]).1.phases.toList =
        [(⟨[97], by decide⟩, .failed)] := by
  refine ⟨?_, by decide +kernel, by decide +kernel⟩
  intro always
  have lost := always.2.2.1 ⟨[97], by decide⟩ 1 (by decide +kernel) (by decide +kernel)
  exact absurd lost.1 (by decide +kernel)

end Rpc
end Umundo
