import Mathlib.Logic.Function.Basic
import Umundo.Connection.Publisher
import Umundo.Thread.Monitor

namespace Umundo
namespace Connection

open Foundation Std Thread

/-!
# Waiting for subscribers

`waitForSubscribers` compares the number of subscribers with a count, and waits
at the monitor of the publisher as long as there are too few.  It takes no lock,
so the table may change between the comparison and the wait.  A change is made
under the mutex of the publisher and ends with a signal; in between it can be
seen without the signal.  A signal leaves one permit, however many threads wait.
-/

/-- Where a thread stands in `waitForSubscribers`. -/
inductive WaitPhase where
  /-- the comparison comes next -/
  | checking
  /-- there were too few, and the monitor is entered next -/
  | entering
  | blocked
  /-- there were enough, and their number is returned next -/
  | leaving

/-- On the way into the monitor, or in it. -/
def WaitPhase.waits : WaitPhase -> Bool
  | entering | blocked => true
  | checking | leaving => false

structure Waiter where
  count : Nat
  phase : WaitPhase

/-- The next step of a thread, which changes the monitor, and where it stands then if it does not
return.  One that is blocked stays where it is without a permit. -/
def Waiter.proceed (pubLock : Monitor) (size : Nat) : Waiter -> Monitor × Option Waiter
  | ⟨count, .checking⟩ => (pubLock, some ⟨count, if size < count then .entering else .leaving⟩)
  | ⟨count, .entering⟩ =>
      let entered := pubLock.enter
      (entered.1, some ⟨count, if entered.2 then .checking else .blocked⟩)
  | ⟨count, .blocked⟩ =>
      match pubLock.wake with
      | some woken => (woken, some ⟨count, .checking⟩)
      | none => (pubLock, some ⟨count, .blocked⟩)
  | ⟨_, .leaving⟩ => (pubLock, none)

/-- A thread takes a permit at the monitor if there is one.  Only if there is none, it may stay there
although there are enough subscribers. -/
theorem Waiter.proceed_spec (pubLock : Monitor) (size : Nat) (waiter : Waiter) :
    (waiter.proceed pubLock size).1.signaled =
        (if waiter.phase.waits = true then pubLock.signaled - 1 else pubLock.signaled) ∧
      forall next, (waiter.proceed pubLock size).2 = some next -> next.phase.waits = true ->
        next.count ≤ size -> waiter.phase.waits = true ∧ waiter.count ≤ size ∧ pubLock.signaled = 0 := by
  rcases waiter with ⟨count, phase⟩
  by_cases empty : pubLock.signaled = 0 <;> by_cases few : size < count <;> cases phase <;>
    simp [proceed, WaitPhase.waits, Monitor.enter, Monitor.wake, Nat.pos_iff_ne_zero, empty, few]

/-- A publisher with its monitor `_pubLock`, whether it owes a signal, and the threads in
`waitForSubscribers`. -/
structure Lobby (Thread : Type) where
  publisher : ZeroMQPublisher
  owed : Bool
  pubLock : Monitor
  waiter : Thread -> Option Waiter

inductive LobbyEvent (Thread : Type) where
  /-- the tables are changed, under the mutex -/
  | publisher (event : PublisherEvent)
  /-- the monitor is signalled, and the mutex is released -/
  | signal
  | waitForSubscribers (thread : Thread) (count : Nat)
  /-- a thread takes its next step -/
  | proceed (thread : Thread)

/-- A function that got as far as the table of subscribers signals at its end. -/
def PublisherEvent.signals (effects : List PublisherEffect) : PublisherEvent -> Bool
  | .removedSubscriber _ _ => true
  | .addedSubscriber _ _ | .frame _ => !effects.isEmpty

theorem ZeroMQPublisher.subscriptions_of_silent {publisher : ZeroMQPublisher} {event : PublisherEvent}
    (silent : event.signals (publisher.step event).2 = false) :
    (publisher.step event).1.subscriptions = publisher.subscriptions := by
  cases event with
  | removedSubscriber => cases silent
  | addedSubscriber remoteId subId =>
      simp only [step, addedSubscriber, establish, PublisherEvent.signals] at silent ⊢
      split_ifs at silent ⊢ <;> first | rfl | cases silent
  | frame data =>
      simp only [step, receiveFrame, PublisherEvent.signals] at silent ⊢
      cases found : subscribedBy data with
      | none => rfl
      | some subId =>
          simp only [found, addedSubscriber, establish] at silent ⊢
          split_ifs at silent ⊢ <;> first | rfl | cases silent

namespace Lobby

variable {Thread : Type} [DecidableEq Thread]

def init (greeter : Bool) : Lobby Thread := ⟨.init greeter, false, .new, fun _ => none⟩

/-- `_subscriptions.size()` -/
def size (lobby : Lobby Thread) : Nat := lobby.publisher.subscriptions.size

def move (lobby : Lobby Thread) (thread : Thread) (pubLock : Monitor) (waiter : Option Waiter) :
    Lobby Thread :=
  { lobby with pubLock := pubLock, waiter := Function.update lobby.waiter thread waiter }

def proceed (lobby : Lobby Thread) (thread : Thread) : Lobby Thread × List (Thread × Nat) :=
  match lobby.waiter thread with
  | none => (lobby, [])
  | some waiter =>
      let next := waiter.proceed lobby.pubLock lobby.size
      (lobby.move thread next.1 next.2, if next.2.isNone then [(thread, lobby.size)] else [])

/-- Whoever owes a signal still has the mutex. -/
def step (lobby : Lobby Thread) : LobbyEvent Thread -> Lobby Thread × List (Thread × Nat)
  | .publisher event =>
      if lobby.owed then (lobby, [])
      else
        let outcome := lobby.publisher.step event
        ({ lobby with publisher := outcome.1, owed := event.signals outcome.2 }, [])
  | .signal =>
      if lobby.owed then ({ lobby with owed := false, pubLock := lobby.pubLock.signal }, [])
      else (lobby, [])
  | .waitForSubscribers thread count =>
      match lobby.waiter thread with
      | none => (lobby.move thread lobby.pubLock (some ⟨count, .checking⟩), [])
      | some _ => (lobby, [])
  | .proceed thread => lobby.proceed thread

/-- A thread is at the monitor although its count is reached. -/
def Ready (lobby : Lobby Thread) (thread : Thread) : Prop :=
  Exists fun waiter : Waiter =>
    lobby.waiter thread = some waiter ∧ waiter.phase.waits = true ∧ waiter.count ≤ lobby.size

/-- Once a signal is no longer owed, a thread whose count is reached returns by steps of its own. -/
def Responsive (lobby : Lobby Thread) : Prop :=
  forall thread waiter, lobby.waiter thread = some waiter -> lobby.owed = false ->
    waiter.count ≤ lobby.size ->
    (run step lobby (List.replicate 3 (.proceed thread))).2 = [(thread, lobby.size)]

/-- While no signal is owed, nobody takes the last permit from another thread that could return
with it. -/
def Considerate (lobby : Lobby Thread) : LobbyEvent Thread -> Prop
  | .proceed thread => forall waiter, lobby.waiter thread = some waiter -> waiter.phase.waits = true ->
      lobby.owed = false -> lobby.pubLock.signaled = 1 -> forall other, other ≠ thread -> ¬ lobby.Ready other
  | _ => True

/-- Whoever could return has a permit to look at the table again, or will get one. -/
def Alert (lobby : Lobby Thread) : Prop :=
  forall thread, lobby.Ready thread -> lobby.owed = false -> lobby.pubLock.signaled ≠ 0

section

variable {lobby : Lobby Thread} {thread : Thread}

/-- What three steps of a thread come to. -/
theorem outputs_proceed {waiter : Waiter} (found : lobby.waiter thread = some waiter)
    (enough : waiter.count ≤ lobby.size) :
    (run step lobby (List.replicate 3 (.proceed thread))).2 =
      if waiter.phase.waits = true ∧ lobby.pubLock.signaled = 0 then [] else [(thread, lobby.size)] := by
  rcases waiter with ⟨count, phase⟩
  have fits : ¬ lobby.publisher.subscriptions.size < count := Nat.not_lt.mpr enough
  by_cases empty : lobby.pubLock.signaled = 0 <;> cases phase <;>
    simp [List.replicate, run, step, proceed, Waiter.proceed, found, move, size, fits, empty, Monitor.enter,
      Monitor.wake, WaitPhase.waits, Nat.pos_iff_ne_zero]

theorem responsive_iff_alert : lobby.Responsive <-> lobby.Alert := by
  constructor
  · intro responsive thread ⟨waiter, found, waits, enough⟩ free none
    have returned := responsive thread waiter found free enough
    rw [outputs_proceed found enough, if_pos ⟨waits, none⟩] at returned
    cases returned
  · intro alert thread waiter found free enough
    rw [outputs_proceed found enough, if_neg]
    rintro ⟨waits, none⟩
    exact alert thread ⟨waiter, found, waits, enough⟩ free none

/-- Another thread is where it was. -/
theorem ready_move_of_ne {other : Thread} (different : other ≠ thread) (pubLock : Monitor)
    (next : Option Waiter) : (lobby.move thread pubLock next).Ready other <-> lobby.Ready other := by
  simp only [Ready, move, size, Function.update_of_ne different]

theorem alert_proceed_iff (alert : lobby.Alert) (thread : Thread) :
    (lobby.proceed thread).1.Alert <-> lobby.Considerate (.proceed thread) := by
  cases found : lobby.waiter thread with
  | none =>
      rw [proceed, found]
      exact iff_of_true alert fun _ present => nomatch found.symm.trans present
  | some waiter =>
      obtain ⟨permits, still⟩ := waiter.proceed_spec lobby.pubLock lobby.size
      rw [proceed, found]
      constructor
      · intro after _ present waits free last other different ready
        cases found.symm.trans present
        refine after other ((ready_move_of_ne different _ _).mpr ready) free ?_
        exact permits.trans (by rw [if_pos waits, last])
      · intro considerate other ready free none
        by_cases same : other = thread
        · subst same
          obtain ⟨next, present, waits, enough⟩ := ready
          simp only [move, Function.update_self] at present
          have before := still next present waits enough
          exact alert other ⟨waiter, found, before.1, before.2.1⟩ free before.2.2
        · have before := (ready_move_of_ne same _ _).mp ready
          have left := alert other before free
          change (waiter.proceed lobby.pubLock lobby.size).1.signaled = 0 at none
          rw [permits] at none
          split at none
          next waits => exact considerate waiter found waits free (by omega) other same before
          next => exact left none

theorem alert_step_iff (alert : lobby.Alert) (event : LobbyEvent Thread) :
    (lobby.step event).1.Alert <-> lobby.Considerate event := by
  cases event with
  | proceed thread => exact alert_proceed_iff alert thread
  | signal =>
      refine iff_of_true ?_ trivial
      rw [step]
      split
      · intro _ _ _
        rw [Monitor.signaled_signal]
        exact Nat.one_ne_zero
      · exact alert
  | waitForSubscribers thread count =>
      refine iff_of_true ?_ trivial
      rw [step]
      split
      · intro other ready
        by_cases same : other = thread
        · subst same
          simp [Ready, move, WaitPhase.waits] at ready
        · exact alert other ((ready_move_of_ne same _ _).mp ready)
      · exact alert
  | publisher event =>
      refine iff_of_true ?_ trivial
      rw [step]
      split
      · exact alert
      next free =>
        intro thread ready silent
        simp only [Ready, size, ZeroMQPublisher.subscriptions_of_silent silent] at ready
        exact alert thread ready (Bool.not_eq_true _ ▸ free)

end

/-- In every interleaving: all threads whose count is reached can return whenever no signal is owed, if
and only if, while no signal is owed, nobody takes the last permit with another one of them at the
monitor. -/
theorem responsive_iff_of_run (greeter : Bool) (events : List (LobbyEvent Thread)) :
    Always step Responsive (init greeter : Lobby Thread) events <->
      Admits step Considerate (init greeter : Lobby Thread) events := by
  refine always_iff_admits (fun _ => True) Responsive Considerate (fun _ _ _ _ => trivial) ?_ trivial ?_
    (admits_true step (init greeter) events)
  · intro lobby event _ _ responsive
    rw [responsive_iff_alert]
    exact alert_step_iff (responsive_iff_alert.mp responsive) event
  · rw [responsive_iff_alert]
    rintro thread ⟨waiter, found, _⟩
    cases found

end Lobby

end Connection
end Umundo
