import Mathlib.Tactic.Common

namespace Umundo
namespace Thread

/-!
# Monitors

A monitor counts the threads that wait and the permits to pass.  A signal that
finds no waiter leaves one permit behind, so that a thread which comes later
passes at once.  Waiting is split into the two places where a thread can be: on
its way into the monitor, and blocked in it until it finds a permit.

A thread waits under the monitor's own mutex, but a signal assigns `_signaled` before it
locks that mutex.  Each operation is taken as one atomic step.
-/

/-- `_waiters` and `_signaled`. -/
structure Monitor where
  waiters : Nat
  signaled : Nat
deriving DecidableEq

namespace Monitor

def new : Monitor := ⟨0, 0⟩

/-- `signal(nrThreads)`: if we are signalled prior to waiting, allow the first
thread to pass. -/
def signalThreads (monitor : Monitor) (nrThreads : Nat) : Monitor :=
  if 0 < monitor.waiters then
    { monitor with signaled := if monitor.waiters < nrThreads then monitor.waiters else nrThreads }
  else { monitor with signaled := 1 }

def signal (monitor : Monitor) : Monitor := monitor.signalThreads 1

/-- The first part of `wait`: a thread passes, or it joins the waiters. -/
def enter (monitor : Monitor) : Monitor × Bool :=
  if 0 < monitor.signaled then ({ monitor with signaled := monitor.signaled - 1 }, true)
  else ({ monitor with waiters := monitor.waiters + 1 }, false)

/-- The second part of `wait`: a waiter passes if it finds a permit. -/
def wake (monitor : Monitor) : Option Monitor :=
  if 0 < monitor.signaled then some ⟨monitor.waiters - 1, monitor.signaled - 1⟩ else none

/-- A signal always leaves a permit, whether or not a thread waits. -/
theorem signaled_signal (monitor : Monitor) : monitor.signal.signaled = 1 := by
  rw [signal, signalThreads]
  by_cases waiting : 0 < monitor.waiters
  · rw [if_pos waiting]
    exact if_neg (by omega)
  · rw [if_neg waiting]

end Monitor

end Thread
end Umundo
