import Mathlib.Algebra.GroupWithZero.Nat
import Mathlib.Data.List.Induction
import Umundo.Foundation.Machine
import Umundo.Foundation.Table
import Umundo.Thread.Monitor

namespace Umundo
namespace Thread

open Foundation Std

/-!
# Threads at a monitor

A monitor does not know its threads, it only counts them.  Here they have numbers, so that
one can ask who passes.  A thread that calls `wait` passes at once if there is a permit,
and is blocked otherwise.  A blocked thread resumes at any time and passes if there is a
permit.  If it waits for a limited time it may give up instead, and then it takes no permit
even if there is one.

A signal sets the permits, whatever was left of earlier ones, so only the last of several
signals counts.  The permits of a broadcast are for anyone who comes, also for threads that
were not there.
-/

namespace Monitor

def broadcast (monitor : Monitor) : Monitor := monitor.signalThreads monitor.waiters

/-- The second part of a timed `wait`, when the time is over. -/
def timeout (monitor : Monitor) : Monitor := { monitor with waiters := monitor.waiters - 1 }

theorem waiters_signalThreads (monitor : Monitor) (nrThreads : Nat) :
    (monitor.signalThreads nrThreads).waiters = monitor.waiters := by
  rw [signalThreads]
  split <;> rfl

theorem signaled_signalThreads {monitor : Monitor} (waiting : 0 < monitor.waiters) (nrThreads : Nat) :
    (monitor.signalThreads nrThreads).signaled = min monitor.waiters nrThreads := by
  rw [signalThreads, if_pos waiting]
  dsimp only
  split <;> omega

end Monitor

/-- A monitor with the threads that are blocked in it, and whether each waits for a limited
time. -/
structure Waiting where
  monitor : Monitor
  blocked : Table Nat Bool

inductive MonitorEvent where
  | signal (nrThreads : Nat)
  | broadcast
  /-- A thread calls `wait(ms)`. -/
  | wait (thread ms : Nat)
  /-- A blocked thread looks for a permit. -/
  | resume (thread : Nat)
  | timeout (thread : Nat)

inductive MonitorResult where
  | passed (thread : Nat)
  | timedOut (thread : Nat)
deriving DecidableEq

namespace Waiting

def init : Waiting := ⟨.new, ∅⟩

def wait (waiting : Waiting) (thread ms : Nat) : Waiting × List MonitorResult :=
  match waiting.monitor.enter with
  | (monitor, true) => ({ waiting with monitor := monitor }, [.passed thread])
  | (monitor, false) => (⟨monitor, waiting.blocked.insert thread (ms ≠ 0)⟩, [])

/-- Nothing happens without a permit. -/
def resume (waiting : Waiting) (thread : Nat) : Waiting × List MonitorResult :=
  match waiting.monitor.wake with
  | some monitor => (⟨monitor, waiting.blocked.erase thread⟩, [.passed thread])
  | none => (waiting, [])

/-- A thread that is blocked does not call `wait`, and no other one can resume.  Only those
that wait for a limited time give up. -/
def step (waiting : Waiting) : MonitorEvent -> Waiting × List MonitorResult
  | .signal nrThreads => ({ waiting with monitor := waiting.monitor.signalThreads nrThreads }, [])
  | .broadcast => ({ waiting with monitor := waiting.monitor.broadcast }, [])
  | .wait thread ms => if thread ∈ waiting.blocked then (waiting, []) else waiting.wait thread ms
  | .resume thread => if thread ∈ waiting.blocked then waiting.resume thread else (waiting, [])
  | .timeout thread =>
      if waiting.blocked[thread]? = some true then
        (⟨waiting.monitor.timeout, waiting.blocked.erase thread⟩, [.timedOut thread])
      else (waiting, [])

/-- The monitor counts the threads that are blocked. -/
def Counted (waiting : Waiting) : Prop := waiting.monitor.waiters = waiting.blocked.size

section

variable {waiting : Waiting}

theorem wait_of_permit (permitted : 0 < waiting.monitor.signaled) (thread ms : Nat) :
    waiting.wait thread ms =
      (⟨⟨waiting.monitor.waiters, waiting.monitor.signaled - 1⟩, waiting.blocked⟩, [.passed thread]) := by
  rw [wait, Monitor.enter, if_pos permitted]

theorem wait_without_permit (unpermitted : ¬ 0 < waiting.monitor.signaled) (thread ms : Nat) :
    waiting.wait thread ms =
      (⟨⟨waiting.monitor.waiters + 1, waiting.monitor.signaled⟩,
        waiting.blocked.insert thread (ms ≠ 0)⟩, []) := by
  rw [wait, Monitor.enter, if_neg unpermitted]

/-- Whoever comes takes a permit, if there is one. -/
theorem signaled_wait (thread ms : Nat) :
    (waiting.wait thread ms).1.monitor.signaled = waiting.monitor.signaled - 1 := by
  by_cases permitted : 0 < waiting.monitor.signaled
  · rw [wait_of_permit permitted]
  · rw [wait_without_permit permitted]
    dsimp only
    omega

theorem resume_of_permit (permitted : 0 < waiting.monitor.signaled) (thread : Nat) :
    waiting.resume thread =
      (⟨⟨waiting.monitor.waiters - 1, waiting.monitor.signaled - 1⟩, waiting.blocked.erase thread⟩,
        [.passed thread]) := by
  rw [resume, Monitor.wake, if_pos permitted]

theorem resume_without_permit (unpermitted : ¬ 0 < waiting.monitor.signaled) (thread : Nat) :
    waiting.resume thread = (waiting, []) := by
  rw [resume, Monitor.wake, if_neg unpermitted]

theorem size_erase {thread : Nat} (member : thread ∈ waiting.blocked) :
    (waiting.blocked.erase thread).size = waiting.blocked.size - 1 := by
  rw [ExtTreeMap.size_erase, if_pos (ExtTreeMap.mem_iff_contains.mp member)]

theorem Counted.step (counted : waiting.Counted) (event : MonitorEvent) :
    (waiting.step event).1.Counted := by
  rw [Counted] at counted
  cases event with
  | signal nrThreads => exact (Monitor.waiters_signalThreads _ _).trans counted
  | broadcast => exact (Monitor.waiters_signalThreads _ _).trans counted
  | wait thread ms =>
      rw [Waiting.step]
      split
      next => exact counted
      next free =>
        by_cases permitted : 0 < waiting.monitor.signaled
        · rw [wait_of_permit permitted]
          exact counted
        · rw [wait_without_permit permitted, Counted, ExtTreeMap.size_insert,
            if_neg fun held => free (ExtTreeMap.mem_iff_contains.mpr held), counted]
  | resume thread =>
      rw [Waiting.step]
      split
      next member =>
        by_cases permitted : 0 < waiting.monitor.signaled
        · rw [resume_of_permit permitted, Counted, size_erase member, counted]
        · rw [resume_without_permit permitted]
          exact counted
      next => exact counted
  | timeout thread =>
      rw [Waiting.step]
      split
      next limited => rw [Counted, size_erase (Table.mem_of_getElem? limited), Monitor.timeout, counted]
      next => exact counted

end

/-- The state after some events. -/
def after (events : List MonitorEvent) : Waiting := (run step init events).1

theorem counted_after (events : List MonitorEvent) : (after events).Counted :=
  invariant_of_run Counted (fun _ event counted _ => counted.step event) (by rfl)
    (admits_true step init events)

/-! ## Who passes -/

/-- Some threads resume one after the other. -/
def resumes (waiting : Waiting) (threads : List Nat) : List MonitorResult :=
  (run step waiting (threads.map .resume)).2

/-- As many blocked threads pass as there are permits. -/
theorem resumes_eq {waiting : Waiting} {threads : List Nat} (nodup : threads.Nodup)
    (blocked : forall thread, thread ∈ threads -> thread ∈ waiting.blocked) :
    waiting.resumes threads = (threads.take waiting.monitor.signaled).map .passed := by
  induction threads generalizing waiting with
  | nil => simp [resumes, run]
  | cons thread rest ih =>
      obtain ⟨single, distinct⟩ := List.nodup_cons.mp nodup
      have later (other : Nat) (member : other ∈ rest) : other ∈ waiting.blocked :=
        blocked other (List.mem_cons_of_mem thread member)
      have unfolded : waiting.resumes (thread :: rest) =
          (waiting.resume thread).2 ++ (waiting.resume thread).1.resumes rest := by
        rw [resumes, List.map_cons, run, step, if_pos (blocked thread List.mem_cons_self), resumes]
      rw [unfolded]
      by_cases permitted : 0 < waiting.monitor.signaled
      · obtain ⟨count, permits⟩ := Nat.exists_eq_succ_of_ne_zero (Nat.pos_iff_ne_zero.mp permitted)
        rw [resume_of_permit permitted, ih distinct, permits, List.take_succ_cons]
        · rfl
        · intro other member
          refine ExtTreeMap.mem_erase.mpr ⟨fun same => ?_, later other member⟩
          exact single (LawfulEqCmp.eq_of_compare same ▸ member)
      · rw [resume_without_permit permitted, ih distinct later, Nat.eq_zero_of_not_pos permitted,
          List.take_zero, List.take_zero]
        rfl

/-- All of some blocked threads pass exactly if there are permits for them. -/
theorem resumes_eq_iff {waiting : Waiting} {threads : List Nat} (nodup : threads.Nodup)
    (blocked : forall thread, thread ∈ threads -> thread ∈ waiting.blocked) :
    waiting.resumes threads = threads.map .passed <-> threads.length ≤ waiting.monitor.signaled := by
  rw [resumes_eq nodup blocked]
  constructor
  · intro all
    have lengths := congrArg List.length all
    rw [List.length_map, List.length_map, List.length_take] at lengths
    omega
  · intro enough
    rw [List.take_of_length_le enough]

/-! ## Signals -/

/-- Several signals before any thread resumes. -/
def signals (waiting : Waiting) (numbers : List Nat) : Waiting :=
  (run step waiting (numbers.map .signal)).1

theorem signals_append (waiting : Waiting) (numbers : List Nat) (last : Nat) :
    waiting.signals (numbers ++ [last]) = ((waiting.signals numbers).step (.signal last)).1 := by
  rw [signals, List.map_append, run_append]
  rfl

/-- Signals block and release nobody. -/
theorem blocked_signals (waiting : Waiting) (numbers : List Nat) :
    (waiting.signals numbers).blocked = waiting.blocked ∧
      (waiting.signals numbers).monitor.waiters = waiting.monitor.waiters := by
  induction numbers using List.reverseRecOn with
  | nil => exact ⟨rfl, rfl⟩
  | append_singleton numbers last ih =>
      rw [signals_append]
      exact ⟨ih.1, (Monitor.waiters_signalThreads _ _).trans ih.2⟩

/-- Only the last signal counts. -/
theorem signaled_signals {waiting : Waiting} (occupied : 0 < waiting.monitor.waiters) (numbers : List Nat)
    (last : Nat) :
    (waiting.signals (numbers ++ [last])).monitor.signaled = min waiting.monitor.waiters last := by
  have waiters := (waiting.blocked_signals numbers).2
  rw [signals_append, step, Monitor.signaled_signalThreads (waiters ▸ occupied), waiters]

/-- Nothing of some signals and earlier permits is lost. -/
structure Kept (waiting : Waiting) (numbers : List Nat) : Prop where
  permits : (waiting.signals numbers).monitor.signaled =
    min waiting.monitor.waiters (waiting.monitor.signaled + numbers.sum)
  /-- exactly that many of the blocked threads pass -/
  pass : forall threads : List Nat, threads.Nodup ->
    (forall thread, thread ∈ threads -> thread ∈ waiting.blocked) ->
    ((waiting.signals numbers).resumes threads = threads.map .passed <->
      threads.length ≤ min waiting.monitor.waiters (waiting.monitor.signaled + numbers.sum))

/-- The last signal is for all threads, or there is nothing else to count. -/
def Outweighs (waiting : Waiting) (numbers : List Nat) : Prop :=
  match numbers.getLast? with
  | none => waiting.monitor.signaled ≤ waiting.monitor.waiters
  | some last => waiting.monitor.waiters ≤ last ∨
      waiting.monitor.signaled + numbers.dropLast.sum = 0

theorem kept_iff {waiting : Waiting} (occupied : 0 < waiting.monitor.waiters) (numbers : List Nat) :
    waiting.Kept numbers <-> waiting.Outweighs numbers := by
  have permits : (waiting.signals numbers).monitor.signaled =
      min waiting.monitor.waiters (waiting.monitor.signaled + numbers.sum) <->
        waiting.Outweighs numbers := by
    induction numbers using List.reverseRecOn with
    | nil =>
        have start : waiting.signals [] = waiting := rfl
        rw [start, Outweighs, List.getLast?_nil, List.sum_nil]
        omega
    | append_singleton numbers last _ =>
        rw [signaled_signals occupied, Outweighs, List.getLast?_concat, List.dropLast_concat,
          List.sum_append, List.sum_singleton]
        omega
  rw [← permits]
  refine ⟨Kept.permits, fun same => ⟨same, fun threads nodup blocked => ?_⟩⟩
  rw [← same]
  refine resumes_eq_iff nodup fun thread member => ?_
  rw [(waiting.blocked_signals numbers).1]
  exact blocked thread member

/-! ## Broadcasts -/

/-- Some threads call `wait`. -/
def arrivals (waiting : Waiting) (newcomers : List (Nat × Nat)) : Waiting :=
  (run step waiting (newcomers.map fun newcomer => .wait newcomer.1 newcomer.2)).1

theorem arrivals_cons (waiting : Waiting) (newcomer : Nat × Nat) (rest : List (Nat × Nat)) :
    waiting.arrivals (newcomer :: rest) = (waiting.step (.wait newcomer.1 newcomer.2)).1.arrivals rest := rfl

/-- Nobody is released by others who come. -/
theorem mem_arrivals {waiting : Waiting} {thread : Nat} (member : thread ∈ waiting.blocked)
    (newcomers : List (Nat × Nat)) : thread ∈ (waiting.arrivals newcomers).blocked := by
  induction newcomers generalizing waiting with
  | nil => exact member
  | cons newcomer rest ih =>
      rw [arrivals_cons]
      refine ih ?_
      rw [step]
      split
      next => exact member
      next =>
        by_cases permitted : 0 < waiting.monitor.signaled
        · rw [wait_of_permit permitted]
          exact member
        · rw [wait_without_permit permitted]
          exact ExtTreeMap.mem_insert.mpr (.inr member)

/-- Those who come first leave one permit less. -/
theorem signaled_arrivals_le {waiting : Waiting} {newcomer : Nat × Nat}
    (other : newcomer.1 ∉ waiting.blocked) (rest : List (Nat × Nat)) :
    (waiting.arrivals (newcomer :: rest)).monitor.signaled ≤ waiting.monitor.signaled - 1 := by
  have kept (waiting : Waiting) (newcomers : List (Nat × Nat)) :
      (waiting.arrivals newcomers).monitor.signaled ≤ waiting.monitor.signaled := by
    induction newcomers generalizing waiting with
    | nil => exact Nat.le_refl _
    | cons newcomer rest ih =>
        rw [arrivals_cons]
        refine Nat.le_trans (ih _) ?_
        rw [step]
        split
        next => exact Nat.le_refl _
        next => exact Nat.le_trans (Nat.le_of_eq (signaled_wait _ _)) (Nat.sub_le _ _)
  rw [arrivals_cons]
  refine Nat.le_trans (kept _ rest) ?_
  rw [step, if_neg other]
  exact Nat.le_of_eq (signaled_wait _ _)

/-- The threads that are blocked at a broadcast all pass, in any order, after others have
called `wait`. -/
def Released (waiting : Waiting) (newcomers : List (Nat × Nat)) : Prop :=
  forall threads : List Nat, threads.Perm waiting.blocked.keys ->
    ((waiting.step .broadcast).1.arrivals newcomers).resumes threads = threads.map .passed

/-- Somebody who comes after a broadcast takes the place of a blocked thread. -/
theorem released_iff {waiting : Waiting} (counted : waiting.Counted)
    (occupied : 0 < waiting.monitor.waiters) {newcomers : List (Nat × Nat)}
    (others : forall newcomer, newcomer ∈ newcomers -> newcomer.1 ∉ waiting.blocked) :
    waiting.Released newcomers <-> newcomers = [] := by
  have permits : (waiting.step .broadcast).1.monitor.signaled = waiting.monitor.waiters :=
    (Monitor.signaled_signalThreads occupied _).trans (Nat.min_self _)
  have pass {threads : List Nat} (all : threads.Perm waiting.blocked.keys) :
      ((waiting.step .broadcast).1.arrivals newcomers).resumes threads = threads.map .passed <->
        waiting.monitor.waiters ≤
          ((waiting.step .broadcast).1.arrivals newcomers).monitor.signaled := by
    rw [resumes_eq_iff, all.length_eq, ExtTreeMap.length_keys, ← counted]
    · exact all.nodup_iff.mpr (Table.nodup_keys _)
    · intro thread member
      have member : thread ∈ (waiting.step .broadcast).1.blocked :=
        ExtTreeMap.mem_keys.mp (all.mem_iff.mp member)
      exact mem_arrivals member newcomers
  cases newcomers with
  | nil =>
      refine iff_of_true (fun threads all => (pass all).mpr ?_) rfl
      exact Nat.le_of_eq permits.symm
  | cons newcomer rest =>
      refine iff_of_false (fun released => ?_) (List.cons_ne_nil _ _)
      have enough := (pass (.refl _)).mp (released _ (.refl _))
      have fewer := @signaled_arrivals_le (waiting.step .broadcast).1 newcomer
        (others newcomer List.mem_cons_self) rest
      omega

/-- In every state that is reached while threads are blocked, some signals are all kept
exactly if the last one is for all threads or there is nothing else to count, and a
broadcast releases all threads exactly if nobody else calls `wait` before they resume. -/
theorem signals_kept_iff_of_run (events : List MonitorEvent)
    (occupied : 0 < (after events).monitor.waiters) :
    (forall numbers : List Nat, (after events).Kept numbers <-> (after events).Outweighs numbers) ∧
      (forall newcomers : List (Nat × Nat),
        (forall newcomer, newcomer ∈ newcomers -> newcomer.1 ∉ (after events).blocked) ->
        ((after events).Released newcomers <-> newcomers = [])) :=
  ⟨fun numbers => kept_iff occupied numbers,
    fun _ others => released_iff (counted_after events) occupied others⟩

/-- Two threads are blocked, and one signal is for two threads. -/
theorem signals_kept_iff_of_run_pair :
    let waiting := after [.wait 1 0, .wait 2 15]
    0 < waiting.monitor.waiters ∧ waiting.Kept [2] ∧ waiting.Released [] := by
  intro waiting
  have occupied : 0 < waiting.monitor.waiters := by decide +kernel
  have exact_here := signals_kept_iff_of_run [.wait 1 0, .wait 2 15] occupied
  have enough : waiting.Outweighs [2] := .inl (by decide +kernel)
  exact ⟨occupied, (exact_here.1 [2]).mpr enough, (exact_here.2 [] (by simp)).mpr rfl⟩

/-- Two threads are blocked.  Two signals let one of them pass, and after a broadcast a
third thread passes and one of the two does not. -/
theorem signal_lost :
    let waiting := after [.wait 1 0, .wait 2 0]
    waiting.monitor = ⟨2, 0⟩ ∧ (waiting.signals [1, 1]).monitor = ⟨2, 1⟩ ∧ ¬ waiting.Kept [1, 1] ∧
      (run step waiting [.broadcast, .wait 3 0, .resume 1, .resume 2]).2 = [.passed 3, .passed 1] ∧
      ¬ waiting.Released [(3, 0)] := by
  intro waiting
  have permits : (waiting.signals [1, 1]).monitor = ⟨2, 1⟩ := by decide +kernel
  have pair : waiting.monitor = ⟨2, 0⟩ := by decide +kernel
  have keys : waiting.blocked.keys = [1, 2] := by decide +kernel
  refine ⟨pair, permits, fun kept => ?_, by decide +kernel, fun released => ?_⟩
  · have all := kept.permits
    rw [permits, pair] at all
    exact absurd all (by decide)
  · have all := released [1, 2] (keys ▸ .refl _)
    exact absurd all (by decide +kernel)

end Waiting

end Thread
end Umundo
