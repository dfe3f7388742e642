import Umundo.Foundation.CString
import Umundo.Foundation.Machine
import Umundo.Foundation.Replica
import Umundo.Foundation.Table

namespace Umundo
namespace Discovery

open Foundation
open Std

/-!
# Queries for nodes

A `NodeQuery` is told about nodes that were found and removed, and it tells its
listener.  It does so at once, or it collects what it is told in two sets and passes
them on in `notifyResultSet`, all removals before all finds.  Stubs are named by their
addresses, as in the sets of the source, and `uuid` is `getUUID`; several stubs may have
the same uuid.
-/

inductive Sighting where
  | found (node : Nat)
  | removed (node : Nat)

/-- A call of the listener. -/
inductive ListenerCall where
  | added (node : Nat)
  | changed (node : Nat)
  | removed (node : Nat)
deriving DecidableEq

structure NodeQuery where
  notifyImmediately : Bool
  nodes : Table CString Nat
  pendingRemovals : Keys Nat
  pendingFinds : Keys Nat

inductive QueryEvent where
  | sighting (sighting : Sighting)
  | notifyImmediately (notifyImmediately : Bool)
  | notifyResultSet

section

variable (uuid : Nat -> CString)

def Sighting.update : Sighting -> Update CString
  | found node => .add (uuid node)
  | removed node => .remove (uuid node)

/-- What a call says about the nodes that are present. -/
def ListenerCall.update : ListenerCall -> Option (Update CString)
  | added node => some (.add (uuid node))
  | changed _ => none
  | removed node => some (.remove (uuid node))

/-- The uuids that a listener was told to be there, and not to be gone since. -/
def presentAfter (present : CString -> Prop) (calls : List ListenerCall) : CString -> Prop :=
  replay present (calls.filterMap (ListenerCall.update uuid))

instance presentAfter.decidable (present : CString -> Prop) [DecidablePred present]
    (calls : List ListenerCall) : DecidablePred (presentAfter uuid present calls) :=
  inferInstanceAs (DecidablePred (replay present _))

namespace NodeQuery

/-- Pass a sighting on to the listener. -/
def notify (query : NodeQuery) : Sighting -> NodeQuery × List ListenerCall
  | .found node =>
      if uuid node ∈ query.nodes then (query, [.changed node])
      else ({ query with nodes := query.nodes.insert (uuid node) node }, [.added node])
  | .removed node => ({ query with nodes := query.nodes.erase (uuid node) }, [.removed node])

/-- `found` and `removed`. -/
def see (query : NodeQuery) (sighting : Sighting) : NodeQuery × List ListenerCall :=
  if query.notifyImmediately then query.notify uuid sighting
  else
    match sighting with
    | .found node => ({ query with pendingFinds := query.pendingFinds.insert node }, [])
    | .removed node => ({ query with pendingRemovals := query.pendingRemovals.insert node }, [])

/-- What is pending, in the order of the two loops. -/
def pending (query : NodeQuery) : List Sighting :=
  query.pendingRemovals.toList.map Sighting.removed ++ query.pendingFinds.toList.map Sighting.found

def notifyResultSet (query : NodeQuery) : NodeQuery × List ListenerCall :=
  let told := run (notify uuid) query query.pending
  ({ told.1 with pendingRemovals := ∅, pendingFinds := ∅ }, told.2)

def step (query : NodeQuery) : QueryEvent -> NodeQuery × List ListenerCall
  | .sighting sighting => query.see uuid sighting
  | .notifyImmediately flag => ({ query with notifyImmediately := flag }, [])
  | .notifyResultSet => query.notifyResultSet uuid

end NodeQuery

end

/-! ## What the query knows and what its listener was told -/

namespace NodeQuery

variable (uuid : Nat -> CString)

theorem mem_notify (query : NodeQuery) (sighting : Sighting) (name : CString) :
    name ∈ (query.notify uuid sighting).1.nodes <->
      (sighting.update uuid).apply (· ∈ query.nodes) name := by
  cases sighting with
  | found node =>
      by_cases known : uuid node ∈ query.nodes
      · simp only [notify, if_pos known, Sighting.update, Update.apply]
        exact ⟨.inr, fun either => either.elim (fun same => same ▸ known) id⟩
      · simp only [notify, if_neg known, Sighting.update, Update.apply, ExtTreeMap.mem_insert,
          LawfulEqCmp.compare_eq_iff_eq]
  | removed node =>
      simp only [notify, Sighting.update, Update.apply, ExtTreeMap.mem_erase, ne_eq,
        LawfulEqCmp.compare_eq_iff_eq]

theorem mem_run_notify (query : NodeQuery) (sightings : List Sighting) (name : CString) :
    name ∈ (run (notify uuid) query sightings).1.nodes <->
      replay (· ∈ query.nodes) (sightings.map (Sighting.update uuid)) name := by
  induction sightings generalizing query with
  | nil => exact Iff.rfl
  | cons sighting rest ih =>
      rw [run, ih, List.map_cons, replay_cons]
      exact replay_congr _ (query.mem_notify uuid sighting name)

theorem presentAfter_append (present : CString -> Prop) (first second : List ListenerCall)
    (name : CString) :
    presentAfter uuid present (first ++ second) name <->
      presentAfter uuid (presentAfter uuid present first) second name := by
  rw [presentAfter, List.filterMap_append, replay_append]
  rfl

/-- Once a name is removed, the listener agrees with the query about it.  Until then the
listener hears of a name only if the query did not know it. -/
theorem presentAfter_run_notify (query : NodeQuery) (present : CString -> Prop)
    (sightings : List Sighting) (name : CString) :
    presentAfter uuid present (run (notify uuid) query sightings).2 name <->
      (.remove name ∈ sightings.map (Sighting.update uuid) ∧
        name ∈ (run (notify uuid) query sightings).1.nodes) ∨
      (.remove name ∉ sightings.map (Sighting.update uuid) ∧
        (present name ∨ (name ∉ query.nodes ∧ .add name ∈ sightings.map (Sighting.update uuid)))) := by
  induction sightings generalizing query present with
  | nil => simp [run, presentAfter]
  | cons sighting rest ih =>
      rw [run, presentAfter_append, ih]
      cases sighting with
      | found node =>
          by_cases known : uuid node ∈ query.nodes
          · simp only [notify, if_pos known, presentAfter, List.filterMap_cons, ListenerCall.update,
              List.filterMap_nil, replay, List.map_cons, Sighting.update, List.mem_cons, reduceCtorEq,
              false_or, Update.add.injEq]
            grind
          · simp only [notify, if_neg known, presentAfter, List.filterMap_cons, ListenerCall.update,
              List.filterMap_nil, replay, List.map_cons, Sighting.update, List.mem_cons, reduceCtorEq,
              false_or, Update.add.injEq, Update.apply, ExtTreeMap.mem_insert,
              LawfulEqCmp.compare_eq_iff_eq]
            grind
      | removed node =>
          -- If this is the last removal of the name, both sides now depend on later finds alone.
          have last (kept : .remove name ∉ rest.map (Sighting.update uuid)) :=
            replay_of_remove_not_mem (· ∈ query.nodes.erase (uuid node)) _ kept
          have known := (query.notify uuid (.removed node)).1.mem_run_notify uuid rest name
          simp only [notify, presentAfter, List.filterMap_cons, ListenerCall.update,
            List.filterMap_nil, replay, List.map_cons, Sighting.update, List.mem_cons, reduceCtorEq,
            false_or, Update.remove.injEq, Update.apply, ExtTreeMap.mem_erase] at last known ⊢
          grind

/-! ## Batches -/

/-- A query at which nothing is pending. -/
def holding (nodes : Table CString Nat) : NodeQuery where
  notifyImmediately := true
  nodes
  pendingRemovals := ∅
  pendingFinds := ∅

/-- Deliver sightings one by one. -/
def immediate (uuid : Nat -> CString) (nodes : Table CString Nat) (sightings : List Sighting) :
    NodeQuery × List ListenerCall :=
  run (step uuid) (holding nodes) (.notifyImmediately true :: sightings.map .sighting)

/-- Deliver sightings as one batch. -/
def batched (uuid : Nat -> CString) (nodes : Table CString Nat) (sightings : List Sighting) :
    NodeQuery × List ListenerCall :=
  run (step uuid) (holding nodes)
    (.notifyImmediately false :: sightings.map .sighting ++ [.notifyResultSet])

theorem notify_notifyImmediately (query : NodeQuery) (sighting : Sighting) :
    (query.notify uuid sighting).1.notifyImmediately = query.notifyImmediately := by
  cases sighting with
  | found node => by_cases known : uuid node ∈ query.nodes <;> simp only [notify, known, if_true, if_false]
  | removed node => rfl

theorem run_immediate (query : NodeQuery) (immediately : query.notifyImmediately = true)
    (sightings : List Sighting) :
    run (step uuid) query (sightings.map .sighting) = run (notify uuid) query sightings := by
  induction sightings generalizing query with
  | nil => rfl
  | cons sighting rest ih =>
      have now : step uuid query (.sighting sighting) = query.notify uuid sighting := by
        simp only [step, see, immediately, if_true]
      have still := (query.notify_notifyImmediately uuid sighting).trans immediately
      rw [List.map_cons, run, now, ih _ still, run]

/-- Collecting sightings changes the pending sets and calls nobody. -/
theorem run_collecting (query : NodeQuery) (waiting : query.notifyImmediately = false)
    (sightings : List Sighting) :
    Exists fun removals => Exists fun finds =>
      run (step uuid) query (sightings.map .sighting) =
        ({ query with pendingRemovals := removals, pendingFinds := finds }, []) ∧
      (forall node, node ∈ removals <-> node ∈ query.pendingRemovals ∨ .removed node ∈ sightings) ∧
      (forall node, node ∈ finds <-> node ∈ query.pendingFinds ∨ .found node ∈ sightings) := by
  induction sightings generalizing query with
  | nil => exact ⟨query.pendingRemovals, query.pendingFinds, rfl, by simp, by simp⟩
  | cons sighting rest ih =>
      cases sighting with
      | found node =>
          have now : step uuid query (.sighting (.found node)) =
              ({ query with pendingFinds := query.pendingFinds.insert node }, []) := by
            simp only [step, see, waiting, Bool.false_eq_true, if_false]
          obtain ⟨removals, finds, rest_eq, removed, found⟩ :=
            ih { query with pendingFinds := query.pendingFinds.insert node } waiting
          refine ⟨removals, finds, by rw [List.map_cons, run, now, rest_eq]; rfl, ?_, ?_⟩
          · simpa using removed
          · intro other
            rw [found, ExtTreeSet.mem_insert, LawfulEqCmp.compare_eq_iff_eq, List.mem_cons,
              Sighting.found.injEq, eq_comm, or_assoc, or_left_comm]
      | removed node =>
          have now : step uuid query (.sighting (.removed node)) =
              ({ query with pendingRemovals := query.pendingRemovals.insert node }, []) := by
            simp only [step, see, waiting, Bool.false_eq_true, if_false]
          obtain ⟨removals, finds, rest_eq, removed, found⟩ :=
            ih { query with pendingRemovals := query.pendingRemovals.insert node } waiting
          refine ⟨removals, finds, by rw [List.map_cons, run, now, rest_eq]; rfl, ?_, ?_⟩
          · intro other
            rw [removed, ExtTreeSet.mem_insert, LawfulEqCmp.compare_eq_iff_eq, List.mem_cons,
              Sighting.removed.injEq, eq_comm, or_assoc, or_left_comm]
          · simpa using found

/-- A batch is passed on like a sequence of the same sightings, all removals first. -/
theorem batched_eq (nodes : Table CString Nat) (sightings : List Sighting) :
    Exists fun query : NodeQuery => query.nodes = nodes ∧
      (forall sighting, sighting ∈ query.pending <-> sighting ∈ sightings) ∧
      batched uuid nodes sightings = query.notifyResultSet uuid := by
  obtain ⟨removals, finds, collected, removed, found⟩ :=
    run_collecting uuid { holding nodes with notifyImmediately := false } rfl sightings
  refine ⟨{ holding nodes with
      notifyImmediately := false, pendingRemovals := removals, pendingFinds := finds }, rfl, ?_, ?_⟩
  · intro sighting
    cases sighting with
    | found node => simp [pending, found, holding]
    | removed node => simp [pending, removed, holding]
  · have batch : batched uuid nodes sightings =
        run (step uuid) { holding nodes with notifyImmediately := false }
          (sightings.map .sighting ++ [.notifyResultSet]) := rfl
    rw [batch, run_append, collected]
    simp only [run, step, List.nil_append, List.append_nil]

theorem map_update_pending (query : NodeQuery) :
    query.pending.map (Sighting.update uuid) =
      (query.pendingRemovals.toList.map uuid).map .remove ++
        (query.pendingFinds.toList.map uuid).map .add := by
  simp only [pending, List.map_append, List.map_map]
  rfl

/-- Rearranged sightings tell the listener the same, if the query ends with the same nodes. -/
theorem presentAfter_congr {left right : NodeQuery} (same : left.nodes = right.nodes)
    {first second : List Sighting} (rearranged : forall sighting, sighting ∈ first <-> sighting ∈ second)
    (present : CString -> Prop) {name : CString}
    (known : name ∈ (run (notify uuid) left first).1.nodes <->
      name ∈ (run (notify uuid) right second).1.nodes) :
    presentAfter uuid present (run (notify uuid) left first).2 name <->
      presentAfter uuid present (run (notify uuid) right second).2 name := by
  rw [presentAfter_run_notify, presentAfter_run_notify, known, same]
  simp only [List.mem_map, rearranged]

/-- The query knows the same uuids, and its listener was told of the same uuids, whether
sightings are delivered one by one or as a batch.  That is so exactly if no uuid that is
found is removed after it was last found. -/
theorem batched_agrees_iff (nodes : Table CString Nat) (present : CString -> Prop)
    (sightings : List Sighting) :
    (forall name,
      (name ∈ (immediate uuid nodes sightings).1.nodes <->
        name ∈ (batched uuid nodes sightings).1.nodes) ∧
      (presentAfter uuid present (immediate uuid nodes sightings).2 name <->
        presentAfter uuid present (batched uuid nodes sightings).2 name)) <->
    Settled (sightings.map (Sighting.update uuid)) := by
  obtain ⟨query, same, collected, batch⟩ := batched_eq uuid nodes sightings
  have single : immediate uuid nodes sightings = run (notify uuid) (holding nodes) sightings :=
    run_immediate uuid (holding nodes) rfl sightings
  have updates (update : Update CString) : update ∈ sightings.map (Sighting.update uuid) <->
      update ∈ (query.pendingRemovals.toList.map uuid).map .remove ++
        (query.pendingFinds.toList.map uuid).map .add := by
    rw [← map_update_pending]
    simp only [List.mem_map, collected]
  have settled_iff := replay_grouped_iff_settled (· ∈ nodes)
    (query.pendingRemovals.toList.map uuid) (query.pendingFinds.toList.map uuid)
    (fun name => (updates (.remove name)).trans (by simp))
    (fun name => (updates (.add name)).trans (by simp))
  have known (name : CString) :
      (name ∈ (immediate uuid nodes sightings).1.nodes <->
        name ∈ (batched uuid nodes sightings).1.nodes) <->
      (replay (· ∈ nodes) (sightings.map (Sighting.update uuid)) name <->
        replay (· ∈ nodes) ((query.pendingRemovals.toList.map uuid).map .remove ++
          (query.pendingFinds.toList.map uuid).map .add) name) := by
    have first := (holding nodes).mem_run_notify uuid sightings name
    have second := query.mem_run_notify uuid query.pending name
    rw [map_update_pending, same] at second
    rw [single, batch]
    exact iff_congr first second
  rw [← settled_iff]
  constructor
  · exact fun agree name => (known name).mp (agree name).1
  · intro replayed name
    have kept := (known name).mpr (replayed name)
    refine ⟨kept, ?_⟩
    rw [single, batch] at kept ⊢
    exact presentAfter_congr uuid same.symm (fun sighting => (collected sighting).symm) present kept

/-- A node that comes and goes within one batch stays in the query, and the listener takes
it for present. -/
theorem batched_found_removed :
    let uuid := fun _ : Nat => CString.ofBytes [110]
    let sightings := [Sighting.found 1, Sighting.removed 1]
    uuid 1 ∉ (immediate uuid ∅ sightings).1.nodes ∧ uuid 1 ∈ (batched uuid ∅ sightings).1.nodes ∧
      ¬ presentAfter uuid (fun _ => False) (immediate uuid ∅ sightings).2 (uuid 1) ∧
      presentAfter uuid (fun _ => False) (batched uuid ∅ sightings).2 (uuid 1) := by
  decide +kernel

end NodeQuery

end Discovery
end Umundo
