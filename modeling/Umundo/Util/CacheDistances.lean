import Mathlib.Order.Lattice.Nat
import Mathlib.Data.List.ReduceOption
import Umundo.Foundation.Relaxation
import Umundo.Util.CacheInvariant

namespace Umundo
namespace Util

open Foundation Std

/-!
# The distances of a cache

The distance of an object is the number of items that one enters on a cheapest way from an item
that is pointed to.  Proxies cost nothing, so there are cycles that cost nothing.  Wherever
pointers are, distances are computed in finitely many steps, and the order of the visits makes
no difference.

A distance is an `int`, and the greatest `int` is the distance where no pointer leads.  Every cost of
a cheapest way is less than that as long as there are fewer than `2 ^ 31` objects.
-/

theorem CacheNode.arrive_succ (node : CacheNode) (distance : Nat) :
    node.arrive (distance + 1) = distance + node.cost := by
  cases node <;> rfl

theorem CacheNode.cost_le_one (node : CacheNode) : node.cost ≤ 1 := by
  cases node with
  | item => exact Nat.le_refl 1
  | proxy => exact Nat.zero_le 1

namespace StructuredCache

/-- What the ways from the items that are pointed to cost. -/
def costs (cache : StructuredCache) (node : CacheNode) : Set Nat :=
  {total | Exists fun handle : Nat => Exists fun item : Nat => handle ∈ cache.cachePointers ∧
    cache.links.pointers[handle]? = some item ∧ Path cache.links.Next CacheNode.cost (.item item) node total}

/-- The distance of an object: what the cheapest way costs, at most the greatest `int`. -/
noncomputable def shortest (cache : StructuredCache) (node : CacheNode) : Nat :=
  sInf (insert maxInt (cache.costs node))

theorem shortest_mem (cache : StructuredCache) (node : CacheNode) :
    cache.shortest node ∈ insert maxInt (cache.costs node) :=
  Nat.sInf_mem (Set.insert_nonempty _ _)

theorem shortest_le (cache : StructuredCache) {node : CacheNode} {cost : Nat} (way : cost ∈ cache.costs node) :
    cache.shortest node ≤ cost :=
  Nat.sInf_le (.inr way)

end StructuredCache

/-! ## Visits in any order -/

namespace NBandCache

variable {cache : NBandCache} {order : VisitOrder}

/-- The objects that are visited from an object, without those that are null. -/
def visits (cache : NBandCache) (order : VisitOrder) (node : CacheNode) : Option (List CacheNode) :=
  (cache.getNext node).map fun next => (order.nodes next).reduceOption

theorem leads_visits (cache : NBandCache) (order : VisitOrder) : Leads (cache.visits order) = cache.Next := by
  funext node next
  refine propext ⟨?_, ?_⟩
  · rintro ⟨_, there, listed⟩
    obtain ⟨nodes, found, rfl⟩ := Option.map_eq_some_iff.mp there
    exact ⟨nodes, found, (order.mem_nodes _ _).mp (List.reduceOption_mem_iff.mp listed)⟩
  · rintro ⟨nodes, found, listed⟩
    refine ⟨(order.nodes nodes).reduceOption, by rw [visits, found, Option.map_some], ?_⟩
    exact List.reduceOption_mem_iff.mpr ((order.mem_nodes _ _).mpr listed)

/-- A loop that skips what is null. -/
theorem foldlM_reduceOption {Item State : Type} {skip : State -> Option Item -> Option State}
    {body : State -> Item -> Option State} (null : forall state, skip state none = some state)
    (there : forall state item, skip state (some item) = body state item) (items : List (Option Item))
    (state : State) : items.foldlM skip state = items.reduceOption.foldlM body state := by
  induction items generalizing state with
  | nil => rfl
  | cons entry rest ih =>
      rw [List.foldlM_cons]
      cases entry with
      | none =>
          rw [null, List.reduceOption_cons_of_none]
          exact ih state
      | some item =>
          rw [there, List.reduceOption_cons_of_some, List.foldlM_cons]
          exact congrArg (Option.bind (body state item)) (funext ih)

theorem propagateDistance_eq (depth : Nat) (distances : CacheNode -> Nat) (node : CacheNode) (distance : Nat) :
    cache.propagateDistance order depth distances node distance =
      relax (cache.visits order) CacheNode.cost depth distances node (node.arrive distance) := by
  induction depth generalizing distances node distance with
  | zero => rfl
  | succ depth ih =>
      rw [propagateDistance, relax]
      simp only [ih, CacheNode.arrive_succ, visits, Option.bind_map]
      split
      next =>
        congr 1
        funext next
        exact foldlM_reduceOption (fun _ => rfl) (fun _ _ => rfl) _ _
      next => rfl

end NBandCache

/-! ## Every distance is the shortest one -/

namespace StructuredCache

variable {cache : StructuredCache}

/-- The items that are pointed to, in the order of the pointers. -/
def starts (cache : StructuredCache) (order : VisitOrder) : List CacheNode :=
  (order.pointers cache.cachePointers).filterMap fun handle => cache.links.pointers[handle]?.map CacheNode.item

theorem mem_starts {order : VisitOrder} {node : CacheNode} :
    node ∈ cache.starts order <-> Exists fun handle : Nat => Exists fun item : Nat =>
      handle ∈ cache.cachePointers ∧ cache.links.pointers[handle]? = some item ∧ node = .item item := by
  rw [starts, List.mem_filterMap]
  constructor
  · rintro ⟨handle, listed, there⟩
    obtain ⟨item, pointed, rfl⟩ := Option.map_eq_some_iff.mp there
    exact ⟨handle, item, (order.mem_pointers _ _).mp listed, pointed, rfl⟩
  · rintro ⟨handle, item, registered, pointed, rfl⟩
    exact ⟨handle, (order.mem_pointers _ _).mpr registered, by rw [pointed, Option.map_some]⟩

theorem costs_eq (order : VisitOrder) (node : CacheNode) :
    {total | Exists fun start => start ∈ cache.starts order ∧
      Path (Leads (cache.links.visits order)) CacheNode.cost start node total} = cache.costs node := by
  ext total
  rw [NBandCache.leads_visits, costs, Set.mem_ofPred_eq, Set.mem_ofPred_eq]
  constructor
  · rintro ⟨start, member, path⟩
    obtain ⟨handle, item, registered, pointed, rfl⟩ := mem_starts.mp member
    exact ⟨handle, item, registered, pointed, path⟩
  · rintro ⟨handle, item, registered, pointed, path⟩
    exact ⟨.item item, mem_starts.mpr ⟨handle, item, registered, pointed, rfl⟩, path⟩

/-- Pointers that are all held are visited one after the other. -/
theorem resetDistances_eq (alive : forall handle, handle ∈ cache.cachePointers -> handle ∈ cache.links.pointers)
    (order : VisitOrder) (depth : Nat) :
    cache.resetDistances order depth =
      ((cache.starts order).foldlM (fun distances start =>
          relax (cache.links.visits order) CacheNode.cost depth distances start 0)
        (fun node => if node ∈ cache.cacheItems then maxInt else cache.distance node)).map fun distances =>
          { cache with distance := distances } := by
  have held (handle : Nat) (listed : handle ∈ order.pointers cache.cachePointers) :
      handle ∈ cache.links.pointers := alive handle ((order.mem_pointers _ _).mp listed)
  rw [resetDistances, starts]
  congr 1
  generalize (fun node => if node ∈ cache.cacheItems then maxInt else cache.distance node) = distances
  generalize order.pointers cache.cachePointers = handles at held ⊢
  induction handles generalizing distances with
  | nil => rfl
  | cons handle rest ih =>
      obtain ⟨item, pointed⟩ := Table.getElem?_of_mem (held handle List.mem_cons_self)
      have later := fun distances => ih distances fun other member => held other (List.mem_cons_of_mem _ member)
      rw [List.foldlM_cons, List.filterMap_cons, pointed, Option.map_some]
      dsimp only
      rw [List.foldlM_cons, Option.bind_some, NBandCache.propagateDistance_eq]
      exact congrArg (Option.bind _) (funext later)

/-- The objects that links lead to are finitely many, and no link leads out of them. -/
theorem Kept.closed (kept : cache.Kept) (order : VisitOrder) [DecidablePred cache.links.Placed] :
    Closed (cache.links.visits order) (cache.cacheItems.filter cache.links.Placed) := by
  obtain ⟨model, represents⟩ := kept.represents
  intro node member
  obtain ⟨nodes, there⟩ := represents.getNext_of_placed (Finset.mem_filter.mp member).2
  refine ⟨_, by rw [NBandCache.visits, there, Option.map_some], fun next listed => ?_⟩
  have link : cache.links.Next node next :=
    ⟨nodes, there, (order.mem_nodes _ _).mp (List.reduceOption_mem_iff.mp listed)⟩
  have placed := represents.placed_of_next (Finset.mem_filter.mp member).2 link
  exact Finset.mem_filter.mpr ⟨(kept.adopted placed).1, placed⟩

/-- A pointer points to an item of a band. -/
theorem Kept.pointed (kept : cache.Kept) {handle item : Nat} (pointed : cache.links.pointers[handle]? = some item) :
    cache.links.Placed (.item item) := by
  obtain ⟨model, represents⟩ := kept.represents
  rw [represents.pointers] at pointed
  obtain ⟨place, _, placed⟩ := Option.bind_eq_some_iff.mp pointed
  exact ⟨place.1, represents.banded_iff.mpr ⟨place.2, placed⟩⟩

/-- Distances are computed, and each of them is the shortest one. -/
theorem Kept.resetDistances (kept : cache.Kept)
    (alive : forall handle, handle ∈ cache.cachePointers -> handle ∈ cache.links.pointers) (order : VisitOrder) :
    Exists fun bound => forall depth, bound < depth -> Ensures (cache.resetDistances order depth) fun next =>
      forall node, node ∈ cache.cacheItems -> next.distance node = cache.shortest node := by
  classical
  let initial (node : CacheNode) : Nat := if node ∈ cache.cacheItems then maxInt else cache.distance node
  refine ⟨∑ node ∈ cache.cacheItems.filter cache.links.Placed, initial node, fun depth bounded => ?_⟩
  rw [resetDistances_eq alive]
  have inside (start : CacheNode) (member : start ∈ cache.starts order) :
      start ∈ cache.cacheItems.filter cache.links.Placed := by
    obtain ⟨handle, item, _, pointed, rfl⟩ := mem_starts.mp member
    have placed := kept.pointed pointed
    exact Finset.mem_filter.mpr ⟨(kept.adopted placed).1, placed⟩
  have high (node : CacheNode) (member : node ∈ cache.cacheItems.filter cache.links.Placed) :
      initial node = maxInt := if_pos (Finset.mem_filter.mp member).1
  refine (relax_least (kept.closed order) inside high bounded).map fun after least node member => ?_
  rw [shortest, ← costs_eq order]
  exact (least node (if_pos member)).csInf_eq.symm

/-- With fewer than `2 ^ 31` objects, the shortest distance is the cost of a cheapest way, and it is
the greatest `int` only where no way leads. -/
theorem Kept.isLeast_shortest (kept : cache.Kept) (few : cache.cacheItems.card < 2 ^ 31) (node : CacheNode) :
    IsLeast (cache.costs node) (cache.shortest node) ∨ cache.costs node = ∅ ∧ cache.shortest node = maxInt := by
  classical
  have member := cache.shortest_mem node
  obtain none | ⟨total, handle, item, registered, pointed, path⟩ := (cache.costs node).eq_empty_or_nonempty
  · rw [none] at member
    exact .inr ⟨none, member.resolve_right (Set.notMem_empty _)⟩
  · have placed := kept.pointed pointed
    rw [← NBandCache.leads_visits cache.links .ascending] at path
    obtain ⟨least, small, cheap⟩ := path.exists_lt_card (kept.closed .ascending) CacheNode.cost_le_one
      (Finset.mem_filter.mpr ⟨(kept.adopted placed).1, placed⟩)
    rw [NBandCache.leads_visits] at cheap
    have lower := cache.shortest_le ⟨handle, item, registered, pointed, cheap⟩
    have below : cache.shortest node < maxInt := by
      calc cache.shortest node
          ≤ least := lower
        _ < (cache.cacheItems.filter cache.links.Placed).card := small
        _ ≤ cache.cacheItems.card := Finset.card_filter_le _ _
        _ ≤ maxInt := Nat.lt_succ_iff.mp few
    exact .inl ⟨member.resolve_left (Nat.ne_of_lt below), fun cost way => cache.shortest_le way⟩

/-- Wherever pointers are, as long as all of them are held, the distance of every object is
computed, and it is the shortest one: the cost of a cheapest way, and the greatest `int` where no
way leads.  That number does not stand for a way as long as there are fewer than `2 ^ 31` objects. -/
theorem distances_of_run (owned : CacheNode -> Bool) (distance : CacheNode -> Nat)
    {events : List StructuredEvent} (fresh : Admits step Fresh (init owned distance) events)
    (alive : forall handle, handle ∈ (run step (init owned distance) events).1.cachePointers ->
      handle ∈ (run step (init owned distance) events).1.links.pointers) (order : VisitOrder) :
    (Exists fun bound => forall depth, bound < depth ->
      Ensures ((run step (init owned distance) events).1.resetDistances order depth) fun next =>
        forall node, node ∈ (run step (init owned distance) events).1.cacheItems ->
          next.distance node = (run step (init owned distance) events).1.shortest node) ∧
    ((run step (init owned distance) events).1.cacheItems.card < 2 ^ 31 -> forall node,
      IsLeast ((run step (init owned distance) events).1.costs node)
          ((run step (init owned distance) events).1.shortest node) ∨
        (run step (init owned distance) events).1.costs node = ∅ ∧
          (run step (init owned distance) events).1.shortest node = maxInt) :=
  have kept := kept_of_run owned distance fresh
  ⟨kept.resetDistances alive order, kept.isLeast_shortest⟩

/-- Two pointers are held, and one item can be reached from none of them. -/
def threeBandCache : StructuredCache :=
  (run step (init (fun _ => false) fun _ => 0) (fillThreeBands.take 12)).1

theorem distances_of_run_three_bands :
    (Admits step Fresh (init (fun _ => false) fun _ => 0) (fillThreeBands.take 12) ∧
      (forall handle, handle ∈ threeBandCache.cachePointers -> handle ∈ threeBandCache.links.pointers) ∧
      threeBandCache.cacheItems.card < 2 ^ 31) ∧
    (threeBandCache.resetDistances .ascending 9).map
        (fun next => [CacheNode.item 1, .item 2, .item 3, .item 4, .item 5, .proxy 1, .proxy 3].map next.distance) =
      some [0, 1, 1, 0, maxInt, 0, 0] ∧
    (Exists fun bound => forall depth, bound < depth ->
      Ensures (threeBandCache.resetDistances .ascending depth) fun next =>
        forall node, node ∈ threeBandCache.cacheItems -> next.distance node = threeBandCache.shortest node) ∧
    forall node, IsLeast (threeBandCache.costs node) (threeBandCache.shortest node) ∨
      threeBandCache.costs node = ∅ ∧ threeBandCache.shortest node = maxInt := by
  have fresh : Admits step Fresh (init (fun _ => false) fun _ => 0) (fillThreeBands.take 12) := by decide +kernel
  have alive : forall handle,
      handle ∈ threeBandCache.cachePointers -> handle ∈ threeBandCache.links.pointers := by decide +kernel
  have few : threeBandCache.cacheItems.card < 2 ^ 31 := by decide +kernel
  obtain ⟨computed, least⟩ := distances_of_run _ _ fresh alive .ascending
  exact ⟨⟨fresh, alive, few⟩, by decide +kernel, computed, least few⟩

end StructuredCache

end Util
end Umundo
