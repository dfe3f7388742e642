import Mathlib.Data.Finset.Lattice.Fold
import Mathlib.Order.Lattice.Nat
import Umundo.Util.NBandCache

namespace Umundo
namespace Util

open Foundation Std

/-!
# The objects that a cache knows

A cache keeps all its items and proxies, and the pointers it has handed out.  Every object has
a distance to the nearest item that is pointed to.  Distances are computed from the pointers
along the links, where an object may be visited several times.

Objects are visited in the order of their addresses, which is any order.  A pointer that nobody
holds any longer is removed while an iterator points to it, which ends the program here.
-/

/-- An object of a cache. -/
inductive CacheNode where
  | item (address : Nat)
  | proxy (address : Nat)
deriving DecidableEq

namespace NBandCache

/-- Insert an object that is there. -/
def insertObject (item : Nat) (newProxies : Proxies) (cache : NBandCache) : Option NBandCache :=
  cache.items[item]?.bind fun object =>
    (if object.band ∈ cache.proxies then some cache else cache.addBand item object.band newProxies).bind
      (addItem item object.name object.band)

/-- The objects that an object leads to, some of which are null. -/
def getNext (cache : NBandCache) : CacheNode -> Option (List (Option CacheNode))
  | .item address => cache.items[address]?.map fun item =>
      [item.left.map .item, item.right.map .item, item.up.map .proxy, item.down.map .proxy]
  | .proxy address => cache.proxyItems[address]?.map fun proxy =>
      [proxy.otherBand.map .proxy, proxy.currentItem.map .item]

/-- An object leads to another one. -/
def Next (cache : NBandCache) (node next : CacheNode) : Prop :=
  Exists fun nodes => cache.getNext node = some nodes ∧ some next ∈ nodes

end NBandCache

structure StructuredCache where
  links : NBandCache
  cacheItems : Finset CacheNode
  /-- does the object point to this cache? -/
  owned : CacheNode -> Bool
  distance : CacheNode -> Nat
  /-- the pointers that were handed out -/
  cachePointers : Finset Nat

inductive StructuredEvent where
  /-- a new item -/
  | insert (item : Nat) (name band : Bytes) (newProxies : Proxies)
  /-- an item that was inserted before -/
  | insertAgain (item : Nat) (newProxies : Proxies)
  | getPointer (handle : Nat)
  | getPointerAt (handle : Nat) (band : Bytes) (elemId : Int)
  | left (handle : Nat) (moveBand : Bool)
  | right (handle : Nat) (moveBand : Bool)
  | up (handle : Nat)
  | down (handle : Nat)
  /-- a pointer is not held any longer -/
  | release (handle : Nat)

namespace StructuredCache

variable (cache : StructuredCache)

/-- An empty cache.  What is not initialized in an object is anything. -/
def init (owned : CacheNode -> Bool) (distance : CacheNode -> Nat) : StructuredCache where
  links := .init
  cacheItems := ∅
  owned := owned
  distance := distance
  cachePointers := ∅

/-! ## Inserting -/

/-- Enter an object. -/
def adopt (node : CacheNode) : StructuredCache :=
  { cache with
    cacheItems := insert node cache.cacheItems
    owned := Function.update cache.owned node true }

/-- Enter an item, and the proxies of its band if there is no such band yet. -/
def enter (item : Nat) (band : Bytes) (newProxies : Proxies) : StructuredCache :=
  let next := cache.adopt (.item item)
  if band ∈ cache.links.proxies then next
  else (next.adopt (.proxy newProxies.first)).adopt (.proxy newProxies.second)

/-- Insert an object that is there. -/
def insertObject (item : Nat) (newProxies : Proxies) : Option StructuredCache :=
  cache.links.items[item]?.bind fun object =>
    (cache.links.insertObject item newProxies).map fun links =>
      { cache.enter item object.band newProxies with links := links }

/-- Allocate an item. -/
def create (item : Nat) (name band : Bytes) : StructuredCache :=
  { cache with links := { cache.links with items := cache.links.items.insert item (.new name band) } }

/-! ## Runs -/

/-- A pointer that was handed out is remembered. -/
def register (handle : Nat) (result : NBandCache × Option Nat) : StructuredCache × List CacheResult :=
  ({ cache with
      links := result.1
      cachePointers := if result.2.isSome then insert handle cache.cachePointers else cache.cachePointers },
    [.pointer result.2])

/-- A call through a pointer that is held. -/
def through (handle : Nat) (result : Option (NBandCache × Option Nat)) :
    Option (StructuredCache × List CacheResult) :=
  if handle ∈ cache.links.pointers then
    result.map fun result => ({ cache with links := result.1 }, [.item result.2])
  else some (cache, [])

def react : StructuredEvent -> Option (StructuredCache × List CacheResult)
  | .insert item name band newProxies =>
      ((cache.create item name band).insertObject item newProxies).map fun next => (next, [])
  | .insertAgain item newProxies => (cache.insertObject item newProxies).map fun next => (next, [])
  | .getPointer handle => (cache.links.getPointer handle).map (cache.register handle)
  | .getPointerAt handle band elemId => (cache.links.getPointerAt handle band elemId).map (cache.register handle)
  | .left handle moveBand => cache.through handle (cache.links.left handle moveBand)
  | .right handle moveBand => cache.through handle (cache.links.right handle moveBand)
  | .up handle => cache.through handle (cache.links.up handle)
  | .down handle => cache.through handle (cache.links.down handle)
  | .release handle =>
      some ({ cache with links := { cache.links with pointers := cache.links.pointers.erase handle } }, [])

def step (cache : StructuredCache) (event : StructuredEvent) : StructuredCache × List CacheResult :=
  (cache.react event).getD (cache, [.crashed])

/-- Proxies are put where there is nothing. -/
def FreshProxies (newProxies : Proxies) : Prop :=
  newProxies.first ∉ cache.links.proxyItems ∧ newProxies.second ∉ cache.links.proxyItems ∧
    newProxies.first ≠ newProxies.second

instance (newProxies : Proxies) : Decidable (cache.FreshProxies newProxies) :=
  inferInstanceAs (Decidable (_ ∧ _ ∧ _))

/-- Objects are put where there is nothing, and a pointer is not one that was handed out before. -/
def Fresh (cache : StructuredCache) : StructuredEvent -> Prop
  | .insert item _ _ newProxies => item ∉ cache.links.items ∧ cache.FreshProxies newProxies
  | .insertAgain _ newProxies => cache.FreshProxies newProxies
  | .getPointer handle => handle ∉ cache.links.pointers ∧ handle ∉ cache.cachePointers
  | .getPointerAt handle _ _ => handle ∉ cache.links.pointers ∧ handle ∉ cache.cachePointers
  | _ => True

instance (event : StructuredEvent) : Decidable (cache.Fresh event) := by
  unfold Fresh
  split <;> infer_instance

end StructuredCache

/-! ## Distances -/

/-- The greatest `int`. -/
def maxInt : Nat := 0x7fffffff

/-- The order in which nodes and pointers are visited. -/
structure VisitOrder where
  nodes : List (Option CacheNode) -> List (Option CacheNode)
  mem_nodes : forall next nodes', next ∈ nodes nodes' <-> next ∈ nodes'
  pointers : Finset Nat -> List Nat
  mem_pointers : forall handle handles, handle ∈ pointers handles <-> handle ∈ handles

/-- Nodes as they are linked, and pointers in the order of their numbers. -/
def VisitOrder.ascending : VisitOrder where
  nodes next := next
  mem_nodes _ _ := Iff.rfl
  pointers handles := (List.range (handles.sup id + 1)).filter (· ∈ handles)
  mem_pointers handle handles := by
    rw [List.mem_filter, List.mem_range, decide_eq_true_eq]
    refine and_iff_right_of_imp fun member => Nat.lt_succ_of_le ?_
    exact @Finset.le_sup Nat Nat _ _ handles id handle member

/-- A proxy takes back the step that leads to it. -/
def CacheNode.arrive : CacheNode -> Nat -> Nat
  | .item _, distance => distance
  | .proxy _, distance => distance - 1

/-- What it costs to enter an object. -/
def CacheNode.cost : CacheNode -> Nat
  | .item _ => 1
  | .proxy _ => 0

/-- Lower the distance of an object, and of those it leads to.  A distance is never negative,
because a proxy is entered with a step. -/
def NBandCache.propagateDistance (cache : NBandCache) (order : VisitOrder) :
    Nat -> (CacheNode -> Nat) -> CacheNode -> Nat -> Option (CacheNode -> Nat)
  | 0, _, _, _ => none
  | depth + 1, distances, node, distance =>
      if node.arrive distance < distances node then
        (cache.getNext node).bind fun next =>
          (order.nodes next).foldlM (fun distances outIter =>
            match outIter with
            | none => some distances
            | some out => cache.propagateDistance order depth distances out (distances node + 1))
            (Function.update distances node (node.arrive distance))
      else
        some distances

/-- Compute all distances anew. -/
def StructuredCache.resetDistances (cache : StructuredCache) (order : VisitOrder) (depth : Nat) :
    Option StructuredCache :=
  ((order.pointers cache.cachePointers).foldlM (fun distances handle =>
      cache.links.pointers[handle]?.bind fun item =>
        cache.links.propagateDistance order depth distances (.item item) 0)
    (fun node => if node ∈ cache.cacheItems then maxInt else cache.distance node)).map fun distances =>
      { cache with distance := distances }

end Util
end Umundo
