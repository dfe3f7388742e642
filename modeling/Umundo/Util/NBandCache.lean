import Umundo.Foundation.CString
import Umundo.Foundation.Links
import Umundo.Foundation.Neighbours

namespace Umundo
namespace Util

open Foundation Std

/-!
# The cache with bands

Items with a name are arranged in bands.  The items of a band are linked to their
neighbours in the order of the names.  Every item points to the two proxies of its band,
one above and one below, and the proxies of adjacent bands point to each other.  Both
proxies of a band also point to its current item, where one arrives from another band.

Objects are kept in two heaps, and a pointer is the address of an object or null.  To
follow a null pointer ends the program.  The two directions are alike: to the left and
up is `back`, to the right and down is `ahead`.

Distances change no link; `StructuredCache` adds them, and what the cache knows of its objects.
Pressure is left out.
-/

structure NBandProxyCacheItem where
  otherBand : Option Nat
  currentItem : Option Nat
deriving DecidableEq

structure NBandCacheItem where
  name : Bytes
  band : Bytes
  left : Option Nat
  right : Option Nat
  /-- the proxy of the band that leads up -/
  up : Option Nat
  down : Option Nat
deriving DecidableEq

namespace NBandCacheItem

def new (name band : Bytes) : NBandCacheItem where
  name := name
  band := band
  left := none
  right := none
  up := none
  down := none

def link (item : NBandCacheItem) : Direction -> Option Nat
  | .back => item.left
  | .ahead => item.right

def setLink (target : Nat) (direction : Direction) (item : NBandCacheItem) : NBandCacheItem :=
  match direction with
  | .back => { item with left := some target }
  | .ahead => { item with right := some target }

def proxy (item : NBandCacheItem) : Direction -> Option Nat
  | .back => item.up
  | .ahead => item.down

end NBandCacheItem

/-- The two proxies of a band. -/
structure Proxies where
  first : Nat
  second : Nat
deriving DecidableEq

def Proxies.toward (proxies : Proxies) : Direction -> Nat
  | .back => proxies.first
  | .ahead => proxies.second

/-- The objects, the tables of the cache, and the items of the pointers handed out. -/
structure NBandCache where
  items : Table Nat NBandCacheItem
  proxyItems : Table Nat NBandProxyCacheItem
  bands : Table Bytes (Table Bytes Nat)
  proxies : Table Bytes Proxies
  pointers : Table Nat Nat

namespace NBandCache

def init : NBandCache where
  items := ∅
  proxyItems := ∅
  bands := ∅
  proxies := ∅
  pointers := ∅

/-! ## Inserting -/

/-- Connect the proxies of a band with those of the adjacent band, if there is one. -/
def connectBand (currProxies : Proxies) (band : Bytes) (direction : Direction) (cache : NBandCache) :
    Option NBandCache :=
  match cache.proxies.neighbour direction band with
  | none => some cache
  | some (_, other) =>
      ((assign cache.proxyItems (other.toward direction.flip) fun proxy =>
          { proxy with otherBand := some (currProxies.toward direction) }).bind fun proxyItems =>
        assign proxyItems (currProxies.toward direction) fun proxy =>
          { proxy with otherBand := some (other.toward direction.flip) }).map fun proxyItems =>
      { cache with proxyItems := proxyItems }

/-- A new band has two new proxies, and one current item. -/
def addBand (item : Nat) (band : Bytes) (currProxies : Proxies) (cache : NBandCache) :
    Option NBandCache :=
  let proxy : NBandProxyCacheItem := ⟨none, some item⟩
  (connectBand currProxies band .back { cache with
    proxyItems := (cache.proxyItems.insert currProxies.first proxy).insert currProxies.second proxy
    proxies := cache.proxies.insert band currProxies }).bind (connectBand currProxies band .ahead)

/-- Connect an item with the adjacent item of its band, if there is one. -/
def connectItem (item : Nat) (name band : Bytes) (direction : Direction) (cache : NBandCache) :
    Option NBandCache :=
  match (cache.bands.row band).neighbour direction name with
  | none => some cache
  | some (_, other) =>
      ((assign cache.items item (.setLink other direction)).bind fun items =>
        assign items other (.setLink item direction.flip)).map fun items =>
      { cache with items := items }

/-- An item with a name that is taken gets its proxies, but is not entered. -/
def addItem (item : Nat) (name band : Bytes) (cache : NBandCache) : Option NBandCache :=
  cache.proxies[band]?.bind fun currProxies =>
  (assign cache.items item fun item =>
    { item with up := some currProxies.first, down := some currProxies.second }).bind fun items =>
  if name ∈ cache.bands.row band then some { cache with items := items }
  else
    (connectItem item name band .back { cache with
      items := items
      bands := cache.bands.store band name item }).bind (connectItem item name band .ahead)

/-- The caller has allocated the item.  The proxies are allocated if they are needed. -/
def insert (item : Nat) (name band : Bytes) (newProxies : Proxies) (cache : NBandCache) :
    Option NBandCache :=
  let cache := { cache with items := cache.items.insert item (.new name band) }
  (if band ∈ cache.proxies then some cache else cache.addBand item band newProxies).bind
    (addItem item name band)

/-! ## Pointers -/

/-- Move the current item of a band, which both proxies point to. -/
def moveBand (item : NBandCacheItem) (next : Nat) (cache : NBandCache) :
    Option (Table Nat NBandProxyCacheItem) :=
  item.up.bind fun up =>
  (assign cache.proxyItems up fun proxy => { proxy with currentItem := some next }).bind
    fun proxyItems =>
  item.down.bind fun down =>
  assign proxyItems down fun proxy => { proxy with currentItem := some next }

/-- Go to the next item of the band.  The result is null at the end. -/
def move (direction : Direction) (handle : Nat) (moves : Bool) (cache : NBandCache) :
    Option (NBandCache × Option Nat) :=
  cache.pointers[handle]?.bind fun address =>
  cache.items[address]?.bind fun item =>
  match item.link direction with
  | none => some (cache, none)
  | some next =>
      (if moves then cache.moveBand item next else some cache.proxyItems).map fun proxyItems =>
        ({ cache with proxyItems := proxyItems, pointers := cache.pointers.insert handle next }, some next)

def left (handle : Nat) (moveBand : Bool) (cache : NBandCache) : Option (NBandCache × Option Nat) :=
  cache.move .back handle moveBand

def right (handle : Nat) (moveBand : Bool) (cache : NBandCache) : Option (NBandCache × Option Nat) :=
  cache.move .ahead handle moveBand

/-- Go to the current item of the next band. -/
def cross (direction : Direction) (handle : Nat) (cache : NBandCache) :
    Option (NBandCache × Option Nat) :=
  cache.pointers[handle]?.bind fun address =>
  cache.items[address]?.bind fun item =>
  (item.proxy direction).bind fun proxy =>
  cache.proxyItems[proxy]?.bind fun proxyItem =>
  match proxyItem.otherBand with
  | none => some (cache, none)
  | some otherBand =>
      cache.proxyItems[otherBand]?.bind fun otherItem =>
      otherItem.currentItem.bind fun next =>
      some ({ cache with pointers := cache.pointers.insert handle next }, some next)

def up (handle : Nat) (cache : NBandCache) : Option (NBandCache × Option Nat) :=
  cache.cross .back handle

def down (handle : Nat) (cache : NBandCache) : Option (NBandCache × Option Nat) :=
  cache.cross .ahead handle

/-- Count the steps to the left end.  There are at most as many as there are items. -/
def countLeft (cache : NBandCache) : (fuel address : Nat) -> Option Nat
  | 0, _ => none
  | fuel + 1, address =>
      cache.items[address]?.bind fun item =>
      match item.left with
      | none => some 0
      | some left => (cache.countLeft fuel left).map (· + 1)

def getElementId (handle : Nat) (cache : NBandCache) : Option Nat :=
  cache.pointers[handle]?.bind (cache.countLeft cache.items.size)

/-- The item some steps to the right. -/
def stepRight (cache : NBandCache) : (steps : Nat) -> Option Nat -> Option (Option Nat)
  | 0, pointer => some pointer
  | steps + 1, pointer =>
      pointer.bind fun address =>
      cache.items[address]?.bind fun item => cache.stepRight steps item.right

/-- The pointer is null if there is no such band. -/
def getPointerAt (handle : Nat) (band : Bytes) (elemId : Int) (cache : NBandCache) :
    Option (NBandCache × Option Nat) :=
  match cache.bands[band]? with
  | none => some ({ cache with pointers := cache.pointers.erase handle }, none)
  | some row =>
      row.toList.head?.bind fun begin =>
      (if elemId = -1 then
          cache.items[begin.2]?.bind fun item =>
          item.up.bind fun up =>
          cache.proxyItems[up]?.map NBandProxyCacheItem.currentItem
        else cache.stepRight elemId.toNat (some begin.2)).bind fun pointer =>
      pointer.bind fun item =>
      some ({ cache with pointers := cache.pointers.insert handle item }, some item)

def getPointer (handle : Nat) (cache : NBandCache) : Option (NBandCache × Option Nat) :=
  cache.getPointerAt handle (cache.bands.keys.head?.getD []) (-1)

end NBandCache

/-! ## Runs -/

inductive CacheEvent where
  | insert (item : Nat) (name band : Bytes) (newProxies : Proxies)
  | getPointer (handle : Nat)
  | getPointerAt (handle : Nat) (band : Bytes)
  | left (handle : Nat) (moveBand : Bool)
  | right (handle : Nat) (moveBand : Bool)
  | up (handle : Nat)
  | down (handle : Nat)
  | getElementId (handle : Nat)

inductive CacheResult where
  /-- an item, or null -/
  | item (address : Option Nat)
  /-- a pointer to an item, or a null pointer -/
  | pointer (address : Option Nat)
  | elementId (index : Nat)
  | crashed
deriving DecidableEq

namespace NBandCache

/-- A call, or nothing if the program ends.  Nothing is called through a pointer that was
not handed out. -/
def react (cache : NBandCache) : CacheEvent -> Option (NBandCache × List CacheResult)
  | .insert item name band newProxies =>
      (cache.insert item name band newProxies).map fun next => (next, [])
  | .getPointer handle => (cache.getPointer handle).map fun result => (result.1, [.pointer result.2])
  | .getPointerAt handle band =>
      (cache.getPointerAt handle band (-1)).map fun result => (result.1, [.pointer result.2])
  | .left handle moveBand => through handle (cache.left handle moveBand)
  | .right handle moveBand => through handle (cache.right handle moveBand)
  | .up handle => through handle (cache.up handle)
  | .down handle => through handle (cache.down handle)
  | .getElementId handle =>
      if handle ∈ cache.pointers then
        (cache.getElementId handle).map fun index => (cache, [.elementId index])
      else some (cache, [])
where
  through (handle : Nat) (result : Option (NBandCache × Option Nat)) :
      Option (NBandCache × List CacheResult) :=
    if handle ∈ cache.pointers then result.map fun result => (result.1, [.item result.2])
    else some (cache, [])

def step (cache : NBandCache) (event : CacheEvent) : NBandCache × List CacheResult :=
  (cache.react event).getD (cache, [.crashed])

/-- Items and proxies are put where there is none. -/
def Fresh (cache : NBandCache) : CacheEvent -> Prop
  | .insert item _ _ newProxies => item ∉ cache.items ∧ newProxies.first ∉ cache.proxyItems ∧
      newProxies.second ∉ cache.proxyItems ∧ newProxies.first ≠ newProxies.second
  | _ => True

instance (cache : NBandCache) (event : CacheEvent) : Decidable (cache.Fresh event) := by
  unfold Fresh
  split <;> infer_instance

end NBandCache

end Util
end Umundo
