import Umundo.Util.CacheLinks

namespace Umundo
namespace Util

open Foundation Std

/-!
# The links of a cache

What one may rely on when one follows the links, without the model: the items of a band are
met in the order of their names, both ways; they share the proxies of their band; the proxies
of a band agree on its current item; and the proxies of consecutive bands point to each other.
From an item of a band one only comes to objects that the cache knows.
-/

namespace NBandCache

variable (cache : NBandCache)

/-- An item of a band. -/
def Banded (band : Bytes) (address : Nat) : Prop :=
  Exists fun name : Bytes => (cache.bands.row band)[name]? = some address

/-- The items that are met to the right, if there are not more than so many. -/
def walkRight : Nat -> Option Nat -> Option (List Nat)
  | _, none => some []
  | 0, some _ => none
  | steps + 1, some address =>
      cache.items[address]?.bind fun item => (walkRight steps item.right).map (address :: ·)

/-- The band that a proxy leads to, which may be null. -/
def otherBand (address : Nat) : Option (Option Nat) :=
  cache.proxyItems[address]?.map NBandProxyCacheItem.otherBand

structure Linked : Prop where
  /-- to the right one meets the items of a band in the order of their names, and comes to an end -/
  right : forall (band : Bytes) (row : Table Bytes Nat), cache.bands[band]? = some row ->
    Exists fun first => row.toList.head? = some first ∧ Exists fun steps =>
      cache.walkRight steps (some first.2) = some (row.toList.map Prod.snd)
  /-- an item has the two proxies of its band, and every link leads to an item with a link back -/
  items : forall (band : Bytes) (address : Nat), cache.Banded band address ->
    Exists fun item : NBandCacheItem => Exists fun own : Proxies => cache.items[address]? = some item ∧
      cache.proxies[band]? = some own ∧ item.up = some own.first ∧ item.down = some own.second ∧
      forall direction other, item.link direction = some other -> cache.Banded band other ∧
        (cache.items[other]?.bind fun object => object.link direction.flip) = some address
  /-- both proxies of a band have the same current item -/
  current : forall (band : Bytes) (own : Proxies), cache.proxies[band]? = some own ->
    Exists fun item => cache.Banded band item ∧ forall direction,
      cache.proxyItems[own.toward direction]?.map NBandProxyCacheItem.currentItem = some (some item)
  consecutive : forall (band next : Bytes) (own pair : Proxies), cache.proxies[band]? = some own ->
    cache.proxies.neighbour .ahead band = some (next, pair) ->
      cache.otherBand own.second = some (some pair.first) ∧ cache.otherBand pair.first = some (some own.second)
  first : forall (band : Bytes) (own : Proxies), cache.proxies[band]? = some own ->
    cache.proxies.neighbour .back band = none -> cache.otherBand own.first = some none
  last : forall (band : Bytes) (own : Proxies), cache.proxies[band]? = some own ->
    cache.proxies.neighbour .ahead band = none -> cache.otherBand own.second = some none
  keys : forall band : Bytes, band ∈ cache.bands <-> band ∈ cache.proxies

variable {cache} in
theorem next_item_iff {address : Nat} {item : NBandCacheItem} (object : cache.items[address]? = some item)
    {next : CacheNode} :
    cache.Next (.item address) next <-> Exists fun direction =>
      (item.link direction).map CacheNode.item = some next ∨
        (item.proxy direction).map CacheNode.proxy = some next := by
  constructor
  · rintro ⟨nodes, there, listed⟩
    rw [getNext, object, Option.map_some] at there
    cases there
    simp only [List.mem_cons, List.not_mem_nil, or_false] at listed
    obtain left | right | up | down := listed
    · exact ⟨.back, .inl left.symm⟩
    · exact ⟨.ahead, .inl right.symm⟩
    · exact ⟨.back, .inr up.symm⟩
    · exact ⟨.ahead, .inr down.symm⟩
  · rintro ⟨direction, beside | across⟩
    · refine ⟨_, by rw [getNext, object, Option.map_some], ?_⟩
      rw [← beside]
      cases direction <;> simp [NBandCacheItem.link]
    · refine ⟨_, by rw [getNext, object, Option.map_some], ?_⟩
      rw [← across]
      cases direction <;> simp [NBandCacheItem.proxy]

variable {cache} in
theorem next_proxy_iff {address : Nat} {proxy : NBandProxyCacheItem}
    (object : cache.proxyItems[address]? = some proxy) {next : CacheNode} :
    cache.Next (.proxy address) next <->
      proxy.otherBand.map CacheNode.proxy = some next ∨ proxy.currentItem.map CacheNode.item = some next := by
  constructor
  · rintro ⟨nodes, there, listed⟩
    rw [getNext, object, Option.map_some] at there
    cases there
    simp only [List.mem_cons, List.not_mem_nil, or_false] at listed
    exact listed.imp Eq.symm Eq.symm
  · intro listed
    refine ⟨_, by rw [getNext, object, Option.map_some], ?_⟩
    obtain across | inside := listed
    · exact across ▸ List.mem_cons_self
    · exact inside ▸ List.mem_cons_of_mem _ List.mem_cons_self

/-- An item of a band, or a proxy of one. -/
def Placed : CacheNode -> Prop
  | .item address => Exists fun band => cache.Banded band address
  | .proxy address => Exists fun band : Bytes => Exists fun own : Proxies => Exists fun direction =>
      cache.proxies[band]? = some own ∧ address = own.toward direction

end NBandCache

namespace Represents

variable {cache : NBandCache} {model : BandModel}

theorem banded_iff (represents : Represents cache model) {band : Bytes} {address : Nat} :
    cache.Banded band address <-> Exists fun name => model.item band name = some address := by
  rw [NBandCache.Banded, represents.bands]
  rfl

/-- The walk to the right follows the table. -/
theorem walkRight (represents : Represents cache model) {band name : Bytes} {address : Nat}
    (placed : model.item band name = some address) :
    cache.walkRight (((model.bands.row band).beyond .ahead name).length + 1) (some address) =
      some (address :: ((model.bands.row band).beyond .ahead name).map Prod.snd) := by
  generalize farther : (model.bands.row band).beyond .ahead name = entries
  induction entries generalizing name address with
  | nil =>
      obtain ⟨own, _, object⟩ := represents.toFurnished.found placed
      have last : (model.bands.row band).neighbour .ahead name = none := by
        rw [Table.neighbour, farther, List.head?_nil]
      rw [NBandCache.walkRight, object, Option.bind_some, Util.linked, last]
      rfl
  | cons entry rest ih =>
      obtain ⟨own, _, object⟩ := represents.toFurnished.found placed
      have next : (model.bands.row band).neighbour .ahead name = some entry := by
        rw [Table.neighbour, farther, List.head?_cons]
      have ahead : (model.bands.row band).beyond .ahead entry.1 = rest := by
        rw [Table.beyond_eq_cons next, List.cons.injEq] at farther
        exact farther.2
      have found : model.item band entry.1 = some entry.2 := (Table.neighbour_eq_some_iff.mp next).1
      rw [NBandCache.walkRight, object, Option.bind_some, Util.linked, next]
      dsimp only [Option.map_some]
      rw [List.length_cons, ih found ahead, Option.map_some, List.map_cons]

theorem link_flip (represents : Represents cache model) {band name : Bytes} {address other : Nat}
    {direction : Direction} (placed : model.item band name = some address)
    (next : ((model.bands.row band).neighbour direction name).map Prod.snd = some other) :
    cache.Banded band other ∧
      (cache.items[other]?.bind fun object => object.link direction.flip) = some address := by
  obtain ⟨entry, near, rfl⟩ := Option.map_eq_some_iff.mp next
  have found : model.item band entry.1 = some entry.2 := (Table.neighbour_eq_some_iff.mp near).1
  obtain ⟨own, _, object⟩ := represents.toFurnished.found found
  refine ⟨represents.banded_iff.mpr ⟨entry.1, found⟩, ?_⟩
  rw [object, Option.bind_some, link_linked, Table.neighbour_flip placed near, Option.map_some]

theorem otherBand (represents : Represents cache model) {band : Bytes} {own : Proxies}
    (known : cache.proxies[band]? = some own) (direction : Direction) :
    cache.otherBand (own.toward direction) =
      some ((cache.proxies.neighbour direction band).map fun entry => entry.2.toward direction.flip) := by
  rw [NBandCache.otherBand, represents.proxyItems band own direction known]
  rfl

/-- The links of a model can be relied on. -/
theorem linked (represents : Represents cache model) : cache.Linked where
  right band row stored := by
    have same : model.bands.row band = row := Table.row_of_getElem? (represents.bands ▸ stored)
    obtain ⟨cursor, item, _, found⟩ := represents.cursor_of_mem
      (represents.bands ▸ Table.mem_of_getElem? stored)
    have listed : (cursor, item) ∈ row.toList := by
      rw [BandModel.item, same] at found
      exact ExtTreeMap.mem_toList_iff_getElem?_eq_some.mpr found
    obtain ⟨first, rest, entries⟩ := List.exists_cons_of_ne_nil (List.ne_nil_of_mem listed)
    have placed : model.item band first.1 = some first.2 := by
      rw [BandModel.item, same]
      exact ExtTreeMap.mem_toList_iff_getElem?_eq_some.mp (entries ▸ List.mem_cons_self)
    refine ⟨first, by rw [entries, List.head?_cons], _, (represents.walkRight placed).trans ?_⟩
    rw [same, ← Table.toList_eq_cons entries, entries, List.map_cons]
  items band address banded := by
    obtain ⟨name, placed⟩ := represents.banded_iff.mp banded
    obtain ⟨own, known, object⟩ := represents.toFurnished.found placed
    refine ⟨_, own, object, known, rfl, rfl, fun direction other next => ?_⟩
    rw [link_linked] at next
    exact represents.link_flip placed next
  current band own known := by
    obtain ⟨item, current⟩ := (represents.current band).mp (represents.populated band (Table.mem_of_getElem? known))
    obtain ⟨cursor, _, placed⟩ := Option.bind_eq_some_iff.mp current
    refine ⟨item, represents.banded_iff.mpr ⟨cursor, placed⟩, fun direction => ?_⟩
    rw [represents.proxyItems band own direction known, ← current]
    rfl
  consecutive band next own pair known adjacent := by
    have back := Table.neighbour_flip known adjacent
    have known' := (Table.neighbour_eq_some_iff.mp adjacent).1
    have down := represents.otherBand known .ahead
    have up := represents.otherBand known' .back
    rw [adjacent] at down
    rw [show cache.proxies.neighbour .back next = some (band, own) from back] at up
    exact ⟨down, up⟩
  first band own known none := by
    have up := represents.otherBand known .back
    rw [none] at up
    exact up
  last band own known none := by
    have down := represents.otherBand known .ahead
    rw [none] at down
    exact down
  keys band := by rw [represents.bands, represents.established_iff]

/-- No link leads out of the bands. -/
theorem placed_of_next (represents : Represents cache model) {node next : CacheNode} (placed : cache.Placed node)
    (link : cache.Next node next) : cache.Placed next := by
  cases node with
  | item address =>
      obtain ⟨band, banded⟩ := placed
      obtain ⟨name, found⟩ := represents.banded_iff.mp banded
      obtain ⟨own, known, object⟩ := represents.toFurnished.found found
      obtain ⟨direction, beside | across⟩ := (NBandCache.next_item_iff object).mp link
      · obtain ⟨other, near, rfl⟩ := Option.map_eq_some_iff.mp beside
        rw [link_linked] at near
        exact ⟨band, (represents.link_flip found near).1⟩
      · rw [proxy_linked] at across
        cases across
        exact ⟨band, own, direction, known, rfl⟩
  | proxy address =>
      obtain ⟨band, own, direction, known, rfl⟩ := placed
      obtain across | inside := (NBandCache.next_proxy_iff (represents.proxyItems band own direction known)).mp link
      · obtain ⟨_, other, rfl⟩ := Option.map_eq_some_iff.mp across
        obtain ⟨entry, near, rfl⟩ := Option.map_eq_some_iff.mp other
        exact ⟨entry.1, entry.2, direction.flip, (Table.neighbour_eq_some_iff.mp near).1, rfl⟩
      · obtain ⟨item, current, rfl⟩ := Option.map_eq_some_iff.mp inside
        obtain ⟨cursor, _, found⟩ := Option.bind_eq_some_iff.mp current
        exact ⟨band, represents.banded_iff.mpr ⟨cursor, found⟩⟩

/-- Whatever is in a band can be visited. -/
theorem getNext_of_placed (represents : Represents cache model) {node : CacheNode} (placed : cache.Placed node) :
    Exists fun nodes => cache.getNext node = some nodes := by
  cases node with
  | item address =>
      obtain ⟨band, banded⟩ := placed
      obtain ⟨item, _, object, _⟩ := represents.linked.items band address banded
      exact ⟨_, by rw [NBandCache.getNext, object, Option.map_some]⟩
  | proxy address =>
      obtain ⟨band, own, direction, known, rfl⟩ := placed
      exact ⟨_, by rw [NBandCache.getNext, represents.proxyItems band own direction known, Option.map_some]⟩

end Represents

namespace StructuredCache

variable {cache : StructuredCache}

theorem Kept.adopted (kept : cache.Kept) {node : CacheNode} (placed : cache.links.Placed node) :
    cache.Adopted node := by
  cases node with
  | item address =>
      obtain ⟨band, name, found⟩ := placed
      exact kept.items name band address found
  | proxy address =>
      obtain ⟨band, own, direction, known, rfl⟩ := placed
      exact kept.proxies band own direction known

/-- Whatever is inserted and wherever pointers are moved, the links are right, and they do not
lead out of the cache. -/
theorem linked_of_run (owned : CacheNode -> Bool) (distance : CacheNode -> Nat) {events : List StructuredEvent}
    (fresh : Admits step Fresh (init owned distance) events) :
    (run step (init owned distance) events).1.links.Linked ∧
      forall (band : Bytes) (address : Nat) (node : CacheNode),
        (run step (init owned distance) events).1.links.Banded band address ->
          Relation.ReflTransGen (run step (init owned distance) events).1.links.Next (.item address) node ->
            (run step (init owned distance) events).1.Adopted node := by
  have kept := kept_of_run owned distance fresh
  obtain ⟨model, represents⟩ := kept.represents
  refine ⟨represents.linked, fun band address node banded reached => kept.adopted ?_⟩
  induction reached with
  | refl => exact ⟨band, banded⟩
  | tail _ link placed => exact represents.placed_of_next placed link

/-- The band `1` is inserted between `0` and `2`.  A second item `00` of it is inserted twice and
is linked by nobody, and the first one changes nothing when it is inserted again.  A pointer
moves the band, and another one is set to its second item. -/
def fillThreeBands : List StructuredEvent :=
  [.insert 1 [48, 49] [48] ⟨1, 2⟩, .insert 2 [48, 48] [50] ⟨3, 4⟩, .insert 3 [48, 49] [49] ⟨5, 6⟩,
    .insert 4 [48, 48] [49] ⟨7, 8⟩, .insert 5 [48, 48] [49] ⟨7, 8⟩, .insertAgain 5 ⟨7, 8⟩,
    .insertAgain 4 ⟨7, 8⟩, .getPointer 10, .down 10, .left 10 true, .getPointerAt 11 [49] 1, .up 11, .release 10]

theorem linked_of_run_three_bands :
    Admits step Fresh (init (fun _ => false) fun _ => 0) fillThreeBands ∧
      (run step (init (fun _ => false) fun _ => 0) fillThreeBands).2 =
        [.pointer (some 1), .item (some 3), .item (some 4), .pointer (some 3), .item (some 1)] ∧
      (run step (init (fun _ => false) fun _ => 0) fillThreeBands).1.links.Linked := by
  have fresh : Admits step Fresh (init (fun _ => false) fun _ => 0) fillThreeBands := by decide +kernel
  exact ⟨fresh, by decide +kernel, (linked_of_run _ _ fresh).1⟩

end StructuredCache

end Util
end Umundo
