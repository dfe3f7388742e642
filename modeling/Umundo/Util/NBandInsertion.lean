import Umundo.Foundation.Chain
import Umundo.Util.NBandPointers

namespace Umundo
namespace Util

open Foundation Std

/-!
# Inserting keeps the links right

The items of a band are a chain, with both links in one object.  The proxies of all
bands are a chain as well: the link up is in the first proxy of a band and the link down
in the second one.
-/

/-! ## The two chains -/

def itemLinkage : Linkage Nat NBandCacheItem where
  place address _ := address
  get direction item := item.link direction
  set direction target item := item.setLink target direction
  get_set direction _ _ := by cases direction <;> rfl

def bandLinkage : Linkage Proxies NBandProxyCacheItem where
  place := Proxies.toward
  get _ proxy := proxy.otherBand
  set _ target proxy := { proxy with otherBand := some target }
  get_set _ _ _ := rfl

theorem sound_item (address : Nat) : itemLinkage.Sound address :=
  fun direction => .inr fun _ _ => by cases direction <;> rfl

theorem sound_band {own : Proxies} (different : own.first ≠ own.second) : bandLinkage.Sound own := by
  intro direction
  cases direction with
  | back => exact .inl different
  | ahead => exact .inl different.symm

theorem toward_injective {own : Proxies} (different : own.first ≠ own.second) :
    Function.Injective own.toward := by
  intro direction direction' same
  rcases direction.eq_or_eq_flip direction' with agree | opposed
  · exact agree.symm
  · subst opposed
    cases direction with
    | back => exact absurd same different
    | ahead => exact absurd same.symm different

/-- What is not a link between items. -/
def NBandCacheItem.rest (item : NBandCacheItem) : Bytes × Bytes × Option Nat × Option Nat :=
  (item.name, item.band, item.up, item.down)

theorem rest_setLink (direction : Direction) (target : Nat) (item : NBandCacheItem) :
    (itemLinkage.set direction target item).rest = item.rest := by
  cases direction <;> rfl

theorem read_item_iff {heap : Table Nat NBandCacheItem} {address : Nat} {row : Table Bytes Nat}
    {own : Proxies} {name band : Bytes} :
    heap[address]? = some (linked row own name band) <->
      heap[address]?.map NBandCacheItem.rest = some (name, band, some own.first, some own.second) ∧
        forall direction, itemLinkage.read heap address direction =
          some ((row.neighbour direction name).map fun entry => itemLinkage.place entry.2 direction.flip) := by
  have unfolded (direction : Direction) : itemLinkage.read heap address direction =
      heap[address]?.map fun item => item.link direction := rfl
  simp only [unfolded]
  cases heap[address]? with
  | none => simp
  | some item =>
      simp only [Option.map_some, Option.some.injEq]
      constructor
      · rintro rfl
        exact ⟨rfl, fun direction => link_linked row own name band direction⟩
      · rintro ⟨rest, links⟩
        obtain ⟨name', band', left', right', up', down'⟩ := item
        cases rest
        have left : left' = (row.neighbour .back name').map Prod.snd := links .back
        have right : right' = (row.neighbour .ahead name').map Prod.snd := links .ahead
        rw [left, right]
        rfl

theorem read_proxy_iff {heap : Table Nat NBandProxyCacheItem} {proxies : Table Bytes Proxies}
    {own : Proxies} {band : Bytes} {current : Option Nat} {direction : Direction} :
    heap[own.toward direction]? = some (proxied proxies band current direction) <->
      heap[own.toward direction]?.map NBandProxyCacheItem.currentItem = some current ∧
        bandLinkage.read heap own direction =
          some ((proxies.neighbour direction band).map fun entry =>
            bandLinkage.place entry.2 direction.flip) := by
  have unfolded : bandLinkage.read heap own direction =
      heap[own.toward direction]?.map fun proxy => proxy.otherBand := rfl
  rw [unfolded]
  cases heap[own.toward direction]? with
  | none => simp
  | some proxy =>
      simp only [Option.map_some, Option.some.injEq]
      constructor
      · rintro rfl
        exact ⟨rfl, rfl⟩
      · rintro ⟨rfl, link⟩
        obtain ⟨otherBand, currentItem⟩ := proxy
        cases link
        rfl

/-! ## Connecting -/

namespace NBandCache

theorem ensures_connectItem {cache : NBandCache} {item : Nat} {name band : Bytes} {row : Table Bytes Nat}
    (entered : cache.bands.row band = row.insert name item) (allocated : item ∈ cache.items)
    (others : forall (name : Bytes) (other : Nat), row[name]? = some other ->
      other ∈ cache.items ∧ item ≠ other) (direction : Direction) :
    Ensures (cache.connectItem item name band direction) fun next => Exists fun items =>
      next = { cache with items := items } ∧
        itemLinkage.Connected row name item direction cache.items items := by
  rw [connectItem, entered, Table.neighbour_insert_self]
  unfold Linkage.Connected
  cases found : row.neighbour direction name with
  | none => exact .done ⟨cache.items, rfl, rfl⟩
  | some entry =>
      obtain ⟨there, different⟩ := others entry.1 entry.2 (Table.neighbour_eq_some_iff.mp found).1
      exact (Ensures.assign_both different allocated there).map fun items changed =>
        ⟨items, rfl, changed⟩

theorem ensures_connectBand {cache : NBandCache} {own : Proxies} {band : Bytes}
    {proxies : Table Bytes Proxies} (entered : cache.proxies = proxies.insert band own)
    (allocated : forall direction, own.toward direction ∈ cache.proxyItems)
    (others : forall (band : Bytes) (other : Proxies), proxies[band]? = some other ->
      (forall direction, other.toward direction ∈ cache.proxyItems) ∧ bandLinkage.Apart own other)
    (direction : Direction) :
    Ensures (cache.connectBand own band direction) fun next => Exists fun proxyItems =>
      next = { cache with proxyItems := proxyItems } ∧
        bandLinkage.Connected proxies band own direction cache.proxyItems proxyItems := by
  rw [connectBand, entered, Table.neighbour_insert_self]
  unfold Linkage.Connected
  cases found : proxies.neighbour direction band with
  | none => exact .done ⟨cache.proxyItems, by rw [← entered], rfl⟩
  | some entry =>
      obtain ⟨there, apart⟩ := others entry.1 entry.2 (Table.neighbour_eq_some_iff.mp found).1
      refine (Ensures.assign_both (apart direction direction.flip).symm (there direction.flip)
        (allocated direction)).map fun proxyItems changed => ⟨proxyItems, by rw [← entered], ?_⟩
      intro address
      rw [changed]
      congr 1
      funext proxy
      by_cases own_here : address = bandLinkage.place own direction
      · have elsewhere : address ≠ bandLinkage.place entry.2 direction.flip := by
          rw [own_here]
          exact apart direction direction.flip
        rw [if_neg elsewhere, if_pos own_here, if_pos own_here]
        rfl
      · rw [if_neg own_here, if_neg own_here]
        rfl

end NBandCache

/-! ## A new band -/

namespace Framed

variable {proxies : Table Bytes Proxies} {proxyItems : Table Nat NBandProxyCacheItem}
  {current : Bytes -> Option Nat} {band : Bytes} {own : Proxies}

theorem insertable (framed : Framed proxies proxyItems current) (fresh : band ∉ proxies)
    (different : own.first ≠ own.second)
    (unused : forall direction, own.toward direction ∉ proxyItems) :
    bandLinkage.Insertable proxies band own where
  fresh := fresh
  sound := sound_band different
  sound' other pair known := sound_band fun same => by
    cases (framed.distinct other other pair pair .back .ahead known known same).2
  apart other pair known direction direction' same :=
    unused direction ((show own.toward direction = pair.toward direction' from same) ▸
      framed.allocated known direction')
  distinct one two pair pair' known known' apart direction direction' same :=
    apart (framed.distinct one two pair pair' direction direction' known known' same).1

end Framed

/-- The two new proxies, before they are connected. -/
private def withProxies (heap : Table Nat NBandProxyCacheItem) (own : Proxies)
    (proxy : NBandProxyCacheItem) : Table Nat NBandProxyCacheItem :=
  (heap.insert own.first proxy).insert own.second proxy

private theorem withProxies_own (heap : Table Nat NBandProxyCacheItem) (own : Proxies)
    (proxy : NBandProxyCacheItem) (direction : Direction) :
    (withProxies heap own proxy)[own.toward direction]? = some proxy := by
  rw [withProxies, Table.getElem?_insert_eq, Table.getElem?_insert_eq]
  cases direction with
  | back => rw [if_pos (show own.toward .back = own.first from rfl), ite_self]
  | ahead => exact if_pos rfl

private theorem withProxies_other {heap : Table Nat NBandProxyCacheItem} {own : Proxies} {address : Nat}
    (different : forall direction, address ≠ own.toward direction) (proxy : NBandProxyCacheItem) :
    (withProxies heap own proxy)[address]? = heap[address]? := by
  rw [withProxies, Table.getElem?_insert_eq, Table.getElem?_insert_eq,
    if_neg (show address ≠ own.second from different .ahead),
    if_neg (show address ≠ own.first from different .back)]

/-- The proxies of the old bands are as they were. -/
private theorem Framed.old {proxies : Table Bytes Proxies} {proxyItems : Table Nat NBandProxyCacheItem}
    {current : Bytes -> Option Nat} {band : Bytes} {own : Proxies}
    (framed : Framed proxies proxyItems current) (insertable : bandLinkage.Insertable proxies band own)
    (proxy : NBandProxyCacheItem) {other : Bytes} {pair : Proxies} (known : proxies[other]? = some pair)
    (direction : Direction) :
    (withProxies proxyItems own proxy)[pair.toward direction]? =
      some (proxied proxies other (current other) direction) := by
  rw [withProxies_other _ proxy]
  · exact framed.proxyItems other pair direction known
  · exact fun direction' same => insertable.apart other pair known direction' direction same.symm

/-- A band that is connected on both sides belongs to the frame. -/
theorem Framed.insert {proxies : Table Bytes Proxies}
    {proxyItems middle last : Table Nat NBandProxyCacheItem} {current : Bytes -> Option Nat}
    {band : Bytes} {own : Proxies} {item : Nat} (framed : Framed proxies proxyItems current)
    (insertable : bandLinkage.Insertable proxies band own) (different : own.first ≠ own.second)
    (first : bandLinkage.Connected proxies band own .back (withProxies proxyItems own ⟨none, some item⟩) middle)
    (second : bandLinkage.Connected proxies band own .ahead middle last) :
    Framed (proxies.insert band own) last (Function.update current band (some item)) where
  proxyItems other pair direction known := by
    have chained : bandLinkage.Chained last (proxies.insert band own) := by
      refine Linkage.Chained.insert ?_ insertable ?_ first second
      · exact fun other pair direction known =>
          (read_proxy_iff.mp (framed.old insertable _ known direction)).2
      · intro direction
        exact congrArg (Option.map _) (withProxies_own proxyItems own _ direction)
    refine read_proxy_iff.mpr ⟨?_, chained other pair direction known⟩
    rw [second.frame (fun _ _ _ => rfl), first.frame (fun _ _ _ => rfl)]
    rw [Table.getElem?_insert_eq] at known
    split at known
    next same =>
      cases known
      rw [withProxies_own, same, Function.update_self]
      rfl
    next elsewhere =>
      rw [framed.old insertable _ known, Function.update_of_ne elsewhere]
      rfl
  distinct one two pair pair' direction direction' known known' same := by
    rw [Table.getElem?_insert_eq] at known known'
    split at known
    next here =>
      cases known
      split at known'
      next here' =>
        cases known'
        exact ⟨here.trans here'.symm, toward_injective different same⟩
      next => exact absurd same (insertable.apart two pair' known' direction direction')
    next =>
      split at known'
      next =>
        cases known'
        exact absurd same.symm (insertable.apart one pair known direction' direction)
      next => exact framed.distinct one two pair pair' direction direction' known known' same

namespace Represents

variable {cache : NBandCache} {model : BandModel}

/-- A new band is put between its neighbours. -/
theorem addBand (represents : Represents cache model) {item : Nat} {band : Bytes} {own : Proxies}
    (fresh : band ∉ model.bands) (different : own.first ≠ own.second)
    (unused : forall direction, own.toward direction ∉ cache.proxyItems) :
    Ensures (cache.addBand item band own) fun next => Exists fun proxyItems =>
      next = { cache with proxyItems := proxyItems, proxies := cache.proxies.insert band own } ∧
        Framed (cache.proxies.insert band own) proxyItems
          (Function.update model.current band (some item)) := by
  have framed := represents.toFramed
  have unknown : band ∉ cache.proxies := fun known => fresh (represents.populated band known)
  have insertable := framed.insertable unknown different unused
  have allocated (direction : Direction) :=
    Table.mem_of_getElem? (withProxies_own cache.proxyItems own ⟨none, some item⟩ direction)
  have others (other : Bytes) (pair : Proxies) (known : cache.proxies[other]? = some pair)
      (direction : Direction) :=
    Table.mem_of_getElem? (framed.old insertable ⟨none, some item⟩ known direction)
  unfold NBandCache.addBand
  refine .bind (NBandCache.ensures_connectBand rfl allocated (fun other pair known =>
    ⟨others other pair known, insertable.apart other pair known⟩) .back) ?_
  rintro _ ⟨middle, rfl, first⟩
  refine (NBandCache.ensures_connectBand rfl (fun direction => (first.mem_iff _).mpr (allocated direction))
    (fun other pair known => ⟨fun direction => (first.mem_iff _).mpr (others other pair known direction),
      insertable.apart other pair known⟩) .ahead).mono ?_
  rintro _ ⟨last, rfl, second⟩
  exact ⟨last, rfl, framed.insert insertable different first second⟩

end Represents

/-! ## A new item -/

namespace Furnished

variable {bands : Table Bytes (Table Bytes Nat)} {proxies : Table Bytes Proxies}
  {items middle last : Table Nat NBandCacheItem} {name band : Bytes} {item : Nat} {own : Proxies}

theorem insertable (furnished : Furnished bands proxies items) (fresh : name ∉ bands.row band)
    (unused : forall (name band : Bytes), (bands.row band)[name]? ≠ some item) :
    itemLinkage.Insertable (bands.row band) name item where
  fresh := fresh
  sound := sound_item item
  sound' _ address _ := sound_item address
  apart other address found _ _ same := by
    cases (show item = address from same)
    exact unused other band found
  distinct one two address address' found found' different _ _ same := by
    cases (show address = address' from same)
    exact different (furnished.place_unique found found').2

/-- An item that is connected on both sides belongs to its band. -/
theorem insert (furnished : Furnished bands proxies items)
    (insertable : itemLinkage.Insertable (bands.row band) name item)
    (unused : forall (name band : Bytes), (bands.row band)[name]? ≠ some item)
    (known : proxies[band]? = some own)
    (new : items[item]? = some { NBandCacheItem.new name band with
      up := some own.first
      down := some own.second })
    (first : itemLinkage.Connected (bands.row band) name item .back items middle)
    (second : itemLinkage.Connected (bands.row band) name item .ahead middle last) :
    Furnished (bands.store band name item) proxies last where
  established other member := by
    rcases (Table.mem_store bands band other name item).mp member with rfl | before
    · exact Table.mem_of_getElem? known
    · exact furnished.established other before
  items name' band' address own' stored known' := by
    have chained : itemLinkage.Chained last ((bands.row band).insert name item) := by
      refine Linkage.Chained.insert ?_ insertable ?_ first second
      · intro other address direction found
        exact (read_item_iff.mp (furnished.items other band address own found known)).2 direction
      · intro direction
        rw [Linkage.read, show items[itemLinkage.place item direction]? = _ from new]
        cases direction <;> rfl
    rw [Table.store, Table.row_insert] at stored ⊢
    split
    next here =>
      rw [if_pos here] at stored
      subst here
      cases known.symm.trans known'
      refine read_item_iff.mpr ⟨?_, fun direction => chained name' address direction stored⟩
      rw [second.frame rest_setLink, first.frame rest_setLink]
      rw [Table.getElem?_insert_eq] at stored
      split at stored
      next same =>
        cases stored
        rw [new, same]
        rfl
      next => exact (read_item_iff.mp (furnished.items name' band address own stored known)).1
    next elsewhere =>
      rw [if_neg elsewhere] at stored
      have apart : address ≠ item := fun same => unused name' band' (same ▸ stored)
      have outside (other : Bytes) (entry : Nat) (found : (bands.row band)[other]? = some entry) :
          address ≠ entry := by
        rintro rfl
        exact elsewhere (furnished.place_unique found stored).1
      rw [second.outside apart outside, first.outside apart outside]
      exact furnished.items name' band' address own' stored known'

/-- An item of a band that has proxies is entered if its name is not taken. -/
theorem addItem {cache : NBandCache} (furnished : Furnished cache.bands cache.proxies cache.items)
    (unused : forall (name band : Bytes), (cache.bands.row band)[name]? ≠ some item)
    (known : cache.proxies[band]? = some own)
    (new : cache.items[item]? = some (.new name band)) :
    Ensures (cache.addItem item name band) fun next => Exists fun items =>
      if name ∈ cache.bands.row band then
        next = { cache with items := items } ∧ Furnished cache.bands cache.proxies items
      else
        next = { cache with items := items, bands := cache.bands.store band name item } ∧
          Furnished (cache.bands.store band name item) cache.proxies items := by
  rw [NBandCache.addItem, known, Option.bind_some]
  refine .bind (.assign (Table.mem_of_getElem? new)) fun items changed => ?_
  have own_changed := changed item
  rw [new, Option.map_some, if_pos rfl] at own_changed
  have kept : Furnished cache.bands cache.proxies items := by
    refine { furnished with items := fun other band address own found known => ?_ }
    have different : address ≠ item := fun same => unused other band (same ▸ found)
    rw [changed, furnished.items other band address own found known, Option.map_some, if_neg different]
  split
  next taken => exact .done ⟨items, rfl, kept⟩
  next free =>
    have insertable := kept.insertable free unused
    have entered : (cache.bands.store band name item).row band = (cache.bands.row band).insert name item := by
      rw [Table.store, Table.row_insert, if_pos rfl]
    have others (other : Bytes) (address : Nat) (found : (cache.bands.row band)[other]? = some address) :
        address ∈ items ∧ item ≠ address :=
      ⟨Table.mem_of_getElem? (kept.items other band address own found known),
        insertable.apart other address found .back .back⟩
    refine .bind (NBandCache.ensures_connectItem entered (Table.mem_of_getElem? own_changed) others .back) ?_
    rintro _ ⟨middle, rfl, first⟩
    refine (NBandCache.ensures_connectItem entered ((first.mem_iff item).mpr
      (Table.mem_of_getElem? own_changed)) (fun other address found =>
        ⟨(first.mem_iff address).mpr (others other address found).1, (others other address found).2⟩)
      .ahead).mono ?_
    rintro _ ⟨last, rfl, second⟩
    exact ⟨last, rfl, kept.insert insertable unused known own_changed first second⟩

end Furnished

/-! ## Both together -/

namespace BandModel

variable {model : BandModel} {item : Nat} {name band : Bytes}

theorem insert_of_not_mem (fresh : name ∉ model.bands.row band) : model.insert item name band =
    { model with
      bands := model.bands.store band name item
      cursors := model.cursors.insertIfNew band name } :=
  if_neg fresh

theorem item_insert (fresh : name ∉ model.bands.row band) (other column : Bytes) :
    (model.insert item name band).item other column =
      if band = other ∧ name = column then some item else model.item other column := by
  rw [insert_of_not_mem fresh]
  exact Table.getElem?_row_store model.bands band other name column item

/-- What there is stays where it is. -/
theorem item_insert_of_found (fresh : name ∉ model.bands.row band) {other column : Bytes} {address : Nat}
    (found : model.item other column = some address) :
    (model.insert item name band).item other column = some address := by
  rw [item_insert fresh, if_neg, found]
  rintro ⟨rfl, rfl⟩
  exact fresh (Table.mem_of_getElem? found)

end BandModel

namespace Represents

variable {cache : NBandCache} {model : BandModel} {item : Nat} {name band : Bytes}

theorem cursor_of_not_mem (represents : Represents cache model) (unknown : band ∉ model.bands) :
    model.cursors[band]? = none :=
  ExtTreeMap.getElem?_eq_none fun member => unknown (represents.cursors band member)

/-- The cursor of a band that is there stays, and that of a new band is the first item. -/
theorem current_insert (represents : Represents cache model) (fresh : name ∉ model.bands.row band) :
    (model.insert item name band).current =
      if band ∈ model.bands then model.current else Function.update model.current band (some item) := by
  have cursors (other : Bytes) : (model.insert item name band).cursors[other]? =
      if band = other then some (model.cursors[band]?.getD name) else model.cursors[other]? := by
    rw [BandModel.insert_of_not_mem fresh]
    exact Table.getElem?_touch model.cursors band other name
  have kept (other : Bytes) (known : other ∈ model.bands) :
      (model.insert item name band).current other = model.current other := by
    obtain ⟨cursor, address, there, found⟩ := represents.cursor_of_mem known
    have still : (model.insert item name band).cursors[other]? = some cursor := by
      rw [cursors]
      split
      next same => rw [same, there, Option.getD_some]
      next => exact there
    rw [BandModel.current, BandModel.current, still, there, Option.bind_some, Option.bind_some, found,
      BandModel.item_insert_of_found fresh found]
  have outside (other : Bytes) (unknown : other ∉ model.bands) (different : band ≠ other) :
      (model.insert item name band).current other = model.current other := by
    rw [BandModel.current, BandModel.current, cursors, if_neg different,
      represents.cursor_of_not_mem unknown, Option.bind_none, Option.bind_none]
  funext other
  split
  next known =>
    by_cases member : other ∈ model.bands
    · exact kept other member
    · exact outside other member fun same => member (same ▸ known)
  next unknown =>
    by_cases same : other = band
    · rw [same, Function.update_self, BandModel.current, cursors, if_pos rfl,
        represents.cursor_of_not_mem unknown, Option.getD_none, Option.bind_some,
        BandModel.item_insert fresh, if_pos ⟨rfl, rfl⟩]
    · rw [Function.update_of_ne same]
      by_cases member : other ∈ model.bands
      · exact kept other member
      · exact outside other member (Ne.symm same)

/-- An object is allocated where there is none. -/
theorem allocate (represents : Represents cache model) (fresh : item ∉ cache.items)
    (object : NBandCacheItem) :
    Represents { cache with items := cache.items.insert item object } model := by
  refine { represents with items := fun name band address own found established => ?_ }
  have known := represents.items name band address own found established
  rw [Table.getElem?_insert_eq, if_neg, known]
  rintro rfl
  exact fresh (Table.mem_of_getElem? known)

/-- Nothing else is to be shown when the chains are right again. -/
theorem inserted (represents : Represents cache model) (fresh : name ∉ model.bands.row band)
    {items : Table Nat NBandCacheItem} {proxyItems : Table Nat NBandProxyCacheItem}
    {proxies : Table Bytes Proxies}
    (furnished : Furnished (model.bands.store band name item) proxies items)
    (framed : Framed proxies proxyItems (model.insert item name band).current)
    (populated : forall other, other ∈ proxies -> other = band ∨ other ∈ model.bands) :
    Represents ⟨items, proxyItems, model.bands.store band name item, proxies, cache.pointers⟩
      (model.insert item name band) := by
  have bands : (model.insert item name band).bands = model.bands.store band name item := by
    rw [BandModel.insert_of_not_mem fresh]
  have pointers : (model.insert item name band).pointers = model.pointers := by
    rw [BandModel.insert_of_not_mem fresh]
  have cursors : (model.insert item name band).cursors = model.cursors.insertIfNew band name := by
    rw [BandModel.insert_of_not_mem fresh]
  refine { framed with
    established := fun other member => ?_
    items := fun other band address own found known => ?_
    bands := bands.symm
    populated := fun other member => ?_
    current := fun other => ?_
    cursors := fun other member => ?_
    pointers := fun handle => ?_
    designated := fun handle place found => ?_ }
  · exact furnished.established other (bands ▸ member)
  · rw [bands] at found ⊢
    exact furnished.items other band address own found known
  · rw [bands, Table.mem_store]
    exact (populated other member).imp Eq.symm id
  · rw [bands, Table.mem_store, represents.current_insert fresh]
    split
    next known =>
      rw [← represents.current]
      exact or_iff_right_of_imp fun same => same ▸ known
    next =>
      by_cases same : other = band
      · rw [same, Function.update_self]
        exact iff_of_true (.inl rfl) ⟨item, rfl⟩
      · rw [Function.update_of_ne same, ← represents.current]
        exact or_iff_right (Ne.symm same)
  · rw [bands, Table.mem_store]
    rw [cursors, ExtTreeMap.mem_insertIfNew, LawfulEqCmp.compare_eq_iff_eq] at member
    exact member.imp id (represents.cursors other)
  · refine (represents.pointers handle).trans ?_
    rw [pointers]
    cases designates : model.pointers[handle]? with
    | none => rfl
    | some place =>
        obtain ⟨address, found⟩ := represents.designated handle place designates
        rw [Option.bind_some, Option.bind_some, found, BandModel.item_insert_of_found fresh found]
  · rw [pointers] at found
    obtain ⟨address, there⟩ := represents.designated handle place found
    exact ⟨address, BandModel.item_insert_of_found fresh there⟩

/-- A band without items has any proxies. -/
private theorem furnished_insert (represents : Represents cache model) (unknown : band ∉ model.bands)
    (own : Proxies) : Furnished model.bands (cache.proxies.insert band own) cache.items where
  established other member := Table.mem_insert_iff.mpr (.inr (represents.established other member))
  items name other address own' found known := by
    rw [Table.getElem?_insert_eq, if_neg] at known
    · exact represents.items name other address own' found known
    · rintro rfl
      exact unknown (mem_bands_of_item found)

theorem insert (represents : Represents cache model) {own : Proxies} (fresh : item ∉ cache.items)
    (different : own.first ≠ own.second)
    (unused : forall direction, own.toward direction ∉ cache.proxyItems) :
    Ensures (cache.insert item name band own) fun next => Represents next (model.insert item name band) := by
  have allocated := represents.allocate fresh (.new name band)
  have unused_item (name band : Bytes) : model.item band name ≠ some item := by
    intro found
    obtain ⟨_, _, object⟩ := represents.toFurnished.found found
    exact fresh (Table.mem_of_getElem? object)
  have new : (cache.items.insert item (.new name band))[item]? = some (.new name band) :=
    ExtTreeMap.getElem?_insert_self
  obtain ⟨items, proxyItems, bands, proxies, pointers⟩ := cache
  obtain rfl : bands = model.bands := represents.bands
  unfold NBandCache.insert
  dsimp only at *
  split
  next known =>
    obtain ⟨own, established⟩ := Table.getElem?_of_mem known
    rw [Option.bind_some]
    refine .mono (Furnished.addItem allocated.toFurnished unused_item established new) ?_
    rintro next ⟨items', outcome⟩
    split at outcome
    next taken =>
      obtain ⟨rfl, furnished⟩ := outcome
      rw [BandModel.insert, if_pos taken]
      exact { allocated with items := furnished.items }
    next free =>
      obtain ⟨rfl, furnished⟩ := outcome
      refine allocated.inserted free furnished ?_ fun other member => .inr (represents.populated other member)
      rw [represents.current_insert free, if_pos (represents.populated band known)]
      exact represents.toFramed
  next unknown =>
    have absent : band ∉ model.bands := fun member => unknown (represents.established band member)
    have free : name ∉ model.bands.row band := by
      rw [Table.row_of_not_mem absent]
      exact ExtTreeMap.not_mem_empty
    refine .bind (allocated.addBand absent different unused) ?_
    rintro _ ⟨proxyItems', rfl, framed⟩
    refine .mono (Furnished.addItem (allocated.furnished_insert absent own) unused_item
      ExtTreeMap.getElem?_insert_self new) ?_
    rintro next ⟨items', outcome⟩
    rw [if_neg free] at outcome
    obtain ⟨rfl, furnished⟩ := outcome
    refine allocated.inserted free furnished ?_ fun other member =>
      (Table.mem_insert_iff.mp member).imp id (represents.populated other)
    rw [represents.current_insert free, if_neg absent]
    exact framed

end Represents

end Util
end Umundo
