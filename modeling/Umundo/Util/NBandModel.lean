import Umundo.Util.NBandCache

namespace Umundo
namespace Util

open Foundation Std

/-!
# What the cache is for

Without links the cache is a sorted map of sorted maps.  Every band has a cursor, and a
pointer designates a band and a name in it.  `Represents` says that the linked objects
are those of such a model: every link is there, and leads to the neighbour.
-/

/-- Items are named by their addresses. -/
structure BandModel where
  bands : Table Bytes (Table Bytes Nat)
  /-- the name of the current item of each band -/
  cursors : Table Bytes Bytes
  /-- the band and the name that each pointer designates -/
  pointers : Table Nat (Bytes × Bytes)

namespace BandModel

def init : BandModel := ⟨∅, ∅, ∅⟩

def item (model : BandModel) (band name : Bytes) : Option Nat := (model.bands.row band)[name]?

/-- The first item of a band is its cursor.  A name that is taken changes nothing. -/
def insert (item : Nat) (name band : Bytes) (model : BandModel) : BandModel :=
  if name ∈ model.bands.row band then model
  else
    { model with
      bands := model.bands.store band name item
      cursors := model.cursors.insertIfNew band name }

def move (direction : Direction) (handle : Nat) (moveBand : Bool) (model : BandModel) :
    BandModel × Option Nat :=
  match model.pointers[handle]? with
  | none => (model, none)
  | some (band, name) =>
      match (model.bands.row band).neighbour direction name with
      | none => (model, none)
      | some (next, item) =>
          ({ model with
              cursors := if moveBand then model.cursors.insert band next else model.cursors
              pointers := model.pointers.insert handle (band, next) },
            some item)

def cross (direction : Direction) (handle : Nat) (model : BandModel) : BandModel × Option Nat :=
  match model.pointers[handle]? with
  | none => (model, none)
  | some (band, _) =>
      match model.bands.neighbour direction band with
      | none => (model, none)
      | some (next, row) =>
          let name := model.cursors.getD next []
          ({ model with pointers := model.pointers.insert handle (next, name) }, row[name]?)

/-- The position of the item in its band. -/
def getElementId (handle : Nat) (model : BandModel) : Nat :=
  match model.pointers[handle]? with
  | none => 0
  | some (band, name) => (model.bands.row band).rank name

def getPointerAt (handle : Nat) (band : Bytes) (model : BandModel) : BandModel × Option Nat :=
  match model.cursors[band]? with
  | none => ({ model with pointers := model.pointers.erase handle }, none)
  | some name =>
      ({ model with pointers := model.pointers.insert handle (band, name) }, model.item band name)

/-- A pointer into the first band. -/
def getPointer (handle : Nat) (model : BandModel) : BandModel × Option Nat :=
  model.getPointerAt handle (model.bands.keys.head?.getD [])

def step (model : BandModel) : CacheEvent -> BandModel × List CacheResult
  | .insert item name band _ => (model.insert item name band, [])
  | .getPointer handle =>
      ((model.getPointer handle).1, [.pointer (model.getPointer handle).2])
  | .getPointerAt handle band =>
      ((model.getPointerAt handle band).1, [.pointer (model.getPointerAt handle band).2])
  | .left handle moveBand => through handle (model.move .back handle moveBand)
  | .right handle moveBand => through handle (model.move .ahead handle moveBand)
  | .up handle => through handle (model.cross .back handle)
  | .down handle => through handle (model.cross .ahead handle)
  | .getElementId handle =>
      if handle ∈ model.pointers then (model, [.elementId (model.getElementId handle)])
      else (model, [])
where
  through (handle : Nat) (result : BandModel × Option Nat) : BandModel × List CacheResult :=
    if handle ∈ model.pointers then (result.1, [.item result.2]) else (model, [])

/-- The item at which one arrives from another band. -/
def current (model : BandModel) (band : Bytes) : Option Nat :=
  model.cursors[band]?.bind (model.item band)

end BandModel

/-! ## The linked objects of a model -/

/-- The object of an item, with all its links. -/
def linked (row : Table Bytes Nat) (own : Proxies) (name band : Bytes) : NBandCacheItem where
  name := name
  band := band
  left := (row.neighbour .back name).map Prod.snd
  right := (row.neighbour .ahead name).map Prod.snd
  up := some own.first
  down := some own.second

theorem link_linked (row : Table Bytes Nat) (own : Proxies) (name band : Bytes) (direction : Direction) :
    (linked row own name band).link direction = (row.neighbour direction name).map Prod.snd := by
  cases direction <;> rfl

theorem proxy_linked (row : Table Bytes Nat) (own : Proxies) (name band : Bytes) (direction : Direction) :
    (linked row own name band).proxy direction = some (own.toward direction) := by
  cases direction <;> rfl

/-- The proxy of a band in a direction. -/
def proxied (proxies : Table Bytes Proxies) (band : Bytes) (current : Option Nat)
    (direction : Direction) : NBandProxyCacheItem where
  otherBand := (proxies.neighbour direction band).map fun entry => entry.2.toward direction.flip
  currentItem := current

/-- The items of all bands, which have proxies. -/
structure Furnished (bands : Table Bytes (Table Bytes Nat)) (proxies : Table Bytes Proxies)
    (items : Table Nat NBandCacheItem) : Prop where
  established : forall band, band ∈ bands -> band ∈ proxies
  items : forall (name band : Bytes) (address : Nat) (own : Proxies),
    (bands.row band)[name]? = some address -> proxies[band]? = some own ->
      items[address]? = some (linked (bands.row band) own name band)

namespace Furnished

variable {bands : Table Bytes (Table Bytes Nat)} {proxies : Table Bytes Proxies}
  {items : Table Nat NBandCacheItem} {name band : Bytes}

/-- An item is found with all its links. -/
theorem found (furnished : Furnished bands proxies items) {address : Nat}
    (found : (bands.row band)[name]? = some address) :
    Exists fun own => proxies[band]? = some own ∧
      items[address]? = some (linked (bands.row band) own name band) := by
  obtain ⟨row, stored, _⟩ := Table.getElem?_row_eq_some_iff.mp found
  obtain ⟨own, known⟩ :=
    Table.getElem?_of_mem (furnished.established band (Table.mem_of_getElem? stored))
  exact ⟨own, known, furnished.items name band address own found known⟩

/-- An address belongs to one item. -/
theorem place_unique (furnished : Furnished bands proxies items) {name' band' : Bytes} {address : Nat}
    (found : (bands.row band)[name]? = some address) (found' : (bands.row band')[name']? = some address) :
    band = band' ∧ name = name' := by
  obtain ⟨_, _, first⟩ := furnished.found found
  obtain ⟨_, _, second⟩ := furnished.found found'
  have same := Option.some.inj (first.symm.trans second)
  exact ⟨congrArg NBandCacheItem.band same, congrArg NBandCacheItem.name same⟩

end Furnished

/-- The proxies of all bands, which are different objects. -/
structure Framed (proxies : Table Bytes Proxies) (proxyItems : Table Nat NBandProxyCacheItem)
    (current : Bytes -> Option Nat) : Prop where
  proxyItems : forall (band : Bytes) (own : Proxies) (direction : Direction), proxies[band]? = some own ->
    proxyItems[own.toward direction]? = some (proxied proxies band (current band) direction)
  distinct : forall (band band' : Bytes) (own own' : Proxies) (direction direction' : Direction),
    proxies[band]? = some own -> proxies[band']? = some own' ->
      own.toward direction = own'.toward direction' -> band = band' ∧ direction = direction'

theorem Framed.allocated {proxies : Table Bytes Proxies} {proxyItems : Table Nat NBandProxyCacheItem}
    {current : Bytes -> Option Nat} {band : Bytes} {own : Proxies}
    (framed : Framed proxies proxyItems current) (known : proxies[band]? = some own)
    (direction : Direction) : own.toward direction ∈ proxyItems :=
  Table.mem_of_getElem? (framed.proxyItems band own direction known)

structure Represents (cache : NBandCache) (model : BandModel) : Prop extends
    Furnished model.bands cache.proxies cache.items,
    Framed cache.proxies cache.proxyItems model.current where
  bands : cache.bands = model.bands
  populated : forall band, band ∈ cache.proxies -> band ∈ model.bands
  /-- every band has a cursor, and there is an item at it -/
  current : forall band, band ∈ model.bands <-> Exists fun item => model.current band = some item
  cursors : forall band, band ∈ model.cursors -> band ∈ model.bands
  /-- a pointer points to the item that it designates, which is there -/
  pointers : forall handle : Nat, cache.pointers[handle]? =
    model.pointers[handle]?.bind fun place => model.item place.1 place.2
  designated : forall (handle : Nat) (place : Bytes × Bytes), model.pointers[handle]? = some place ->
    Exists fun address => model.item place.1 place.2 = some address

namespace Represents

variable {cache : NBandCache} {model : BandModel}

theorem init : Represents .init .init where
  bands := rfl
  established band member := absurd member ExtTreeMap.not_mem_empty
  populated band member := absurd member ExtTreeMap.not_mem_empty
  current band := by simp [BandModel.init, BandModel.current]
  cursors band member := absurd member ExtTreeMap.not_mem_empty
  items name band address own found := by simp [BandModel.init, Table.row] at found
  proxyItems band own direction found := by simp [NBandCache.init] at found
  distinct band band' own own' direction direction' found := by simp [NBandCache.init] at found
  pointers handle := by simp [NBandCache.init, BandModel.init]
  designated handle place found := by simp [BandModel.init] at found

theorem mem_bands_of_item {name band : Bytes} {address : Nat}
    (found : model.item band name = some address) : band ∈ model.bands := by
  obtain ⟨row, stored, _⟩ := Table.getElem?_row_eq_some_iff.mp found
  exact Table.mem_of_getElem? stored

theorem established_iff (represents : Represents cache model) (band : Bytes) :
    band ∈ cache.proxies <-> band ∈ model.bands :=
  ⟨represents.populated band, represents.established band⟩

end Represents

end Util
end Umundo
