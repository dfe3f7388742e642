import Mathlib.Logic.Relation
import Umundo.Util.NBandInsertion
import Umundo.Util.StructuredCache

namespace Umundo
namespace Util

open Foundation Std

/-!
# Every object that is linked is known to the cache

What a call leaves as it is comes first: the tables, the names of the items, and which objects
there are.  With it the cache keeps two facts over every run.  The links are those of a model,
and the objects that are linked were entered.
-/

/-! ## What a call leaves as it is -/

namespace NBandCache

/-- The tables, the names of the items and the proxies are the same. -/
structure Same (cache next : NBandCache) : Prop where
  bands : next.bands = cache.bands
  proxies : next.proxies = cache.proxies
  names : forall address : Nat,
    next.items[address]?.map (fun item => (item.name, item.band)) =
      cache.items[address]?.map fun item => (item.name, item.band)
  proxyItems : forall address : Nat, address ∈ next.proxyItems <-> address ∈ cache.proxyItems

variable {cache middle next : NBandCache}

theorem Same.refl (cache : NBandCache) : Same cache cache :=
  ⟨rfl, rfl, fun _ => rfl, fun _ => Iff.rfl⟩

theorem Same.trans (first : Same cache middle) (second : Same middle next) : Same cache next where
  bands := second.bands.trans first.bands
  proxies := second.proxies.trans first.proxies
  names address := (second.names address).trans (first.names address)
  proxyItems address := (second.proxyItems address).trans (first.proxyItems address)

theorem mem_of_map_eq {Node Part : Type} {heap next : Table Nat Node} {part : Node -> Part} {address : Nat}
    (same : next[address]?.map part = heap[address]?.map part) : address ∈ next <-> address ∈ heap := by
  rw [ExtTreeMap.mem_iff_isSome_getElem?, ExtTreeMap.mem_iff_isSome_getElem?, ← Option.isSome_map, same,
    Option.isSome_map]

theorem yields_assign_proxy (heap : Table Nat NBandProxyCacheItem) (address : Nat)
    (change : NBandProxyCacheItem -> NBandProxyCacheItem) :
    Yields (assign heap address change) fun next => forall other : Nat, other ∈ next <-> other ∈ heap :=
  (@Yields.assign _ Unit heap address change (fun _ => ()) fun _ => rfl).mono fun _ same other =>
    mem_of_map_eq (same other)

theorem yields_connectBand (own : Proxies) (band : Bytes) (direction : Direction) (cache : NBandCache) :
    Yields (cache.connectBand own band direction) (Same cache) := by
  unfold connectBand
  split
  next => exact .done (.refl cache)
  next other found =>
    intro next ends
    obtain ⟨last, changed, rfl⟩ := Option.map_eq_some_iff.mp ends
    obtain ⟨middle, first, second⟩ := Option.bind_eq_some_iff.mp changed
    refine ⟨rfl, rfl, fun _ => rfl, fun address => ?_⟩
    exact (yields_assign_proxy _ _ _ last second address).trans (yields_assign_proxy _ _ _ middle first address)

theorem yields_addBand (item : Nat) (band : Bytes) (own : Proxies) (cache : NBandCache) :
    Yields (cache.addBand item band own) (Same { cache with
      proxyItems := (cache.proxyItems.insert own.first ⟨none, some item⟩).insert own.second ⟨none, some item⟩
      proxies := cache.proxies.insert band own }) :=
  .bind (yields_connectBand own band .back _) fun middle first =>
    (yields_connectBand own band .ahead middle).mono fun _ second => first.trans second

/-- Links can be changed without changing a name. -/
theorem yields_assign_item (heap : Table Nat NBandCacheItem) (address : Nat)
    {change : NBandCacheItem -> NBandCacheItem}
    (kept : forall item : NBandCacheItem, (change item).name = item.name ∧ (change item).band = item.band) :
    Yields (assign heap address change) fun next => forall other : Nat,
      next[other]?.map (fun item => (item.name, item.band)) =
        heap[other]?.map fun item => (item.name, item.band) :=
  Yields.assign fun item => by rw [(kept item).1, (kept item).2]

theorem setLink_name (target : Nat) (direction : Direction) (item : NBandCacheItem) :
    (item.setLink target direction).name = item.name ∧ (item.setLink target direction).band = item.band := by
  cases direction <;> exact ⟨rfl, rfl⟩

theorem yields_connectItem (item : Nat) (name band : Bytes) (direction : Direction) (cache : NBandCache) :
    Yields (cache.connectItem item name band direction) (Same cache) := by
  unfold connectItem
  split
  next => exact .done (.refl cache)
  next other found =>
    intro next ends
    obtain ⟨last, changed, rfl⟩ := Option.map_eq_some_iff.mp ends
    obtain ⟨middle, first, second⟩ := Option.bind_eq_some_iff.mp changed
    refine ⟨rfl, rfl, fun address => ?_, fun _ => Iff.rfl⟩
    exact (yields_assign_item _ _ (setLink_name _ _) last second address).trans
      (yields_assign_item _ _ (setLink_name _ _) middle first address)

/-- The bands with an item, unless its name is taken. -/
def entered (item : Nat) (name band : Bytes) (cache : NBandCache) : NBandCache :=
  if name ∈ cache.bands.row band then cache else { cache with bands := cache.bands.store band name item }

theorem yields_addItem (item : Nat) (name band : Bytes) (cache : NBandCache) :
    Yields (cache.addItem item name band) (Same (cache.entered item name band)) := by
  unfold addItem entered
  refine .found fun own _ => .found fun items changed => ?_
  have names := yields_assign_item _ _ (by exact fun _ => ⟨rfl, rfl⟩) items changed
  split
  next => exact .done ⟨rfl, rfl, names, fun _ => Iff.rfl⟩
  next =>
    refine .bind (yields_connectItem item name band .back _) fun middle first =>
      (yields_connectItem item name band .ahead middle).mono fun _ second => ?_
    refine Same.trans ?_ (first.trans second)
    exact ⟨rfl, rfl, names, fun _ => Iff.rfl⟩

/-- The proxies with those of a band, unless there is such a band. -/
def framed (item : Nat) (band : Bytes) (own : Proxies) (cache : NBandCache) : NBandCache :=
  if band ∈ cache.proxies then cache
  else
    { cache with
      proxyItems := (cache.proxyItems.insert own.first ⟨none, some item⟩).insert own.second ⟨none, some item⟩
      proxies := cache.proxies.insert band own }

section

variable (cache : NBandCache) (item : Nat) (name band : Bytes) (own : Proxies)

theorem items_entered : ((cache.framed item band own).entered item name band).items = cache.items := by
  unfold entered framed
  split <;> split <;> rfl

theorem getElem?_proxies_entered (other : Bytes) :
    ((cache.framed item band own).entered item name band).proxies[other]? =
      if other = band ∧ band ∉ cache.proxies then some own else cache.proxies[other]? := by
  have kept : ((cache.framed item band own).entered item name band).proxies = (cache.framed item band own).proxies := by
    unfold entered
    split <;> rfl
  rw [kept, framed]
  split
  next known => rw [if_neg fun both => both.2 known]
  next unknown =>
    simp only [Table.getElem?_insert_eq, unknown, not_false_eq_true, and_true]

theorem getElem?_bands_entered (other column : Bytes) :
    (((cache.framed item band own).entered item name band).bands.row other)[column]? =
      if (band = other ∧ name = column) ∧ name ∉ cache.bands.row band then some item
      else (cache.bands.row other)[column]? := by
  have kept : (cache.framed item band own).bands = cache.bands := by
    unfold framed
    split <;> rfl
  rw [entered, kept]
  split
  next taken =>
    rw [if_neg fun both => both.2 taken]
    exact congrArg (fun bands : Table Bytes (Table Bytes Nat) => (bands.row other)[column]?) kept
  next free =>
    simp only [Table.getElem?_row_store, free, not_false_eq_true, and_true]

/-- The name of an item is taken afterwards. -/
theorem mem_bands_entered (other column : Bytes) :
    column ∈ ((cache.framed item band own).entered item name band).bands.row other <->
      (band = other ∧ name = column) ∨ column ∈ cache.bands.row other := by
  rw [ExtTreeMap.mem_iff_isSome_getElem?, getElem?_bands_entered]
  split
  next new => simp [new.1]
  next old =>
    rw [← ExtTreeMap.mem_iff_isSome_getElem?]
    constructor
    · exact .inr
    · rintro (⟨rfl, rfl⟩ | there)
      · exact not_not.mp fun free => old ⟨⟨rfl, rfl⟩, free⟩
      · exact there

end

theorem Same.entered (same : Same cache next) (item : Nat) (name band : Bytes) :
    Same (cache.entered item name band) (next.entered item name band) := by
  unfold NBandCache.entered
  rw [same.bands]
  split
  next => exact same
  next => exact ⟨rfl, same.proxies, same.names, same.proxyItems⟩

theorem yields_insertObject {object : NBandCacheItem} {item : Nat} (found : cache.items[item]? = some object)
    (own : Proxies) :
    Yields (cache.insertObject item own)
      (Same ((cache.framed item object.band own).entered item object.name object.band)) := by
  rw [insertObject, found, Option.bind_some]
  have established : Yields
      (if object.band ∈ cache.proxies then some cache else cache.addBand item object.band own)
      (Same (cache.framed item object.band own)) := by
    unfold framed
    split
    next => exact .done (.refl cache)
    next => exact yields_addBand item object.band own cache
  exact established.bind fun middle first =>
    (yields_addItem item object.name object.band middle).mono fun _ second => (first.entered _ _ _).trans second

theorem yields_moveBand {item : NBandCacheItem} {target : Nat} :
    Yields (cache.moveBand item target) fun proxyItems => forall address : Nat,
      address ∈ proxyItems <-> address ∈ cache.proxyItems := by
  refine .found fun up _ => .found fun middle first => .found fun down _ => ?_
  exact (yields_assign_proxy middle down _).mono fun last second address =>
    (second address).trans (yields_assign_proxy _ _ _ middle first address)

theorem yields_move (direction : Direction) (handle : Nat) (moves : Bool) :
    Yields (cache.move direction handle moves) fun result => Same cache result.1 := by
  refine .found fun address _ => .found fun item _ => ?_
  split
  next => exact .done (.refl cache)
  next target _ =>
    have moved : Yields (if moves = true then cache.moveBand item target else some cache.proxyItems)
        fun proxyItems => forall address : Nat, address ∈ proxyItems <-> address ∈ cache.proxyItems := by
      split
      next => exact yields_moveBand
      next => exact .done fun _ => Iff.rfl
    exact moved.map fun proxyItems kept => ⟨rfl, rfl, fun _ => rfl, kept⟩

theorem yields_cross (direction : Direction) (handle : Nat) :
    Yields (cache.cross direction handle) fun result => Same cache result.1 := by
  refine .found fun address _ => .found fun item _ => .found fun proxy _ => .found fun proxyItem _ => ?_
  split
  next => exact .done (.refl cache)
  next otherBand _ =>
    refine .found fun otherItem _ => .found fun next _ => .done ?_
    exact ⟨rfl, rfl, fun _ => rfl, fun _ => Iff.rfl⟩

theorem yields_getPointerAt (handle : Nat) (band : Bytes) (elemId : Int) :
    Yields (cache.getPointerAt handle band elemId) fun result => Same cache result.1 := by
  unfold getPointerAt
  split
  next => exact .done ⟨rfl, rfl, fun _ => rfl, fun _ => Iff.rfl⟩
  next row _ =>
    refine .found fun begin _ => .found fun pointer _ => .found fun item _ => .done ?_
    exact ⟨rfl, rfl, fun _ => rfl, fun _ => Iff.rfl⟩

end NBandCache

/-! ## Links -/

namespace Represents

variable {cache : NBandCache} {model : BandModel}

/-- An item whose name is taken gets the proxies that it has already, or is linked by nobody. -/
theorem insertAgain (represents : Represents cache model) {item : Nat} {object : NBandCacheItem}
    (found : cache.items[item]? = some object) (taken : object.name ∈ cache.bands.row object.band)
    (own : Proxies) : Ensures (cache.insertObject item own) fun next => Represents next model := by
  have known : object.band ∈ cache.proxies := by
    obtain ⟨address, held⟩ := Table.getElem?_of_mem taken
    rw [represents.bands] at held
    exact represents.established _ (mem_bands_of_item held)
  obtain ⟨own', established⟩ := Table.getElem?_of_mem known
  rw [NBandCache.insertObject, found, Option.bind_some, if_pos known, Option.bind_some, NBandCache.addItem,
    established, Option.bind_some]
  refine .bind (.assign (Table.mem_of_getElem? found)) fun items changed => ?_
  rw [if_pos taken]
  refine .done { represents with items := fun name band address own placed held => ?_ }
  have before := represents.items name band address own placed held
  rw [changed, before, Option.map_some]
  split
  next same =>
    cases found.symm.trans (same ▸ before)
    cases established.symm.trans held
    rfl
  next => rfl

/-- Steps to the right stay in the band. -/
theorem stepRight (represents : Represents cache model) {band name : Bytes} {address : Nat}
    (placed : model.item band name = some address) {steps next : Nat}
    (ends : cache.stepRight steps (some address) = some (some next)) :
    Exists fun other => model.item band other = some next := by
  induction steps generalizing name address with
  | zero =>
      cases ends
      exact ⟨name, placed⟩
  | succ steps ih =>
      obtain ⟨own, _, object⟩ := represents.toFurnished.found placed
      rw [NBandCache.stepRight, Option.bind_some, object, Option.bind_some, linked] at ends
      dsimp only at ends
      cases right : (model.bands.row band).neighbour .ahead name with
      | none =>
          rw [right] at ends
          cases steps <;> cases ends
      | some entry =>
          rw [right] at ends
          exact ih (Table.neighbour_eq_some_iff.mp right).1 ends

/-- A pointer to any element of a band. -/
theorem yields_getPointerAt (represents : Represents cache model) (handle : Nat) (band : Bytes) (elemId : Int) :
    Yields (cache.getPointerAt handle band elemId) fun result =>
      Exists fun model => Represents result.1 model := by
  by_cases current : elemId = -1
  · rw [current]
    exact (represents.getPointerAt handle band).yields.mono fun _ after => ⟨_, after.1⟩
  · unfold NBandCache.getPointerAt
    split
    next => exact .done ⟨_, represents.unpoint handle⟩
    next row stored =>
      refine .found fun begin first => .found fun pointer reached => .found fun item there => .done ?_
      rw [if_neg current] at reached
      have placed : model.item band begin.1 = some begin.2 := by
        rw [BandModel.item, Table.row_of_getElem? (represents.bands ▸ stored)]
        exact ExtTreeMap.mem_toList_iff_getElem?_eq_some.mp (List.mem_of_mem_head? first)
      subst there
      obtain ⟨name, found⟩ := represents.stepRight placed reached
      exact ⟨_, represents.point found handle⟩

end Represents

namespace NBandCache

theorem insertObject_create (item : Nat) (name band : Bytes) (own : Proxies) (cache : NBandCache) :
    insertObject item own { cache with items := cache.items.insert item (.new name band) } =
      cache.insert item name band own := by
  rw [insertObject, show (cache.items.insert item (.new name band))[item]? = some (.new name band) from
    ExtTreeMap.getElem?_insert_self]
  rfl

end NBandCache

/-! ## Runs -/

namespace StructuredCache

/-- The object was entered, and points to the cache. -/
def Adopted (cache : StructuredCache) (node : CacheNode) : Prop :=
  node ∈ cache.cacheItems ∧ cache.owned node = true

/-- The links are those of a model, and what they link was entered. -/
structure Kept (cache : StructuredCache) : Prop where
  represents : Exists fun model => Represents cache.links model
  named : forall (address : Nat) (item : NBandCacheItem), cache.links.items[address]? = some item ->
    item.name ∈ cache.links.bands.row item.band
  items : forall (name band : Bytes) (address : Nat), (cache.links.bands.row band)[name]? = some address ->
    cache.Adopted (.item address)
  proxies : forall (band : Bytes) (own : Proxies) (direction : Direction),
    cache.links.proxies[band]? = some own -> cache.Adopted (.proxy (own.toward direction))

variable {cache : StructuredCache}

theorem adopted_adopt (node : CacheNode) {other : CacheNode} :
    (cache.adopt node).Adopted other <-> other = node ∨ cache.Adopted other := by
  by_cases same : other = node
  · simp [Adopted, adopt, same]
  · simp [Adopted, adopt, same]

theorem Kept.init (owned : CacheNode -> Bool) (distance : CacheNode -> Nat) : (init owned distance).Kept where
  represents := ⟨.init, .init⟩
  named address item found := by simp [StructuredCache.init, NBandCache.init] at found
  items name band address found := by simp [StructuredCache.init, NBandCache.init, Table.row] at found
  proxies band own direction found := by simp [StructuredCache.init, NBandCache.init] at found

/-- A call that changes no table. -/
theorem Kept.same (kept : cache.Kept) {links : NBandCache} (same : cache.links.Same links)
    (represents : Exists fun model => Represents links model) (distance : CacheNode -> Nat)
    (cachePointers : Finset Nat) :
    Kept { cache with links := links, distance := distance, cachePointers := cachePointers } where
  represents := represents
  named address item found := by
    have before := same.names address
    rw [show links.items[address]? = some item from found, Option.map_some] at before
    obtain ⟨item', found', label⟩ := Option.map_eq_some_iff.mp before.symm
    have there := kept.named address item' found'
    rw [Prod.mk.injEq] at label
    rw [label.1, label.2] at there
    exact same.bands.symm ▸ there
  items name band address found := kept.items name band address (same.bands ▸ found)
  proxies band own direction found := kept.proxies band own direction (same.proxies ▸ found)

theorem adopted_enter {item : Nat} {band : Bytes} {own : Proxies} {node : CacheNode} :
    (cache.enter item band own).Adopted node <->
      node = .item item ∨
        (band ∉ cache.links.proxies ∧ Exists fun direction => node = .proxy (own.toward direction)) ∨
          cache.Adopted node := by
  have either : (Exists fun direction => node = .proxy (own.toward direction)) <->
      node = .proxy own.first ∨ node = .proxy own.second := by
    constructor
    · rintro ⟨_ | _, same⟩
      · exact .inl same
      · exact .inr same
    · rintro (same | same)
      · exact ⟨.back, same⟩
      · exact ⟨.ahead, same⟩
  rw [enter, either]
  split
  next known => simp [adopted_adopt, known]
  next unknown =>
    simp only [adopted_adopt, unknown, not_false_eq_true, true_and]
    tauto

/-- An item is entered, and its proxies if they are new. -/
theorem Kept.inserted {item : Nat} {object : NBandCacheItem} {own : Proxies} {links : NBandCache}
    (found : cache.links.items[item]? = some object)
    (named : forall (address : Nat) (other : NBandCacheItem), address ≠ item ->
      cache.links.items[address]? = some other -> other.name ∈ cache.links.bands.row other.band)
    (items : forall (name band : Bytes) (address : Nat), (cache.links.bands.row band)[name]? = some address ->
      cache.Adopted (.item address))
    (proxies : forall (band : Bytes) (own : Proxies) (direction : Direction),
      cache.links.proxies[band]? = some own -> cache.Adopted (.proxy (own.toward direction)))
    (represents : Exists fun model => Represents links model)
    (same : ((cache.links.framed item object.band own).entered item object.name object.band).Same links) :
    Kept { cache.enter item object.band own with links := links } := by
  have adopted (node : CacheNode) : Adopted { cache.enter item object.band own with links := links } node <->
      (cache.enter item object.band own).Adopted node := Iff.rfl
  refine ⟨represents, fun address other there => ?_, fun name band address there => ?_,
    fun band own' direction there => ?_⟩
  · have before := same.names address
    rw [show links.items[address]? = some other from there, NBandCache.items_entered, Option.map_some] at before
    obtain ⟨other', there', label⟩ := Option.map_eq_some_iff.mp before.symm
    rw [Prod.mk.injEq] at label
    dsimp only
    rw [same.bands, NBandCache.mem_bands_entered, ← label.1, ← label.2]
    by_cases here : address = item
    · cases found.symm.trans (here ▸ there')
      exact .inl ⟨rfl, rfl⟩
    · exact .inr (named address other' here there')
  · dsimp only at there
    rw [same.bands, NBandCache.getElem?_bands_entered] at there
    rw [adopted, adopted_enter]
    split at there
    next => exact .inl (congrArg CacheNode.item (Option.some.inj there).symm)
    next => exact .inr (.inr (items name band address there))
  · dsimp only at there
    rw [same.proxies, NBandCache.getElem?_proxies_entered] at there
    rw [adopted, adopted_enter]
    split at there
    next new =>
      cases there
      exact .inr (.inl ⟨new.2, direction, rfl⟩)
    next => exact .inr (.inr (proxies band own' direction there))

/-- A new item is inserted. -/
theorem Kept.insert (kept : cache.Kept) {item : Nat} {own : Proxies} (fresh : item ∉ cache.links.items)
    (proxies : cache.FreshProxies own) (name band : Bytes) :
    Yields ((cache.create item name band).insertObject item own) Kept := by
  obtain ⟨model, represents⟩ := kept.represents
  have found : (cache.create item name band).links.items[item]? = some (.new name band) :=
    ExtTreeMap.getElem?_insert_self
  rw [insertObject, found, Option.bind_some]
  intro next ends
  obtain ⟨links, inserted, rfl⟩ := Option.map_eq_some_iff.mp ends
  refine Kept.inserted found ?_ kept.items kept.proxies ⟨model.insert item name band, ?_⟩
    (NBandCache.yields_insertObject found own links inserted)
  · intro address other different there
    refine kept.named address other ?_
    rw [← there, create, Table.getElem?_insert_eq, if_neg different]
  · refine (represents.insert fresh proxies.2.2 fun direction => ?_).yields links ?_
    · cases direction with
      | back => exact proxies.1
      | ahead => exact proxies.2.1
    · rw [← NBandCache.insertObject_create]
      exact inserted

/-- An item is inserted again. -/
theorem Kept.insertAgain (kept : cache.Kept) (item : Nat) (own : Proxies) :
    Yields (cache.insertObject item own) Kept := by
  obtain ⟨model, represents⟩ := kept.represents
  refine .found fun object found => ?_
  intro next ends
  obtain ⟨links, inserted, rfl⟩ := Option.map_eq_some_iff.mp ends
  have taken := kept.named item object found
  exact Kept.inserted found (fun address other _ => kept.named address other) kept.items kept.proxies
    ⟨model, (represents.insertAgain found taken own).yields links inserted⟩
    (NBandCache.yields_insertObject found own links inserted)

theorem Kept.through (kept : cache.Kept) {handle : Nat} {program : Option (NBandCache × Option Nat)}
    (same : Yields program fun result => cache.links.Same result.1)
    (called : forall model, Represents cache.links model -> handle ∈ model.pointers ->
      Yields program fun result => Exists fun model => Represents result.1 model) :
    Yields (cache.through handle program) fun next => next.1.Kept := by
  obtain ⟨model, represents⟩ := kept.represents
  rw [StructuredCache.through]
  split
  next known =>
    intro next ends
    obtain ⟨result, ends', rfl⟩ := Option.map_eq_some_iff.mp ends
    exact kept.same (same result ends')
      (called model represents ((represents.mem_pointers handle).mp known) result ends') _ _
  next => exact .done kept

/-- Whatever is called, the links are kept. -/
theorem Kept.react (kept : cache.Kept) {event : StructuredEvent} (fresh : cache.Fresh event) :
    Yields (cache.react event) fun next => next.1.Kept := by
  have moved (direction : Direction) (handle : Nat) (moveBand : Bool) :
      Yields (cache.through handle (cache.links.move direction handle moveBand)) fun next => next.1.Kept :=
    kept.through (NBandCache.yields_move direction handle moveBand) fun model represents known =>
      (represents.move known direction moveBand).yields.mono fun _ after => ⟨_, after.1⟩
  have crossed (direction : Direction) (handle : Nat) :
      Yields (cache.through handle (cache.links.cross direction handle)) fun next => next.1.Kept :=
    kept.through (NBandCache.yields_cross direction handle) fun model represents known =>
      (represents.cross known direction).yields.mono fun _ after => ⟨_, after.1⟩
  have pointed (handle : Nat) (band : Bytes) (elemId : Int) :
      Yields ((cache.links.getPointerAt handle band elemId).map (cache.register handle)) fun next => next.1.Kept := by
    obtain ⟨model, represents⟩ := kept.represents
    intro next ends
    obtain ⟨result, ends', rfl⟩ := Option.map_eq_some_iff.mp ends
    exact kept.same (NBandCache.yields_getPointerAt handle band elemId result ends')
      (represents.yields_getPointerAt handle band elemId result ends') _ _
  cases event with
  | insert item name band newProxies =>
      exact (kept.insert fresh.1 fresh.2 name band).map fun _ after => after
  | insertAgain item newProxies => exact (kept.insertAgain item newProxies).map fun _ after => after
  | getPointer handle => exact pointed handle _ _
  | getPointerAt handle band elemId => exact pointed handle band elemId
  | left handle moveBand => exact moved .back handle moveBand
  | right handle moveBand => exact moved .ahead handle moveBand
  | up handle => exact crossed .back handle
  | down handle => exact crossed .ahead handle
  | release handle =>
      obtain ⟨model, represents⟩ := kept.represents
      have same : cache.links.Same { cache.links with pointers := cache.links.pointers.erase handle } :=
        ⟨rfl, rfl, fun _ => rfl, fun _ => Iff.rfl⟩
      exact .done (kept.same same ⟨_, represents.unpoint handle⟩ _ _)

theorem Kept.step (kept : cache.Kept) {event : StructuredEvent} (fresh : cache.Fresh event) :
    (cache.step event).1.Kept := by
  rw [StructuredCache.step]
  cases ends : cache.react event with
  | none => exact kept
  | some next => exact kept.react fresh next ends

theorem kept_of_run (owned : CacheNode -> Bool) (distance : CacheNode -> Nat) {events : List StructuredEvent}
    (fresh : Admits step Fresh (init owned distance) events) :
    (run step (init owned distance) events).1.Kept :=
  invariant_of_run Kept (fun _ _ kept fresh => kept.step fresh) (.init owned distance) fresh

end StructuredCache

end Util
end Umundo
