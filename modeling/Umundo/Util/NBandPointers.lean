import Mathlib.Data.List.Nodup
import Mathlib.Data.List.Perm.Subperm
import Umundo.Util.NBandModel

namespace Umundo
namespace Util

open Foundation Std

/-!
# Pointers follow the model

Every call through a pointer ends, and its result is that of the model.  The links that
are followed are those of the item of the pointer and of the proxies of its band.
-/

namespace Represents

variable {cache : NBandCache} {model : BandModel}

/-- A pointer is set to another item. -/
theorem point (represents : Represents cache model) {name band : Bytes} {address : Nat}
    (found : model.item band name = some address) (handle : Nat) :
    Represents { cache with pointers := cache.pointers.insert handle address }
      { model with pointers := model.pointers.insert handle (band, name) } := by
  refine { represents with pointers := fun other => ?_, designated := fun other place => ?_ }
  · rw [Table.getElem?_insert_eq, Table.getElem?_insert_eq]
    split
    next => exact found.symm
    next => exact represents.pointers other
  · rw [Table.getElem?_insert_eq]
    split
    next =>
      intro here
      cases here
      exact ⟨address, found⟩
    next => exact represents.designated other place

/-- A null pointer is handed out. -/
theorem unpoint (represents : Represents cache model) (handle : Nat) :
    Represents { cache with pointers := cache.pointers.erase handle }
      { model with pointers := model.pointers.erase handle } := by
  refine { represents with pointers := fun other => ?_, designated := fun other place => ?_ }
  · rw [Table.getElem?_erase_eq, Table.getElem?_erase_eq]
    split
    next => rfl
    next => exact represents.pointers other
  · rw [Table.getElem?_erase_eq]
    split
    next => exact fun here => by cases here
    next => exact represents.designated other place

theorem mem_pointers (represents : Represents cache model) (handle : Nat) :
    handle ∈ cache.pointers <-> handle ∈ model.pointers := by
  rw [ExtTreeMap.mem_iff_isSome_getElem?, ExtTreeMap.mem_iff_isSome_getElem?, represents.pointers]
  cases placed : model.pointers[handle]? with
  | none => rfl
  | some place =>
      obtain ⟨address, found⟩ := represents.designated handle place placed
      rw [Option.bind_some, found]
      rfl

/-- Every band has a cursor. -/
theorem cursor_of_mem (represents : Represents cache model) {band : Bytes} (known : band ∈ model.bands) :
    Exists fun cursor => Exists fun item =>
      model.cursors[band]? = some cursor ∧ model.item band cursor = some item := by
  obtain ⟨item, current⟩ := (represents.current band).mp known
  obtain ⟨cursor, chosen, found⟩ := Option.bind_eq_some_iff.mp current
  exact ⟨cursor, item, chosen, found⟩

/-- The item of a pointer is found with all its links. -/
theorem place_of_mem (represents : Represents cache model) {handle : Nat} (known : handle ∈ model.pointers) :
    Exists fun band => Exists fun name => Exists fun address => Exists fun own =>
      model.pointers[handle]? = some (band, name) ∧ model.item band name = some address ∧
        cache.pointers[handle]? = some address ∧ cache.proxies[band]? = some own ∧
        cache.items[address]? = some (linked (model.bands.row band) own name band) := by
  obtain ⟨⟨band, name⟩, placed⟩ :=
    Table.getElem?_of_mem known
  obtain ⟨address, found⟩ := represents.designated handle (band, name) placed
  obtain ⟨own, established, object⟩ := represents.toFurnished.found found
  refine ⟨band, name, address, own, placed, found, ?_, established, object⟩
  rw [represents.pointers, placed]
  exact found

/-! ## Along the band -/

theorem first_ne_second (represents : Represents cache model) {band : Bytes} {own : Proxies}
    (established : cache.proxies[band]? = some own) : own.first ≠ own.second := by
  intro same
  cases (represents.distinct band band own own .back .ahead established established same).2

/-- The cursor of a band is moved to one of its items. -/
theorem moveBand (represents : Represents cache model) {name next band : Bytes} {own : Proxies} {item : Nat}
    (established : cache.proxies[band]? = some own) (found : model.item band next = some item) :
    Ensures (cache.moveBand (linked (model.bands.row band) own name band) item) fun proxyItems =>
      Represents { cache with proxyItems := proxyItems }
        { model with cursors := model.cursors.insert band next } := by
  have allocated := represents.toFramed.allocated established
  have assigned : Ensures ((assign cache.proxyItems own.first fun proxy =>
        { proxy with currentItem := some item }).bind fun proxyItems =>
      assign proxyItems own.second fun proxy => { proxy with currentItem := some item }) _ :=
    .assign_both (represents.first_ne_second established) (allocated .back) (allocated .ahead)
  refine assigned.mono fun proxyItems changed => ?_
  have here : BandModel.current { model with cursors := model.cursors.insert band next } band = some item := by
    rw [BandModel.current, ExtTreeMap.getElem?_insert_self]
    exact found
  have elsewhere (other : Bytes) (different : other ≠ band) :
      BandModel.current { model with cursors := model.cursors.insert band next } other =
        model.current other := by
    rw [BandModel.current, Table.getElem?_insert_eq, if_neg different]
    rfl
  refine { represents with
    proxyItems := fun other own' direction known => ?_
    current := fun other => ?_
    cursors := fun other member => ?_ }
  · rw [changed, represents.proxyItems other own' direction known, Option.map_some]
    by_cases same : other = band
    · subst same
      rw [established] at known
      cases known
      rw [here]
      cases direction with
      | back => exact congrArg some (if_pos rfl)
      | ahead =>
          exact congrArg some ((if_neg (represents.first_ne_second established).symm).trans (if_pos rfl))
    · rw [elsewhere other same, if_neg, if_neg]
      · exact fun shared => same (represents.distinct other band own' own direction .ahead known
          established shared).1
      · exact fun shared => same (represents.distinct other band own' own direction .back known
          established shared).1
  · by_cases same : other = band
    · rw [same]
      exact iff_of_true (mem_bands_of_item found) ⟨item, here⟩
    · rw [elsewhere other same]
      exact represents.current other
  · rcases Table.mem_insert_iff.mp member with same | before
    · rw [same]
      exact mem_bands_of_item found
    · exact represents.cursors other before

theorem move (represents : Represents cache model) {handle : Nat} (known : handle ∈ model.pointers)
    (direction : Direction) (moves : Bool) :
    Ensures (cache.move direction handle moves) fun result =>
      Represents result.1 (model.move direction handle moves).1 ∧
        result.2 = (model.move direction handle moves).2 := by
  obtain ⟨band, name, address, own, placed, found, pointed, established, object⟩ :=
    represents.place_of_mem known
  rw [NBandCache.move, BandModel.move, placed]
  refine .found pointed (.found object ?_)
  rw [link_linked]
  dsimp only
  cases next : (model.bands.row band).neighbour direction name with
  | none => exact .done ⟨represents, rfl⟩
  | some entry =>
      have there : model.item band entry.1 = some entry.2 := (Table.neighbour_eq_some_iff.mp next).1
      dsimp only [Option.map_some]
      cases moves with
      | false => exact .done ⟨represents.point there handle, rfl⟩
      | true =>
          exact (represents.moveBand established there).map fun proxyItems moved =>
            ⟨moved.point there handle, rfl⟩

/-! ## From band to band -/

theorem cross (represents : Represents cache model) {handle : Nat} (known : handle ∈ model.pointers)
    (direction : Direction) :
    Ensures (cache.cross direction handle) fun result =>
      Represents result.1 (model.cross direction handle).1 ∧
        result.2 = (model.cross direction handle).2 := by
  obtain ⟨band, name, address, own, placed, found, pointed, established, object⟩ :=
    represents.place_of_mem known
  have keys := Table.neighbour_key_congr represents.established_iff direction band
  rw [NBandCache.cross, BandModel.cross, placed]
  refine .found pointed (.found object ?_)
  rw [proxy_linked, Option.bind_some]
  refine .found (represents.proxyItems band own direction established) ?_
  rw [proxied]
  dsimp only
  cases there : cache.proxies.neighbour direction band with
  | none =>
      rw [there, Option.map_none, eq_comm, Option.map_eq_none_iff] at keys
      rw [keys]
      exact .done ⟨represents, rfl⟩
  | some entry =>
      rw [there, Option.map_some, eq_comm] at keys
      obtain ⟨⟨next, row⟩, adjacent, rfl⟩ := Option.map_eq_some_iff.mp keys
      have stored := (Table.neighbour_eq_some_iff.mp adjacent).1
      obtain ⟨cursor, item, chosen, found'⟩ := represents.cursor_of_mem
        (Table.mem_of_getElem? stored)
      have arrived := represents.proxyItems entry.1 entry.2 direction.flip
        (Table.neighbour_eq_some_iff.mp there).1
      rw [adjacent]
      dsimp only [Option.map_some]
      have current : model.current entry.1 = some item := by
        rw [BandModel.current, chosen]
        exact found'
      refine .found arrived (.found current ?_)
      have named : model.cursors.getD entry.1 [] = cursor := by
        rw [ExtTreeMap.getD_eq_getD_getElem?, chosen]
        rfl
      have held : row[cursor]? = some item := by
        rw [BandModel.item, Table.row_of_getElem? stored] at found'
        exact found'
      rw [named, held]
      exact .done ⟨represents.point found' handle, rfl⟩

/-! ## New pointers -/

theorem getPointerAt (represents : Represents cache model) (handle : Nat) (band : Bytes) :
    Ensures (cache.getPointerAt handle band (-1)) fun result =>
      Represents result.1 (model.getPointerAt handle band).1 ∧
        result.2 = (model.getPointerAt handle band).2 := by
  have same : cache.bands[band]? = model.bands[band]? := by rw [represents.bands]
  rw [NBandCache.getPointerAt, BandModel.getPointerAt, same]
  cases stored : model.bands[band]? with
  | none =>
      have absent : model.cursors[band]? = none := by
        refine getElem?_neg model.cursors band fun member => ?_
        have known := ExtTreeMap.mem_iff_isSome_getElem?.mp (represents.cursors band member)
        rw [stored] at known
        cases known
      rw [absent]
      exact .done ⟨represents.unpoint handle, rfl⟩
  | some row =>
      obtain ⟨cursor, item, chosen, found⟩ := represents.cursor_of_mem
        (Table.mem_of_getElem? stored)
      have same := Table.row_of_getElem? stored
      have listed : (cursor, item) ∈ row.toList := by
        rw [BandModel.item, same] at found
        exact ExtTreeMap.mem_toList_iff_getElem?_eq_some.mpr found
      obtain ⟨begin, rest, entries⟩ := List.exists_cons_of_ne_nil (List.ne_nil_of_mem listed)
      have first : model.item band begin.1 = some begin.2 := by
        rw [BandModel.item, same]
        exact ExtTreeMap.mem_toList_iff_getElem?_eq_some.mp (entries ▸ List.mem_cons_self)
      obtain ⟨own, established, object⟩ := represents.toFurnished.found first
      have current : model.current band = some item := by
        rw [BandModel.current, chosen]
        exact found
      dsimp only
      rw [entries, List.head?_cons, Option.bind_some, if_pos rfl, object, chosen]
      dsimp only [Option.bind_some, linked]
      rw [show cache.proxyItems[own.first]? = _ from represents.proxyItems band own .back established]
      rw [proxied, Option.map_some, Option.bind_some, current, Option.bind_some, found]
      exact .done ⟨represents.point found handle, rfl⟩

theorem getPointer (represents : Represents cache model) (handle : Nat) :
    Ensures (cache.getPointer handle) fun result =>
      Represents result.1 (model.getPointer handle).1 ∧ result.2 = (model.getPointer handle).2 := by
  rw [NBandCache.getPointer, BandModel.getPointer, represents.bands]
  exact represents.getPointerAt handle _

/-! ## Positions -/

/-- All items of a band are different objects. -/
theorem size_row_le (represents : Represents cache model) (band : Bytes) :
    (model.bands.row band).size ≤ cache.items.size := by
  have found (entry : Bytes × Nat) (listed : entry ∈ (model.bands.row band).toList) :
      model.item band entry.1 = some entry.2 :=
    ExtTreeMap.mem_toList_iff_getElem?_eq_some.mp listed
  rw [← ExtTreeMap.length_toList, ← ExtTreeMap.length_keys, ← List.length_map Prod.snd]
  refine (List.subperm_of_subset ?_ fun address member => ?_).length_le
  · refine List.Nodup.map_on (fun first listed second listed' same => ?_) ?_
    · have here := found first listed
      rw [same] at here
      exact Prod.ext (represents.toFurnished.place_unique here (found second listed')).2 same
    · refine List.Nodup.of_map Prod.fst ?_
      rw [ExtTreeMap.map_fst_toList_eq_keys]
      exact Table.nodup_keys _
  · obtain ⟨entry, listed, rfl⟩ := List.mem_map.mp member
    obtain ⟨own, _, object⟩ := represents.toFurnished.found (found entry listed)
    exact ExtTreeMap.mem_keys.mpr (Table.mem_of_getElem? object)

/-- Going to the left ends at the first item of the band. -/
theorem countLeft (represents : Represents cache model) {name band : Bytes} {address fuel : Nat}
    (found : model.item band name = some address) (enough : (model.bands.row band).rank name < fuel) :
    cache.countLeft fuel address = some ((model.bands.row band).rank name) := by
  induction fuel generalizing name address with
  | zero => exact absurd enough (Nat.not_lt_zero _)
  | succ fuel ih =>
      obtain ⟨own, established, object⟩ := represents.toFurnished.found found
      rw [NBandCache.countLeft, object, Option.bind_some, linked]
      dsimp only
      cases next : (model.bands.row band).neighbour .back name with
      | none =>
          rw [Table.rank_of_first next]
          rfl
      | some entry =>
          have one := Table.rank_of_neighbour next
          dsimp only [Option.map_some]
          rw [ih (Table.neighbour_eq_some_iff.mp next).1 (by omega), one]
          rfl

theorem getElementId (represents : Represents cache model) {handle : Nat} (known : handle ∈ model.pointers) :
    cache.getElementId handle = some (model.getElementId handle) := by
  obtain ⟨band, name, address, own, placed, found, pointed, established, object⟩ :=
    represents.place_of_mem known
  have present : name ∈ model.bands.row band :=
    ExtTreeMap.mem_iff_isSome_getElem?.mpr (Option.isSome_of_eq_some found)
  rw [NBandCache.getElementId, BandModel.getElementId, pointed, placed, Option.bind_some]
  exact represents.countLeft found
    (Nat.lt_of_lt_of_le (Table.rank_lt_size present) (represents.size_row_le band))

end Represents

end Util
end Umundo
