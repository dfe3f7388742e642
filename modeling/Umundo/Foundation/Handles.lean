import Mathlib.Data.List.Nodup
import Umundo.Foundation.Table

namespace Umundo
namespace Foundation

open Std

/-!
# Handles of a service

A service hands out handles, each for one request and each with a socket on which
its answers arrive.  The client stores a handle where the request belongs, and
keeps a second table of all sockets it has to listen to.

The places where a handle may be stored are one function from requests to
handles, however the client spreads them over its data.  `Accounted` says that
the service, the second table and the places agree: a place holds a handle exactly
if the service has it open for that request, and the table lists just the sockets
of these handles.  It is kept when a handle is opened and stored, and when any set
of handles is closed and dropped.
-/

structure Handle where
  pointer : Nat
  socket : Int
deriving DecidableEq

variable {Request : Type}

/-- `live` are the handles that the service has open, by socket. -/
structure Accounted (live : Table Int (Nat × Request)) (active : Table Int Handle)
    (slot : Request -> Option Handle) : Prop where
  active_eq : forall socket : Int,
    active[socket]? = live[socket]?.map fun entry => ⟨entry.1, socket⟩
  slot_iff : forall request (handle : Handle),
    slot request = some handle <-> live[handle.socket]? = some (handle.pointer, request)

namespace Accounted

variable {live : Table Int (Nat × Request)} {active : Table Int Handle}
variable {slot next : Request -> Option Handle} {request other : Request} {handle second : Handle}

theorem empty : Accounted (∅ : Table Int (Nat × Request)) ∅ (fun _ => none) where
  active_eq _ := rfl
  slot_iff _ handle := by
    constructor
    · intro held
      cases held
    · intro held
      rw [ExtTreeMap.getElem?_empty] at held
      cases held

theorem active_of_slot (accounted : Accounted live active slot) (held : slot request = some handle) :
    active[handle.socket]? = some handle := by
  rw [accounted.active_eq, (accounted.slot_iff request handle).mp held]
  rfl

/-- A socket belongs to one handle, and a handle to one request. -/
theorem slot_unique (accounted : Accounted live active slot) (held : slot request = some handle)
    (also : slot other = some second) (same : handle.socket = second.socket) :
    request = other ∧ handle = second := by
  have first := (accounted.slot_iff request handle).mp held
  have again := (accounted.slot_iff other second).mp also
  rw [← same, first] at again
  cases handle
  cases second
  cases same
  cases again
  exact ⟨rfl, rfl⟩

theorem mem_active_iff (accounted : Accounted live active slot) (socket : Int) :
    socket ∈ active <-> Exists fun request => Exists fun handle : Handle =>
      slot request = some handle ∧ handle.socket = socket := by
  rw [ExtTreeMap.mem_iff_isSome_getElem?, accounted.active_eq, Option.isSome_map]
  constructor
  · intro listed
    obtain ⟨⟨pointer, request⟩, held⟩ := Option.isSome_iff_exists.mp listed
    exact ⟨request, ⟨pointer, socket⟩, (accounted.slot_iff _ _).mpr held, rfl⟩
  · rintro ⟨request, handle, held, rfl⟩
    rw [(accounted.slot_iff request handle).mp held]
    rfl

theorem not_mem_active (accounted : Accounted live active slot) {socket : Int}
    (unused : socket ∉ live) : socket ∉ active := by
  rw [ExtTreeMap.mem_iff_isSome_getElem?, accounted.active_eq, Option.isSome_map,
    ← ExtTreeMap.mem_iff_isSome_getElem?]
  exact unused

/-- A new handle is stored in an empty place. -/
theorem opened [DecidableEq Request] (accounted : Accounted live active slot)
    (unused : handle.socket ∉ live) (free : slot request = none)
    (stored : forall other, next other = if other = request then some handle else slot other) :
    Accounted (live.insert handle.socket (handle.pointer, request))
      (active.insert handle.socket handle) next where
  active_eq socket := by
    rw [Table.getElem?_insert_eq, Table.getElem?_insert_eq, accounted.active_eq]
    by_cases same : socket = handle.socket
    · rw [if_pos same, if_pos same, same]
      rfl
    · rw [if_neg same, if_neg same]
  slot_iff other second := by
    rw [stored, Table.getElem?_insert_eq]
    by_cases same : other = request
    · subst same
      rw [if_pos rfl]
      constructor
      · rintro ⟨⟩
        rw [if_pos rfl]
      · intro held
        split at held
        next reached =>
          cases handle
          cases second
          cases reached
          cases held
          rfl
        next =>
          rw [(accounted.slot_iff other second).mpr held] at free
          cases free
    · rw [if_neg same, accounted.slot_iff]
      constructor
      · intro held
        rw [if_neg, held]
        intro reached
        rw [reached, getElem?_neg live handle.socket unused] at held
        cases held
      · intro held
        split at held
        next => exact absurd (congrArg Prod.snd (Option.some.inj held)).symm same
        next => exact held

/-- The handles for some of the requests are closed, and their places are cleared. -/
theorem closedWhere (accounted : Accounted live active slot) {gone : Request -> Prop}
    [DecidablePred gone] {sockets : List Int}
    (closes : forall request (handle : Handle), slot request = some handle ->
      (handle.socket ∈ sockets <-> gone request))
    (cleared : forall request, next request = if gone request then none else slot request) :
    Accounted (live.eraseAll sockets) (active.eraseAll sockets) next where
  active_eq socket := by
    rw [Table.getElem?_eraseAll, Table.getElem?_eraseAll, accounted.active_eq]
    by_cases closed : socket ∈ sockets
    · rw [if_pos closed, if_pos closed]
      rfl
    · rw [if_neg closed, if_neg closed]
  slot_iff request handle := by
    rw [cleared, Table.getElem?_eraseAll]
    constructor
    · intro held
      split at held
      next => cases held
      next stays =>
        rw [if_neg (fun closed => stays ((closes request handle held).mp closed))]
        exact (accounted.slot_iff request handle).mp held
    · intro held
      split at held
      next => cases held
      next stays =>
        have stored := (accounted.slot_iff request handle).mpr held
        rw [if_neg (fun closed => stays ((closes request handle stored).mpr closed))]
        exact stored

theorem closed [DecidableEq Request] (accounted : Accounted live active slot)
    (held : slot request = some handle)
    (cleared : forall other, next other = if other = request then none else slot other) :
    Accounted (live.erase handle.socket) (active.erase handle.socket) next := by
  change Accounted (live.eraseAll [handle.socket]) (active.eraseAll [handle.socket]) next
  refine accounted.closedWhere ?_ cleared
  intro other second also
  rw [List.mem_singleton]
  constructor
  · intro shared
    exact (accounted.slot_unique also held shared).1
  · rintro rfl
    exact congrArg Handle.socket (Option.some.inj (also.symm.trans held))

/-- The socket of a stored handle is among those of some others only if the handle is. -/
theorem mem_sockets_iff (accounted : Accounted live active slot) {entries : List (Request × Handle)}
    (stored : forall entry, entry ∈ entries -> slot entry.1 = some entry.2)
    (held : slot request = some handle) :
    handle.socket ∈ entries.map (fun entry => entry.2.socket) <-> (request, handle) ∈ entries := by
  constructor
  · intro listed
    obtain ⟨entry, member, shared⟩ := List.mem_map.mp listed
    obtain ⟨sameRequest, sameHandle⟩ := accounted.slot_unique held (stored entry member) shared.symm
    rw [sameRequest, sameHandle]
    exact member
  · exact fun member => List.mem_map.mpr ⟨(request, handle), member, rfl⟩

/-- Handles for different requests have different sockets. -/
theorem nodup_sockets (accounted : Accounted live active slot) {entries : List (Request × Handle)}
    (stored : forall entry, entry ∈ entries -> slot entry.1 = some entry.2)
    (once : (entries.map Prod.fst).Nodup) : (entries.map fun entry => entry.2.socket).Nodup := by
  refine List.Nodup.map_on ?_ (List.Nodup.of_map _ once)
  intro first one second two shared
  obtain ⟨request, handle⟩ := accounted.slot_unique (stored first one) (stored second two) shared
  exact Prod.ext request handle

end Accounted

/-! ## Crossing out -/

/-- Cross out the members of a list one by one; each of them has to be there. -/
def crossOut (sockets : Keys Int) : List Int -> Option (Keys Int)
  | [] => some sockets
  | socket :: rest => if socket ∈ sockets then crossOut (sockets.erase socket) rest else none

/-- Nothing is left of a set if its members are crossed out once each. -/
theorem crossOut_eq_empty {sockets : Keys Int} {listed : List Int} (once : listed.Nodup)
    (same : forall socket, socket ∈ sockets <-> socket ∈ listed) : crossOut sockets listed = some ∅ := by
  induction listed generalizing sockets with
  | nil =>
      apply congrArg some
      apply ExtTreeSet.ext_mem
      intro socket
      exact ⟨fun member => absurd ((same socket).mp member) List.not_mem_nil,
        fun member => absurd member ExtTreeSet.not_mem_empty⟩
  | cons socket rest ih =>
      obtain ⟨fresh, later⟩ := List.nodup_cons.mp once
      rw [crossOut, if_pos ((same socket).mpr List.mem_cons_self)]
      apply ih later
      intro other
      rw [ExtTreeSet.mem_erase, ne_eq, LawfulEqCmp.compare_eq_iff_eq, same, List.mem_cons]
      constructor
      · rintro ⟨different, equal | member⟩
        · exact absurd equal.symm different
        · exact member
      · intro member
        refine ⟨?_, .inr member⟩
        rintro rfl
        exact fresh member

end Foundation
end Umundo
