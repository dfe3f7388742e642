import Umundo.Discovery.BonjourBrowsing

namespace Umundo
namespace Discovery

open Foundation
open Std

/-!
# The bookkeeping holds in every run

One step from a good state is not aborted and ends in a good state, whatever the
application calls and whatever the daemon answers, as long as the daemon keeps to its
promises.  So `_activeFDs` has the sockets of all handles in the registries, once each,
in every state that can be reached, and no assertion about handles or descriptors fails
on the way.
-/

namespace Bonjour

/-- What `validateState` is there to check, and the agreement of `_nodeToQuery` with
`_queryToNodes`. -/
structure Bookkeeping (bonjour : Bonjour) : Prop where
  listened : forall socket, socket ∈ bonjour.activeFDs <->
    socket ∈ (bonjour.clientsOf bonjour.queryClients.keys).map Handle.socket
  once : ((bonjour.clientsOf bonjour.queryClients.keys).map Handle.socket).Nodup
  handle : forall client, client ∈ bonjour.clientsOf bonjour.queryClients.keys ->
    bonjour.activeFDs[client.socket]? = some client
  registered : forall node, node ∈ bonjour.registerClients <-> node ∈ bonjour.localNodes
  queried : forall query, query ∈ bonjour.queryClients <-> query ∈ bonjour.queries
  browsed : forall query, query ∈ bonjour.queryToNodes -> query ∈ bonjour.queries
  found : forall node query : Nat, bonjour.nodeToQuery[node]? = some query <->
    node ∈ (bonjour.queryToNodes.row query).toList.map Prod.snd

namespace Good

variable {bonjour : Bonjour}

theorem bookkeeping (good : bonjour.Good) : bonjour.Bookkeeping where
  listened := good.mem_sockets fun _ => ExtTreeMap.mem_keys.mpr
  once := good.nodup_sockets (Table.nodup_keys _) fun _ => ExtTreeMap.mem_keys.mpr
  handle client member := by
    rw [← map_snd_entriesOf] at member
    obtain ⟨⟨request, _⟩, listed, rfl⟩ := List.mem_map.mp member
    exact good.accounted.active_of_slot
      ((good.mem_entriesOf (fun _ => ExtTreeMap.mem_keys.mpr) request _).mp listed)
  registered := good.registered
  queried := good.queried
  browsed := good.browsed
  found node query := (good.mem_row query node).symm

private theorem quietly {program : Option Bonjour} (ensured : Ensures program Good) :
    Ensures (program.map fun next => (next, ([] : List BonjourEffect))) fun next =>
      Good next.1 ∧ BonjourEffect.aborted ∉ next.2 :=
  ensured.map fun _ kept => ⟨kept, List.not_mem_nil⟩

theorem react (good : bonjour.Good) {event : BonjourEvent} (allowed : bonjour.Allowed event) :
    Ensures (bonjour.react event) fun next => Good next.1 ∧ BonjourEffect.aborted ∉ next.2 := by
  cases event with
  | add node uuid offers => exact quietly (good.add offers node uuid)
  | remove node => exact quietly (good.remove node)
  | suspend => exact quietly good.suspend
  | resume offers => exact quietly (good.resume offers)
  | browse query offers => exact quietly (good.browse offers query)
  | unbrowse query => exact quietly (good.unbrowse query)
  | browseReply reply address offers => exact good.browseReply offers allowed
  | serviceResolveReply reply offers => exact quietly (good.serviceResolveReply offers allowed)
  | addrInfoReply reply => exact good.addrInfoReply allowed

theorem step (good : bonjour.Good) {event : BonjourEvent} (allowed : bonjour.Allowed event) :
    Good (bonjour.step event).1 ∧ BonjourEffect.aborted ∉ (bonjour.step event).2 := by
  obtain ⟨next, ends, kept⟩ := good.react allowed
  rw [Bonjour.step, ends]
  exact kept

end Good

/-- In every run in which the daemon keeps to its promises, the bookkeeping is right in
every state, and nothing is aborted. -/
theorem bookkeeping_of_run (events : List BonjourEvent)
    (admitted : Admits step Allowed start events) :
    Always step Bookkeeping start events ∧ BonjourEffect.aborted ∉ (run step start events).2 := by
  have preserved (bonjour : Bonjour) (event : BonjourEvent) (good : bonjour.Good)
      (allowed : bonjour.Allowed event) : Good (bonjour.step event).1 := (good.step allowed).1
  constructor
  · exact always_of_invariant Good Bookkeeping preserved (fun _ good => good.bookkeeping) .start
      admitted
  · intro member
    have other := outputs_of_run Good (fun effect => effect ≠ BonjourEffect.aborted) preserved
      (fun _ _ good allowed effect emitted same => (good.step allowed).2 (same ▸ emitted))
      .start admitted _ member
    exact other rfl

/-! A node is found at two interfaces, resolved while the discovery is suspended, and
lost again. -/

def peer : CString := .ofBytes [112]

def peerDomain : CString := .ofBytes [108]

/-- References and sockets that are never given twice. -/
def offered : Offers
  | .register node => some ⟨10 + node, 10 + node⟩
  | .browse query => some ⟨20 + query, 20 + query⟩
  | .resolve node _ => some ⟨30 + node, 30 + node⟩
  | .addrInfo node interfaceIndex => some ⟨40 + node, 40 + 10 * node + interfaceIndex⟩

/-- The daemon says something about the node, to the first query. -/
def seen (flags : UInt32) (ifIndex : Nat) : BrowseReply :=
  ⟨⟨21, 21⟩, flags, ifIndex, 0, peer, peerDomain, 1⟩

private def visit : List BonjourEvent :=
  [.add 1 peer offered, .browse 1 offered, .browseReply (seen 3 1) 5 offered,
    .browseReply (seen 2 2) 6 offered, .serviceResolveReply ⟨⟨35, 35⟩, 0, 1, 0, 5⟩ offered,
    .addrInfoReply ⟨⟨45, 91⟩, 0, 1, 0, some (.inet 10 0 0 1), 5⟩, .suspend,
    .addrInfoReply ⟨⟨45, 91⟩, 0, 1, -65554, some (.inet6 fun _ => 0), 5⟩, .resume offered,
    .browseReply (seen 1 1) 6 offered, .browseReply (seen 0 2) 6 offered, .unbrowse 1]

theorem bookkeeping_of_run_visit :
    Always step Bookkeeping start visit ∧
      (run step start visit).2 = [.found 1 5, .found 1 5, .removed 1 5] := by
  have admitted : Admits step Allowed start visit := by decide +kernel
  exact ⟨(bookkeeping_of_run visit admitted).1, by decide +kernel⟩

end Bonjour

end Discovery
end Umundo
