import Umundo.Discovery.BonjourDirectory

namespace Umundo
namespace Discovery

open Foundation
open Std

/-!
# Bookkeeping of handles

The registries are read as one function from requests to handles, `slotOf`, to which
the general account of handles applies.  `Good` is the invariant of the discovery: the
account of the handles, the directory of the nodes, and the agreement of the tables of
local nodes and of queries.  It implies all that `validateState` asserts.
-/

/-! ## Requests and where their handles are stored -/

/-- The remote node that a request is about. -/
def Request.remote : Request -> Option Nat
  | .register _ => none
  | .browse _ => none
  | .resolve node _ => some node
  | .addrInfo node _ => some node

namespace BonjourNodeStub

def lookup (stub : BonjourNodeStub) : Request -> Option Handle
  | .resolve _ domain => stub.serviceResolveClients[domain]?
  | .addrInfo _ interfaceIndex => stub.addrInfoClients[interfaceIndex]?
  | _ => none

/-- The handles of a stub, with what they were requested for. -/
def entries (node : Nat) (stub : BonjourNodeStub) : List (Request × Handle) :=
  stub.serviceResolveClients.toList.map (fun entry => (.resolve node entry.1, entry.2)) ++
    stub.addrInfoClients.toList.map fun entry => (.addrInfo node entry.1, entry.2)

theorem map_snd_entries (node : Nat) (stub : BonjourNodeStub) :
    (stub.entries node).map Prod.snd = stub.clients := by
  rw [entries, clients, List.map_append, List.map_map, List.map_map]
  rfl

theorem map_socket_entries (node : Nat) (stub : BonjourNodeStub) :
    (stub.entries node).map (fun entry => entry.2.socket) = stub.clients.map Handle.socket := by
  rw [← stub.map_snd_entries node, List.map_map]
  rfl

theorem mem_entries {node : Nat} {stub : BonjourNodeStub} {request : Request} {client : Handle} :
    (request, client) ∈ stub.entries node <->
      request.remote = some node ∧ stub.lookup request = some client := by
  simp only [entries, List.mem_append, List.mem_map, Prod.exists, Prod.mk.injEq,
    ExtTreeMap.mem_toList_iff_getElem?_eq_some]
  constructor
  · rintro (⟨domain, _, held, rfl, rfl⟩ | ⟨interfaceIndex, _, held, rfl, rfl⟩)
    · exact ⟨rfl, held⟩
    · exact ⟨rfl, held⟩
  · rintro ⟨remote, held⟩
    cases request with
    | register _ => cases remote
    | browse _ => cases remote
    | resolve _ domain =>
        cases remote
        exact .inl ⟨domain, client, held, rfl, rfl⟩
    | addrInfo _ interfaceIndex =>
        cases remote
        exact .inr ⟨interfaceIndex, client, held, rfl, rfl⟩

theorem nodup_entries (node : Nat) (stub : BonjourNodeStub) :
    ((stub.entries node).map Prod.fst).Nodup := by
  have resolves : ((stub.serviceResolveClients.toList.map fun entry : CString × Handle =>
      (Request.resolve node entry.1, entry.2)).map Prod.fst) =
      stub.serviceResolveClients.keys.map (Request.resolve node) := by
    rw [← ExtTreeMap.map_fst_toList_eq_keys, List.map_map, List.map_map]
    rfl
  have addresses : ((stub.addrInfoClients.toList.map fun entry : Nat × Handle =>
      (Request.addrInfo node entry.1, entry.2)).map Prod.fst) =
      stub.addrInfoClients.keys.map (Request.addrInfo node) := by
    rw [← ExtTreeMap.map_fst_toList_eq_keys, List.map_map, List.map_map]
    rfl
  rw [entries, List.map_append, resolves, addresses]
  refine List.Nodup.append ?_ ?_ ?_
  · exact (Table.nodup_keys _).map fun _ _ same => (Request.resolve.inj same).2
  · exact (Table.nodup_keys _).map fun _ _ same => (Request.addrInfo.inj same).2
  · intro request one two
    obtain ⟨_, _, rfl⟩ := List.mem_map.mp one
    obtain ⟨_, _, same⟩ := List.mem_map.mp two
    cases same

/-- A stub is only ever resolved in its own domain. -/
structure Tidy (stub : BonjourNodeStub) : Prop where
  domains : forall domain, domain ∈ stub.domains -> domain = stub.domain
  resolving : forall domain, domain ∈ stub.serviceResolveClients -> domain = stub.domain

end BonjourNodeStub

section

variable (registerClients queryClients : Table Nat Handle) (stubs : Table Nat BonjourNodeStub)

/-- Where the handle for a request is stored. -/
def slotOf : Request -> Option Handle
  | .register node => registerClients[node]?
  | .browse query => queryClients[query]?
  | .resolve node domain => stubs[node]?.bind fun stub => stub.lookup (.resolve node domain)
  | .addrInfo node interfaceIndex =>
      stubs[node]?.bind fun stub => stub.lookup (.addrInfo node interfaceIndex)

def profileOf (node : Nat) : Option Profile := stubs[node]?.map BonjourNodeStub.profile

theorem slotOf_of_remote {request : Request} {node : Nat} (remote : request.remote = some node) :
    slotOf registerClients queryClients stubs request =
      stubs[node]?.bind fun stub => stub.lookup request := by
  cases request with
  | register _ => cases remote
  | browse _ => cases remote
  | resolve _ _ =>
      cases remote
      rfl
  | addrInfo _ _ =>
      cases remote
      rfl

/-- Requests about other nodes do not depend on a stub. -/
theorem slotOf_congr {registerClients queryClients : Table Nat Handle}
    {stubs stubs' : Table Nat BonjourNodeStub} {request : Request}
    (same : forall node, request.remote = some node -> stubs'[node]? = stubs[node]?) :
    slotOf registerClients queryClients stubs' request =
      slotOf registerClients queryClients stubs request := by
  cases request with
  | register _ => rfl
  | browse _ => rfl
  | resolve node _ =>
      rw [slotOf, slotOf, same node rfl]
  | addrInfo node _ =>
      rw [slotOf, slotOf, same node rfl]

theorem slotOf_insert (node : Nat) (stub : BonjourNodeStub) (request : Request) :
    slotOf registerClients queryClients (stubs.insert node stub) request =
      if request.remote = some node then stub.lookup request
      else slotOf registerClients queryClients stubs request := by
  by_cases remote : request.remote = some node
  · rw [if_pos remote, slotOf_of_remote _ _ _ remote, ExtTreeMap.getElem?_insert_self,
      Option.bind_some]
  · rw [if_neg remote]
    apply slotOf_congr
    intro other about
    rw [Table.getElem?_insert_eq, if_neg]
    rintro rfl
    exact remote about

theorem slotOf_eraseAll (nodes : List Nat) (request : Request) :
    slotOf registerClients queryClients (stubs.eraseAll nodes) request =
      if (Exists fun node => node ∈ nodes ∧ request.remote = some node) then none
      else slotOf registerClients queryClients stubs request := by
  by_cases gone : Exists fun node => node ∈ nodes ∧ request.remote = some node
  · obtain ⟨node, member, remote⟩ := gone
    rw [if_pos ⟨node, member, remote⟩, slotOf_of_remote _ _ _ remote, Table.getElem?_eraseAll,
      if_pos member, Option.bind_none]
  · rw [if_neg gone]
    apply slotOf_congr
    intro node remote
    rw [Table.getElem?_eraseAll, if_neg]
    exact fun member => gone ⟨node, member, remote⟩

theorem slotOf_insert_register (node : Nat) (client : Handle) (request : Request) :
    slotOf (registerClients.insert node client) queryClients stubs request =
      if request = .register node then some client
      else slotOf registerClients queryClients stubs request := by
  cases request with
  | register other =>
      rw [slotOf, Table.getElem?_insert_eq]
      simp only [Request.register.injEq]
      rfl
  | browse _ => rfl
  | resolve _ _ => rfl
  | addrInfo _ _ => rfl

theorem slotOf_erase_register (node : Nat) (request : Request) :
    slotOf (registerClients.erase node) queryClients stubs request =
      if request = .register node then none
      else slotOf registerClients queryClients stubs request := by
  cases request with
  | register other =>
      rw [slotOf, Table.getElem?_erase_eq]
      simp only [Request.register.injEq]
      rfl
  | browse _ => rfl
  | resolve _ _ => rfl
  | addrInfo _ _ => rfl

theorem slotOf_insert_browse (query : Nat) (client : Handle) (request : Request) :
    slotOf registerClients (queryClients.insert query client) stubs request =
      if request = .browse query then some client
      else slotOf registerClients queryClients stubs request := by
  cases request with
  | register _ => rfl
  | browse other =>
      rw [slotOf, Table.getElem?_insert_eq]
      simp only [Request.browse.injEq]
      rfl
  | resolve _ _ => rfl
  | addrInfo _ _ => rfl

theorem slotOf_erase_browse (query : Nat) (request : Request) :
    slotOf registerClients (queryClients.erase query) stubs request =
      if request = .browse query then none
      else slotOf registerClients queryClients stubs request := by
  cases request with
  | register _ => rfl
  | browse other =>
      rw [slotOf, Table.getElem?_erase_eq]
      simp only [Request.browse.injEq]
      rfl
  | resolve _ _ => rfl
  | addrInfo _ _ => rfl

theorem profileOf_insert (node : Nat) (stub : BonjourNodeStub) (other : Nat) :
    profileOf (stubs.insert node stub) other =
      if other = node then some stub.profile else profileOf stubs other := by
  rw [profileOf, profileOf, Table.getElem?_insert_eq]
  split <;> rfl

/-- The directory does not see the handles inside a stub. -/
theorem profileOf_insert_same {node : Nat} {stub changed : BonjourNodeStub}
    (held : stubs[node]? = some stub) (same : changed.profile = stub.profile) :
    profileOf (stubs.insert node changed) = profileOf stubs := by
  funext other
  rw [profileOf_insert]
  by_cases here : other = node
  · rw [if_pos here, profileOf, here, held, same]
    rfl
  · rw [if_neg here]

/-- The handles of some remote nodes, with what they were requested for. -/
def remoteEntries (nodes : List Nat) : List (Request × Handle) :=
  nodes.flatMap fun node => stubs[node]?.toList.flatMap (BonjourNodeStub.entries node)

theorem mem_remoteEntries {nodes : List Nat} {request : Request} {client : Handle} :
    (request, client) ∈ remoteEntries stubs nodes <->
      (Exists fun node => node ∈ nodes ∧ request.remote = some node) ∧
        slotOf registerClients queryClients stubs request = some client := by
  simp only [remoteEntries, List.mem_flatMap, Option.mem_toList, BonjourNodeStub.mem_entries]
  constructor
  · rintro ⟨node, member, stub, held, remote, found⟩
    refine ⟨⟨node, member, remote⟩, ?_⟩
    rw [slotOf_of_remote _ _ _ remote, held]
    exact found
  · rintro ⟨⟨node, member, remote⟩, held⟩
    rw [slotOf_of_remote _ _ _ remote] at held
    obtain ⟨stub, kept, found⟩ := Option.bind_eq_some_iff.mp held
    exact ⟨node, member, stub, kept, remote, found⟩

theorem nodup_remoteEntries {nodes : List Nat} (once : nodes.Nodup) :
    ((remoteEntries stubs nodes).map Prod.fst).Nodup := by
  rw [remoteEntries, List.map_flatMap, List.nodup_flatMap]
  constructor
  · intro node _
    cases stubs[node]? with
    | none => exact List.nodup_nil
    | some stub =>
        rw [Option.toList_some, List.flatMap_singleton]
        exact stub.nodup_entries node
  · refine once.imp ?_
    intro node node' different request one two
    have remote {node : Nat} (member : request ∈
        ((stubs[node]?.toList.flatMap (BonjourNodeStub.entries node)).map Prod.fst)) :
        request.remote = some node := by
      obtain ⟨⟨_, client⟩, listed, rfl⟩ := List.mem_map.mp member
      obtain ⟨stub, _, own⟩ := List.mem_flatMap.mp listed
      exact (BonjourNodeStub.mem_entries.mp own).1
    exact different (Option.some.inj ((remote one).symm.trans (remote two)))

end

/-! ## The invariant -/

def cellOf (queryToNodes : Table Nat (Table CString Nat)) (query : Nat) (name : CString) : Option Nat :=
  (queryToNodes.row query)[name]?

namespace Bonjour

structure Good (bonjour : Bonjour) : Prop where
  accounted : Accounted bonjour.daemon.live bonjour.activeFDs
    (slotOf bonjour.registerClients bonjour.queryClients bonjour.stubs)
  registered : forall node, node ∈ bonjour.registerClients <-> node ∈ bonjour.localNodes
  queried : forall query, query ∈ bonjour.queryClients <-> query ∈ bonjour.queries
  browsed : forall query, query ∈ bonjour.queryToNodes -> query ∈ bonjour.queries
  directory : Directory (fun node => bonjour.nodeToQuery[node]?) (cellOf bonjour.queryToNodes)
    (profileOf bonjour.stubs) (fun query => bonjour.daemon.answers[query]?)
  tidy : forall (node : Nat) stub, bonjour.stubs[node]? = some stub -> stub.Tidy

theorem mem_nodes (bonjour : Bonjour) (node : Nat) :
    node ∈ bonjour.nodes <->
      Exists fun query => Exists fun name => cellOf bonjour.queryToNodes query name = some node := by
  simp only [nodes, List.mem_flatMap, List.mem_map, Prod.exists,
    ExtTreeMap.mem_toList_iff_getElem?_eq_some, cellOf, Table.getElem?_row_eq_some_iff]
  constructor
  · rintro ⟨query, row, held, name, _, found, rfl⟩
    exact ⟨query, name, row, held, found⟩
  · rintro ⟨query, name, row, held, found⟩
    exact ⟨query, row, held, name, node, found, rfl⟩

/-- The handles in all four registries, with what they were requested for. -/
def entriesOf (bonjour : Bonjour) (queries : List Nat) : List (Request × Handle) :=
  bonjour.registerClients.toList.map (fun entry => (.register entry.1, entry.2)) ++
    queries.filterMap (fun query => bonjour.queryClients[query]?.map fun client =>
      (.browse query, client)) ++
    remoteEntries bonjour.stubs bonjour.nodes

theorem map_snd_entriesOf (bonjour : Bonjour) (queries : List Nat) :
    (bonjour.entriesOf queries).map Prod.snd = bonjour.clientsOf queries := by
  simp only [entriesOf, clientsOf, remoteEntries, List.map_append, List.map_map, List.map_filterMap,
    List.map_flatMap, BonjourNodeStub.map_snd_entries, Option.map_map]
  congr 3
  funext query
  exact Option.map_id'

namespace Good

variable {bonjour : Bonjour}

theorem start : Good Bonjour.start where
  accounted := by
    have empty : slotOf ∅ ∅ ∅ = fun _ => none := by
      funext request
      cases request <;> rfl
    change Accounted ∅ ∅ (slotOf ∅ ∅ ∅)
    rw [empty]
    exact .empty
  registered _ := Iff.rfl
  queried _ := ⟨fun member => absurd member ExtTreeMap.not_mem_empty,
    fun member => absurd member ExtTreeSet.not_mem_empty⟩
  browsed _ member := absurd member ExtTreeMap.not_mem_empty
  directory := .empty
  tidy _ _ held := by
    change (∅ : Table Nat BonjourNodeStub)[_]? = _ at held
    rw [ExtTreeMap.getElem?_empty] at held
    cases held

/-- Every stub in memory belongs to a node that was found. -/
theorem mem_nodes_of_stub (good : bonjour.Good) {node : Nat} {stub : BonjourNodeStub}
    (held : bonjour.stubs[node]? = some stub) : node ∈ bonjour.nodes := by
  have back := good.directory.owned node
  rw [profileOf, held] at back
  obtain ⟨query, back⟩ := Option.isSome_iff_exists.mp back.symm
  obtain ⟨known, _, found⟩ := good.directory.cell_of_home back
  exact (bonjour.mem_nodes node).mpr ⟨query, known.uuid, found⟩

theorem stored_entries {node : Nat} {stub : BonjourNodeStub}
    (held : bonjour.stubs[node]? = some stub) : forall entry, entry ∈ stub.entries node ->
      slotOf bonjour.registerClients bonjour.queryClients bonjour.stubs entry.1 = some entry.2 := by
  intro entry member
  obtain ⟨remote, found⟩ := BonjourNodeStub.mem_entries.mp member
  rw [slotOf_of_remote _ _ _ remote, held]
  exact found

theorem nodup_clients (good : bonjour.Good) {node : Nat} {stub : BonjourNodeStub}
    (held : bonjour.stubs[node]? = some stub) : (stub.clients.map Handle.socket).Nodup := by
  rw [← stub.map_socket_entries node]
  exact good.accounted.nodup_sockets (stored_entries held) (stub.nodup_entries node)

theorem mem_active_of_client (good : bonjour.Good) {node : Nat} {stub : BonjourNodeStub}
    (held : bonjour.stubs[node]? = some stub) :
    forall socket, socket ∈ stub.clients.map Handle.socket -> socket ∈ bonjour.activeFDs := by
  intro socket member
  rw [← stub.map_socket_entries node] at member
  obtain ⟨⟨request, client⟩, listed, rfl⟩ := List.mem_map.mp member
  exact (good.accounted.mem_active_iff _).mpr ⟨request, client, stored_entries held _ listed, rfl⟩

theorem mem_entriesOf (good : bonjour.Good) {queries : List Nat}
    (listed : forall query, query ∈ bonjour.queryClients -> query ∈ queries)
    (request : Request) (client : Handle) :
    (request, client) ∈ bonjour.entriesOf queries <->
      slotOf bonjour.registerClients bonjour.queryClients bonjour.stubs request = some client := by
  simp only [entriesOf, List.mem_append, List.mem_map, List.mem_filterMap, Option.map_eq_some_iff,
    Prod.exists, Prod.mk.injEq, ExtTreeMap.mem_toList_iff_getElem?_eq_some]
  rw [mem_remoteEntries bonjour.registerClients bonjour.queryClients]
  constructor
  · rintro ((⟨node, _, held, rfl, rfl⟩ | ⟨query, _, _, held, rfl, rfl⟩) | ⟨_, held⟩) <;> exact held
  · intro held
    have node_mem {node : Nat} (remote : request.remote = some node) : node ∈ bonjour.nodes := by
      rw [slotOf_of_remote _ _ _ remote] at held
      obtain ⟨stub, kept, _⟩ := Option.bind_eq_some_iff.mp held
      exact good.mem_nodes_of_stub kept
    cases request with
    | register node => exact .inl (.inl ⟨node, client, held, rfl, rfl⟩)
    | browse query =>
        refine .inl (.inr ⟨query, listed query ?_, client, held, rfl, rfl⟩)
        rw [ExtTreeMap.mem_iff_isSome_getElem?]
        exact Option.isSome_of_mem held
    | resolve node domain => exact .inr ⟨⟨node, node_mem rfl, rfl⟩, held⟩
    | addrInfo node interfaceIndex => exact .inr ⟨⟨node, node_mem rfl, rfl⟩, held⟩

/-- Every name of a query has a stub of its own. -/
theorem nodup_row (good : bonjour.Good) (query : Nat) :
    ((bonjour.queryToNodes.row query).toList.map Prod.snd).Nodup := by
  apply List.Nodup.of_map fun node => (profileOf bonjour.stubs node).map Profile.uuid
  have names : ((bonjour.queryToNodes.row query).toList.map Prod.snd).map
      (fun node => (profileOf bonjour.stubs node).map Profile.uuid) =
      (bonjour.queryToNodes.row query).keys.map some := by
    rw [← ExtTreeMap.map_fst_toList_eq_keys, List.map_map, List.map_map]
    apply List.map_congr_left
    rintro ⟨name, node⟩ member
    have found := ExtTreeMap.mem_toList_iff_getElem?_eq_some.mp member
    exact ((good.directory.cell_iff query name node).mp found).2
  rw [names]
  exact (Table.nodup_keys _).map fun _ _ same => Option.some.inj same

/-- The tables lead to every stub once. -/
theorem nodup_nodes (good : bonjour.Good) : bonjour.nodes.Nodup := by
  rw [Bonjour.nodes, List.nodup_flatMap]
  constructor
  · rintro ⟨query, row⟩ held
    rw [← Table.row_of_getElem? (ExtTreeMap.mem_toList_iff_getElem?_eq_some.mp held)]
    exact good.nodup_row query
  · refine List.Pairwise.imp_of_mem ?_ ExtTreeMap.distinct_keys_toList
    rintro ⟨query, row⟩ ⟨query', row'⟩ held held' different node one two
    have cell {query : Nat} {row : Table CString Nat}
        (held : (query, row) ∈ bonjour.queryToNodes.toList) (member : node ∈ row.toList.map Prod.snd) :
        Exists fun name => cellOf bonjour.queryToNodes query name = some node := by
      obtain ⟨⟨name, _⟩, found, rfl⟩ := List.mem_map.mp member
      rw [ExtTreeMap.mem_toList_iff_getElem?_eq_some] at held found
      exact ⟨name, Table.getElem?_row_eq_some_iff.mpr ⟨row, held, found⟩⟩
    obtain ⟨name, found⟩ := cell held one
    obtain ⟨name', found'⟩ := cell held' two
    have equal := (good.directory.cell_injective found found').1
    exact different (equal ▸ ReflCmp.compare_self)

theorem nodup_entriesOf (good : bonjour.Good) {queries : List Nat} (once : queries.Nodup) :
    ((bonjour.entriesOf queries).map Prod.fst).Nodup := by
  have registers : ((bonjour.registerClients.toList.map fun entry : Nat × Handle =>
      (Request.register entry.1, entry.2)).map Prod.fst) =
      bonjour.registerClients.keys.map Request.register := by
    rw [← ExtTreeMap.map_fst_toList_eq_keys, List.map_map, List.map_map]
    rfl
  have browses : ((queries.filterMap fun query => bonjour.queryClients[query]?.map fun client =>
      (Request.browse query, client)).map Prod.fst) =
      queries.filterMap fun query => bonjour.queryClients[query]?.map fun _ => .browse query := by
    rw [List.map_filterMap]
    simp only [Option.map_map, Function.comp_def]
  rw [entriesOf, List.map_append, List.map_append, registers, browses]
  refine List.Nodup.append (List.Nodup.append ?_ ?_ ?_) (nodup_remoteEntries _ good.nodup_nodes) ?_
  · exact (Table.nodup_keys _).map fun _ _ same => Request.register.inj same
  · refine List.Nodup.filterMap ?_ once
    intro query query' request one two
    obtain ⟨_, _, rfl⟩ := Option.map_eq_some_iff.mp one
    obtain ⟨_, _, same⟩ := Option.map_eq_some_iff.mp two
    exact (Request.browse.inj same).symm
  · intro request one two
    obtain ⟨_, _, rfl⟩ := List.mem_map.mp one
    obtain ⟨_, _, made⟩ := List.mem_filterMap.mp two
    obtain ⟨_, _, same⟩ := Option.map_eq_some_iff.mp made
    cases same
  · intro request one two
    obtain ⟨⟨_, client⟩, own, rfl⟩ := List.mem_map.mp two
    obtain ⟨⟨node, _, remote⟩, _⟩ :=
      (mem_remoteEntries bonjour.registerClients bonjour.queryClients _).mp own
    rcases List.mem_append.mp one with register | browse
    · obtain ⟨_, _, rfl⟩ := List.mem_map.mp register
      cases remote
    · obtain ⟨_, _, made⟩ := List.mem_filterMap.mp browse
      obtain ⟨_, _, rfl⟩ := Option.map_eq_some_iff.mp made
      cases remote

/-! ### What is asserted -/

variable {queries : List Nat}

theorem nodup_sockets (good : bonjour.Good) (once : queries.Nodup)
    (listed : forall query, query ∈ bonjour.queryClients -> query ∈ queries) :
    ((bonjour.clientsOf queries).map Handle.socket).Nodup := by
  have apart := good.accounted.nodup_sockets
    (fun entry member => (good.mem_entriesOf listed entry.1 entry.2).mp member)
    (good.nodup_entriesOf once)
  rw [← map_snd_entriesOf, List.map_map]
  exact apart

theorem mem_sockets (good : bonjour.Good)
    (listed : forall query, query ∈ bonjour.queryClients -> query ∈ queries) (socket : Int) :
    socket ∈ bonjour.activeFDs <-> socket ∈ (bonjour.clientsOf queries).map Handle.socket := by
  rw [good.accounted.mem_active_iff, ← map_snd_entriesOf, List.map_map, List.mem_map]
  constructor
  · rintro ⟨request, client, held, rfl⟩
    exact ⟨(request, client), (good.mem_entriesOf listed request client).mpr held, rfl⟩
  · rintro ⟨⟨request, client⟩, member, rfl⟩
    exact ⟨request, client, (good.mem_entriesOf listed request client).mp member, rfl⟩

theorem validateState (good : bonjour.Good) : bonjour.validateState = true := by
  have listed (query : Nat) (member : query ∈ bonjour.queryClients) :
      query ∈ bonjour.queries.toList :=
    ExtTreeSet.mem_toList.mpr ((good.queried query).mp member)
  have crossed : crossOut (.ofList bonjour.activeFDs.keys)
      ((bonjour.clientsOf bonjour.queries.toList).map Handle.socket) = some ∅ := by
    apply crossOut_eq_empty (good.nodup_sockets (Table.nodup_toList _) listed)
    intro socket
    rw [ExtTreeSet.mem_ofList, List.contains_iff_mem, ExtTreeMap.mem_keys]
    exact good.mem_sockets listed socket
  simp only [Bonjour.validateState, Bool.and_eq_true, List.all_eq_true, decide_eq_true_eq, beq_iff_eq,
    ExtTreeMap.mem_keys, ExtTreeSet.mem_toList]
  refine ⟨⟨⟨⟨⟨⟨⟨?_, ?_⟩, ?_⟩, ?_⟩, ?_⟩, ?_⟩, ?_⟩, ?_⟩
  · rintro ⟨socket, client⟩ member
    rw [ExtTreeMap.mem_toList_iff_getElem?_eq_some, good.accounted.active_eq] at member
    obtain ⟨_, _, rfl⟩ := Option.map_eq_some_iff.mp member
    rfl
  · exact fun node => (good.registered node).mpr
  · rw [← ExtTreeMap.length_keys, ← ExtTreeMap.length_keys]
    apply List.Perm.length_eq
    rw [List.perm_ext_iff_of_nodup (Table.nodup_keys _) (Table.nodup_keys _)]
    intro node
    rw [ExtTreeMap.mem_keys, ExtTreeMap.mem_keys, good.registered]
  · exact fun node => (good.registered node).mp
  · exact fun query => (good.queried query).mpr
  · rw [← ExtTreeMap.length_keys, ← ExtTreeSet.length_toList]
    apply List.Perm.length_eq
    rw [List.perm_ext_iff_of_nodup (Table.nodup_keys _) (Table.nodup_toList _)]
    intro query
    rw [ExtTreeMap.mem_keys, ExtTreeSet.mem_toList, good.queried]
  · exact good.browsed
  · rw [crossed]
    rfl

theorem validated_eq (good : bonjour.Good) : bonjour.validated = some bonjour :=
  if_pos good.validateState

theorem validated (good : bonjour.Good) : Ensures bonjour.validated Good :=
  ⟨bonjour, good.validated_eq, good⟩

end Good

end Bonjour

end Discovery
end Umundo
