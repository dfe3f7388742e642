import Umundo.Discovery.BonjourInvariant

namespace Umundo
namespace Discovery

open Foundation
open Std

/-!
# Calls of the application

Every call that registers or removes a local node, or starts or ends a query, is carried
out without an abort in a good state and ends in one.  Closing a list of handles is
described exactly, because `unbrowse` closes the handle of the query in two pieces with
the handles of all its nodes in between.
-/

theorem Daemon.not_mem_of_accept {daemon : Daemon} {offer : Option Handle} {client : Handle}
    (accepted : daemon.accept offer = some client) : client.socket ∉ daemon.live :=
  of_decide_eq_true (Option.filter_eq_some_iff.mp accepted).2

namespace Bonjour

variable {bonjour : Bonjour}

/-! ## Local nodes -/

namespace Good

/-- Only what the invariant speaks about matters. -/
theorem of_suspension (good : bonjour.Good) (isSuspended : Bool)
    (suspendedNodes : Table Nat CString) :
    Good { bonjour with isSuspended := isSuspended, suspendedNodes := suspendedNodes } :=
  ⟨good.accounted, good.registered, good.queried, good.browsed, good.directory, good.tidy⟩

theorem add (good : bonjour.Good) (offers : Offers) (node : Nat) (uuid : CString) :
    Ensures (bonjour.add offers node uuid) Good := by
  rw [Bonjour.add]
  split
  next known => exact .check ((good.registered node).mpr known) good.validated
  next unknown =>
    have absent : node ∉ bonjour.registerClients :=
      fun member => unknown ((good.registered node).mp member)
    apply Ensures.check absent
    split
    next => exact good.validated
    next client accepted =>
      have unused := Daemon.not_mem_of_accept accepted
      apply Ensures.check (good.accounted.not_mem_active unused)
      apply Ensures.check absent
      apply Ensures.check unknown
      apply Good.validated
      refine { good with
        accounted := good.accounted.opened unused ?_ (slotOf_insert_register _ _ _ node client)
        registered := ?_ }
      · exact getElem?_neg bonjour.registerClients node absent
      · intro other
        rw [ExtTreeMap.mem_insert, ExtTreeMap.mem_insert, good.registered]

theorem remove (good : bonjour.Good) (node : Nat) : Ensures (bonjour.remove node) Good := by
  rw [Bonjour.remove]
  split
  next => exact good.validated
  next known =>
    have present := (good.registered node).mpr (not_not.mp known)
    obtain ⟨client, held⟩ := Table.getElem?_of_mem present
    have stored : slotOf bonjour.registerClients bonjour.queryClients bonjour.stubs
        (.register node) = some client := held
    apply Ensures.found held
    apply Ensures.check (good.accounted.active_of_slot stored)
    apply Good.validated
    refine { good with
      accounted := good.accounted.closed stored (slotOf_erase_register _ _ _ node)
      registered := ?_ }
    intro other
    rw [ExtTreeMap.mem_erase, ExtTreeMap.mem_erase, good.registered]

theorem suspend (good : bonjour.Good) : Ensures bonjour.suspend Good := by
  rw [Bonjour.suspend]
  split
  next => exact .done good
  next => exact .loop (fun _ node _ kept => kept.remove node) (good.of_suspension _ _)

theorem resume (good : bonjour.Good) (offers : Offers) : Ensures (bonjour.resume offers) Good := by
  rw [Bonjour.resume]
  split
  next =>
    have added : Ensures (bonjour.suspendedNodes.toList.foldlM
        (fun bonjour entry => Bonjour.add offers entry.1 entry.2 bonjour)
        { bonjour with isSuspended := false }) Good :=
      .loop (fun _ entry _ kept => kept.add offers entry.1 entry.2) (good.of_suspension _ _)
    exact added.map fun _ kept => kept.of_suspension _ _
  next => exact .done good

/-! ## Queries -/

theorem browse (good : bonjour.Good) (offers : Offers) (query : Nat) :
    Ensures (bonjour.browse offers query) Good := by
  rw [Bonjour.browse]
  split
  next => exact good.validated
  next unknown =>
    have absent : query ∉ bonjour.queryClients :=
      fun member => unknown ((good.queried query).mp member)
    apply Ensures.check absent
    split
    next => exact good.validated
    next client accepted =>
      have unused := Daemon.not_mem_of_accept accepted
      apply Ensures.check (good.accounted.not_mem_active unused)
      apply Ensures.check absent
      apply Ensures.check unknown
      apply Good.validated
      refine { good with
        accounted := good.accounted.opened unused ?_ (slotOf_insert_browse _ _ _ query client)
        queried := ?_
        browsed := ?_ }
      · exact getElem?_neg bonjour.queryClients query absent
      · intro other
        rw [ExtTreeMap.mem_insert, ExtTreeSet.mem_insert, good.queried]
      · intro other member
        exact ExtTreeSet.mem_insert.mpr (.inr (good.browsed other member))

end Good

/-! ## Closing handles -/

/-- Nobody listens to the sockets any more, and their handles are given back. -/
def released (bonjour : Bonjour) (sockets : List Int) : Bonjour :=
  { bonjour with
    activeFDs := bonjour.activeFDs.eraseAll sockets
    daemon := { bonjour.daemon with live := bonjour.daemon.live.eraseAll sockets } }

theorem released_append (bonjour : Bonjour) (first second : List Int) :
    bonjour.released (first ++ second) = (bonjour.released first).released second := by
  simp only [released, Table.eraseAll_append]

theorem mem_released {socket : Int} {sockets : List Int} (member : socket ∈ bonjour.activeFDs)
    (other : socket ∉ sockets) : socket ∈ (bonjour.released sockets).activeFDs := by
  change socket ∈ bonjour.activeFDs.eraseAll sockets
  rw [ExtTreeMap.mem_iff_isSome_getElem?, Table.getElem?_eraseAll, if_neg other]
  exact ExtTreeMap.mem_iff_isSome_getElem?.mp member

theorem foldlM_close {clients : List Handle} (once : (clients.map Handle.socket).Nodup)
    (listed : forall socket, socket ∈ clients.map Handle.socket -> socket ∈ bonjour.activeFDs) :
    clients.foldlM close bonjour = some (bonjour.released (clients.map Handle.socket)) := by
  induction clients generalizing bonjour with
  | nil => rfl
  | cons client rest ih =>
      obtain ⟨fresh, later⟩ := List.nodup_cons.mp once
      have first : bonjour.close client = some (bonjour.released [client.socket]) := by
        rw [close, check, if_pos (listed client.socket List.mem_cons_self)]
        rfl
      rw [List.foldlM_cons, first, List.map_cons, ← List.singleton_append, released_append]
      apply ih later
      intro socket member
      apply mem_released (listed socket (List.mem_cons_of_mem _ member))
      rw [List.mem_singleton]
      rintro rfl
      exact fresh member

/-- All handles of a node are closed. -/
theorem forgetRemoteNodesFDs_eq {node : Nat} {stub : BonjourNodeStub}
    (held : bonjour.stubs[node]? = some stub) (once : (stub.clients.map Handle.socket).Nodup)
    (listed : forall socket, socket ∈ stub.clients.map Handle.socket -> socket ∈ bonjour.activeFDs) :
    bonjour.forgetRemoteNodesFDs node = some { bonjour.released (stub.clients.map Handle.socket) with
      stubs := bonjour.stubs.insert node
        { stub with serviceResolveClients := ∅, addrInfoClients := ∅ } } := by
  rw [forgetRemoteNodesFDs, held, Option.bind_some, foldlM_close once listed]
  rfl

theorem forgetNode_eq {node : Nat} {stub : BonjourNodeStub}
    (held : bonjour.stubs[node]? = some stub) (once : (stub.clients.map Handle.socket).Nodup)
    (listed : forall socket, socket ∈ stub.clients.map Handle.socket -> socket ∈ bonjour.activeFDs) :
    bonjour.forgetNode node = some { bonjour.released (stub.clients.map Handle.socket) with
      stubs := bonjour.stubs.erase node } := by
  rw [forgetNode, forgetRemoteNodesFDs_eq held once listed, Option.map_some, Table.erase_insert]

/-- The sockets of some remote nodes. -/
def remoteSockets (stubs : Table Nat BonjourNodeStub) (nodes : List Nat) : List Int :=
  (remoteEntries stubs nodes).map fun entry => entry.2.socket

private theorem remoteSockets_cons (stubs : Table Nat BonjourNodeStub) (node : Nat)
    (rest : List Nat) {stub : BonjourNodeStub} (held : stubs[node]? = some stub) :
    remoteSockets stubs (node :: rest) =
      stub.clients.map Handle.socket ++ remoteSockets stubs rest := by
  rw [remoteSockets, remoteEntries, List.flatMap_cons, held, Option.toList_some,
    List.flatMap_singleton, List.map_append, ← stub.map_snd_entries node, List.map_map]
  rfl

private theorem remoteSockets_erase (stubs : Table Nat BonjourNodeStub) (node : Nat)
    (rest : List Nat) (fresh : node ∉ rest) :
    remoteSockets (stubs.erase node) rest = remoteSockets stubs rest := by
  apply congrArg (List.map _)
  apply List.flatMap_congr
  intro other member
  rw [Table.getElem?_erase_eq, if_neg]
  rintro rfl
  exact fresh member

/-- The loop over the nodes of a query closes all of their handles. -/
theorem foldlM_forgetNode {nodes : List Nat} (once : nodes.Nodup)
    (held : forall node, node ∈ nodes -> node ∈ bonjour.stubs)
    (apart : (remoteSockets bonjour.stubs nodes).Nodup)
    (listed : forall socket, socket ∈ remoteSockets bonjour.stubs nodes ->
      socket ∈ bonjour.activeFDs) :
    nodes.foldlM forgetNode bonjour =
      some { bonjour.released (remoteSockets bonjour.stubs nodes) with
        stubs := bonjour.stubs.eraseAll nodes } := by
  induction nodes generalizing bonjour with
  | nil => rfl
  | cons node rest ih =>
      obtain ⟨fresh, later⟩ := List.nodup_cons.mp once
      obtain ⟨stub, here⟩ := Table.getElem?_of_mem (held node List.mem_cons_self)
      rw [remoteSockets_cons bonjour.stubs node rest here] at apart listed ⊢
      have kept := remoteSockets_erase bonjour.stubs node rest fresh
      obtain ⟨own, others, different⟩ := List.nodup_append.mp apart
      rw [List.foldlM_cons, forgetNode_eq here own
        (fun socket member => listed socket (List.mem_append_left _ member)), released_append]
      refine (ih later ?_ ?_ ?_).trans ?_
      · intro other member
        refine ExtTreeMap.mem_erase.mpr ⟨?_, held other (List.mem_cons_of_mem node member)⟩
        intro same
        rw [LawfulEqCmp.compare_eq_iff_eq] at same
        exact fresh (same ▸ member)
      · change (remoteSockets (bonjour.stubs.erase node) rest).Nodup
        rw [kept]
        exact others
      · change forall socket, socket ∈ remoteSockets (bonjour.stubs.erase node) rest -> _
        rw [kept]
        intro socket member
        apply mem_released (listed socket (List.mem_append_right _ member))
        exact fun shared => different socket shared socket member rfl
      · change some { (bonjour.released _).released
            (remoteSockets (bonjour.stubs.erase node) rest) with
          stubs := Table.eraseAll (bonjour.stubs.erase node) rest } = _
        rw [kept]
        rfl

/-! ## The end of a query -/

namespace Good

/-- The nodes of a query are those that lead back to it. -/
theorem mem_row (good : bonjour.Good) (query node : Nat) :
    node ∈ (bonjour.queryToNodes.row query).toList.map Prod.snd <->
      bonjour.nodeToQuery[node]? = some query := by
  simp only [List.mem_map, Prod.exists, ExtTreeMap.mem_toList_iff_getElem?_eq_some]
  constructor
  · rintro ⟨name, _, found, rfl⟩
    exact (good.directory.profile_of_cell found).1
  · intro back
    obtain ⟨known, _, found⟩ := good.directory.cell_of_home back
    exact ⟨known.uuid, node, found, rfl⟩

theorem stored_remoteEntries (bonjour : Bonjour) (nodes : List Nat) :
    forall entry, entry ∈ remoteEntries bonjour.stubs nodes ->
      slotOf bonjour.registerClients bonjour.queryClients bonjour.stubs entry.1 = some entry.2 :=
  fun _ member => ((mem_remoteEntries _ _ _).mp member).2

/-- The handles that are closed together with a query. -/
theorem mem_sockets_of_query (good : bonjour.Good) {query : Nat} {client : Handle}
    (asked : bonjour.queryClients[query]? = some client) {nodes : List Nat} {request : Request}
    {handle : Handle} (held : slotOf bonjour.registerClients bonjour.queryClients bonjour.stubs
      request = some handle) :
    handle.socket ∈ client.socket :: remoteSockets bonjour.stubs nodes <->
      request = .browse query ∨ Exists fun node => node ∈ nodes ∧ request.remote = some node := by
  have stored : forall entry,
      entry ∈ (Request.browse query, client) :: remoteEntries bonjour.stubs nodes ->
        slotOf bonjour.registerClients bonjour.queryClients bonjour.stubs entry.1 = some entry.2 := by
    intro entry member
    rcases List.mem_cons.mp member with rfl | own
    · exact asked
    · exact stored_remoteEntries bonjour nodes entry own
  refine (good.accounted.mem_sockets_iff stored held).trans ?_
  rw [List.mem_cons, mem_remoteEntries bonjour.registerClients bonjour.queryClients, Prod.mk.injEq]
  constructor
  · rintro (⟨rfl, _⟩ | ⟨remote, _⟩)
    · exact .inl rfl
    · exact .inr remote
  · rintro (rfl | remote)
    · exact .inl ⟨rfl, Option.some.inj (held.symm.trans asked)⟩
    · exact .inr ⟨remote, held⟩

/-- A query is gone with its handle, its answers and all of its nodes. -/
theorem withoutQuery (good : bonjour.Good) {query : Nat} {client : Handle}
    (asked : bonjour.queryClients[query]? = some client) {nodes : List Nat}
    (mine : forall node, node ∈ nodes <-> bonjour.nodeToQuery[node]? = some query) :
    Good { bonjour with
      activeFDs := Table.eraseAll (bonjour.activeFDs.erase client.socket)
        (remoteSockets bonjour.stubs nodes)
      nodeToQuery := bonjour.nodeToQuery.filter fun _ other => decide (other ≠ query)
      stubs := bonjour.stubs.eraseAll nodes
      queryToNodes := bonjour.queryToNodes.erase query
      queries := bonjour.queries.erase query
      daemon := ⟨(bonjour.daemon.live.eraseAll (remoteSockets bonjour.stubs nodes)).erase client.socket,
        bonjour.daemon.answers.erase query⟩
      queryClients := bonjour.queryClients.erase query } := by
  have closed : Accounted
      (bonjour.daemon.live.eraseAll (client.socket :: remoteSockets bonjour.stubs nodes))
      (bonjour.activeFDs.eraseAll (client.socket :: remoteSockets bonjour.stubs nodes))
      (slotOf bonjour.registerClients (bonjour.queryClients.erase query)
        (bonjour.stubs.eraseAll nodes)) := by
    refine good.accounted.closedWhere (fun _ _ held => good.mem_sockets_of_query asked held) ?_
    intro request
    rw [slotOf_erase_browse, slotOf_eraseAll]
    by_cases browse : request = .browse query
    · rw [if_pos browse, if_pos (.inl browse)]
    · simp only [if_neg browse, or_iff_right browse]
  have order : (bonjour.daemon.live.eraseAll (remoteSockets bonjour.stubs nodes)).erase client.socket =
      bonjour.daemon.live.eraseAll (client.socket :: remoteSockets bonjour.stubs nodes) := by
    change (bonjour.daemon.live.eraseAll _).eraseAll [client.socket] = _
    rw [← Table.eraseAll_append]
    apply Table.eraseAll_congr
    intro socket
    rw [List.mem_append, List.mem_singleton, List.mem_cons, or_comm]
  refine { good with
    accounted := order ▸ closed, queried := ?_, browsed := ?_, directory := ?_, tidy := ?_ }
  · intro other
    rw [ExtTreeMap.mem_erase, ExtTreeSet.mem_erase, good.queried]
  · intro other member
    obtain ⟨different, listed⟩ := ExtTreeMap.mem_erase.mp member
    exact ExtTreeSet.mem_erase.mpr ⟨different, good.browsed other listed⟩
  · refine good.directory.clear ?_ ?_ ?_ (bonjour.daemon.answers.getElem?_erase_eq query)
    · intro node
      rw [ExtTreeMap.getElem?_filter']
      cases bonjour.nodeToQuery[node]? with
      | none => rfl
      | some other =>
          by_cases same : other = query
          · rw [if_pos (congrArg some same), Option.filter_some, if_neg]
            simpa using same
          · rw [if_neg (fun equal => same (Option.some.inj equal)), Option.filter_some, if_pos]
            simpa using same
    · intro other name
      rw [cellOf, Table.row_erase]
      split
      next same => rw [if_pos same.symm]; rfl
      next different => rw [if_neg (fun same => different same.symm)]; rfl
    · intro node
      rw [profileOf, Table.getElem?_eraseAll]
      simp only [mine]
      split <;> rfl
  · intro node stub held
    change (bonjour.stubs.eraseAll nodes)[node]? = some stub at held
    rw [Table.getElem?_eraseAll] at held
    split at held
    next => cases held
    next => exact good.tidy node stub held

theorem unbrowse (good : bonjour.Good) (query : Nat) : Ensures (bonjour.unbrowse query) Good := by
  rw [Bonjour.unbrowse]
  split
  next => exact good.validated
  next known =>
    have present := (good.queried query).mpr (not_not.mp known)
    obtain ⟨client, held⟩ := Table.getElem?_of_mem present
    have stored : slotOf bonjour.registerClients bonjour.queryClients bonjour.stubs
        (.browse query) = some client := held
    apply Ensures.found held
    apply Ensures.check (good.accounted.active_of_slot stored)
    generalize members : (bonjour.queryToNodes.row query).toList.map Prod.snd = nodes
    have mine (node : Nat) : node ∈ nodes <-> bonjour.nodeToQuery[node]? = some query := by
      rw [← members]
      exact good.mem_row query node
    have once : nodes.Nodup := members ▸ good.nodup_row query
    have apart := good.accounted.nodup_sockets (stored_remoteEntries bonjour nodes)
      (nodup_remoteEntries bonjour.stubs once)
    rw [foldlM_forgetNode once, Option.bind_some]
    · exact Good.validated (good.withoutQuery held mine)
    · intro node member
      rw [ExtTreeMap.mem_iff_isSome_getElem?]
      have owned := good.directory.owned node
      rw [(mine node).mp member, profileOf, Option.isSome_map] at owned
      exact owned
    · exact apart
    · intro socket member
      obtain ⟨⟨request, handle⟩, own, rfl⟩ := List.mem_map.mp member
      obtain ⟨⟨node, _, remote⟩, kept⟩ :=
        (mem_remoteEntries bonjour.registerClients bonjour.queryClients _).mp own
      refine ExtTreeMap.mem_erase.mpr ⟨?_, (good.accounted.mem_active_iff _).mpr
        ⟨request, handle, kept, rfl⟩⟩
      intro same
      rw [LawfulEqCmp.compare_eq_iff_eq] at same
      cases (good.accounted.slot_unique stored kept same).1
      cases remote

end Good

end Bonjour

end Discovery
end Umundo
