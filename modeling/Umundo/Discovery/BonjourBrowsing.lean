import Umundo.Discovery.BonjourReplies

namespace Umundo
namespace Discovery

open Foundation
open Std

/-!
# Answers to a query

A name at an interface is added to the answers of a query or removed from them.  The
stub of the node gets or loses the interface with it, so that the stub always knows the
interfaces that are announced.  This is why a removal finds the node it is about, and why
a node is dropped exactly with the last announcement.
-/

namespace Daemon

variable {daemon : Daemon} {reply : BrowseReply}

/-- Other names are not concerned. -/
theorem mem_answered_other {name : CString} (other : name ≠ reply.replyName) (interfaceIndex : Nat) :
    (name, interfaceIndex) ∈ (daemon.answered reply).present <->
      (name, interfaceIndex) ∈ presentIn daemon.answers[reply.queryAddr]? := by
  change _ <-> _ ∈ daemon.present reply.queryAddr
  rw [answered]
  split
  next =>
    rw [List.mem_cons, Prod.mk.injEq]
    exact or_iff_right fun same => other same.1
  next =>
    rw [List.mem_filter, decide_eq_true_eq, ne_eq, Prod.mk.injEq]
    exact and_iff_left fun same => other same.1

theorem mem_answered_add (isAdd : reply.isAdd = true) (interfaceIndex : Nat) :
    (reply.replyName, interfaceIndex) ∈ (daemon.answered reply).present <->
      interfaceIndex = reply.ifIndex ∨
        (reply.replyName, interfaceIndex) ∈ presentIn daemon.answers[reply.queryAddr]? := by
  change _ <-> _ ∨ _ ∈ daemon.present reply.queryAddr
  rw [answered, if_pos isAdd, List.mem_cons, Prod.mk.injEq, eq_self, true_and]

theorem mem_answered_drop (isAdd : reply.isAdd = false) (interfaceIndex : Nat) :
    (reply.replyName, interfaceIndex) ∈ (daemon.answered reply).present <->
      interfaceIndex ≠ reply.ifIndex ∧
        (reply.replyName, interfaceIndex) ∈ presentIn daemon.answers[reply.queryAddr]? := by
  change _ <-> _ ∧ _ ∈ daemon.present reply.queryAddr
  rw [answered, if_neg (isAdd ▸ Bool.false_ne_true), List.mem_filter, decide_eq_true_eq, ne_eq,
    Prod.mk.injEq, eq_self, true_and, and_comm]

end Daemon

namespace Bonjour

variable {bonjour : Bonjour} {reply : BrowseReply} {node : Nat} {stub changed : BonjourNodeStub}

/-- The state in which an answer is looked at. -/
def heard (bonjour : Bonjour) (reply : BrowseReply) : Bonjour :=
  { bonjour with
    daemon := bonjour.daemon.answer reply
    queryToNodes := bonjour.queryToNodes.insertIfNew reply.queryAddr ∅ }

theorem cellOf_heard (bonjour : Bonjour) (reply : BrowseReply) :
    cellOf (bonjour.heard reply).queryToNodes = cellOf bonjour.queryToNodes := by
  funext query name
  rw [cellOf, cellOf, heard, Table.row_touch]

theorem discover_of_some {address : Nat}
    (found : cellOf bonjour.queryToNodes reply.queryAddr reply.replyName = some node) :
    bonjour.discover reply address = some (node, bonjour) := by
  change (bonjour.queryToNodes.row reply.queryAddr)[reply.replyName]? = some node at found
  rw [discover, found]

theorem discover_of_none {address : Nat}
    (absent : cellOf bonjour.queryToNodes reply.queryAddr reply.replyName = none)
    (fresh : address ∉ bonjour.nodeToQuery) :
    bonjour.discover reply address = some (address, { bonjour with
      nodeToQuery := bonjour.nodeToQuery.insert address reply.queryAddr
      queryToNodes := bonjour.queryToNodes.store reply.queryAddr reply.replyName address
      stubs := bonjour.stubs.insert address (.new reply.replyName reply.replyDomain
        (bonjour.localNodes.toList.any fun entry => entry.2 == reply.replyName)) }) := by
  change (bonjour.queryToNodes.row reply.queryAddr)[reply.replyName]? = none at absent
  rw [discover, absent]
  change check _ (check _ _) = _
  rw [check, if_pos fresh, check, if_pos (Table.not_mem_of_getElem? absent)]

/-- All answers to the query come from the domain of the reply. -/
def OneDomain (bonjour : Bonjour) (reply : BrowseReply) : Prop :=
  forall given, given ∈ bonjour.daemon.answers[reply.queryAddr]? -> given.domain = reply.replyDomain

namespace Good

/-- The stub of the node that was answered is put in place, and it has the announced
interfaces. -/
theorem answeredWith (good : bonjour.Good) (asked : reply.queryAddr ∈ bonjour.queries)
    {nodeToQuery : Table Nat Nat} {queryToNodes : Table Nat (Table CString Nat)}
    (oneDomain : bonjour.OneDomain reply)
    (uuid : changed.uuid = reply.replyName) (domain : changed.domain = reply.replyDomain)
    (tidy : changed.Tidy)
    (slots : slotOf bonjour.registerClients bonjour.queryClients (bonjour.stubs.insert node changed) =
      slotOf bonjour.registerClients bonjour.queryClients bonjour.stubs)
    (interfaces : forall interfaceIndex, interfaceIndex ∈ changed.interfaceIndices <->
      (reply.replyName, interfaceIndex) ∈ (bonjour.daemon.answered reply).present)
    (alone : forall query name, cellOf bonjour.queryToNodes query name = some node ->
      query = reply.queryAddr ∧ name = reply.replyName)
    (vacant : forall other,
      cellOf bonjour.queryToNodes reply.queryAddr reply.replyName = some other -> other = node)
    (home_eq : forall other : Nat, nodeToQuery[other]? =
      if other = node then some reply.queryAddr else bonjour.nodeToQuery[other]?)
    (cell_eq : forall query name, cellOf queryToNodes query name =
      if query = reply.queryAddr ∧ name = reply.replyName then some node
      else cellOf bonjour.queryToNodes query name)
    (rows : forall query, query ∈ queryToNodes ->
      query = reply.queryAddr ∨ query ∈ bonjour.queryToNodes) :
    Good { bonjour with
      nodeToQuery := nodeToQuery
      queryToNodes := queryToNodes
      stubs := bonjour.stubs.insert node changed
      daemon := bonjour.daemon.answer reply } where
  accounted := slots ▸ good.accounted
  registered := good.registered
  queried := good.queried
  browsed query member := by
    rcases rows query member with rfl | before
    · exact asked
    · exact good.browsed query before
  directory := by
    have named : changed.profile.uuid = reply.replyName := uuid
    have place : changed.profile.domain = reply.replyDomain := domain
    refine good.directory.put ?_ ?_ ?_ place.symm ?_ ?_ home_eq ?_ (profileOf_insert _ node changed)
      (fun query => bonjour.daemon.answers.getElem?_insert_eq reply.queryAddr query _)
    · rw [named]
      exact alone
    · rw [named]
      exact vacant
    · intro given before
      rw [place]
      exact oneDomain given before
    · rw [named]
      exact fun _ interfaceIndex other => Daemon.mem_answered_other other interfaceIndex
    · rw [named]
      exact fun interfaceIndex => (interfaces interfaceIndex).symm
    · rw [named]
      exact cell_eq
  tidy other kept found := by
    change (bonjour.stubs.insert node changed)[other]? = some kept at found
    rw [Table.getElem?_insert_eq] at found
    split at found
    next =>
      cases found
      exact tidy
    next => exact good.tidy other kept found

/-- All answers to a query come from one domain, and so do its nodes. -/
theorem domain_of_cell (good : bonjour.Good)
    (oneDomain : bonjour.OneDomain reply)
    (found : cellOf bonjour.queryToNodes reply.queryAddr reply.replyName = some node)
    (held : bonjour.stubs[node]? = some stub) : stub.domain = reply.replyDomain := by
  have back := (good.directory.profile_of_cell found).1
  have profile : profileOf bonjour.stubs node = some stub.profile := by
    rw [profileOf, held]
    rfl
  obtain ⟨given, answered, domain⟩ :=
    Option.map_eq_some_iff.mp (good.directory.domain_eq _ _ _ back profile)
  exact domain.symm.trans (oneDomain given answered)

theorem mem_touched {query : Nat}
    (member : query ∈ bonjour.queryToNodes.insertIfNew reply.queryAddr ∅) :
    query = reply.queryAddr ∨ query ∈ bonjour.queryToNodes := by
  rcases ExtTreeMap.mem_insertIfNew.mp member with same | before
  · exact .inl (LawfulEqCmp.compare_eq_iff_eq.mp same).symm
  · exact .inr before

/-- The interfaces of a known node change with the answer. -/
theorem answeredKnown (good : bonjour.Good) (asked : reply.queryAddr ∈ bonjour.queries)
    (oneDomain : bonjour.OneDomain reply)
    (found : cellOf bonjour.queryToNodes reply.queryAddr reply.replyName = some node)
    (held : bonjour.stubs[node]? = some stub)
    (uuid : changed.uuid = stub.uuid) (domain : changed.domain = stub.domain)
    (tidy : changed.Tidy) (lookup : changed.lookup = stub.lookup)
    (interfaces : forall interfaceIndex, interfaceIndex ∈ changed.interfaceIndices <->
      (reply.replyName, interfaceIndex) ∈ (bonjour.daemon.answered reply).present) :
    Good { bonjour.heard reply with stubs := bonjour.stubs.insert node changed } := by
  obtain ⟨back, known, profile, named⟩ := good.directory.profile_of_cell found
  rw [profileOf, held] at profile
  cases profile
  refine good.answeredWith asked oneDomain (uuid.trans named)
    (domain.trans (good.domain_of_cell oneDomain found held)) tidy (slotOf_insert_same held lookup)
    interfaces ?_ ?_ ?_ ?_ (fun _ => mem_touched)
  · exact fun _ _ again => good.directory.cell_injective again found
  · exact fun _ again => Option.some.inj (again.symm.trans found)
  · intro other
    by_cases same : other = node
    · rw [if_pos same, same]
      exact back
    · rw [if_neg same]
  · intro query name
    change cellOf (bonjour.heard reply).queryToNodes query name = _
    rw [cellOf_heard]
    split
    next here => rw [here.1, here.2, found]
    next => rfl

/-- A reply adds an interface to a node that is known. -/
theorem added_of_known (good : bonjour.Good) (asked : reply.queryAddr ∈ bonjour.queries)
    (oneDomain : bonjour.OneDomain reply)
    (isAdd : reply.isAdd = true)
    (found : cellOf bonjour.queryToNodes reply.queryAddr reply.replyName = some node) (address : Nat) :
    Ensures ((bonjour.heard reply).added reply address) Good := by
  rw [Bonjour.added]
  rw [discover_of_some ((congrFun (congrFun (cellOf_heard _ _) _) _).trans found),
    Option.bind_some]
  obtain ⟨_, known, profile, _⟩ := good.directory.profile_of_cell found
  obtain ⟨stub, held, rfl⟩ := Option.map_eq_some_iff.mp profile
  have tidy := good.tidy node stub held
  have domain := good.domain_of_cell oneDomain found held
  apply Ensures.found held
  refine .done (good.answeredKnown asked oneDomain found held ?_ ?_ ?_ ?_ ?_)
  · rfl
  · rfl
  · refine ⟨fun other member => ?_, tidy.resolving⟩
    rcases ExtTreeSet.mem_insert.mp member with same | before
    · exact (LawfulEqCmp.compare_eq_iff_eq.mp same).symm.trans domain.symm
    · exact tidy.domains other before
  · rfl
  · intro interfaceIndex
    rw [Daemon.mem_answered_add isAdd, good.directory.mem_present_iff found profile]
    change interfaceIndex ∈ stub.interfaceIndices.insert reply.ifIndex <-> _
    rw [ExtTreeSet.mem_insert, LawfulEqCmp.compare_eq_iff_eq, eq_comm]
    rfl

/-- A reply makes a new node. -/
theorem added_of_new (good : bonjour.Good) (asked : reply.queryAddr ∈ bonjour.queries)
    (oneDomain : bonjour.OneDomain reply)
    (isAdd : reply.isAdd = true)
    (found : cellOf bonjour.queryToNodes reply.queryAddr reply.replyName = none) {address : Nat}
    (fresh : address ∉ bonjour.stubs) : Ensures ((bonjour.heard reply).added reply address) Good := by
  rw [Bonjour.added]
  have unused : bonjour.stubs[address]? = none := getElem?_neg bonjour.stubs address fresh
  have homeless : bonjour.nodeToQuery[address]? = none := by
    have owned := good.directory.owned address
    rw [profileOf, unused] at owned
    exact Option.isNone_iff_eq_none.mp (Option.isSome_eq_false_iff.mp owned.symm)
  rw [discover_of_none ((congrFun (congrFun (cellOf_heard _ _) _) _).trans found)
    (Table.not_mem_of_getElem? homeless), Option.bind_some]
  apply Ensures.found ExtTreeMap.getElem?_insert_self
  apply Ensures.done
  change Good { bonjour.heard reply with
    nodeToQuery := _
    queryToNodes := _
    stubs := (bonjour.stubs.insert address _).insert address _ }
  rw [Table.insert_insert]
  refine good.answeredWith asked oneDomain ?_ ?_ ?_ (slotOf_insert_new unused ?_) ?_ ?_ ?_
    (fun other => bonjour.nodeToQuery.getElem?_insert_eq address other reply.queryAddr) ?_ ?_
  · rfl
  · rfl
  · refine ⟨fun other member => ?_, fun other member => absurd member ExtTreeMap.not_mem_empty⟩
    rcases ExtTreeSet.mem_insert.mp member with same | before
    · exact (LawfulEqCmp.compare_eq_iff_eq.mp same).symm
    · exact absurd before ExtTreeSet.not_mem_empty
  · intro request
    cases request with
    | register _ => rfl
    | browse _ => rfl
    | resolve _ _ => exact ExtTreeMap.getElem?_empty
    | addrInfo _ _ => exact ExtTreeMap.getElem?_empty
  · intro interfaceIndex
    have silent : (reply.replyName, interfaceIndex) ∉
        presentIn bonjour.daemon.answers[reply.queryAddr]? := by
      intro announced
      obtain ⟨node, known⟩ := good.directory.cell_of_present announced
      rw [found] at known
      cases known
    rw [Daemon.mem_answered_add isAdd, or_iff_left silent]
    change interfaceIndex ∈ (∅ : Keys Nat).insert reply.ifIndex <-> _
    rw [ExtTreeSet.mem_insert, LawfulEqCmp.compare_eq_iff_eq, eq_comm,
      or_iff_left ExtTreeSet.not_mem_empty]
  · intro query name reached
    have back := (good.directory.profile_of_cell reached).1
    exact absurd (homeless.symm.trans back) (fun same => by cases same)
  · intro other reached
    rw [found] at reached
    cases reached
  · intro query name
    have touched := congrFun (congrFun (cellOf_heard bonjour reply) query) name
    rw [← touched, cellOf, Table.getElem?_row_store]
    simp only [eq_comm]
    rfl
  · intro query member
    rcases (Table.mem_store _ _ _ _ _).mp member with same | before
    · exact .inl same.symm
    · exact mem_touched before

theorem added (good : bonjour.Good) (asked : reply.queryAddr ∈ bonjour.queries)
    (oneDomain : bonjour.OneDomain reply)
    (isAdd : reply.isAdd = true) {address : Nat} (fresh : address ∉ bonjour.stubs) :
    Ensures ((bonjour.heard reply).added reply address) Good := by
  cases found : cellOf bonjour.queryToNodes reply.queryAddr reply.replyName with
  | some node => exact good.added_of_known asked oneDomain isAdd found address
  | none => exact good.added_of_new asked oneDomain isAdd found fresh

/-- A node is gone with all of its handles. -/
theorem withoutNode (good : bonjour.Good) (asked : reply.queryAddr ∈ bonjour.queries)
    (oneDomain : bonjour.OneDomain reply)
    (found : cellOf bonjour.queryToNodes reply.queryAddr reply.replyName = some node)
    (held : bonjour.stubs[node]? = some stub)
    (silent : forall interfaceIndex,
      (reply.replyName, interfaceIndex) ∉ (bonjour.daemon.answered reply).present) :
    Good { (bonjour.heard reply).released (stub.clients.map Handle.socket) with
      nodeToQuery := bonjour.nodeToQuery.erase node
      queryToNodes := (bonjour.heard reply).queryToNodes.insert reply.queryAddr
        (((bonjour.heard reply).queryToNodes.row reply.queryAddr).erase stub.uuid)
      stubs := bonjour.stubs.erase node } := by
  obtain ⟨_, known, profile, named⟩ := good.directory.profile_of_cell found
  rw [profileOf, held] at profile
  cases profile
  have named : stub.uuid = reply.replyName := named
  have closes (request : Request) (handle : Handle)
      (stored : slotOf bonjour.registerClients bonjour.queryClients bonjour.stubs request =
        some handle) :
      handle.socket ∈ stub.clients.map Handle.socket <-> request.remote = some node := by
    have own := good.accounted.mem_sockets_iff (stored_entries held) stored
    rw [stub.map_socket_entries node] at own
    rw [own, BonjourNodeStub.mem_entries]
    refine and_iff_left_of_imp fun remote => ?_
    rw [slotOf_of_remote _ _ _ remote, held] at stored
    exact stored
  refine { good with
    accounted := good.accounted.closedWhere closes ?_, browsed := ?_, directory := ?_, tidy := ?_ }
  · intro request
    change slotOf bonjour.registerClients bonjour.queryClients (bonjour.stubs.eraseAll [node])
      request = _
    rw [slotOf_eraseAll]
    simp only [List.mem_singleton, exists_eq_left]
  · intro query member
    rcases ExtTreeMap.mem_insert.mp member with same | before
    · rw [← LawfulEqCmp.compare_eq_iff_eq.mp same]
      exact asked
    · rcases mem_touched before with rfl | listed
      · exact asked
      · exact good.browsed query listed
  · refine good.directory.take found (fun given => oneDomain given)
      (fun _ interfaceIndex other => Daemon.mem_answered_other other interfaceIndex) silent
      (fun other => bonjour.nodeToQuery.getElem?_erase_eq node other) ?_ ?_
      (fun query => bonjour.daemon.answers.getElem?_insert_eq reply.queryAddr query _)
    · intro query name
      have touched := congrFun (congrFun (cellOf_heard bonjour reply) query) name
      rw [← touched, cellOf, Table.getElem?_row_eraseColumn, named]
      simp only [eq_comm]
      rfl
    · intro other
      rw [profileOf, Table.getElem?_erase_eq]
      split <;> rfl
  · intro other kept still
    change (bonjour.stubs.erase node)[other]? = some kept at still
    rw [Table.getElem?_erase_eq] at still
    split at still
    next => cases still
    next => exact good.tidy other kept still

/-- A reply that removes is about a node that is known. -/
theorem dropped (good : bonjour.Good) (asked : reply.queryAddr ∈ bonjour.queries)
    (oneDomain : bonjour.OneDomain reply)
    (isAdd : reply.isAdd = false)
    (announced : (reply.replyName, reply.ifIndex) ∈ bonjour.daemon.present reply.queryAddr) :
    Ensures ((bonjour.heard reply).dropped reply) fun next =>
      Good next.1 ∧ BonjourEffect.aborted ∉ next.2 := by
  obtain ⟨node, found⟩ := good.directory.cell_of_present announced
  obtain ⟨back, known, profile, named⟩ := good.directory.profile_of_cell found
  obtain ⟨stub, held, rfl⟩ := Option.map_eq_some_iff.mp profile
  have tidy := good.tidy node stub held
  have interfaces (interfaceIndex : Nat) :
      interfaceIndex ∈ (stub.dropInterface reply.ifIndex).interfaceIndices <->
        (reply.replyName, interfaceIndex) ∈ (bonjour.daemon.answered reply).present := by
    rw [Daemon.mem_answered_drop isAdd, good.directory.mem_present_iff found profile]
    change interfaceIndex ∈ stub.interfaceIndices.erase reply.ifIndex <-> _
    rw [ExtTreeSet.mem_erase, ne_eq, LawfulEqCmp.compare_eq_iff_eq, eq_comm]
    rfl
  have located : ((bonjour.heard reply).queryToNodes.row reply.queryAddr)[reply.replyName]? =
      some node := (congrFun (congrFun (cellOf_heard _ _) _) _).trans found
  rw [Bonjour.dropped]
  apply Ensures.found located
  apply Ensures.found held
  split
  next empty =>
    have silent (interfaceIndex : Nat) :
        (reply.replyName, interfaceIndex) ∉ (bonjour.daemon.answered reply).present := by
      rw [← interfaces, ExtTreeSet.isEmpty_iff.mp empty]
      exact ExtTreeSet.not_mem_empty
    have once := good.nodup_clients held
    have listed := good.mem_active_of_client held
    have forgotten : forgetRemoteNodesFDs node { bonjour.heard reply with
        stubs := bonjour.stubs.insert node (stub.dropInterface reply.ifIndex) } = some _ :=
      forgetRemoteNodesFDs_eq ExtTreeMap.getElem?_insert_self once listed
    refine Ensures.found forgotten (.check ?_ (.done ⟨?_, ?_⟩))
    · change node ∈ bonjour.nodeToQuery
      rw [ExtTreeMap.mem_iff_isSome_getElem?]
      exact Option.isSome_of_mem back
    · change Good { (bonjour.heard reply).released (stub.clients.map Handle.socket) with
        nodeToQuery := bonjour.nodeToQuery.erase node
        queryToNodes := _
        stubs := ((bonjour.stubs.insert node _).insert node _).erase node }
      rw [Table.erase_insert, Table.erase_insert]
      exact good.withoutNode asked oneDomain found held silent
    · intro member
      cases List.mem_singleton.mp member
  next =>
    refine .done ⟨good.answeredKnown asked oneDomain found held ?_ ?_ ?_ ?_ interfaces,
      List.not_mem_nil⟩
    · rfl
    · rfl
    · exact ⟨tidy.domains, tidy.resolving⟩
    · rfl

theorem browseReply (good : bonjour.Good) (offers : Offers) {address : Nat}
    (allowed : bonjour.Allowed (.browseReply reply address offers)) :
    Ensures ({ bonjour with daemon := bonjour.daemon.answer reply }.browseReply offers address reply)
      fun next => Good next.1 ∧ BonjourEffect.aborted ∉ next.2 := by
  obtain ⟨live, oneDomain, announced, fresh⟩ := allowed
  have asked : reply.queryAddr ∈ bonjour.queries := by
    rw [← good.queried, ExtTreeMap.mem_iff_isSome_getElem?]
    exact Option.isSome_of_mem (good.slot_of_live live)
  rw [Bonjour.browseReply]
  apply Ensures.check asked
  have entered : Ensures (if reply.isAdd then
        ((bonjour.heard reply).added reply address).map fun bonjour => (bonjour, [])
      else (bonjour.heard reply).dropped reply) fun next =>
        Good next.1 ∧ BonjourEffect.aborted ∉ next.2 := by
    split
    next isAdd =>
      exact (good.added asked oneDomain isAdd fresh).map fun _ kept => ⟨kept, List.not_mem_nil⟩
    next removes =>
      have isAdd := Bool.eq_false_iff.mpr removes
      exact good.dropped asked oneDomain isAdd (announced isAdd)
  apply Ensures.bind entered
  rintro ⟨next, effects⟩ ⟨kept, quiet⟩
  have resolved : Ensures (if reply.moreComing then some next
      else next.resolveAll offers reply.queryAddr) Good := by
    split
    next => exact .done kept
    next => exact kept.resolveAll offers reply.queryAddr
  exact (resolved.bind fun _ => Good.validated).map fun _ last => ⟨last, quiet⟩

end Good

end Bonjour

end Discovery
end Umundo
