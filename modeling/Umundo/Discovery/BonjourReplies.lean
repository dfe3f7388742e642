import Umundo.Discovery.BonjourCalls

namespace Umundo
namespace Discovery

open Foundation
open Std

/-!
# Callbacks of the daemon

A callback belongs to a live handle, and a live handle is stored in one of the
registries: so the node or query that a callback is about is known, and the handle it
was called for is the one that the code expects to find.  Every callback that the
daemon may make is therefore carried out without an abort and keeps the invariant.
-/

/-! ## Changes inside one stub -/

section

variable {registerClients queryClients : Table Nat Handle} {stubs : Table Nat BonjourNodeStub}
variable {node : Nat} {stub changed : BonjourNodeStub}

/-- One of the handles of a stub is stored or dropped. -/
theorem slotOf_change (registerClients queryClients : Table Nat Handle)
    (held : stubs[node]? = some stub) {target : Request} {value : Option Handle}
    (about : target.remote = some node)
    (lookup_eq : forall request, request.remote = some node ->
      changed.lookup request = if request = target then value else stub.lookup request)
    (request : Request) :
    slotOf registerClients queryClients (stubs.insert node changed) request =
      if request = target then value else slotOf registerClients queryClients stubs request := by
  rw [slotOf_insert]
  by_cases remote : request.remote = some node
  · rw [if_pos remote, lookup_eq request remote, slotOf_of_remote _ _ _ remote, held, Option.bind_some]
  · rw [if_neg remote, if_neg]
    rintro rfl
    exact remote about

theorem slotOf_insert_same (held : stubs[node]? = some stub) (same : changed.lookup = stub.lookup) :
    slotOf registerClients queryClients (stubs.insert node changed) =
      slotOf registerClients queryClients stubs := by
  funext request
  rw [slotOf_insert]
  split
  next remote => rw [slotOf_of_remote _ _ _ remote, held, same, Option.bind_some]
  next => rfl

theorem slotOf_insert_new (absent : stubs[node]? = none)
    (empty : forall request, changed.lookup request = none) :
    slotOf registerClients queryClients (stubs.insert node changed) =
      slotOf registerClients queryClients stubs := by
  funext request
  rw [slotOf_insert]
  split
  next remote => rw [slotOf_of_remote _ _ _ remote, absent, empty, Option.bind_none]
  next => rfl

end

namespace BonjourNodeStub

variable (stub : BonjourNodeStub) (node : Nat)

theorem lookup_resolving (domain : CString) (client : Handle) (request : Request)
    (remote : request.remote = some node) :
    { stub with serviceResolveClients :=
        stub.serviceResolveClients.insert domain client }.lookup request =
      if request = .resolve node domain then some client else stub.lookup request := by
  cases request with
  | register _ => cases remote
  | browse _ => cases remote
  | resolve _ other =>
      cases remote
      rw [lookup, Table.getElem?_insert_eq]
      simp only [Request.resolve.injEq, true_and]
      rfl
  | addrInfo _ _ => rfl

theorem lookup_resolved (domain : CString) (request : Request)
    (remote : request.remote = some node) :
    { stub with serviceResolveClients := stub.serviceResolveClients.erase domain }.lookup request =
      if request = .resolve node domain then none else stub.lookup request := by
  cases request with
  | register _ => cases remote
  | browse _ => cases remote
  | resolve _ other =>
      cases remote
      rw [lookup, Table.getElem?_erase_eq]
      simp only [Request.resolve.injEq, true_and]
      rfl
  | addrInfo _ _ => rfl

theorem lookup_asking (interfaceIndex : Nat) (client : Handle) (request : Request)
    (remote : request.remote = some node) :
    { stub with addrInfoClients := stub.addrInfoClients.insert interfaceIndex client }.lookup request =
      if request = .addrInfo node interfaceIndex then some client else stub.lookup request := by
  cases request with
  | register _ => cases remote
  | browse _ => cases remote
  | resolve _ _ => rfl
  | addrInfo _ other =>
      cases remote
      rw [lookup, Table.getElem?_insert_eq]
      simp only [Request.addrInfo.injEq, true_and]
      rfl

theorem lookup_asked (interfaceIndex : Nat) (request : Request)
    (remote : request.remote = some node) :
    { stub with addrInfoClients := stub.addrInfoClients.erase interfaceIndex }.lookup request =
      if request = .addrInfo node interfaceIndex then none else stub.lookup request := by
  cases request with
  | register _ => cases remote
  | browse _ => cases remote
  | resolve _ _ => rfl
  | addrInfo _ other =>
      cases remote
      rw [lookup, Table.getElem?_erase_eq]
      simp only [Request.addrInfo.injEq, true_and]
      rfl

/-- An address is stored next to everything else. -/
theorem storeAddress_eq (interfaceIndex : Nat) (errorCode : Int) (address : SockAddr) :
    Exists fun interfacesIPv4 => Exists fun interfacesIPv6 =>
      stub.storeAddress interfaceIndex errorCode address =
        { stub with interfacesIPv4 := interfacesIPv4, interfacesIPv6 := interfacesIPv6 } := by
  cases address with
  | inet b0 b1 b2 b3 =>
      rw [storeAddress]
      split
      · exact ⟨_, _, rfl⟩
      · split <;> exact ⟨_, _, rfl⟩
  | inet6 b =>
      rw [storeAddress]
      split
      · exact ⟨_, _, rfl⟩
      · split <;> exact ⟨_, _, rfl⟩
  | other => exact ⟨_, _, rfl⟩

end BonjourNodeStub

namespace Bonjour

variable {bonjour : Bonjour} {node : Nat} {stub changed : BonjourNodeStub}

namespace Good

/-- A stub is changed in a way that the directory does not see. -/
theorem withStub (good : bonjour.Good) (held : bonjour.stubs[node]? = some stub)
    (same : changed.profile = stub.profile) (tidy : changed.Tidy)
    {live : Table Int (Nat × Request)} {active : Table Int Handle}
    (accounted : Accounted live active (slotOf bonjour.registerClients bonjour.queryClients
      (bonjour.stubs.insert node changed))) :
    Good { bonjour with
      activeFDs := active
      stubs := bonjour.stubs.insert node changed
      daemon := { bonjour.daemon with live := live } } := by
  refine { good with accounted := accounted, directory := ?_, tidy := ?_ }
  · change Directory _ _ (profileOf (bonjour.stubs.insert node changed)) _
    rw [profileOf_insert_same _ held same]
    exact good.directory
  · intro other kept found
    change (bonjour.stubs.insert node changed)[other]? = some kept at found
    rw [Table.getElem?_insert_eq] at found
    split at found
    next =>
      cases found
      exact tidy
    next => exact good.tidy other kept found

/-- A stub that is in memory is found through the tables. -/
theorem locate (good : bonjour.Good) (held : bonjour.stubs[node]? = some stub) :
    Exists fun query => bonjour.locate node = some (query, node) ∧
      cellOf bonjour.queryToNodes query stub.uuid = some node := by
  have owned := good.directory.owned node
  rw [profileOf, held] at owned
  obtain ⟨query, back⟩ := Option.isSome_iff_exists.mp owned.symm
  obtain ⟨known, kept, found⟩ := good.directory.cell_of_home back
  rw [profileOf, held] at kept
  cases kept
  refine ⟨query, ?_, found⟩
  change (bonjour.queryToNodes.row query)[stub.uuid]? = some node at found
  change bonjour.nodeToQuery[node]? = some query at back
  rw [Bonjour.locate, back, Option.bind_some, held, Option.bind_some, found]
  rfl

/-- The handle of a callback is where its request belongs. -/
theorem slot_of_live (good : bonjour.Good) {client : Handle} {request : Request}
    (live : bonjour.daemon.live[client.socket]? = some (client.pointer, request)) :
    slotOf bonjour.registerClients bonjour.queryClients bonjour.stubs request = some client :=
  (good.accounted.slot_iff request client).mpr live

theorem close (good : bonjour.Good) {request : Request} {client : Handle}
    (stored : slotOf bonjour.registerClients bonjour.queryClients bonjour.stubs request =
      some client) : bonjour.close client = some (bonjour.released [client.socket]) := by
  rw [Bonjour.close, check, if_pos ((good.accounted.mem_active_iff _).mpr ⟨request, client, stored, rfl⟩)]
  rfl

/-! ## Resolving -/

theorem resolve (good : bonjour.Good) (offers : Offers) (held : bonjour.stubs[node]? = some stub) :
    Ensures (bonjour.resolve offers node stub.domain) fun next =>
      Good next ∧ profileOf next.stubs = profileOf bonjour.stubs := by
  rw [Bonjour.resolve]
  apply Ensures.found held
  split
  next => exact .done ⟨good, rfl⟩
  next absent =>
    split
    next => exact .done ⟨good, rfl⟩
    next client accepted =>
      have unused := Daemon.not_mem_of_accept accepted
      have empty : slotOf bonjour.registerClients bonjour.queryClients bonjour.stubs
          (.resolve node stub.domain) = none := by
        rw [slotOf, held]
        exact getElem?_neg stub.serviceResolveClients stub.domain absent
      have tidy := good.tidy node stub held
      apply Ensures.check (good.accounted.not_mem_active unused)
      apply Ensures.check absent
      refine .done ⟨good.withStub held ?_ ?_ (good.accounted.opened unused empty (slotOf_change _ _ held
        rfl (stub.lookup_resolving node stub.domain client))), profileOf_insert_same _ held ?_⟩
      · rfl
      · refine ⟨tidy.domains, fun domain member => ?_⟩
        rcases ExtTreeMap.mem_insert.mp member with same | before
        · exact (LawfulEqCmp.compare_eq_iff_eq.mp same).symm
        · exact tidy.resolving domain before
      · rfl

/-- The loop over the domains of a node. -/
theorem resolveNode (good : bonjour.Good) (offers : Offers)
    (held : (profileOf bonjour.stubs node).isSome = true) :
    Ensures (bonjour.resolveNode offers node) fun next =>
      Good next ∧ profileOf next.stubs = profileOf bonjour.stubs := by
  rw [profileOf, Option.isSome_map] at held
  obtain ⟨stub, held⟩ := Option.isSome_iff_exists.mp held
  rw [Bonjour.resolveNode]
  apply Ensures.found held
  refine .loop ?_ ⟨good, rfl⟩
  rintro state domain member ⟨kept, same⟩
  have still := congrFun same node
  rw [profileOf, profileOf, held] at still
  obtain ⟨now, found, profile⟩ := Option.map_eq_some_iff.mp still
  have own : domain = now.domain := by
    rw [(good.tidy node stub held).domains domain (ExtTreeSet.mem_toList.mp member)]
    exact (congrArg Profile.domain profile).symm
  rw [own]
  exact (kept.resolve offers found).mono fun _ after => ⟨after.1, after.2.trans same⟩

theorem resolveAll (good : bonjour.Good) (offers : Offers) (query : Nat) :
    Ensures (bonjour.resolveAll offers query) Good := by
  rw [Bonjour.resolveAll]
  have loop : Ensures (((bonjour.queryToNodes.row query).toList.map Prod.snd).foldlM
      (Bonjour.resolveNode offers) bonjour) fun next =>
        Good next ∧ profileOf next.stubs = profileOf bonjour.stubs := by
    refine .loop ?_ ⟨good, rfl⟩
    rintro state node member ⟨kept, same⟩
    have held : (profileOf state.stubs node).isSome = true := by
      rw [same, good.directory.owned, (good.mem_row query node).mp member]
      rfl
    exact (kept.resolveNode offers held).mono fun _ after => ⟨after.1, after.2.trans same⟩
  exact loop.mono fun _ after => after.1

theorem finishResolve (good : bonjour.Good) {domain : CString} {sdref : Handle}
    (stored : slotOf bonjour.registerClients bonjour.queryClients bonjour.stubs
      (.resolve node domain) = some sdref) : Ensures (bonjour.finishResolve sdref node) Good := by
  obtain ⟨stub, held, found⟩ := Option.bind_eq_some_iff.mp stored
  have tidy := good.tidy node stub held
  have own : domain = stub.domain := by
    apply tidy.resolving domain
    rw [ExtTreeMap.mem_iff_isSome_getElem?]
    exact Option.isSome_of_mem found
  subst own
  rw [Bonjour.finishResolve]
  apply Ensures.found held
  apply Ensures.check found
  rw [good.close stored, Option.map_some]
  refine .done (good.withStub held ?_ ?_ (good.accounted.closed stored (slotOf_change _ _ held rfl
    (stub.lookup_resolved node stub.domain))))
  · rfl
  · exact ⟨tidy.domains,
      fun domain member => tidy.resolving domain (ExtTreeMap.mem_of_mem_erase member)⟩

/-! ## Addresses -/

end Good

theorem replaceAddrInfo_of_none {interfaceIndex : Nat} (held : bonjour.stubs[node]? = some stub)
    (free : stub.addrInfoClients[interfaceIndex]? = none) :
    bonjour.replaceAddrInfo node interfaceIndex = some bonjour := by
  rw [replaceAddrInfo, held, Option.bind_some, free]

theorem replaceAddrInfo_of_some {interfaceIndex : Nat} {client : Handle}
    (held : bonjour.stubs[node]? = some stub)
    (taken : stub.addrInfoClients[interfaceIndex]? = some client)
    (listed : client.socket ∈ bonjour.activeFDs) :
    bonjour.replaceAddrInfo node interfaceIndex = some { bonjour.released [client.socket] with
      stubs := bonjour.stubs.insert node { stub with
        addrInfoClients := stub.addrInfoClients.erase interfaceIndex } } := by
  rw [replaceAddrInfo, held, Option.bind_some, taken]
  change (bonjour.close client).map _ = _
  rw [Bonjour.close, check, if_pos listed]
  rfl

namespace Good

/-- A new address request is stored for an interface that has none. -/
theorem storeAddrInfo (good : bonjour.Good) {interfaceIndex : Nat} {client : Handle}
    (held : bonjour.stubs[node]? = some stub)
    (free : stub.addrInfoClients[interfaceIndex]? = none)
    (unused : client.socket ∉ bonjour.daemon.live) :
    Good { bonjour with
      activeFDs := bonjour.activeFDs.insert client.socket client
      stubs := bonjour.stubs.insert node { stub with
        addrInfoClients := stub.addrInfoClients.insert interfaceIndex client }
      daemon := bonjour.daemon.opened client (.addrInfo node interfaceIndex) } := by
  have tidy := good.tidy node stub held
  have empty : slotOf bonjour.registerClients bonjour.queryClients bonjour.stubs
      (.addrInfo node interfaceIndex) = none := by
    rw [slotOf, held]
    exact free
  refine good.withStub held ?_ ?_ (good.accounted.opened unused empty (slotOf_change _ _ held rfl
    (stub.lookup_asking node interfaceIndex client)))
  · rfl
  · exact ⟨tidy.domains, tidy.resolving⟩

/-- The address request of an interface is closed. -/
theorem dropAddrInfo (good : bonjour.Good) {interfaceIndex : Nat} {client : Handle}
    (held : bonjour.stubs[node]? = some stub)
    (taken : stub.addrInfoClients[interfaceIndex]? = some client) :
    Good { bonjour.released [client.socket] with
      stubs := bonjour.stubs.insert node { stub with
        addrInfoClients := stub.addrInfoClients.erase interfaceIndex } } := by
  have tidy := good.tidy node stub held
  have stored : slotOf bonjour.registerClients bonjour.queryClients bonjour.stubs
      (.addrInfo node interfaceIndex) = some client := by
    rw [slotOf, held]
    exact taken
  refine good.withStub held ?_ ?_ (good.accounted.closed stored (slotOf_change _ _ held rfl
    (stub.lookup_asked node interfaceIndex)))
  · rfl
  · exact ⟨tidy.domains, tidy.resolving⟩

/-- The new request takes the place of an old one. -/
theorem requestAddrInfo (good : bonjour.Good) (offers : Offers) (interfaceIndex : Nat)
    (held : bonjour.stubs[node]? = some stub) :
    Ensures (bonjour.requestAddrInfo offers node node interfaceIndex) fun next =>
      Good next ∧ Exists fun addrInfoClients =>
        next.stubs[node]? = some { stub with addrInfoClients := addrInfoClients } := by
  rw [Bonjour.requestAddrInfo]
  split
  next => exact .done ⟨good, stub.addrInfoClients, held⟩
  next client accepted =>
    have unused := Daemon.not_mem_of_accept accepted
    cases occupied : stub.addrInfoClients[interfaceIndex]? with
    | none =>
        have replaced : replaceAddrInfo node interfaceIndex { bonjour with
            daemon := bonjour.daemon.opened client (.addrInfo node interfaceIndex) } = some { bonjour with
              daemon := bonjour.daemon.opened client (.addrInfo node interfaceIndex) } :=
          replaceAddrInfo_of_none held occupied
        rw [replaced, Option.bind_some]
        apply Ensures.found held
        apply Ensures.check (Table.not_mem_of_getElem? occupied)
        apply Ensures.check (good.accounted.not_mem_active unused)
        exact .done ⟨good.storeAddrInfo held occupied unused, _, ExtTreeMap.getElem?_insert_self⟩
    | some old =>
        have stored : slotOf bonjour.registerClients bonjour.queryClients bonjour.stubs
            (.addrInfo node interfaceIndex) = some old := by
          rw [slotOf, held]
          exact occupied
        have oldLive := (good.accounted.slot_iff _ _).mp stored
        have different : client.socket ≠ old.socket := by
          intro same
          rw [← same, getElem?_neg bonjour.daemon.live client.socket unused] at oldLive
          cases oldLive
        have replaced : replaceAddrInfo node interfaceIndex { bonjour with
            daemon := bonjour.daemon.opened client (.addrInfo node interfaceIndex) } = some _ :=
          replaceAddrInfo_of_some held occupied
            ((good.accounted.mem_active_iff _).mpr ⟨_, old, stored, rfl⟩)
        have order := bonjour.daemon.live.erase_insert_of_ne
          (client.pointer, Request.addrInfo node interfaceIndex) different
        have free : (stub.addrInfoClients.erase interfaceIndex)[interfaceIndex]? = none :=
          ExtTreeMap.getElem?_erase_self
        have still : client.socket ∉ bonjour.daemon.live.erase old.socket :=
          fun member => unused (ExtTreeMap.mem_of_mem_erase member)
        have middle := good.dropAddrInfo held occupied
        have after := middle.storeAddrInfo ExtTreeMap.getElem?_insert_self free still
        rw [replaced, Option.bind_some]
        apply Ensures.found ExtTreeMap.getElem?_insert_self
        apply Ensures.check (Table.not_mem_of_getElem? free)
        apply Ensures.check (middle.accounted.not_mem_active still)
        refine .done ⟨?_, _, ExtTreeMap.getElem?_insert_self⟩
        change Good { bonjour with
          activeFDs := (bonjour.activeFDs.erase old.socket).insert client.socket client
          stubs := _
          daemon := ⟨(bonjour.daemon.live.insert client.socket
            (client.pointer, .addrInfo node interfaceIndex)).erase old.socket, _⟩ }
        rw [order]
        exact after

theorem finishAddrInfo (good : bonjour.Good) {interfaceIndex : Nat} {sdRef : Handle}
    (stored : slotOf bonjour.registerClients bonjour.queryClients bonjour.stubs
      (.addrInfo node interfaceIndex) = some sdRef) :
    Ensures (bonjour.finishAddrInfo sdRef node interfaceIndex) Good := by
  obtain ⟨stub, held, found⟩ := Option.bind_eq_some_iff.mp stored
  rw [Bonjour.finishAddrInfo]
  apply Ensures.found held
  split
  next =>
    apply Ensures.check found
    rw [good.close stored, Option.map_some]
    exact .done (good.dropAddrInfo held found)
  next => exact .done good

/-! ## The callbacks -/

theorem serviceResolveReply (good : bonjour.Good) (offers : Offers) {reply : ServiceResolveReply}
    (allowed : bonjour.Allowed (.serviceResolveReply reply offers)) :
    Ensures (bonjour.serviceResolveReply offers reply) Good := by
  have stored : Exists fun domain => slotOf bonjour.registerClients bonjour.queryClients
      bonjour.stubs (.resolve reply.context domain) = some reply.sdref := by
    rw [Allowed] at allowed
    split at allowed
    next pointer node domain live =>
      obtain ⟨rfl, rfl⟩ := allowed
      exact ⟨domain, good.slot_of_live live⟩
    next => exact allowed.elim
  obtain ⟨domain, stored⟩ := stored
  obtain ⟨stub, held, found⟩ := Option.bind_eq_some_iff.mp stored
  obtain ⟨query, located, _⟩ := good.locate held
  rw [Bonjour.serviceResolveReply, good.validated_eq, Option.bind_some]
  split
  next =>
    rw [located, Option.bind_some]
    apply Ensures.bind (good.requestAddrInfo offers reply.interfaceIndex held)
    rintro next ⟨kept, addrInfoClients, changed⟩
    refine Ensures.bind ?_ fun _ => Good.validated
    split
    next => exact .done kept
    next =>
      have still : slotOf next.registerClients next.queryClients next.stubs
          (.resolve reply.context domain) = some reply.sdref := by
        rw [slotOf, changed]
        exact found
      exact kept.finishResolve still
  next => exact good.validated

/-- An address is stored next to everything that the invariant speaks about. -/
theorem storeAddress (good : bonjour.Good) (held : bonjour.stubs[node]? = some stub)
    (interfaceIndex : Nat) (errorCode : Int) (address : SockAddr) :
    Good { bonjour with
        stubs := bonjour.stubs.insert node (stub.storeAddress interfaceIndex errorCode address) } ∧
      slotOf bonjour.registerClients bonjour.queryClients (bonjour.stubs.insert node
          (stub.storeAddress interfaceIndex errorCode address)) =
        slotOf bonjour.registerClients bonjour.queryClients bonjour.stubs := by
  have tidy := good.tidy node stub held
  obtain ⟨interfacesIPv4, interfacesIPv6, changed⟩ :=
    stub.storeAddress_eq interfaceIndex errorCode address
  rw [changed]
  have slots : slotOf bonjour.registerClients bonjour.queryClients (bonjour.stubs.insert node
      { stub with interfacesIPv4 := interfacesIPv4, interfacesIPv6 := interfacesIPv6 }) =
      slotOf bonjour.registerClients bonjour.queryClients bonjour.stubs := by
    apply slotOf_insert_same held
    rfl
  refine ⟨good.withStub held ?_ ?_ (slots ▸ good.accounted), slots⟩
  · rfl
  · exact ⟨tidy.domains, tidy.resolving⟩

theorem aborted_not_mem_reported (query node : Nat) (stub : BonjourNodeStub) :
    BonjourEffect.aborted ∉ reported query node stub := by
  intro member
  obtain ⟨_, _, same⟩ := List.mem_map.mp member
  cases same

theorem addrInfoReply (good : bonjour.Good) {reply : AddrInfoReply}
    (allowed : bonjour.Allowed (.addrInfoReply reply)) :
    Ensures (bonjour.addrInfoReply reply) fun next =>
      Good next.1 ∧ BonjourEffect.aborted ∉ next.2 := by
  have stored := good.slot_of_live allowed
  obtain ⟨stub, held, found⟩ := Option.bind_eq_some_iff.mp stored
  obtain ⟨query, located, _⟩ := good.locate held
  have ignored : Ensures (bonjour.validated.map fun bonjour => (bonjour, ([] : List BonjourEffect)))
      fun next => Good next.1 ∧ BonjourEffect.aborted ∉ next.2 :=
    good.validated.map fun _ kept => ⟨kept, List.not_mem_nil⟩
  rw [Bonjour.addrInfoReply]
  split
  next => exact .done ⟨good, List.not_mem_nil⟩
  next =>
    rw [located, Option.bind_some]
    apply Ensures.found held
    split
    next => exact ignored
    next =>
      split
      next => exact ignored
      next => exact ignored
      next address _ _ =>
        have stores := good.storeAddress held reply.interfaceIndex reply.errorCode address
        apply Ensures.bind (stores.1.finishAddrInfo ((congrFun stores.2 _).trans stored))
        intro next kept
        exact kept.validated.map fun _ still => ⟨still, aborted_not_mem_reported _ _ _⟩

end Good

end Bonjour

end Discovery
end Umundo
