import Umundo.Discovery.BonjourBookkeeping
import Umundo.Foundation.Fields

namespace Umundo
namespace Discovery

open Foundation
open Std

/-!
# Addresses of reported nodes

A node is reported to its query as soon as one of its interfaces has an IPv4 address, and
whoever asks the stub for its address relies on that.  The address can get lost while the
node stays: the interface it belongs to is withdrawn, or the daemon says later that there
is no such record.  A reported node keeps an address exactly if another interface has one
whenever that happens.
-/

/-! ## The address of a stub -/

/-- There is an address that is not empty. -/
def HasAddress (addresses : Table Nat CString) : Prop :=
  Exists fun interfaceIndex : Nat => Exists fun address =>
    addresses[interfaceIndex]? = some address ∧ 0 < address.length

/-- There is an address that is not empty, at another interface. -/
def HasAddressBesides (interfaceIndex : Nat) (addresses : Table Nat CString) : Prop :=
  Exists fun other : Nat => other ≠ interfaceIndex ∧ Exists fun address =>
    addresses[other]? = some address ∧ 0 < address.length

/-- The first address that is not empty, or else the first one.  It is asserted that there
is one. -/
def BonjourNodeStub.getIP (stub : BonjourNodeStub) : Option CString :=
  match stub.interfacesIPv4.toList.find? fun entry => decide (0 < entry.2.length) with
  | some entry => some entry.2
  | none => stub.interfacesIPv4.toList.head?.map Prod.snd

theorem BonjourNodeStub.getIP_iff (stub : BonjourNodeStub) :
    (Exists fun address => stub.getIP = some address ∧ 0 < address.length) <->
      HasAddress stub.interfacesIPv4 := by
  rw [getIP]
  split
  next entry found =>
    have listed := ExtTreeMap.mem_toList_iff_getElem?_eq_some.mp (List.mem_of_find?_eq_some found)
    have filled : 0 < entry.2.length := by simpa using List.find?_some found
    exact ⟨fun _ => ⟨entry.1, entry.2, listed, filled⟩, fun _ => ⟨entry.2, rfl, filled⟩⟩
  next empty =>
    have blank (entry : Nat × CString) (member : entry ∈ stub.interfacesIPv4.toList) :
        ¬ 0 < entry.2.length := by
      simpa using List.find?_eq_none.mp empty entry member
    constructor
    · rintro ⟨address, first, filled⟩
      obtain ⟨entry, head, rfl⟩ := Option.map_eq_some_iff.mp first
      exact absurd filled (blank entry (List.mem_of_head? head))
    · rintro ⟨interfaceIndex, address, held, filled⟩
      exact absurd filled (blank _ (ExtTreeMap.mem_toList_iff_getElem?_eq_some.mpr held))

theorem hasAddress_erase (addresses : Table Nat CString) (interfaceIndex : Nat) :
    HasAddress (addresses.erase interfaceIndex) <-> HasAddressBesides interfaceIndex addresses := by
  simp only [HasAddress, HasAddressBesides, Table.getElem?_erase_eq]
  constructor
  · rintro ⟨other, address, held, filled⟩
    split at held
    next => cases held
    next different => exact ⟨other, different, address, held, filled⟩
  · rintro ⟨other, different, address, held, filled⟩
    exact ⟨other, address, by rw [if_neg different, held], filled⟩

theorem hasAddress_insert_empty (addresses : Table Nat CString) (interfaceIndex : Nat) :
    HasAddress (addresses.insert interfaceIndex .empty) <->
      HasAddressBesides interfaceIndex addresses := by
  simp only [HasAddress, HasAddressBesides, Table.getElem?_insert_eq]
  constructor
  · rintro ⟨other, address, held, filled⟩
    split at held
    next =>
      cases held
      exact absurd filled (Nat.lt_irrefl 0)
    next different => exact ⟨other, different, address, held, filled⟩
  · rintro ⟨other, different, address, held, filled⟩
    exact ⟨other, address, by rw [if_neg different, held], filled⟩

theorem hasAddress_insert (addresses : Table Nat CString) (interfaceIndex : Nat) {address : CString}
    (filled : 0 < address.length) : HasAddress (addresses.insert interfaceIndex address) :=
  ⟨interfaceIndex, address, ExtTreeMap.getElem?_insert_self, filled⟩

theorem dotted_length_pos (b0 b1 b2 b3 : UInt8) : 0 < (dotted b0 b1 b2 b3).length := by
  have dot : (CString.ofBytes ".".toUTF8.toList).bytes.length = 1 := by
    decide +kernel
  simp only [dotted, CString.length, CString.bytes_append, List.length_append, dot]
  omega

/-- Only the news that there is no record can take away the last address. -/
theorem BonjourNodeStub.hasAddress_storeAddress (stub : BonjourNodeStub)
    (has : HasAddress stub.interfacesIPv4) (interfaceIndex : Nat) (errorCode : Int)
    (address : SockAddr) :
    HasAddress (stub.storeAddress interfaceIndex errorCode address).interfacesIPv4 <->
      (errorCode = kDNSServiceErrNoSuchRecord ->
        (Exists fun b0 => Exists fun b1 => Exists fun b2 => Exists fun b3 =>
          address = .inet b0 b1 b2 b3) ->
        HasAddressBesides interfaceIndex stub.interfacesIPv4) := by
  cases address with
  | inet b0 b1 b2 b3 =>
      rw [storeAddress]
      split
      next noError =>
        refine iff_of_true (hasAddress_insert _ _ (dotted_length_pos b0 b1 b2 b3)) fun noRecord => ?_
        rw [noError] at noRecord
        exact absurd noRecord (by decide)
      next =>
        split
        next noRecord =>
          rw [hasAddress_insert_empty]
          exact ⟨fun besides _ _ => besides, fun still => still noRecord ⟨b0, b1, b2, b3, rfl⟩⟩
        next other => exact iff_of_true has fun noRecord => absurd noRecord other
  | inet6 b =>
      have same : (stub.storeAddress interfaceIndex errorCode (.inet6 b)).interfacesIPv4 =
          stub.interfacesIPv4 := by
        rw [storeAddress]
        split
        · rfl
        · split <;> rfl
      rw [same]
      exact iff_of_true has fun _ inet => by obtain ⟨_, _, _, _, given⟩ := inet; cases given
  | other => exact iff_of_true has fun _ inet => by obtain ⟨_, _, _, _, given⟩ := inet; cases given

/-! ## What does not touch addresses -/

namespace Bonjour

variable {bonjour next : Bonjour}

/-- The addresses that are stored for a node. -/
def addresses (bonjour : Bonjour) (node : Nat) : Option (Table Nat CString) :=
  bonjour.stubs[node]?.map BonjourNodeStub.interfacesIPv4

/-- All nodes stay with their queries and keep their addresses. -/
structure Keeps (bonjour next : Bonjour) : Prop where
  nodeToQuery : next.nodeToQuery = bonjour.nodeToQuery
  addresses : next.addresses = bonjour.addresses

theorem Keeps.refl (bonjour : Bonjour) : bonjour.Keeps bonjour := ⟨rfl, rfl⟩

theorem Keeps.trans {last : Bonjour} (first : bonjour.Keeps next) (second : next.Keeps last) :
    bonjour.Keeps last :=
  ⟨second.nodeToQuery.trans first.nodeToQuery, second.addresses.trans first.addresses⟩

/-- A stub changes in other respects. -/
theorem addresses_insert (bonjour : Bonjour) {node : Nat} {stub changed : BonjourNodeStub}
    (held : bonjour.stubs[node]? = some stub) (same : changed.interfacesIPv4 = stub.interfacesIPv4) :
    addresses { bonjour with stubs := bonjour.stubs.insert node changed } = bonjour.addresses := by
  funext other
  rw [addresses, addresses, Table.getElem?_insert_eq]
  by_cases here : other = node
  · rw [if_pos here, here, held, Option.map_some, Option.map_some, same]
  · rw [if_neg here]

theorem yields_validated (bonjour : Bonjour) : Yields bonjour.validated bonjour.Keeps :=
  .check fun _ => .done (.refl bonjour)

theorem yields_add (offers : Offers) (node : Nat) (uuid : CString) (bonjour : Bonjour) :
    Yields (bonjour.add offers node uuid) bonjour.Keeps := by
  rw [add]
  split
  next => exact .check fun _ => bonjour.yields_validated
  next =>
    refine .check fun _ => ?_
    split
    next => exact bonjour.yields_validated
    next =>
      refine .check fun _ => .check fun _ => .check fun _ => ?_
      exact (yields_validated _).mono fun _ kept => ⟨kept.1, kept.2⟩

theorem yields_remove (node : Nat) (bonjour : Bonjour) :
    Yields (bonjour.remove node) bonjour.Keeps := by
  rw [remove]
  split
  next => exact bonjour.yields_validated
  next =>
    refine .found fun client _ => .check fun _ => ?_
    exact (yields_validated _).mono fun _ kept => ⟨kept.1, kept.2⟩

theorem yields_suspend (bonjour : Bonjour) : Yields bonjour.suspend bonjour.Keeps := by
  rw [suspend]
  split
  next => exact .done (.refl bonjour)
  next =>
    refine .loop ?_ (Keeps.mk rfl rfl)
    exact fun state node _ kept => (yields_remove node state).mono fun _ => kept.trans

theorem yields_resume (offers : Offers) (bonjour : Bonjour) :
    Yields (bonjour.resume offers) bonjour.Keeps := by
  rw [resume]
  split
  next =>
    refine .map (.loop ?_ (Keeps.mk rfl rfl)) fun _ kept => ⟨kept.1, kept.2⟩
    exact fun state entry _ kept => (yields_add offers entry.1 entry.2 state).mono fun _ => kept.trans
  next => exact .done (.refl bonjour)

theorem yields_browse (offers : Offers) (query : Nat) (bonjour : Bonjour) :
    Yields (bonjour.browse offers query) bonjour.Keeps := by
  rw [browse]
  split
  next => exact bonjour.yields_validated
  next =>
    refine .check fun _ => ?_
    split
    next => exact bonjour.yields_validated
    next =>
      refine .check fun _ => .check fun _ => .check fun _ => ?_
      exact (yields_validated _).mono fun _ kept => ⟨kept.1, kept.2⟩

/-! ### Handles of a stub -/

theorem yields_close (client : Handle) (bonjour : Bonjour) :
    Yields (bonjour.close client) fun next => bonjour.Keeps next ∧ next.stubs = bonjour.stubs :=
  .check fun _ => .done ⟨⟨rfl, rfl⟩, rfl⟩

/-- A handle of a stub is closed and dropped. -/
theorem yields_close_insert (bonjour : Bonjour) {node : Nat} {stub changed : BonjourNodeStub}
    (held : bonjour.stubs[node]? = some stub) (same : changed.interfacesIPv4 = stub.interfacesIPv4)
    (client : Handle) :
    Yields ((bonjour.close client).map fun next =>
      { next with stubs := next.stubs.insert node changed }) bonjour.Keeps := by
  refine (bonjour.yields_close client).map fun next kept => ⟨kept.1.nodeToQuery, ?_⟩
  have still : next.stubs[node]? = some stub := by rw [kept.2, held]
  exact (addresses_insert next still same).trans kept.1.addresses

theorem yields_forgetRemoteNodesFDs (node : Nat) (bonjour : Bonjour) :
    Yields (bonjour.forgetRemoteNodesFDs node) bonjour.Keeps := by
  rw [forgetRemoteNodesFDs]
  refine .found fun stub held => ?_
  have closed : Yields (stub.clients.foldlM close bonjour) fun next =>
      bonjour.Keeps next ∧ next.stubs = bonjour.stubs := by
    refine .loop ?_ ⟨.refl bonjour, rfl⟩
    exact fun state client _ kept => (yields_close client state).mono fun _ after =>
      ⟨kept.1.trans after.1, after.2.trans kept.2⟩
  refine closed.map fun next kept => ⟨kept.1.nodeToQuery, ?_⟩
  have still : next.stubs[node]? = some stub := by rw [kept.2, held]
  exact (addresses_insert next still (by rfl)).trans kept.1.addresses

theorem yields_resolve (offers : Offers) (node : Nat) (bonjour : Bonjour) (domain : CString) :
    Yields (bonjour.resolve offers node domain) bonjour.Keeps := by
  rw [resolve]
  refine .found fun stub held => ?_
  split
  next => exact .done (.refl bonjour)
  next =>
    split
    next => exact .done (.refl bonjour)
    next =>
      refine .check fun _ => .check fun _ => .done ⟨rfl, ?_⟩
      exact addresses_insert bonjour held (by rfl)

theorem yields_resolveAll (offers : Offers) (query : Nat) (bonjour : Bonjour) :
    Yields (bonjour.resolveAll offers query) bonjour.Keeps := by
  refine .loop ?_ (.refl bonjour)
  intro state node _ kept
  refine .mono (.found fun stub _ => .loop ?_ (.refl state)) fun _ => kept.trans
  exact fun state domain _ kept => (state.yields_resolve offers node domain).mono fun _ => kept.trans

theorem yields_replaceAddrInfo (node interfaceIndex : Nat) (bonjour : Bonjour) :
    Yields (bonjour.replaceAddrInfo node interfaceIndex) bonjour.Keeps := by
  rw [replaceAddrInfo]
  refine .found fun stub held => ?_
  split
  next => exact .done (.refl bonjour)
  next client _ =>
    exact bonjour.yields_close_insert held (by rfl) client

theorem yields_requestAddrInfo (offers : Offers) (context node interfaceIndex : Nat)
    (bonjour : Bonjour) :
    Yields (bonjour.requestAddrInfo offers context node interfaceIndex) bonjour.Keeps := by
  rw [requestAddrInfo]
  split
  next => exact .done (.refl bonjour)
  next =>
    refine .bind (yields_replaceAddrInfo node interfaceIndex _) fun next kept => ?_
    refine .found fun stub held => .check fun _ => .check fun _ => .done ⟨kept.nodeToQuery, ?_⟩
    exact (addresses_insert next held (by rfl)).trans kept.addresses

theorem yields_finishResolve (sdref : Handle) (node : Nat) (bonjour : Bonjour) :
    Yields (bonjour.finishResolve sdref node) bonjour.Keeps := by
  rw [finishResolve]
  refine .found fun stub held => .check fun _ => ?_
  exact bonjour.yields_close_insert held (by rfl) sdref

theorem yields_serviceResolveReply (offers : Offers) (reply : ServiceResolveReply)
    (bonjour : Bonjour) : Yields (bonjour.serviceResolveReply offers reply) bonjour.Keeps := by
  rw [serviceResolveReply]
  refine .bind bonjour.yields_validated fun first kept => ?_
  split
  next =>
    refine .found fun located _ => ?_
    refine .bind (first.yields_requestAddrInfo offers _ located.2 _) fun second later => ?_
    have finished : Yields (if reply.moreComing then some second
        else second.finishResolve reply.sdref located.2) second.Keeps := by
      split
      next => exact .done (.refl second)
      next => exact second.yields_finishResolve reply.sdref located.2
    refine finished.bind fun third last => (yields_validated third).mono fun _ => ?_
    exact ((kept.trans later).trans last).trans
  next => exact first.yields_validated.mono fun _ => kept.trans

theorem yields_finishAddrInfo (sdRef : Handle) (node interfaceIndex : Nat) (bonjour : Bonjour) :
    Yields (bonjour.finishAddrInfo sdRef node interfaceIndex) bonjour.Keeps := by
  rw [finishAddrInfo]
  refine .found fun stub held => ?_
  split
  next =>
    refine .check fun _ => ?_
    exact bonjour.yields_close_insert held (by rfl) sdRef
  next => exact .done (.refl bonjour)

/-! ## What touches the addresses of one node -/

/-- One node stays with its query and keeps its addresses. -/
structure KeepsNode (bonjour next : Bonjour) (node : Nat) : Prop where
  home : next.nodeToQuery[node]? = bonjour.nodeToQuery[node]?
  addresses : next.addresses node = bonjour.addresses node

theorem Keeps.node (kept : bonjour.Keeps next) (node : Nat) : bonjour.KeepsNode next node :=
  ⟨by rw [kept.nodeToQuery], by rw [kept.addresses]⟩

theorem KeepsNode.then {last : Bonjour} {node : Nat} (first : bonjour.KeepsNode next node)
    (second : next.Keeps last) : bonjour.KeepsNode last node :=
  ⟨(second.node node).home.trans first.home, (second.node node).addresses.trans first.addresses⟩

theorem addresses_insert_self (bonjour : Bonjour) (node : Nat) (stub : BonjourNodeStub) :
    addresses { bonjour with stubs := bonjour.stubs.insert node stub } node =
      some stub.interfacesIPv4 := by
  rw [addresses, ExtTreeMap.getElem?_insert_self, Option.map_some]

theorem addresses_insert_of_ne (bonjour : Bonjour) {node other : Nat} (stub : BonjourNodeStub)
    (different : other ≠ node) :
    addresses { bonjour with stubs := bonjour.stubs.insert node stub } other =
      bonjour.addresses other := by
  rw [addresses, addresses, Table.getElem?_insert_eq, if_neg different]

theorem addresses_erase_of_ne (bonjour : Bonjour) {node other : Nat} (different : other ≠ node) :
    addresses { bonjour with stubs := bonjour.stubs.erase node } other = bonjour.addresses other := by
  rw [addresses, addresses, Table.getElem?_erase_eq, if_neg different]

/-- Ending a query concerns its own nodes only. -/
theorem Good.yields_unbrowse (good : bonjour.Good) (query : Nat) :
    Yields (bonjour.unbrowse query) fun next => forall node : Nat,
      bonjour.nodeToQuery[node]? ≠ some query -> bonjour.KeepsNode next node := by
  rw [Bonjour.unbrowse]
  split
  next => exact bonjour.yields_validated.mono fun _ kept node _ => kept.node node
  next =>
    refine .found fun client _ => .check fun _ => .bind (show Yields _ fun next => forall node : Nat,
      bonjour.nodeToQuery[node]? ≠ some query -> bonjour.KeepsNode next node from .loop ?_ ?_) ?_
    · intro state gone member kept
      refine (yields_forgetRemoteNodesFDs gone state).map fun next after node other => ?_
      have different : node ≠ gone := by
        rintro rfl
        exact other ((good.mem_row query node).mp member)
      have before := (kept node other).then after
      exact ⟨before.home, (addresses_erase_of_ne next different).trans before.addresses⟩
    · intro node other
      refine ⟨?_, rfl⟩
      change (bonjour.nodeToQuery.filter fun _ home => decide (home ≠ query))[node]? = _
      rw [ExtTreeMap.getElem?_filter']
      cases found : bonjour.nodeToQuery[node]? with
      | none => rfl
      | some home =>
          have different : home ≠ query := fun same => other (same ▸ found)
          rw [Option.filter_some, if_pos (decide_eq_true different)]
    · intro next kept
      refine (yields_validated _).mono fun last after node other => ?_
      exact ⟨(after.node node).home.trans (kept node other).home,
        (after.node node).addresses.trans (kept node other).addresses⟩

/-- What an answer to a query does to the nodes that are known. -/
inductive Answered (bonjour : Bonjour) (reply : BrowseReply) (next : Bonjour) :
    List BonjourEffect -> Prop where
  | added (isAdd : reply.isAdd = true)
      (others : forall node, node ∈ bonjour.nodeToQuery -> bonjour.KeepsNode next node) :
      Answered bonjour reply next []
  | vanished {node : Nat} {stub : BonjourNodeStub} (isAdd : reply.isAdd = false)
      (located : cellOf bonjour.queryToNodes reply.queryAddr reply.replyName = some node)
      (held : bonjour.stubs[node]? = some stub)
      (last : (stub.interfaceIndices.erase reply.ifIndex).isEmpty = true)
      (others : forall other, other ≠ node -> bonjour.KeepsNode next other) :
      Answered bonjour reply next [.removed reply.queryAddr node]
  | withdrawn {node : Nat} {stub : BonjourNodeStub} (isAdd : reply.isAdd = false)
      (located : cellOf bonjour.queryToNodes reply.queryAddr reply.replyName = some node)
      (held : bonjour.stubs[node]? = some stub)
      (remains : (stub.interfaceIndices.erase reply.ifIndex).isEmpty = false)
      (home : next.nodeToQuery = bonjour.nodeToQuery)
      (addresses : next.addresses node = some (stub.interfacesIPv4.erase reply.ifIndex))
      (others : forall other, other ≠ node -> bonjour.KeepsNode next other) :
      Answered bonjour reply next []

theorem Answered.then {reply : BrowseReply} {effects : List BonjourEffect} {last : Bonjour}
    (answered : bonjour.Answered reply next effects) (kept : next.Keeps last) :
    bonjour.Answered reply last effects := by
  cases answered with
  | added isAdd others => exact .added isAdd fun node member => (others node member).then kept
  | vanished isAdd located held empty others =>
      exact .vanished isAdd located held empty fun other different => (others other different).then kept
  | withdrawn isAdd located held remains home addresses others =>
      refine .withdrawn isAdd located held remains (kept.nodeToQuery.trans home) ?_ fun other different =>
        (others other different).then kept
      rw [kept.addresses, addresses]

theorem yields_discover (reply : BrowseReply) (address : Nat) (bonjour : Bonjour) :
    Yields (bonjour.discover reply address) fun found => forall node, node ∈ bonjour.nodeToQuery ->
      bonjour.KeepsNode found.2 node := by
  rw [discover]
  split
  next => exact .done fun node _ => ⟨rfl, rfl⟩
  next =>
    refine .check fun fresh => .check fun _ => .done fun node member => ?_
    have different : node ≠ address := by
      rintro rfl
      exact fresh member
    refine ⟨?_, addresses_insert_of_ne bonjour _ different⟩
    change (bonjour.nodeToQuery.insert address reply.queryAddr)[node]? = _
    rw [Table.getElem?_insert_eq, if_neg different]

theorem yields_added (reply : BrowseReply) (address : Nat) (bonjour : Bonjour) :
    Yields (bonjour.added reply address) fun next => forall node, node ∈ bonjour.nodeToQuery ->
      bonjour.KeepsNode next node := by
  refine (bonjour.yields_discover reply address).bind fun found kept => ?_
  refine .found fun stub held => .done fun node member => (kept node member).then ⟨rfl, ?_⟩
  exact addresses_insert found.2 held (by rfl)

theorem yields_dropped (reply : BrowseReply) (isAdd : reply.isAdd = false) (bonjour : Bonjour) :
    Yields (bonjour.dropped reply) fun next => bonjour.Answered reply next.1 next.2 := by
  rw [dropped]
  refine .found fun node located => .found fun stub held => ?_
  have own := bonjour.addresses_insert_self node (stub.dropInterface reply.ifIndex)
  have others (other : Nat) (different : other ≠ node) : bonjour.KeepsNode { bonjour with
      stubs := bonjour.stubs.insert node (stub.dropInterface reply.ifIndex) } other :=
    ⟨rfl, addresses_insert_of_ne bonjour _ different⟩
  split
  next empty =>
    refine (yields_forgetRemoteNodesFDs node _).bind fun next kept => .check fun _ => .done ?_
    refine .vanished isAdd located held empty fun other different => ⟨?_, ?_⟩
    · change (next.nodeToQuery.erase node)[other]? = _
      rw [Table.getElem?_erase_eq, if_neg different]
      exact ((others other different).then kept).home
    · exact (addresses_erase_of_ne next different).trans ((others other different).then kept).addresses
  next remains =>
    exact .done (.withdrawn isAdd located held (Bool.eq_false_iff.mpr remains) rfl own others)

/-- The answer is looked at after an empty row was created. -/
theorem Answered.of_heard {reply : BrowseReply} {effects : List BonjourEffect}
    (answered : (bonjour.heard reply).Answered reply next effects) :
    bonjour.Answered reply next effects := by
  have cell := congrFun (congrFun (cellOf_heard bonjour reply) reply.queryAddr) reply.replyName
  cases answered with
  | added isAdd others => exact .added isAdd fun node member => ⟨(others node member).1, (others node member).2⟩
  | vanished isAdd located held empty others =>
      exact .vanished isAdd (cell.symm.trans located) held empty fun other different =>
        ⟨(others other different).1, (others other different).2⟩
  | withdrawn isAdd located held remains home addresses others =>
      exact .withdrawn isAdd (cell.symm.trans located) held remains home addresses
        fun other different => ⟨(others other different).1, (others other different).2⟩

theorem yields_browseReply (offers : Offers) (address : Nat) (reply : BrowseReply)
    (bonjour : Bonjour) :
    Yields ({ bonjour with daemon := bonjour.daemon.answer reply }.browseReply offers address reply)
      fun next => bonjour.Answered reply next.1 next.2 := by
  have entered : Yields (if reply.isAdd then
        ((bonjour.heard reply).added reply address).map fun bonjour => (bonjour, [])
      else (bonjour.heard reply).dropped reply) fun next => bonjour.Answered reply next.1 next.2 := by
    split
    next isAdd =>
      exact ((bonjour.heard reply).yields_added reply address).map fun _ others =>
        .of_heard (.added isAdd others)
    next removes =>
      exact ((bonjour.heard reply).yields_dropped reply (Bool.eq_false_iff.mpr removes)).mono
        fun _ => .of_heard
  refine .check fun _ => entered.bind fun next answered => ?_
  have resolved : Yields (if reply.moreComing then some next.1
      else next.1.resolveAll offers reply.queryAddr) next.1.Keeps := by
    split
    next => exact .done (.refl next.1)
    next => exact next.1.yields_resolveAll offers reply.queryAddr
  refine (resolved.bind fun second kept => ?_).map fun last kept => answered.then kept
  exact second.yields_validated.mono fun _ => kept.trans

/-! ## Addresses that arrive -/

/-- What an address reply does to the node that it is about. -/
inductive Informed (bonjour : Bonjour) (reply : AddrInfoReply) (query : Nat) (stub : BonjourNodeStub)
    (next : Bonjour) : List BonjourEffect -> Prop where
  | ignored (kept : bonjour.Keeps next)
      (reason : reply.interfaceIndex ∈ stub.interfaceIndices ->
        forall b0 b1 b2 b3, reply.address ≠ some (.inet b0 b1 b2 b3)) :
      Informed bonjour reply query stub next []
  | stored {address : SockAddr} (known : reply.interfaceIndex ∈ stub.interfaceIndices)
      (given : reply.address = some address) (home : next.nodeToQuery = bonjour.nodeToQuery)
      (addresses : next.addresses reply.context =
        some (stub.storeAddress reply.interfaceIndex reply.errorCode address).interfacesIPv4)
      (others : forall other, other ≠ reply.context -> bonjour.KeepsNode next other) :
      Informed bonjour reply query stub next (reported query reply.context
        (stub.storeAddress reply.interfaceIndex reply.errorCode address))

theorem yields_addrInfoReply {reply : AddrInfoReply} {query : Nat} {stub : BonjourNodeStub}
    (held : bonjour.stubs[reply.context]? = some stub)
    (located : bonjour.locate reply.context = some (query, reply.context)) :
    Yields (bonjour.addrInfoReply reply) fun next =>
      bonjour.Informed reply query stub next.1 next.2 := by
  have ignored (reason : reply.interfaceIndex ∈ stub.interfaceIndices ->
        forall b0 b1 b2 b3, reply.address ≠ some (.inet b0 b1 b2 b3)) :
      Yields (bonjour.validated.map fun bonjour => (bonjour, ([] : List BonjourEffect)))
        fun next => bonjour.Informed reply query stub next.1 next.2 :=
    bonjour.yields_validated.map fun _ kept => .ignored kept reason
  rw [addrInfoReply]
  split
  next unknown =>
    obtain ⟨_, found, _⟩ := Option.bind_eq_some_iff.mp located
    rw [getElem?_neg bonjour.nodeToQuery reply.context unknown] at found
    cases found
  next =>
    rw [located, Option.bind_some]
    refine .found fun again found => ?_
    cases held.symm.trans found
    split
    next unknown => exact ignored fun known => absurd known unknown
    next known =>
      split
      next absent => exact ignored fun _ _ _ _ _ given => by rw [given] at absent; cases absent
      next other => exact ignored fun _ _ _ _ _ given => by rw [given] at other; cases other
      next address _ given =>
        refine (yields_finishAddrInfo reply.sdRef reply.context reply.interfaceIndex _).bind
          fun first kept => first.yields_validated.map fun last still => ?_
        have whole := kept.trans still
        refine .stored (not_not.mp known) given whole.nodeToQuery ?_ fun other different => ?_
        · rw [whole.addresses]
          exact bonjour.addresses_insert_self reply.context _
        · have before := bonjour.addresses_insert_of_ne
            (stub.storeAddress reply.interfaceIndex reply.errorCode address) different
          exact ⟨(whole.node other).home, (whole.node other).addresses.trans before⟩

/-! ## The nodes that a query was told about -/

end Bonjour

/-- Keep track of the nodes that were reported as found and not as removed since. -/
def BonjourEffect.note (reported : List (Nat × Nat)) : BonjourEffect -> List (Nat × Nat)
  | .found query node => (query, node) :: reported
  | .removed query node => reported.filter fun pair => decide (pair ≠ (query, node))
  | .aborted => reported

namespace Bonjour

theorem mem_foldl_found {Item : Type} (query node : Nat) (items : List Item)
    (before : List (Nat × Nat)) (pair : Nat × Nat) :
    pair ∈ (items.map fun _ => BonjourEffect.found query node).foldl BonjourEffect.note before <->
      pair ∈ before ∨ (pair = (query, node) ∧ items ≠ []) := by
  induction items generalizing before with
  | nil => simp
  | cons item rest ih =>
      rw [List.map_cons, List.foldl_cons, ih, BonjourEffect.note, List.mem_cons]
      by_cases same : pair = (query, node) <;> simp [same]

/-- A node is reported if it has an address. -/
theorem mem_note_reported (query node : Nat) (stub : BonjourNodeStub) (before : List (Nat × Nat))
    (pair : Nat × Nat) :
    pair ∈ (reported query node stub).foldl BonjourEffect.note before <->
      pair ∈ before ∨ (pair = (query, node) ∧ HasAddress stub.interfacesIPv4) := by
  rw [reported, mem_foldl_found]
  refine or_congr_right (and_congr_right fun _ => ?_)
  simp only [ne_eq, List.filter_eq_nil_iff, decide_eq_true_eq, Prod.forall, not_forall, not_not,
    ExtTreeMap.mem_toList_iff_getElem?_eq_some, exists_prop, HasAddress]

/-- A query that is no longer browsed is told nothing any more, and its stubs are left alone. -/
def note (bonjour : Bonjour) (reported : List (Nat × Nat)) (event : BonjourEvent) :
    List (Nat × Nat) :=
  (bonjour.step event).2.foldl BonjourEffect.note
    (match event with
    | .unbrowse query => reported.filter fun pair => decide (pair.1 ≠ query)
    | _ => reported)

/-- Whoever asks a reported node for its address gets one that is not empty. -/
def Addressed (watched : Bonjour × List (Nat × Nat)) : Prop :=
  forall query node, (query, node) ∈ watched.2 -> Exists fun stub =>
    watched.1.stubs[node]? = some stub ∧ HasAddress stub.interfacesIPv4 ∧
      Exists fun address => stub.getIP = some address ∧ 0 < address.length

/-- Whenever an interface of a reported node is withdrawn but not its last one, and
whenever there is no IPv4 record at an interface of a reported node, the node has an
address at another interface. -/
def KeepsAddress (watched : Bonjour × List (Nat × Nat)) : BonjourEvent -> Prop
  | .browseReply reply _ _ =>
      reply.isAdd = false -> forall node stub,
        (watched.1.queryToNodes.row reply.queryAddr)[reply.replyName]? = some node ->
        watched.1.stubs[node]? = some stub -> (reply.queryAddr, node) ∈ watched.2 ->
        (Exists fun other => other ≠ reply.ifIndex ∧ other ∈ stub.interfaceIndices) ->
        HasAddressBesides reply.ifIndex stub.interfacesIPv4
  | .addrInfoReply reply =>
      reply.errorCode = kDNSServiceErrNoSuchRecord ->
      (Exists fun b0 => Exists fun b1 => Exists fun b2 => Exists fun b3 =>
        reply.address = some (.inet b0 b1 b2 b3)) ->
      forall query stub, watched.1.stubs[reply.context]? = some stub ->
        reply.interfaceIndex ∈ stub.interfaceIndices -> (query, reply.context) ∈ watched.2 ->
        HasAddressBesides reply.interfaceIndex stub.interfacesIPv4
  | _ => True

theorem addressed_iff (bonjour : Bonjour) (reported : List (Nat × Nat)) :
    Addressed (bonjour, reported) <-> forall query node, (query, node) ∈ reported ->
      Exists fun table => bonjour.addresses node = some table ∧ HasAddress table := by
  constructor
  · intro addressed query node member
    obtain ⟨stub, held, has, _⟩ := addressed query node member
    exact ⟨stub.interfacesIPv4, by rw [addresses, held]; rfl, has⟩
  · intro every query node member
    obtain ⟨table, kept, has⟩ := every query node member
    obtain ⟨stub, held, rfl⟩ := Option.map_eq_some_iff.mp kept
    exact ⟨stub, held, has, stub.getIP_iff.mpr has⟩

/-- The invariant that goes with the history: a reported node belongs to the query. -/
structure Watched (watched : Bonjour × List (Nat × Nat)) : Prop where
  good : watched.1.Good
  home : forall query node, (query, node) ∈ watched.2 -> watched.1.nodeToQuery[node]? = some query

/-- What one step does to the nodes that were reported.  Either those that stay reported
keep their addresses, or one node gets another table of addresses. -/
inductive Noted (bonjour : Bonjour) (reported : List (Nat × Nat)) (next : Bonjour)
    (later : List (Nat × Nat)) (condition : Prop) : Prop where
  | carried (kept : forall pair, pair ∈ later -> pair ∈ reported ∧ bonjour.KeepsNode next pair.2)
      (holds : condition)
  | changed {query node : Nat} {table : Table Nat CString}
      (home : next.nodeToQuery[node]? = some query)
      (addresses : next.addresses node = some table)
      (stays : (query, node) ∈ reported -> (query, node) ∈ later)
      (own : (query, node) ∈ later -> (query, node) ∈ reported ∨ HasAddress table)
      (others : forall pair, pair ∈ later -> pair ≠ (query, node) ->
        pair ∈ reported ∧ bonjour.KeepsNode next pair.2)
      (exactly : Addressed (bonjour, reported) ->
        (condition <-> ((query, node) ∈ reported -> HasAddress table)))

namespace Noted

variable {bonjour next : Bonjour} {reported later : List (Nat × Nat)} {condition : Prop}

theorem home (noted : Noted bonjour reported next later condition)
    (before : forall query node, (query, node) ∈ reported -> bonjour.nodeToQuery[node]? = some query)
    (query node : Nat) (member : (query, node) ∈ later) : next.nodeToQuery[node]? = some query := by
  cases noted with
  | carried kept _ =>
      obtain ⟨known, stays⟩ := kept _ member
      exact stays.home.trans (before query node known)
  | @changed owner changed _ home _ _ _ others _ =>
      by_cases same : (query, node) = (owner, changed)
      · cases same
        exact home
      · obtain ⟨known, stays⟩ := others _ member same
        exact stays.home.trans (before query node known)

/-- After the step the reported nodes have addresses exactly under the condition. -/
theorem addressed_iff (noted : Noted bonjour reported next later condition)
    (addressed : Addressed (bonjour, reported)) : Addressed (next, later) <-> condition := by
  have before := addressed
  rw [Bonjour.addressed_iff] at before ⊢
  have carry {query node : Nat} (known : (query, node) ∈ reported) (kept : bonjour.KeepsNode next node) :
      Exists fun table => next.addresses node = some table ∧ HasAddress table := by
    rw [kept.addresses]
    exact before query node known
  cases noted with
  | carried kept holds =>
      exact ⟨fun _ => holds, fun _ query node member => carry (kept _ member).1 (kept _ member).2⟩
  | @changed owner changed table _ addresses stays own others exactly =>
      rw [exactly addressed]
      constructor
      · intro after known
        obtain ⟨_, held, has⟩ := after owner changed (stays known)
        rw [addresses] at held
        cases held
        exact has
      · intro has query node member
        by_cases same : (query, node) = (owner, changed)
        · cases same
          exact ⟨table, addresses, (own member).elim has id⟩
        · exact carry (others _ member same).1 (others _ member same).2

end Noted

theorem step_eq {bonjour : Bonjour} {event : BonjourEvent} {result : Bonjour × List BonjourEffect}
    (ends : bonjour.react event = some result) : bonjour.step event = result := by
  rw [step, ends, Option.getD_some]

private theorem silently {bonjour : Bonjour} {program : Option Bonjour}
    (yielded : Yields program bonjour.Keeps) {result : Bonjour × List BonjourEffect}
    (ends : (program.map fun next => (next, [])) = some result) :
    bonjour.Keeps result.1 ∧ result.2 = [] := by
  obtain ⟨next, reached, rfl⟩ := Option.map_eq_some_iff.mp ends
  exact ⟨yielded next reached, rfl⟩

namespace Watched

variable {bonjour next : Bonjour} {reported : List (Nat × Nat)}

theorem apart (watched : Watched (bonjour, reported)) {query node : Nat}
    (home : bonjour.nodeToQuery[node]? = some query) {pair : Nat × Nat} (member : pair ∈ reported)
    (different : pair ≠ (query, node)) : pair.2 ≠ node := by
  rintro rfl
  have same := Option.some.inj ((watched.home pair.1 pair.2 member).symm.trans home)
  exact different (Prod.ext same rfl)

theorem unconcerned (kept : bonjour.Keeps next) :
    Noted bonjour reported next reported True :=
  .carried (fun pair member => ⟨member, kept.node pair.2⟩) trivial

theorem answered (watched : Watched (bonjour, reported)) {reply : BrowseReply}
    {effects : List BonjourEffect} (answered : bonjour.Answered reply next effects) (address : Nat)
    (offers : Offers) :
    Noted bonjour reported next (effects.foldl BonjourEffect.note reported)
      (KeepsAddress (bonjour, reported) (.browseReply reply address offers)) := by
  cases answered with
  | added isAdd others =>
      refine .carried (fun pair member => ⟨member, others pair.2 ?_⟩) fun removes => ?_
      · rw [ExtTreeMap.mem_iff_isSome_getElem?, watched.home pair.1 pair.2 member]
        rfl
      · rw [isAdd] at removes
        cases removes
  | @vanished node stub isAdd located held empty others =>
      have home := (watched.good.directory.profile_of_cell located).1
      refine .carried (fun pair member => ?_) fun _ node' stub' found kept _ remains => ?_
      · obtain ⟨known, different⟩ := List.mem_filter.mp member
        exact ⟨known, others pair.2 (watched.apart home known (of_decide_eq_true different))⟩
      · cases located.symm.trans found
        cases held.symm.trans kept
        exact absurd remains ((Table.isEmpty_erase_iff _ _).mp empty)
  | @withdrawn node stub isAdd located held remains same addresses others =>
      have home := (watched.good.directory.profile_of_cell located).1
      refine .changed (by rw [same]; exact home) addresses id .inl
        (fun pair member different => ⟨member, others pair.2 (watched.apart home member different)⟩)
        fun _ => ?_
      rw [hasAddress_erase]
      constructor
      · intro condition known
        refine condition isAdd node stub located held known (not_not.mp fun alone => ?_)
        rw [(Table.isEmpty_erase_iff _ _).mpr alone] at remains
        cases remains
      · intro has _ node' stub' found kept known _
        cases located.symm.trans found
        cases held.symm.trans kept
        exact has known

theorem informed (watched : Watched (bonjour, reported)) {reply : AddrInfoReply} {query : Nat}
    {stub : BonjourNodeStub} (held : bonjour.stubs[reply.context]? = some stub)
    (home : bonjour.nodeToQuery[reply.context]? = some query) {effects : List BonjourEffect}
    (informed : bonjour.Informed reply query stub next effects) :
    Noted bonjour reported next (effects.foldl BonjourEffect.note reported)
      (KeepsAddress (bonjour, reported) (.addrInfoReply reply)) := by
  cases informed with
  | ignored kept reason =>
      refine .carried (fun pair member => ⟨member, kept.node pair.2⟩) ?_
      rintro _ ⟨b0, b1, b2, b3, given⟩ _ stub' kept' known _
      cases held.symm.trans kept'
      exact absurd given (reason known b0 b1 b2 b3)
  | @stored address known given same addresses others =>
      have own := mem_note_reported query reply.context
        (stub.storeAddress reply.interfaceIndex reply.errorCode address) reported
      refine .changed (by rw [same]; exact home) addresses (fun member => (own _).mpr (.inl member))
        (fun member => ((own _).mp member).imp_right And.right) (fun pair member different => ?_)
        fun addressed => ?_
      · have before := ((own pair).mp member).resolve_right fun found => different found.1
        exact ⟨before, others pair.2 (watched.apart home before different)⟩
      · have before (member : (query, reply.context) ∈ reported) : HasAddress stub.interfacesIPv4 := by
          obtain ⟨_, kept, has, _⟩ := addressed query reply.context member
          cases held.symm.trans kept
          exact has
        constructor
        · intro condition member
          rw [stub.hasAddress_storeAddress (before member)]
          rintro noRecord ⟨b0, b1, b2, b3, rfl⟩
          exact condition noRecord ⟨b0, b1, b2, b3, given⟩ query stub held known member
        · rintro has noRecord ⟨b0, b1, b2, b3, inet⟩ query' stub' kept _ member
          cases held.symm.trans kept
          cases (watched.home query' reply.context member).symm.trans home
          cases given.symm.trans inet
          exact (stub.hasAddress_storeAddress (before member) _ _ _).mp (has member) noRecord
            ⟨b0, b1, b2, b3, rfl⟩

theorem noted (watched : Watched (bonjour, reported)) {event : BonjourEvent}
    (allowed : bonjour.Allowed event) :
    Noted bonjour reported (bonjour.step event).1 (bonjour.note reported event)
      (KeepsAddress (bonjour, reported) event) := by
  obtain ⟨⟨next, effects⟩, ends, _⟩ := watched.good.react allowed
  unfold Bonjour.note
  rw [step_eq ends]
  have quiet (kept : bonjour.Keeps next ∧ effects = []) :
      Noted bonjour reported next (effects.foldl BonjourEffect.note reported) True := by
    rw [kept.2]
    exact unconcerned kept.1
  cases event with
  | add node uuid offers => exact quiet (silently (bonjour.yields_add offers node uuid) ends)
  | remove node => exact quiet (silently (bonjour.yields_remove node) ends)
  | suspend => exact quiet (silently bonjour.yields_suspend ends)
  | resume offers => exact quiet (silently (bonjour.yields_resume offers) ends)
  | browse query offers => exact quiet (silently (bonjour.yields_browse offers query) ends)
  | unbrowse query =>
      obtain ⟨last, reached, same⟩ := Option.map_eq_some_iff.mp ends
      cases same
      have kept := watched.good.yields_unbrowse query next reached
      refine .carried (fun pair member => ?_) trivial
      obtain ⟨known, other⟩ := List.mem_filter.mp member
      refine ⟨known, kept pair.2 fun home => of_decide_eq_true other ?_⟩
      exact Option.some.inj ((watched.home pair.1 pair.2 known).symm.trans home)
  | browseReply reply address offers =>
      exact watched.answered (bonjour.yields_browseReply offers address reply _ ends) address offers
  | serviceResolveReply reply offers =>
      exact quiet (silently (bonjour.yields_serviceResolveReply offers reply) ends)
  | addrInfoReply reply =>
      obtain ⟨stub, held, _⟩ := Option.bind_eq_some_iff.mp (watched.good.slot_of_live allowed)
      obtain ⟨query, located, found⟩ := watched.good.locate held
      have home := (watched.good.directory.profile_of_cell found).1
      exact watched.informed held home (yields_addrInfoReply held located _ ends)

theorem step (watched : Watched (bonjour, reported)) {event : BonjourEvent}
    (allowed : bonjour.Allowed event) :
    Watched ((bonjour.step event).1, bonjour.note reported event) where
  good := (watched.good.step allowed).1
  home := (watched.noted allowed).home watched.home

end Watched

/-- In every run in which the daemon keeps to its promises, all reported nodes have an
address in every state exactly if the nodes keep an address at every step. -/
theorem addressed_iff_of_run (events : List BonjourEvent)
    (admitted : Admits (observe step note) (fun watched => watched.1.Allowed) (start, []) events) :
    Always (observe step note) Addressed (start, []) events <->
      Admits (observe step note) KeepsAddress (start, []) events := by
  refine always_iff_admits Watched Addressed KeepsAddress ?_ ?_ ?_ ?_ admitted
  · exact fun _ _ watched allowed => watched.step allowed
  · exact fun _ _ watched allowed addressed => (watched.noted allowed).addressed_iff addressed
  · exact ⟨.start, fun _ _ member => absurd member List.not_mem_nil⟩
  · exact fun _ _ member => absurd member List.not_mem_nil

/-! A node is announced at two interfaces, and resolved at the first one only. -/

private def resolved : List BonjourEvent :=
  [.browse 1 offered, .browseReply (seen 3 1) 5 offered, .browseReply (seen 2 2) 6 offered,
    .serviceResolveReply ⟨⟨35, 35⟩, 0, 1, 0, 5⟩ offered,
    .addrInfoReply ⟨⟨45, 91⟩, 0, 1, 0, some (.inet 10 0 0 1), 5⟩]

theorem addressed_iff_of_run_resolved :
    Always (observe step note) Addressed (start, []) resolved ∧
      (run (observe step note) (start, []) resolved).1.2 = [(1, 5)] := by
  have told : Admits (observe step note) (fun watched => watched.1.Allowed) (start, []) resolved ∧
      (run (observe step note) (start, []) resolved).1.2 = [(1, 5)] := by
    decide +kernel
  refine ⟨(addressed_iff_of_run resolved told.1).mpr ?_, told.2⟩
  refine ⟨trivial, fun removes => ?_, fun removes => ?_, trivial, fun noRecord => ?_, trivial⟩
  · exact absurd removes (by decide)
  · exact absurd removes (by decide)
  · exact absurd noRecord (by decide)

/-- The first interface is withdrawn.  The node is still there at the second one, but there
is no address to ask for. -/
theorem address_lost :
    let events := resolved ++ [.browseReply (seen 0 1) 6 offered]
    let final := (run (observe step note) (start, []) events).1
    Admits (observe step note) (fun watched => watched.1.Allowed) (start, []) events ∧
      (1, 5) ∈ final.2 ∧ final.1.stubs[5]?.map BonjourNodeStub.getIP = some none := by
  decide +kernel

end Bonjour

end Discovery
end Umundo
