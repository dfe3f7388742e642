import Umundo.Foundation.CString
import Umundo.Foundation.Checked
import Umundo.Foundation.Handles
import Umundo.Foundation.Machine

namespace Umundo
namespace Discovery

open Foundation
open Std

/-!
# Discovery of nodes with Bonjour

`BonjourNodeDiscovery` registers local nodes at the Bonjour daemon and browses for
remote ones.  Everything it asks of the daemon is answered through a handle: a
registration, a query, the resolution of a node it was told about, and the request
for the addresses of such a node at an interface.  The handles are stored where
they belong, those of remote nodes inside the `BonjourNodeStub` of the node, and
`_activeFDs` has the sockets of all of them for `select`.

A program state holds the members of the discovery, the node stubs in memory, and
what has to be known of the daemon.  Nodes, queries and stubs are named by their
addresses.  A call is an `Option`: it is `none` if an assertion about handles,
descriptors or the tables fails, or if a null pointer is followed.  Assertions
about other things, such as the domain in a full name, are not part of the model.
-/

/-! ## The daemon -/

/-- What a handle was requested for.  The address is the context of its callbacks. -/
inductive Request where
  | register (node : Nat)
  | browse (query : Nat)
  | resolve (node : Nat) (domain : CString)
  | addrInfo (node : Nat) (interfaceIndex : Nat)
deriving DecidableEq

/-- What a query has been answered so far: its domain, and the names with
interfaces that were added and not removed since. -/
structure Answers where
  domain : CString
  present : List (CString × Nat)

structure Daemon where
  live : Table Int (Nat × Request)
  answers : Table Nat Answers

/-- The handles that are offered for requests, if they succeed. -/
abbrev Offers := Request -> Option Handle

namespace Daemon

/-- The outcome of `DNSServiceRegister` and the like.  The daemon may refuse, and it
never gives two live handles the same socket. -/
def accept (daemon : Daemon) (offer : Option Handle) : Option Handle :=
  offer.filter fun client => decide (client.socket ∉ daemon.live)

def opened (daemon : Daemon) (client : Handle) (request : Request) : Daemon :=
  { daemon with live := daemon.live.insert client.socket (client.pointer, request) }

/-- `DNSServiceRefDeallocate`. -/
def deallocate (daemon : Daemon) (client : Handle) : Daemon :=
  { daemon with live := daemon.live.erase client.socket }

/-- The answers to a query are forgotten with its handle. -/
def forgetAnswers (daemon : Daemon) (query : Nat) : Daemon :=
  { daemon with answers := daemon.answers.erase query }

end Daemon

def kDNSServiceFlagsMoreComing : UInt32 := 0x1

def kDNSServiceFlagsAdd : UInt32 := 0x2

def kDNSServiceErrNoError : Int := 0

def kDNSServiceErrNoSuchRecord : Int := -65554

structure BrowseReply where
  sdref : Handle
  flags : UInt32
  ifIndex : Nat
  errorCode : Int
  replyName : CString
  replyDomain : CString
  queryAddr : Nat

structure ServiceResolveReply where
  sdref : Handle
  flags : UInt32
  interfaceIndex : Nat
  errorCode : Int
  context : Nat

/-- A socket address of one of the families that are told apart. -/
inductive SockAddr where
  | inet (b0 b1 b2 b3 : UInt8)
  | inet6 (b : Fin 16 -> UInt8)
  | other

structure AddrInfoReply where
  sdRef : Handle
  flags : UInt32
  interfaceIndex : Nat
  errorCode : Int
  address : Option SockAddr
  context : Nat

def BrowseReply.isAdd (reply : BrowseReply) : Bool := reply.flags &&& kDNSServiceFlagsAdd != 0

def BrowseReply.moreComing (reply : BrowseReply) : Bool :=
  reply.flags &&& kDNSServiceFlagsMoreComing != 0

def ServiceResolveReply.moreComing (reply : ServiceResolveReply) : Bool :=
  reply.flags &&& kDNSServiceFlagsMoreComing != 0

def Daemon.present (daemon : Daemon) (query : Nat) : List (CString × Nat) :=
  (daemon.answers[query]?.map Answers.present).getD []

/-- The daemon adds a name at an interface to its answers, or removes it. -/
def Daemon.answered (daemon : Daemon) (reply : BrowseReply) : Answers where
  domain := reply.replyDomain
  present :=
    if reply.isAdd then (reply.replyName, reply.ifIndex) :: daemon.present reply.queryAddr
    else (daemon.present reply.queryAddr).filter fun other =>
      decide (other ≠ (reply.replyName, reply.ifIndex))

def Daemon.answer (daemon : Daemon) (reply : BrowseReply) : Daemon :=
  { daemon with answers := daemon.answers.insert reply.queryAddr (daemon.answered reply) }

/-! ## Node stubs -/

structure BonjourNodeStub where
  uuid : CString
  domain : CString
  isInProcess : Bool
  domains : Keys CString
  interfaceIndices : Keys Nat
  interfacesIPv4 : Table Nat CString
  interfacesIPv6 : Table Nat CString
  serviceResolveClients : Table CString Handle
  addrInfoClients : Table Nat Handle

namespace BonjourNodeStub

def new (uuid domain : CString) (isInProcess : Bool) : BonjourNodeStub where
  uuid := uuid
  domain := domain
  isInProcess := isInProcess
  domains := ∅
  interfaceIndices := ∅
  interfacesIPv4 := ∅
  interfacesIPv6 := ∅
  serviceResolveClients := ∅
  addrInfoClients := ∅

def addInterface (stub : BonjourNodeStub) (domain : CString) (ifIndex : Nat) : BonjourNodeStub :=
  { stub with
    domains := stub.domains.insert domain
    interfaceIndices := stub.interfaceIndices.insert ifIndex }

def dropInterface (stub : BonjourNodeStub) (ifIndex : Nat) : BonjourNodeStub :=
  { stub with
    interfaceIndices := stub.interfaceIndices.erase ifIndex
    interfacesIPv4 := stub.interfacesIPv4.erase ifIndex
    interfacesIPv6 := stub.interfacesIPv6.erase ifIndex }

/-- All handles inside a stub. -/
def clients (stub : BonjourNodeStub) : List Handle :=
  stub.serviceResolveClients.toList.map Prod.snd ++ stub.addrInfoClients.toList.map Prod.snd

end BonjourNodeStub

/-- The format `%d.%d.%d.%d`. -/
def dotted (b0 b1 b2 b3 : UInt8) : CString :=
  let dot : CString := .ofBytes ".".toUTF8.toList
  CString.decimal b0.toNat ++ dot ++ CString.decimal b1.toNat ++ dot ++
    CString.decimal b2.toNat ++ dot ++ CString.decimal b3.toNat

/-- Eight groups of `%02X%02X`, with colons in between. -/
def hexGroups (b : Fin 16 -> UInt8) : CString :=
  .ofBytes ((List.finRange 16).flatMap fun i =>
    (if i.val % 2 = 0 ∧ i.val ≠ 0 then [58] else []) ++ [hexDigit (b i / 16), hexDigit (b i % 16)])

/-- The address part of `addrInfoReply`: what is stored for an interface. -/
def BonjourNodeStub.storeAddress (stub : BonjourNodeStub) (interfaceIndex : Nat) (errorCode : Int) :
    SockAddr -> BonjourNodeStub
  | .inet b0 b1 b2 b3 =>
      if errorCode = kDNSServiceErrNoError then
        { stub with
          interfacesIPv4 := stub.interfacesIPv4.insert interfaceIndex (dotted b0 b1 b2 b3) }
      else if errorCode = kDNSServiceErrNoSuchRecord then
        { stub with interfacesIPv4 := stub.interfacesIPv4.insert interfaceIndex .empty }
      else stub
  | .inet6 b =>
      if errorCode = kDNSServiceErrNoError then
        { stub with interfacesIPv6 := stub.interfacesIPv6.insert interfaceIndex (hexGroups b) }
      else if errorCode = kDNSServiceErrNoSuchRecord then
        { stub with interfacesIPv6 := stub.interfacesIPv6.insert interfaceIndex .empty }
      else stub
  | .other => stub

/-! ## The program state -/

structure BonjourNodeDiscovery where
  activeFDs : Table Int Handle
  /-- The local nodes, with their uuids. -/
  localNodes : Table Nat CString
  suspendedNodes : Table Nat CString
  isSuspended : Bool
  registerClients : Table Nat Handle
  queries : Keys Nat
  queryClients : Table Nat Handle
  nodeToQuery : Table Nat Nat
  queryToNodes : Table Nat (Table CString Nat)

structure Bonjour extends BonjourNodeDiscovery where
  stubs : Table Nat BonjourNodeStub
  daemon : Daemon

/-- What a step tells a `NodeQuery`, or that the program was aborted. -/
inductive BonjourEffect where
  | found (query node : Nat)
  | removed (query node : Nat)
  | aborted
deriving DecidableEq

namespace Bonjour

def start : Bonjour where
  activeFDs := ∅
  localNodes := ∅
  suspendedNodes := ∅
  isSuspended := false
  registerClients := ∅
  queries := ∅
  queryClients := ∅
  nodeToQuery := ∅
  queryToNodes := ∅
  stubs := ∅
  daemon := ⟨∅, ∅⟩

/-- The stubs of all nodes that were found, query by query. -/
def nodes (bonjour : Bonjour) : List Nat :=
  bonjour.queryToNodes.toList.flatMap fun entry => entry.2.toList.map Prod.snd

/-- The handles in all four registries, those of queries in a given order. -/
def clientsOf (bonjour : Bonjour) (queries : List Nat) : List Handle :=
  bonjour.registerClients.toList.map Prod.snd ++
    queries.filterMap (fun query => bonjour.queryClients[query]?) ++
    bonjour.nodes.flatMap fun node => bonjour.stubs[node]?.toList.flatMap BonjourNodeStub.clients

/-- All assertions of `validateState`.  The sockets are crossed out in the order in which
the source visits the handles. -/
def validateState (bonjour : Bonjour) : Bool :=
  bonjour.activeFDs.toList.all (fun entry => entry.1 == entry.2.socket) &&
  bonjour.localNodes.keys.all (fun node => decide (node ∈ bonjour.registerClients)) &&
  bonjour.registerClients.size == bonjour.localNodes.size &&
  bonjour.registerClients.keys.all (fun node => decide (node ∈ bonjour.localNodes)) &&
  bonjour.queries.toList.all (fun query => decide (query ∈ bonjour.queryClients)) &&
  bonjour.queryClients.size == bonjour.queries.size &&
  bonjour.queryToNodes.keys.all (fun query => decide (query ∈ bonjour.queries)) &&
  ((crossOut (.ofList bonjour.activeFDs.keys) ((bonjour.clientsOf bonjour.queries.toList).map
    Handle.socket)).map ExtTreeSet.isEmpty).getD false

def validated (bonjour : Bonjour) : Option Bonjour :=
  check (bonjour.validateState = true) (some bonjour)

/-! ## Local nodes -/

def add (offers : Offers) (node : Nat) (uuid : CString) (bonjour : Bonjour) : Option Bonjour :=
  if node ∈ bonjour.localNodes then
    check (node ∈ bonjour.registerClients) bonjour.validated
  else
    check (node ∉ bonjour.registerClients) <|
      match bonjour.daemon.accept (offers (.register node)) with
      | none => bonjour.validated
      | some registerClient =>
          check (registerClient.socket ∉ bonjour.activeFDs) <|
          check (node ∉ bonjour.registerClients) <|
          check (node ∉ bonjour.localNodes) <|
          validated { bonjour with
            daemon := bonjour.daemon.opened registerClient (.register node)
            activeFDs := bonjour.activeFDs.insert registerClient.socket registerClient
            registerClients := bonjour.registerClients.insert node registerClient
            localNodes := bonjour.localNodes.insert node uuid }

def remove (node : Nat) (bonjour : Bonjour) : Option Bonjour :=
  if node ∉ bonjour.localNodes then bonjour.validated
  else
    bonjour.registerClients[node]?.bind fun registerClient =>
    check (bonjour.activeFDs[registerClient.socket]? = some registerClient) <|
    validated { bonjour with
      daemon := bonjour.daemon.deallocate registerClient
      activeFDs := bonjour.activeFDs.erase registerClient.socket
      registerClients := bonjour.registerClients.erase node
      localNodes := bonjour.localNodes.erase node }

def suspend (bonjour : Bonjour) : Option Bonjour :=
  if bonjour.isSuspended then some bonjour
  else
    bonjour.localNodes.keys.foldlM (fun bonjour node => remove node bonjour)
      { bonjour with isSuspended := true, suspendedNodes := bonjour.localNodes }

def resume (offers : Offers) (bonjour : Bonjour) : Option Bonjour :=
  if bonjour.isSuspended then
    (bonjour.suspendedNodes.toList.foldlM (fun bonjour entry => add offers entry.1 entry.2 bonjour)
        { bonjour with isSuspended := false }).map fun bonjour =>
      { bonjour with suspendedNodes := ∅ }
  else some bonjour

/-! ## Queries -/

def browse (offers : Offers) (query : Nat) (bonjour : Bonjour) : Option Bonjour :=
  if query ∈ bonjour.queries then bonjour.validated
  else
    check (query ∉ bonjour.queryClients) <|
      match bonjour.daemon.accept (offers (.browse query)) with
      | none => bonjour.validated
      | some queryClient =>
          check (queryClient.socket ∉ bonjour.activeFDs) <|
          check (query ∉ bonjour.queryClients) <|
          check (query ∉ bonjour.queries) <|
          validated { bonjour with
            daemon := bonjour.daemon.opened queryClient (.browse query)
            activeFDs := bonjour.activeFDs.insert queryClient.socket queryClient
            queryClients := bonjour.queryClients.insert query queryClient
            queries := bonjour.queries.insert query }

/-- Stop listening to a handle and give it back. -/
def close (bonjour : Bonjour) (client : Handle) : Option Bonjour :=
  check (client.socket ∈ bonjour.activeFDs) <|
  some { bonjour with
    activeFDs := bonjour.activeFDs.erase client.socket
    daemon := bonjour.daemon.deallocate client }

/-- Every handle of the node is closed, and both of its tables are empty in the end. -/
def forgetRemoteNodesFDs (node : Nat) (bonjour : Bonjour) : Option Bonjour :=
  bonjour.stubs[node]?.bind fun stub =>
  (stub.clients.foldlM close bonjour).map fun bonjour =>
    { bonjour with
      stubs := bonjour.stubs.insert node
        { stub with serviceResolveClients := ∅, addrInfoClients := ∅ } }

/-- One round of the loop in `unbrowse`.  The stub is gone once no table refers to it. -/
def forgetNode (bonjour : Bonjour) (node : Nat) : Option Bonjour :=
  (bonjour.forgetRemoteNodesFDs node).map fun bonjour =>
    { bonjour with stubs := bonjour.stubs.erase node }

def unbrowse (query : Nat) (bonjour : Bonjour) : Option Bonjour :=
  if query ∉ bonjour.queries then bonjour.validated
  else
    bonjour.queryClients[query]?.bind fun queryClient =>
    check (bonjour.activeFDs[queryClient.socket]? = some queryClient) <|
    (((bonjour.queryToNodes.row query).toList.map Prod.snd).foldlM forgetNode { bonjour with
      activeFDs := bonjour.activeFDs.erase queryClient.socket
      nodeToQuery := bonjour.nodeToQuery.filter fun _ other => decide (other ≠ query) }).bind
      fun bonjour =>
        validated { bonjour with
          queryToNodes := bonjour.queryToNodes.erase query
          queries := bonjour.queries.erase query
          daemon := (bonjour.daemon.deallocate queryClient).forgetAnswers query
          queryClients := bonjour.queryClients.erase query }

/-! ## Callbacks -/

/-- The node that a reply is about, made if it is not known yet. -/
def discover (reply : BrowseReply) (address : Nat) (bonjour : Bonjour) : Option (Nat × Bonjour) :=
  match (bonjour.queryToNodes.row reply.queryAddr)[reply.replyName]? with
  | some node => some (node, bonjour)
  | none =>
      check (address ∉ bonjour.nodeToQuery) <|
      check (reply.replyName ∉ bonjour.queryToNodes.row reply.queryAddr) <|
      some (address, { bonjour with
        nodeToQuery := bonjour.nodeToQuery.insert address reply.queryAddr
        queryToNodes := bonjour.queryToNodes.store reply.queryAddr reply.replyName address
        stubs := bonjour.stubs.insert address (.new reply.replyName reply.replyDomain
          (bonjour.localNodes.toList.any fun entry => entry.2 == reply.replyName)) })

def added (reply : BrowseReply) (address : Nat) (bonjour : Bonjour) : Option Bonjour :=
  (bonjour.discover reply address).bind fun (node, bonjour) =>
  bonjour.stubs[node]?.bind fun stub =>
  some { bonjour with
    stubs := bonjour.stubs.insert node (stub.addInterface reply.replyDomain reply.ifIndex) }

/-- The node vanishes with its last interface. -/
def dropped (reply : BrowseReply) (bonjour : Bonjour) : Option (Bonjour × List BonjourEffect) :=
  (bonjour.queryToNodes.row reply.queryAddr)[reply.replyName]?.bind fun node =>
  bonjour.stubs[node]?.bind fun stub =>
  let kept := { bonjour with stubs := bonjour.stubs.insert node (stub.dropInterface reply.ifIndex) }
  if (stub.dropInterface reply.ifIndex).interfaceIndices.isEmpty then
    (kept.forgetRemoteNodesFDs node).bind fun bonjour =>
    check (node ∈ bonjour.nodeToQuery) <|
    some ({ bonjour with
      nodeToQuery := bonjour.nodeToQuery.erase node
      queryToNodes := bonjour.queryToNodes.insert reply.queryAddr
        ((bonjour.queryToNodes.row reply.queryAddr).erase stub.uuid)
      stubs := bonjour.stubs.erase node }, [.removed reply.queryAddr node])
  else some (kept, [])

/-- Start to resolve a node in one of its domains. -/
def resolve (offers : Offers) (node : Nat) (bonjour : Bonjour) (domain : CString) : Option Bonjour :=
  bonjour.stubs[node]?.bind fun stub =>
  if domain ∈ stub.serviceResolveClients then some bonjour
  else
    match bonjour.daemon.accept (offers (.resolve node domain)) with
    | none => some bonjour
    | some serviceResolveClient =>
        check (serviceResolveClient.socket ∉ bonjour.activeFDs) <|
        check (domain ∉ stub.serviceResolveClients) <|
        some { bonjour with
          daemon := bonjour.daemon.opened serviceResolveClient (.resolve node domain)
          activeFDs := bonjour.activeFDs.insert serviceResolveClient.socket serviceResolveClient
          stubs := bonjour.stubs.insert node { stub with
            serviceResolveClients := stub.serviceResolveClients.insert domain serviceResolveClient } }

def resolveNode (offers : Offers) (bonjour : Bonjour) (node : Nat) : Option Bonjour :=
  bonjour.stubs[node]?.bind fun stub =>
  stub.domains.toList.foldlM (fun bonjour domain => bonjour.resolve offers node domain) bonjour

/-- Make sure that there is a resolve client for every node and domain. -/
def resolveAll (offers : Offers) (query : Nat) (bonjour : Bonjour) : Option Bonjour :=
  ((bonjour.queryToNodes.row query).toList.map Prod.snd).foldlM (resolveNode offers) bonjour

/-- `address` is where a new stub is put if one is needed. -/
def browseReply (offers : Offers) (address : Nat) (reply : BrowseReply) (bonjour : Bonjour) :
    Option (Bonjour × List BonjourEffect) :=
  check (reply.queryAddr ∈ bonjour.queries) <|
  -- The subscript creates an empty row.
  let entered := { bonjour with
    queryToNodes := bonjour.queryToNodes.insertIfNew reply.queryAddr ∅ }
  (if reply.isAdd then (entered.added reply address).map fun bonjour => (bonjour, [])
    else entered.dropped reply).bind fun (bonjour, effects) =>
  ((if reply.moreComing then some bonjour
    else bonjour.resolveAll offers reply.queryAddr).bind validated).map fun bonjour =>
      (bonjour, effects)

/-- Close the address request that an interface already has. -/
def replaceAddrInfo (node interfaceIndex : Nat) (bonjour : Bonjour) : Option Bonjour :=
  bonjour.stubs[node]?.bind fun stub =>
  match stub.addrInfoClients[interfaceIndex]? with
  | none => some bonjour
  | some client =>
      (bonjour.close client).map fun bonjour => { bonjour with
        stubs := bonjour.stubs.insert node { stub with
          addrInfoClients := stub.addrInfoClients.erase interfaceIndex } }

/-- The new handle is there before the old one is given back. -/
def requestAddrInfo (offers : Offers) (context node interfaceIndex : Nat) (bonjour : Bonjour) :
    Option Bonjour :=
  match bonjour.daemon.accept (offers (.addrInfo context interfaceIndex)) with
  | none => some bonjour
  | some addrInfoClient =>
      (replaceAddrInfo node interfaceIndex { bonjour with
        daemon := bonjour.daemon.opened addrInfoClient (.addrInfo context interfaceIndex) }).bind
        fun bonjour =>
          bonjour.stubs[node]?.bind fun stub =>
          check (interfaceIndex ∉ stub.addrInfoClients) <|
          check (addrInfoClient.socket ∉ bonjour.activeFDs) <|
          some { bonjour with
            activeFDs := bonjour.activeFDs.insert addrInfoClient.socket addrInfoClient
            stubs := bonjour.stubs.insert node { stub with
              addrInfoClients := stub.addrInfoClients.insert interfaceIndex addrInfoClient } }

/-- The service resolver of the node's domain has done its work. -/
def finishResolve (sdref : Handle) (node : Nat) (bonjour : Bonjour) : Option Bonjour :=
  bonjour.stubs[node]?.bind fun stub =>
  check (stub.serviceResolveClients[stub.domain]? = some sdref) <|
  (bonjour.close sdref).map fun bonjour => { bonjour with
    stubs := bonjour.stubs.insert node { stub with
      serviceResolveClients := stub.serviceResolveClients.erase stub.domain } }

/-- The stub that a context refers to, found through the tables. -/
def locate (bonjour : Bonjour) (context : Nat) : Option (Nat × Nat) :=
  bonjour.nodeToQuery[context]?.bind fun query =>
  bonjour.stubs[context]?.bind fun stub =>
  (bonjour.queryToNodes.row query)[stub.uuid]?.map fun node => (query, node)

def serviceResolveReply (offers : Offers) (reply : ServiceResolveReply) (bonjour : Bonjour) :
    Option Bonjour :=
  bonjour.validated.bind fun bonjour =>
  if reply.errorCode = kDNSServiceErrNoError then
    (bonjour.locate reply.context).bind fun (_, node) =>
    (bonjour.requestAddrInfo offers reply.context node reply.interfaceIndex).bind fun bonjour =>
    (if reply.moreComing then some bonjour else bonjour.finishResolve reply.sdref node).bind validated
  else bonjour.validated

/-- The address request of an interface has done its work. -/
def finishAddrInfo (sdRef : Handle) (node interfaceIndex : Nat) (bonjour : Bonjour) : Option Bonjour :=
  bonjour.stubs[node]?.bind fun stub =>
  if interfaceIndex ∈ stub.interfacesIPv6 ∧ interfaceIndex ∈ stub.interfacesIPv4 then
    check (stub.addrInfoClients[interfaceIndex]? = some sdRef) <|
    (bonjour.close sdRef).map fun bonjour => { bonjour with
      stubs := bonjour.stubs.insert node { stub with
        addrInfoClients := stub.addrInfoClients.erase interfaceIndex } }
  else some bonjour

/-- The node is reported once for every interface with an address. -/
def reported (query node : Nat) (stub : BonjourNodeStub) : List BonjourEffect :=
  (stub.interfacesIPv4.toList.filter fun entry => decide (0 < entry.2.length)).map fun _ =>
    .found query node

def addrInfoReply (reply : AddrInfoReply) (bonjour : Bonjour) :
    Option (Bonjour × List BonjourEffect) :=
  if reply.context ∉ bonjour.nodeToQuery then some (bonjour, [])
  else
    (bonjour.locate reply.context).bind fun (query, node) =>
    bonjour.stubs[node]?.bind fun stub =>
    let ignored := bonjour.validated.map fun bonjour => (bonjour, [])
    if reply.interfaceIndex ∉ stub.interfaceIndices then ignored
    else
      match reply.address with
      | none => ignored
      | some .other => ignored
      | some address =>
          let stub := stub.storeAddress reply.interfaceIndex reply.errorCode address
          (finishAddrInfo reply.sdRef node reply.interfaceIndex
            { bonjour with stubs := bonjour.stubs.insert node stub }).bind fun bonjour =>
          bonjour.validated.map fun bonjour => (bonjour, reported query node stub)

end Bonjour

/-! ## Runs -/

/-- A call of the application or of the daemon, with what the daemon answers to the
requests that are made during the call. -/
inductive BonjourEvent where
  | add (node : Nat) (uuid : CString) (offers : Offers)
  | remove (node : Nat)
  | suspend
  | resume (offers : Offers)
  | browse (query : Nat) (offers : Offers)
  | unbrowse (query : Nat)
  | browseReply (reply : BrowseReply) (address : Nat) (offers : Offers)
  | serviceResolveReply (reply : ServiceResolveReply) (offers : Offers)
  | addrInfoReply (reply : AddrInfoReply)

namespace Bonjour

/-- A call, or nothing if it is aborted. -/
def react (bonjour : Bonjour) : BonjourEvent -> Option (Bonjour × List BonjourEffect)
  | .add node uuid offers => (bonjour.add offers node uuid).map fun next => (next, [])
  | .remove node => (bonjour.remove node).map fun next => (next, [])
  | .suspend => bonjour.suspend.map fun next => (next, [])
  | .resume offers => (bonjour.resume offers).map fun next => (next, [])
  | .browse query offers => (bonjour.browse offers query).map fun next => (next, [])
  | .unbrowse query => (bonjour.unbrowse query).map fun next => (next, [])
  | .browseReply reply address offers =>
      { bonjour with daemon := bonjour.daemon.answer reply }.browseReply offers address reply
  | .serviceResolveReply reply offers =>
      (bonjour.serviceResolveReply offers reply).map fun next => (next, [])
  | .addrInfoReply reply => bonjour.addrInfoReply reply

def step (bonjour : Bonjour) (event : BonjourEvent) : Bonjour × List BonjourEffect :=
  (bonjour.react event).getD (bonjour, [.aborted])

/-- The daemon calls back for live handles only, with the context of the request.  It
answers a query in one domain, removes what it has added, and answers for the interface
it was asked about.  A new stub is put where there is none. -/
def Allowed (bonjour : Bonjour) : BonjourEvent -> Prop
  | .browseReply reply address _ =>
      bonjour.daemon.live[reply.sdref.socket]? =
          some (reply.sdref.pointer, .browse reply.queryAddr) ∧
        (forall answers, answers ∈ bonjour.daemon.answers[reply.queryAddr]? ->
          answers.domain = reply.replyDomain) ∧
        (reply.isAdd = false ->
          (reply.replyName, reply.ifIndex) ∈ bonjour.daemon.present reply.queryAddr) ∧
        address ∉ bonjour.stubs
  | .serviceResolveReply reply _ =>
      match bonjour.daemon.live[reply.sdref.socket]? with
      | some (pointer, .resolve node _) => pointer = reply.sdref.pointer ∧ node = reply.context
      | _ => False
  | .addrInfoReply reply =>
      bonjour.daemon.live[reply.sdRef.socket]? =
        some (reply.sdRef.pointer, .addrInfo reply.context reply.interfaceIndex)
  | _ => True

instance (bonjour : Bonjour) (event : BonjourEvent) : Decidable (bonjour.Allowed event) := by
  unfold Allowed
  split <;> first | infer_instance | (split <;> infer_instance)

end Bonjour

end Discovery
end Umundo
