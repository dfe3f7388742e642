import Umundo.Foundation.CString
import Umundo.Foundation.Checked
import Umundo.Foundation.Machine
import Umundo.Foundation.Table

namespace Umundo
namespace Discovery

open Foundation
open Std

/-!
# Discovery of nodes with Avahi

`AvahiNodeDiscovery` registers local nodes at the Avahi daemon and browses for remote
ones.  There is one table of clients for both, and an entry group for every node whose
client was seen running.  The groups are made in callbacks, some of which arrive while
`avahi_client_new` is still being executed on behalf of `add`.

Nodes and queries are named by their addresses.  A call is an `Option`: it is `none` if
an assertion fails.  What the daemon returns, and which callbacks it makes during a
call, is part of the call.  The content of entry groups and all logging are left out.
-/

/-! ## What the daemon says -/

inductive AvahiClientState where
  | registering
  | running
  | collision
  | failure
  | connecting
deriving DecidableEq

inductive AvahiEntryGroupState where
  | uncommitted
  | registering
  | established
  | collision
  | failure
deriving DecidableEq

inductive AvahiProtocol where
  | inet
  | inet6
  | unspec
deriving DecidableEq

inductive AvahiBrowserEvent where
  | new
  | remove
  | cacheExhausted
  | allForNow
  | failure
deriving DecidableEq

/-- The outcome of a resolver, with the address as text. -/
inductive AvahiResolverEvent where
  | found (address : CString)
  | failure
deriving DecidableEq

/-- A callback about a local node.  A client that is running may be given a new group. -/
inductive NodeCallback where
  | client (state : AvahiClientState) (made : Option Nat)
  | entryGroup (group : Nat) (state : AvahiEntryGroupState)

/-- What `avahi_client_new` does on behalf of a node: the callbacks it makes, and the client
it returns. -/
structure Registration where
  during : List NodeCallback
  client : Option Nat

/-! ## The program state -/

structure AvahiNodeStub where
  interfaceIndices : Keys Nat
  interfacesIPv4 : Table Nat CString
  interfacesIPv6 : Table Nat CString

structure Avahi where
  isSuspended : Bool
  browsers : Keys Nat
  nodes : Keys Nat
  suspendedNodes : Keys Nat
  avahiClients : Table Nat (Option Nat)
  avahiGroups : Table Nat Nat
  avahiBrowsers : Table Nat Nat
  queryNodes : Table Nat (Table CString AvahiNodeStub)

/-- What a step tells a `NodeQuery`, or that the program was aborted. -/
inductive AvahiEffect where
  | found (query : Nat) (name : CString)
  | removed (query : Nat) (name : CString)
  | aborted
deriving DecidableEq

namespace Avahi

def start : Avahi where
  isSuspended := false
  browsers := ∅
  nodes := ∅
  suspendedNodes := ∅
  avahiClients := ∅
  avahiGroups := ∅
  avahiBrowsers := ∅
  queryNodes := ∅

/-- All assertions of `validateState` that can be reached. -/
def validateState (avahi : Avahi) : Bool :=
  avahi.browsers.toList.all (fun query =>
    decide (query ∈ avahi.avahiClients) && decide (query ∈ avahi.avahiBrowsers)) &&
  avahi.avahiBrowsers.size == avahi.browsers.size &&
  avahi.nodes.toList.all (fun node => decide (node ∈ avahi.avahiClients)) &&
  avahi.avahiClients.size == avahi.browsers.size + avahi.nodes.size &&
  avahi.avahiGroups.keys.all fun node => decide (node ∈ avahi.nodes)

def validated (avahi : Avahi) : Option Avahi :=
  check (avahi.validateState = true) (some avahi)

/-! ## Local nodes -/

def clientCallback (node : Nat) (state : AvahiClientState) (made : Option Nat) (avahi : Avahi) :
    Option Avahi :=
  check (node ∈ avahi.nodes) <|
  match state, avahi.avahiGroups[node]?, made with
  | .running, none, some group =>
      some { avahi with avahiGroups := avahi.avahiGroups.insert node group }
  | _, _, _ => some avahi

def entryGroupCallback (node group : Nat) (_state : AvahiEntryGroupState) (avahi : Avahi) :
    Option Avahi :=
  check (node ∈ avahi.nodes) <|
  check (avahi.avahiGroups[node]? = some group ∨ avahi.avahiGroups[node]? = none) <|
  some { avahi with avahiGroups := avahi.avahiGroups.insert node group }

def callback (node : Nat) (avahi : Avahi) : NodeCallback -> Option Avahi
  | .client state made => avahi.clientCallback node state made
  | .entryGroup group state => avahi.entryGroupCallback node group state

def remove (avahi : Avahi) (node : Nat) : Option Avahi :=
  if node ∉ avahi.avahiClients then some avahi
  else
    check (node ∈ avahi.avahiGroups) <|
    check (node ∈ avahi.nodes) <|
    validated { avahi with
      avahiClients := avahi.avahiClients.erase node
      avahiGroups := avahi.avahiGroups.erase node
      nodes := avahi.nodes.erase node }

/-- The node is known before its client is made, so that callbacks find it.  A client that
could not be made is stored as well. -/
def add (registration : Registration) (node : Nat) (avahi : Avahi) : Option Avahi :=
  if node ∈ avahi.nodes then check (node ∈ avahi.avahiClients) avahi.validated
  else
    (registration.during.foldlM (callback node) { avahi with nodes := avahi.nodes.insert node }).bind
      fun avahi =>
        check (node ∉ avahi.avahiClients) <|
        validated { avahi with avahiClients := avahi.avahiClients.insert node registration.client }

def suspend (avahi : Avahi) : Option Avahi :=
  if avahi.isSuspended then some avahi
  else
    avahi.nodes.toList.foldlM remove
      { avahi with isSuspended := true, suspendedNodes := avahi.nodes }

def resume (registrations : Nat -> Registration) (avahi : Avahi) : Option Avahi :=
  if avahi.isSuspended then
    (avahi.suspendedNodes.toList.foldlM (fun avahi node => add (registrations node) node avahi)
        { avahi with isSuspended := false }).map fun avahi =>
      { avahi with suspendedNodes := ∅ }
  else some avahi

/-! ## Queries -/

def browse (client browser : Option Nat) (query : Nat) (avahi : Avahi) : Option Avahi :=
  if query ∈ avahi.browsers then avahi.validated
  else
    match client, browser with
    | some client, some browser =>
        check (query ∉ avahi.avahiClients) <|
        check (query ∉ avahi.browsers) <|
        check (query ∉ avahi.avahiBrowsers) <|
        validated { avahi with
          avahiClients := avahi.avahiClients.insert query (some client)
          browsers := avahi.browsers.insert query
          avahiBrowsers := avahi.avahiBrowsers.insert query browser }
    | _, _ => avahi.validated

def unbrowse (query : Nat) (avahi : Avahi) : Option Avahi :=
  if query ∉ avahi.avahiClients then some avahi
  else
    check (query ∈ avahi.avahiBrowsers) <|
    validated { avahi with
      avahiBrowsers := avahi.avahiBrowsers.erase query
      avahiClients := avahi.avahiClients.erase query
      queryNodes := avahi.queryNodes.erase query
      browsers := avahi.browsers.erase query }

end Avahi

/-! ## Remote nodes -/

namespace AvahiNodeStub

/-- A stub knows the interface at which it was announced first. -/
def announced (interfaceIndex : Nat) : AvahiNodeStub where
  interfaceIndices := (∅ : Keys Nat).insert interfaceIndex
  interfacesIPv4 := ∅
  interfacesIPv6 := ∅

/-- The addresses of one protocol at an interface are forgotten. -/
def forgetAddress (stub : AvahiNodeStub) (interfaceIndex : Nat) : AvahiProtocol -> AvahiNodeStub
  | .inet => { stub with interfacesIPv4 := stub.interfacesIPv4.erase interfaceIndex }
  | .inet6 => { stub with interfacesIPv6 := stub.interfacesIPv6.erase interfaceIndex }
  | .unspec => stub

/-- The interface goes with its last address. -/
def withdraw (stub : AvahiNodeStub) (interfaceIndex : Nat) (protocol : AvahiProtocol) :
    AvahiNodeStub :=
  let stub := stub.forgetAddress interfaceIndex protocol
  if interfaceIndex ∉ stub.interfacesIPv4 ∧ interfaceIndex ∉ stub.interfacesIPv6 then
    { stub with interfaceIndices := stub.interfaceIndices.erase interfaceIndex }
  else stub

/-- Three dots make an IPv4 address.  The search for the first one skips a character. -/
def isDotted (address : CString) : Bool := (address.bytes.drop 1).count 46 == 3

def storeAddress (stub : AvahiNodeStub) (interfaceIndex : Nat) (address : CString) :
    AvahiProtocol -> AvahiNodeStub
  | .inet =>
      if isDotted address then
        { stub with interfacesIPv4 := stub.interfacesIPv4.insert interfaceIndex address }
      else stub
  | .inet6 => { stub with interfacesIPv6 := stub.interfacesIPv6.insert interfaceIndex address }
  | .unspec => stub

end AvahiNodeStub

namespace Avahi

/-- The subscript creates an empty row. -/
def entered (avahi : Avahi) (query : Nat) : Avahi :=
  { avahi with queryNodes := avahi.queryNodes.insertIfNew query ∅ }

/-- A new node is remembered, and every announcement is resolved. -/
def announce (query interfaceIndex : Nat) (name : CString) (avahi : Avahi) : Avahi :=
  if name ∈ avahi.queryNodes.row query then avahi
  else { avahi with queryNodes := avahi.queryNodes.store query name (.announced interfaceIndex) }

/-- The node vanishes with its last interface. -/
def withdraw (query interfaceIndex : Nat) (protocol : AvahiProtocol) (name : CString)
    (avahi : Avahi) : Avahi × List AvahiEffect :=
  match (avahi.queryNodes.row query)[name]? with
  | none => (avahi, [])
  | some stub =>
      let stub := stub.withdraw interfaceIndex protocol
      if stub.interfaceIndices.isEmpty then
        let left := (avahi.queryNodes.row query).erase name
        ({ avahi with queryNodes := avahi.queryNodes.insert query left }, [.removed query name])
      else ({ avahi with queryNodes := avahi.queryNodes.store query name stub }, [])

/-- What a query learns from the daemon. -/
def browsed (query interfaceIndex : Nat) (protocol : AvahiProtocol) (event : AvahiBrowserEvent)
    (name : CString) (avahi : Avahi) : Avahi × List AvahiEffect :=
  match event with
  | .new => ((avahi.entered query).announce query interfaceIndex name, [])
  | .remove => (avahi.entered query).withdraw query interfaceIndex protocol name
  | _ => (avahi, [])

def browseCallback (query interfaceIndex : Nat) (protocol : AvahiProtocol)
    (event : AvahiBrowserEvent) (name : CString) (avahi : Avahi) :
    Option (Avahi × List AvahiEffect) :=
  check (query ∈ avahi.browsers) <|
  check (query ∈ avahi.avahiClients) <|
  let result := avahi.browsed query interfaceIndex protocol event name
  result.1.validated.map fun avahi => (avahi, result.2)

/-- The address of a known node is stored.  The node is reported if it has an IPv4 address. -/
def resolved (query interfaceIndex : Nat) (protocol : AvahiProtocol) (event : AvahiResolverEvent)
    (name : CString) (avahi : Avahi) : Avahi × List AvahiEffect :=
  match (avahi.queryNodes.row query)[name]?, event with
  | some stub, .found address =>
      let stub := stub.storeAddress interfaceIndex address protocol
      ({ avahi with queryNodes := avahi.queryNodes.store query name stub },
        if stub.interfacesIPv4.isEmpty then [] else [.found query name])
  | _, _ => (avahi, [])

/-- The state is not validated if the node is unknown. -/
def resolveCallback (query interfaceIndex : Nat) (protocol : AvahiProtocol)
    (event : AvahiResolverEvent) (name : CString) (avahi : Avahi) :
    Option (Avahi × List AvahiEffect) :=
  check (query ∈ avahi.browsers) <|
  check (query ∈ avahi.avahiClients) <|
  if name ∉ (avahi.entered query).queryNodes.row query then some (avahi.entered query, [])
  else
    let result := (avahi.entered query).resolved query interfaceIndex protocol event name
    result.1.validated.map fun avahi => (avahi, result.2)

end Avahi

/-! ## Runs -/

inductive AvahiEvent where
  | add (node : Nat) (registration : Registration)
  | remove (node : Nat)
  | suspend
  | resume (registrations : Nat -> Registration)
  | browse (query : Nat) (client browser : Option Nat)
  | unbrowse (query : Nat)
  | callback (node : Nat) (callback : NodeCallback)
  | browseCallback (query interfaceIndex : Nat) (protocol : AvahiProtocol)
      (event : AvahiBrowserEvent) (name : CString)
  | resolveCallback (query interfaceIndex : Nat) (protocol : AvahiProtocol)
      (event : AvahiResolverEvent) (name : CString)

namespace Avahi

/-- A call, or nothing if it is aborted. -/
def react (avahi : Avahi) : AvahiEvent -> Option (Avahi × List AvahiEffect)
  | .add node registration => (avahi.add registration node).map fun next => (next, [])
  | .remove node => (avahi.remove node).map fun next => (next, [])
  | .suspend => avahi.suspend.map fun next => (next, [])
  | .resume registrations => (avahi.resume registrations).map fun next => (next, [])
  | .browse query client browser => (avahi.browse client browser query).map fun next => (next, [])
  | .unbrowse query => (avahi.unbrowse query).map fun next => (next, [])
  | .callback node callback => (avahi.callback node callback).map fun next => (next, [])
  | .browseCallback query interfaceIndex protocol event name =>
      avahi.browseCallback query interfaceIndex protocol event name
  | .resolveCallback query interfaceIndex protocol event name =>
      avahi.resolveCallback query interfaceIndex protocol event name

def step (avahi : Avahi) (event : AvahiEvent) : Avahi × List AvahiEffect :=
  (avahi.react event).getD (avahi, [.aborted])

end Avahi

end Discovery
end Umundo
