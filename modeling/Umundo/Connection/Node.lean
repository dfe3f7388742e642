import Umundo.Connection.ControlMessage
import Umundo.Foundation.Table
import Umundo.Foundation.Machine

namespace Umundo
namespace Connection

open Foundation Std

/-!
# The tables of a ZeroMQ node

A node keeps seven tables: the remote nodes it was told about and a socket to
each, the publishers those nodes announced, announcements of nodes that were
not discovered yet, the subscriptions remote nodes made at local publishers,
and its own publishers and subscribers.  Every operation below is the source
function of the same name as a function on these tables.

A node also acts on other objects: it sends control messages, tells local
subscribers about publishers and tells local publishers about subscribers.
None of these calls reads or writes the tables, so they are returned, in
order, as a list of effects.  Reading a map through its subscript operator
may store a default element; such reads are written out as updates.

Assertions are not part of the behaviour.  Locks are left out: every
operation runs under the node's mutex.
-/

/-! ## Endpoints, stubs and the calls a node makes -/

/-- Anything addressable in TCP/IP networks.  A flag that no setter has
written yet is `none`. -/
structure EndPoint where
  ip : CString
  transport : CString
  port : UInt16
  isRemote : Option Bool
  isInProcess : Option Bool
  host : CString
  domain : CString
deriving DecidableEq

/-- The address `transport://ip:port` as it is passed to `zmq_connect`. -/
def EndPoint.address (endPoint : EndPoint) : CString :=
  endPoint.transport ++ ⟨[58, 47, 47], by decide⟩ ++ endPoint.ip ++ ⟨[58], by decide⟩ ++
    CString.decimal endPoint.port.toNat

/-- Representation of a remote node.  Its uuid is the text form of a UUID. -/
structure NodeStub extends EndPoint where
  uuid : CString
  uuid_length : uuid.length = 36
deriving DecidableEq

/-- Representation of a remote publisher. -/
structure PublisherStub extends EndPoint where
  channelName : CString
  uuid : CString
deriving DecidableEq

namespace PublisherStub

def info (pub : PublisherStub) : PublisherInfo := ⟨pub.channelName, pub.uuid, pub.port⟩

/-- The stub made from an announcement.  Only the announced fields are set. -/
def ofInfo (pub : PublisherInfo) : PublisherStub where
  ip := .empty
  transport := .empty
  port := pub.port
  isRemote := none
  isInProcess := none
  host := .empty
  domain := .empty
  channelName := pub.channelName
  uuid := pub.uuid

/-- Set the endpoint data of a stub from its node.  The setter of the
in-process flag assigns the flag to itself, so that flag never changes. -/
def setEndPoint (pub : PublisherStub) (node : NodeStub) : PublisherStub :=
  { pub with
    host := node.host
    domain := node.domain
    transport := node.transport
    ip := node.ip
    isRemote := if node.isRemote = some true then pub.isRemote else some false }

end PublisherStub

/-- A local subscriber, as far as a node looks at it. -/
structure Subscriber where
  uuid : CString
  channelName : CString
  uuid_length : uuid.length = 36
deriving DecidableEq

/-- Subscriber objects are kept in a set ordered by their identity. -/
instance : Ord Subscriber :=
  ⟨fun left right => (compare left.uuid right.uuid).then (compare left.channelName right.channelName)⟩

/-- A client socket, created for one remote node and connected to its address. -/
structure Socket where
  peer : CString
  address : CString
deriving DecidableEq

/-- The calls a node makes on other objects. -/
inductive Effect where
  /-- `zmq_sendmsg` on a socket, with the flag that more parts follow -/
  | send (socket : Option Socket) (message : ControlMessage) (sndMore : Bool)
  /-- `zmq_close` on a socket -/
  | close (socket : Option Socket)
  /-- `zSub->added(pub)` -/
  | subscriberAdded (sub : Subscriber) (pub : PublisherStub)
  /-- `zSub->removed(pub)` -/
  | subscriberRemoved (sub : Subscriber) (pub : PublisherStub)
  /-- `pub->addedSubscriber(remoteId, subId)` -/
  | addedSubscriber (pubId remoteId subId : CString)
  /-- `pub->removedSubscriber(remoteId, subId)` -/
  | removedSubscriber (pubId remoteId subId : CString)
deriving DecidableEq

/-- The state of a node. -/
structure ZeroMQNode where
  uuid : CString
  nodes : Table CString NodeStub
  sockets : Table CString (Option Socket)
  remotePubs : Table CString (Table CString PublisherStub)
  pendingRemotePubs : Table CString (Table CString PublisherStub)
  subscriptions : Table CString (Table CString (Keys CString))
  localPubs : Table CString PublisherInfo
  localSubs : Keys Subscriber

instance : TransOrd Subscriber where
  eq_swap {left right} := by
    change (compare left.uuid right.uuid).then (compare left.channelName right.channelName) =
      ((compare right.uuid left.uuid).then (compare right.channelName left.channelName)).swap
    rw [Ordering.swap_then, ← OrientedCmp.eq_swap, ← OrientedCmp.eq_swap]
  isLE_trans {first second third} := by
    change ((compare first.uuid second.uuid).then (compare first.channelName second.channelName)).isLE ->
      ((compare second.uuid third.uuid).then (compare second.channelName third.channelName)).isLE ->
      ((compare first.uuid third.uuid).then (compare first.channelName third.channelName)).isLE
    have lexicographic : TransCmp
        (compareLex (compareOn Subscriber.uuid) (compareOn Subscriber.channelName)) := inferInstance
    exact lexicographic.isLE_trans

instance : LawfulEqOrd Subscriber where
  eq_of_compare {left right} equal := by
    change (compare left.uuid right.uuid).then (compare left.channelName right.channelName) = .eq at equal
    rw [Ordering.then_eq_eq] at equal
    rcases left with ⟨leftUuid, leftChannel, leftLength⟩
    rcases right with ⟨rightUuid, rightChannel, rightLength⟩
    have sameUuid : leftUuid = rightUuid := LawfulEqCmp.eq_of_compare equal.1
    have sameChannel : leftChannel = rightChannel := LawfulEqCmp.eq_of_compare equal.2
    subst sameUuid
    subst sameChannel
    rfl

namespace ZeroMQNode

/-- A node with the given uuid and empty tables. -/
def init (uuid : CString) : ZeroMQNode where
  uuid := uuid
  nodes := ∅
  sockets := ∅
  remotePubs := ∅
  pendingRemotePubs := ∅
  subscriptions := ∅
  localPubs := ∅
  localSubs := ∅

/-! ## Remote publishers and local subscribers -/

/-- The local subscribers on a channel, in iteration order. -/
def subscribersOn (node : ZeroMQNode) (channelName : CString) : List Subscriber :=
  node.localSubs.toList.filter (fun sub => sub.channelName = channelName)

/-- Tell every interested local subscriber about a publisher, and the
publisher's node about every such subscriber. -/
def linkPublisher (node : ZeroMQNode) (socket : Option Socket) (pub : PublisherStub) :
    List Effect :=
  (node.subscribersOn pub.channelName).flatMap fun sub =>
    [.subscriberAdded sub pub, .send socket (.subscribe pub.info sub.uuid) false]

/-- Remember an announced publisher for its node. -/
def park (node : ZeroMQNode) (remoteId : CString) : Option PublisherStub -> ZeroMQNode
  | some pub =>
      { node with pendingRemotePubs := node.pendingRemotePubs.store remoteId pub.uuid pub }
  | none => node

/-- If a node is known, move everything parked for it to its publishers. -/
def promote (node : ZeroMQNode) (remoteId : CString) : ZeroMQNode × List Effect :=
  match node.nodes[remoteId]?, node.pendingRemotePubs[remoteId]? with
  | some stub, some pending =>
      let nodeSocket := node.sockets.getD remoteId none
      let pubs := pending.toList.map (fun entry => entry.2.setEndPoint stub)
      ({ node with
          sockets := node.sockets.insertIfNew remoteId none
          remotePubs := node.remotePubs.storeAll remoteId (pubs.map (fun pub => (pub.uuid, pub)))
          pendingRemotePubs := node.pendingRemotePubs.insert remoteId ∅ },
        pubs.flatMap (fun pub => node.linkPublisher nodeSocket pub))
  | _, _ => (node, [])

/-- `added` calls this function without a publisher. -/
def addRemotePubToLocalSubs (node : ZeroMQNode) (remoteId : CString)
    (pub : Option PublisherStub) : ZeroMQNode × List Effect :=
  (node.park remoteId pub).promote remoteId

/-- Tell every interested local subscriber that a publisher is gone. -/
def removeRemotePubFromLocalSubs (node : ZeroMQNode) (pub : PublisherStub) : List Effect :=
  (node.subscribersOn pub.channelName).map fun sub => .subscriberRemoved sub pub

/-! ## Callbacks from discovery -/

/-- List our publishers in one envelope.  The counter tells whether more
parts follow. -/
def announce (client : Socket) : Int -> List PublisherInfo -> List Effect
  | _, [] => []
  | hasMore, pub :: rest =>
      .send (some client) (.pubAdded pub) (decide (hasMore ≠ 0)) :: announce client (hasMore - 1) rest

/-- A node was discovered: connect to it and list our publishers. -/
def added (node : ZeroMQNode) (stub : NodeStub) : ZeroMQNode × List Effect :=
  if stub.uuid = node.uuid then (node, [])
  else
    let client : Socket := ⟨stub.uuid, stub.address⟩
    let connected : ZeroMQNode := { node with
      nodes := node.nodes.insert stub.uuid stub
      sockets := node.sockets.insert stub.uuid (some client) }
    let linked := connected.addRemotePubToLocalSubs stub.uuid none
    (linked.1,
      announce client (node.localPubs.size - 1 : Int) (node.localPubs.toList.map Prod.snd) ++ linked.2)

/-- The publishers a vanished node had subscribed to lose its subscribers. -/
def dropSubscriptions (node : ZeroMQNode) (remoteId : CString) : List Effect :=
  (node.subscriptions.row remoteId).toList.flatMap fun entry =>
    if entry.1 ∈ node.localPubs then
      entry.2.toList.map fun subId => .removedSubscriber entry.1 remoteId subId
    else []

/-- A node vanished. -/
def removed (node : ZeroMQNode) (stub : NodeStub) : ZeroMQNode × List Effect :=
  if stub.uuid = node.uuid then (node, [])
  else
    let unlinked : ZeroMQNode × List Effect :=
      if stub.uuid ∈ node.nodes then
        ({ node with remotePubs := node.remotePubs.insertIfNew stub.uuid ∅ },
          (node.remotePubs.row stub.uuid).toList.flatMap fun entry =>
            node.removeRemotePubFromLocalSubs entry.2)
      else (node, [])
    let calls := unlinked.2 ++ node.dropSubscriptions stub.uuid
    if stub.uuid ∉ node.sockets then (unlinked.1, calls)
    else
      ({ unlinked.1 with
          sockets := node.sockets.erase stub.uuid
          remotePubs := unlinked.1.remotePubs.erase stub.uuid
          subscriptions := node.subscriptions.erase stub.uuid
          nodes := node.nodes.erase stub.uuid
          pendingRemotePubs := node.pendingRemotePubs.erase stub.uuid },
        calls ++ [.close (node.sockets.getD stub.uuid none)])

/-! ## Control messages -/

def processPubAdded (node : ZeroMQNode) (remoteId : CString) (message : Bytes) :
    ZeroMQNode × List Effect :=
  match decodePub message with
  | none => (node, [])
  | some pub => node.addRemotePubToLocalSubs remoteId (some (.ofInfo pub))

def processPubRemoved (node : ZeroMQNode) (remoteId : CString) (message : Bytes) :
    ZeroMQNode × List Effect :=
  match decodePub message with
  | none => (node, [])
  | some pub =>
      match (node.remotePubs.row remoteId)[pub.uuid]? with
      | none => (node, [])
      | some pubStub =>
          ({ node with remotePubs :=
              node.remotePubs.insert remoteId ((node.remotePubs.row remoteId).erase pub.uuid) },
            node.removeRemotePubFromLocalSubs pubStub)

/-- A remote subscriber subscribed to, or unsubscribed from, one of our
publishers.  The test for a known subscription goes through subscripts, which
store the two levels it looks at. -/
def processSubscription (node : ZeroMQNode) (remoteId : CString) (message : Bytes)
    (subscribe : Bool) : ZeroMQNode × List Effect :=
  match decodeSubscription message with
  | none => (node, [])
  | some (pub, subId) =>
      if pub.uuid ∉ node.localPubs then (node, [])
      else if subscribe then
        let touched := node.subscriptions.touchCell remoteId pub.uuid
        if subId ∉ touched.cell remoteId pub.uuid then
          ({ node with subscriptions := touched.insertCell remoteId pub.uuid subId },
            [.addedSubscriber pub.uuid remoteId subId])
        else ({ node with subscriptions := touched }, [])
      else if subId ∈ node.subscriptions.cell remoteId pub.uuid then
        ({ node with subscriptions := node.subscriptions.pruneCell remoteId pub.uuid subId },
          [.removedSubscriber pub.uuid remoteId subId])
      else (node, [])

/-- Dispatch a message by its type. -/
def dispatch (node : ZeroMQNode) (remoteId : CString) (message : Bytes) :
    ZeroMQNode × List Effect :=
  let type := messageType message
  if type = MessageType.pubAdded.code then node.processPubAdded remoteId message
  else if type = MessageType.pubRemoved.code then node.processPubRemoved remoteId message
  else if type = MessageType.subscribe.code then node.processSubscription remoteId message true
  else if type = MessageType.unsubscribe.code then node.processSubscription remoteId message false
  else (node, [])

/-- Only announcements of publishers are accepted from unknown nodes. -/
def accepts (known : CString -> Bool) (remoteId : CString) (type : UInt16) : Bool :=
  type == MessageType.pubAdded.code || known remoteId

/-- Handle one body part of an envelope from a remote node. -/
def receive (node : ZeroMQNode) (remoteId : CString) (message : Bytes) :
    ZeroMQNode × List Effect :=
  if accepts node.nodes.contains remoteId (messageType message) then node.dispatch remoteId message
  else (node, [])

/-! ## Publishers and subscribers of this node -/

/-- The remote publishers on a channel, with the socket of their node. -/
def publishersOn (node : ZeroMQNode) (channelName : CString) :
    List (Option Socket × PublisherStub) :=
  node.remotePubs.toList.flatMap fun entry =>
    (entry.2.toList.filter fun pub => pub.2.channelName = channelName).map fun pub =>
      (node.sockets.getD entry.1 none, pub.2)

/-- Looking up the socket of every node with publishers, one by one. -/
def touchSockets (node : ZeroMQNode) : Table CString (Option Socket) :=
  node.remotePubs.keys.foldl (fun table remoteId => table.insertIfNew remoteId none) node.sockets

def addSubscriber (node : ZeroMQNode) (sub : Subscriber) : ZeroMQNode × List Effect :=
  ({ node with
      localSubs := node.localSubs.insert sub
      sockets := node.touchSockets },
    (node.publishersOn sub.channelName).flatMap fun (nodeSocket, pub) =>
      [.subscriberAdded sub pub, .send nodeSocket (.subscribe pub.info sub.uuid) false])

def removeSubscriber (node : ZeroMQNode) (sub : Subscriber) : ZeroMQNode × List Effect :=
  if sub ∉ node.localSubs then (node, [])
  else
    ({ node with
        localSubs := node.localSubs.erase sub
        sockets := node.touchSockets },
      (node.publishersOn sub.channelName).flatMap fun (nodeSocket, pub) =>
        [.send nodeSocket (.unsubscribe pub.info sub.uuid) false, .subscriberRemoved sub pub])

/-- Send one message to every connected node. -/
def broadcast (node : ZeroMQNode) (message : ControlMessage) : List Effect :=
  node.sockets.toList.map fun entry => .send entry.2 message false

def addPublisher (node : ZeroMQNode) (pub : PublisherInfo) : ZeroMQNode × List Effect :=
  if pub.uuid ∉ node.localPubs then
    ({ node with localPubs := node.localPubs.insert pub.uuid pub }, node.broadcast (.pubAdded pub))
  else (node, [])

/-- Removing a publisher that was never added fails an assertion and does
nothing else. -/
def removePublisher (node : ZeroMQNode) (pub : PublisherInfo) : ZeroMQNode × List Effect :=
  if pub.uuid ∈ node.localPubs then
    ({ node with localPubs := node.localPubs.erase pub.uuid }, node.broadcast (.pubRemoved pub))
  else (node, [])

end ZeroMQNode

/-! ## A node as a machine -/

/-- Everything that can happen to a running node. -/
inductive NodeEvent where
  | added (stub : NodeStub)
  | removed (stub : NodeStub)
  | message (remoteId : CString) (body : Bytes)
  | addSubscriber (sub : Subscriber)
  | removeSubscriber (sub : Subscriber)
  | addPublisher (pub : PublisherInfo)
  | removePublisher (pub : PublisherInfo)

def ZeroMQNode.step (node : ZeroMQNode) : NodeEvent -> ZeroMQNode × List Effect
  | .added stub => node.added stub
  | .removed stub => node.removed stub
  | .message remoteId body => node.receive remoteId body
  | .addSubscriber sub => node.addSubscriber sub
  | .removeSubscriber sub => node.removeSubscriber sub
  | .addPublisher pub => node.addPublisher pub
  | .removePublisher pub => node.removePublisher pub

/-! ## Small objects for concrete runs -/

/-- A text of the length of a uuid, made of one repeated byte. -/
def repeatedUuid (byte : UInt8) (nonzero : byte ≠ 0) : CString :=
  ⟨List.replicate 36 byte, fun member => nonzero (List.eq_of_mem_replicate member).symm⟩

theorem repeatedUuid_length (byte : UInt8) (nonzero : byte ≠ 0) :
    (repeatedUuid byte nonzero).length = 36 :=
  List.length_replicate

/-- A node on the local network, with the given uuid. -/
def exampleStub (byte : UInt8) (nonzero : byte ≠ 0) : NodeStub where
  ip := ⟨[49, 48], by decide⟩
  transport := ⟨[116, 99, 112], by decide⟩
  port := 4242
  isRemote := some true
  isInProcess := some false
  host := ⟨[104], by decide⟩
  domain := ⟨[108], by decide⟩
  uuid := repeatedUuid byte nonzero
  uuid_length := repeatedUuid_length byte nonzero

def examplePublisher (byte : UInt8) (nonzero : byte ≠ 0) (channelName : CString) : PublisherInfo :=
  ⟨channelName, repeatedUuid byte nonzero, 4243⟩

def exampleSubscriber (byte : UInt8) (nonzero : byte ≠ 0) (channelName : CString) : Subscriber :=
  ⟨repeatedUuid byte nonzero, channelName, repeatedUuid_length byte nonzero⟩

end Connection
end Umundo
