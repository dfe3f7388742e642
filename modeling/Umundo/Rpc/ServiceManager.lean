import Umundo.Foundation.Machine
import Umundo.Rpc.PendingCalls
import Umundo.Rpc.ServiceFilter

namespace Umundo
namespace Rpc

open Foundation Std Connection

/-!
# The service manager

A service manager answers requests for services on behalf of its process and
asks other managers on behalf of its clients.  A client may look up one service,
or start a continuous query; then its listener is told about every service that
appears and disappears.  Everything is published on one channel to all other
managers, as messages that are told apart by the meta field `type`.

The maps `_svc` and `_localSvcDesc` have the same keys and the channel of a
service is the channel of its description, so they are one table.  The nodes that
a manager connects its services to are left out.  Where the source goes through a
set of descriptions it does so by their addresses; here the order is that of the
services.

Descriptions that come from other managers are shared pointers.  Each gets a
number when it is made, so that one can ask whether two calls name the same one.
-/

/-! Meta keys and the values of `type`. -/

def typeKey : CString := .ofBytes "type".toUTF8.toList

def reqIdKey : CString := .ofBytes "reqId".toUTF8.toList

def filterIdKey : CString := .ofBytes "filterId".toUTF8.toList

def serviceDisc : CString := .ofBytes "serviceDisc".toUTF8.toList

def serviceDiscStart : CString := .ofBytes "serviceDiscStart".toUTF8.toList

def serviceDiscStop : CString := .ofBytes "serviceDiscStop".toUTF8.toList

def serviceDiscFound : CString := .ofBytes "serviceDiscFound".toUTF8.toList

def serviceDiscRemoved : CString := .ofBytes "serviceDiscRemoved".toUTF8.toList

inductive MessageKind where
  | request
  | start
  | stop
  | found
  | removed
deriving DecidableEq

abbrev MessageKind.type : MessageKind -> CString
  | request => serviceDisc
  | start => serviceDiscStart
  | stop => serviceDiscStop
  | found => serviceDiscFound
  | removed => serviceDiscRemoved

theorem MessageKind.type_ne (first second : MessageKind) :
    first ≠ second -> some first.type ≠ some second.type := by
  cases first <;> cases second <;> decide +kernel

/-- The keys that are written next to a filter, a description or a reply. -/
inductive MessageKey where
  | type
  | reqId
  | filterId
  | descChannel
  | proc
  | publisher
  | channel
  | subscriber
deriving DecidableEq

abbrev MessageKey.text : MessageKey -> CString
  | type => typeKey
  | reqId => reqIdKey
  | filterId => filterIdKey
  | descChannel => descChannelKey
  | proc => Message.procKey
  | publisher => Message.publisherKey
  | channel => Message.channelKey
  | subscriber => Message.subscriberKey

theorem MessageKey.text_ne (first second : MessageKey) :
    first ≠ second -> first.text ≠ second.text := by
  cases first <;> cases second <;> decide +kernel

theorem MessageKey.apart (key : MessageKey) (field : FilterField) :
    CString.Apart field.key key.text := by
  cases key <;> cases field <;> decide +kernel

/-- None of these keys is read as a part of a filter. -/
theorem MessageKey.foreign (key : MessageKey) : ¬ ServiceFilter.IsFilterKey key.text := by
  simp only [ServiceFilter.IsFilterKey, not_or, Option.not_isSome_iff_eq_none]
  exact ⟨(key.apart .serviceName).ne.symm, (key.apart .uuid).ne.symm, (key.apart .value).dropLabel,
    (key.apart .pattern).dropLabel, (key.apart .pred).dropLabel⟩

/-- A `shared_ptr<ServiceDescription>`, with the number of the object. -/
structure RemoteDescription where
  object : Nat
  desc : ServiceDescription

/-- What a manager does besides changing its tables. -/
inductive ManagerEffect where
  /-- `_svcPub->send(msg)` -/
  | send (message : Message)
  /-- `listener->added(desc)` for the query with the given uuid -/
  | added (filterId : CString) (listener : Nat) (description : RemoteDescription)
  /-- `listener->removed(desc)` -/
  | removed (filterId : CString) (listener : Nat) (description : RemoteDescription)

structure ServiceManager where
  /-- `_findRequests` and `_findResponses` -/
  calls : PendingCalls Message
  /-- `_svc` and `_localSvcDesc`, by the address of the service -/
  services : Table Nat ServiceDescription
  remoteSvcDesc : Table CString RemoteDescription
  /-- The filters are compared by their uuids. -/
  localQueries : Table CString (ServiceFilter × Nat)
  remoteQueries : Table CString ServiceFilter
  /-- how many description objects have been made -/
  objects : Nat

namespace ServiceManager

def init : ServiceManager := ⟨.init, ∅, ∅, ∅, ∅, 0⟩

/-! ## Queries -/

def queryMessage (type : CString) (filter : ServiceFilter) : Message :=
  filter.toMessage.setMeta typeKey type

def startQuery (manager : ServiceManager) (filter : ServiceFilter) (listener : Nat) :
    ServiceManager × List ManagerEffect :=
  ({ manager with localQueries := manager.localQueries.insert filter.uuid (filter, listener) },
    [.send (queryMessage serviceDiscStart filter)])

def stopQuery (manager : ServiceManager) (filter : ServiceFilter) :
    ServiceManager × List ManagerEffect :=
  if filter.uuid ∈ manager.localQueries then
    ({ manager with localQueries := manager.localQueries.erase filter.uuid },
      [.send (queryMessage serviceDiscStop filter)])
  else (manager, [])

/-- Another manager has subscribed: it is sent all queries. -/
def welcome (manager : ServiceManager) (subId : CString) : List ManagerEffect :=
  manager.localQueries.toList.map fun query =>
    .send ((queryMessage serviceDiscStart query.2.1).setMeta Message.subscriberKey subId)

/-! ## Services -/

section

variable (holds : Rule -> CString -> Bool)

/-- Tell the owner of a query that a service has appeared or disappeared. -/
def noticeMessage (type filterId : CString) (desc : ServiceDescription) : Message :=
  ((desc.toMessage.setMeta filterIdKey filterId).setMeta typeKey type).setMeta descChannelKey
    desc.channelName

/-- The body of the loops over queries and services: send a notice if the
filter matches. -/
def notify (type : CString) (filter : ServiceFilter) (desc : ServiceDescription) :
    ServiceDescription × List ManagerEffect :=
  let result := filter.matches holds desc
  (result.2, if result.1 then [.send (noticeMessage type filter.uuid result.2)] else [])

/-- Go through the remote queries with one description. -/
def notifyAll (type : CString) (filters : List (CString × ServiceFilter))
    (desc : ServiceDescription) : ServiceDescription × List ManagerEffect :=
  run (fun desc query => notify holds type query.2 desc) desc filters

def addService (manager : ServiceManager) (service : Nat) (channelName : CString)
    (desc : ServiceDescription) : ServiceManager × List ManagerEffect :=
  if service ∈ manager.services then (manager, [])
  else
    let notified := notifyAll holds serviceDiscFound manager.remoteQueries.toList
      { desc with channelName := channelName }
    ({ manager with services := manager.services.insert service notified.1 }, notified.2)

def removeService (manager : ServiceManager) (service : Nat) :
    ServiceManager × List ManagerEffect :=
  match manager.services[service]? with
  | none => (manager, [])
  | some desc =>
      ({ manager with services := manager.services.erase service },
        (notifyAll holds serviceDiscRemoved manager.remoteQueries.toList desc).2)

/-! ## Messages from other managers -/

/-- The services that match, and the manager with all descriptions looked at. -/
def findLocal (manager : ServiceManager) (filter : ServiceFilter) :
    ServiceManager × List (Nat × ServiceDescription) :=
  ({ manager with services := manager.services.map fun _ desc => (filter.matches holds desc).2 },
    (manager.services.toList.filter fun entry => (filter.matches holds entry.2).1).map fun entry =>
      (entry.1, (filter.matches holds entry.2).2))

theorem mem_findLocal {manager : ServiceManager} {filter : ServiceFilter}
    {entry : Nat × ServiceDescription} :
    entry ∈ (manager.findLocal holds filter).2 <->
      Exists fun desc : ServiceDescription => manager.services[entry.1]? = some desc ∧
        (filter.matches holds desc).1 = true ∧ entry.2 = (filter.matches holds desc).2 := by
  rcases entry with ⟨service, found⟩
  simp only [findLocal, List.mem_map, List.mem_filter, Prod.exists, Prod.mk.injEq,
    ExtTreeMap.mem_toList_iff_getElem?_eq_some]
  constructor
  · rintro ⟨_, desc, ⟨stored, accepted⟩, rfl, rfl⟩
    exact ⟨desc, stored, accepted, rfl⟩
  · rintro ⟨desc, stored, accepted, rfl⟩
    exact ⟨service, desc, ⟨stored, accepted⟩, rfl, rfl⟩

/-- A request for a service is answered with the first one that matches. -/
def answerRequest (manager : ServiceManager) (message : Message) :
    ServiceManager × List ManagerEffect :=
  let found := manager.findLocal holds (.ofMessage message)
  match found.2 with
  | [] => (found.1, [])
  | (_, desc) :: _ =>
      (found.1, [.send ((desc.toMessage.setMeta respIdKey (message.metaMap.getD reqIdKey .empty)).setMeta
        descChannelKey desc.channelName)])

/-- Send a notice for one of the services that were found. -/
def answerEntry (filter : ServiceFilter) (services : Table Nat ServiceDescription)
    (entry : Nat × ServiceDescription) : Table Nat ServiceDescription × List ManagerEffect :=
  let notified := notify holds serviceDiscFound filter entry.2
  (services.insert entry.1 notified.1, notified.2)

/-- Remember a query and send a notice for every service that matches. -/
def answerStart (manager : ServiceManager) (message : Message) :
    ServiceManager × List ManagerEffect :=
  let filter := ServiceFilter.ofMessage message
  let found := { manager with
    remoteQueries := manager.remoteQueries.insert filter.uuid filter }.findLocal holds filter
  let notified := run (answerEntry holds filter) found.1.services found.2
  ({ found.1 with services := notified.1 }, notified.2)

end

def answerStop (manager : ServiceManager) (message : Message) : ServiceManager :=
  { manager with
    remoteQueries := manager.remoteQueries.erase (ServiceFilter.ofMessage message).uuid }

/-- The description that stands for a channel.  It is made of the message if
there is none yet. -/
def describe (manager : ServiceManager) (channel : CString) (message : Message) :
    RemoteDescription × Nat :=
  match manager.remoteSvcDesc[channel]? with
  | some description => (description, manager.objects)
  | none => (⟨manager.objects, .ofMessage message⟩, manager.objects + 1)

/-- A notice is passed on to the listener of the query, if there still is one. -/
def takeNotice (manager : ServiceManager) (found : Bool) (message : Message) :
    ServiceManager × List ManagerEffect :=
  let filterId := message.metaMap.getD filterIdKey .empty
  let channel := message.metaMap.getD descChannelKey .empty
  match manager.localQueries[filterId]? with
  | none => (manager, [])
  | some (_, listener) =>
      let described := manager.describe channel message
      if found then
        ({ manager with
            remoteSvcDesc := manager.remoteSvcDesc.insert channel described.1
            objects := described.2 }, [.added filterId listener described.1])
      else
        ({ manager with
            remoteSvcDesc := manager.remoteSvcDesc.erase channel
            objects := described.2 }, [.removed filterId listener described.1])

/-- A message of another manager arrives. -/
def receive (holds : Rule -> CString -> Bool) (manager : ServiceManager) (message : Message) :
    ServiceManager × List ManagerEffect :=
  let replied := { manager with calls := manager.calls.receive message message }
  let type := message.metaMap[typeKey]?
  if type = some serviceDisc then replied.answerRequest holds message
  else if type = some serviceDiscStart then replied.answerStart holds message
  else if type = some serviceDiscStop then (replied.answerStop message, [])
  else if type = some serviceDiscFound then replied.takeNotice true message
  else if type = some serviceDiscRemoved then replied.takeNotice false message
  else (replied, [])

section

variable {holds : Rule -> CString -> Bool} {manager : ServiceManager} {message : Message}

theorem receive_start (type : message.metaMap[typeKey]? = some serviceDiscStart) :
    manager.receive holds message =
      { manager with calls := manager.calls.receive message message }.answerStart holds message := by
  rw [receive, type, if_neg (MessageKind.type_ne .start .request (by decide)), if_pos rfl]

theorem receive_stop (type : message.metaMap[typeKey]? = some serviceDiscStop) :
    manager.receive holds message =
      ({ manager with calls := manager.calls.receive message message }.answerStop message, []) := by
  rw [receive, type, if_neg (MessageKind.type_ne .stop .request (by decide)),
    if_neg (MessageKind.type_ne .stop .start (by decide)), if_pos rfl]

theorem receive_notice {found : Bool} (type : message.metaMap[typeKey]? =
      some (if found then serviceDiscFound else serviceDiscRemoved)) :
    manager.receive holds message =
      { manager with calls := manager.calls.receive message message }.takeNotice found message := by
  cases found with
  | true =>
      replace type : message.metaMap[typeKey]? = some serviceDiscFound := type
      rw [receive, type, if_neg (MessageKind.type_ne .found .request (by decide)),
        if_neg (MessageKind.type_ne .found .start (by decide)),
        if_neg (MessageKind.type_ne .found .stop (by decide)), if_pos rfl]
  | false =>
      replace type : message.metaMap[typeKey]? = some serviceDiscRemoved := type
      rw [receive, type, if_neg (MessageKind.type_ne .removed .request (by decide)),
        if_neg (MessageKind.type_ne .removed .start (by decide)),
        if_neg (MessageKind.type_ne .removed .stop (by decide)),
        if_neg (MessageKind.type_ne .removed .found (by decide)), if_pos rfl]

theorem takeNotice_of_none {found : Bool}
    (unasked : manager.localQueries[message.metaMap.getD filterIdKey .empty]? = none) :
    manager.takeNotice found message = (manager, []) := by
  simp only [takeNotice, unasked]

theorem takeNotice_of_some {found : Bool} {query : ServiceFilter × Nat}
    (asked : manager.localQueries[message.metaMap.getD filterIdKey .empty]? = some query) :
    manager.takeNotice found message =
      let filterId := message.metaMap.getD filterIdKey .empty
      let channel := message.metaMap.getD descChannelKey .empty
      let described := manager.describe channel message
      ({ manager with
          remoteSvcDesc := if found then manager.remoteSvcDesc.insert channel described.1
            else manager.remoteSvcDesc.erase channel
          objects := described.2 },
        [if found then .added filterId query.2 described.1
          else .removed filterId query.2 described.1]) := by
  cases found with
  | true => simp only [takeNotice, asked, if_true]
  | false => simp only [takeNotice, asked, Bool.false_eq_true, if_false]

/-- Where the description for a channel comes from. -/
theorem describe_cases (channel : CString) :
    manager.remoteSvcDesc[channel]? = some (manager.describe channel message).1 ∧
        (manager.describe channel message).2 = manager.objects ∨
      manager.remoteSvcDesc[channel]? = none ∧
        (manager.describe channel message).1 = ⟨manager.objects, .ofMessage message⟩ ∧
        (manager.describe channel message).2 = manager.objects + 1 := by
  rw [describe]
  cases held : manager.remoteSvcDesc[channel]? with
  | none => exact .inr ⟨rfl, rfl, rfl⟩
  | some description => exact .inl ⟨rfl, rfl⟩

end

end ServiceManager

end Rpc
end Umundo
