import Umundo.Foundation.Replica
import Umundo.Rpc.ServiceManager

namespace Umundo
namespace Rpc

open Foundation Std Connection

/-!
# What the messages of continuous queries say

The owner of a query sends requests, to start and to stop it, and gets notices
about services.  `asRequest` and `asNotice` read both off a message.  The fields
they read are not touched by the transport, so they can be read off a message
before it is sent as well as after it has arrived.

The results of this module say what a manager sends, and with what result for its
services, in these terms.
-/

/-- The uuid of the query, and the filter if the query is started. -/
def asRequest (message : Message) : Option (CString × Option ServiceFilter) :=
  let filter := ServiceFilter.ofMessage message
  if message.metaMap[typeKey]? = some serviceDiscStart then some (filter.uuid, some filter)
  else if message.metaMap[typeKey]? = some serviceDiscStop then some (filter.uuid, none)
  else none

def noticeType (found : Bool) : CString := if found then serviceDiscFound else serviceDiscRemoved

def noticeUpdate (found : Bool) (channel : CString) : Update CString :=
  if found then .add channel else .remove channel

/-- The uuid of the query, and the channel that appears or disappears. -/
def asNotice (message : Message) : Option (CString × Update CString) :=
  let filterId := message.metaMap.getD filterIdKey .empty
  let channel := message.metaMap.getD descChannelKey .empty
  if message.metaMap[typeKey]? = some (noticeType true) then
    some (filterId, noticeUpdate true channel)
  else if message.metaMap[typeKey]? = some (noticeType false) then
    some (filterId, noticeUpdate false channel)
  else none

/-! ## Reading messages -/

theorem asRequest_start {message : Message}
    (type : message.metaMap[typeKey]? = some serviceDiscStart) :
    asRequest message =
      some ((ServiceFilter.ofMessage message).uuid, some (.ofMessage message)) := by
  rw [asRequest, if_pos type]

theorem asRequest_stop {message : Message} (type : message.metaMap[typeKey]? = some serviceDiscStop) :
    asRequest message = some ((ServiceFilter.ofMessage message).uuid, none) := by
  rw [asRequest, type, if_neg (MessageKind.type_ne .stop .start (by decide)), if_pos rfl]

theorem asNotice_of_type {message : Message} {found : Bool}
    (type : message.metaMap[typeKey]? = some (noticeType found)) :
    asNotice message = some (message.metaMap.getD filterIdKey .empty,
      noticeUpdate found (message.metaMap.getD descChannelKey .empty)) := by
  cases found with
  | true => rw [asNotice, if_pos type]
  | false =>
      have other : ¬ some (noticeType false) = some (noticeType true) :=
        MessageKind.type_ne .removed .found (by decide)
      rw [asNotice, type, if_neg other, if_pos rfl]

/-- A message that is a request has one of the two types. -/
theorem type_of_asRequest {message : Message} {request : CString × Option ServiceFilter}
    (read : asRequest message = some request) :
    message.metaMap[typeKey]? = some serviceDiscStart ∨
      message.metaMap[typeKey]? = some serviceDiscStop := by
  unfold asRequest at read
  split at read
  next start => exact .inl start
  next =>
    split at read
    next stop => exact .inr stop
    next => cases read

theorem type_of_asNotice {message : Message} {notice : CString × Update CString}
    (read : asNotice message = some notice) :
    Exists fun found : Bool => message.metaMap[typeKey]? = some (noticeType found) := by
  unfold asNotice at read
  split at read
  next found => exact ⟨true, found⟩
  next =>
    split at read
    next removed => exact ⟨false, removed⟩
    next => cases read

section

variable (publisher : DataPublisher) (procUUID : CString)

/-- The transport only writes three fields. -/
theorem getElem?_delivered_of_ne (message : Message) {key : CString}
    (own : key ∉ [Message.procKey, Message.publisherKey, Message.channelKey]) :
    (ZeroMQSubscriber.delivered publisher procUUID message).metaMap[key]? = message.metaMap[key]? := by
  simp only [List.mem_cons, List.not_mem_nil, or_false, not_or] at own
  obtain ⟨notProc, notPublisher, notChannel⟩ := own
  rw [ZeroMQSubscriber.getElem?_delivered, ZeroMQSubscriber.getElem?_complete, if_neg notProc,
    if_neg notPublisher, if_neg notChannel, Option.or_none]

private theorem getElem?_delivered_key (message : Message) (key : MessageKey)
    (own : key ∉ [.proc, .publisher, .channel]) :
    (ZeroMQSubscriber.delivered publisher procUUID message).metaMap[key.text]? =
      message.metaMap[key.text]? := by
  apply getElem?_delivered_of_ne
  simp only [List.mem_cons, List.not_mem_nil, or_false, not_or] at own ⊢
  exact ⟨key.text_ne .proc own.1, key.text_ne .publisher own.2.1, key.text_ne .channel own.2.2⟩

theorem ofMessage_delivered (message : Message) :
    ServiceFilter.ofMessage (ZeroMQSubscriber.delivered publisher procUUID message) =
      .ofMessage message := by
  apply ServiceFilter.ofMessage_congr
  intro key known
  apply getElem?_delivered_of_ne
  intro own
  simp only [List.mem_cons, List.not_mem_nil, or_false] at own
  rcases own with rfl | rfl | rfl
  · exact MessageKey.foreign .proc known
  · exact MessageKey.foreign .publisher known
  · exact MessageKey.foreign .channel known

theorem asRequest_delivered (message : Message) :
    asRequest (ZeroMQSubscriber.delivered publisher procUUID message) = asRequest message := by
  rw [asRequest, asRequest, ofMessage_delivered,
    getElem?_delivered_key publisher procUUID message .type (by decide)]

theorem asNotice_delivered (message : Message) :
    asNotice (ZeroMQSubscriber.delivered publisher procUUID message) = asNotice message := by
  rw [asNotice, asNotice, ExtTreeMap.getD_eq_getD_getElem?, ExtTreeMap.getD_eq_getD_getElem?,
    ExtTreeMap.getD_eq_getD_getElem?, ExtTreeMap.getD_eq_getD_getElem?,
    getElem?_delivered_key publisher procUUID message .type (by decide),
    getElem?_delivered_key publisher procUUID message .filterId (by decide),
    getElem?_delivered_key publisher procUUID message .descChannel (by decide)]

end

/-! ## What a manager sends -/

/-- The notice that is sent, if it is one. -/
def ManagerEffect.notice : ManagerEffect -> Option (CString × Update CString)
  | .send message => asNotice message
  | _ => none

/-- What a listener is told about a query. -/
def ManagerEffect.call : ManagerEffect -> Option (CString × Update CString)
  | .send _ => none
  | .added filterId _ description => some (filterId, .add description.desc.channelName)
  | .removed filterId _ description => some (filterId, .remove description.desc.channelName)

namespace ServiceManager

theorem ofMessage_queryMessage (type : CString) (filter : ServiceFilter) :
    .ofMessage (queryMessage type filter) = filter := by
  rw [queryMessage, ServiceFilter.ofMessage_setMeta _ (MessageKey.foreign .type),
    ServiceFilter.ofMessage_toMessage]

theorem asRequest_start_queryMessage (filter : ServiceFilter) :
    asRequest (queryMessage serviceDiscStart filter) = some (filter.uuid, some filter) := by
  rw [asRequest_start ExtTreeMap.getElem?_insert_self, ofMessage_queryMessage]

theorem asRequest_stop_queryMessage (filter : ServiceFilter) :
    asRequest (queryMessage serviceDiscStop filter) = some (filter.uuid, none) := by
  rw [asRequest_stop ExtTreeMap.getElem?_insert_self, ofMessage_queryMessage]

/-- A query is sent to a new subscriber as it was sent to all others. -/
theorem asRequest_welcome (filter : ServiceFilter) (subId : CString) :
    asRequest ((queryMessage serviceDiscStart filter).setMeta Message.subscriberKey subId) =
      some (filter.uuid, some filter) := by
  rw [asRequest_start, ServiceFilter.ofMessage_setMeta _ (MessageKey.foreign .subscriber),
    ofMessage_queryMessage]
  rw [Message.setMeta, Table.getElem?_insert_eq,
    if_neg (MessageKey.text_ne .type .subscriber (by decide))]
  exact ExtTreeMap.getElem?_insert_self

theorem asNotice_noticeMessage (found : Bool) (filterId : CString) (desc : ServiceDescription) :
    asNotice (noticeMessage (noticeType found) filterId desc) =
      some (filterId, noticeUpdate found desc.channelName) := by
  have type : (noticeMessage (noticeType found) filterId desc).metaMap[typeKey]? =
      some (noticeType found) := by
    rw [noticeMessage, Message.setMeta, Table.getElem?_insert_eq,
      if_neg (MessageKey.text_ne .type .descChannel (by decide))]
    exact ExtTreeMap.getElem?_insert_self
  have owner : (noticeMessage (noticeType found) filterId desc).metaMap[filterIdKey]? =
      some filterId := by
    rw [noticeMessage, Message.setMeta, Table.getElem?_insert_eq,
      if_neg (MessageKey.text_ne .filterId .descChannel (by decide)), Message.setMeta,
      Table.getElem?_insert_eq, if_neg (MessageKey.text_ne .filterId .type (by decide))]
    exact ExtTreeMap.getElem?_insert_self
  have channel : (noticeMessage (noticeType found) filterId desc).metaMap[descChannelKey]? =
      some desc.channelName := ExtTreeMap.getElem?_insert_self
  rw [asNotice_of_type type, ExtTreeMap.getD_eq_getD_getElem?, ExtTreeMap.getD_eq_getD_getElem?,
    owner, channel]
  rfl

section

variable (holds : Rule -> CString -> Bool)

theorem alike_notify (type : CString) (filter : ServiceFilter) (desc : ServiceDescription) :
    desc.Alike (notify holds type filter desc).1 :=
  filter.alike_matches desc

/-- One notice is sent if the filter matches. -/
theorem notice_notify (found : Bool) (filter : ServiceFilter) (desc : ServiceDescription) :
    (notify holds (noticeType found) filter desc).2.filterMap ManagerEffect.notice =
      if (filter.matches holds desc).1 then [(filter.uuid, noticeUpdate found desc.channelName)]
      else [] := by
  rw [notify]
  split
  · have sent := asNotice_noticeMessage found filter.uuid (filter.matches holds desc).2
    rw [← (filter.alike_matches desc).channelName] at sent
    exact List.filterMap_cons_some sent
  · rfl

/-- Nothing but notices is sent. -/
theorem isSome_notice_notify {found : Bool} {filter : ServiceFilter} {desc : ServiceDescription}
    {effect : ManagerEffect} (member : effect ∈ (notify holds (noticeType found) filter desc).2) :
    (ManagerEffect.notice effect).isSome = true := by
  rw [notify] at member
  split at member
  · rw [List.mem_singleton.mp member, ManagerEffect.notice, asNotice_noticeMessage]
    rfl
  · cases member

theorem alike_notifyAll (type : CString) (filters : List (CString × ServiceFilter))
    (desc : ServiceDescription) : desc.Alike (notifyAll holds type filters desc).1 := by
  refine invariant_of_run (fun other => desc.Alike other) ?_ (.refl desc)
    (admits_true _ desc filters)
  intro other query alike _
  exact alike.trans (alike_notify holds type query.2 other)

/-- The notices that are sent when a service appears or disappears. -/
theorem notice_notifyAll (found : Bool) (filters : List (CString × ServiceFilter))
    (desc : ServiceDescription) :
    (notifyAll holds (noticeType found) filters desc).2.filterMap ManagerEffect.notice =
      filters.filterMap fun query => if (query.2.matches holds desc).1 then
        some (query.2.uuid, noticeUpdate found desc.channelName) else none := by
  induction filters generalizing desc with
  | nil => rfl
  | cons query rest ih =>
      have alike := alike_notify holds (noticeType found) query.2 desc
      have later := ih (notify holds (noticeType found) query.2 desc).1
      simp only [← ServiceFilter.matches_of_alike alike, ← alike.channelName] at later
      rw [notifyAll, run, List.filterMap_append, notice_notify, List.filterMap_cons]
      rw [notifyAll] at later
      rw [later]
      split <;> rfl

theorem isSome_notice_notifyAll (found : Bool) {filters : List (CString × ServiceFilter)}
    {desc : ServiceDescription} {effect : ManagerEffect}
    (member : effect ∈ (notifyAll holds (noticeType found) filters desc).2) :
    (ManagerEffect.notice effect).isSome = true := by
  refine outputs_of_run (fun _ => True) (fun effect => (ManagerEffect.notice effect).isSome = true)
    (fun _ _ _ _ => trivial) ?_ trivial (admits_true _ desc filters) effect member
  intro other query _ _ effect sent
  exact isSome_notice_notify holds sent

/-! ## The services of a manager -/

/-- Some service on the channel matches the filter. -/
def Offers (manager : ServiceManager) (filter : ServiceFilter) (channel : CString) : Prop :=
  Exists fun service : Nat => Exists fun desc : ServiceDescription =>
    manager.services[service]? = some desc ∧ desc.channelName = channel ∧ filter.Accepts holds desc

/-- The channels that are found for a filter. -/
def offered (manager : ServiceManager) (filter : ServiceFilter) : List CString :=
  (manager.findLocal holds filter).2.map fun entry => entry.2.channelName

theorem mem_offered {manager : ServiceManager} {filter : ServiceFilter} {channel : CString} :
    channel ∈ manager.offered holds filter <-> manager.Offers holds filter channel := by
  simp only [offered, List.mem_map, mem_findLocal]
  constructor
  · rintro ⟨⟨service, _⟩, ⟨desc, stored, accepted, rfl⟩, rfl⟩
    exact ⟨service, desc, stored, (filter.alike_matches desc).channelName,
      (filter.matches_iff desc).mp accepted⟩
  · rintro ⟨service, desc, stored, rfl, accepted⟩
    exact ⟨(service, (filter.matches holds desc).2),
      ⟨desc, stored, (filter.matches_iff desc).mpr accepted, rfl⟩,
      (filter.alike_matches desc).channelName.symm⟩

end

private theorem rel_alike_symm {first second : Option ServiceDescription}
    (related : Option.Rel ServiceDescription.Alike first second) :
    Option.Rel ServiceDescription.Alike second first := by
  cases related with
  | none => exact .none
  | some alike => exact .some alike.symm

private theorem rel_alike_trans {first second third : Option ServiceDescription}
    (left : Option.Rel ServiceDescription.Alike first second)
    (right : Option.Rel ServiceDescription.Alike second third) :
    Option.Rel ServiceDescription.Alike first third := by
  cases left with
  | none => exact right
  | some alike =>
      cases right with
      | some other => exact .some (alike.trans other)

/-- The same services, with descriptions that nobody can tell apart. -/
def SameServices (first second : Table Nat ServiceDescription) : Prop :=
  forall service : Nat, Option.Rel ServiceDescription.Alike first[service]? second[service]?

namespace SameServices

variable {first second third : Table Nat ServiceDescription}

theorem refl (services : Table Nat ServiceDescription) : SameServices services services := by
  intro service
  cases services[service]? with
  | none => exact .none
  | some desc => exact .some (.refl desc)

theorem symm (same : SameServices first second) : SameServices second first :=
  fun service => rel_alike_symm (same service)

theorem trans (left : SameServices first second) (right : SameServices second third) :
    SameServices first third :=
  fun service => rel_alike_trans (left service) (right service)

/-- A description is replaced by one that nobody can tell from it. -/
theorem insert (same : SameServices first second) {service : Nat} {desc touched : ServiceDescription}
    (stored : first[service]? = some desc) (alike : desc.Alike touched) :
    SameServices first (second.insert service touched) := by
  intro other
  rw [Table.getElem?_insert_eq]
  split
  next here =>
    rw [here, stored]
    exact .some alike
  next => exact same other

/-- Every description is looked at. -/
theorem map (services : Table Nat ServiceDescription)
    (touch : Nat -> ServiceDescription -> ServiceDescription)
    (alike : forall (service : Nat) (desc : ServiceDescription), desc.Alike (touch service desc)) :
    SameServices services (services.map touch) := by
  intro service
  rw [ExtTreeMap.getElem?_map]
  cases services[service]? with
  | none => exact .none
  | some desc => exact .some (alike service desc)

/-- A service on one side is there on the other. -/
theorem stored (same : SameServices first second) {service : Nat} {desc : ServiceDescription}
    (held : second[service]? = some desc) :
    Exists fun other => first[service]? = some other ∧ other.Alike desc := by
  have related := same service
  rw [held] at related
  cases found : first[service]? with
  | none =>
      rw [found] at related
      cases related
  | some other =>
      rw [found] at related
      cases related with
      | some alike => exact ⟨other, rfl, alike⟩

end SameServices

section

variable {holds : Rule -> CString -> Bool}

private theorem offers_of_same {first second : ServiceManager} {filter : ServiceFilter}
    {channel : CString} (same : SameServices first.services second.services)
    (offers : first.Offers holds filter channel) : second.Offers holds filter channel := by
  obtain ⟨service, desc, stored, named, accepted⟩ := offers
  obtain ⟨other, held, alike⟩ := same.symm.stored stored
  exact ⟨service, other, held, alike.channelName.trans named,
    (ServiceFilter.accepts_of_alike alike).mpr accepted⟩

theorem SameServices.offers_iff {first second : ServiceManager}
    (same : SameServices first.services second.services) (filter : ServiceFilter) (channel : CString) :
    first.Offers holds filter channel <-> second.Offers holds filter channel :=
  ⟨offers_of_same same, offers_of_same same.symm⟩

/-- No two services share a channel. -/
def DistinctChannels (services : Table Nat ServiceDescription) : Prop :=
  forall (service other : Nat) (desc desc' : ServiceDescription),
    services[service]? = some desc -> services[other]? = some desc' ->
      desc.channelName = desc'.channelName -> service = other

namespace DistinctChannels

variable {services : Table Nat ServiceDescription}

theorem insert (distinct : DistinctChannels services) {service : Nat} {desc : ServiceDescription}
    (own : forall (other : Nat) (found : ServiceDescription), services[other]? = some found ->
      found.channelName = desc.channelName -> other = service) :
    DistinctChannels (services.insert service desc) := by
  intro first second left right leftStored rightStored same
  rw [Table.getElem?_insert_eq] at leftStored rightStored
  split at leftStored
  next here =>
    cases leftStored
    split at rightStored
    next there => rw [here, there]
    next => rw [here, own second right rightStored same.symm]
  next =>
    split at rightStored
    next there =>
      cases rightStored
      rw [there, own first left leftStored same]
    next => exact distinct first second left right leftStored rightStored same

theorem erase (distinct : DistinctChannels services) (service : Nat) :
    DistinctChannels (services.erase service) := by
  intro first second left right leftStored rightStored same
  rw [Table.getElem?_erase_eq] at leftStored rightStored
  split at leftStored
  next => cases leftStored
  next =>
    split at rightStored
    next => cases rightStored
    next => exact distinct first second left right leftStored rightStored same

theorem of_same (distinct : DistinctChannels services) {touched : Table Nat ServiceDescription}
    (same : SameServices services touched) : DistinctChannels touched := by
  intro first second left right leftStored rightStored shared
  obtain ⟨left', leftBefore, leftAlike⟩ := same.stored leftStored
  obtain ⟨right', rightBefore, rightAlike⟩ := same.stored rightStored
  apply distinct first second left' right' leftBefore rightBefore
  rw [leftAlike.channelName, rightAlike.channelName, shared]

end DistinctChannels

section

variable {manager : ServiceManager} {service : Nat} {desc : ServiceDescription}

theorem offers_insert (absent : manager.services[service]? = none) (filter : ServiceFilter)
    (channel : CString) :
    { manager with services := manager.services.insert service desc }.Offers holds filter channel <->
      (filter.Accepts holds desc ∧ desc.channelName = channel) ∨
        manager.Offers holds filter channel := by
  simp only [Offers, Table.getElem?_insert_eq]
  constructor
  · rintro ⟨other, found, stored, named, accepted⟩
    split at stored
    next =>
      cases stored
      exact .inl ⟨accepted, named⟩
    next => exact .inr ⟨other, found, stored, named, accepted⟩
  · rintro (⟨accepted, named⟩ | ⟨other, found, stored, named, accepted⟩)
    · exact ⟨service, desc, if_pos rfl, named, accepted⟩
    · refine ⟨other, found, ?_, named, accepted⟩
      rw [if_neg, stored]
      rintro rfl
      cases absent.symm.trans stored

variable (stored : manager.services[service]? = some desc)
  (distinct : DistinctChannels manager.services)

include stored distinct

/-- What is on the channel of a service is the service. -/
theorem accepts_iff_offers (filter : ServiceFilter) :
    filter.Accepts holds desc <-> manager.Offers holds filter desc.channelName := by
  constructor
  · intro accepted
    exact ⟨service, desc, stored, rfl, accepted⟩
  · rintro ⟨other, found, held, named, accepted⟩
    cases distinct other service found desc held stored named
    cases stored.symm.trans held
    exact accepted

theorem offers_erase (filter : ServiceFilter) (channel : CString) :
    { manager with services := manager.services.erase service }.Offers holds filter channel <->
      desc.channelName ≠ channel ∧ manager.Offers holds filter channel := by
  simp only [Offers, Table.getElem?_erase_eq]
  constructor
  · rintro ⟨other, found, held, named, accepted⟩
    split at held
    next => cases held
    next different =>
      refine ⟨?_, other, found, held, named, accepted⟩
      intro same
      exact different (distinct other service found desc held stored (named.trans same.symm))
  · rintro ⟨elsewhere, other, found, held, named, accepted⟩
    refine ⟨other, found, ?_, named, accepted⟩
    rw [if_neg, held]
    rintro rfl
    cases stored.symm.trans held
    exact elsewhere named

end

/-! ## Answering the start of a query -/

variable (holds) (manager : ServiceManager) (message : Message)

theorem remoteQueries_answerStart :
    (manager.answerStart holds message).1.remoteQueries =
      manager.remoteQueries.insert (ServiceFilter.ofMessage message).uuid (.ofMessage message) := rfl

/-- The descriptions have been looked at, once to find them and once more to
notify about them. -/
theorem sameServices_answerStart :
    SameServices manager.services (manager.answerStart holds message).1.services := by
  let filter := ServiceFilter.ofMessage message
  have looked : SameServices manager.services
      (manager.services.map fun _ desc => (filter.matches holds desc).2) :=
    .map _ _ fun _ desc => filter.alike_matches desc
  have admitted : Admits (answerEntry holds filter)
      (fun _ entry => (manager.services.map fun _ desc => (filter.matches holds desc).2)[entry.1]? =
        some entry.2)
      (manager.services.map fun _ desc => (filter.matches holds desc).2)
      (manager.findLocal holds filter).2 := by
    apply admits_of_forall
    intro entry member
    obtain ⟨desc, stored, _, found⟩ := (mem_findLocal holds).mp member
    rw [ExtTreeMap.getElem?_map, stored, found]
    rfl
  refine looked.trans (invariant_of_run (SameServices _) ?_ (.refl _) admitted)
  intro services entry same stored
  exact same.insert stored (alike_notify holds serviceDiscFound filter entry.2)

private theorem effects_answerStart :
    (manager.answerStart holds message).2 =
      (manager.findLocal holds (.ofMessage message)).2.flatMap fun entry =>
        (notify holds (noticeType true) (.ofMessage message) entry.2).2 := by
  have emitted : forall services entry,
      (answerEntry holds (.ofMessage message) services entry).2 =
        (notify holds (noticeType true) (.ofMessage message) entry.2).2 := fun _ _ => rfl
  exact outputs_eq_flatMap _ emitted _ _

/-- There is one notice for every service that is found. -/
theorem notice_answerStart :
    (manager.answerStart holds message).2.filterMap ManagerEffect.notice =
      (manager.offered holds (.ofMessage message)).map fun channel =>
        ((ServiceFilter.ofMessage message).uuid, .add channel) := by
  let filter := ServiceFilter.ofMessage message
  rw [effects_answerStart, List.filterMap_flatMap, offered, List.map_map, List.map_eq_flatMap]
  apply List.flatMap_congr
  intro entry member
  obtain ⟨desc, _, accepted, found⟩ := (mem_findLocal holds).mp member
  have again : (filter.matches holds entry.2).1 = true := by
    rw [found, ← ServiceFilter.matches_of_alike (filter.alike_matches desc)]
    exact accepted
  exact (notice_notify holds true filter entry.2).trans (if_pos again)

theorem isSome_notice_answerStart {effect : ManagerEffect}
    (member : effect ∈ (manager.answerStart holds message).2) :
    (ManagerEffect.notice effect).isSome = true := by
  rw [effects_answerStart] at member
  obtain ⟨entry, _, sent⟩ := List.mem_flatMap.mp member
  exact isSome_notice_notify holds sent

end

/-! ## Taking a notice -/

/-- Descriptions are stored under their channels. -/
def Filed (manager : ServiceManager) : Prop :=
  forall (channel : CString) (description : RemoteDescription),
    manager.remoteSvcDesc[channel]? = some description -> description.desc.channelName = channel

theorem Filed.describe {manager : ServiceManager} (filed : manager.Filed) (message : Message) :
    (manager.describe (message.metaMap.getD descChannelKey .empty) message).1.desc.channelName =
      message.metaMap.getD descChannelKey .empty := by
  rcases manager.describe_cases (message.metaMap.getD descChannelKey .empty) with
    ⟨known, _⟩ | ⟨_, new, _⟩
  · exact filed _ _ known
  · rw [new]
    exact ServiceDescription.channelName_ofMessage message

/-- A notice leads to one call of the listener of its query, if it has one. -/
theorem receive_asNotice (holds : Rule -> CString -> Bool) {manager : ServiceManager}
    {message : Message} {owner : CString} {update : Update CString}
    (read : asNotice message = some (owner, update)) (filed : manager.Filed) :
    Exists fun next : ServiceManager => Exists fun calls : List ManagerEffect =>
      manager.receive holds message = (next, calls) ∧ next.localQueries = manager.localQueries ∧
        next.Filed ∧
        calls.filterMap ManagerEffect.call =
          (if owner ∈ manager.localQueries then [(owner, update)] else []) ∧
        forall effect, effect ∈ calls -> (ManagerEffect.call effect).isSome = true := by
  obtain ⟨found, type⟩ := type_of_asNotice read
  let replied : ServiceManager := { manager with calls := manager.calls.receive message message }
  have received : manager.receive holds message = replied.takeNotice found message :=
    receive_notice type
  cases (asNotice_of_type type).symm.trans read
  cases asked : manager.localQueries[message.metaMap.getD filterIdKey .empty]? with
  | none =>
      have ignored : replied.takeNotice found message = (replied, []) := takeNotice_of_none asked
      refine ⟨replied, [], received.trans ignored, rfl, filed, ?_, fun _ member => by cases member⟩
      rw [if_neg (Table.not_mem_of_getElem? asked)]
      rfl
  | some query =>
      have present : message.metaMap.getD filterIdKey .empty ∈ manager.localQueries :=
        Table.mem_of_getElem? asked
      have described : (replied.describe (message.metaMap.getD descChannelKey .empty)
          message).1.desc.channelName = message.metaMap.getD descChannelKey .empty :=
        Filed.describe (show replied.Filed from filed) message
      rw [if_pos present]
      cases found with
      | true =>
          refine ⟨_, _, received.trans (takeNotice_of_some asked), rfl, ?_, ?_, ?_⟩
          · intro channel description held
            rw [if_pos rfl, Table.getElem?_insert_eq] at held
            split at held
            next same =>
              cases held
              exact described.trans same.symm
            next => exact filed channel description held
          · exact List.filterMap_cons_some (congrArg (fun name => some (_, Update.add name)) described)
          · intro effect member
            rw [List.mem_singleton.mp member]
            rfl
      | false =>
          refine ⟨_, _, received.trans (takeNotice_of_some asked), rfl, ?_, ?_, ?_⟩
          · intro channel description held
            rw [if_neg Bool.false_ne_true, Table.getElem?_erase_eq] at held
            split at held
            next => cases held
            next => exact filed channel description held
          · exact List.filterMap_cons_some (congrArg (fun name => some (_, Update.remove name)) described)
          · intro effect member
            rw [List.mem_singleton.mp member]
            rfl

end ServiceManager

end Rpc
end Umundo
