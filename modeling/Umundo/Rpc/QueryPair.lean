import Umundo.Foundation.OpenQuery
import Umundo.Rpc.QueryMessages

namespace Umundo
namespace Rpc

open Foundation Std Connection

/-!
# Two service managers and a continuous query

One manager, the asker, starts and stops queries; the other, the host, has
services that come and go.  What they publish is lost until they are connected.
The connection is made in one step, in which the asker welcomes the subscriber of
the host; from then on messages arrive in order in both directions.

The state of the pair is looked at one query at a time: `row` is an open query in
the sense of the library, and every step of the pair is one of its events for the
query concerned, and for the others nothing or a change of the services.
-/

/-- How rules are evaluated, and who publishes. -/
structure QuerySetting where
  holds : Rule -> CString -> Bool
  askerPublisher : DataPublisher
  askerProc : CString
  hostPublisher : DataPublisher
  hostProc : CString
  /-- the uuid of the host's subscriber -/
  hostSubscriber : CString

structure QueryPair where
  asker : ServiceManager
  host : ServiceManager
  connected : Bool
  toHost : List Message
  toAsker : List Message
  /-- the calls of listeners so far -/
  calls : List ManagerEffect
  /-- the uuids of all filters that were ever started -/
  started : Keys CString

inductive QueryEvent where
  | startQuery (filter : ServiceFilter) (listener : Nat)
  | stopQuery (filter : ServiceFilter)
  | addService (service : Nat) (channelName : CString) (desc : ServiceDescription)
  | removeService (service : Nat)
  | connect
  | deliverToHost
  | deliverToAsker

/-- The messages among some effects, as they arrive. -/
def transmit (publisher : DataPublisher) (procUUID : CString) (effects : List ManagerEffect) :
    List Message :=
  effects.filterMap fun effect => match effect with
    | .send message => some (ZeroMQSubscriber.delivered publisher procUUID message)
    | _ => none

namespace QueryPair

variable (setting : QuerySetting)

def init : QueryPair := ⟨.init, .init, false, [], [], [], ∅⟩

/-- The asker has done something. -/
def asks (pair : QueryPair) (done : ServiceManager × List ManagerEffect) : QueryPair :=
  { pair with
    asker := done.1
    toHost := if pair.connected then
        pair.toHost ++ transmit setting.askerPublisher setting.askerProc done.2
      else pair.toHost }

/-- The host has done something. -/
def answers (pair : QueryPair) (done : ServiceManager × List ManagerEffect) : QueryPair :=
  { pair with
    host := done.1
    toAsker := if pair.connected then
        pair.toAsker ++ transmit setting.hostPublisher setting.hostProc done.2
      else pair.toAsker }

/-- One event, and the calls of listeners it leads to. -/
def step (pair : QueryPair) : QueryEvent -> QueryPair × List ManagerEffect
  | .startQuery filter listener =>
      ({ pair.asks setting (pair.asker.startQuery filter listener) with
          started := pair.started.insert filter.uuid }, [])
  | .stopQuery filter => (pair.asks setting (pair.asker.stopQuery filter), [])
  | .addService service channelName desc =>
      (pair.answers setting (pair.host.addService setting.holds service channelName desc), [])
  | .removeService service =>
      (pair.answers setting (pair.host.removeService setting.holds service), [])
  | .connect =>
      if pair.connected then (pair, [])
      else
        let opened := { pair with connected := true }
        (opened.asks setting (pair.asker, pair.asker.welcome setting.hostSubscriber), [])
  | .deliverToHost =>
      match pair.toHost with
      | [] => (pair, [])
      | message :: rest =>
          ({ pair with toHost := rest }.answers setting (pair.host.receive setting.holds message), [])
  | .deliverToAsker =>
      match pair.toAsker with
      | [] => (pair, [])
      | message :: rest =>
          let received := pair.asker.receive setting.holds message
          let called := received.2.filter fun effect => match effect with
            | .send _ => false
            | _ => true
          ({ pair with toAsker := rest, calls := pair.calls ++ called }.asks setting received, called)

/-- A filter is started at most once, and a service has a channel of its own: both
carry fresh uuids. -/
def Allowed (pair : QueryPair) : QueryEvent -> Prop
  | .startQuery filter _ => filter.uuid ∉ pair.started
  | .addService service channelName _ => forall (other : Nat) (desc : ServiceDescription),
      pair.host.services[other]? = some desc -> desc.channelName = channelName -> other = service
  | _ => True

end QueryPair

/-! ## One query -/

/-- The request that is sent, if it is one. -/
def ManagerEffect.request : ManagerEffect -> Option (CString × Option ServiceFilter)
  | .send message => asRequest message
  | _ => none

/-- The entries for one query. -/
def about {V : Type} (uuid : CString) (entries : List (CString × V)) : List V :=
  entries.filterMap fun entry => if entry.1 = uuid then some entry.2 else none

section

variable {V : Type} (uuid : CString)

theorem about_append (first second : List (CString × V)) :
    about uuid (first ++ second) = about uuid first ++ about uuid second :=
  List.filterMap_append

theorem about_cons (entry : CString × V) (rest : List (CString × V)) :
    about uuid (entry :: rest) =
      if entry.1 = uuid then entry.2 :: about uuid rest else about uuid rest := by
  rw [about, List.filterMap_cons]
  split <;> simp_all [about]

/-- Several entries for the same query. -/
theorem about_map (owner : CString) (values : List V) :
    about uuid (values.map fun value => (owner, value)) = if owner = uuid then values else [] := by
  induction values with
  | nil => split <;> rfl
  | cons value rest ih =>
      rw [List.map_cons, about_cons, ih]
      split <;> rfl

/-- A table of queries, of which some contribute an entry, has one entry at most for
each. -/
theorem about_toList {Query : Type} (queries : Table CString Query) (owner : Query -> CString)
    (value : Query -> Option V)
    (named : forall (key : CString) (query : Query), queries[key]? = some query -> owner query = key) :
    about uuid (queries.toList.filterMap fun entry =>
        (value entry.2).map fun value => (owner entry.2, value)) =
      (queries[uuid]?.bind value).toList := by
  have only := Table.filterMap_toList_of_ne queries uuid
    (fun entry => if entry.1 = uuid then value entry.2 else none)
    fun _ _ different => if_neg different
  simp only [if_true] at only
  rw [about, List.filterMap_filterMap, ← only]
  apply List.filterMap_congr
  rintro ⟨key, query⟩ member
  rw [named key query (ExtTreeMap.mem_toList_iff_getElem?_eq_some.mp member)]
  cases value query with
  | none => simp
  | some found => simp

end

section

variable (publisher : DataPublisher) (procUUID : CString) (effects : List ManagerEffect)

theorem asRequest_transmit :
    (transmit publisher procUUID effects).filterMap asRequest =
      effects.filterMap ManagerEffect.request := by
  rw [transmit, List.filterMap_filterMap]
  apply List.filterMap_congr
  intro effect _
  cases effect with
  | send message => exact asRequest_delivered publisher procUUID message
  | added => rfl
  | removed => rfl

theorem asNotice_transmit :
    (transmit publisher procUUID effects).filterMap asNotice =
      effects.filterMap ManagerEffect.notice := by
  rw [transmit, List.filterMap_filterMap]
  apply List.filterMap_congr
  intro effect _
  cases effect with
  | send message => exact asNotice_delivered publisher procUUID message
  | added => rfl
  | removed => rfl

end

namespace QueryPair

/-- The listener of a query was told that a channel appeared, and not that it
disappeared afterwards. -/
def told (pair : QueryPair) (uuid : CString) : CString -> Prop :=
  replay (fun _ => False) (about uuid (pair.calls.filterMap ManagerEffect.call))

/-- What concerns one query. -/
def row (setting : QuerySetting) (pair : QueryPair) (uuid : CString) :
    OpenQuery ServiceFilter CString where
  connected := pair.connected
  asked := pair.asker.localQueries[uuid]?.map Prod.fst
  held := pair.host.remoteQueries[uuid]?
  requests := about uuid (pair.toHost.filterMap asRequest)
  notices := about uuid (pair.toAsker.filterMap asNotice)
  told := pair.told uuid
  matching := pair.host.Offers setting.holds

section

variable {setting : QuerySetting} {pair : QueryPair}

theorem row_asks (setting : QuerySetting) (pair : QueryPair)
    (done : ServiceManager × List ManagerEffect) (uuid : CString) :
    (pair.asks setting done).row setting uuid =
      { pair.row setting uuid with
        asked := done.1.localQueries[uuid]?.map Prod.fst
        requests := if pair.connected then (pair.row setting uuid).requests ++
            about uuid (done.2.filterMap ManagerEffect.request)
          else (pair.row setting uuid).requests } := by
  refine OpenQuery.ext rfl rfl rfl ?_ rfl rfl rfl
  change about uuid (List.filterMap asRequest (if pair.connected then _ else _)) = _
  split
  · rw [List.filterMap_append, about_append, asRequest_transmit]
    rfl
  · rfl

theorem row_answers (setting : QuerySetting) (pair : QueryPair)
    (done : ServiceManager × List ManagerEffect) (uuid : CString) :
    (pair.answers setting done).row setting uuid =
      { pair.row setting uuid with
        held := done.1.remoteQueries[uuid]?
        notices := if pair.connected then (pair.row setting uuid).notices ++
            about uuid (done.2.filterMap ManagerEffect.notice)
          else (pair.row setting uuid).notices
        matching := done.1.Offers setting.holds } := by
  refine OpenQuery.ext rfl rfl rfl rfl ?_ rfl rfl
  change about uuid (List.filterMap asNotice (if pair.connected then _ else _)) = _
  split
  · rw [List.filterMap_append, about_append, asNotice_transmit]
    rfl
  · rfl

/-- The other queries do not notice. -/
theorem row_asks_other {done : ServiceManager × List ManagerEffect} {uuid : CString}
    (queries : done.1.localQueries[uuid]? = pair.asker.localQueries[uuid]?)
    (silent : about uuid (done.2.filterMap ManagerEffect.request) = []) :
    (pair.asks setting done).row setting uuid = pair.row setting uuid := by
  rw [row_asks, queries, silent, List.append_nil, ite_self]
  rfl

theorem row_answers_other {done : ServiceManager × List ManagerEffect} {uuid : CString}
    (queries : done.1.remoteQueries[uuid]? = pair.host.remoteQueries[uuid]?)
    (silent : about uuid (done.2.filterMap ManagerEffect.notice) = [])
    (services : ServiceManager.SameServices pair.host.services done.1.services) :
    (pair.answers setting done).row setting uuid = pair.row setting uuid := by
  have matching : done.1.Offers setting.holds = pair.host.Offers setting.holds := by
    funext filter channel
    exact propext (services.offers_iff filter channel).symm
  rw [row_answers, queries, silent, List.append_nil, ite_self, matching]
  rfl

/-! ### Events at the asker -/

theorem row_startQuery (filter : ServiceFilter) (listener : Nat) (uuid : CString) :
    (pair.step setting (.startQuery filter listener)).1.row setting uuid =
      if filter.uuid = uuid then (pair.row setting uuid).start filter
      else pair.row setting uuid := by
  let done := pair.asker.startQuery filter listener
  change (pair.asks setting done).row setting uuid = _
  have sent : done.2.filterMap ManagerEffect.request = [(filter.uuid, some filter)] :=
    List.filterMap_cons_some (ServiceManager.asRequest_start_queryMessage filter)
  have queries : done.1.localQueries[uuid]? =
      if uuid = filter.uuid then some (filter, listener) else pair.asker.localQueries[uuid]? :=
    Table.getElem?_insert_eq _ _ _ _
  split
  next same =>
    rw [row_asks, sent, queries, about_cons, if_pos same, if_pos same.symm]
    rfl
  next different =>
    apply row_asks_other
    · rw [queries, if_neg (Ne.symm different)]
    · rw [sent, about_cons, if_neg different]
      rfl

theorem row_stopQuery (filter : ServiceFilter) (uuid : CString) :
    (pair.step setting (.stopQuery filter)).1.row setting uuid =
      if filter.uuid = uuid then (pair.row setting uuid).stop else pair.row setting uuid := by
  let done := pair.asker.stopQuery filter
  change (pair.asks setting done).row setting uuid = _
  cases held : pair.asker.localQueries[filter.uuid]? with
  | none =>
      have nothing : done = (pair.asker, []) := if_neg (Table.not_mem_of_getElem? held)
      rw [nothing, row_asks_other rfl rfl]
      split
      next same =>
        have unasked : (pair.row setting uuid).asked = none := by
          rw [← same]
          exact Option.map_eq_none_iff.mpr held
        rw [OpenQuery.stop, unasked]
      next => rfl
  | some query =>
      have present : filter.uuid ∈ pair.asker.localQueries :=
        Table.mem_of_getElem? held
      have stopped : done = ({ pair.asker with
            localQueries := pair.asker.localQueries.erase filter.uuid },
          [.send (ServiceManager.queryMessage serviceDiscStop filter)]) := if_pos present
      have sent : done.2.filterMap ManagerEffect.request = [(filter.uuid, none)] := by
        rw [stopped]
        exact List.filterMap_cons_some (ServiceManager.asRequest_stop_queryMessage filter)
      have queries : done.1.localQueries[uuid]? =
          if uuid = filter.uuid then none else pair.asker.localQueries[uuid]? := by
        rw [stopped]
        exact Table.getElem?_erase_eq _ _ _
      split
      next same =>
        have asked : (pair.row setting uuid).asked = some query.1 := by
          rw [← same]
          exact Option.map_eq_some_iff.mpr ⟨query, held, rfl⟩
        rw [row_asks, sent, queries, about_cons, if_pos same, if_pos same.symm, OpenQuery.stop, asked]
        rfl
      next different =>
        apply row_asks_other
        · rw [queries, if_neg (Ne.symm different)]
        · rw [sent, about_cons, if_neg different]
          rfl

theorem row_connect (setting : QuerySetting) (closed : pair.connected = false)
    (named : forall (key : CString) (query : ServiceFilter × Nat),
      pair.asker.localQueries[key]? = some query -> query.1.uuid = key) (uuid : CString) :
    (pair.step setting .connect).1.row setting uuid = (pair.row setting uuid).connect := by
  let opened : QueryPair := { pair with connected := true }
  let done := (pair.asker, pair.asker.welcome setting.hostSubscriber)
  have stepped : (pair.step setting .connect).1 = opened.asks setting done := by
    rw [step, if_neg (by rw [closed]; exact Bool.false_ne_true)]
  have sent : about uuid (done.2.filterMap ManagerEffect.request) =
      (pair.row setting uuid).asked.toList.map some := by
    have entries : done.2.filterMap ManagerEffect.request =
        pair.asker.localQueries.toList.filterMap fun entry =>
          (some (some entry.2.1)).map fun value => (entry.2.1.uuid, value) := by
      change ((pair.asker.localQueries.toList.map _).filterMap ManagerEffect.request) = _
      rw [List.filterMap_map]
      apply List.filterMap_congr
      intro entry _
      exact ServiceManager.asRequest_welcome entry.2.1 setting.hostSubscriber
    rw [entries, about_toList uuid pair.asker.localQueries (fun query => query.1.uuid)
      (fun query => some (some query.1)) named]
    change _ = (pair.asker.localQueries[uuid]?.map Prod.fst).toList.map some
    cases pair.asker.localQueries[uuid]? <;> rfl
  rw [stepped, row_asks, sent]
  rfl

/-! ### Events at the host -/

/-- Filters are stored under their uuids. -/
def Named (queries : Table CString ServiceFilter) : Prop :=
  forall (key : CString) (filter : ServiceFilter), queries[key]? = some filter -> filter.uuid = key

/-- At most one notice is sent for each query. -/
theorem about_notifyAll (holds : Rule -> CString -> Bool) {queries : Table CString ServiceFilter}
    (named : Named queries) (found : Bool) (desc : ServiceDescription) (uuid : CString) :
    about uuid ((ServiceManager.notifyAll holds (noticeType found) queries.toList desc).2.filterMap
        ManagerEffect.notice) =
      if queries[uuid]?.any (fun filter => (filter.matches holds desc).1) then
        [noticeUpdate found desc.channelName] else [] := by
  have entries := about_toList uuid queries ServiceFilter.uuid
    (fun filter => if (filter.matches holds desc).1 then some (noticeUpdate found desc.channelName)
      else none) named
  rw [ServiceManager.notice_notifyAll]
  refine Eq.trans (congrArg (about uuid) (List.filterMap_congr ?_)) (entries.trans ?_)
  · intro entry _
    split <;> rfl
  · cases queries[uuid]? with
    | none => rfl
    | some filter =>
        rw [Option.bind_some, Option.any_some]
        split <;> rfl

/-- A notice that was sent, as an event of one query. -/
theorem notices_notifyAll (named : Named pair.host.remoteQueries) (found : Bool)
    (desc : ServiceDescription) (uuid : CString) :
    (if pair.connected then (pair.row setting uuid).notices ++
        about uuid ((ServiceManager.notifyAll setting.holds (noticeType found)
          pair.host.remoteQueries.toList desc).2.filterMap ManagerEffect.notice)
      else (pair.row setting uuid).notices) =
      (pair.row setting uuid).notify (fun filter => (filter.matches setting.holds desc).1)
        (noticeUpdate found desc.channelName) := by
  rw [about_notifyAll setting.holds named, OpenQuery.notify]
  change _ = if pair.connected && pair.host.remoteQueries[uuid]?.any _ then _ else _
  cases pair.connected with
  | false => rfl
  | true =>
      rw [Bool.true_and, if_pos rfl]
      split
      · rfl
      · rw [List.append_nil]

theorem row_addService {service : Nat} (absent : service ∉ pair.host.services)
    (named : Named pair.host.remoteQueries) (channelName : CString) (desc : ServiceDescription)
    (uuid : CString) :
    (pair.step setting (.addService service channelName desc)).1.row setting uuid =
      (pair.row setting uuid).insert
        (fun filter => (filter.matches setting.holds { desc with channelName := channelName }).1)
        channelName := by
  let offer : ServiceDescription := { desc with channelName := channelName }
  let done := pair.host.addService setting.holds service channelName desc
  let notified := ServiceManager.notifyAll setting.holds (noticeType true)
    pair.host.remoteQueries.toList offer
  have added : done = ({ pair.host with
      services := pair.host.services.insert service notified.1 }, notified.2) := if_neg absent
  change (pair.answers setting done).row setting uuid = _
  rw [row_answers, added, notices_notifyAll named]
  refine OpenQuery.ext rfl rfl rfl rfl rfl rfl ?_
  funext filter channel
  have alike := ServiceManager.alike_notifyAll setting.holds (noticeType true)
    pair.host.remoteQueries.toList offer
  apply propext
  refine (ServiceManager.offers_insert (ExtTreeMap.getElem?_eq_none absent) filter channel).trans ?_
  rw [← ServiceFilter.accepts_of_alike alike, ← alike.channelName, ← ServiceFilter.matches_iff]
  exact Iff.rfl

/-- A service that is there is not added again. -/
theorem row_addService_again {service : Nat} (present : service ∈ pair.host.services)
    (channelName : CString) (desc : ServiceDescription) :
    (pair.step setting (.addService service channelName desc)).1 =
      pair.answers setting (pair.host, []) :=
  congrArg (pair.answers setting) (if_pos present)

theorem row_removeService (setting : QuerySetting) {service : Nat} {desc : ServiceDescription}
    (stored : pair.host.services[service]? = some desc) (named : Named pair.host.remoteQueries)
    (distinct : ServiceManager.DistinctChannels pair.host.services) (uuid : CString) :
    (pair.step setting (.removeService service)).1.row setting uuid =
      (pair.row setting uuid).remove (fun filter => (filter.matches setting.holds desc).1)
        desc.channelName := by
  let done := pair.host.removeService setting.holds service
  have removed : done = ({ pair.host with services := pair.host.services.erase service },
      (ServiceManager.notifyAll setting.holds (noticeType false) pair.host.remoteQueries.toList
        desc).2) := by
    change pair.host.removeService setting.holds service = _
    rw [ServiceManager.removeService, stored]
    rfl
  change (pair.answers setting done).row setting uuid = _
  rw [row_answers, removed, notices_notifyAll named]
  refine OpenQuery.ext rfl rfl rfl rfl rfl rfl ?_
  funext filter channel
  exact propext (ServiceManager.offers_erase stored distinct filter channel)

/-! ### Deliveries -/

/-- The host is handed a request: it is no longer under way, and the host answers. -/
theorem row_deliverToHost_eq (setting : QuerySetting) {message : Message} {rest : List Message}
    (arrives : pair.toHost = message :: rest) (connected : pair.connected = true)
    {done : ServiceManager × List ManagerEffect}
    (received : pair.host.receive setting.holds message = done)
    (services : ServiceManager.SameServices pair.host.services done.1.services) (uuid : CString) :
    (pair.step setting .deliverToHost).1.row setting uuid =
      { pair.row setting uuid with
        held := done.1.remoteQueries[uuid]?
        requests := about uuid (rest.filterMap asRequest)
        notices := (pair.row setting uuid).notices ++
          about uuid (done.2.filterMap ManagerEffect.notice) } := by
  have stepped : (pair.step setting .deliverToHost).1 =
      { pair with toHost := rest }.answers setting done := by
    rw [step, arrives, ← received]
  have matching : done.1.Offers setting.holds = pair.host.Offers setting.holds := by
    funext filter channel
    exact propext (services.offers_iff filter channel).symm
  rw [stepped, row_answers, matching]
  exact OpenQuery.ext rfl rfl rfl rfl (if_pos connected) rfl rfl

theorem row_deliverToHost (setting : QuerySetting) {message : Message} {rest : List Message}
    (arrives : pair.toHost = message :: rest) (connected : pair.connected = true)
    {owner : CString} {sent : Option ServiceFilter} (read : asRequest message = some (owner, sent))
    (uuid : CString) :
    (pair.step setting .deliverToHost).1.row setting uuid =
      if owner = uuid then (pair.row setting uuid).takeRequest (pair.host.offered setting.holds)
      else pair.row setting uuid := by
  have requests : (pair.row setting uuid).requests =
      if owner = uuid then sent :: about uuid (rest.filterMap asRequest)
      else about uuid (rest.filterMap asRequest) := by
    change about uuid (pair.toHost.filterMap asRequest) = _
    rw [arrives, List.filterMap_cons_some read, about_cons]
  let replied : ServiceManager :=
    { pair.host with calls := pair.host.calls.receive message message }
  rcases type_of_asRequest read with start | stop
  · have received : pair.host.receive setting.holds message =
        replied.answerStart setting.holds message := ServiceManager.receive_start start
    cases (asRequest_start start).symm.trans read
    have queries : (replied.answerStart setting.holds message).1.remoteQueries[uuid]? =
        if uuid = (ServiceFilter.ofMessage message).uuid then some (.ofMessage message)
        else pair.host.remoteQueries[uuid]? := Table.getElem?_insert_eq _ _ _ _
    have notices : about uuid ((replied.answerStart setting.holds message).2.filterMap
          ManagerEffect.notice) =
        if (ServiceFilter.ofMessage message).uuid = uuid then
          (pair.host.offered setting.holds (.ofMessage message)).map .add else [] := by
      rw [ServiceManager.notice_answerStart, ← about_map, List.map_map]
      rfl
    rw [row_deliverToHost_eq setting arrives connected received
      (ServiceManager.sameServices_answerStart setting.holds replied message) uuid]
    split at requests
    next same =>
      rw [if_pos same, OpenQuery.takeRequest_some requests, queries, if_pos same.symm, notices,
        if_pos same]
    next different =>
      rw [if_neg different, ← requests, queries, if_neg (Ne.symm different), notices,
        if_neg different, List.append_nil]
      rfl
  · have received : pair.host.receive setting.holds message = (replied.answerStop message, []) :=
      ServiceManager.receive_stop stop
    cases (asRequest_stop stop).symm.trans read
    have queries : (replied.answerStop message).remoteQueries[uuid]? =
        if uuid = (ServiceFilter.ofMessage message).uuid then none
        else pair.host.remoteQueries[uuid]? := Table.getElem?_erase_eq _ _ _
    rw [row_deliverToHost_eq setting arrives connected received (.refl _) uuid, List.filterMap_nil]
    split at requests
    next same =>
      rw [if_pos same, OpenQuery.takeRequest_none requests, queries, if_pos same.symm]
      exact OpenQuery.ext rfl rfl rfl rfl (List.append_nil _) rfl rfl
    next different =>
      rw [if_neg different, ← requests, queries, if_neg (Ne.symm different)]
      exact OpenQuery.ext rfl rfl rfl rfl (List.append_nil _) rfl rfl

/-- The asker is handed a notice: it is no longer under way, and a listener may be
called. -/
theorem row_deliverToAsker_eq (setting : QuerySetting) {message : Message} {rest : List Message}
    (arrives : pair.toAsker = message :: rest) {next : ServiceManager} {calls : List ManagerEffect}
    (received : pair.asker.receive setting.holds message = (next, calls))
    (queries : next.localQueries = pair.asker.localQueries)
    (unsent : forall effect, effect ∈ calls -> (ManagerEffect.call effect).isSome = true)
    (uuid : CString) :
    (pair.step setting .deliverToAsker).1.row setting uuid =
      { pair.row setting uuid with
        notices := about uuid (rest.filterMap asNotice)
        told := replay (pair.row setting uuid).told
          (about uuid (calls.filterMap ManagerEffect.call)) } := by
  have kept : (calls.filter fun effect => match effect with
      | .send _ => false
      | _ => true) = calls := by
    apply List.filter_eq_self.mpr
    intro effect member
    cases effect with
    | send => exact absurd (unsent _ member) Bool.false_ne_true
    | added => rfl
    | removed => rfl
  have silent : about uuid (calls.filterMap ManagerEffect.request) = [] := by
    rw [List.filterMap_eq_nil_iff.mpr]
    · rfl
    · intro effect member
      cases effect with
      | send => exact absurd (unsent _ member) Bool.false_ne_true
      | added => rfl
      | removed => rfl
  have stepped : (pair.step setting .deliverToAsker).1 =
      { pair with toAsker := rest, calls := pair.calls ++ calls }.asks setting (next, calls) := by
    rw [step, arrives]
    simp only [received, kept]
  rw [stepped, row_asks_other (congrArg (·[uuid]?) queries) silent]
  refine OpenQuery.ext rfl rfl rfl rfl rfl ?_ rfl
  funext channel
  change replay _ (about uuid ((pair.calls ++ calls).filterMap ManagerEffect.call)) channel = _
  rw [List.filterMap_append, about_append]
  exact propext (replay_append _ _ _ channel)

theorem row_deliverToAsker (setting : QuerySetting) {message : Message} {rest : List Message}
    (arrives : pair.toAsker = message :: rest)
    (filed : pair.asker.Filed)
    {owner : CString} {update : Update CString} (read : asNotice message = some (owner, update))
    (uuid : CString) :
    (pair.step setting .deliverToAsker).1.row setting uuid =
      if owner = uuid then (pair.row setting uuid).takeNotice else pair.row setting uuid := by
  have notices : (pair.row setting uuid).notices =
      if owner = uuid then update :: about uuid (rest.filterMap asNotice)
      else about uuid (rest.filterMap asNotice) := by
    change about uuid (pair.toAsker.filterMap asNotice) = _
    rw [arrives, List.filterMap_cons_some read, about_cons]
  obtain ⟨next, calls, received, queries, _, told, called⟩ :=
    ServiceManager.receive_asNotice setting.holds read filed
  rw [row_deliverToAsker_eq setting arrives received queries called uuid, told]
  cases asked : pair.asker.localQueries[owner]? with
  | none =>
      rw [if_neg (Table.not_mem_of_getElem? asked)]
      split at notices
      next same =>
        have unasked : (pair.row setting uuid).asked = none := by
          rw [← same]
          exact Option.map_eq_none_iff.mpr asked
        rw [if_pos same, OpenQuery.takeNotice_of_none notices unasked]
        rfl
      next different =>
        rw [if_neg different, ← notices]
        rfl
  | some query =>
      rw [if_pos (Table.mem_of_getElem? asked), about_cons]
      split at notices
      next same =>
        have stands : (pair.row setting uuid).asked = some query.1 := by
          rw [← same]
          exact Option.map_eq_some_iff.mpr ⟨query, asked, rfl⟩
        rw [if_pos same, if_pos same, OpenQuery.takeNotice_of_some notices stands]
        rfl
      next different =>
        rw [if_neg different, if_neg different, ← notices]
        rfl

end

end QueryPair

end Rpc
end Umundo
