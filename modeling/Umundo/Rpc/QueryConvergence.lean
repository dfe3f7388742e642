import Umundo.Foundation.Machine
import Umundo.Rpc.QueryPair

namespace Umundo
namespace Rpc

open Foundation Std Connection

/-!
# Continuous queries converge

Every query of the asker is in a good state after every step, whatever else the
two managers do.  When nothing is under way, a listener has therefore been told
about exactly the services that match.  A query that was stopped is not started
again, so its listener is never called again.
-/

namespace QueryPair

/-! ## What is stored and what is under way -/

structure Sane (pair : QueryPair) : Prop where
  localNamed : forall (key : CString) (query : ServiceFilter × Nat),
    pair.asker.localQueries[key]? = some query -> query.1.uuid = key
  remoteNamed : Named pair.host.remoteQueries
  distinct : ServiceManager.DistinctChannels pair.host.services
  filed : pair.asker.Filed
  requests : forall message, message ∈ pair.toHost -> (asRequest message).isSome = true
  notices : forall message, message ∈ pair.toAsker -> (asNotice message).isSome = true
  closed : pair.connected = false -> pair.toHost = [] ∧ pair.toAsker = []

section

variable {setting : QuerySetting} {pair : QueryPair} {done : ServiceManager × List ManagerEffect}

theorem mem_transmit {publisher : DataPublisher} {procUUID : CString} {effects : List ManagerEffect}
    {message : Message} (member : message ∈ transmit publisher procUUID effects) :
    Exists fun sent : Message => .send sent ∈ effects ∧
      message = ZeroMQSubscriber.delivered publisher procUUID sent := by
  obtain ⟨effect, listed, arrived⟩ := List.mem_filterMap.mp member
  cases effect with
  | send sent =>
      cases arrived
      exact ⟨sent, listed, rfl⟩
  | added => cases arrived
  | removed => cases arrived

/-- What arrives at the host can be read. -/
theorem Sane.request (sane : pair.Sane) {message : Message} {rest : List Message}
    (arrives : pair.toHost = message :: rest) :
    Exists fun owner => Exists fun sent => asRequest message = some (owner, sent) := by
  obtain ⟨⟨owner, sent⟩, read⟩ := Option.isSome_iff_exists.mp
    (sane.requests message (by rw [arrives]; exact List.mem_cons_self))
  exact ⟨owner, sent, read⟩

theorem Sane.notice (sane : pair.Sane) {message : Message} {rest : List Message}
    (arrives : pair.toAsker = message :: rest) :
    Exists fun owner => Exists fun update => asNotice message = some (owner, update) := by
  obtain ⟨⟨owner, update⟩, read⟩ := Option.isSome_iff_exists.mp
    (sane.notices message (by rw [arrives]; exact List.mem_cons_self))
  exact ⟨owner, update, read⟩

theorem Sane.asks (sane : pair.Sane)
    (named : forall (key : CString) (query : ServiceFilter × Nat),
      done.1.localQueries[key]? = some query -> query.1.uuid = key)
    (filed : done.1.Filed)
    (sent : forall message, .send message ∈ done.2 -> (asRequest message).isSome = true) :
    (pair.asks setting done).Sane where
  localNamed := named
  remoteNamed := sane.remoteNamed
  distinct := sane.distinct
  filed := filed
  requests := by
    intro message member
    change message ∈ (if pair.connected then _ else _) at member
    split at member
    · rcases List.mem_append.mp member with old | new
      · exact sane.requests message old
      · obtain ⟨original, listed, rfl⟩ := mem_transmit new
        rw [asRequest_delivered]
        exact sent original listed
    · exact sane.requests message member
  notices := sane.notices
  closed := by
    intro (closed : pair.connected = false)
    refine ⟨?_, (sane.closed closed).2⟩
    change (if pair.connected then _ else _) = _
    rw [if_neg (by rw [closed]; exact Bool.false_ne_true), (sane.closed closed).1]

theorem Sane.answers (sane : pair.Sane) (named : Named done.1.remoteQueries)
    (distinct : ServiceManager.DistinctChannels done.1.services)
    (sent : forall effect, effect ∈ done.2 -> (ManagerEffect.notice effect).isSome = true) :
    (pair.answers setting done).Sane where
  localNamed := sane.localNamed
  remoteNamed := named
  distinct := distinct
  filed := sane.filed
  requests := sane.requests
  notices := by
    intro message member
    change message ∈ (if pair.connected then _ else _) at member
    split at member
    · rcases List.mem_append.mp member with old | new
      · exact sane.notices message old
      · obtain ⟨original, listed, rfl⟩ := mem_transmit new
        rw [asNotice_delivered]
        exact sent _ listed
    · exact sane.notices message member
  closed := by
    intro (closed : pair.connected = false)
    refine ⟨(sane.closed closed).1, ?_⟩
    change (if pair.connected then _ else _) = _
    rw [if_neg (by rw [closed]; exact Bool.false_ne_true), (sane.closed closed).2]

theorem Sane.startQuery (setting : QuerySetting) (sane : pair.Sane) (filter : ServiceFilter)
    (listener : Nat) :
    (pair.asks setting (pair.asker.startQuery filter listener)).Sane := by
  refine sane.asks ?_ sane.filed ?_
  · intro key query held
    change (pair.asker.localQueries.insert filter.uuid (filter, listener))[key]? = some query at held
    rw [Table.getElem?_insert_eq] at held
    split at held
    next same =>
      cases held
      exact same.symm
    next => exact sane.localNamed key query held
  · intro message member
    cases List.mem_singleton.mp member
    rw [ServiceManager.asRequest_start_queryMessage]
    rfl

theorem Sane.stopQuery (sane : pair.Sane) (filter : ServiceFilter) :
    (pair.asks setting (pair.asker.stopQuery filter)).Sane := by
  rw [ServiceManager.stopQuery]
  split
  · refine sane.asks ?_ sane.filed ?_
    · intro key query held
      dsimp only at held
      rw [Table.getElem?_erase_eq] at held
      split at held
      next => cases held
      next => exact sane.localNamed key query held
    · intro message member
      cases List.mem_singleton.mp member
      rw [ServiceManager.asRequest_stop_queryMessage]
      rfl
  · exact sane.asks sane.localNamed sane.filed fun _ member => by cases member

theorem Sane.welcome (sane : pair.Sane) :
    ({ pair with connected := true }.asks setting
      (pair.asker, pair.asker.welcome setting.hostSubscriber)).Sane := by
  have opened : { pair with connected := true }.Sane :=
    ⟨sane.localNamed, sane.remoteNamed, sane.distinct, sane.filed, sane.requests, sane.notices,
      fun closed => by cases closed⟩
  refine opened.asks sane.localNamed sane.filed ?_
  intro message member
  obtain ⟨query, _, sent⟩ := List.mem_map.mp member
  cases sent
  rw [ServiceManager.asRequest_welcome]
  rfl

theorem Sane.addService (sane : pair.Sane) {service : Nat} {channelName : CString}
    {desc : ServiceDescription} (allowed : pair.Allowed (.addService service channelName desc)) :
    (pair.answers setting
      (pair.host.addService setting.holds service channelName desc)).Sane := by
  rw [ServiceManager.addService]
  split
  · exact sane.answers sane.remoteNamed sane.distinct fun _ member => by cases member
  · have alike := ServiceManager.alike_notifyAll setting.holds serviceDiscFound
      pair.host.remoteQueries.toList { desc with channelName := channelName }
    refine sane.answers sane.remoteNamed (sane.distinct.insert ?_) ?_
    · intro other found stored same
      exact allowed other found stored (same.trans alike.channelName.symm)
    · intro effect member
      exact ServiceManager.isSome_notice_notifyAll setting.holds true member

theorem Sane.removeService (sane : pair.Sane) (service : Nat) :
    (pair.answers setting (pair.host.removeService setting.holds service)).Sane := by
  rw [ServiceManager.removeService]
  split
  · exact sane.answers sane.remoteNamed sane.distinct fun _ member => by cases member
  · refine sane.answers sane.remoteNamed (sane.distinct.erase service) ?_
    intro effect member
    exact ServiceManager.isSome_notice_notifyAll setting.holds false member

theorem Sane.deliverToHost (sane : pair.Sane) {message : Message} {rest : List Message}
    (arrives : pair.toHost = message :: rest) :
    ({ pair with toHost := rest }.answers setting
      (pair.host.receive setting.holds message)).Sane := by
  have left : { pair with toHost := rest }.Sane := by
    refine ⟨sane.localNamed, sane.remoteNamed, sane.distinct, sane.filed, ?_, sane.notices, ?_⟩
    · intro other member
      exact sane.requests other (by rw [arrives]; exact List.mem_cons_of_mem _ member)
    · intro closed
      cases arrives.symm.trans (sane.closed closed).1
  obtain ⟨_, _, read⟩ := sane.request arrives
  rcases type_of_asRequest read with start | stop
  · rw [ServiceManager.receive_start start]
    refine left.answers ?_ ?_ ?_
    · intro key filter held
      rw [ServiceManager.remoteQueries_answerStart, Table.getElem?_insert_eq] at held
      split at held
      next same =>
        cases held
        exact same.symm
      next => exact sane.remoteNamed key filter held
    · exact sane.distinct.of_same (ServiceManager.sameServices_answerStart _ _ _)
    · intro effect member
      exact ServiceManager.isSome_notice_answerStart _ _ _ member
  · rw [ServiceManager.receive_stop stop]
    refine left.answers ?_ sane.distinct fun _ member => by cases member
    intro key filter held
    change (pair.host.remoteQueries.erase (ServiceFilter.ofMessage message).uuid)[key]? = _ at held
    rw [Table.getElem?_erase_eq] at held
    split at held
    next => cases held
    next => exact sane.remoteNamed key filter held

theorem Sane.deliverToAsker (sane : pair.Sane) {message : Message} {rest : List Message}
    (arrives : pair.toAsker = message :: rest) (calls : List ManagerEffect) :
    ({ pair with toAsker := rest, calls := calls }.asks setting
      (pair.asker.receive setting.holds message)).Sane := by
  have left : { pair with toAsker := rest, calls := calls }.Sane := by
    refine ⟨sane.localNamed, sane.remoteNamed, sane.distinct, sane.filed, sane.requests, ?_, ?_⟩
    · intro other member
      exact sane.notices other (by rw [arrives]; exact List.mem_cons_of_mem _ member)
    · intro closed
      cases arrives.symm.trans (sane.closed closed).2
  obtain ⟨_, _, read⟩ := sane.notice arrives
  obtain ⟨next, called, received, queries, filed, _, told⟩ :=
    ServiceManager.receive_asNotice setting.holds read sane.filed
  rw [received]
  refine left.asks ?_ filed ?_
  · rw [queries]
    exact sane.localNamed
  · intro sent member
    exact absurd (told _ member) Bool.false_ne_true

theorem Sane.step (sane : pair.Sane) {event : QueryEvent} (allowed : pair.Allowed event) :
    (pair.step setting event).1.Sane := by
  cases event with
  | startQuery filter listener =>
      have asked := sane.startQuery setting filter listener
      exact ⟨asked.localNamed, asked.remoteNamed, asked.distinct, asked.filed, asked.requests,
        asked.notices, asked.closed⟩
  | stopQuery filter => exact sane.stopQuery filter
  | addService service channelName desc => exact sane.addService allowed
  | removeService service => exact sane.removeService service
  | connect =>
      rw [QueryPair.step]
      split
      · exact sane
      · exact sane.welcome
  | deliverToHost =>
      rw [QueryPair.step]
      split
      next => exact sane
      next message rest arrives => exact sane.deliverToHost arrives
  | deliverToAsker =>
      rw [QueryPair.step]
      split
      next => exact sane
      next message rest arrives => exact sane.deliverToAsker arrives _

end

/-! ## Every query -/

/-- Every query is in a good state, and nothing has happened to one that was never
started. -/
structure Settled (setting : QuerySetting) (pair : QueryPair) : Prop where
  good : forall uuid, (pair.row setting uuid).Good
  fresh : forall uuid, uuid ∉ pair.started ->
    (pair.row setting uuid).asked = none ∧ (pair.row setting uuid).Silent

section

variable {setting : QuerySetting} {pair : QueryPair}

/-- A step after which every query is as before. -/
theorem Settled.of_rows (settled : pair.Settled setting) {next : QueryPair}
    (started : next.started = pair.started)
    (rows : forall uuid, next.row setting uuid = pair.row setting uuid) : next.Settled setting := by
  constructor
  · intro uuid
    rw [rows]
    exact settled.good uuid
  · intro uuid unstarted
    rw [started] at unstarted
    rw [rows]
    exact settled.fresh uuid unstarted

theorem Settled.startQuery (settled : pair.Settled setting) {filter : ServiceFilter}
    (unstarted : filter.uuid ∉ pair.started) (listener : Nat) :
    (pair.step setting (.startQuery filter listener)).1.Settled setting := by
  constructor
  · intro uuid
    rw [row_startQuery]
    split
    next same =>
      rw [← same]
      exact (settled.fresh filter.uuid unstarted).2.start filter
    next => exact settled.good uuid
  · intro uuid (absent : uuid ∉ pair.started.insert filter.uuid)
    rw [ExtTreeSet.mem_insert, LawfulEqCmp.compare_eq_iff_eq, not_or] at absent
    rw [row_startQuery, if_neg absent.1]
    exact settled.fresh uuid absent.2

theorem Settled.stopQuery (settled : pair.Settled setting) (filter : ServiceFilter) :
    (pair.step setting (.stopQuery filter)).1.Settled setting := by
  constructor
  · intro uuid
    rw [row_stopQuery]
    split
    next => exact (settled.good uuid).stop
    next => exact settled.good uuid
  · intro uuid unstarted
    have fresh := settled.fresh uuid unstarted
    rw [row_stopQuery, OpenQuery.stop_of_none fresh.1, ite_self]
    exact fresh

theorem Settled.addService (settled : pair.Settled setting) (sane : pair.Sane) (service : Nat)
    (channelName : CString) (desc : ServiceDescription) :
    (pair.step setting (.addService service channelName desc)).1.Settled setting := by
  by_cases present : service ∈ pair.host.services
  · rw [row_addService_again present]
    exact settled.of_rows rfl fun uuid => row_answers_other rfl rfl (.refl _)
  · constructor
    · intro uuid
      rw [row_addService present sane.remoteNamed]
      exact (settled.good uuid).insert _ _
    · intro uuid unstarted
      have fresh := settled.fresh uuid unstarted
      rw [row_addService present sane.remoteNamed]
      exact ⟨fresh.1, fresh.2.insert _ _⟩

theorem Settled.removeService (settled : pair.Settled setting) (sane : pair.Sane) (service : Nat) :
    (pair.step setting (.removeService service)).1.Settled setting := by
  cases stored : pair.host.services[service]? with
  | none =>
      have nothing : pair.host.removeService setting.holds service = (pair.host, []) := by
        rw [ServiceManager.removeService, stored]
      rw [QueryPair.step, nothing]
      exact settled.of_rows rfl fun uuid => row_answers_other rfl rfl (.refl _)
  | some desc =>
      have rows := row_removeService setting stored sane.remoteNamed sane.distinct
      constructor
      · intro uuid
        rw [rows]
        apply (settled.good uuid).remove
        intro filter
        rw [ServiceFilter.matches_iff]
        exact ServiceManager.accepts_iff_offers stored sane.distinct filter
      · intro uuid unstarted
        have fresh := settled.fresh uuid unstarted
        rw [rows]
        exact ⟨fresh.1, fresh.2.remove _ _⟩

theorem Settled.connect (settled : pair.Settled setting) (sane : pair.Sane) :
    (pair.step setting .connect).1.Settled setting := by
  cases closed : pair.connected with
  | true =>
      rw [QueryPair.step, if_pos closed]
      exact settled
  | false =>
      have rows := row_connect setting closed sane.localNamed
      have started : (pair.step setting .connect).1.started = pair.started := by
        rw [QueryPair.step, closed]
        rfl
      constructor
      · intro uuid
        rw [rows]
        exact (settled.good uuid).connect closed
      · intro uuid unstarted
        rw [started] at unstarted
        have fresh := settled.fresh uuid unstarted
        rw [rows]
        exact ⟨fresh.1, fresh.2.connect fresh.1⟩

theorem Settled.deliverToHost (settled : pair.Settled setting) (sane : pair.Sane) :
    (pair.step setting .deliverToHost).1.Settled setting := by
  cases arrives : pair.toHost with
  | nil =>
      rw [QueryPair.step, arrives]
      exact settled
  | cons message rest =>
      obtain ⟨_, _, read⟩ := sane.request arrives
      have connected : pair.connected = true := by
        cases closed : pair.connected with
        | true => rfl
        | false => cases arrives.symm.trans (sane.closed closed).1
      have rows := row_deliverToHost setting arrives connected read
      have started : (pair.step setting .deliverToHost).1.started = pair.started := by
        rw [QueryPair.step, arrives]
        rfl
      constructor
      · intro uuid
        rw [rows]
        split
        · exact (settled.good uuid).takeRequest fun filter item => ServiceManager.mem_offered _
        · exact settled.good uuid
      · intro uuid unstarted
        rw [started] at unstarted
        have fresh := settled.fresh uuid unstarted
        rw [rows, fresh.2.takeRequest, ite_self]
        exact fresh

theorem Settled.deliverToAsker (settled : pair.Settled setting) (sane : pair.Sane) :
    (pair.step setting .deliverToAsker).1.Settled setting := by
  cases arrives : pair.toAsker with
  | nil =>
      rw [QueryPair.step, arrives]
      exact settled
  | cons message rest =>
      obtain ⟨_, _, read⟩ := sane.notice arrives
      have rows := row_deliverToAsker setting arrives sane.filed read
      have started : (pair.step setting .deliverToAsker).1.started = pair.started := by
        rw [QueryPair.step, arrives]
        rfl
      constructor
      · intro uuid
        rw [rows]
        split
        · exact (settled.good uuid).takeNotice
        · exact settled.good uuid
      · intro uuid unstarted
        rw [started] at unstarted
        have fresh := settled.fresh uuid unstarted
        rw [rows, fresh.2.takeNotice, ite_self]
        exact fresh

theorem Settled.step (settled : pair.Settled setting) (sane : pair.Sane) {event : QueryEvent}
    (allowed : pair.Allowed event) : (pair.step setting event).1.Settled setting := by
  cases event with
  | startQuery filter listener => exact settled.startQuery allowed listener
  | stopQuery filter => exact settled.stopQuery filter
  | addService service channelName desc => exact settled.addService sane service channelName desc
  | removeService service => exact settled.removeService sane service
  | connect => exact settled.connect sane
  | deliverToHost => exact settled.deliverToHost sane
  | deliverToAsker => exact settled.deliverToAsker sane

/-! ## Queries that have ended -/

/-- The query was started once and is not there any more. -/
structure Ended (pair : QueryPair) (uuid : CString) : Prop where
  started : uuid ∈ pair.started
  unasked : pair.asker.localQueries[uuid]? = none

/-- Only a new start makes a query appear. -/
theorem Ended.step {uuid : CString} (ended : pair.Ended uuid) (sane : pair.Sane) {event : QueryEvent}
    (allowed : pair.Allowed event) : (pair.step setting event).1.Ended uuid := by
  cases event with
  | startQuery filter listener =>
      have different : uuid ≠ filter.uuid := by
        rintro rfl
        exact allowed ended.started
      refine ⟨ExtTreeSet.mem_insert.mpr (.inr ended.started), ?_⟩
      exact (Table.getElem?_insert_eq _ _ _ _).trans ((if_neg different).trans ended.unasked)
  | stopQuery filter =>
      refine ⟨ended.started, ?_⟩
      change (pair.asker.stopQuery filter).1.localQueries[uuid]? = none
      rw [ServiceManager.stopQuery]
      split
      · dsimp only
        rw [Table.getElem?_erase_eq, ended.unasked, ite_self]
      · exact ended.unasked
  | addService service channelName desc => exact ⟨ended.started, ended.unasked⟩
  | removeService service => exact ⟨ended.started, ended.unasked⟩
  | connect =>
      rw [QueryPair.step]
      split
      · exact ended
      · exact ⟨ended.started, ended.unasked⟩
  | deliverToHost =>
      rw [QueryPair.step]
      split
      · exact ended
      · exact ⟨ended.started, ended.unasked⟩
  | deliverToAsker =>
      rw [QueryPair.step]
      split
      next => exact ended
      next message rest arrives =>
        obtain ⟨_, _, read⟩ := sane.notice arrives
        obtain ⟨next, calls, received, queries, _⟩ :=
          ServiceManager.receive_asNotice setting.holds read sane.filed
        refine ⟨ended.started, ?_⟩
        change (pair.asker.receive setting.holds message).1.localQueries[uuid]? = none
        rw [received, queries, ended.unasked]

theorem Ended.uncalled {uuid : CString} (ended : pair.Ended uuid) (sane : pair.Sane)
    {event : QueryEvent} {effect : ManagerEffect} (emitted : effect ∈ (pair.step setting event).2)
    (update : Update CString) : effect.call ≠ some (uuid, update) := by
  intro called
  cases event with
  | startQuery filter listener => cases emitted
  | stopQuery filter => cases emitted
  | addService service channelName desc => cases emitted
  | removeService service => cases emitted
  | connect =>
      rw [QueryPair.step] at emitted
      split at emitted <;> cases emitted
  | deliverToHost =>
      rw [QueryPair.step] at emitted
      split at emitted <;> cases emitted
  | deliverToAsker =>
      rw [QueryPair.step] at emitted
      split at emitted
      next => cases emitted
      next message rest arrives =>
        obtain ⟨owner, _, read⟩ := sane.notice arrives
        obtain ⟨next, calls, received, _, _, told, _⟩ :=
          ServiceManager.receive_asNotice setting.holds read sane.filed
        have member : effect ∈ calls := by
          have kept := (List.mem_filter.mp emitted).1
          rw [received] at kept
          exact kept
        have listed := List.mem_filterMap.mpr ⟨effect, member, called⟩
        rw [told] at listed
        split at listed
        next present =>
          cases List.mem_singleton.mp listed
          exact Table.not_mem_of_getElem? ended.unasked present
        next => cases listed

/-! ## Whole runs -/

theorem sane_init : QueryPair.init.Sane where
  localNamed _ _ held := by cases held
  remoteNamed _ _ held := by cases held
  distinct _ _ _ _ held := by cases held
  filed _ _ held := by cases held
  requests _ member := by cases member
  notices _ member := by cases member
  closed _ := ⟨rfl, rfl⟩

theorem settled_init (setting : QuerySetting) : QueryPair.init.Settled setting := by
  have silent : forall uuid, (QueryPair.init.row setting uuid).Silent :=
    fun _ => ⟨rfl, rfl, rfl, fun _ told => told⟩
  exact ⟨fun uuid => ⟨fun _ => silent uuid, fun connected => by cases connected⟩,
    fun uuid _ => ⟨rfl, silent uuid⟩⟩

theorem sound_of_run (setting : QuerySetting) {events : List QueryEvent}
    (admitted : Admits (step setting) Allowed .init events) :
    (run (step setting) .init events).1.Sane ∧ (run (step setting) .init events).1.Settled setting := by
  refine invariant_of_run (fun pair => pair.Sane ∧ pair.Settled setting) ?_
    ⟨sane_init, settled_init setting⟩ admitted
  rintro pair event ⟨sane, settled⟩ allowed
  exact ⟨sane.step allowed, settled.step sane allowed⟩

end

/-- If the managers are connected and nothing is under way, the listener of every
query has been told about exactly the services that match. -/
def Converged (setting : QuerySetting) (pair : QueryPair) : Prop :=
  pair.connected = true -> pair.toHost = [] -> pair.toAsker = [] ->
    forall (uuid : CString) (query : ServiceFilter × Nat),
      pair.asker.localQueries[uuid]? = some query -> forall channel : CString,
        pair.told uuid channel <->
          Exists fun service : Nat => Exists fun desc : ServiceDescription =>
            pair.host.services[service]? = some desc ∧ desc.channelName = channel ∧
              (query.1.matches setting.holds desc).1 = true

theorem Settled.converged {setting : QuerySetting} {pair : QueryPair}
    (settled : pair.Settled setting) : pair.Converged setting := by
  intro connected toHost toAsker uuid query asked channel
  simp only [ServiceFilter.matches_iff]
  refine (settled.good uuid).converged connected ?_ ?_ ?_ channel
  · change about uuid (pair.toHost.filterMap asRequest) = []
    rw [toHost]
    rfl
  · change about uuid (pair.toAsker.filterMap asNotice) = []
    rw [toAsker]
    rfl
  · change pair.asker.localQueries[uuid]?.map Prod.fst = some query.1
    rw [asked]
    rfl

/-- The query has ended as soon as it is stopped. -/
theorem ended_of_stopQuery {setting : QuerySetting} {pair : QueryPair} {filter : ServiceFilter}
    (started : filter.uuid ∈ pair.started) :
    (pair.step setting (.stopQuery filter)).1.Ended filter.uuid := by
  refine ⟨started, ?_⟩
  change (pair.asker.stopQuery filter).1.localQueries[filter.uuid]? = none
  rw [ServiceManager.stopQuery]
  split
  next => exact ExtTreeMap.getElem?_erase_self
  next absent => exact ExtTreeMap.getElem?_eq_none absent

/-- In every state that the two managers reach the queries have converged, and after
a query was stopped its listener is never called again. -/
theorem queries_converge (setting : QuerySetting) (events : List QueryEvent)
    (admitted : Admits (step setting) Allowed .init events) :
    (run (step setting) .init events).1.Converged setting ∧
    forall (before : List QueryEvent) (filter : ServiceFilter) (after : List QueryEvent),
      events = before ++ .stopQuery filter :: after ->
      filter.uuid ∈ (run (step setting) .init before).1.started ->
      forall effect, effect ∈ (run (step setting)
          ((run (step setting) .init before).1.step setting (.stopQuery filter)).1 after).2 ->
        forall update, effect.call ≠ some (filter.uuid, update) := by
  refine ⟨(sound_of_run setting admitted).2.converged, ?_⟩
  intro before filter after split started
  rw [split, admits_append] at admitted
  obtain ⟨admittedBefore, allowed, admittedAfter⟩ := admitted
  have sane := (sound_of_run setting admittedBefore).1
  refine outputs_of_run (fun pair => pair.Sane ∧ pair.Ended filter.uuid)
    (fun effect => forall update, effect.call ≠ some (filter.uuid, update)) ?_ ?_
    ⟨sane.step allowed, ended_of_stopQuery started⟩ admittedAfter
  · rintro pair event ⟨sane, ended⟩ allowed
    exact ⟨sane.step allowed, ended.step sane allowed⟩
  · rintro pair event ⟨sane, ended⟩ _ effect emitted
    exact ended.uncalled sane emitted

/-! A query reaches the host through `welcome`, and a service that it matches. -/

def lateSetting : QuerySetting :=
  ⟨fun _ _ => true, ⟨.ofBytes [112], .ofBytes [99], false⟩, .ofBytes [113],
    ⟨.ofBytes [114], .ofBytes [99], false⟩, .ofBytes [115], .ofBytes [116]⟩

def lateQuery : List QueryEvent :=
  [.startQuery (.new (.ofBytes [117]) (.ofBytes [118])) 1, .connect,
    .addService 7 (.ofBytes [119]) ⟨.ofBytes [118], .empty, ∅⟩, .deliverToHost, .deliverToAsker]

theorem queries_converge_lateQuery :
    Admits (step lateSetting) Allowed .init lateQuery ∧
      (run (step lateSetting) .init lateQuery).1.told (.ofBytes [117]) (.ofBytes [119]) := by
  have admitted : Admits (step lateSetting) Allowed .init lateQuery :=
    ⟨ExtTreeSet.not_mem_empty, trivial, (fun _ _ held => by cases held), trivial, trivial, trivial⟩
  refine ⟨admitted, ?_⟩
  have reached : ((run (step lateSetting) .init lateQuery).1.asker.localQueries[CString.ofBytes
      [117]]?.any fun query => (run (step lateSetting) .init lateQuery).1.host.services[7]?.any
        fun desc => decide (desc.channelName = .ofBytes [119]) &&
          (query.1.matches lateSetting.holds desc).1) = true := by decide +kernel
  obtain ⟨query, asked, offered⟩ := (Option.any_eq_true _ _).mp reached
  obtain ⟨desc, stored, accepted⟩ := (Option.any_eq_true _ _).mp offered
  rw [Bool.and_eq_true, decide_eq_true_eq] at accepted
  exact ((queries_converge lateSetting lateQuery admitted).1 (by decide +kernel)
    (List.eq_nil_of_length_eq_zero (by decide +kernel))
    (List.eq_nil_of_length_eq_zero (by decide +kernel)) _ query asked _).mpr
    ⟨7, desc, stored, accepted⟩

end QueryPair

end Rpc
end Umundo
