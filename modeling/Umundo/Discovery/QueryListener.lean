import Umundo.Connection.NodeMessages
import Umundo.Discovery.NodeQuery

namespace Umundo
namespace Discovery

open Foundation Connection Std

/-!
# What the listener of a query can rely on

A query knows a node by its uuid, but collects stubs by their addresses.  The listener is
to hear of a uuid as added only if it does not know it, and as changed only if it does,
whichever way the two modes of the query are mixed.

A node that listens opens a socket for every uuid that is added and would lose the one it
has.  Its other operations may take place at any time in between.
-/

/-- Does a call fit the uuids that are present? -/
def ListenerCall.Fits (uuid : Nat -> CString) (present : CString -> Prop) : ListenerCall -> Prop
  | added node => ¬ present (uuid node)
  | changed node => present (uuid node)
  | removed _ => True

/-- Every call fits what the calls before it have said. -/
def Reports (uuid : Nat -> CString) (present : CString -> Prop) (calls : List ListenerCall) : Prop :=
  forall before call after, calls = before ++ call :: after ->
    call.Fits uuid (presentAfter uuid present before)

section

variable (uuid : Nat -> CString) (present : CString -> Prop)

theorem reports_nil : Reports uuid present [] := by
  intro before call after split
  cases before <;> cases split

theorem presentAfter_append_eq (first second : List ListenerCall) :
    presentAfter uuid present (first ++ second) =
      presentAfter uuid (presentAfter uuid present first) second :=
  funext fun name => propext (NodeQuery.presentAfter_append uuid present first second name)

theorem reports_cons (call : ListenerCall) (rest : List ListenerCall) :
    Reports uuid present (call :: rest) <->
      call.Fits uuid present ∧ Reports uuid (presentAfter uuid present [call]) rest := by
  constructor
  · intro reports
    refine ⟨reports [] call rest rfl, ?_⟩
    intro before later after split
    rw [← presentAfter_append_eq]
    exact reports (call :: before) later after (by rw [split, List.cons_append])
  · rintro ⟨fits, reports⟩ before later after split
    cases before with
    | nil =>
        cases split
        exact fits
    | cons first before =>
        cases split
        rw [show call :: before = [call] ++ before from rfl, presentAfter_append_eq]
        exact reports before later after rfl

theorem reports_append (first second : List ListenerCall) :
    Reports uuid present (first ++ second) <->
      Reports uuid present first ∧ Reports uuid (presentAfter uuid present first) second := by
  induction first generalizing present with
  | nil => exact (and_iff_right (reports_nil uuid present)).symm
  | cons call rest ih =>
      rw [List.cons_append, reports_cons, ih, reports_cons, and_assoc, ← presentAfter_append_eq]
      rfl

end

/-! ## The query -/

namespace NodeQuery

/-- A query that knows these uuids. -/
def Knows (query : NodeQuery) (present : CString -> Prop) : Prop :=
  forall name, name ∈ query.nodes <-> present name

/-- What a query does is told to its listener. -/
structure Tells (uuid : Nat -> CString) (present : CString -> Prop)
    (outcome : NodeQuery × List ListenerCall) : Prop where
  reports : Reports uuid present outcome.2
  knows : outcome.1.Knows (presentAfter uuid present outcome.2)

variable {uuid : Nat -> CString} {present : CString -> Prop} {query : NodeQuery}

theorem tells_nothing (knows : query.Knows present) : Tells uuid present (query, []) :=
  ⟨reports_nil uuid present, knows⟩

theorem Knows.notify (knows : query.Knows present) (sighting : Sighting) :
    Tells uuid present (query.notify uuid sighting) := by
  cases sighting with
  | found node =>
      by_cases known : uuid node ∈ query.nodes
      · rw [NodeQuery.notify, if_pos known]
        exact ⟨(reports_cons _ _ _ _).mpr ⟨(knows _).mp known, reports_nil _ _⟩, knows⟩
      · rw [NodeQuery.notify, if_neg known]
        have fits : (ListenerCall.added node).Fits uuid present := fun told => known ((knows _).mpr told)
        refine ⟨(reports_cons _ _ _ _).mpr ⟨fits, reports_nil _ _⟩, ?_⟩
        intro name
        rw [ExtTreeMap.mem_insert, LawfulEqCmp.compare_eq_iff_eq, knows]
        exact Iff.rfl
  | removed node =>
      refine ⟨(reports_cons _ _ _ _).mpr ⟨trivial, reports_nil _ _⟩, ?_⟩
      intro name
      rw [NodeQuery.notify, ExtTreeMap.mem_erase, knows, ne_eq, LawfulEqCmp.compare_eq_iff_eq]
      exact Iff.rfl

theorem Tells.followedBy {first second : NodeQuery × List ListenerCall} (earlier : Tells uuid present first)
    (later : Tells uuid (presentAfter uuid present first.2) second) :
    Tells uuid present (second.1, first.2 ++ second.2) := by
  refine ⟨(reports_append _ _ _ _).mpr ⟨earlier.reports, later.reports⟩, ?_⟩
  rw [presentAfter_append_eq]
  exact later.knows

/-- A loop that tells its listener in every iteration does so as a whole. -/
theorem tells_of_run {Input : Type} {step : NodeQuery -> Input -> NodeQuery × List ListenerCall}
    (each : forall (query : NodeQuery) (present : CString -> Prop) (input : Input),
      query.Knows present -> Tells uuid present (step query input))
    (knows : query.Knows present) (inputs : List Input) :
    Tells uuid present (run step query inputs) := by
  induction inputs generalizing query present with
  | nil => exact tells_nothing knows
  | cons input rest ih =>
      have now := each query present input knows
      exact now.followedBy (ih now.knows)

theorem Knows.step (knows : query.Knows present) (event : QueryEvent) :
    Tells uuid present (query.step uuid event) := by
  cases event with
  | sighting sighting =>
      simp only [NodeQuery.step, see]
      split
      · exact knows.notify sighting
      · cases sighting <;> exact tells_nothing knows
  | notifyImmediately flag => exact tells_nothing knows
  | notifyResultSet =>
      have told : Tells uuid present (run (NodeQuery.notify uuid) query query.pending) :=
        tells_of_run (fun _ _ sighting knows => knows.notify sighting) knows query.pending
      exact ⟨told.reports, told.knows⟩

/-- Any sequence of operations on a new query. -/
theorem tells_of_events (uuid : Nat -> CString) (events : List QueryEvent) :
    Tells uuid (fun _ => False) (run (step uuid) (holding ∅) events) := by
  refine tells_of_run (fun _ _ event knows => knows.step event) ?_ events
  intro name
  simp [holding]

end NodeQuery

/-! ## A node that listens -/

/-- What happens to a node apart from discovery. -/
def Internal : NodeEvent -> Prop
  | .added _ => False
  | .removed _ => False
  | .message _ _ => True
  | .addSubscriber _ => True
  | .removeSubscriber _ => True
  | .addPublisher _ => True
  | .removePublisher _ => True

inductive ListenerInput where
  | heard (call : ListenerCall)
  | internal (event : NodeEvent) (kind : Internal event)

def ListenerInput.call : ListenerInput -> Option ListenerCall
  | heard call => some call
  | internal _ _ => none

/-- A call of a node, and whether it has a socket for the uuid when the call begins. -/
structure Delivery where
  call : ListenerCall
  connected : Bool
deriving DecidableEq

/-- One call of the node, or one of its own operations. -/
def hear (stub : Nat -> NodeStub) (node : ZeroMQNode) : ListenerInput -> ZeroMQNode × List Delivery
  | .heard (.added address) =>
      ((node.added (stub address)).1, [⟨.added address, node.sockets.contains (stub address).uuid⟩])
  | .heard (.changed address) =>
      (node, [⟨.changed address, node.sockets.contains (stub address).uuid⟩])
  | .heard (.removed address) =>
      ((node.removed (stub address)).1, [⟨.removed address, node.sockets.contains (stub address).uuid⟩])
  | .internal event _ => ((node.step event).1, [])

/-- No socket is replaced. -/
def Delivery.Fresh (delivery : Delivery) : Prop :=
  forall address, delivery.call = .added address -> delivery.connected = false

section

variable {node : ZeroMQNode}

theorem nodes_step_internal (consistent : node.Consistent) {event : NodeEvent} (kind : Internal event) :
    (node.step event).1.nodes = node.nodes := by
  cases event with
  | added stub => cases kind
  | removed stub => cases kind
  | message remoteId body => exact ZeroMQNode.receive_nodes node remoteId body
  | addSubscriber sub => rfl
  | removeSubscriber sub => rw [ZeroMQNode.step, consistent.removeSubscriber_eq]
  | addPublisher pub => rw [ZeroMQNode.step, ZeroMQNode.addPublisher_eq]
  | removePublisher pub => rw [ZeroMQNode.step, ZeroMQNode.removePublisher_eq]

theorem of_mem_nodes_added {stub : NodeStub} {name : CString}
    (known : name ∈ (node.added stub).1.nodes) : stub.uuid = name ∨ name ∈ node.nodes := by
  by_cases own : stub.uuid = node.uuid
  · rw [ZeroMQNode.added, if_pos own] at known
    exact .inr known
  · rw [ZeroMQNode.added_of_ne own, ZeroMQNode.promote_nodes] at known
    exact (ExtTreeMap.mem_insert.mp known).imp_left LawfulEqCmp.eq_of_compare

theorem of_mem_nodes_removed (consistent : node.Consistent) {stub : NodeStub} {name : CString}
    (known : name ∈ (node.removed stub).1.nodes) : stub.uuid ≠ name ∧ name ∈ node.nodes := by
  by_cases listed : stub.uuid ∈ node.nodes
  · rw [consistent.removed_of_known listed] at known
    obtain ⟨other, earlier⟩ := ExtTreeMap.mem_erase.mp known
    exact ⟨fun same => other (LawfulEqCmp.compare_eq_iff_eq.mpr same), earlier⟩
  · rw [consistent.removed_of_unknown listed] at known
    refine ⟨?_, known⟩
    rintro rfl
    exact listed known

/-- A node has sockets only for uuids that are present. -/
structure Attends (node : ZeroMQNode) (present : CString -> Prop) : Prop where
  consistent : node.Consistent
  told : forall name, name ∈ node.nodes -> present name

theorem Attends.disconnected {present : CString -> Prop} (attends : Attends node present) {name : CString}
    (absent : ¬ present name) : node.sockets.contains name = false := by
  rw [Bool.eq_false_iff]
  intro connected
  exact absent (attends.told name ((attends.consistent.sockets_iff name).mp
    (ExtTreeMap.contains_iff_mem.mp connected)))

/-- One call that fits. -/
theorem Attends.hear {present : CString -> Prop} (attends : Attends node present) (stub : Nat -> NodeStub)
    {call : ListenerCall} (fits : call.Fits (fun address => (stub address).uuid) present) :
    Attends (hear stub node (.heard call)).1
        (presentAfter (fun address => (stub address).uuid) present [call]) ∧
      forall delivery, delivery ∈ (Discovery.hear stub node (.heard call)).2 -> delivery.Fresh := by
  cases call with
  | added address =>
      refine ⟨⟨attends.consistent.added (stub address), ?_⟩, ?_⟩
      · intro name known
        exact (of_mem_nodes_added known).imp_right (attends.told name)
      · intro delivery member _ _
        cases List.mem_singleton.mp member
        exact attends.disconnected fits
  | changed address =>
      refine ⟨attends, ?_⟩
      intro delivery member other called
      cases List.mem_singleton.mp member
      cases called
  | removed address =>
      refine ⟨⟨attends.consistent.removed (stub address), ?_⟩, ?_⟩
      · intro name known
        obtain ⟨other, earlier⟩ := of_mem_nodes_removed attends.consistent known
        exact ⟨other, attends.told name earlier⟩
      · intro delivery member other called
        cases List.mem_singleton.mp member
        cases called

/-- Any number of calls, with anything else in between. -/
theorem Attends.run {present : CString -> Prop} (attends : Attends node present) (stub : Nat -> NodeStub)
    (inputs : List ListenerInput)
    (reports : Reports (fun address => (stub address).uuid) present (inputs.filterMap ListenerInput.call)) :
    forall delivery, delivery ∈ (run (Discovery.hear stub) node inputs).2 -> delivery.Fresh := by
  -- the node's own operations change neither its nodes nor what it was told
  induction inputs generalizing node present with
  | nil => exact fun _ member => absurd member List.not_mem_nil
  | cons input rest ih =>
      intro delivery member
      rw [Foundation.run, List.mem_append] at member
      cases input with
      | heard call =>
          obtain ⟨fits, later⟩ := (reports_cons _ _ _ _).mp reports
          have heard := attends.hear stub fits
          exact member.elim (heard.2 delivery) (ih heard.1 later delivery)
      | internal event kind =>
          have next : Attends (node.step event).1 present := by
            refine ⟨attends.consistent.step event, ?_⟩
            rw [nodes_step_internal attends.consistent kind]
            exact attends.told
          exact ih next reports delivery (member.resolve_left List.not_mem_nil)

end

/-- A query knows the uuids that its listener was told of, also within its loops.  It
reports a uuid as added if the listener does not know it, and as changed if it does.  A
node that listens, and had no socket when it began to, therefore never replaces one. -/
theorem added_reported_once :
    (forall (uuid : Nat -> CString) (events : List QueryEvent) (name : CString),
      let outcome := run (NodeQuery.step uuid) (.holding ∅) events
      (name ∈ outcome.1.nodes <-> presentAfter uuid (fun _ => False) outcome.2 name) ∧
        forall batch, batch <+: outcome.1.pending ->
          let loop := run (NodeQuery.notify uuid) outcome.1 batch
          name ∈ loop.1.nodes <-> presentAfter uuid (fun _ => False) (outcome.2 ++ loop.2) name) ∧
      (forall (uuid : Nat -> CString) (events : List QueryEvent),
        Reports uuid (fun _ => False) (run (NodeQuery.step uuid) (.holding ∅) events).2) ∧
      (forall (stub : Nat -> NodeStub) (events : List QueryEvent) (node : ZeroMQNode)
        (inputs : List ListenerInput),
        node.Consistent -> (forall name, name ∉ node.sockets) ->
        inputs.filterMap ListenerInput.call <+:
          (run (NodeQuery.step fun address => (stub address).uuid) (.holding ∅) events).2 ->
        forall delivery, delivery ∈ (run (hear stub) node inputs).2 -> delivery.Fresh) := by
  refine ⟨?_, fun uuid events => (NodeQuery.tells_of_events uuid events).reports, ?_⟩
  · intro uuid events name outcome
    have told := NodeQuery.tells_of_events uuid events
    refine ⟨told.knows name, ?_⟩
    intro batch _ loop
    have looped : NodeQuery.Tells uuid _ loop :=
      NodeQuery.tells_of_run (fun _ _ sighting knows => knows.notify sighting) told.knows batch
    exact (told.followedBy looped).knows name
  · rintro stub events node inputs consistent disconnected ⟨rest, heard⟩
    have attends : Attends node (fun _ => False) :=
      ⟨consistent, fun name known => disconnected name ((consistent.sockets_iff name).mpr known)⟩
    have reports := (NodeQuery.tells_of_events (fun address => (stub address).uuid) events).reports
    rw [← heard] at reports
    exact attends.run stub inputs ((reports_append _ _ _ _).mp reports).1

/-- A node that is found at two addresses, vanishes and returns. -/
theorem added_reported_once_returning :
    let stub := fun _ : Nat => exampleStub 115 (by decide)
    let node := ZeroMQNode.init (repeatedUuid 116 (by decide))
    let events : List QueryEvent := [.sighting (.found 1), .sighting (.found 2), .notifyImmediately false,
      .sighting (.removed 2), .sighting (.found 1), .notifyResultSet]
    let inputs : List ListenerInput := [.heard (.added 1), .heard (.changed 2),
      .internal (.addPublisher (examplePublisher 117 (by decide) (.ofBytes [99]))) trivial,
      .heard (.removed 2), .heard (.added 1)]
    node.Consistent ∧ (forall name, name ∉ node.sockets) ∧
      inputs.filterMap ListenerInput.call <+:
        (run (NodeQuery.step fun address => (stub address).uuid) (.holding ∅) events).2 ∧
      (run (hear stub) node inputs).2.map Delivery.connected = [false, true, true, false] ∧
      forall delivery, delivery ∈ (run (hear stub) node inputs).2 -> delivery.Fresh := by
  intro stub node events inputs
  have consistent : node.Consistent := .init _
  have disconnected : forall name, name ∉ node.sockets := by
    intro name
    simp [node, ZeroMQNode.init]
  have heard : inputs.filterMap ListenerInput.call <+:
      (run (NodeQuery.step fun address => (stub address).uuid) (.holding ∅) events).2 := by
    decide +kernel
  exact ⟨consistent, disconnected, heard, by decide +kernel,
    added_reported_once.2.2 stub events node inputs consistent disconnected heard⟩

end Discovery
end Umundo
