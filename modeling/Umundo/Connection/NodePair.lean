import Umundo.Connection.PublisherView

namespace Umundo
namespace Connection

open Foundation Std

/-!
# Two nodes

Two nodes discover each other, in either order, and exchange control messages
over reliable channels that keep the order.  Each of them may add and remove
publishers and subscribers at any time, and any message may be delivered
arbitrarily late.  Neither node is ever reported as removed.

The messages on their way to a node are its inbox.  A message is delivered as
the bytes its sender wrote.
-/

inductive Side where
  | a
  | b
deriving DecidableEq

namespace Side

def other : Side -> Side
  | a => b
  | b => a

@[simp] theorem other_other (side : Side) : side.other.other = side := by cases side <;> rfl

@[simp] theorem other_ne (side : Side) : side.other ≠ side := by cases side <;> nofun

theorem eq_or_eq_other (side actor : Side) : side = actor ∨ side = actor.other := by
  cases side <;> cases actor <;> simp [other]

end Side

/-- Two nodes, and the undelivered control messages to each of them. -/
structure NodePair where
  node : Side -> ZeroMQNode
  inbox : Side -> List ControlMessage

/-- What can happen to two nodes. -/
inductive PairEvent where
  | discover (side : Side)
  | addPublisher (side : Side) (pub : PublisherInfo)
  | removePublisher (side : Side) (pub : PublisherInfo)
  | addSubscriber (side : Side) (sub : Subscriber)
  | removeSubscriber (side : Side) (sub : Subscriber)
  | deliver (side : Side)

namespace NodePair

section

variable (stub : Side -> NodeStub)

/-- Two fresh nodes that are known to others under the given stubs. -/
def init : NodePair where
  node side := ZeroMQNode.init (stub side).uuid
  inbox _ := []

/-- One node acts.  What it tells the other node is appended to that node's
inbox; what remains in its own inbox is given. -/
def act (pair : NodePair) (actor : Side) (remaining : List ControlMessage) (event : NodeEvent) :
    NodePair × List Effect :=
  let outcome := (pair.node actor).step event
  ({ node := fun side => if side = actor then outcome.1 else pair.node side
     inbox := fun side =>
      if side = actor then remaining
      else pair.inbox side ++ messagesTo (stub side).uuid outcome.2 },
    outcome.2)

def step (pair : NodePair) : PairEvent -> NodePair × List Effect
  | .discover side => pair.act stub side (pair.inbox side) (.added (stub side.other))
  | .addPublisher side pub => pair.act stub side (pair.inbox side) (.addPublisher pub)
  | .removePublisher side pub => pair.act stub side (pair.inbox side) (.removePublisher pub)
  | .addSubscriber side sub => pair.act stub side (pair.inbox side) (.addSubscriber sub)
  | .removeSubscriber side sub => pair.act stub side (pair.inbox side) (.removeSubscriber sub)
  | .deliver side =>
      match pair.inbox side with
      | [] => (pair, [])
      | message :: rest =>
          pair.act stub side rest (.message (stub side.other).uuid message.encode)

/-- The node that acts, what is left in its inbox and what happens to it. -/
inductive Occurs (pair : NodePair) :
    PairEvent -> Side -> List ControlMessage -> NodeEvent -> Prop
  | discover (actor : Side) :
      Occurs pair (.discover actor) actor (pair.inbox actor) (.added (stub actor.other))
  | addPublisher (actor : Side) (pub : PublisherInfo) :
      Occurs pair (.addPublisher actor pub) actor (pair.inbox actor) (.addPublisher pub)
  | removePublisher (actor : Side) (pub : PublisherInfo) :
      Occurs pair (.removePublisher actor pub) actor (pair.inbox actor) (.removePublisher pub)
  | addSubscriber (actor : Side) (sub : Subscriber) :
      Occurs pair (.addSubscriber actor sub) actor (pair.inbox actor) (.addSubscriber sub)
  | removeSubscriber (actor : Side) (sub : Subscriber) :
      Occurs pair (.removeSubscriber actor sub) actor (pair.inbox actor) (.removeSubscriber sub)
  | deliver (actor : Side) (message : ControlMessage) (rest : List ControlMessage) :
      pair.inbox actor = message :: rest ->
      Occurs pair (.deliver actor) actor rest (.message (stub actor.other).uuid message.encode)

/-- The two nodes have added each other. -/
def Acquainted (pair : NodePair) : Prop :=
  forall side, (stub side.other).uuid ∈ (pair.node side).nodes

instance (pair : NodePair) : Decidable (pair.Acquainted stub) :=
  decidable_of_iff ((stub .b).uuid ∈ (pair.node .a).nodes ∧ (stub .a).uuid ∈ (pair.node .b).nodes)
    ⟨fun both side => by cases side; exacts [both.1, both.2], fun all => ⟨all .a, all .b⟩⟩

end

variable {stub : Side -> NodeStub}

@[simp] theorem act_node_self (pair : NodePair) (actor : Side) (remaining : List ControlMessage)
    (event : NodeEvent) :
    (pair.act stub actor remaining event).1.node actor = ((pair.node actor).step event).1 :=
  if_pos rfl

@[simp] theorem act_node_other (pair : NodePair) (actor : Side) (remaining : List ControlMessage)
    (event : NodeEvent) :
    (pair.act stub actor remaining event).1.node actor.other = pair.node actor.other :=
  if_neg actor.other_ne

@[simp] theorem act_inbox_self (pair : NodePair) (actor : Side) (remaining : List ControlMessage)
    (event : NodeEvent) : (pair.act stub actor remaining event).1.inbox actor = remaining :=
  if_pos rfl

@[simp] theorem act_inbox_other (pair : NodePair) (actor : Side) (remaining : List ControlMessage)
    (event : NodeEvent) :
    (pair.act stub actor remaining event).1.inbox actor.other =
      pair.inbox actor.other ++
        messagesTo (stub actor.other).uuid ((pair.node actor).step event).2 :=
  if_neg actor.other_ne

/-- What holds of either node, and of the actor after its action. -/
theorem forall_node_act (property : Side -> ZeroMQNode -> Prop) {pair : NodePair} {actor : Side}
    {event : NodeEvent} (before : forall side, property side (pair.node side))
    (acted : property actor ((pair.node actor).step event).1) (remaining : List ControlMessage)
    (side : Side) : property side ((pair.act stub actor remaining event).1.node side) := by
  rcases side.eq_or_eq_other actor with same | same
  · subst same
    rw [act_node_self]
    exact acted
  · subst same
    rw [act_node_other]
    exact before actor.other

/-- Every step is an action of one node, or delivers nothing. -/
theorem step_cases (pair : NodePair) (event : PairEvent) :
    (pair.step stub event).1 = pair ∨
      Exists fun actor : Side => Exists fun remaining : List ControlMessage =>
        Exists fun nodeEvent : NodeEvent => Occurs stub pair event actor remaining nodeEvent ∧
          pair.step stub event = pair.act stub actor remaining nodeEvent := by
  cases event with
  | discover side => exact Or.inr ⟨side, _, _, .discover side, rfl⟩
  | addPublisher side pub => exact Or.inr ⟨side, _, _, .addPublisher side pub, rfl⟩
  | removePublisher side pub => exact Or.inr ⟨side, _, _, .removePublisher side pub, rfl⟩
  | addSubscriber side sub => exact Or.inr ⟨side, _, _, .addSubscriber side sub, rfl⟩
  | removeSubscriber side sub => exact Or.inr ⟨side, _, _, .removeSubscriber side sub, rfl⟩
  | deliver side =>
      cases inbox : pair.inbox side with
      | nil =>
          left
          simp only [step, inbox]
      | cons message rest =>
          right
          refine ⟨side, rest, _, .deliver side message rest inbox, ?_⟩
          simp only [step, inbox]

/-! ## What two nodes know of each other -/

/-- What holds in every state of two nodes, whatever is delivered when.  A
node that has not added the other one has told it nothing. -/
structure Regular (stub : Side -> NodeStub) (pair : NodePair) : Prop where
  consistent : forall side, (pair.node side).Consistent
  uuid : forall side, (pair.node side).uuid = (stub side).uuid
  drained : forall side, (pair.node side).Drained
  silent : forall side, (stub side).uuid ∉ (pair.node side.other).nodes ->
    pair.inbox side = [] ∧ forall pubId, ¬ (pair.node side).Heard (stub side.other).uuid pubId

theorem Regular.init (stub : Side -> NodeStub) : Regular stub (init stub) where
  consistent side := ZeroMQNode.Consistent.init _
  uuid side := rfl
  drained side := ZeroMQNode.Drained.init _
  silent side _ := by
    refine ⟨rfl, ?_⟩
    intro pubId heard
    simp [NodePair.init, ZeroMQNode.init, ZeroMQNode.Heard, Table.row] at heard

section

variable {pair : NodePair} {event : PairEvent} {actor : Side} {remaining : List ControlMessage}
  {nodeEvent : NodeEvent}

theorem Occurs.not_removes (occurs : Occurs stub pair event actor remaining nodeEvent)
    (remoteId : CString) : ¬ nodeEvent.Removes remoteId := by
  cases occurs <;> exact id

/-- Only a delivery takes something out of the inbox, and only a delivery
changes what was heard. -/
theorem Occurs.heard_or_deliver (occurs : Occurs stub pair event actor remaining nodeEvent)
    (consistent : (pair.node actor).Consistent) :
    (remaining = pair.inbox actor ∧ forall remoteId pubId,
        ((pair.node actor).step nodeEvent).1.Heard remoteId pubId <->
          (pair.node actor).Heard remoteId pubId) ∨
      Exists fun message : ControlMessage => event = .deliver actor ∧
        pair.inbox actor = message :: remaining ∧
          nodeEvent = .message (stub actor.other).uuid message.encode := by
  cases occurs with
  | discover => exact Or.inl ⟨rfl, fun _ _ => consistent.heard_added⟩
  | addPublisher _ pub =>
      rw [ZeroMQNode.step, ZeroMQNode.addPublisher_eq]
      exact Or.inl ⟨rfl, fun _ _ => Iff.rfl⟩
  | removePublisher _ pub =>
      rw [ZeroMQNode.step, ZeroMQNode.removePublisher_eq]
      exact Or.inl ⟨rfl, fun _ _ => Iff.rfl⟩
  | addSubscriber _ sub => exact Or.inl ⟨rfl, fun _ _ => Iff.rfl⟩
  | removeSubscriber _ sub =>
      rw [ZeroMQNode.step, consistent.removeSubscriber_eq]
      exact Or.inl ⟨rfl, fun _ _ => Iff.rfl⟩
  | deliver _ message rest inbox => exact Or.inr ⟨message, rfl, inbox, rfl⟩

theorem Regular.act (regular : Regular stub pair)
    (occurs : Occurs stub pair event actor remaining nodeEvent) :
    Regular stub (pair.act stub actor remaining nodeEvent).1 where
  consistent := forall_node_act (fun _ node => node.Consistent) regular.consistent
    ((regular.consistent actor).step nodeEvent) remaining
  uuid := forall_node_act (fun side node => node.uuid = (stub side).uuid) regular.uuid
    (((regular.consistent actor).step_uuid nodeEvent).trans (regular.uuid actor)) remaining
  drained := forall_node_act (fun _ node => node.Drained) regular.drained
    ((regular.drained actor).step (regular.consistent actor) nodeEvent) remaining
  silent side := by
    rcases side.eq_or_eq_other actor with same | same
    · subst same
      rw [act_node_other, act_node_self, act_inbox_self]
      intro unaware
      rcases regular.silent side unaware with ⟨quiet, unheard⟩
      rcases occurs.heard_or_deliver (regular.consistent side) with ⟨same, heard⟩ | ⟨_, _, inbox, _⟩
      · exact ⟨same.trans quiet, fun pubId now => unheard pubId ((heard _ _).mp now)⟩
      · rw [quiet] at inbox
        cases inbox
    · subst same
      rw [Side.other_other, act_node_other, act_node_self, act_inbox_other]
      intro unaware
      have before : (stub actor.other).uuid ∉ (pair.node actor).nodes := fun known =>
        unaware ((regular.consistent actor).mem_nodes_step (occurs.not_removes _) known)
      have nothing : messagesTo (stub actor.other).uuid ((pair.node actor).step nodeEvent).2 = [] := by
        rw [List.eq_nil_iff_forall_not_mem]
        intro message sent
        have sends := (regular.consistent actor).mem_messagesTo_step.mp sent
        exact unaware ((regular.consistent actor).known_of_sends sends)
      have silent := regular.silent actor.other
      rw [Side.other_other] at silent
      rw [nothing, List.append_nil]
      exact silent before

end

theorem Regular.step {pair : NodePair} (regular : Regular stub pair) (event : PairEvent) :
    Regular stub (pair.step stub event).1 := by
  rcases pair.step_cases event with same | ⟨actor, remaining, nodeEvent, occurs, equal⟩
  · rw [same]
    exact regular
  · rw [equal]
    exact regular.act occurs

/-- Two different nodes for concrete runs. -/
def exampleStubs : Side -> NodeStub
  | .a => exampleStub 97 (by decide)
  | .b => exampleStub 98 (by decide)

end NodePair
end Connection
end Umundo
