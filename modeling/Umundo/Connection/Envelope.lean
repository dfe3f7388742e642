import Umundo.Connection.NodeTables

namespace Umundo
namespace Connection

open Foundation Std

/-!
# The receive loop of a node

A node reads its router socket part by part.  An envelope starts with the
identity of its sender, which the loop keeps in `remoteId`; every other part
is a message from that sender.  `remoteId` survives the iterations of the
loop, and it is reset where the loop notices the last part of an envelope.

The loop does not reach that place in every iteration.  A message from an
unknown node is skipped with `continue`, also if it is the last part of its
envelope.  The identity of the next envelope is then taken for a message of
the old sender.  The results below say exactly which sequences of envelopes
are read as they were sent.
-/

/-- A message part as the socket delivers it, with the nodes that are known
while it is handled. -/
structure Part where
  data : Bytes
  more : Bool
  known : CString -> Bool

/-- A message the loop dispatches or ignores, with its supposed sender. -/
structure Handled where
  sender : Bytes
  type : UInt16
  body : Bytes
deriving DecidableEq

/-- One iteration of the loop. -/
def runPart (remoteId : Option Bytes) (part : Part) : Option Bytes × List Handled :=
  match remoteId with
  | none =>
      let read := if part.data.length = 36 then some part.data else none
      (if part.more then read else none, [])
  | some sender =>
      if 2 ≤ part.data.length then
        let type := messageType part.data
        if ZeroMQNode.accepts part.known (.ofBytes sender) type then
          (if part.more then some sender else none, [⟨sender, type, part.data⟩])
        -- the source continues here without looking at the rest of the envelope
        else (some sender, [⟨sender, type, part.data⟩])
      else (if part.more then some sender else none, [])

/-- The loop on a node: what is handled is passed to the node. -/
def ZeroMQNode.recvPart (node : ZeroMQNode) (remoteId : Option Bytes) (data : Bytes) (more : Bool) :
    (ZeroMQNode × Option Bytes) × List Effect :=
  let outcome := runPart remoteId ⟨data, more, node.nodes.contains⟩
  match outcome.2 with
  | [] => ((node, outcome.1), [])
  | handled :: _ =>
      let received := node.receive (.ofBytes handled.sender) handled.body
      ((received.1, outcome.1), received.2)

/-! ## Envelopes -/

/-- A part that carries a message, which has at least a type. -/
structure BodyPart where
  data : Bytes
  known : CString -> Bool
  typed : 2 ≤ data.length

/-- The message is an announcement of a publisher, or its sender is known
when it is handled. -/
def BodyPart.Accepted (part : BodyPart) (sender : Bytes) : Prop :=
  ZeroMQNode.accepts part.known (.ofBytes sender) (messageType part.data) = true

instance (part : BodyPart) (sender : Bytes) : Decidable (part.Accepted sender) :=
  inferInstanceAs (Decidable (_ = true))

/-- A sender identity, followed by at least one message. -/
structure Envelope where
  identity : Bytes
  identity_length : identity.length = 36
  known : CString -> Bool
  first : BodyPart
  rest : List BodyPart

/-- All but the last part are flagged with more to come. -/
def flagged (first : BodyPart) : List BodyPart -> List Part
  | [] => [⟨first.data, false, first.known⟩]
  | second :: rest => ⟨first.data, true, first.known⟩ :: flagged second rest

namespace Envelope

/-- The parts of an envelope as the socket delivers them. -/
def parts (envelope : Envelope) : List Part :=
  ⟨envelope.identity, true, envelope.known⟩ :: flagged envelope.first envelope.rest

/-- An envelope parsed on its own, with a fresh `remoteId`. -/
def parse (envelope : Envelope) : List Handled :=
  (run runPart none envelope.parts).2

def last (envelope : Envelope) : BodyPart :=
  envelope.rest.getLastD envelope.first

/-- The last message of the envelope is accepted. -/
def Settled (envelope : Envelope) : Prop :=
  envelope.last.Accepted envelope.identity

instance (envelope : Envelope) : Decidable envelope.Settled :=
  inferInstanceAs (Decidable (envelope.last.Accepted envelope.identity))

end Envelope

/-- The loop over a sequence of envelopes. -/
def runEnvelopes (envelopes : List Envelope) : List Handled :=
  (run runPart none (envelopes.flatMap Envelope.parts)).2

/-! ## One envelope -/

/-- The message a part holds for a given sender. -/
def attributed (sender : Bytes) (part : BodyPart) : Handled :=
  ⟨sender, messageType part.data, part.data⟩

private theorem runPart_body (sender : Bytes) (part : BodyPart) (more : Bool) :
    runPart (some sender) ⟨part.data, more, part.known⟩ =
      (if more = false ∧ part.Accepted sender then none else some sender,
        [attributed sender part]) := by
  cases accepted : ZeroMQNode.accepts part.known (.ofBytes sender) (messageType part.data) <;>
    cases more <;> simp [runPart, BodyPart.Accepted, part.typed, accepted, attributed]

/-- Whoever the loop takes for the sender, the messages are handled one by
one.  Only the last of them decides whether the sender is forgotten. -/
private theorem run_flagged (sender : Bytes) (first : BodyPart) (rest : List BodyPart) :
    run runPart (some sender) (flagged first rest) =
      (if (rest.getLastD first).Accepted sender then none else some sender,
        (first :: rest).map (attributed sender)) := by
  induction rest generalizing first with
  | nil => simp [flagged, run, runPart_body]
  | cons second rest ih =>
      simp only [flagged, run, runPart_body, ih, Bool.true_eq_false, false_and, if_false,
        List.getLastD_cons, List.map_cons, List.singleton_append]

theorem run_parts (envelope : Envelope) :
    run runPart none envelope.parts =
      (if envelope.Settled then none else some envelope.identity,
        (envelope.first :: envelope.rest).map (attributed envelope.identity)) := by
  have opened : runPart none ⟨envelope.identity, true, envelope.known⟩ =
      (some envelope.identity, []) := by
    simp only [runPart, envelope.identity_length, if_true]
  simp only [Envelope.parts, run, opened, run_flagged, List.nil_append]
  rfl

/-- An envelope read on its own attributes every message to its sender. -/
theorem parse_eq (envelope : Envelope) :
    envelope.parse = (envelope.first :: envelope.rest).map (attributed envelope.identity) := by
  rw [Envelope.parse, run_parts]

/-- With a sender left over, the identity is handled as one more message. -/
private theorem length_run_parts_some (sender : Bytes) (envelope : Envelope) :
    (run runPart (some sender) envelope.parts).2.length = envelope.parse.length + 1 := by
  have identified : runPart (some sender) ⟨envelope.identity, true, envelope.known⟩ =
      (some sender, [⟨sender, messageType envelope.identity, envelope.identity⟩]) := by
    have long : 2 ≤ envelope.identity.length := by
      rw [envelope.identity_length]
      decide
    simp only [runPart, long, if_true]
    split <;> rfl
  rw [Envelope.parts, run, identified, parse_eq]
  simp only [run_flagged, List.length_append, List.length_map, List.length_cons, List.length_nil]
  omega

/-! ## Sequences of envelopes -/

/-- The loop never handles fewer messages than were sent. -/
private theorem length_le_length_run (remoteId : Option Bytes) (envelopes : List Envelope) :
    (envelopes.flatMap Envelope.parse).length ≤
      (run runPart remoteId (envelopes.flatMap Envelope.parts)).2.length := by
  induction envelopes generalizing remoteId with
  | nil => exact Nat.le_refl _
  | cons envelope rest ih =>
      have head : envelope.parse.length ≤ (run runPart remoteId envelope.parts).2.length := by
        cases remoteId with
        | none => exact Nat.le_refl _
        | some sender =>
            rw [length_run_parts_some]
            exact Nat.le_succ _
      rw [List.flatMap_cons, List.flatMap_cons, run_append, List.length_append, List.length_append]
      exact Nat.add_le_add head (ih _)

/-- After a leak the loop handles too many messages. -/
private theorem length_lt_length_run (sender : Bytes) (envelope : Envelope) (rest : List Envelope) :
    ((envelope :: rest).flatMap Envelope.parse).length <
      (run runPart (some sender) ((envelope :: rest).flatMap Envelope.parts)).2.length := by
  have tail := length_le_length_run (run runPart (some sender) envelope.parts).1 rest
  rw [List.flatMap_cons, List.flatMap_cons, run_append, List.length_append, List.length_append,
    length_run_parts_some]
  omega

private theorem settled_dropLast_cons (envelope next : Envelope) (rest : List Envelope) :
    (forall other, other ∈ (envelope :: next :: rest).dropLast -> other.Settled) <->
      envelope.Settled ∧ (forall other, other ∈ (next :: rest).dropLast -> other.Settled) := by
  rw [List.dropLast_cons_cons]
  exact List.forall_mem_cons

/-- The loop reads a sequence of envelopes exactly as if each were read on
its own, with every message attributed to its own sender, if and only if
every envelope but the last one is settled. -/
theorem runEnvelopes_eq_iff (envelopes : List Envelope) :
    (runEnvelopes envelopes = envelopes.flatMap Envelope.parse <->
      forall envelope, envelope ∈ envelopes.dropLast -> envelope.Settled) ∧
    forall envelope : Envelope, envelope.parse =
      (envelope.first :: envelope.rest).map (attributed envelope.identity) := by
  refine ⟨?_, parse_eq⟩
  unfold runEnvelopes
  induction envelopes with
  | nil => simp [run]
  | cons envelope rest ih =>
      have split : (run runPart none ((envelope :: rest).flatMap Envelope.parts)).2 =
          envelope.parse ++
            (run runPart (run runPart none envelope.parts).1 (rest.flatMap Envelope.parts)).2 := by
        rw [List.flatMap_cons, run_append]
        rfl
      rw [split, List.flatMap_cons, List.append_cancel_left_eq]
      cases rest with
      | nil => simp [run]
      | cons next later =>
          rw [settled_dropLast_cons]
          by_cases settled : envelope.Settled
          · have reset : (run runPart none envelope.parts).1 = none := by
              rw [run_parts]
              exact if_pos settled
            rw [reset, ih]
            exact ⟨fun others => ⟨settled, others⟩, And.right⟩
          · have leaked : (run runPart none envelope.parts).1 = some envelope.identity := by
              rw [run_parts]
              exact if_neg settled
            rw [leaked]
            constructor
            · intro equal
              have longer := length_lt_length_run envelope.identity next later
              rw [equal] at longer
              exact (Nat.lt_irrefl _ longer).elim
            · intro both
              exact (settled both.1).elim

/-- A subscription from an unknown node, followed by an announcement of a
known one: the second identity and the announcement are both handled as
messages of the first sender. -/
theorem runEnvelopes_leak :
    let unknown : Envelope :=
      ⟨List.replicate 36 97, rfl, fun _ => false, ⟨[0, 7], fun _ => false, by decide⟩, []⟩
    let other : Envelope :=
      ⟨List.replicate 36 98, rfl, fun _ => true, ⟨[0, 4], fun _ => true, by decide⟩, []⟩
    runEnvelopes [unknown, other] ≠ [unknown, other].flatMap Envelope.parse ∧
      runEnvelopes [unknown, other] =
        [⟨unknown.identity, 7, [0, 7]⟩, ⟨unknown.identity, 0x6262, other.identity⟩,
          ⟨unknown.identity, 4, [0, 4]⟩] := by
  decide +kernel

/-! ## The loop on a node -/

namespace ZeroMQNode

/-- The loop as a machine.  Its state is the node and the sender it keeps. -/
def loopStep (state : ZeroMQNode × Option Bytes) (part : Bytes × Bool) :
    (ZeroMQNode × Option Bytes) × List Effect :=
  state.1.recvPart state.2 part.1 part.2

private theorem recvPart_body (node : ZeroMQNode) (sender : Bytes) {body : Bytes}
    (typed : 2 ≤ body.length) (more : Bool) :
    node.recvPart (some sender) body more =
      (((node.receive (.ofBytes sender) body).1,
          if more = false ∧ accepts node.nodes.contains (.ofBytes sender) (messageType body) = true then
            none
          else some sender),
        (node.receive (.ofBytes sender) body).2) := by
  rw [recvPart, runPart_body sender ⟨body, node.nodes.contains, typed⟩ more]
  rfl

/-- As long as more is to come, the parts are messages of one sender. -/
private theorem run_loopStep_bodies (node : ZeroMQNode) (sender : Bytes) (bodies : List Bytes)
    (typed : forall body, body ∈ bodies -> 2 ≤ body.length) :
    run loopStep (node, some sender) (bodies.map fun body => (body, true)) =
      (((run step node (bodies.map (.message (.ofBytes sender)))).1, some sender),
        (run step node (bodies.map (.message (.ofBytes sender)))).2) := by
  induction bodies generalizing node with
  | nil => rfl
  | cons body rest ih =>
      have later := ih (node.receive (.ofBytes sender) body).1
        (fun other member => typed other (List.mem_cons_of_mem _ member))
      rw [List.map_cons, run, loopStep, recvPart_body node sender (typed body List.mem_cons_self)]
      simp only [Bool.true_eq_false, false_and, if_false, later]
      rfl

/-- A node that reads an envelope with no sender left over handles its
messages one after the other, all with the identity of the envelope.  It has
a sender left over afterwards exactly if the last message was ignored. -/
theorem run_loopStep_envelope (node : ZeroMQNode) {identity : Bytes} (identified : identity.length = 36)
    (bodies : List Bytes) (last : Bytes)
    (typed : forall body, body ∈ bodies ++ [last] -> 2 ≤ body.length) :
    run loopStep (node, none)
        ((identity, true) :: (bodies.map (fun body => (body, true)) ++ [(last, false)])) =
      (((run step node ((bodies ++ [last]).map (.message (.ofBytes identity)))).1,
          if accepts (run step node (bodies.map (.message (.ofBytes identity)))).1.nodes.contains
              (.ofBytes identity) (messageType last) = true then none
          else some identity),
        (run step node ((bodies ++ [last]).map (.message (.ofBytes identity)))).2) := by
  have opened : loopStep (node, none) (identity, true) = ((node, some identity), []) := by
    simp only [loopStep, recvPart, runPart, identified, if_true]
  have earlier := run_loopStep_bodies node identity bodies
    (fun body member => typed body (List.mem_append_left _ member))
  have final := typed last (List.mem_append_right _ List.mem_cons_self)
  rw [run, opened, run_append, earlier, List.map_append, run_append, run, loopStep,
    recvPart_body _ identity final]
  simp only [true_and, List.map_cons, List.map_nil, run, step, List.append_nil, List.nil_append]

end ZeroMQNode

end Connection
end Umundo
