import Umundo.Connection.Envelope
import Umundo.Connection.NodeMessages

namespace Umundo
namespace Connection

open Foundation Std

/-!
# Announcing publishers to a newcomer

A discovered node is sent a list of our publishers, as one envelope with a part for every
publisher.  A countdown decides which parts are flagged with more to come.  The loop of
the receiver tells the parts apart by their size, and by whether it has read an identity
already.

What is sent here is read there: `processPubAdded` is called once for every publisher,
whatever the sizes of the parts are, and whatever nodes the receiver knows.
-/

/-- The parts of one envelope: all but the last one are flagged. -/
def enveloped {Content : Type} : List Content -> List (Content × Bool)
  | [] => []
  | [last] => [(last, false)]
  | part :: next :: rest => (part, true) :: enveloped (next :: rest)

theorem enveloped_append_singleton {Content : Type} (parts : List Content) (last : Content) :
    enveloped (parts ++ [last]) = parts.map (fun part => (part, true)) ++ [(last, false)] := by
  induction parts with
  | nil => rfl
  | cons part rest ih =>
      rw [List.map_cons, List.cons_append, List.cons_append, ← ih]
      cases rest with
      | nil => rfl
      | cons next rest => rfl

/-- The message that announces a publisher. -/
def announcementOf (pub : PublisherInfo) : Bytes := (ControlMessage.pubAdded pub).encode

theorem messageType_announcementOf (pub : PublisherInfo) :
    messageType (announcementOf pub) = MessageType.pubAdded.code :=
  messageType_toNetwork _ _

theorem decodePub_announcementOf (pub : PublisherInfo) : decodePub (announcementOf pub) = some pub :=
  decodePub_written _ pub

theorem two_le_length_announcementOf (pub : PublisherInfo) : 2 ≤ (announcementOf pub).length := by
  rw [announcementOf, ControlMessage.encode, List.length_append]
  exact Nat.le_add_right 2 _

namespace ZeroMQNode

/-! ## Sending -/

/-- The countdown is zero at the last publisher, and not before. -/
theorem announce_eq (client : Socket) (pubs : List PublisherInfo) :
    announce client (pubs.length - 1 : Int) pubs =
      (enveloped pubs).map fun part => .send (some client) (.pubAdded part.1) part.2 := by
  induction pubs with
  | nil => rfl
  | cons pub rest ih =>
      cases rest with
      | nil => rfl
      | cons next rest =>
          have more : (((pub :: next :: rest).length : Int) - 1 ≠ 0) := by
            simp only [List.length_cons]
            omega
          have countdown : (((pub :: next :: rest).length : Int) - 1 - 1) =
              ((next :: rest).length : Int) - 1 := by
            simp only [List.length_cons]
            omega
          rw [announce, countdown, ih, enveloped, List.map_cons, decide_eq_true more]

/-- The listing comes first, in an envelope of its own. -/
theorem added_effects {node : ZeroMQNode} {stub : NodeStub} (other : stub.uuid ≠ node.uuid) :
    (node.added stub).2 =
      (enveloped (node.localPubs.toList.map Prod.snd)).map (fun part =>
        .send (some ⟨stub.uuid, stub.address⟩) (.pubAdded part.1) part.2) ++
      ((node.connect stub).promote stub.uuid).2 := by
  have count : ((node.localPubs.size : Int) - 1) =
      ((node.localPubs.toList.map Prod.snd).length : Int) - 1 := by
    rw [List.length_map, ExtTreeMap.length_toList]
  simp only [added, if_neg other]
  rw [count, announce_eq]
  rfl

/-! ## Receiving -/

/-- An announcement is processed, whoever sent it. -/
theorem receive_announcementOf (node : ZeroMQNode) (remoteId : CString) (pub : PublisherInfo) :
    node.receive remoteId (announcementOf pub) = node.processPubAdded remoteId (announcementOf pub) := by
  rw [receive_of_pubAdded (messageType_announcementOf pub) (decodePub_announcementOf pub),
    processPubAdded, decodePub_announcementOf]

theorem run_announcements (node : ZeroMQNode) (remoteId : CString) (pubs : List PublisherInfo) :
    run step node (pubs.map fun pub => .message remoteId (announcementOf pub)) =
      run (fun node body => node.processPubAdded remoteId body) node (pubs.map announcementOf) := by
  induction pubs generalizing node with
  | nil => rfl
  | cons pub rest ih =>
      rw [List.map_cons, List.map_cons, run, run, step, receive_announcementOf, ih]

end ZeroMQNode

/-- The loop handles an announcement in an envelope, and forgets the sender with the last one. -/
theorem runPart_announcementOf (sender : Bytes) (pub : PublisherInfo) (more : Bool)
    (known : CString -> Bool) :
    runPart (some sender) ⟨announcementOf pub, more, known⟩ =
      (if more then some sender else none,
        [⟨sender, MessageType.pubAdded.code, announcementOf pub⟩]) := by
  simp only [runPart, two_le_length_announcementOf, if_true, messageType_announcementOf,
    ZeroMQNode.accepts, beq_self_eq_true, Bool.true_or]

/-- An announcement as it is heard, with the nodes that are known at that moment. -/
abbrev Hearing := PublisherInfo × (CString -> Bool)

def Hearing.part (heard : Hearing × Bool) : Part := ⟨announcementOf heard.1.1, heard.2, heard.1.2⟩

theorem run_enveloped (sender : Bytes) (hearings : List Hearing) (filled : hearings ≠ []) :
    run runPart (some sender) ((enveloped hearings).map Hearing.part) =
      (none, hearings.map fun heard =>
        ⟨sender, MessageType.pubAdded.code, announcementOf heard.1⟩) := by
  induction hearings with
  | nil => exact absurd rfl filled
  | cons heard rest ih =>
      cases rest with
      | nil => simp only [enveloped, List.map, Hearing.part, run, runPart_announcementOf]; rfl
      | cons next rest =>
          have later := ih (List.cons_ne_nil next rest)
          rw [enveloped, List.map_cons, List.map_cons, run, Hearing.part, runPart_announcementOf]
          simp only [if_true, later]
          rfl

namespace ZeroMQNode

/-! ## From the sender to the receiver -/

/-- What becomes of the publishers of a node when it discovers another one. -/
structure Announced (sender : ZeroMQNode) (stub : NodeStub) (pubs : List PublisherInfo) : Prop where
  /-- the publishers are sent as one envelope, before anything else -/
  sent : Exists fun links : List Effect =>
    (sender.added stub).2 = (enveloped pubs).map (fun part =>
      .send (some ⟨stub.uuid, stub.address⟩) (.pubAdded part.1) part.2) ++ links ∧
    forall socket message sndMore, .send socket message sndMore ∈ links ->
      sndMore = false ∧ message.type = .subscribe
  /-- the loop of a receiver handles every part once, and has no sender left over -/
  heard : forall (known : CString -> Bool) (hearings : List Hearing), hearings.map Prod.fst = pubs ->
    run runPart none (⟨sender.uuid.bytes, true, known⟩ :: (enveloped hearings).map Hearing.part) =
      (none, pubs.map fun pub =>
        ⟨sender.uuid.bytes, MessageType.pubAdded.code, announcementOf pub⟩)
  /-- the receiver does what it does when `processPubAdded` is called for one part after the other -/
  processed : forall receiver : ZeroMQNode,
    run loopStep (receiver, none) ((sender.uuid.bytes, true) :: enveloped (pubs.map announcementOf)) =
      (((run (fun node body => node.processPubAdded sender.uuid body) receiver
          (pubs.map announcementOf)).1, none),
        (run (fun node body => node.processPubAdded sender.uuid body) receiver
          (pubs.map announcementOf)).2)
  decoded : (pubs.map announcementOf).map decodePub = pubs.map some

private theorem run_loopStep_enveloped (receiver : ZeroMQNode) {sender : CString}
    (identified : sender.length = 36) {pubs : List PublisherInfo} (filled : pubs ≠ []) :
    run loopStep (receiver, none) ((sender.bytes, true) :: enveloped (pubs.map announcementOf)) =
      (((run (fun node body => node.processPubAdded sender body) receiver
          (pubs.map announcementOf)).1, none),
        (run (fun node body => node.processPubAdded sender body) receiver
          (pubs.map announcementOf)).2) := by
  have typed (bodies : List PublisherInfo) (body : Bytes) (member : body ∈ bodies.map announcementOf) :
      2 ≤ body.length := by
    obtain ⟨pub, _, rfl⟩ := List.mem_map.mp member
    exact two_le_length_announcementOf pub
  -- the loop looks at the last part on its own
  obtain ⟨earlier, last, rfl⟩ := (List.eq_nil_or_concat' pubs).resolve_left filled
  have split : (earlier ++ [last]).map announcementOf =
      earlier.map announcementOf ++ [announcementOf last] := by
    rw [List.map_append]
    rfl
  have accepted (known : CString -> Bool) :
      accepts known sender (messageType (announcementOf last)) = true := by
    rw [accepts, messageType_announcementOf, beq_self_eq_true, Bool.true_or]
  have messages := run_announcements receiver sender (earlier ++ [last])
  have handled := run_loopStep_envelope receiver identified (earlier.map announcementOf)
    (announcementOf last) (split ▸ typed (earlier ++ [last]))
  rw [CString.ofBytes_bytes, accepted, if_pos rfl, ← enveloped_append_singleton, ← split] at handled
  rw [handled, ← messages, List.map_map]
  rfl

/-- A newcomer is sent our publishers as one envelope, and whoever reads that envelope
processes every publisher once, in order and with the right sender. -/
theorem announcement_received (sender : ZeroMQNode) (stub : NodeStub)
    (newcomer : stub.uuid ≠ sender.uuid) (published : sender.localPubs ≠ ∅)
    (identified : sender.uuid.length = 36) :
    Announced sender stub (sender.localPubs.toList.map Prod.snd) := by
  have filled : sender.localPubs.toList.map Prod.snd ≠ [] := by
    intro none
    rw [List.map_eq_nil_iff, ExtTreeMap.toList_eq_nil_iff] at none
    exact published none
  refine ⟨⟨_, added_effects newcomer, ?_⟩, ?_, fun receiver => ?_, ?_⟩
  · intro socket message sndMore linked
    obtain ⟨unflagged, _, _, _, _, _, _, _, _, rfl⟩ := send_promote.mp linked
    exact ⟨unflagged, rfl⟩
  · intro known hearings same
    have opened : runPart none ⟨sender.uuid.bytes, true, known⟩ = (some sender.uuid.bytes, []) := by
      have length : sender.uuid.bytes.length = 36 := identified
      simp only [runPart, length, if_true]
    have some : hearings ≠ [] := by
      rintro rfl
      exact filled same.symm
    rw [run, opened, run_enveloped _ _ some, ← same, List.map_map]
    rfl
  · exact run_loopStep_enveloped receiver identified filled
  · rw [List.map_map]
    exact List.map_congr_left fun pub _ => decodePub_announcementOf pub

/-- Two publishers, the announcement of one of which is as long as an identity. -/
theorem announcement_received_long :
    let short := examplePublisher 97 (by decide) (.ofBytes [99])
    let long : PublisherInfo := ⟨.ofBytes (List.replicate 29 100), .ofBytes [120], 4243⟩
    let sender := (((init (repeatedUuid 98 (by decide))).addPublisher short).1.addPublisher long).1
    let stub := exampleStub 99 (by decide)
    (announcementOf long).length = 36 ∧ stub.uuid ≠ sender.uuid ∧ sender.localPubs ≠ ∅ ∧
      sender.uuid.length = 36 ∧ Announced sender stub [short, long] := by
  intro short long sender stub
  have different : stub.uuid ≠ sender.uuid := by decide +kernel
  have length : sender.uuid.length = 36 := by decide +kernel
  have listed : sender.localPubs.toList.map Prod.snd = [short, long] := by decide +kernel
  have filled : sender.localPubs ≠ ∅ := by
    intro none
    rw [none] at listed
    cases listed
  exact ⟨by decide +kernel, different, filled, length,
    listed ▸ announcement_received sender stub different filled length⟩

end ZeroMQNode

end Connection
end Umundo
