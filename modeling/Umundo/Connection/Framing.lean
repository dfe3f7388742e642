import Umundo.Connection.DataMessage

namespace Umundo
namespace Connection

open Foundation Std

/-!
# The receive loop over envelopes with arbitrary bytes

A part that is no meta entry makes the receive loop give up the message under
construction.  It does so without reading the rest of the envelope, so the
following parts are read into a new message, and the last part of the envelope
delivers that message.

What an envelope means is stated here without reference to the loop: every
part but the last contributes one entry, and the payload is the last part.
Exactly if every envelope has this form does the loop treat each envelope by
itself.
-/

/-- A multipart message: the parts that are flagged with more to follow, and
the last one. -/
structure DataEnvelope where
  parts : List Bytes
  payload : Bytes

namespace DataEnvelope

/-- The parts as they are received one after the other. -/
def flagged (envelope : DataEnvelope) : List DataPart :=
  envelope.parts.map (fun data => ⟨data, true⟩) ++ [⟨envelope.payload, false⟩]

/-- The key and the value of a part of the form `key\0value\0`. -/
def metaEntry (data : Bytes) : Option (CString × CString) :=
  match readCString data with
  | none => none
  | some (key, rest) =>
      match readCString rest with
      | some (value, []) => some (key, value)
      | _ => none

/-- A part that is one terminated string names the channel. -/
def topicEntry (data : Bytes) : Option (CString × CString) :=
  match readCString data with
  | some (topic, []) => some (Message.channelKey, topic)
  | _ => none

/-- What a part contributes to a message. -/
def contribution (data : Bytes) : Option (CString × CString) :=
  (metaEntry data).or (topicEntry data)

/-- Add what every part contributes. -/
def assemble (message : Message) : List Bytes -> Option Message
  | [] => some message
  | data :: rest =>
      match contribution data with
      | none => none
      | some (key, value) => assemble (message.setMeta key value) rest

/-- The message that is built from all parts of an envelope. -/
def message (envelope : DataEnvelope) : Option Message :=
  (assemble .empty envelope.parts).map fun message => message.setData envelope.payload

/-- Every part between the first and the last one is a meta entry. -/
def MetaEntries (envelope : DataEnvelope) : Prop :=
  forall data, data ∈ envelope.parts.tail -> (metaEntry data).isSome = true

/-- The first part names the channel or is a meta entry, too. -/
def WellFormed (envelope : DataEnvelope) : Prop :=
  envelope.MetaEntries ∧
    forall data, envelope.parts.head? = some data -> (contribution data).isSome = true

end DataEnvelope

/-- The message that is handed to the receiver, if any. -/
def Reception.message : Reception -> Option Message
  | .received message => some message
  | .malformed _ => none
  | .overrun _ => none

namespace ZeroMQSubscriber

/-- The messages that the loop delivers for a sequence of envelopes. -/
def deliveries (envelopes : List DataEnvelope) : List Message :=
  (run recvPart .empty (envelopes.flatMap DataEnvelope.flagged)).2.filterMap Reception.message

/-- Each envelope has an outcome of its own: nothing, or the message that is
built from all of its parts, and nothing if one of its meta parts is no meta
entry.  The outcomes are what is delivered. -/
def FramesByEnvelope (envelopes : List DataEnvelope) : Prop :=
  Exists fun outcome : DataEnvelope -> Option Message =>
    (forall envelope, envelope ∈ envelopes -> forall message, outcome envelope = some message ->
      envelope.message = some message) ∧
    (forall envelope, envelope ∈ envelopes -> ¬ envelope.MetaEntries -> outcome envelope = none) ∧
    deliveries envelopes = envelopes.filterMap outcome

/-! ## Parts -/

theorem metaEntry_eq_some_iff (data : Bytes) (key value : CString) :
    DataEnvelope.metaEntry data = some (key, value) <->
      data = (DataPublisher.metaPart (key, value)).data := by
  constructor
  · intro read
    unfold DataEnvelope.metaEntry at read
    cases keyRead : readCString data with
    | none =>
        rw [keyRead] at read
        cases read
    | some found =>
        rcases found with ⟨text, rest⟩
        rw [keyRead] at read
        cases valueRead : readCString rest with
        | none =>
            simp only [valueRead] at read
            cases read
        | some last =>
            rcases last with ⟨other, _ | ⟨byte, remaining⟩⟩
            · simp only [valueRead] at read
              cases read
              rw [eq_append_of_readCString keyRead, eq_append_of_readCString valueRead]
              rfl
            · simp only [valueRead] at read
              cases read
  · intro written
    rw [written, DataEnvelope.metaEntry, DataPublisher.metaPart]
    simp only [readCString_append]

theorem topicEntry_eq_some {data : Bytes} {entry : CString × CString}
    (read : DataEnvelope.topicEntry data = some entry) :
    entry.1 = Message.channelKey ∧ data = entry.2.bytes ++ [0] := by
  unfold DataEnvelope.topicEntry at read
  cases topicRead : readCString data with
  | none =>
      rw [topicRead] at read
      cases read
  | some found =>
      rcases found with ⟨topic, _ | ⟨byte, rest⟩⟩
      · rw [topicRead] at read
        cases read
        exact ⟨rfl, eq_append_of_readCString topicRead⟩
      · rw [topicRead] at read
        cases read

/-- The loop reads a meta entry wherever it stands. -/
theorem recvPart_of_metaEntry (message : Message) {data : Bytes} {entry : CString × CString}
    (read : DataEnvelope.metaEntry data = some entry) :
    recvPart message ⟨data, true⟩ = (message.setMeta entry.1 entry.2, []) := by
  rw [(metaEntry_eq_some_iff data entry.1 entry.2).mp read]
  exact recvPart_metaPart message entry

/-- At the beginning of a message the loop reads whatever contributes. -/
theorem recvPart_of_contribution {data : Bytes} {entry : CString × CString}
    (read : DataEnvelope.contribution data = some entry) :
    recvPart .empty ⟨data, true⟩ = (Message.setMeta .empty entry.1 entry.2, []) := by
  rcases Option.or_eq_some_iff.mp read with asEntry | ⟨_, asTopic⟩
  · exact recvPart_of_metaEntry .empty asEntry
  · obtain ⟨channel, written⟩ := topicEntry_eq_some asTopic
    rw [written, channel]
    exact recvPart_topic entry.2

/-- A part with more to follow delivers nothing. -/
theorem recvPart_more (message : Message) (data : Bytes) :
    (recvPart message ⟨data, true⟩).2.filterMap Reception.message = [] := by
  rw [recvPart, if_pos rfl]
  cases readCString data with
  | none => rfl
  | some found =>
      rcases found with ⟨key, rest⟩
      dsimp only
      split
      · rfl
      · cases readCString rest with
        | none => rfl
        | some last =>
            dsimp only
            split
            · rfl
            · rfl

/-! ## Envelopes -/

theorem run_recvPart_more (message : Message) (parts : List Bytes) :
    (run recvPart message (parts.map fun data => ⟨data, true⟩)).2.filterMap Reception.message =
      [] := by
  induction parts generalizing message with
  | nil => rfl
  | cons data rest ih =>
      rw [List.map_cons, run, List.filterMap_append, recvPart_more, ih, List.nil_append]

/-- Whatever an envelope consists of, its last part delivers one message and
leaves the loop at the beginning of a new one. -/
theorem run_recvPart_flagged (envelope : DataEnvelope) :
    Exists fun message : Message =>
      (run recvPart .empty envelope.flagged).1 = .empty ∧
      (run recvPart .empty envelope.flagged).2.filterMap Reception.message = [message] := by
  rw [DataEnvelope.flagged, run_append]
  refine ⟨(run recvPart .empty (envelope.parts.map fun data => ⟨data, true⟩)).1.setData
    envelope.payload, rfl, ?_⟩
  rw [List.filterMap_append, run_recvPart_more, List.nil_append]
  rfl

theorem deliveries_cons (envelope : DataEnvelope) (envelopes : List DataEnvelope) :
    deliveries (envelope :: envelopes) =
      (run recvPart .empty envelope.flagged).2.filterMap Reception.message ++
        deliveries envelopes := by
  obtain ⟨_, fresh, _⟩ := run_recvPart_flagged envelope
  rw [deliveries, List.flatMap_cons, run_append, fresh, List.filterMap_append]
  rfl

/-- Every envelope delivers a message, malformed or not. -/
theorem length_deliveries (envelopes : List DataEnvelope) :
    (deliveries envelopes).length = envelopes.length := by
  induction envelopes with
  | nil => rfl
  | cons envelope rest ih =>
      obtain ⟨_, _, delivered⟩ := run_recvPart_flagged envelope
      rw [deliveries_cons, delivered, List.length_append, ih, List.length_singleton,
        List.length_cons, Nat.add_comm]

/-- Meta entries are collected one by one. -/
theorem run_recvPart_metaEntries (message : Message) (parts : List Bytes)
    (entries : forall data, data ∈ parts -> (DataEnvelope.metaEntry data).isSome = true) :
    Exists fun assembled : Message =>
      run recvPart message (parts.map fun data => ⟨data, true⟩) = (assembled, []) ∧
      DataEnvelope.assemble message parts = some assembled := by
  induction parts generalizing message with
  | nil => exact ⟨message, rfl, rfl⟩
  | cons data rest ih =>
      obtain ⟨entry, read⟩ := Option.isSome_iff_exists.mp (entries data List.mem_cons_self)
      obtain ⟨assembled, collected, whole⟩ := ih (message.setMeta entry.1 entry.2)
        (fun other member => entries other (List.mem_cons_of_mem data member))
      have contributes : DataEnvelope.contribution data = some entry := by
        rw [DataEnvelope.contribution, read, Option.some_or]
      refine ⟨assembled, ?_, ?_⟩
      · rw [List.map_cons, run, recvPart_of_metaEntry message read, collected, List.append_nil]
      · rw [DataEnvelope.assemble, contributes]
        exact whole

/-- A well-formed envelope is read into the message that is built from all of
its parts. -/
theorem run_recvPart_wellFormed (envelope : DataEnvelope) (wellFormed : envelope.WellFormed) :
    Exists fun message : Message => envelope.message = some message ∧
      (run recvPart .empty envelope.flagged).2.filterMap Reception.message = [message] := by
  rcases envelope with ⟨_ | ⟨first, metas⟩, payload⟩
  · exact ⟨Message.empty.setData payload, rfl, rfl⟩
  · obtain ⟨entry, read⟩ := Option.isSome_iff_exists.mp (wellFormed.2 first rfl)
    obtain ⟨assembled, collected, whole⟩ :=
      run_recvPart_metaEntries (Message.setMeta .empty entry.1 entry.2) metas wellFormed.1
    refine ⟨assembled.setData payload, ?_, ?_⟩
    · rw [DataEnvelope.message, DataEnvelope.assemble, read]
      dsimp only
      rw [whole]
      rfl
    · rw [DataEnvelope.flagged, List.map_cons, List.cons_append, run,
        recvPart_of_contribution read, run_append, collected]
      rfl

theorem deliveries_of_wellFormed (envelopes : List DataEnvelope)
    (wellFormed : forall envelope, envelope ∈ envelopes -> envelope.WellFormed) :
    deliveries envelopes = envelopes.filterMap DataEnvelope.message := by
  induction envelopes with
  | nil => rfl
  | cons envelope rest ih =>
      obtain ⟨message, built, delivered⟩ :=
        run_recvPart_wellFormed envelope (wellFormed envelope List.mem_cons_self)
      rw [deliveries_cons, delivered, List.filterMap_cons, built,
        ih fun other member => wellFormed other (List.mem_cons_of_mem envelope member)]
      rfl

/-- The first part of an envelope that a message was built from contributes. -/
theorem contribution_of_message {envelope : DataEnvelope} {message : Message}
    (built : envelope.message = some message) (data : Bytes)
    (first : envelope.parts.head? = some data) :
    (DataEnvelope.contribution data).isSome = true := by
  rcases envelope with ⟨_ | ⟨head, metas⟩, payload⟩
  · cases first
  · cases first
    rw [DataEnvelope.message, DataEnvelope.assemble] at built
    cases contributes : DataEnvelope.contribution data with
    | none =>
        rw [contributes] at built
        cases built
    | some entry => rfl

/-- The loop treats each envelope by itself exactly if every one of them is well
formed.  Any other envelope delivers a message that is not built from all of its
parts. -/
theorem framesByEnvelope_iff (envelopes : List DataEnvelope) :
    FramesByEnvelope envelopes <->
      forall envelope, envelope ∈ envelopes -> envelope.WellFormed := by
  constructor
  · rintro ⟨outcome, whole, dropped, delivered⟩ envelope member
    -- There are as many deliveries as envelopes, so every envelope has an outcome.
    have counted : (envelopes.filterMap outcome).length = envelopes.length := by
      rw [← delivered, length_deliveries]
    have settled := List.filterMap_length_eq_length.mp counted envelope member
    obtain ⟨message, found⟩ := Option.isSome_iff_exists.mp settled
    refine ⟨?_, contribution_of_message (whole envelope member message found)⟩
    by_contra malformed
    rw [dropped envelope member malformed] at found
    cases found
  · intro wellFormed
    refine ⟨DataEnvelope.message, fun _ _ _ built => built, ?_,
      deliveries_of_wellFormed envelopes wellFormed⟩
    intro envelope member malformed
    exact absurd (wellFormed envelope member).1 malformed

/-- An envelope with a byte behind the second terminator of its meta part.  The loop
delivers its payload in a message without any entry. -/
theorem deliveries_malformed :
    deliveries [⟨[[97, 0], [107, 0, 118, 0, 120]], [1, 2]⟩] = [⟨[1, 2], ∅⟩] ∧
      ¬ FramesByEnvelope [⟨[[97, 0], [107, 0, 118, 0, 120]], [1, 2]⟩] := by
  refine ⟨rfl, ?_⟩
  rintro ⟨outcome, _, dropped, delivered⟩
  have unread : ¬ DataEnvelope.MetaEntries ⟨[[97, 0], [107, 0, 118, 0, 120]], [1, 2]⟩ := by
    intro entries
    exact absurd (entries [107, 0, 118, 0, 120] List.mem_cons_self) (by decide)
  rw [List.filterMap_cons, dropped _ List.mem_cons_self unread] at delivered
  cases delivered

end ZeroMQSubscriber

end Connection
end Umundo
