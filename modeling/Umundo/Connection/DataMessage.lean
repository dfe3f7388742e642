import Umundo.Foundation.CString
import Umundo.Foundation.Table
import Umundo.Foundation.Machine

namespace Umundo
namespace Connection

open Foundation Std

/-!
# Data messages

A publisher sends a message as an envelope: the topic, one part for every
entry of the message's meta map, and the payload.  A subscriber reads the
parts one by one and hands the message to its receiver when it has read the
last one.  It has no other way to tell the topic from a meta entry than to
compare the length of the first string in a part with the size of the part.

The keys and values of a meta map are strings without a terminator inside.
Reading a string beyond the end of a part is an outcome of its own.
-/

/-- A message with its meta map, `_meta` in the source. -/
structure Message where
  data : Bytes
  metaMap : Table CString CString

namespace Message

/-- `new Message()` -/
def empty : Message := ⟨[], ∅⟩

def setMeta (message : Message) (key value : CString) : Message :=
  { message with metaMap := message.metaMap.insert key value }

def setData (message : Message) (data : Bytes) : Message :=
  { message with data := data }

/-! The keys that the transport writes or looks at. -/

def channelKey : CString := .ofBytes "channel".toUTF8.toList

def subscriberKey : CString := .ofBytes "subscriber".toUTF8.toList

def publisherKey : CString := .ofBytes "publisher".toUTF8.toList

def procKey : CString := .ofBytes "proc".toUTF8.toList

end Message

/-- One part of an envelope, with the flag that more parts follow. -/
structure DataPart where
  data : Bytes
  more : Bool
deriving DecidableEq

/-! ## Sending -/

/-- What a publisher needs to send a message. -/
structure DataPublisher where
  uuid : CString
  channelName : CString
  isSuspended : Bool

namespace DataPublisher

/-- The first part: an explicit destination, or everyone on the channel. -/
def topic (publisher : DataPublisher) (message : Message) : CString :=
  message.metaMap.getD Message.subscriberKey publisher.channelName

/-- The mandatory fields of the meta map. -/
def complete (publisher : DataPublisher) (procUUID : CString) (message : Message) : Message :=
  (message.setMeta Message.publisherKey publisher.uuid).setMeta Message.procKey procUUID

/-- A key and its value, both terminated. -/
def metaPart (entry : CString × CString) : DataPart :=
  ⟨entry.1.bytes ++ 0 :: (entry.2.bytes ++ [0]), true⟩

/-- Send a message.  The sender's own message keeps the mandatory fields. -/
def send (publisher : DataPublisher) (procUUID : CString) (message : Message) :
    Message × List DataPart :=
  if publisher.isSuspended then (message, [])
  else
    let completed := publisher.complete procUUID message
    (completed,
      ⟨(publisher.topic message).bytes ++ [0], true⟩ ::
        completed.metaMap.toList.map metaPart ++ [⟨completed.data, false⟩])

end DataPublisher

/-! ## Receiving -/

/-- What the receive loop does with an envelope. -/
inductive Reception where
  /-- `_receiver->receive(msg)` -/
  | received (message : Message)
  /-- a part that is no meta entry ends the loop with a warning -/
  | malformed (data : Bytes)
  /-- a string is read beyond the end of its part -/
  | overrun (data : Bytes)

namespace ZeroMQSubscriber

/-- Read one part into the message under construction.  When the loop is left,
the next iteration of `run` starts with a new message. -/
def recvPart (message : Message) (part : DataPart) : Message × List Reception :=
  if part.more then
    match readCString part.data with
    | none => (.empty, [.overrun part.data])
    | some (key, rest) =>
        if key.length + 1 = part.data.length ∧ key ∉ message.metaMap then
          (message.setMeta Message.channelKey key, [])
        else
          match readCString rest with
          | none => (.empty, [.overrun part.data])
          | some (value, _) =>
              if key.length + value.length + 2 ≠ part.data.length then
                (.empty, [.malformed part.data])
              else (message.setMeta key value, [])
  else (.empty, [.received (message.setData part.data)])

end ZeroMQSubscriber

/-! ## Round trip -/

namespace ZeroMQSubscriber

/-- The topic is read into a fresh message. -/
theorem recvPart_topic (topic : CString) :
    recvPart .empty ⟨topic.bytes ++ [0], true⟩ =
      (Message.setMeta .empty Message.channelKey topic, []) := by
  have fits : topic.length + 1 = (topic.bytes ++ [0]).length ∧ topic ∉ Message.empty.metaMap :=
    ⟨by simp [CString.length], ExtTreeMap.not_mem_empty⟩
  simp only [recvPart, if_true, readCString_append, if_pos fits]

/-- A meta entry is never taken for a topic: it is at least two bytes longer
than its key. -/
theorem recvPart_metaPart (message : Message) (entry : CString × CString) :
    recvPart message (DataPublisher.metaPart entry) = (message.setMeta entry.1 entry.2, []) := by
  rcases entry with ⟨key, value⟩
  have size : (key.bytes ++ 0 :: (value.bytes ++ [0])).length = key.length + value.length + 2 := by
    simp only [List.length_append, List.length_cons, List.length_nil, CString.length]
    omega
  have longer : ¬ (key.length + 1 = (key.bytes ++ 0 :: (value.bytes ++ [0])).length ∧
      key ∉ message.metaMap) := by
    rw [size]
    omega
  simp only [recvPart, DataPublisher.metaPart, if_true, readCString_append, if_neg longer]
  exact if_neg (not_not_intro size.symm)

/-- The entries of a meta map are read one after the other. -/
theorem run_recvPart_entries (message : Message) (entries : List (CString × CString)) :
    run recvPart message (entries.map DataPublisher.metaPart) =
      ({ message with metaMap := message.metaMap.insertMany entries }, []) := by
  induction entries generalizing message with
  | nil =>
      rw [List.map_nil, run, ExtTreeMap.insertMany_nil]
  | cons entry rest ih =>
      rw [List.map_cons, run, recvPart_metaPart, ih, ExtTreeMap.insertMany_cons]
      rfl

/-- What a subscriber makes of an envelope: the topic under `channel`,
overridden by the completed meta map of the sender, and the payload. -/
def delivered (publisher : DataPublisher) (procUUID : CString) (message : Message) : Message :=
  ⟨message.data,
    ((∅ : Table CString CString).insert Message.channelKey (publisher.topic message)).insertMany
      (publisher.complete procUUID message).metaMap.toList⟩

theorem run_recvPart_send (publisher : DataPublisher) (procUUID : CString) (message : Message)
    (active : publisher.isSuspended = false) :
    run recvPart .empty (publisher.send procUUID message).2 =
      (.empty, [.received (delivered publisher procUUID message)]) := by
  have parts : (publisher.send procUUID message).2 =
      ⟨(publisher.topic message).bytes ++ [0], true⟩ ::
        ((publisher.complete procUUID message).metaMap.toList.map DataPublisher.metaPart ++
          [⟨message.data, false⟩]) := by
    rw [DataPublisher.send, active]
    rfl
  rw [parts, run, recvPart_topic, run_append, run_recvPart_entries]
  rfl

theorem getElem?_delivered (publisher : DataPublisher) (procUUID : CString) (message : Message)
    (key : CString) :
    (delivered publisher procUUID message).metaMap[key]? =
      ((publisher.complete procUUID message).metaMap[key]?).or
        (if key = Message.channelKey then some (publisher.topic message) else none) := by
  rw [delivered, Table.getElem?_insertMany_toList, ExtTreeMap.getElem?_insert,
    ExtTreeMap.getElem?_empty]
  simp only [LawfulEqCmp.compare_eq_iff_eq, eq_comm (b := key)]

theorem getElem?_complete (publisher : DataPublisher) (procUUID : CString) (message : Message)
    (key : CString) :
    (publisher.complete procUUID message).metaMap[key]? =
      if key = Message.procKey then some procUUID
      else if key = Message.publisherKey then some publisher.uuid
      else message.metaMap[key]? := by
  rw [DataPublisher.complete, Message.setMeta, Message.setMeta, ExtTreeMap.getElem?_insert,
    ExtTreeMap.getElem?_insert]
  simp only [LawfulEqCmp.compare_eq_iff_eq, eq_comm (b := key)]

/-- Every message that an active publisher sends is received once, with its
payload and with its meta map.  The topic is visible under `channel` unless the
sender has used that key itself. -/
theorem received_of_send (uuid channelName procUUID : CString) (message : Message) :
    Exists fun received : Message =>
      run recvPart .empty (DataPublisher.send ⟨uuid, channelName, false⟩ procUUID message).2 =
          (.empty, [.received received]) ∧
        received.data = message.data ∧
        forall key : CString, received.metaMap[key]? =
          if key = Message.procKey then some procUUID
          else if key = Message.publisherKey then some uuid
          else message.metaMap[key]?.or
            (if key = Message.channelKey then
              some (message.metaMap[Message.subscriberKey]?.getD channelName) else none) := by
  refine ⟨delivered ⟨uuid, channelName, false⟩ procUUID message,
    run_recvPart_send _ procUUID message rfl, rfl, ?_⟩
  intro key
  rw [getElem?_delivered, getElem?_complete]
  by_cases proc : key = Message.procKey
  · rw [if_pos proc, if_pos proc, Option.some_or]
  rw [if_neg proc, if_neg proc]
  by_cases publisher : key = Message.publisherKey
  · rw [if_pos publisher, if_pos publisher, Option.some_or]
  rw [if_neg publisher, if_neg publisher, DataPublisher.topic, ExtTreeMap.getD_eq_getD_getElem?]

end ZeroMQSubscriber

end Connection
end Umundo
