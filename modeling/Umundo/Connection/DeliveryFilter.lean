import Umundo.Connection.DataMessage
import Umundo.Connection.Node

namespace Umundo
namespace Connection

open Foundation Std

/-!
# Which messages a subscriber receives

The socket of a subscriber is subscribed to two byte strings, the name of its
channel and its own uuid.  Of a socket it is assumed that it accepts a message
exactly if the first part starts with one of these strings.

A publisher puts the name of its channel, or the uuid of one subscriber, into
the first part.  The strings that are compared are not terminated, so it is not
equality that decides but being a prefix, and channel names and uuids are not
kept apart.
-/

namespace ZeroMQSubscriber

/-- What the socket of a subscriber is subscribed to. -/
def filters (channelName uuid : CString) : List Bytes := [channelName.bytes, uuid.bytes]

/-- A socket accepts a message if its first part starts with a filter. -/
def accepts (filters : List Bytes) : List DataPart -> Bool
  | [] => false
  | first :: _ => filters.any fun filter => filter.isPrefixOf first.data

/-- A subscriber that is connected to a publisher receives a message of it. -/
def receives (channelName uuid : CString) (publisher : DataPublisher) (procUUID : CString)
    (message : Message) : Bool :=
  accepts (filters channelName uuid) (publisher.send procUUID message).2

/-- The message is meant for a subscriber: it is sent to everyone on the
subscriber's channel, or to the subscriber itself. -/
def MeantFor (channelName uuid : CString) (publisher : DataPublisher) (message : Message) : Prop :=
  message.metaMap[Message.subscriberKey]? = none ∧ publisher.channelName = channelName ∨
    message.metaMap[Message.subscriberKey]? = some uuid

/-- Neither the channel name nor the uuid of a subscriber begins the topic of a
message, unless the topic is the right one of the two. -/
def Apart (channelName uuid : CString) (publisher : DataPublisher) (message : Message) : Prop :=
  match message.metaMap[Message.subscriberKey]? with
  | none => publisher.channelName = channelName ∨
      ¬ channelName.bytes <+: publisher.channelName.bytes ∧
        ¬ uuid.bytes <+: publisher.channelName.bytes
  | some subscriber => subscriber = uuid ∨
      ¬ channelName.bytes <+: subscriber.bytes ∧ ¬ uuid.bytes <+: subscriber.bytes

/-- The terminator of a topic is no part of what a filter can match. -/
theorem prefix_terminated_iff (filter topic : CString) :
    filter.bytes <+: topic.bytes ++ [0] <-> filter.bytes <+: topic.bytes := by
  rw [List.prefix_concat_iff]
  constructor
  · rintro (whole | shorter)
    · have terminator : (0 : UInt8) ∈ filter.bytes := by
        rw [whole]
        exact List.mem_append_right topic.bytes List.mem_cons_self
      exact absurd terminator filter.nulFree
    · exact shorter
  · exact Or.inr

/-- A message is received if the channel name or the uuid of the subscriber is a
prefix of its topic. -/
theorem receives_iff (channelName uuid procUUID : CString) (publisher : DataPublisher)
    (message : Message) (active : publisher.isSuspended = false) :
    receives channelName uuid publisher procUUID message = true <->
      channelName.bytes <+: (publisher.topic message).bytes ∨
        uuid.bytes <+: (publisher.topic message).bytes := by
  rw [receives, DataPublisher.send, active]
  simp only [Bool.false_eq_true, if_false, List.cons_append, accepts, filters, List.any_cons,
    List.any_nil, Bool.or_false, Bool.or_eq_true, List.isPrefixOf_iff_prefix,
    prefix_terminated_iff]

/-- A connected subscriber receives exactly what is meant for it if, and only
if, its channel name and its uuid are kept apart from the topic. -/
theorem receives_meant_iff (channelName uuid procUUID : CString) (publisher : DataPublisher)
    (message : Message) (active : publisher.isSuspended = false) :
    (receives channelName uuid publisher procUUID message = true <->
      MeantFor channelName uuid publisher message) <->
      Apart channelName uuid publisher message := by
  rw [receives_iff channelName uuid procUUID publisher message active, DataPublisher.topic,
    ExtTreeMap.getD_eq_getD_getElem?, MeantFor, Apart]
  cases message.metaMap[Message.subscriberKey]? with
  | none =>
      simp only [Option.getD_none, true_and, reduceCtorEq, or_false]
      by_cases same : publisher.channelName = channelName
      · simp [same]
      · simp [same]
  | some subscriber =>
      simp only [Option.getD_some, reduceCtorEq, false_and, false_or, Option.some.injEq]
      by_cases same : subscriber = uuid
      · simp [same]
      · simp [same]

/-- Subscriber and publisher on one channel, and a message to everyone. -/
theorem receives_meant_iff_broadcast :
    receives ⟨[97], by decide⟩ (repeatedUuid 98 (by decide))
        ⟨repeatedUuid 99 (by decide), ⟨[97], by decide⟩, false⟩ .empty .empty = true <->
      MeantFor ⟨[97], by decide⟩ (repeatedUuid 98 (by decide))
        ⟨repeatedUuid 99 (by decide), ⟨[97], by decide⟩, false⟩ .empty :=
  (receives_meant_iff _ _ _ _ _ rfl).mpr (.inl rfl)

/-- Subscriber and publisher on channel `a`, and a message to another
subscriber whose uuid begins with an `a`. -/
theorem receives_addressed_to_another :
    receives ⟨[97], by decide⟩ (repeatedUuid 98 (by decide))
        ⟨repeatedUuid 99 (by decide), ⟨[97], by decide⟩, false⟩ .empty
        (Message.setMeta .empty Message.subscriberKey (repeatedUuid 97 (by decide))) = true ∧
      ¬ MeantFor ⟨[97], by decide⟩ (repeatedUuid 98 (by decide))
        ⟨repeatedUuid 99 (by decide), ⟨[97], by decide⟩, false⟩
        (Message.setMeta .empty Message.subscriberKey (repeatedUuid 97 (by decide))) := by
  refine ⟨by decide +kernel, ?_⟩
  unfold MeantFor
  decide +kernel

end ZeroMQSubscriber

end Connection
end Umundo
