import Umundo.Foundation.CString

namespace Umundo
namespace Connection

open Foundation

/-!
# Control messages between nodes

Nodes tell each other about publishers and subscriptions on their node
sockets.  A control message is a two-byte type followed by a publisher record
and, for the two subscription messages, by the uuid of a subscriber.  The
readers are partial: a string that is not terminated inside the message, or a
port that does not fit into it, leaves the buffer and is reported as `none`.

A message is accepted only if the readers end exactly at its size.  In the
source the readers run first and the sizes are compared afterwards.  A reader
that left the buffer has passed the size already, so such a message can only
be rejected by that comparison; here both rejections are the same `none`.
-/

/-- `Message::Type`. -/
inductive MessageType where
  | data
  | pubAdded
  | pubRemoved
  | nodeInfo
  | subscribe
  | unsubscribe
deriving DecidableEq

def MessageType.code : MessageType -> UInt16
  | .data => 0x0000
  | .pubAdded => 0x0004
  | .pubRemoved => 0x0005
  | .nodeInfo => 0x0006
  | .subscribe => 0x0007
  | .unsubscribe => 0x0008

theorem MessageType.eq_of_code {first second : MessageType} (same : first.code = second.code) :
    first = second := by
  cases first <;> cases second <;> first | rfl | exact absurd same (by decide)

/-- The part of a publisher that is put on the wire. -/
structure PublisherInfo where
  channelName : CString
  uuid : CString
  port : UInt16
deriving DecidableEq

/-! ## Publisher and subscriber records -/

/-- Write `channel\0uuid\0port`. -/
def writePubInfo (pub : PublisherInfo) : Bytes :=
  pub.channelName.bytes ++ 0 :: (pub.uuid.bytes ++ 0 :: toNetwork pub.port)

def readPubInfo (buffer : Bytes) : Option (PublisherInfo × Bytes) :=
  match readCString buffer with
  | none => none
  | some (channelName, afterChannel) =>
      match readCString afterChannel with
      | none => none
      | some (uuid, high :: low :: rest) => some (⟨channelName, uuid, ofNetwork high low⟩, rest)
      | some (_, _) => none

/-- Write the terminated uuid of a subscriber. -/
def writeSubInfo (uuid : CString) : Bytes := uuid.bytes ++ [0]

def readSubInfo (buffer : Bytes) : Option (CString × Bytes) := readCString buffer

theorem readPubInfo_writePubInfo (pub : PublisherInfo) (rest : Bytes) :
    readPubInfo (writePubInfo pub ++ rest) = some (pub, rest) := by
  rcases pub with ⟨channelName, uuid, port⟩
  have buffer : writePubInfo ⟨channelName, uuid, port⟩ ++ rest =
      channelName.bytes ++ 0 :: (uuid.bytes ++ 0 :: (toNetwork port ++ rest)) := by
    simp only [writePubInfo, List.append_assoc, List.cons_append]
  rw [buffer, readPubInfo, readCString_append]
  dsimp only
  rw [readCString_append]
  simp only [toNetwork, List.cons_append, List.nil_append, ofNetwork_toNetwork]

/-- A publisher record is read exactly from the bytes that were written for it. -/
theorem readPubInfo_eq_some_iff (buffer rest : Bytes) (pub : PublisherInfo) :
    readPubInfo buffer = some (pub, rest) <-> buffer = writePubInfo pub ++ rest := by
  constructor
  · intro read
    unfold readPubInfo at read
    cases channelRead : readCString buffer with
    | none =>
        rw [channelRead] at read
        cases read
    | some channel =>
        rcases channel with ⟨channelName, afterChannel⟩
        rw [channelRead] at read
        cases uuidRead : readCString afterChannel with
        | none =>
            simp only [uuidRead] at read
            cases read
        | some found =>
            rcases found with ⟨uuid, _ | ⟨high, _ | ⟨low, remaining⟩⟩⟩
            · simp only [uuidRead] at read
              cases read
            · simp only [uuidRead] at read
              cases read
            · simp only [uuidRead] at read
              cases read
              rw [eq_append_of_readCString channelRead, eq_append_of_readCString uuidRead]
              simp only [writePubInfo, toNetwork_ofNetwork, List.append_assoc, List.cons_append,
                List.nil_append]
  · intro written
    rw [written]
    exact readPubInfo_writePubInfo pub rest

theorem readSubInfo_eq_some_iff (buffer rest : Bytes) (uuid : CString) :
    readSubInfo buffer = some (uuid, rest) <-> buffer = writeSubInfo uuid ++ rest := by
  rw [readSubInfo, readCString_eq_some_iff, writeSubInfo, List.append_assoc]
  exact Iff.rfl

/-! ## Whole messages -/

/-- The four messages a node sends on a node socket. -/
inductive ControlMessage where
  | pubAdded (pub : PublisherInfo)
  | pubRemoved (pub : PublisherInfo)
  | subscribe (pub : PublisherInfo) (subId : CString)
  | unsubscribe (pub : PublisherInfo) (subId : CString)
deriving DecidableEq

namespace ControlMessage

def type : ControlMessage -> MessageType
  | pubAdded _ => .pubAdded
  | pubRemoved _ => .pubRemoved
  | subscribe _ _ => .subscribe
  | unsubscribe _ _ => .unsubscribe

/-- The bytes handed to the socket. -/
def encode (message : ControlMessage) : Bytes :=
  toNetwork message.type.code ++
    match message with
    | pubAdded pub => writePubInfo pub
    | pubRemoved pub => writePubInfo pub
    | subscribe pub subId => writePubInfo pub ++ writeSubInfo subId
    | unsubscribe pub subId => writePubInfo pub ++ writeSubInfo subId

end ControlMessage

/-- The first two bytes of a message.  It is only asked of messages that
have them. -/
def messageType : Bytes -> UInt16
  | high :: low :: _ => ofNetwork high low
  | _ => 0

/-- Decode the body of a publisher announcement, which must end with it. -/
def decodePub (message : Bytes) : Option PublisherInfo :=
  match readPubInfo (message.drop 2) with
  | some (pub, []) => some pub
  | _ => none

/-- Decode the body of a subscription, which must end with it. -/
def decodeSubscription (message : Bytes) : Option (PublisherInfo × CString) :=
  match readPubInfo (message.drop 2) with
  | none => none
  | some (pub, afterPub) =>
      match readSubInfo afterPub with
      | some (subId, []) => some (pub, subId)
      | _ => none

theorem messageType_toNetwork (code : UInt16) (body : Bytes) :
    messageType (toNetwork code ++ body) = code :=
  ofNetwork_toNetwork code

/-- A publisher announcement is accepted exactly if its body is the record of
the publisher, whatever its type. -/
theorem decodePub_eq_some_iff (message : Bytes) (pub : PublisherInfo) :
    decodePub message = some pub <-> message.drop 2 = writePubInfo pub := by
  have whole := readPubInfo_eq_some_iff (message.drop 2) [] pub
  rw [List.append_nil] at whole
  rw [← whole, decodePub]
  cases readPubInfo (message.drop 2) with
  | none => simp
  | some found =>
      rcases found with ⟨other, _ | ⟨byte, rest⟩⟩
      · simp
      · simp

theorem decodeSubscription_eq_some_iff (message : Bytes) (pub : PublisherInfo) (subId : CString) :
    decodeSubscription message = some (pub, subId) <->
      message.drop 2 = writePubInfo pub ++ writeSubInfo subId := by
  constructor
  · intro decoded
    unfold decodeSubscription at decoded
    cases pubRead : readPubInfo (message.drop 2) with
    | none =>
        rw [pubRead] at decoded
        cases decoded
    | some info =>
        rcases info with ⟨info, afterPub⟩
        rw [pubRead] at decoded
        cases subRead : readSubInfo afterPub with
        | none =>
            simp only [subRead] at decoded
            cases decoded
        | some found =>
            rcases found with ⟨uuid, _ | ⟨byte, rest⟩⟩
            · simp only [subRead] at decoded
              cases decoded
              rw [(readPubInfo_eq_some_iff _ _ _).mp pubRead,
                (readSubInfo_eq_some_iff _ _ _).mp subRead, List.append_nil]
            · simp only [subRead] at decoded
              cases decoded
  · intro written
    have pubRead := (readPubInfo_eq_some_iff _ (writeSubInfo subId) pub).mpr written
    have subRead := (readSubInfo_eq_some_iff (writeSubInfo subId) [] subId).mpr
      (List.append_nil _).symm
    simp only [decodeSubscription, pubRead, subRead]

theorem decodePub_written (code : UInt16) (pub : PublisherInfo) :
    decodePub (toNetwork code ++ writePubInfo pub) = some pub :=
  (decodePub_eq_some_iff _ pub).mpr rfl

theorem decodeSubscription_written (code : UInt16) (pub : PublisherInfo) (subId : CString) :
    decodeSubscription (toNetwork code ++ (writePubInfo pub ++ writeSubInfo subId)) =
      some (pub, subId) :=
  (decodeSubscription_eq_some_iff _ pub subId).mpr rfl

end Connection
end Umundo
