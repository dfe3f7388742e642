import Umundo.Connection.NodeTables
import Umundo.Foundation.Memory

namespace Umundo
namespace Connection

open Foundation

/-!
# Control messages in memory

The writers and readers of control messages work on the memory of one zmq
message through a pointer.  Here they are modelled at that level: a writer
fills memory that was allocated with a size computed beforehand, and a reader
examines bytes by their index and compares the place where it stopped with the
size only afterwards.

Every function is related to its counterpart on byte lists, which the model of
a node uses.  Filling allocated memory leaves the encoding in it.  A reader
returns what its counterpart returns, and nothing if it leaves the message.
-/

/-- `PUB_INFO_SIZE` -/
def pubInfoSize (pub : PublisherInfo) : Nat :=
  pub.channelName.length + 1 + pub.uuid.length + 1 + 2

/-- The size a message is allocated with. -/
def ControlMessage.size : ControlMessage -> Nat
  | pubAdded pub => pubInfoSize pub + 2
  | pubRemoved pub => pubInfoSize pub + 2
  | subscribe pub subId => 2 + pubInfoSize pub + subId.length + 1
  | unsubscribe pub subId => 2 + pubInfoSize pub + subId.length + 1

namespace Pointer

/-! ## Writing -/

/-- Write `channel\0uuid\0port` at a pointer, and return the pointer behind it. -/
def writePubInfo (memory : Bytes) (buffer : Nat) (pub : PublisherInfo) : Option (Bytes × Nat) := do
  let memory <- memcpy memory buffer pub.channelName.bytes
  let buffer := buffer + pub.channelName.length
  let memory <- memcpy memory buffer [0]
  let buffer := buffer + 1
  let memory <- memcpy memory buffer pub.uuid.bytes
  let buffer := buffer + pub.uuid.length
  let memory <- memcpy memory buffer [0]
  let buffer := buffer + 1
  let memory <- memcpy memory buffer (toNetwork pub.port)
  return (memory, buffer + 2)

def writeSubInfo (memory : Bytes) (buffer : Nat) (uuid : CString) : Option (Bytes × Nat) := do
  let memory <- memcpy memory buffer uuid.bytes
  let buffer := buffer + uuid.length
  let memory <- memcpy memory buffer [0]
  return (memory, buffer + 1)

/-- Fill the memory of a message. -/
def fill (message : ControlMessage) (memory : Bytes) : Option (Bytes × Nat) := do
  let memory <- memcpy memory 0 (toNetwork message.type.code)
  match message with
  | .pubAdded pub => writePubInfo memory 2 pub
  | .pubRemoved pub => writePubInfo memory 2 pub
  | .subscribe pub subId =>
      let (memory, buffer) <- writePubInfo memory 2 pub
      writeSubInfo memory buffer subId
  | .unsubscribe pub subId =>
      let (memory, buffer) <- writePubInfo memory 2 pub
      writeSubInfo memory buffer subId

/-! ## Reading -/

def readPubInfo (message : Bytes) (buffer : Nat) : Access message.length (PublisherInfo × Nat) := do
  let channelLength <- strlen message buffer
  let uuid := buffer + channelLength + 1
  let uuidLength <- strlen message uuid
  let port := uuid + uuidLength + 1
  let high <- load message port
  let low <- load message (port + 1)
  return (⟨stringAt message buffer, stringAt message uuid, ofNetwork high low⟩, port + 2)

def readSubInfo (message : Bytes) (buffer : Nat) : Access message.length (CString × Nat) := do
  let uuidLength <- strlen message buffer
  return (stringAt message buffer, buffer + uuidLength + 1)

/-- How an announcement is decoded before it is processed. -/
def decodePub (message : Bytes) : Access message.length (Option PublisherInfo) := do
  let (pub, buffer) <- readPubInfo message 2
  return if buffer ≠ message.length then none else some pub

/-- How a subscription is decoded before it is processed. -/
def decodeSubscription (message : Bytes) :
    Access message.length (Option (PublisherInfo × CString)) := do
  let (pub, buffer) <- readPubInfo message 2
  let (subId, buffer) <- readSubInfo message buffer
  return if buffer ≠ message.length then none else some (pub, subId)

end Pointer

/-! ## Filling a message -/

theorem length_toNetwork (number : UInt16) : (toNetwork number).length = 2 := rfl

theorem length_writePubInfo (pub : PublisherInfo) : (writePubInfo pub).length = pubInfoSize pub := by
  simp only [writePubInfo, pubInfoSize, CString.length, List.length_append, List.length_cons,
    length_toNetwork]
  omega

theorem length_writeSubInfo (uuid : CString) : (writeSubInfo uuid).length = uuid.length + 1 :=
  List.length_append

theorem ControlMessage.length_encode (message : ControlMessage) :
    message.encode.length = message.size := by
  cases message with
  | pubAdded pub =>
      rw [encode, List.length_append, length_toNetwork, length_writePubInfo, size, Nat.add_comm]
  | pubRemoved pub =>
      rw [encode, List.length_append, length_toNetwork, length_writePubInfo, size, Nat.add_comm]
  | subscribe pub subId =>
      rw [encode, List.length_append, List.length_append, length_toNetwork, length_writePubInfo,
        length_writeSubInfo, size]
      omega
  | unsubscribe pub subId =>
      rw [encode, List.length_append, List.length_append, length_toNetwork, length_writePubInfo,
        length_writeSubInfo, size]
      omega

namespace Pointer

/-- A copy at the pointer behind the filled part, with the pointer it leaves. -/
private theorem memcpy_next {filled free data : Bytes} {buffer : Nat}
    (position : buffer = filled.length) (room : data.length ≤ free.length) :
    memcpy (filled ++ free) buffer data = some (filled ++ data ++ free.drop data.length) := by
  rw [position]
  exact memcpy_filled filled free data room

theorem writePubInfo_filled (filled free : Bytes) (pub : PublisherInfo)
    (room : pubInfoSize pub ≤ free.length) :
    writePubInfo (filled ++ free) filled.length pub =
      some (filled ++ Connection.writePubInfo pub ++ free.drop (pubInfoSize pub),
        filled.length + pubInfoSize pub) := by
  rw [pubInfoSize, CString.length, CString.length] at room
  rw [writePubInfo, memcpy_next rfl (by omega)]
  dsimp only [Option.bind_eq_bind, Option.bind_some]
  rw [memcpy_next (by simp [CString.length]) (by simp; omega)]
  dsimp only [Option.bind_some]
  rw [memcpy_next (by simp [CString.length, Nat.add_assoc]) (by simp; omega)]
  dsimp only [Option.bind_some]
  rw [memcpy_next (by simp [CString.length]; omega) (by simp; omega)]
  dsimp only [Option.bind_some]
  rw [memcpy_next (by simp [CString.length]; omega) (by simp [length_toNetwork]; omega)]
  have rest : ((((free.drop pub.channelName.bytes.length).drop [(0 : UInt8)].length).drop
      pub.uuid.bytes.length).drop [(0 : UInt8)].length).drop (toNetwork pub.port).length =
        free.drop (pubInfoSize pub) := by
    simp only [List.drop_drop, length_toNetwork, pubInfoSize, CString.length, List.length_singleton]
  rw [rest]
  simp [Connection.writePubInfo, pubInfoSize, CString.length]
  omega

theorem writeSubInfo_filled (filled free : Bytes) (uuid : CString)
    (room : uuid.length + 1 ≤ free.length) :
    writeSubInfo (filled ++ free) filled.length uuid =
      some (filled ++ Connection.writeSubInfo uuid ++ free.drop (uuid.length + 1),
        filled.length + (uuid.length + 1)) := by
  rw [CString.length] at room
  rw [writeSubInfo, memcpy_next rfl (by omega)]
  dsimp only [Option.bind_eq_bind, Option.bind_some]
  rw [memcpy_next (by simp [CString.length]) (by simp; omega)]
  simp [Connection.writeSubInfo, CString.length, Nat.add_assoc]

/-- The record of a publisher fills what is left behind the type. -/
private theorem writePubInfo_body (code : UInt16) (free : Bytes) (pub : PublisherInfo)
    (left : free.length = pubInfoSize pub) :
    writePubInfo (toNetwork code ++ free) 2 pub =
      some (toNetwork code ++ Connection.writePubInfo pub, pubInfoSize pub + 2) := by
  have written := writePubInfo_filled (toNetwork code) free pub left.ge
  rw [List.drop_of_length_le left.le, List.append_nil, length_toNetwork, Nat.add_comm] at written
  exact written

/-- Both records of a subscription fill what is left behind the type. -/
private theorem writeSubscription_body (code : UInt16) (free : Bytes) (pub : PublisherInfo)
    (subId : CString) (left : free.length = pubInfoSize pub + (subId.length + 1)) :
    ((writePubInfo (toNetwork code ++ free) 2 pub).bind fun written =>
      writeSubInfo written.1 written.2 subId) =
      some (toNetwork code ++ (Connection.writePubInfo pub ++ Connection.writeSubInfo subId),
        2 + pubInfoSize pub + subId.length + 1) := by
  have first := writePubInfo_filled (toNetwork code) free pub (by omega)
  have second := writeSubInfo_filled (toNetwork code ++ Connection.writePubInfo pub)
    (free.drop (pubInfoSize pub)) subId (by rw [List.length_drop]; omega)
  rw [List.length_append, length_toNetwork, length_writePubInfo, List.drop_drop,
    List.drop_of_length_le left.le, List.append_nil, List.append_assoc] at second
  rw [length_toNetwork] at first
  rw [first]
  exact second

/-- Memory of the computed size is filled to its last byte, and what stands
in it is the encoding. -/
theorem fill_allocated (message : ControlMessage) (memory : Bytes)
    (allocated : memory.length = message.size) :
    fill message memory = some (message.encode, message.size) := by
  have typed : memcpy memory 0 (toNetwork message.type.code) =
      some (toNetwork message.type.code ++ memory.drop 2) := by
    refine memcpy_filled [] memory _ ?_
    rw [length_toNetwork, allocated]
    cases message <;> simp only [ControlMessage.size] <;> omega
  have left : (memory.drop 2).length = message.size - 2 := by rw [List.length_drop, allocated]
  rw [fill, typed]
  cases message with
  | pubAdded pub => exact writePubInfo_body _ _ pub left
  | pubRemoved pub => exact writePubInfo_body _ _ pub left
  | subscribe pub subId =>
      apply writeSubscription_body
      rw [left, ControlMessage.size]
      omega
  | unsubscribe pub subId =>
      apply writeSubscription_body
      rw [left, ControlMessage.size]
      omega

/-! ## Reading a message -/

/-- The pointer reader and the list reader return the same record and stop at
the same place. -/
theorem result_readPubInfo (message : Bytes) (buffer : Nat) :
    (readPubInfo message buffer).result =
      (Connection.readPubInfo (message.drop buffer)).map fun read =>
        (read.1, message.length - read.2.length) := by
  rw [readPubInfo, Connection.readPubInfo]
  cases channelRead : readCString (message.drop buffer) with
  | none =>
      rw [Access.result_bind, strlen_of_readCString_none channelRead]
      rfl
  | some channel =>
      rcases channel with ⟨channelName, afterChannel⟩
      obtain ⟨channelLength, channelText, behind, _⟩ := strlen_of_readCString channelRead
      rw [Access.result_bind, channelLength, channelText]
      dsimp only [Option.bind_some]
      rw [← behind]
      cases uuidRead : readCString (message.drop (buffer + channelName.length + 1)) with
      | none =>
          rw [Access.result_bind, strlen_of_readCString_none uuidRead]
          rfl
      | some found =>
          rcases found with ⟨uuid, rest⟩
          obtain ⟨uuidLength, uuidText, port, total⟩ := strlen_of_readCString uuidRead
          have byteAt : forall index,
              message[buffer + channelName.length + 1 + uuid.length + 1 + index]? = rest[index]? := by
            intro index
            rw [← port, List.getElem?_drop]
          have high := byteAt 0
          have low := byteAt 1
          rw [Nat.add_zero] at high
          simp only [Access.result_bind, uuidLength, Option.bind_some, uuidText, result_load,
            high, low]
          rcases rest with _ | ⟨first, _ | ⟨second, remaining⟩⟩
          · rfl
          · rfl
          · simp only [List.length_cons] at total
            simp only [List.getElem?_cons_zero, List.getElem?_cons_succ, Option.bind_some,
              Access.result_pure, Option.map_some, Option.some.injEq, Prod.mk.injEq, true_and]
            omega

theorem result_readSubInfo (message : Bytes) (buffer : Nat) :
    (readSubInfo message buffer).result =
      (Connection.readSubInfo (message.drop buffer)).map fun read =>
        (read.1, message.length - read.2.length) := by
  rw [readSubInfo, Connection.readSubInfo, Access.result_bind]
  cases read : readCString (message.drop buffer) with
  | none =>
      rw [strlen_of_readCString_none read]
      rfl
  | some found =>
      rcases found with ⟨uuid, rest⟩
      obtain ⟨uuidLength, uuidText, _, total⟩ := strlen_of_readCString read
      simp only [uuidLength, uuidText, Option.bind_some, Access.result_pure, Option.map_some,
        Option.some.injEq, Prod.mk.injEq, true_and]
      omega

/-- What follows a record in a message starts where the reader stops. -/
private theorem drop_stop {message front rest : Bytes} {buffer : Nat}
    (split : message.drop buffer = front ++ rest) :
    message.drop (message.length - rest.length) = rest := by
  have remaining : rest <:+ message := by
    apply List.IsSuffix.trans _ (List.drop_suffix buffer message)
    rw [split]
    exact List.suffix_append front rest
  exact (List.suffix_iff_eq_drop.mp remaining).symm

/-- The reader stops at the end of the message exactly if nothing follows. -/
private theorem stop_eq_length_iff {message front rest : Bytes} {buffer : Nat}
    (split : message.drop buffer = front ++ rest) :
    message.length - rest.length = message.length <-> rest = [] := by
  have sizes := congrArg List.length split
  rw [List.length_drop, List.length_append] at sizes
  rw [← List.length_eq_zero_iff]
  omega

/-- The reader of publisher records succeeds exactly on the bytes that the
writer produces, and stops behind them. -/
theorem readPubInfo_result_iff (message : Bytes) (buffer stop : Nat) (pub : PublisherInfo) :
    (readPubInfo message buffer).result = some (pub, stop) <->
      Exists fun rest => message.drop buffer = Connection.writePubInfo pub ++ rest ∧
        stop = message.length - rest.length := by
  rw [result_readPubInfo, Option.map_eq_some_iff]
  constructor
  · rintro ⟨⟨found, rest⟩, read, same⟩
    cases same
    exact ⟨rest, (readPubInfo_eq_some_iff _ rest found).mp read, rfl⟩
  · rintro ⟨rest, written, rfl⟩
    exact ⟨(pub, rest), (readPubInfo_eq_some_iff _ rest pub).mpr written, rfl⟩

theorem readSubInfo_result_iff (message : Bytes) (buffer stop : Nat) (uuid : CString) :
    (readSubInfo message buffer).result = some (uuid, stop) <->
      Exists fun rest => message.drop buffer = Connection.writeSubInfo uuid ++ rest ∧
        stop = message.length - rest.length := by
  rw [result_readSubInfo, Option.map_eq_some_iff]
  constructor
  · rintro ⟨⟨found, rest⟩, read, same⟩
    cases same
    exact ⟨rest, (readSubInfo_eq_some_iff _ rest found).mp read, rfl⟩
  · rintro ⟨rest, written, rfl⟩
    exact ⟨(uuid, rest), (readSubInfo_eq_some_iff _ rest uuid).mpr written, rfl⟩

/-- A reader that ends exactly at the size has read the whole message. -/
theorem readPubInfo_whole_iff (message : Bytes) (pub : PublisherInfo) :
    (readPubInfo message 2).result = some (pub, message.length) <->
      message.drop 2 = Connection.writePubInfo pub := by
  rw [readPubInfo_result_iff]
  constructor
  · rintro ⟨rest, split, stop⟩
    rw [(stop_eq_length_iff split).mp stop.symm, List.append_nil] at split
    exact split
  · intro written
    exact ⟨[], by rw [List.append_nil, written], rfl⟩

theorem readSubscription_whole_iff (message : Bytes) (pub : PublisherInfo) (subId : CString) :
    (Exists fun afterPub => (readPubInfo message 2).result = some (pub, afterPub) ∧
      (readSubInfo message afterPub).result = some (subId, message.length)) <->
      message.drop 2 = Connection.writePubInfo pub ++ Connection.writeSubInfo subId := by
  constructor
  · rintro ⟨afterPub, pubRead, subRead⟩
    obtain ⟨rest, split, rfl⟩ := (readPubInfo_result_iff _ _ _ _).mp pubRead
    obtain ⟨last, subSplit, stop⟩ := (readSubInfo_result_iff _ _ _ _).mp subRead
    rw [(stop_eq_length_iff subSplit).mp stop.symm, List.append_nil,
      drop_stop split] at subSplit
    rw [split, subSplit]
  · intro written
    refine ⟨message.length - (Connection.writeSubInfo subId).length,
      (readPubInfo_result_iff _ _ _ _).mpr ⟨_, written, rfl⟩,
      (readSubInfo_result_iff _ _ _ _).mpr ⟨[], ?_, rfl⟩⟩
    rw [drop_stop written, List.append_nil]

/-! ## Accepting a message -/

/-- Whatever the readers do outside of the message, the comparison of sizes
rejects it afterwards. -/
theorem result_decodePub (message : Bytes) :
    (decodePub message).result.join = Connection.decodePub message := by
  apply Option.ext
  intro pub
  rw [decodePub_eq_some_iff, ← readPubInfo_whole_iff, decodePub, Access.result_bind]
  cases (readPubInfo message 2).result with
  | none => simp
  | some read =>
      rcases read with ⟨other, stop⟩
      by_cases whole : stop = message.length
      · simp [whole]
      · simp [whole]

private theorem decodeSubscription_eq (message : Bytes) :
    (decodeSubscription message).result =
      (readPubInfo message 2).result.bind fun read =>
        (readSubInfo message read.2).result.bind fun found =>
          some (if found.2 ≠ message.length then none else some (read.1, found.1)) := rfl

theorem result_decodeSubscription (message : Bytes) :
    (decodeSubscription message).result.join = Connection.decodeSubscription message := by
  apply Option.ext
  rintro ⟨pub, subId⟩
  rw [decodeSubscription_eq_some_iff, ← readSubscription_whole_iff, decodeSubscription_eq]
  cases (readPubInfo message 2).result with
  | none => simp
  | some read =>
      rcases read with ⟨other, afterPub⟩
      rw [Option.bind_some]
      cases subRead : (readSubInfo message afterPub).result with
      | none => simp [subRead]
      | some found =>
          rcases found with ⟨uuid, stop⟩
          by_cases whole : stop = message.length
          · simp [subRead, whole]
          · simp [subRead, whole]

/-- Memory of the computed size is filled exactly by every control message, the
readers return from it the fields that were written and stop at its end, and
whatever they read to its end is what the writers write. -/
theorem control_message_round_trip :
    (forall (message : ControlMessage) (memory : Bytes), memory.length = message.size ->
      fill message memory = some (message.encode, message.size)) ∧
    (forall (pub : PublisherInfo) (message : ControlMessage),
      message = .pubAdded pub ∨ message = .pubRemoved pub ->
      message.encode.length = pubInfoSize pub + 2 ∧
      (readPubInfo message.encode 2).result = some (pub, message.encode.length) ∧
      (decodePub message.encode).result = some (some pub)) ∧
    (forall (pub : PublisherInfo) (subId : CString) (message : ControlMessage),
      message = .subscribe pub subId ∨ message = .unsubscribe pub subId ->
      message.encode.length = 2 + pubInfoSize pub + subId.length + 1 ∧
      (Exists fun afterPub => (readPubInfo message.encode 2).result = some (pub, afterPub) ∧
        (readSubInfo message.encode afterPub).result = some (subId, message.encode.length)) ∧
      (decodeSubscription message.encode).result = some (some (pub, subId))) ∧
    (forall (bytes : Bytes) (pub : PublisherInfo),
      (readPubInfo bytes 2).result = some (pub, bytes.length) ->
      bytes.drop 2 = Connection.writePubInfo pub) ∧
    (forall (bytes : Bytes) (pub : PublisherInfo) (subId : CString) (afterPub : Nat),
      (readPubInfo bytes 2).result = some (pub, afterPub) ->
      (readSubInfo bytes afterPub).result = some (subId, bytes.length) ->
      bytes.drop 2 = Connection.writePubInfo pub ++ Connection.writeSubInfo subId) := by
  refine ⟨fill_allocated, ?_, ?_, ?_, ?_⟩
  · intro pub message announcement
    have body : message.encode.drop 2 = Connection.writePubInfo pub := by
      rcases announcement with rfl | rfl <;> rfl
    have whole := (readPubInfo_whole_iff _ pub).mpr body
    refine ⟨?_, whole, ?_⟩
    · rw [ControlMessage.length_encode]
      rcases announcement with rfl | rfl <;> rfl
    · simp [decodePub, whole]
  · intro pub subId message subscription
    have body : message.encode.drop 2 =
        Connection.writePubInfo pub ++ Connection.writeSubInfo subId := by
      rcases subscription with rfl | rfl <;> rfl
    have whole := (readSubscription_whole_iff _ pub subId).mpr body
    refine ⟨?_, whole, ?_⟩
    · rw [ControlMessage.length_encode]
      rcases subscription with rfl | rfl <;> rfl
    · obtain ⟨afterPub, pubRead, subRead⟩ := whole
      simp [decodeSubscription, pubRead, subRead]
  · intro bytes pub
    exact (readPubInfo_whole_iff bytes pub).mp
  · intro bytes pub subId afterPub pubRead subRead
    exact (readSubscription_whole_iff bytes pub subId).mp ⟨afterPub, pubRead, subRead⟩

/-! ## Indices that are examined -/

/-- The indices that are examined to decode a message of a given type. -/
def examined (type : MessageType) (message : Bytes) : List Nat :=
  match type with
  | .pubAdded => (decodePub message).examined
  | .pubRemoved => (decodePub message).examined
  | .subscribe => (decodeSubscription message).examined
  | .unsubscribe => (decodeSubscription message).examined
  | _ => []

/-- The message passes the comparison of sizes and is processed. -/
def accepted (type : MessageType) (message : Bytes) : Bool :=
  match type with
  | .pubAdded => (decodePub message).result.join.isSome
  | .pubRemoved => (decodePub message).result.join.isSome
  | .subscribe => (decodeSubscription message).result.join.isSome
  | .unsubscribe => (decodeSubscription message).result.join.isSome
  | _ => false

/-- The body begins with two terminated strings and two more bytes, and a
terminator follows if the message is a subscription. -/
def Terminated (type : MessageType) (message : Bytes) : Prop :=
  Exists fun channel : CString => Exists fun uuid : CString =>
    Exists fun high : UInt8 => Exists fun low : UInt8 => Exists fun rest : Bytes =>
      message.drop 2 = channel.bytes ++ 0 :: (uuid.bytes ++ 0 :: high :: low :: rest) ∧
        (type = .subscribe ∨ type = .unsubscribe -> 0 ∈ rest)

/-- Two strings and two bytes are the record of some publisher. -/
theorem terminated_iff (type : MessageType) (message : Bytes) :
    Terminated type message <->
      Exists fun pub : PublisherInfo => Exists fun rest : Bytes =>
        message.drop 2 = Connection.writePubInfo pub ++ rest ∧
          (type = .subscribe ∨ type = .unsubscribe -> 0 ∈ rest) := by
  constructor
  · rintro ⟨channel, uuid, high, low, rest, split, terminator⟩
    refine ⟨⟨channel, uuid, ofNetwork high low⟩, rest, ?_, terminator⟩
    rw [split, Connection.writePubInfo, toNetwork_ofNetwork]
    simp only [List.append_assoc, List.cons_append, List.nil_append]
  · rintro ⟨⟨channel, uuid, port⟩, rest, split, terminator⟩
    refine ⟨channel, uuid, .ofNat (port.toNat / 256), .ofNat (port.toNat % 256), rest, ?_, terminator⟩
    rw [split, Connection.writePubInfo, toNetwork]
    simp only [List.append_assoc, List.cons_append, List.nil_append]

private theorem isSome_readPubInfo_iff (message : Bytes) :
    (readPubInfo message 2).result.isSome = true <->
      Exists fun pub : PublisherInfo => Exists fun rest : Bytes =>
        message.drop 2 = Connection.writePubInfo pub ++ rest := by
  rw [Option.isSome_iff_exists]
  constructor
  · rintro ⟨⟨pub, stop⟩, read⟩
    obtain ⟨rest, split, _⟩ := (readPubInfo_result_iff _ _ _ _).mp read
    exact ⟨pub, rest, split⟩
  · rintro ⟨pub, rest, split⟩
    exact ⟨_, (readPubInfo_result_iff _ _ _ _).mpr ⟨rest, split, rfl⟩⟩

theorem isSome_decodePub_iff (message : Bytes) (type : MessageType)
    (announcement : ¬ (type = .subscribe ∨ type = .unsubscribe)) :
    (decodePub message).result.isSome = true <-> Terminated type message := by
  have read : (decodePub message).result.isSome = (readPubInfo message 2).result.isSome := by
    rw [decodePub, Access.result_bind]
    cases (readPubInfo message 2).result <;> rfl
  rw [read, isSome_readPubInfo_iff, terminated_iff]
  simp only [announcement, false_imp_iff, and_true]

theorem isSome_decodeSubscription_iff (message : Bytes) (type : MessageType)
    (subscription : type = .subscribe ∨ type = .unsubscribe) :
    (decodeSubscription message).result.isSome = true <-> Terminated type message := by
  rw [terminated_iff]
  simp only [subscription, true_imp_iff]
  have pubRead := isSome_readPubInfo_iff message
  rw [decodeSubscription_eq]
  cases outcome : (readPubInfo message 2).result with
  | none =>
      rw [outcome] at pubRead
      constructor
      · intro impossible
        cases impossible
      · rintro ⟨pub, rest, split, _⟩
        exact absurd (pubRead.mpr ⟨pub, rest, split⟩) Bool.false_ne_true
  | some read =>
      rcases read with ⟨pub, afterPub⟩
      obtain ⟨rest, split, rfl⟩ := (readPubInfo_result_iff _ _ _ _).mp outcome
      have subRead : (readSubInfo message (message.length - rest.length)).result.isSome = true <->
          0 ∈ rest := by
        rw [result_readSubInfo, Option.isSome_map, drop_stop split, Connection.readSubInfo,
          readCString_isSome_iff]
      have read : ((readSubInfo message (message.length - rest.length)).result.bind fun found =>
          some (if found.2 ≠ message.length then none else some (pub, found.1))).isSome =
            (readSubInfo message (message.length - rest.length)).result.isSome := by
        cases (readSubInfo message (message.length - rest.length)).result <;> rfl
      rw [Option.bind_some, read, subRead]
      constructor
      · intro terminator
        exact ⟨pub, rest, split, terminator⟩
      · rintro ⟨other, remaining, otherSplit, terminator⟩
        have first := (readPubInfo_eq_some_iff _ rest pub).mpr split
        have second := (readPubInfo_eq_some_iff _ remaining other).mpr otherSplit
        rw [first] at second
        cases second
        exact terminator

/-- What a control message carries behind its type. -/
def body : ControlMessage -> Bytes
  | .pubAdded pub => Connection.writePubInfo pub
  | .pubRemoved pub => Connection.writePubInfo pub
  | .subscribe pub subId => Connection.writePubInfo pub ++ Connection.writeSubInfo subId
  | .unsubscribe pub subId => Connection.writePubInfo pub ++ Connection.writeSubInfo subId

/-- A message of the right type is an encoding if its body is. -/
private theorem encode_eq_iff {message : Bytes} {control : ControlMessage}
    (typed : messageType message = control.type.code) (long : 2 ≤ message.length) :
    control.encode = message <-> message.drop 2 = body control := by
  have encoded : control.encode = toNetwork control.type.code ++ body control := by
    cases control <;> rfl
  rcases message with _ | ⟨high, _ | ⟨low, rest⟩⟩
  · simp at long
  · simp at long
  · have code : toNetwork control.type.code = [high, low] := by
      rw [← typed]
      exact toNetwork_ofNetwork high low
    rw [encoded, code]
    simp [eq_comm]

/-- A message is accepted exactly if a writer has produced it. -/
theorem accepted_iff {message : Bytes} {type : MessageType}
    (typed : messageType message = type.code) (long : 2 ≤ message.length) :
    accepted type message = true <->
      Exists fun control : ControlMessage => control.type = type ∧ control.encode = message := by
  have whole : (Exists fun control : ControlMessage => control.type = type ∧ control.encode = message)
      <-> Exists fun control : ControlMessage => control.type = type ∧
        message.drop 2 = body control := by
    apply exists_congr
    intro control
    apply and_congr_right
    intro same
    rw [← same] at typed
    exact encode_eq_iff typed long
  have announcement : (decodePub message).result.join.isSome = true <->
      Exists fun pub => message.drop 2 = Connection.writePubInfo pub := by
    simp only [result_decodePub, Option.isSome_iff_exists, decodePub_eq_some_iff]
  have subscription : (decodeSubscription message).result.join.isSome = true <->
      Exists fun pub => Exists fun subId =>
        message.drop 2 = Connection.writePubInfo pub ++ Connection.writeSubInfo subId := by
    simp only [result_decodeSubscription, Option.isSome_iff_exists, Prod.exists,
      decodeSubscription_eq_some_iff]
  rw [whole]
  cases type with
  | data =>
      constructor
      · intro impossible
        cases impossible
      · rintro ⟨control, same, _⟩
        cases control <;> cases same
  | nodeInfo =>
      constructor
      · intro impossible
        cases impossible
      · rintro ⟨control, same, _⟩
        cases control <;> cases same
  | pubAdded =>
      refine announcement.trans ⟨fun ⟨pub, written⟩ => ⟨.pubAdded pub, rfl, written⟩, ?_⟩
      rintro ⟨control, same, written⟩
      cases control with
      | pubAdded pub => exact ⟨pub, written⟩
      | _ => cases same
  | pubRemoved =>
      refine announcement.trans ⟨fun ⟨pub, written⟩ => ⟨.pubRemoved pub, rfl, written⟩, ?_⟩
      rintro ⟨control, same, written⟩
      cases control with
      | pubRemoved pub => exact ⟨pub, written⟩
      | _ => cases same
  | subscribe =>
      refine subscription.trans
        ⟨fun ⟨pub, subId, written⟩ => ⟨.subscribe pub subId, rfl, written⟩, ?_⟩
      rintro ⟨control, same, written⟩
      cases control with
      | subscribe pub subId => exact ⟨pub, subId, written⟩
      | _ => cases same
  | unsubscribe =>
      refine subscription.trans
        ⟨fun ⟨pub, subId, written⟩ => ⟨.unsubscribe pub subId, rfl, written⟩, ?_⟩
      rintro ⟨control, same, written⟩
      cases control with
      | unsubscribe pub subId => exact ⟨pub, subId, written⟩
      | _ => cases same

private theorem accepted_of_decodePub {message : Bytes} {pub : PublisherInfo}
    (decoded : Connection.decodePub message = some pub) :
    (decodePub message).result.join.isSome = true := by
  rw [result_decodePub, decoded]
  rfl

private theorem accepted_of_decodeSubscription {message : Bytes} {found : PublisherInfo × CString}
    (decoded : Connection.decodeSubscription message = some found) :
    (decodeSubscription message).result.join.isSome = true := by
  rw [result_decodeSubscription, decoded]
  rfl

/-- A message that is not accepted is ignored, whoever sent it. -/
theorem receive_of_rejected {message : Bytes} {type : MessageType}
    (typed : messageType message = type.code) (rejected : accepted type message = false)
    (node : ZeroMQNode) (remoteId : CString) : node.receive remoteId message = (node, []) := by
  have spec := ZeroMQNode.receive_spec node remoteId message
  generalize node.receive remoteId message = outcome at spec
  cases spec with
  | ignored => rfl
  | pubAdded pub other decoded =>
      cases MessageType.eq_of_code (typed.symm.trans other)
      exact absurd (rejected.symm.trans (accepted_of_decodePub decoded)) Bool.false_ne_true
  | pubRemoved pub pubStub _ other decoded _ =>
      cases MessageType.eq_of_code (typed.symm.trans other)
      exact absurd (rejected.symm.trans (accepted_of_decodePub decoded)) Bool.false_ne_true
  | subscribed pub subId _ other decoded _ _ =>
      cases MessageType.eq_of_code (typed.symm.trans other)
      exact absurd (rejected.symm.trans (accepted_of_decodeSubscription decoded)) Bool.false_ne_true
  | unsubscribed pub subId _ other decoded _ _ =>
      cases MessageType.eq_of_code (typed.symm.trans other)
      exact absurd (rejected.symm.trans (accepted_of_decodeSubscription decoded)) Bool.false_ne_true

/-- The indices examined are inside the message exactly if the terminators are. -/
theorem examined_inside_iff {message : Bytes} {type : MessageType}
    (control : type = .pubAdded ∨ type = .pubRemoved ∨ type = .subscribe ∨ type = .unsubscribe) :
    (forall index, index ∈ examined type message -> index < message.length) <->
      Terminated type message := by
  rcases control with rfl | rfl | rfl | rfl
  · exact (decodePub message).inside_iff.trans (isSome_decodePub_iff message .pubAdded (by decide))
  · exact (decodePub message).inside_iff.trans (isSome_decodePub_iff message .pubRemoved (by decide))
  · exact (decodeSubscription message).inside_iff.trans
      (isSome_decodeSubscription_iff message .subscribe (.inl rfl))
  · exact (decodeSubscription message).inside_iff.trans
      (isSome_decodeSubscription_iff message .unsubscribe (.inr rfl))

/-- Decoding is safe for a message, whatever node receives it from whom: the
readers stay inside, exactly the encodings are accepted, and a message that is
not accepted has no effect. -/
def DecodedSafely (type : MessageType) (message : Bytes) : Prop :=
  (forall index, index ∈ examined type message -> index < message.length) ∧
    (accepted type message = true <->
      Exists fun control : ControlMessage => control.type = type ∧ control.encode = message) ∧
    (accepted type message = false -> forall (node : ZeroMQNode) (remoteId : CString),
      node.receive remoteId message = (node, []))

/-- Decoding is safe exactly for the messages in which the readers find the
terminators they look for.  The size is compared too late for all others. -/
theorem decodedSafely_iff (type : MessageType) (message : Bytes)
    (control : type = .pubAdded ∨ type = .pubRemoved ∨ type = .subscribe ∨ type = .unsubscribe)
    (typed : messageType message = type.code) (long : 2 ≤ message.length) :
    DecodedSafely type message <-> Terminated type message := by
  rw [← examined_inside_iff control]
  constructor
  · intro safe
    exact safe.1
  · intro inside
    exact ⟨inside, accepted_iff typed long, receive_of_rejected typed⟩

/-- A subscription with all of its terminators is decoded safely, although
bytes follow that make it malformed. -/
theorem decodedSafely_iff_trailing : DecodedSafely .subscribe [0, 7, 97, 0, 98, 0, 16, 0, 99, 0, 1] :=
  (decodedSafely_iff _ _ (by decide) (by decide) (by decide)).mpr
    ⟨⟨[97], by decide⟩, ⟨[98], by decide⟩, 16, 0, [99, 0, 1], rfl, fun _ => by decide⟩

/-- An announcement that consists of its type only.  The search for the end of
the channel name starts behind the message. -/
theorem examined_outside :
    messageType [0, 4] = MessageType.pubAdded.code ∧ examined .pubAdded [0, 4] = [2] ∧
      ¬ DecodedSafely .pubAdded [0, 4] := by
  refine ⟨by decide, by decide, ?_⟩
  intro safe
  exact absurd (safe.1 2 (by decide)) (by decide)

end Pointer

end Connection
end Umundo
