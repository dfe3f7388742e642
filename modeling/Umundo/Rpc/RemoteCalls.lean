import Mathlib.Logic.Function.Basic
import Umundo.Rpc.ServiceManager

namespace Umundo
namespace Rpc

open Foundation Std Connection

/-!
# Remote procedure calls

A service and any number of stubs share a channel, and any number of threads
call methods at the stubs.  Every message is sent to all members of the channel,
the sender included, and each copy is delivered in any order, arbitrarily late,
or not at all.  Requests are meant for the service and replies for a stub; the
others have to leave them alone.

What a method returns may depend on everything that the service has done before.
A method that returns the null pointer is not answered.

An object of a type that the receiver has not registered arrives as the null pointer.  That no
wake-up is lost does not depend on types.  That methods and callers get the very objects that were
passed is shown for calls whose types are registered, and for protocol buffers that can
parse what they have serialized.
-/

/-- The meta keys of a call and of its reply. -/
inductive CallKey where
  | type
  | reqId
  | methodName
  | outType
  | respId
deriving DecidableEq

namespace CallKey

def text : CallKey -> CString
  | type => typeKey
  | reqId => reqIdKey
  | methodName => .ofBytes "methodName".toUTF8.toList
  | outType => .ofBytes "outType".toUTF8.toList
  | respId => respIdKey

theorem text_inj (first second : CallKey) : first.text = second.text <-> first = second := by
  cases first <;> cases second <;> decide +kernel

/-- The transport writes none of them. -/
theorem text_foreign (key : CallKey) : key.text ≠ Message.procKey ∧ key.text ≠ Message.publisherKey ∧
    key.text ≠ Message.channelKey := by
  cases key <;> decide +kernel

theorem getElem?_delivered (publisher : DataPublisher) (procUUID : CString) (message : Message)
    (key : CallKey) :
    (ZeroMQSubscriber.delivered publisher procUUID message).metaMap[key.text]? =
      message.metaMap[key.text]? := by
  obtain ⟨proc, publisherKey, channel⟩ := key.text_foreign
  rw [ZeroMQSubscriber.getElem?_delivered, ZeroMQSubscriber.getElem?_complete, if_neg proc,
    if_neg publisherKey, if_neg channel, Option.or_none]

theorem getElem?_setMeta (message : Message) (written read : CallKey) (value : CString) :
    (message.setMeta written.text value).metaMap[read.text]? =
      if read = written then some value else message.metaMap[read.text]? := by
  rw [Message.setMeta, Table.getElem?_insert_eq]
  simp only [text_inj]

end CallKey

/-- What is used of protocol buffers. -/
structure Protobuf (Obj : Type) where
  typeName : Obj -> CString
  serializeAsString : Obj -> Bytes
  parseFromString : CString -> Bytes -> Obj

variable {Name Obj : Type}

namespace Protobuf

/-- An object can be parsed from its own serialization. -/
def Lawful (proto : Protobuf Obj) : Prop :=
  forall obj, proto.parseFromString (proto.typeName obj) (proto.serializeAsString obj) = obj

/-- `PBDeserializer::deserialize`, which is the null pointer if the type is not registered. -/
def deserialize (proto : Protobuf Obj) (registered : CString -> Bool) (type : CString) (data : Bytes) :
    Option Obj :=
  if registered type then some (proto.parseFromString type data) else none

/-- What arrives of an object that is sent under a type. -/
def transfer (proto : Protobuf Obj) (registered : CString -> Bool) (type : CString) (obj : Obj) : Option Obj :=
  proto.deserialize registered type (proto.serializeAsString obj)

theorem Lawful.transfer {proto : Protobuf Obj} (lawful : proto.Lawful) {registered : CString -> Bool}
    {type : CString} {obj : Obj} (typed : proto.typeName obj = type) (known : registered type = true) :
    proto.transfer registered type obj = some obj := by
  rw [Protobuf.transfer, deserialize, if_pos known, ← typed, lawful]

end Protobuf

def TypedPublisher.prepareMsg (proto : Protobuf Obj) (type : CString) (obj : Obj) : Message :=
  (Message.setData .empty (proto.serializeAsString obj)).setMeta (CallKey.text .type) type

/-- The object that the receiver is called with.  A message without a type is dropped. -/
def TypedSubscriber.receive (proto : Protobuf Obj) (registered : CString -> Bool) (message : Message) :
    Option (Option Obj) :=
  message.metaMap[CallKey.text .type]?.map fun type => proto.deserialize registered type message.data

/-! ## The members of a channel -/

inductive Member (Name : Type) where
  | service
  | stub (name : Name)

/-- A call of `callStubMethod` by a generated stub. -/
structure StubCall (Name Obj : Type) where
  stub : Name
  methodName : CString
  input : Obj
  inType : CString
  outType : CString
deriving DecidableEq

/-- One execution of a method. -/
structure Served (Obj : Type) where
  reqId : CString
  methodName : CString
  input : Option Obj
  output : Option Obj

/-- What does not change: the methods of the service, the types that the service and the stubs
have registered, and how the members publish. -/
structure Channel (Name Obj : Type) where
  proto : Protobuf Obj
  /-- the result for `methodName`, `in`, `inType` and `outType`, after the executions before -/
  callMethod : List (Served Obj) -> CString -> Option Obj -> CString -> CString -> Option Obj
  inTypes : CString -> Bool
  outTypes : CString -> Bool
  stubs : List Name
  publisher : Member Name -> DataPublisher
  procUUID : Member Name -> CString

namespace Channel

/-- The object that a method is called with. -/
def argument (channel : Channel Name Obj) (call : StubCall Name Obj) : Option Obj :=
  channel.proto.transfer channel.inTypes call.inType call.input

/-- The object that a stub gets from what a method has returned. -/
def result (channel : Channel Name Obj) (outType : CString) (out : Obj) : Option Obj :=
  channel.proto.transfer channel.outTypes outType out

/-- The method that a call names is executed with an object. -/
def execute (channel : Channel Name Obj) (served : List (Served Obj)) (call : StubCall Name Obj)
    (input : Option Obj) : Option Obj :=
  channel.callMethod served call.methodName input call.inType call.outType

/-- The argument has the type that the stub names, and the service has registered it.  What the
method returns for it has the type that the stub expects and has registered. -/
structure Typed (channel : Channel Name Obj) (call : StubCall Name Obj) : Prop where
  input : channel.proto.typeName call.input = call.inType
  registered : channel.inTypes call.inType = true
  output : forall served out, channel.execute served call (some call.input) = some out ->
    channel.proto.typeName out = call.outType
  expected : channel.outTypes call.outType = true

theorem Typed.argument {channel : Channel Name Obj} {call : StubCall Name Obj} (typed : channel.Typed call)
    (lawful : channel.proto.Lawful) : channel.argument call = some call.input :=
  lawful.transfer typed.input typed.registered

end Channel

/-- What the members publish: `callStubMethod` wants a method called, and `Service::receive`
answers. -/
inductive Letter (Name Obj : Type) where
  | request (reqId : CString) (call : StubCall Name Obj)
  | reply (reqId outType : CString) (out : Obj)

/-- The calls that were made, what the service has done, and the copies of messages that were
not delivered yet. -/
structure Exchange (Name Obj : Type) where
  calls : Table CString (StubCall Name Obj)
  served : List (Served Obj)
  inFlight : List (Member Name × Letter Name Obj)

structure RemoteCalls (Name Obj : Type) where
  exchange : Exchange Name Obj
  pending : Name -> PendingCalls (Option Obj)

inductive RemoteCallEvent (Name Obj : Type) where
  | call (reqId : CString) (call : StubCall Name Obj)
  /-- the thread that made a call goes on -/
  | advance (reqId : CString) (step : CallerStep)
  /-- a copy of a message is delivered -/
  | deliver (index : Nat)

/-- Calls are typed. -/
def RemoteCallEvent.Typed (channel : Channel Name Obj) : RemoteCallEvent Name Obj -> Prop
  | .call _ made => channel.Typed made
  | .advance _ _ | .deliver _ => True

variable (channel : Channel Name Obj)

namespace Letter

def sender : Letter Name Obj -> Member Name
  | request _ call => .stub call.stub
  | reply _ _ _ => .service

def message : Letter Name Obj -> Message
  | request reqId call =>
      (((TypedPublisher.prepareMsg channel.proto call.inType call.input).setMeta
        (CallKey.text .reqId) reqId).setMeta (CallKey.text .methodName) call.methodName).setMeta
        (CallKey.text .outType) call.outType
  | reply reqId outType out =>
      (TypedPublisher.prepareMsg channel.proto outType out).setMeta (CallKey.text .respId) reqId

/-- What the transport makes of the message. -/
def arrival (letter : Letter Name Obj) : Message :=
  ZeroMQSubscriber.delivered (channel.publisher letter.sender) (channel.procUUID letter.sender)
    (letter.message channel)

/-- What can be read from the message. -/
def field : Letter Name Obj -> CallKey -> Option CString
  | request _ call, .type => some call.inType
  | request reqId _, .reqId => some reqId
  | request _ call, .methodName => some call.methodName
  | request _ call, .outType => some call.outType
  | request _ _, .respId => none
  | reply _ outType _, .type => some outType
  | reply reqId _ _, .respId => some reqId
  | reply _ _ _, _ => none

theorem getElem?_arrival (letter : Letter Name Obj) (key : CallKey) :
    (letter.arrival channel).metaMap[key.text]? = letter.field key := by
  rw [arrival, CallKey.getElem?_delivered]
  cases letter with
  | request reqId call =>
      rw [message, TypedPublisher.prepareMsg, CallKey.getElem?_setMeta, CallKey.getElem?_setMeta,
        CallKey.getElem?_setMeta, CallKey.getElem?_setMeta]
      cases key <;> rfl
  | reply reqId outType out =>
      rw [message, TypedPublisher.prepareMsg, CallKey.getElem?_setMeta, CallKey.getElem?_setMeta]
      cases key <;> rfl

/-- The service parses the argument of a request. -/
theorem receive_request (reqId : CString) (call : StubCall Name Obj) :
    TypedSubscriber.receive channel.proto channel.inTypes ((request reqId call).arrival channel) =
      some (channel.argument call) := by
  rw [TypedSubscriber.receive, getElem?_arrival]
  rfl

/-- A stub parses the object of a reply. -/
theorem receive_reply (reqId outType : CString) (out : Obj) :
    TypedSubscriber.receive channel.proto channel.outTypes
      ((reply reqId outType out : Letter Name Obj).arrival channel) = some (channel.result outType out) := by
  rw [TypedSubscriber.receive, getElem?_arrival]
  rfl

end Letter

namespace Exchange

/-- Every member gets a copy. -/
def publish (exchange : Exchange Name Obj) (letter : Letter Name Obj) : Exchange Name Obj :=
  { exchange with inFlight :=
      exchange.inFlight ++ (.service :: channel.stubs.map .stub).map fun member => (member, letter) }

def record (exchange : Exchange Name Obj) (entry : Served Obj) : Exchange Name Obj :=
  { exchange with served := exchange.served ++ [entry] }

def answer (exchange : Exchange Name Obj) (reqId outType : CString) : Option Obj -> Exchange Name Obj
  | none => exchange
  | some out => exchange.publish channel (.reply reqId outType out)

/-- `Service::receive`: someone wants a method called. -/
def serve (exchange : Exchange Name Obj) (message : Message) : Exchange Name Obj :=
  match TypedSubscriber.receive channel.proto channel.inTypes message,
      message.metaMap[CallKey.text .methodName]? with
  | some obj, some methodName =>
      let reqId := message.metaMap.getD (CallKey.text .reqId) .empty
      let inType := message.metaMap.getD (CallKey.text .type) .empty
      let outType := message.metaMap.getD (CallKey.text .outType) .empty
      let out := channel.callMethod exchange.served methodName obj inType outType
      (exchange.record ⟨reqId, methodName, obj, out⟩).answer channel reqId outType out
  | _, _ => exchange

end Exchange

namespace RemoteCalls

def init : RemoteCalls Name Obj := ⟨⟨∅, [], []⟩, fun _ => .init⟩

variable [DecidableEq Name]

def proceed (calls : RemoteCalls Name Obj) (name : Name) (reqId : CString) (step : CallerStep) :
    RemoteCalls Name Obj × List (Returned (Option Obj)) :=
  let outcome := (calls.pending name).call reqId step
  ({ calls with pending := Function.update calls.pending name outcome.1 }, outcome.2)

/-- A message reaches a member of the channel. -/
def receive (calls : RemoteCalls Name Obj) (message : Message) : Member Name -> RemoteCalls Name Obj
  | .service => { calls with exchange := calls.exchange.serve channel message }
  | .stub name =>
      match TypedSubscriber.receive channel.proto channel.outTypes message with
      | none => calls
      | some obj => { calls with
          pending := Function.update calls.pending name ((calls.pending name).receive obj message) }

/-- A request id is never generated twice.  The request is published when its caller has
registered it. -/
def step (calls : RemoteCalls Name Obj) :
    RemoteCallEvent Name Obj -> RemoteCalls Name Obj × List (Returned (Option Obj))
  | .call reqId call =>
      if reqId ∈ calls.exchange.calls ∨ reqId ∈ (calls.pending call.stub).phases then (calls, [])
      else
        { calls with exchange := { calls.exchange with
          calls := calls.exchange.calls.insert reqId call } }.proceed call.stub reqId .register
  | .advance reqId step =>
      match calls.exchange.calls[reqId]? with
      | none => (calls, [])
      | some call =>
          if step = .register then (calls, [])
          else if step = .send ∧ (calls.pending call.stub).phases[reqId]? = some .registered then
            { calls with
              exchange := calls.exchange.publish channel (.request reqId call) }.proceed call.stub reqId step
          else calls.proceed call.stub reqId step
  | .deliver index =>
      match calls.exchange.inFlight[index]? with
      | none => (calls, [])
      | some (receiver, letter) =>
          ({ calls with exchange := { calls.exchange with
            inFlight := calls.exchange.inFlight.eraseIdx index } }.receive channel (letter.arrival channel)
              receiver, [])

end RemoteCalls

/-! ## The service and the wire -/

variable {channel}

namespace Exchange

variable {exchange later : Exchange Name Obj} {reqId : CString}

variable (channel) in
/-- The service executes the method that a request names, with what arrives of its argument. -/
theorem serve_request (exchange : Exchange Name Obj) (reqId : CString) (call : StubCall Name Obj) :
    exchange.serve channel ((Letter.request reqId call).arrival channel) =
      let out := channel.execute exchange.served call (channel.argument call)
      (exchange.record ⟨reqId, call.methodName, channel.argument call, out⟩).answer channel reqId
        call.outType out := by
  simp only [serve, Letter.receive_request, Letter.getElem?_arrival, Letter.field,
    ExtTreeMap.getD_eq_getD_getElem?, Option.getD_some, Channel.execute]

variable (channel) in
/-- The service leaves replies alone. -/
theorem serve_reply (exchange : Exchange Name Obj) (reqId outType : CString) (out : Obj) :
    exchange.serve channel ((Letter.reply reqId outType out : Letter Name Obj).arrival channel) = exchange := by
  rw [serve, Letter.getElem?_arrival]
  split
  next named => cases named
  · rfl

/-- A method was executed for a request, and returned the object. -/
def Produced (exchange : Exchange Name Obj) (reqId : CString) (out : Obj) : Prop :=
  Exists fun entry : Served Obj => entry ∈ exchange.served ∧ entry.reqId = reqId ∧ entry.output = some out

/-- A method has returned the object for a call that expects the type. -/
def Answered (exchange : Exchange Name Obj) (reqId outType : CString) (out : Obj) : Prop :=
  (Exists fun call : StubCall Name Obj => exchange.calls[reqId]? = some call ∧ call.outType = outType) ∧
    exchange.Produced reqId out

/-- What a stub gets is what has arrived of an object that a method has returned. -/
def Replies (channel : Channel Name Obj) (exchange : Exchange Name Obj) (reqId : CString)
    (reply : Option Obj) : Prop :=
  Exists fun outType : CString => Exists fun out : Obj =>
    reply = channel.result outType out ∧ exchange.Answered reqId outType out

/-- A request that was made, or the reply to one that was served. -/
def Genuine (exchange : Exchange Name Obj) : Letter Name Obj -> Prop
  | .request reqId call => exchange.calls[reqId]? = some call
  | .reply reqId outType out => exchange.Answered reqId outType out

/-- A method was executed for a call, with what has arrived of its argument, after the given
executions. -/
def Executed (channel : Channel Name Obj) (exchange : Exchange Name Obj) (before : List (Served Obj))
    (entry : Served Obj) : Prop :=
  Exists fun call : StubCall Name Obj => exchange.calls[entry.reqId]? = some call ∧
    entry.methodName = call.methodName ∧ entry.input = channel.argument call ∧
      entry.output = channel.execute before call entry.input

structure Sound (channel : Channel Name Obj) (exchange : Exchange Name Obj) : Prop where
  genuine : forall copy, copy ∈ exchange.inFlight -> exchange.Genuine copy.2
  executed : forall before entry after, exchange.served = before ++ entry :: after ->
    exchange.Executed channel before entry

/-- Nothing that was made or done is forgotten. -/
structure Extends (later exchange : Exchange Name Obj) : Prop where
  calls : forall (reqId : CString) (call : StubCall Name Obj), exchange.calls[reqId]? = some call ->
    later.calls[reqId]? = some call
  served : exchange.served ⊆ later.served

theorem Extends.answered (extends_ : later.Extends exchange) {outType : CString} {out : Obj}
    (answered : exchange.Answered reqId outType out) : later.Answered reqId outType out := by
  obtain ⟨⟨call, made, expected⟩, entry, member, same⟩ := answered
  exact ⟨⟨call, extends_.calls _ _ made, expected⟩, entry, extends_.served member, same⟩

theorem Genuine.mono {letter : Letter Name Obj} (genuine : exchange.Genuine letter)
    (extends_ : later.Extends exchange) : later.Genuine letter := by
  cases letter with
  | request reqId call => exact extends_.calls reqId call genuine
  | reply reqId outType out => exact extends_.answered genuine

theorem Sound.publish (sound : exchange.Sound channel) {letter : Letter Name Obj}
    (genuine : exchange.Genuine letter) : (exchange.publish channel letter).Sound channel where
  executed := sound.executed
  genuine copy member := by
    rcases List.mem_append.mp member with old | new
    · exact sound.genuine copy old
    · obtain ⟨receiver, _, same⟩ := List.mem_map.mp new
      subst same
      exact genuine

theorem extends_call (fresh : reqId ∉ exchange.calls) (call : StubCall Name Obj) :
    { exchange with calls := exchange.calls.insert reqId call }.Extends exchange where
  served := List.Subset.refl _
  calls other found made := by
    rw [Table.getElem?_insert_eq, if_neg]
    · exact made
    · intro same
      exact fresh (same ▸ Table.mem_of_getElem? made)

theorem Sound.call (sound : exchange.Sound channel) (fresh : reqId ∉ exchange.calls)
    (call : StubCall Name Obj) : { exchange with calls := exchange.calls.insert reqId call }.Sound channel where
  genuine copy member := (sound.genuine copy member).mono (extends_call fresh call)
  executed before entry after split := by
    obtain ⟨found, made, same⟩ := sound.executed before entry after split
    exact ⟨found, (extends_call fresh call).calls _ _ made, same⟩

theorem extends_wire (exchange : Exchange Name Obj) (inFlight : List (Member Name × Letter Name Obj)) :
    { exchange with inFlight := inFlight }.Extends exchange :=
  ⟨fun _ _ made => made, List.Subset.refl _⟩

/-- The service makes no calls, and only adds to what it has done. -/
theorem serve_spec (exchange : Exchange Name Obj) (message : Message) :
    (exchange.serve channel message).calls = exchange.calls ∧
      exchange.served ⊆ (exchange.serve channel message).served := by
  rw [serve]
  split
  next obj methodName _ _ =>
    dsimp only
    cases channel.callMethod exchange.served methodName obj _ _ <;>
      exact ⟨rfl, List.subset_append_left _ _⟩
  · exact ⟨rfl, List.Subset.refl _⟩

theorem extends_serve (exchange : Exchange Name Obj) (message : Message) :
    (exchange.serve channel message).Extends exchange where
  calls _ _ made := (serve_spec exchange message).1 ▸ made
  served := (serve_spec exchange message).2

theorem Sound.take (sound : exchange.Sound channel) (index : Nat) :
    { exchange with inFlight := exchange.inFlight.eraseIdx index }.Sound channel :=
  ⟨fun copy member => sound.genuine copy (List.mem_of_mem_eraseIdx member), sound.executed⟩

theorem Sound.record (sound : exchange.Sound channel) {call : StubCall Name Obj}
    (made : exchange.calls[reqId]? = some call) {out : Option Obj}
    (result : channel.execute exchange.served call (channel.argument call) = out) :
    (exchange.record ⟨reqId, call.methodName, channel.argument call, out⟩).Sound channel where
  genuine copy member :=
    (sound.genuine copy member).mono ⟨fun _ _ made => made, List.subset_append_left _ _⟩
  executed before entry after split := by
    rcases List.eq_nil_or_concat after with none | ⟨rest, last, some⟩
    · subst none
      obtain ⟨same, new⟩ := List.append_inj' split rfl
      cases new
      exact ⟨call, made, rfl, rfl, by rw [← same, result]⟩
    · rw [some, List.concat_eq_append, ← List.cons_append, ← List.append_assoc] at split
      exact sound.executed before entry rest (List.append_inj' split rfl).1

theorem Sound.serve (sound : exchange.Sound channel) {letter : Letter Name Obj}
    (genuine : exchange.Genuine letter) : (exchange.serve channel (letter.arrival channel)).Sound channel := by
  cases letter with
  | reply reqId outType out =>
      rw [serve_reply]
      exact sound
  | request reqId call =>
      rw [serve_request]
      dsimp only
      cases result : channel.execute exchange.served call (channel.argument call) with
      | none => exact sound.record genuine result
      | some out =>
          exact (sound.record genuine result).publish ⟨⟨call, genuine, rfl⟩, _,
            List.mem_append_right _ List.mem_cons_self, rfl, rfl⟩

end Exchange

/-! ## The stubs -/

/-- A stub keeps what has arrived of objects that methods have returned. -/
def Faithful (channel : Channel Name Obj) (exchange : Exchange Name Obj)
    (pending : PendingCalls (Option Obj)) : Prop :=
  forall reqId, (pending.row reqId).Consistent ∧ forall reply, (pending.row reqId).response = some reply ->
    exchange.Replies channel reqId reply

namespace Faithful

variable {exchange later : Exchange Name Obj} {pending : PendingCalls (Option Obj)}

theorem mono (faithful : Faithful channel exchange pending) (extends_ : later.Extends exchange) :
    Faithful channel later pending := by
  intro reqId
  refine ⟨(faithful reqId).1, fun reply found => ?_⟩
  obtain ⟨outType, out, same, answered⟩ := (faithful reqId).2 reply found
  exact ⟨outType, out, same, extends_.answered answered⟩

theorem call (faithful : Faithful channel exchange pending) {reqId : CString} {step : CallerStep}
    (fresh : step = .register -> reqId ∉ pending.phases) :
    Faithful channel exchange (pending.call reqId step).1 := by
  intro other
  obtain ⟨consistent, recorded⟩ := faithful other
  rw [PendingCalls.row_call]
  split
  next same =>
    subst same
    exact ⟨consistent.call step fun first => ExtTreeMap.getElem?_eq_none (fresh first),
      fun reply found => recorded reply (PendingCalls.response_of_call found)⟩
  next => exact ⟨consistent, recorded⟩

/-- A stub gets a message.  Only a reply names a request. -/
theorem receive (faithful : Faithful channel exchange pending) {letter : Letter Name Obj}
    (genuine : exchange.Genuine letter) {obj : Option Obj}
    (parsed : TypedSubscriber.receive channel.proto channel.outTypes (letter.arrival channel) = some obj) :
    Faithful channel exchange (pending.receive obj (letter.arrival channel)) := by
  intro other
  obtain ⟨consistent, recorded⟩ := faithful other
  rw [PendingCalls.row_receive,
    show (letter.arrival channel).metaMap[respIdKey]? = _ from letter.getElem?_arrival channel .respId]
  split
  next names =>
    refine ⟨consistent.receive obj, fun reply found => ?_⟩
    rw [CallRow.receive] at found
    split at found
    · exact recorded reply found
    · cases found
      cases letter with
      | request => cases names
      | reply reqId outType out =>
          cases names
          cases parsed.symm.trans (Letter.receive_reply channel _ outType out)
          exact ⟨outType, out, rfl, genuine⟩
  next => exact ⟨consistent, recorded⟩

end Faithful

namespace RemoteCalls

structure Invariant (channel : Channel Name Obj) (calls : RemoteCalls Name Obj) : Prop where
  sound : calls.exchange.Sound channel
  faithful : forall name, Faithful channel calls.exchange (calls.pending name)

variable {calls : RemoteCalls Name Obj}

theorem Invariant.grow (invariant : calls.Invariant channel) {later : Exchange Name Obj}
    (sound : later.Sound channel) (extends_ : later.Extends calls.exchange) :
    { calls with exchange := later }.Invariant channel :=
  ⟨sound, fun name => (invariant.faithful name).mono extends_⟩

theorem Invariant.init : (init : RemoteCalls Name Obj).Invariant channel where
  sound := ⟨fun _ member => absurd member List.not_mem_nil, fun _ _ _ split => by
    simp [RemoteCalls.init] at split⟩
  faithful _ reqId := ⟨PendingCalls.Consistent.init reqId, by
    simp [RemoteCalls.init, PendingCalls.init, PendingCalls.row]⟩

/-- All calls that were made are typed. -/
def WellTyped (channel : Channel Name Obj) (calls : RemoteCalls Name Obj) : Prop :=
  forall (reqId : CString) (call : StubCall Name Obj), calls.exchange.calls[reqId]? = some call ->
    channel.Typed call

/-- A method was executed for a call, with its argument, after the given executions. -/
def Justified (channel : Channel Name Obj) (calls : RemoteCalls Name Obj) (before : List (Served Obj))
    (entry : Served Obj) : Prop :=
  Exists fun call : StubCall Name Obj => calls.exchange.calls[entry.reqId]? = some call ∧
    entry.methodName = call.methodName ∧ entry.input = some call.input ∧
      entry.output = channel.execute before call (some call.input)

theorem WellTyped.justified (wellTyped : calls.WellTyped channel) (lawful : channel.proto.Lawful)
    {before : List (Served Obj)} {entry : Served Obj} (executed : calls.exchange.Executed channel before entry) :
    calls.Justified channel before entry := by
  obtain ⟨call, made, named, input, output⟩ := executed
  rw [(wellTyped _ _ made).argument lawful] at input
  exact ⟨call, made, named, input, input ▸ output⟩

variable [DecidableEq Name]

theorem Invariant.update (invariant : calls.Invariant channel) (name : Name)
    {pending : PendingCalls (Option Obj)} (faithful : Faithful channel calls.exchange pending) :
    { calls with pending := Function.update calls.pending name pending }.Invariant channel where
  sound := invariant.sound
  faithful := (Function.forall_update_iff _ fun _ => Faithful channel calls.exchange).mpr
    ⟨faithful, fun other _ => invariant.faithful other⟩

theorem Invariant.step (invariant : calls.Invariant channel) (event : RemoteCallEvent Name Obj) :
    (calls.step channel event).1.Invariant channel := by
  cases event with
  | call reqId call =>
      rw [RemoteCalls.step]
      split
      · exact invariant
      next used =>
        obtain ⟨fresh, unknown⟩ := not_or.mp used
        have made := invariant.grow (invariant.sound.call fresh call) (Exchange.extends_call fresh call)
        exact made.update _ ((made.faithful _).call fun _ => unknown)
  | advance reqId step =>
      rw [RemoteCalls.step]
      cases found : calls.exchange.calls[reqId]? with
      | none => exact invariant
      | some call =>
          have genuine : calls.exchange.Genuine (.request reqId call) := found
          have sent := invariant.grow (invariant.sound.publish genuine) (Exchange.extends_wire _ _)
          dsimp only
          split
          · exact invariant
          next later =>
            split
            · exact sent.update _ ((sent.faithful _).call fun first => absurd first later)
            · exact invariant.update _ ((invariant.faithful _).call fun first => absurd first later)
  | deliver index =>
      rw [RemoteCalls.step]
      cases found : calls.exchange.inFlight[index]? with
      | none => exact invariant
      | some copy =>
          have genuine := invariant.sound.genuine copy (List.mem_of_getElem? found)
          have taken := invariant.grow (invariant.sound.take index) (Exchange.extends_wire _ _)
          rcases copy with ⟨receiver, letter⟩
          cases receiver with
          | service =>
              exact taken.grow (taken.sound.serve genuine) (Exchange.extends_serve _ _)
          | stub name =>
              dsimp only
              rw [receive]
              split
              · exact taken
              next parsed => exact taken.update name ((taken.faithful name).receive genuine parsed)

/-- What a call returns has arrived for it before. -/
theorem Invariant.returned (invariant : calls.Invariant channel) (event : RemoteCallEvent Name Obj)
    {returned : Returned (Option Obj)} (member : returned ∈ (calls.step channel event).2) :
    Exists fun reply => returned.out = some reply ∧ calls.exchange.Replies channel returned.reqId reply := by
  have proceeds {name : Name} {reqId : CString} {step : CallerStep}
      (member : returned ∈ ((calls.pending name).call reqId step).2) :
      Exists fun reply => returned.out = some reply ∧ calls.exchange.Replies channel returned.reqId reply := by
    obtain ⟨_, passed, collected⟩ := @PendingCalls.finish_of_returned _ (calls.pending name)
      (.caller reqId step) returned member
    obtain ⟨consistent, recorded⟩ := invariant.faithful name returned.reqId
    simp only [CallRow.Consistent, PendingCalls.row, passed] at consistent
    obtain ⟨reply, found⟩ := Option.isSome_iff_exists.mp consistent.2
    exact ⟨reply, collected.trans found, recorded reply found⟩
  cases event with
  | call reqId call =>
      rw [RemoteCalls.step] at member
      split at member
      · cases member
      · exact proceeds member
  | advance reqId step =>
      rw [RemoteCalls.step] at member
      split at member
      · cases member
      · split at member
        · cases member
        · split at member <;> exact proceeds member
  | deliver index =>
      rw [RemoteCalls.step] at member
      split at member <;> cases member

/-- Only a call adds to the calls that were made. -/
theorem made_of_step {event : RemoteCallEvent Name Obj} {reqId : CString} {call : StubCall Name Obj}
    (made : (calls.step channel event).1.exchange.calls[reqId]? = some call) :
    calls.exchange.calls[reqId]? = some call ∨ event = .call reqId call := by
  cases event with
  | call other added =>
      rw [RemoteCalls.step] at made
      split at made
      · exact .inl made
      · simp only [proceed, Table.getElem?_insert_eq] at made
        split at made
        next same =>
          subst same
          cases made
          exact .inr rfl
        next => exact .inl made
  | advance other step =>
      rw [RemoteCalls.step] at made
      split at made
      · exact .inl made
      · split at made
        · exact .inl made
        · split at made <;> exact .inl made
  | deliver index =>
      rw [RemoteCalls.step] at made
      split at made
      · exact .inl made
      next receiver letter _ =>
        cases receiver with
        | service =>
            simp only [receive, (Exchange.serve_spec _ _).1] at made
            exact .inl made
        | stub name =>
            simp only [receive] at made
            split at made <;> exact .inl made

theorem WellTyped.step (wellTyped : calls.WellTyped channel) {event : RemoteCallEvent Name Obj}
    (typed : event.Typed channel) : (calls.step channel event).1.WellTyped channel := by
  intro reqId call made
  obtain before | added := made_of_step made
  · exact wellTyped reqId call before
  · subst added
    exact typed

/-- What a call returns, its method has returned before. -/
def Truthful (channel : Channel Name Obj) (calls : RemoteCalls Name Obj)
    (event : RemoteCallEvent Name Obj) : Prop :=
  forall returned, returned ∈ (calls.step channel event).2 -> Exists fun out : Obj =>
    returned.out = some (some out) ∧ calls.exchange.Produced returned.reqId out

theorem Invariant.truthful (invariant : calls.Invariant channel) (wellTyped : calls.WellTyped channel)
    (lawful : channel.proto.Lawful) (event : RemoteCallEvent Name Obj) : calls.Truthful channel event := by
  intro returned member
  obtain ⟨_, result, outType, out, rfl, ⟨call, made, expected⟩, produced⟩ := invariant.returned event member
  refine ⟨out, ?_, produced⟩
  obtain ⟨entry, served, same, output⟩ := produced
  obtain ⟨before, after, split⟩ := List.append_of_mem served
  obtain ⟨_, found, _, _, executed⟩ := wellTyped.justified lawful (invariant.sound.executed before entry after split)
  rw [same] at found
  cases made.symm.trans found
  have typed := wellTyped _ _ made
  have outTyped := typed.output before out (executed.symm.trans output)
  rw [result, Channel.result, ← expected, lawful.transfer outTyped typed.expected]

/-- A call whose request was sent returns by steps of its own if its reply has come, and does not
return otherwise. -/
def Prompt (channel : Channel Name Obj) (calls : RemoteCalls Name Obj) : Prop :=
  forall reqId call phase, calls.exchange.calls[reqId]? = some call ->
    (calls.pending call.stub).phases[reqId]? = some phase -> phase ≠ .registered -> phase ≠ .returned ->
    (run (step channel) calls [.advance reqId .wait, .advance reqId .wake, .advance reqId .finish]).2 =
      ((calls.pending call.stub).responses[reqId]?.map fun reply => ⟨reqId, some reply⟩).toList

theorem Invariant.prompt (invariant : calls.Invariant channel) : calls.Prompt channel := by
  intro reqId call phase made stands sent unreturned
  have consistent := (invariant.faithful call.stub reqId).1
  simp only [CallRow.Consistent, PendingCalls.row, stands] at consistent
  cases phase with
  | registered => exact absurd rfl sent
  | returned => exact absurd rfl unreturned
  | passed =>
      obtain ⟨reply, found⟩ := Option.isSome_iff_exists.mp consistent.2
      simp [run, RemoteCalls.step, made, proceed, PendingCalls.call, stands, found]
  | sent | waiting =>
      obtain ⟨monitor, registered, permit⟩ := consistent
      cases found : (calls.pending call.stub).responses[reqId]? with
      | none =>
          have blocked : monitor.signaled = 0 := by simpa [found] using permit
          simp [run, RemoteCalls.step, made, proceed, PendingCalls.call, stands, registered, blocked,
            ExtTreeMap.getD_eq_getD_getElem?, Thread.Monitor.enter, Thread.Monitor.wake]
      | some reply =>
          have permitted : 0 < monitor.signaled := by simpa [found] using permit
          simp [run, RemoteCalls.step, made, proceed, PendingCalls.call, stands, found, registered, permitted,
            ExtTreeMap.getD_eq_getD_getElem?, Thread.Monitor.enter, Thread.Monitor.wake]

/-- The type of byte strings. -/
def echoType : CString := .ofBytes "Bytes".toUTF8.toList

/-- A service with one method, which returns the byte string that it is called with, and two stubs. -/
def echo : Channel Nat Bytes where
  proto := ⟨fun _ => echoType, id, fun _ data => data⟩
  callMethod _ _ input _ _ := input
  inTypes type := decide (type = echoType)
  outTypes type := decide (type = echoType)
  stubs := [0, 1]
  publisher _ := ⟨.empty, .empty, false⟩
  procUUID _ := .empty

/-- A call of that method. -/
def echoCall (stub : Nat) (input : Bytes) : StubCall Nat Bytes :=
  ⟨stub, .ofBytes "echo".toUTF8.toList, input, echoType, echoType⟩

theorem echo_lawful : echo.proto.Lawful := fun _ => rfl

theorem echoCall_typed (stub : Nat) (input : Bytes) : echo.Typed (echoCall stub input) where
  input := rfl
  registered := decide_eq_true rfl
  output _ _ _ := rfl
  expected := decide_eq_true rfl

/-- Both stubs call the method at once.  The second request is served first, and answered before its
caller waits; the first stub gets that reply too, and its own one while its caller is blocked. -/
def twoEchoes : List (RemoteCallEvent Nat Bytes) :=
  let first : CString := .ofBytes [97]
  let second : CString := .ofBytes [98]
  [.call first (echoCall 0 [1]), .call second (echoCall 1 [2]), .advance first .send, .advance first .wait,
    .advance second .send, .deliver 3, .deliver 7, .deliver 0, .deliver 5, .deliver 6,
    .advance second .wait, .advance second .finish, .advance first .wake, .advance first .finish]

/-- In every run of typed calls, a method is executed for a call that was made, with the argument of the
call and in the state that the earlier executions have left; and whatever a call returns is what its
method has returned before. -/
theorem calls_answered (lawful : channel.proto.Lawful) (events : List (RemoteCallEvent Name Obj))
    (typed : forall event, event ∈ events -> event.Typed channel) :
    (forall before entry after, (run (step channel) init events).1.exchange.served = before ++ entry :: after ->
      (run (step channel) init events).1.Justified channel before entry) ∧
      Admits (step channel) (Truthful channel) init events := by
  let Good (calls : RemoteCalls Name Obj) : Prop := calls.Invariant channel ∧ calls.WellTyped channel
  have start : Good init := ⟨.init, fun _ _ made => nomatch made⟩
  have preserved (calls : RemoteCalls Name Obj) (event : RemoteCallEvent Name Obj) (good : Good calls)
      (allowed : event.Typed channel) : Good (calls.step channel event).1 :=
    ⟨good.1.step event, good.2.step allowed⟩
  have admitted : Admits (step channel) (fun _ event => event.Typed channel) init events :=
    admits_of_forall typed init
  obtain ⟨invariant, wellTyped⟩ := invariant_of_run Good preserved start admitted
  constructor
  · intro before entry after split
    exact wellTyped.justified lawful (invariant.sound.executed before entry after split)
  · refine (admits_iff_admits Good (Truthful channel) (fun _ _ => True) ?_ ?_ start admitted).mpr
      (admits_true (step channel) init events)
    · exact fun calls event good allowed _ => preserved calls event good allowed
    · exact fun calls event good _ => iff_of_true (good.1.truthful good.2 lawful event) trivial

theorem calls_answered_echo :
    (echo.proto.Lawful ∧ forall event, event ∈ twoEchoes -> event.Typed echo) ∧
      (run (step echo) init twoEchoes).2 =
        [⟨.ofBytes [98], some (some [2])⟩, ⟨.ofBytes [97], some (some [1])⟩] ∧
      Admits (step echo) (Truthful echo) init twoEchoes := by
  have typed (event : RemoteCallEvent Nat Bytes) (member : event ∈ twoEchoes) : event.Typed echo := by
    simp only [twoEchoes, List.mem_cons, List.not_mem_nil, or_false] at member
    rcases member with rfl | rfl | rfl | rfl | rfl | rfl | rfl | rfl | rfl | rfl | rfl | rfl | rfl | rfl
    all_goals first | exact echoCall_typed _ _ | exact trivial
  exact ⟨⟨echo_lawful, typed⟩, by decide +kernel, (calls_answered echo_lawful twoEchoes typed).2⟩

end RemoteCalls

end Rpc
end Umundo
