import Umundo.Service.FilterMessage

namespace Umundo
namespace Service

open Foundation Std

/-!
# Descriptions in messages

A description is sent in the meta map of a message.  Its properties, its name and its
channel are all marked with the same label, and the name and the channel are written
last.  The receiver takes every entry with the label for a property, unless nothing stands
behind the label.

So the name and the channel always arrive, and they take the place of properties with
their keys.  A property with an empty key is lost.
-/

/-- What marks the entries of a description. -/
def descText : Bytes := literal "desc:"

def descLabel : Label Bytes := .ofList descText

/-- The key of the name, behind the label. -/
def nameKey : Bytes := literal "name"

def channelKey : Bytes := literal "channel"

theorem nameKey_ne_channelKey : nameKey ≠ channelKey := by decide +kernel

/-- The entries that managers and publishers add to a reply. -/
inductive ReplyKey where
  | respId
  | filterId
  | type
  | publisher
  | proc
  | channel
deriving DecidableEq

def ReplyKey.text : ReplyKey -> Bytes
  | respId => literal "respId"
  | filterId => literal "filterId"
  | type => literal "type"
  | publisher => literal "publisher"
  | proc => literal "proc"
  | channel => literal "channel"

/-- None of these keys is read as a part of a description. -/
theorem ReplyKey.diverge (key : ReplyKey) : Diverge descText key.text := by
  cases key <;> decide +kernel

/-- What managers and publishers add, in any order. -/
def Message.annotate (message : Message) (entries : List (ReplyKey × Bytes)) : Message :=
  entries.foldl (fun annotated entry => annotated.setMeta entry.1.text entry.2) message

namespace ServiceDescription

def setProperty (desc : ServiceDescription) (key value : Bytes) : ServiceDescription :=
  { desc with properties := desc.properties.insert key value }

def toMessage (desc : ServiceDescription) : Message :=
  let listed : Message := ⟨descLabel.write desc.properties Message.empty.metaMap⟩
  (listed.setMeta (descLabel.attach nameKey) desc.svcName).setMeta (descLabel.attach channelKey)
    desc.channelName

/-- One iteration of the loop over the meta map. -/
def readEntry (desc : ServiceDescription) (entry : Bytes × Bytes) : ServiceDescription :=
  if descText.length < entry.1.length ∧ descText <+: entry.1 then
    desc.setProperty (entry.1.drop descText.length) entry.2
  else desc

/-- `ServiceDescription(Message*)`.  The name and the channel are read through subscripts. -/
def ofMessage (message : Message) : ServiceDescription :=
  let (svcName, message) := message.getMeta (descLabel.attach nameKey)
  let (channelName, message) := message.getMeta (descLabel.attach channelKey)
  message.metaMap.toList.foldl readEntry ⟨svcName, channelName, ∅⟩

/-! ## What is written -/

/-- The properties as others see them: the name and the channel are among them. -/
def announced (desc : ServiceDescription) : Table Bytes Bytes :=
  (desc.properties.insert nameKey desc.svcName).insert channelKey desc.channelName

theorem getElem?_announced (desc : ServiceDescription) (key : Bytes) :
    desc.announced[key]? =
      if key = channelKey then some desc.channelName
      else if key = nameKey then some desc.svcName else desc.properties[key]? := by
  rw [announced, Table.getElem?_insert_eq, Table.getElem?_insert_eq]

theorem getElem?_toMessage (desc : ServiceDescription) (key : Bytes) :
    desc.toMessage.metaMap[descLabel.attach key]? = desc.announced[key]? := by
  have same {first second : Bytes} : descLabel.attach first = descLabel.attach second <-> first = second :=
    ⟨descLabel.attach_injective, congrArg _⟩
  rw [getElem?_announced, toMessage, Message.setMeta, Message.setMeta, Table.getElem?_insert_eq,
    Table.getElem?_insert_eq, Label.getElem?_write_self]
  simp only [same, Message.empty, ExtTreeMap.getElem?_empty, Option.or_none]

/-- Nothing but the description is in its message. -/
theorem getElem?_toMessage_other (desc : ServiceDescription) {key : Bytes}
    (unlabelled : descLabel.detach key = none) : desc.toMessage.metaMap[key]? = none := by
  have different (rest : Bytes) : key ≠ descLabel.attach rest := by
    rintro rfl
    cases (descLabel.detach_attach rest).symm.trans unlabelled
  rw [toMessage, Message.setMeta, Message.setMeta, Table.getElem?_insert_eq, if_neg (different _),
    Table.getElem?_insert_eq, if_neg (different _), Label.getElem?_write_other _ _ _ unlabelled]
  exact ExtTreeMap.getElem?_empty

/-- Two descriptions have the same message if the same is announced. -/
theorem toMessage_eq_iff (first second : ServiceDescription) :
    first.toMessage = second.toMessage <-> first.announced = second.announced := by
  constructor
  · intro same
    refine ExtTreeMap.ext_getElem? fun key => ?_
    rw [← getElem?_toMessage, ← getElem?_toMessage, same]
  · intro same
    have lookups (key : Bytes) : first.toMessage.metaMap[key]? = second.toMessage.metaMap[key]? := by
      cases detached : descLabel.detach key with
      | none => rw [getElem?_toMessage_other _ detached, getElem?_toMessage_other _ detached]
      | some rest =>
          rw [(descLabel.detach_eq_some_iff _ _).mp detached, getElem?_toMessage, getElem?_toMessage, same]
    exact congrArg Message.mk (ExtTreeMap.ext_getElem? lookups)

end ServiceDescription

/-- Annotations are not under the label. -/
theorem Message.getElem?_annotate (message : Message) (entries : List (ReplyKey × Bytes)) (key : Bytes) :
    (message.annotate entries).metaMap[descLabel.attach key]? = message.metaMap[descLabel.attach key]? := by
  induction entries generalizing message with
  | nil => rfl
  | cons entry rest ih =>
      refine (ih (message.setMeta entry.1.text entry.2)).trans ?_
      have different : descLabel.attach key ≠ entry.1.text := entry.1.diverge.append_ne key
      rw [Message.setMeta, Table.getElem?_insert_eq, if_neg different]

/-! ## What is read -/

namespace ServiceDescription

/-- The condition of an iteration, in terms of the label. -/
theorem readEntry_eq (desc : ServiceDescription) (entry : Bytes × Bytes) :
    desc.readEntry entry =
      match descLabel.detach entry.1 with
      | none => desc
      | some key => if key = [] then desc else desc.setProperty key entry.2 := by
  rw [readEntry]
  cases detached : descLabel.detach entry.1 with
  | none =>
      refine if_neg fun condition => ?_
      rw [descLabel, Label.ofList] at detached
      dsimp only at detached
      rw [if_pos condition.2] at detached
      cases detached
  | some key =>
      have whole : entry.1 = descText ++ key := (descLabel.detach_eq_some_iff _ _).mp detached
      have longer : descText.length < entry.1.length <-> key ≠ [] := by
        rw [whole, List.length_append, ← List.length_pos_iff]
        omega
      have begins : descText <+: entry.1 := ⟨key, whole.symm⟩
      dsimp only
      rw [whole, List.drop_left, ← whole]
      simp only [longer, begins, and_true, ne_eq, ite_not]

/-- All properties under the label are read, up to the one with an empty key. -/
theorem foldl_readEntry (entries : List (Bytes × Bytes)) (svcName channelName : Bytes)
    (all : Table Bytes Bytes) :
    entries.foldl readEntry ⟨svcName, channelName, all.erase []⟩ =
      ⟨svcName, channelName, (all.insertMany (entries.filterMap fun entry =>
        (descLabel.detach entry.1).map fun key => (key, entry.2))).erase []⟩ := by
  induction entries generalizing all with
  | nil => rfl
  | cons entry rest ih =>
      rw [List.foldl_cons, readEntry_eq, List.filterMap_cons]
      cases descLabel.detach entry.1 with
      | none => exact ih all
      | some key =>
          dsimp only [Option.map_some]
          rw [ExtTreeMap.insertMany_cons, ← ih]
          congr 1
          split
          next blank => rw [blank, Table.erase_insert]
          next named => rw [setProperty, Table.erase_insert_of_ne _ _ named]

/-- The whole constructor, once both subscripts find their keys. -/
theorem ofMessage_eq {message : Message} {svcName channelName : Bytes}
    (name : message.metaMap[descLabel.attach nameKey]? = some svcName)
    (channel : message.metaMap[descLabel.attach channelKey]? = some channelName) :
    ofMessage message = ⟨svcName, channelName, (descLabel.read message.metaMap).erase []⟩ := by
  have named := Message.Carries.getMeta_eq name
  have channeled := Message.Carries.getMeta_eq channel
  have unchanged {key value : Bytes} (found : message.metaMap[key]? = some value) :
      (message.getMeta key).2 = message :=
    congrArg Message.mk (Table.insertIfNew_of_mem _ _ _ (Table.mem_of_getElem? found))
  have start : (∅ : Table Bytes Bytes) = (∅ : Table Bytes Bytes).erase [] := by
    refine ExtTreeMap.ext_getElem? fun key => ?_
    rw [Table.getElem?_erase_eq, ExtTreeMap.getElem?_empty, ite_self]
  rw [ofMessage]
  dsimp only
  rw [unchanged name, unchanged channel, named, channeled, start, foldl_readEntry, Label.read,
    ExtTreeMap.ofList_eq_insertMany_empty]

/-- What the receiver makes of a description, however its message was annotated. -/
theorem ofMessage_annotate_toMessage (desc : ServiceDescription) (entries : List (ReplyKey × Bytes)) :
    ofMessage (desc.toMessage.annotate entries) =
      ⟨desc.svcName, desc.channelName, desc.announced.erase []⟩ := by
  have lookup (key : Bytes) :
      (desc.toMessage.annotate entries).metaMap[descLabel.attach key]? = desc.announced[key]? := by
    rw [Message.getElem?_annotate, getElem?_toMessage]
  have name : desc.announced[nameKey]? = some desc.svcName := by
    rw [getElem?_announced, if_neg nameKey_ne_channelKey, if_pos rfl]
  have channel : desc.announced[channelKey]? = some desc.channelName := by
    rw [getElem?_announced, if_pos rfl]
  rw [ofMessage_eq ((lookup nameKey).trans name) ((lookup channelKey).trans channel)]
  congr 2
  refine ExtTreeMap.ext_getElem? fun key => ?_
  rw [Label.getElem?_read, lookup]

/-! ## Round trips -/

/-- The receiver has the name, the channel and all properties. -/
structure Keeps (original decoded : ServiceDescription) : Prop where
  svcName : decoded.svcName = original.svcName
  channelName : decoded.channelName = original.channelName
  properties : forall key value : Bytes, original.properties[key]? = some value ->
    (decoded.getProperty key).1 = value

/-- A property arrives unless its key is empty, or is the key of the name or the channel. -/
theorem property_ofMessage (desc : ServiceDescription) (entries : List (ReplyKey × Bytes)) (key : Bytes) :
    ((ofMessage (desc.toMessage.annotate entries)).getProperty key).1 =
      if key = [] then []
      else if key = channelKey then desc.channelName
      else if key = nameKey then desc.svcName else desc.property key := by
  rw [ofMessage_annotate_toMessage, getProperty, property, ExtTreeMap.getD_eq_getD_getElem?,
    Table.getElem?_erase_eq, getElem?_announced]
  split
  next => rfl
  next =>
    split
    next => rfl
    next =>
      split
      next => rfl
      next => rw [property, ExtTreeMap.getD_eq_getD_getElem?]

/-- A description arrives as it was sent exactly if its properties with the keys that are
used otherwise have the values that the receiver finds there. -/
theorem description_kept_iff (desc : ServiceDescription) (entries : List (ReplyKey × Bytes)) :
    desc.Keeps (ofMessage (desc.toMessage.annotate entries)) <->
      (forall value : Bytes, desc.properties[([] : Bytes)]? = some value -> value = []) ∧
        (forall value : Bytes, desc.properties[nameKey]? = some value -> value = desc.svcName) ∧
        (forall value : Bytes, desc.properties[channelKey]? = some value -> value = desc.channelName) := by
  have nameKey_ne_nil : nameKey ≠ [] := by decide +kernel
  have channelKey_ne_nil : channelKey ≠ [] := by decide +kernel
  constructor
  · intro keeps
    refine ⟨fun value stored => ?_, fun value stored => ?_, fun value stored => ?_⟩
    · rw [← keeps.properties _ value stored, property_ofMessage, if_pos rfl]
    · rw [← keeps.properties _ value stored, property_ofMessage, if_neg nameKey_ne_nil,
        if_neg nameKey_ne_channelKey, if_pos rfl]
    · rw [← keeps.properties _ value stored, property_ofMessage, if_neg channelKey_ne_nil, if_pos rfl]
  · rintro ⟨blank, name, channel⟩
    have decoded := ofMessage_annotate_toMessage desc entries
    refine ⟨?_, ?_, fun key value stored => ?_⟩
    · rw [decoded]
    · rw [decoded]
    · rw [property_ofMessage]
      split
      next same =>
        subst same
        exact (blank value stored).symm
      next =>
        split
        next same =>
          subst same
          exact (channel value stored).symm
        next =>
          split
          next same =>
            subst same
            exact (name value stored).symm
          next =>
            rw [property, ExtTreeMap.getD_eq_getD_getElem?, stored]
            rfl

/-- A service `s` with the property `name`, which the receiver takes for the name. -/
theorem property_overwritten :
    let desc : ServiceDescription := ⟨literal "s", literal "c", ExtTreeMap.empty.insert nameKey (literal "v")⟩
    (desc.getProperty nameKey).1 = literal "v" ∧
      ((ofMessage (desc.toMessage.annotate [(.respId, literal "r")])).getProperty nameKey).1 = literal "s" ∧
      ¬ desc.Keeps (ofMessage (desc.toMessage.annotate [(.respId, literal "r")])) := by
  intro desc
  have stored : desc.properties[nameKey]? = some (literal "v") := by decide +kernel
  have arrives : ((ofMessage (desc.toMessage.annotate [(.respId, literal "r")])).getProperty nameKey).1 =
      literal "s" := by
    decide +kernel
  have different : literal "s" ≠ literal "v" := by decide +kernel
  refine ⟨by decide +kernel, arrives, fun keeps => ?_⟩
  exact different (arrives.symm.trans (keeps.properties _ _ stored))

end ServiceDescription

end Service
end Umundo
