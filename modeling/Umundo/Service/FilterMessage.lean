import Umundo.Foundation.Labels
import Umundo.Service.Filter

namespace Umundo
namespace Service

open Foundation Std

/-!
# Filters in messages

A filter is sent in the meta map of a message: its name and uuid under keys of their own,
and each of its three maps under a label.  The receiver looks for the keys under one of
the labels and asserts that the other two have the rest of the rule.

The keys of a filter are chosen by the user and may look like keys of the protocol.  The
managers add entries of their own before a message is sent.
-/

/-- The meta map of a message. -/
structure Message where
  metaMap : Table Bytes Bytes

namespace Message

def empty : Message := ⟨∅⟩

def setMeta (message : Message) (key value : Bytes) : Message :=
  ⟨message.metaMap.insert key value⟩

/-- The value of a key, and the message with the key stored. -/
def getMeta (message : Message) (key : Bytes) : Bytes × Message :=
  (message.metaMap.getD key [], ⟨message.metaMap.insertIfNew key []⟩)

end Message

/-! ## Fields -/

/-- The fields of a filter in a message: two keys and three labels. -/
inductive FilterField where
  | serviceName
  | uuid
  | value
  | pattern
  | pred
deriving DecidableEq

def FilterField.text : FilterField -> Bytes
  | serviceName => literal "serviceName"
  | uuid => literal "uuid"
  | value => literal "value:"
  | pattern => literal "pattern:"
  | pred => literal "pred:"

/-- The label a field is. -/
def FilterField.label (field : FilterField) : Label Bytes := .ofList field.text

/-- The entries that managers and publishers add to a query. -/
inductive ProtocolKey where
  | type
  | reqId
  | filterId
  | subscriber
  | publisher
  | proc
  | channel
deriving DecidableEq

def ProtocolKey.text : ProtocolKey -> Bytes
  | type => literal "type"
  | reqId => literal "reqId"
  | filterId => literal "filterId"
  | subscriber => literal "subscriber"
  | publisher => literal "publisher"
  | proc => literal "proc"
  | channel => literal "channel"

/-- The fields are a prefix code, so none of them is read as another one. -/
theorem FilterField.diverge {first second : FilterField} (different : first ≠ second) :
    Diverge first.text second.text := by
  revert different
  cases first <;> cases second <;> decide +kernel

theorem FilterField.attach_ne {field other : FilterField} (different : field ≠ other) (key : Bytes) :
    field.label.attach key ≠ other.text :=
  (diverge different).append_ne key

/-- No key of the protocol begins like a field, or the other way round. -/
theorem ProtocolKey.diverge (field : FilterField) (key : ProtocolKey) : Diverge field.text key.text := by
  cases field <;> cases key <;> decide +kernel

/-! ## Numbers -/

/-- The text a stream prints for a predicate. -/
def printed (pred : Int32) : Bytes := (CString.ofInt pred.toInt).bytes

/-- `atoi` of a string, up to its first terminator. -/
def parsed (text : Bytes) : Int32 := Int32.ofInt (CString.ofBytes text).atoi

theorem parsed_printed (pred : Int32) : parsed (printed pred) = pred := by
  rw [parsed, printed, CString.ofBytes_bytes, CString.atoi_ofInt, Int32.ofInt_toInt]

/-! ## Writing and reading -/

namespace ServiceFilter

def toMessage (filter : ServiceFilter) : Message :=
  let named := (Message.empty.setMeta FilterField.serviceName.text filter.svcName).setMeta
    FilterField.uuid.text filter.uuid
  ⟨FilterField.pred.label.write (filter.predicate.map fun _ pred => printed pred)
    (FilterField.pattern.label.write filter.pattern
      (FilterField.value.label.write filter.value named.metaMap))⟩

/-- One iteration of the loop over the meta map.  A failed assertion ends it. -/
def readEntry (metaMap : Table Bytes Bytes) (filter : ServiceFilter) (entry : Bytes × Bytes) :
    Option ServiceFilter :=
  match FilterField.value.label.detach entry.1 with
  | none => some filter
  | some key =>
      -- both assertions, and the subscripts that follow them
      match metaMap[FilterField.pattern.label.attach key]?, metaMap[FilterField.pred.label.attach key]? with
      | some pattern, some pred => some (filter.addRule key ⟨pattern, entry.2, parsed pred⟩)
      | _, _ => none

/-- `ServiceFilter(Message*)`.  The name and the uuid are read through subscripts. -/
def ofMessage (message : Message) : Option ServiceFilter :=
  let (svcName, message) := message.getMeta FilterField.serviceName.text
  let (uuid, message) := message.getMeta FilterField.uuid.text
  message.metaMap.toList.foldlM (readEntry message.metaMap) (new uuid svcName)

end ServiceFilter

/-! ## What is written -/

namespace ServiceFilter

section

variable (filter : ServiceFilter)

/-- Entries under other labels are passed over. -/
private theorem getElem?_write_text {field other : FilterField} (different : field ≠ other)
    (inner table : Table Bytes Bytes) :
    (field.label.write inner table)[other.text]? = table[other.text]? :=
  field.label.getElem?_write_other _ _ (FilterField.diverge different).detach

private theorem getElem?_write_label {field other : FilterField} (different : field ≠ other)
    (inner table : Table Bytes Bytes) (key : Bytes) :
    (field.label.write inner table)[other.label.attach key]? = table[other.label.attach key]? :=
  field.label.getElem?_write_other _ _ ((FilterField.diverge different).apart key)

private theorem getElem?_named (svcName uuid key : Bytes) :
    ((Message.empty.setMeta FilterField.serviceName.text svcName).setMeta
        FilterField.uuid.text uuid).metaMap[key]? =
      if key = FilterField.uuid.text then some uuid
      else if key = FilterField.serviceName.text then some svcName else none := by
  rw [Message.setMeta, Message.setMeta, Table.getElem?_insert_eq, Table.getElem?_insert_eq]
  rfl

/-- What stands under a label is not one of the unlabelled entries. -/
private theorem getElem?_named_label (svcName uuid : Bytes) {field : FilterField} (key : Bytes)
    (notName : field ≠ .serviceName) (notUuid : field ≠ .uuid) :
    ((Message.empty.setMeta FilterField.serviceName.text svcName).setMeta
      FilterField.uuid.text uuid).metaMap[field.label.attach key]? = none := by
  rw [getElem?_named, if_neg (FilterField.attach_ne notUuid key), if_neg (FilterField.attach_ne notName key)]

theorem getElem?_toMessage_uuid : filter.toMessage.metaMap[FilterField.uuid.text]? = some filter.uuid := by
  rw [toMessage, getElem?_write_text (by decide), getElem?_write_text (by decide),
    getElem?_write_text (by decide), getElem?_named, if_pos rfl]

theorem getElem?_toMessage_serviceName :
    filter.toMessage.metaMap[FilterField.serviceName.text]? = some filter.svcName := by
  rw [toMessage, getElem?_write_text (by decide), getElem?_write_text (by decide),
    getElem?_write_text (by decide), getElem?_named, if_neg (by decide +kernel), if_pos rfl]

theorem getElem?_toMessage_value (key : Bytes) :
    filter.toMessage.metaMap[FilterField.value.label.attach key]? = filter.value[key]? := by
  rw [toMessage, getElem?_write_label (by decide), getElem?_write_label (by decide),
    Label.getElem?_write_self, getElem?_named_label _ _ key (by decide) (by decide), Option.or_none]

theorem getElem?_toMessage_pattern (key : Bytes) :
    filter.toMessage.metaMap[FilterField.pattern.label.attach key]? = filter.pattern[key]? := by
  rw [toMessage, getElem?_write_label (by decide), Label.getElem?_write_self,
    getElem?_write_label (by decide), getElem?_named_label _ _ key (by decide) (by decide), Option.or_none]

theorem getElem?_toMessage_pred (key : Bytes) :
    filter.toMessage.metaMap[FilterField.pred.label.attach key]? = filter.predicate[key]?.map printed := by
  rw [toMessage, Label.getElem?_write_self, getElem?_write_label (by decide),
    getElem?_write_label (by decide), getElem?_named_label _ _ key (by decide) (by decide),
    Option.or_none, ExtTreeMap.getElem?_map]

end

end ServiceFilter

/-! ## What is read -/

/-- A message that carries a filter, whatever else it carries. -/
structure Message.Carries (message : Message) (filter : ServiceFilter) : Prop where
  uuid : message.metaMap[FilterField.uuid.text]? = some filter.uuid
  serviceName : message.metaMap[FilterField.serviceName.text]? = some filter.svcName
  value : forall key : Bytes,
    message.metaMap[FilterField.value.label.attach key]? = filter.value[key]?
  pattern : forall key : Bytes,
    message.metaMap[FilterField.pattern.label.attach key]? = filter.pattern[key]?
  pred : forall key : Bytes,
    message.metaMap[FilterField.pred.label.attach key]? = filter.predicate[key]?.map printed

namespace Message.Carries

variable {message : Message} {filter : ServiceFilter}

theorem toMessage (filter : ServiceFilter) : filter.toMessage.Carries filter where
  uuid := filter.getElem?_toMessage_uuid
  serviceName := filter.getElem?_toMessage_serviceName
  value := filter.getElem?_toMessage_value
  pattern := filter.getElem?_toMessage_pattern
  pred := filter.getElem?_toMessage_pred

/-- Only the entries of the filter matter. -/
theorem congr (carries : message.Carries filter) {other : Message}
    (fields : forall field : FilterField, other.metaMap[field.text]? = message.metaMap[field.text]?)
    (labels : forall (field : FilterField) (key : Bytes),
      other.metaMap[field.label.attach key]? = message.metaMap[field.label.attach key]?) :
    other.Carries filter where
  uuid := (fields .uuid).trans carries.uuid
  serviceName := (fields .serviceName).trans carries.serviceName
  value key := (labels .value key).trans (carries.value key)
  pattern key := (labels .pattern key).trans (carries.pattern key)
  pred key := (labels .pred key).trans (carries.pred key)

/-- A manager adds an entry of the protocol. -/
theorem setMeta (carries : message.Carries filter) (key : ProtocolKey) (value : Bytes) :
    (message.setMeta key.text value).Carries filter := by
  refine carries.congr ?_ ?_
  · intro field
    refine (Table.getElem?_insert_eq _ _ _ _).trans (if_neg fun same => ?_)
    exact (key.diverge field).1 (same ▸ List.prefix_refl _)
  · intro field rest
    exact (Table.getElem?_insert_eq _ _ _ _).trans (if_neg ((key.diverge field).append_ne rest))

/-- A subscript that finds its key leaves the message as it is. -/
theorem getMeta (carries : message.Carries filter) {key : Bytes} (present : key ∈ message.metaMap) :
    (message.getMeta key).2.Carries filter := by
  have same (other : Bytes) : (message.getMeta key).2.metaMap[other]? = message.metaMap[other]? := by
    refine (Table.getElem?_touch _ _ _ _).trans ?_
    split
    next found =>
      rw [← found, ExtTreeMap.getElem?_eq_some_getElem present]
      rfl
    next => rfl
  exact carries.congr (fun _ => same _) (fun _ _ => same _)

theorem getMeta_eq {key value : Bytes} (stored : message.metaMap[key]? = some value) :
    (message.getMeta key).1 = value := by
  rw [Message.getMeta, ExtTreeMap.getD_eq_getD_getElem?, stored]
  rfl

end Message.Carries

namespace ServiceFilter

/-- The loop has copied the rules of some keys, and no others. -/
structure Copies (source copy : ServiceFilter) (done : Bytes -> Prop) : Prop where
  uuid : copy.uuid = source.uuid
  svcName : copy.svcName = source.svcName
  value : forall key, done key -> copy.value[key]? = source.value[key]?
  pattern : forall key, done key -> copy.pattern[key]? = source.pattern[key]?
  predicate : forall key, done key -> copy.predicate[key]? = source.predicate[key]?
  rest : forall key, key ∈ copy.value -> done key

namespace Copies

variable {source copy : ServiceFilter} {done : Bytes -> Prop}

theorem new (source : ServiceFilter) :
    Copies source (ServiceFilter.new source.uuid source.svcName) (fun _ => False) where
  uuid := rfl
  svcName := rfl
  value _ := nofun
  pattern _ := nofun
  predicate _ := nofun
  rest _ member := absurd member ExtTreeMap.not_mem_empty

theorem addRule (copies : Copies source copy done) {key : Bytes} {rule : Rule}
    (value : source.value[key]? = some rule.value) (pattern : source.pattern[key]? = some rule.pattern)
    (predicate : source.predicate[key]? = some rule.predicate) :
    Copies source (copy.addRule key rule) (fun other => done other ∨ other = key) where
  uuid := copies.uuid
  svcName := copies.svcName
  value other seen := by
    rw [ServiceFilter.addRule, Table.getElem?_insert_eq]
    split
    next same => rw [same, value]
    next different => exact copies.value other (seen.resolve_right different)
  pattern other seen := by
    rw [ServiceFilter.addRule, Table.getElem?_insert_eq]
    split
    next same => rw [same, pattern]
    next different => exact copies.pattern other (seen.resolve_right different)
  predicate other seen := by
    rw [ServiceFilter.addRule, Table.getElem?_insert_eq]
    split
    next same => rw [same, predicate]
    next different => exact copies.predicate other (seen.resolve_right different)
  rest other member := by
    rcases ExtTreeMap.mem_insert.mp member with same | earlier
    · exact .inr (LawfulEqCmp.eq_of_compare same).symm
    · exact .inl (copies.rest other earlier)

/-- A copy of all rules is the filter itself. -/
theorem eq (copies : Copies source copy done) (all : forall key, key ∈ source.value -> done key) :
    copy = source := by
  have absent {key : Bytes} (undone : ¬ done key) : key ∉ copy.value ∧ key ∉ source.value :=
    ⟨fun member => undone (copies.rest key member), fun member => undone (all key member)⟩
  apply ServiceFilter.ext copies.uuid copies.svcName
  · refine ExtTreeMap.ext_getElem? fun key => ?_
    by_cases seen : done key
    · exact copies.value key seen
    · rw [ExtTreeMap.getElem?_eq_none (absent seen).1, ExtTreeMap.getElem?_eq_none (absent seen).2]
  · refine ExtTreeMap.ext_getElem? fun key => ?_
    by_cases seen : done key
    · exact copies.pattern key seen
    · rw [ExtTreeMap.getElem?_eq_none (mt (copy.pattern_iff key).mp (absent seen).1),
        ExtTreeMap.getElem?_eq_none (mt (source.pattern_iff key).mp (absent seen).2)]
  · refine ExtTreeMap.ext_getElem? fun key => ?_
    by_cases seen : done key
    · exact copies.predicate key seen
    · rw [ExtTreeMap.getElem?_eq_none (mt (copy.predicate_iff key).mp (absent seen).1),
        ExtTreeMap.getElem?_eq_none (mt (source.predicate_iff key).mp (absent seen).2)]

/-- One iteration: no assertion fails, and the rule of the entry is copied. -/
theorem readEntry (copies : Copies source copy done) {message : Message}
    (carries : message.Carries source) {entry : Bytes × Bytes}
    (stored : message.metaMap[entry.1]? = some entry.2) :
    Exists fun next => ServiceFilter.readEntry message.metaMap copy entry = some next ∧
      Copies source next (fun key => done key ∨ FilterField.value.label.attach key = entry.1) := by
  rw [ServiceFilter.readEntry]
  cases detached : FilterField.value.label.detach entry.1 with
  | none =>
      have unlabelled (key : Bytes) : FilterField.value.label.attach key ≠ entry.1 := by
        intro same
        rw [← same, Label.detach_attach] at detached
        cases detached
      refine ⟨copy, rfl, ?_⟩
      simpa only [unlabelled, or_false] using copies
  | some key =>
      have whole := (Label.detach_eq_some_iff _ _ _).mp detached
      have value : source.value[key]? = some entry.2 := by
        rw [← carries.value, ← whole, stored]
      have known : key ∈ source.value := Table.mem_of_getElem? value
      have pattern := ExtTreeMap.getElem?_eq_some_getElem ((source.pattern_iff key).mpr known)
      have predicate := ExtTreeMap.getElem?_eq_some_getElem ((source.predicate_iff key).mpr known)
      simp only [carries.pattern, carries.pred, pattern, predicate, Option.map_some, parsed_printed]
      refine ⟨_, rfl, ?_⟩
      have next := @Copies.addRule source copy done copies key ⟨_, entry.2, _⟩ value pattern predicate
      have same (other : Bytes) : other = key <-> FilterField.value.label.attach other = entry.1 := by
        rw [whole]
        exact ⟨congrArg _, Label.attach_injective _⟩
      simpa only [same] using next

/-- The whole loop. -/
theorem readEntries (copies : Copies source copy done) {message : Message}
    (carries : message.Carries source) (entries : List (Bytes × Bytes))
    (stored : forall entry, entry ∈ entries -> message.metaMap[entry.1]? = some entry.2) :
    Exists fun final => entries.foldlM (ServiceFilter.readEntry message.metaMap) copy = some final ∧
      Copies source final
        (fun key => done key ∨ FilterField.value.label.attach key ∈ entries.map Prod.fst) := by
  induction entries generalizing copy done with
  | nil => exact ⟨copy, rfl, by simpa only [List.map_nil, List.not_mem_nil, or_false] using copies⟩
  | cons entry rest ih =>
      obtain ⟨next, read, copied⟩ := copies.readEntry carries (stored entry List.mem_cons_self)
      obtain ⟨final, finished, all⟩ :=
        ih copied fun other member => stored other (List.mem_cons_of_mem entry member)
      refine ⟨final, ?_, by simpa only [List.map_cons, List.mem_cons, or_assoc] using all⟩
      rw [List.foldlM_cons, read]
      exact finished

end Copies

/-- A filter is read from every message that carries it. -/
theorem ofMessage_of_carries {message : Message} {filter : ServiceFilter}
    (carries : message.Carries filter) : ofMessage message = some filter := by
  have named := carries.getMeta (Table.mem_of_getElem? carries.serviceName)
  have whole := named.getMeta (Table.mem_of_getElem? named.uuid)
  have start := Copies.new filter
  obtain ⟨final, finished, copies⟩ := start.readEntries whole _
    (fun entry member => ExtTreeMap.mem_toList_iff_getElem?_eq_some.mp member)
  have unfolded : ofMessage message =
      ((message.getMeta FilterField.serviceName.text).2.getMeta
          FilterField.uuid.text).2.metaMap.toList.foldlM
        (readEntry ((message.getMeta FilterField.serviceName.text).2.getMeta
          FilterField.uuid.text).2.metaMap)
        (ServiceFilter.new
          ((message.getMeta FilterField.serviceName.text).2.getMeta FilterField.uuid.text).1
          (message.getMeta FilterField.serviceName.text).1) := rfl
  rw [unfolded, Message.Carries.getMeta_eq carries.serviceName, Message.Carries.getMeta_eq named.uuid,
    finished]
  refine congrArg some (copies.eq fun key member => .inr ?_)
  refine List.mem_map.mpr ⟨(_, filter.value[key]), ExtTreeMap.mem_toList_iff_getElem?_eq_some.mpr ?_, rfl⟩
  rw [whole.value, ExtTreeMap.getElem?_eq_some_getElem member]

/-! ## Round trips -/

/-- A call that changes the rules of a filter. -/
inductive Edit where
  | addRule (key pattern value : Bytes) (pred : Int32)
  | addRuleForAll (key value : Bytes) (pred : Int32)
  | clearRules

def edit (filter : ServiceFilter) : Edit -> ServiceFilter
  | .addRule key pattern value pred => filter.addRule key ⟨pattern, value, pred⟩
  | .addRuleForAll key value pred => filter.addRuleForAll key value pred
  | .clearRules => filter.clearRules

/-- The constructor, and any number of calls. -/
def build (uuid svcName : Bytes) (edits : List Edit) : ServiceFilter :=
  edits.foldl edit (new uuid svcName)

end ServiceFilter

/-- What managers and publishers add, in any order. -/
def Message.extend (message : Message) (entries : List (ProtocolKey × Bytes)) : Message :=
  entries.foldl (fun extended entry => extended.setMeta entry.1.text entry.2) message

theorem Message.Carries.extend {message : Message} {filter : ServiceFilter}
    (carries : message.Carries filter) (entries : List (ProtocolKey × Bytes)) :
    (message.extend entries).Carries filter := by
  induction entries generalizing message with
  | nil => exact carries
  | cons entry rest ih => exact ih (carries.setMeta entry.1 entry.2)

/-- Every filter is read back from its message, however the message was extended. -/
theorem ServiceFilter.ofMessage_extend_toMessage (uuid svcName : Bytes) (edits : List Edit)
    (entries : List (ProtocolKey × Bytes)) :
    ofMessage ((build uuid svcName edits).toMessage.extend entries) = some (build uuid svcName edits) :=
  ofMessage_of_carries ((Message.Carries.toMessage _).extend entries)

/-- A rule without its pattern does not get past the assertions. -/
example : ServiceFilter.ofMessage (Message.empty.setMeta (literal "value:k") (literal "v")) = none := by
  decide +kernel

end Service
end Umundo
