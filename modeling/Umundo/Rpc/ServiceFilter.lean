import Umundo.Connection.DataMessage
import Umundo.Foundation.Fields

namespace Umundo
namespace Rpc

open Foundation Std Connection

/-!
# Service descriptions and service filters

A service is described by its name, the channel it listens on, and a map of
properties.  A filter asks for a name and has one rule for each of some
properties: a pattern that selects a part of the property, a value to compare
that part with, and a predicate.  Both are sent between service managers in the
meta map of a message.

How a single rule is evaluated is a parameter here.  What matters for everything
below is that a rule looks at one property only, and that looking at a property
stores an empty one where there is none.
-/

/-! The meta keys and the labels of meta keys. -/

def serviceNameKey : CString := .ofBytes "serviceName".toUTF8.toList

def uuidKey : CString := .ofBytes "uuid".toUTF8.toList

def descNameKey : CString := .ofBytes "desc:name".toUTF8.toList

def descChannelKey : CString := .ofBytes "desc:channel".toUTF8.toList

def valueLabel : CString := .ofBytes "value:".toUTF8.toList

def patternLabel : CString := .ofBytes "pattern:".toUTF8.toList

def predLabel : CString := .ofBytes "pred:".toUTF8.toList

def descLabel : CString := .ofBytes "desc:".toUTF8.toList

/-- The fields of a filter in a message: two keys and three labels. -/
inductive FilterField where
  | serviceName
  | uuid
  | value
  | pattern
  | pred
deriving DecidableEq

abbrev FilterField.key : FilterField -> CString
  | serviceName => serviceNameKey
  | uuid => uuidKey
  | value => valueLabel
  | pattern => patternLabel
  | pred => predLabel

/-- The fields are a prefix code, so none of them is read as another one. -/
theorem FilterField.apart (first second : FilterField) :
    first ≠ second -> CString.Apart first.key second.key := by
  cases first <;> cases second <;> decide +kernel

/-! ## Descriptions -/

structure ServiceDescription where
  svcName : CString
  channelName : CString
  properties : Table CString CString

namespace ServiceDescription

/-- `ServiceDescription(Message*)`.  The name and the channel are read through
subscripts, and both are properties, too. -/
def ofMessage (message : Message) : ServiceDescription :=
  let metaMap := (message.metaMap.insertIfNew descNameKey .empty).insertIfNew descChannelKey .empty
  { svcName := metaMap.getD descNameKey .empty
    channelName := metaMap.getD descChannelKey .empty
    properties := (Table.labelled descLabel metaMap).erase .empty }

def toMessage (desc : ServiceDescription) : Message :=
  { data := []
    metaMap := ((Table.addLabelled descLabel desc.properties ∅).insert descNameKey
      desc.svcName).insert descChannelKey desc.channelName }

theorem channelName_ofMessage (message : Message) :
    (ofMessage message).channelName = message.metaMap.getD descChannelKey .empty := by
  change ((message.metaMap.insertIfNew descNameKey .empty).insertIfNew descChannelKey .empty).getD
    descChannelKey .empty = _
  rw [ExtTreeMap.getD_eq_getD_getElem?, ExtTreeMap.getD_eq_getD_getElem?, Table.getElem?_touch,
    if_pos rfl, Table.getElem?_touch, if_neg (by decide +kernel)]
  rfl

/-- The value of a property, and the description with the property stored. -/
def getProperty (desc : ServiceDescription) (key : CString) : CString × ServiceDescription :=
  (desc.properties.getD key .empty,
    { desc with properties := desc.properties.insertIfNew key .empty })

/-- No filter can tell the two descriptions apart. -/
structure Alike (first second : ServiceDescription) : Prop where
  svcName : first.svcName = second.svcName
  channelName : first.channelName = second.channelName
  property : forall key, first.properties.getD key .empty = second.properties.getD key .empty

theorem Alike.refl (desc : ServiceDescription) : desc.Alike desc := ⟨rfl, rfl, fun _ => rfl⟩

theorem Alike.symm {first second : ServiceDescription} (alike : first.Alike second) :
    second.Alike first :=
  ⟨alike.svcName.symm, alike.channelName.symm, fun key => (alike.property key).symm⟩

theorem Alike.trans {first second third : ServiceDescription} (left : first.Alike second)
    (right : second.Alike third) : first.Alike third :=
  ⟨left.svcName.trans right.svcName, left.channelName.trans right.channelName,
    fun key => (left.property key).trans (right.property key)⟩

/-- Looking at a property is not noticed by whoever looks next. -/
theorem Alike.getProperty (desc : ServiceDescription) (key : CString) :
    desc.Alike (desc.getProperty key).2 where
  svcName := rfl
  channelName := rfl
  property other := by
    rw [ServiceDescription.getProperty, ExtTreeMap.getD_eq_getD_getElem?,
      ExtTreeMap.getD_eq_getD_getElem?, Table.getElem?_touch]
    split
    next same =>
      rw [same]
      rfl
    next => rfl

end ServiceDescription

/-! ## Filters -/

/-- One rule: what the pattern selects is compared with the value. -/
structure Rule where
  pattern : CString
  value : CString
  predicate : Int
deriving DecidableEq

/-- A filter.  Its three maps always have the same keys. -/
structure ServiceFilter where
  uuid : CString
  svcName : CString
  value : Table CString CString
  pattern : Table CString CString
  predicate : Table CString Int
  pattern_iff : forall key, key ∈ pattern <-> key ∈ value
  predicate_iff : forall key, key ∈ predicate <-> key ∈ value

namespace ServiceFilter

/-- `ServiceFilter(svcName)`, with the uuid it is given. -/
def new (uuid svcName : CString) : ServiceFilter where
  uuid := uuid
  svcName := svcName
  value := ∅
  pattern := ∅
  predicate := ∅
  pattern_iff _ := Iff.rfl
  predicate_iff _ := iff_of_false ExtTreeMap.not_mem_empty ExtTreeMap.not_mem_empty

def addRule (filter : ServiceFilter) (key : CString) (rule : Rule) : ServiceFilter where
  uuid := filter.uuid
  svcName := filter.svcName
  value := filter.value.insert key rule.value
  pattern := filter.pattern.insert key rule.pattern
  predicate := filter.predicate.insert key rule.predicate
  pattern_iff other := by rw [ExtTreeMap.mem_insert, ExtTreeMap.mem_insert, filter.pattern_iff]
  predicate_iff other := by rw [ExtTreeMap.mem_insert, ExtTreeMap.mem_insert, filter.predicate_iff]

def toMessage (filter : ServiceFilter) : Message :=
  let named := (Message.empty.setMeta serviceNameKey filter.svcName).setMeta uuidKey filter.uuid
  { data := []
    metaMap := Table.addLabelled predLabel (filter.predicate.map fun _ pred => CString.ofInt pred)
      (Table.addLabelled patternLabel filter.pattern
        (Table.addLabelled valueLabel filter.value named.metaMap)) }

/-- `ServiceFilter(Message*)`: every value is a rule, with an empty pattern and the
predicate zero where the message has none. -/
def ofMessage (message : Message) : ServiceFilter where
  uuid := message.metaMap.getD uuidKey .empty
  svcName := message.metaMap.getD serviceNameKey .empty
  value := Table.labelled valueLabel message.metaMap
  pattern := (Table.labelled valueLabel message.metaMap).map fun key _ =>
    message.metaMap.getD (patternLabel ++ key) .empty
  predicate := (Table.labelled valueLabel message.metaMap).map fun key _ =>
    (message.metaMap.getD (predLabel ++ key) .empty).atoi
  pattern_iff _ := ExtTreeMap.mem_map
  predicate_iff _ := ExtTreeMap.mem_map

/-- A filter with some rules added in turn. -/
def build (uuid svcName : CString) (rules : List (CString × Rule)) : ServiceFilter :=
  rules.foldl (fun filter entry => filter.addRule entry.1 entry.2) (new uuid svcName)

/-- The rule for a key whose value is known. -/
def rule (filter : ServiceFilter) (key value : CString) : Rule :=
  ⟨filter.pattern.getD key .empty, value, filter.predicate.getD key 0⟩

/-- Check the rules in order, up to the first one that does not hold. -/
def checkRules (holds : Rule -> CString -> Bool) (filter : ServiceFilter) :
    List (CString × CString) -> ServiceDescription -> Bool × ServiceDescription
  | [], desc => (true, desc)
  | (key, value) :: rest, desc =>
      let read := desc.getProperty key
      if holds (filter.rule key value) read.1 then filter.checkRules holds rest read.2
      else (false, read.2)

end ServiceFilter

/-- Whether a description matches, and what is left of the description. -/
def ServiceFilter.matches (holds : Rule -> CString -> Bool) (filter : ServiceFilter)
    (desc : ServiceDescription) : Bool × ServiceDescription :=
  if filter.svcName = desc.svcName then filter.checkRules holds filter.value.toList desc
  else (false, desc)

namespace ServiceFilter

section

variable {holds : Rule -> CString -> Bool}

/-- The names are equal and every rule holds. -/
def Accepts (holds : Rule -> CString -> Bool) (filter : ServiceFilter) (desc : ServiceDescription) :
    Prop :=
  filter.svcName = desc.svcName ∧
    forall (key value : CString), filter.value[key]? = some value ->
      holds (filter.rule key value) (desc.properties.getD key .empty) = true

theorem alike_checkRules (filter : ServiceFilter) (rules : List (CString × CString))
    (desc : ServiceDescription) : desc.Alike (filter.checkRules holds rules desc).2 := by
  induction rules generalizing desc with
  | nil => exact .refl desc
  | cons rule rest ih =>
      rw [checkRules]
      split
      · exact (ServiceDescription.Alike.getProperty desc rule.1).trans (ih _)
      · exact .getProperty desc rule.1

/-- A match leaves a description that nobody can tell from the one before. -/
theorem alike_matches (filter : ServiceFilter) (desc : ServiceDescription) :
    desc.Alike (filter.matches holds desc).2 := by
  rw [ServiceFilter.matches]
  split
  · exact alike_checkRules filter _ desc
  · exact .refl desc

theorem checkRules_iff (filter : ServiceFilter) (rules : List (CString × CString))
    (desc : ServiceDescription) :
    (filter.checkRules holds rules desc).1 = true <->
      forall entry, entry ∈ rules ->
        holds (filter.rule entry.1 entry.2) (desc.properties.getD entry.1 .empty) = true := by
  induction rules generalizing desc with
  | nil => simp [checkRules]
  | cons rule rest ih =>
      have same := ServiceDescription.Alike.getProperty desc rule.1
      have read : desc.properties.getD rule.1 .empty = (desc.getProperty rule.1).1 := rfl
      rw [checkRules, List.forall_mem_cons, read]
      by_cases first : holds (filter.rule rule.1 rule.2) (desc.getProperty rule.1).1 = true
      · rw [if_pos first, ih]
        simp only [first, true_and, ← same.property]
      · rw [if_neg first]
        simp only [first, false_and, Bool.false_eq_true]

/-- A description matches if its name is right and every rule holds. -/
theorem matches_iff (filter : ServiceFilter) (desc : ServiceDescription) :
    (filter.matches holds desc).1 = true <-> filter.Accepts holds desc := by
  rw [ServiceFilter.matches, Accepts]
  split
  next same =>
    rw [checkRules_iff]
    simp only [same, true_and, Prod.forall, ExtTreeMap.mem_toList_iff_getElem?_eq_some]
  next different => simp [different]

/-- A filter without rules only asks for the name, and leaves every description
as it is. -/
theorem matches_of_no_rules {filter : ServiceFilter} (none : filter.value = ∅)
    (desc : ServiceDescription) :
    filter.matches holds desc = (decide (filter.svcName = desc.svcName), desc) := by
  rw [ServiceFilter.matches, none]
  split
  next same =>
    rw [decide_eq_true same]
    rfl
  next different => rw [decide_eq_false different]

theorem accepts_of_alike {filter : ServiceFilter} {first second : ServiceDescription}
    (alike : first.Alike second) : filter.Accepts holds first <-> filter.Accepts holds second := by
  rw [Accepts, Accepts, alike.svcName]
  simp only [alike.property]

theorem matches_of_alike {filter : ServiceFilter} {first second : ServiceDescription}
    (alike : first.Alike second) :
    (filter.matches holds first).1 = (filter.matches holds second).1 := by
  rw [Bool.eq_iff_iff, matches_iff, matches_iff, accepts_of_alike alike]

end

/-! ## Filters in messages -/

theorem ext {first second : ServiceFilter} (uuid : first.uuid = second.uuid)
    (svcName : first.svcName = second.svcName) (value : first.value = second.value)
    (pattern : first.pattern = second.pattern) (predicate : first.predicate = second.predicate) :
    first = second := by
  cases first
  cases second
  cases uuid
  cases svcName
  cases value
  cases pattern
  cases predicate
  rfl

/-- The keys that a filter is written to and read from. -/
def IsFilterKey (key : CString) : Prop :=
  key = serviceNameKey ∨ key = uuidKey ∨ (CString.dropLabel valueLabel key).isSome = true ∨
    (CString.dropLabel patternLabel key).isSome = true ∨
    (CString.dropLabel predLabel key).isSome = true

instance : DecidablePred IsFilterKey := fun key =>
  inferInstanceAs (Decidable (key = serviceNameKey ∨ key = uuidKey ∨ _ ∨ _ ∨ _))

theorem isFilterKey_label {label : CString} (key : CString)
    (known : label = valueLabel ∨ label = patternLabel ∨ label = predLabel) :
    IsFilterKey (label ++ key) := by
  rcases known with rfl | rfl | rfl
  · exact .inr (.inr (.inl (by rw [CString.dropLabel_append]; rfl)))
  · exact .inr (.inr (.inr (.inl (by rw [CString.dropLabel_append]; rfl))))
  · exact .inr (.inr (.inr (.inr (by rw [CString.dropLabel_append]; rfl))))

/-- The name and the uuid are the only unlabelled entries. -/
private theorem getElem?_named (svcName uuid key : CString) :
    ((Message.empty.setMeta serviceNameKey svcName).setMeta uuidKey uuid).metaMap[key]? =
      if key = uuidKey then some uuid else if key = serviceNameKey then some svcName else none := by
  rw [Message.setMeta, Message.setMeta, Table.getElem?_insert_eq, Table.getElem?_insert_eq]
  rfl

/-- What stands under a label is not one of the unlabelled entries. -/
private theorem getElem?_named_label (svcName uuid : CString) (field : FilterField) (key : CString)
    (notName : field ≠ .serviceName) (notUuid : field ≠ .uuid) :
    ((Message.empty.setMeta serviceNameKey svcName).setMeta uuidKey uuid).metaMap[field.key ++ key]? =
      none := by
  rw [getElem?_named, if_neg ((field.apart .uuid notUuid).append_ne key),
    if_neg ((field.apart .serviceName notName).append_ne key)]

/-- Entries under other labels are passed over. -/
private theorem getElem?_addLabelled_key (field other : FilterField) (apart : field ≠ other)
    (inner table : Table CString CString) :
    (Table.addLabelled field.key inner table)[other.key]? = table[other.key]? :=
  Table.getElem?_addLabelled_other _ _ _ _ (field.apart other apart).dropLabel

private theorem getElem?_addLabelled_label (field other : FilterField) (apart : field ≠ other)
    (inner table : Table CString CString) (key : CString) :
    (Table.addLabelled field.key inner table)[other.key ++ key]? = table[other.key ++ key]? :=
  Table.getElem?_addLabelled_other _ _ _ _ ((field.apart other apart).dropLabel_append key)

theorem getElem?_toMessage_uuid (filter : ServiceFilter) :
    filter.toMessage.metaMap[uuidKey]? = some filter.uuid := by
  rw [toMessage, getElem?_addLabelled_key .pred .uuid (by decide),
    getElem?_addLabelled_key .pattern .uuid (by decide),
    getElem?_addLabelled_key .value .uuid (by decide), getElem?_named, if_pos rfl]

theorem getElem?_toMessage_serviceName (filter : ServiceFilter) :
    filter.toMessage.metaMap[serviceNameKey]? = some filter.svcName := by
  rw [toMessage, getElem?_addLabelled_key .pred .serviceName (by decide),
    getElem?_addLabelled_key .pattern .serviceName (by decide),
    getElem?_addLabelled_key .value .serviceName (by decide), getElem?_named,
    if_neg (FilterField.apart .serviceName .uuid (by decide)).ne, if_pos rfl]

theorem getElem?_toMessage_value (filter : ServiceFilter) (key : CString) :
    filter.toMessage.metaMap[valueLabel ++ key]? = filter.value[key]? := by
  rw [toMessage, getElem?_addLabelled_label .pred .value (by decide),
    getElem?_addLabelled_label .pattern .value (by decide), Table.getElem?_addLabelled_self,
    getElem?_named_label _ _ .value key (by decide) (by decide), Option.or_none]

theorem getElem?_toMessage_pattern (filter : ServiceFilter) (key : CString) :
    filter.toMessage.metaMap[patternLabel ++ key]? = filter.pattern[key]? := by
  rw [toMessage, getElem?_addLabelled_label .pred .pattern (by decide),
    Table.getElem?_addLabelled_self, getElem?_addLabelled_label .value .pattern (by decide),
    getElem?_named_label _ _ .pattern key (by decide) (by decide), Option.or_none]

theorem getElem?_toMessage_pred (filter : ServiceFilter) (key : CString) :
    filter.toMessage.metaMap[predLabel ++ key]? =
      filter.predicate[key]?.map CString.ofInt := by
  rw [toMessage, Table.getElem?_addLabelled_self,
    getElem?_addLabelled_label .pattern .pred (by decide),
    getElem?_addLabelled_label .value .pred (by decide),
    getElem?_named_label _ _ .pred key (by decide) (by decide), Option.or_none,
    ExtTreeMap.getElem?_map]

/-- A filter writes nothing else. -/
theorem getElem?_toMessage_other (filter : ServiceFilter) (key : CString) (other : ¬ IsFilterKey key) :
    filter.toMessage.metaMap[key]? = none := by
  simp only [IsFilterKey, not_or, Option.not_isSome_iff_eq_none] at other
  obtain ⟨notName, notUuid, notValue, notPattern, notPred⟩ := other
  rw [toMessage, Table.getElem?_addLabelled_other _ _ _ _ notPred,
    Table.getElem?_addLabelled_other _ _ _ _ notPattern,
    Table.getElem?_addLabelled_other _ _ _ _ notValue, getElem?_named, if_neg notUuid, if_neg notName]

/-- Whatever else a message carries does not matter to the filter. -/
theorem ofMessage_congr {first second : Message} (same : forall key : CString, IsFilterKey key ->
      first.metaMap[key]? = second.metaMap[key]?) :
    ofMessage first = ofMessage second := by
  have sameD : forall key, IsFilterKey key ->
      first.metaMap.getD key .empty = second.metaMap.getD key .empty := by
    intro key known
    rw [ExtTreeMap.getD_eq_getD_getElem?, ExtTreeMap.getD_eq_getD_getElem?, same key known]
  have value : Table.labelled valueLabel first.metaMap = Table.labelled valueLabel second.metaMap := by
    apply ExtTreeMap.ext_getElem?
    intro key
    rw [Table.getElem?_labelled, Table.getElem?_labelled, same _ (isFilterKey_label key (.inl rfl))]
  apply ServiceFilter.ext
  · exact sameD uuidKey (.inr (.inl rfl))
  · exact sameD serviceNameKey (.inl rfl)
  · exact value
  · apply ExtTreeMap.ext_getElem?
    intro key
    change (ExtTreeMap.map _ _)[key]? = (ExtTreeMap.map _ _)[key]?
    rw [ExtTreeMap.getElem?_map, ExtTreeMap.getElem?_map, value,
      sameD _ (isFilterKey_label key (.inr (.inl rfl)))]
  · apply ExtTreeMap.ext_getElem?
    intro key
    change (ExtTreeMap.map _ _)[key]? = (ExtTreeMap.map _ _)[key]?
    rw [ExtTreeMap.getElem?_map, ExtTreeMap.getElem?_map, value,
      sameD _ (isFilterKey_label key (.inr (.inr rfl)))]

theorem ofMessage_setMeta (message : Message) {key : CString} (foreign : ¬ IsFilterKey key)
    (value : CString) : ofMessage (message.setMeta key value) = ofMessage message := by
  apply ofMessage_congr
  intro other known
  rw [Message.setMeta, Table.getElem?_insert_eq, if_neg]
  rintro rfl
  exact foreign known

/-- A filter is read back from the message it is written to. -/
theorem ofMessage_toMessage (filter : ServiceFilter) : ofMessage filter.toMessage = filter := by
  have value : Table.labelled valueLabel filter.toMessage.metaMap = filter.value := by
    apply ExtTreeMap.ext_getElem?
    intro key
    rw [Table.getElem?_labelled, getElem?_toMessage_value]
  apply ServiceFilter.ext
  · change filter.toMessage.metaMap.getD uuidKey .empty = filter.uuid
    rw [ExtTreeMap.getD_eq_getD_getElem?, getElem?_toMessage_uuid, Option.getD_some]
  · change filter.toMessage.metaMap.getD serviceNameKey .empty = filter.svcName
    rw [ExtTreeMap.getD_eq_getD_getElem?, getElem?_toMessage_serviceName, Option.getD_some]
  · exact value
  · apply Table.map_eq_of_entries
    · rw [value]
      exact filter.pattern_iff
    · intro key pattern held _
      rw [ExtTreeMap.getD_eq_getD_getElem?, getElem?_toMessage_pattern, held, Option.getD_some]
  · apply Table.map_eq_of_entries
    · rw [value]
      exact filter.predicate_iff
    · intro key predicate held _
      rw [ExtTreeMap.getD_eq_getD_getElem?, getElem?_toMessage_pred, held, Option.map_some,
        Option.getD_some, CString.atoi_ofInt]

end ServiceFilter

end Rpc
end Umundo
