import Umundo.Rpc.ServiceManager

namespace Umundo
namespace Rpc

open Foundation Std Connection

/-!
# Service filters of the Java binding

The Java binding has a service manager and a filter class of its own, and speaks
to the other managers in the same messages.  Its filters have no patterns: a rule
is a value, called a condition, and a predicate.  A condition is written under
the label `cond:`, the value of a rule of the other implementation under
`value:`.  Neither side looks for the label of the other.
-/

def condLabel : CString := .ofBytes "cond:".toUTF8.toList

/-- The label is none of those that the other language knows. -/
theorem apart_condLabel (field : FilterField) : CString.Apart field.key condLabel := by
  cases field <;> decide +kernel

def opEquals : Int := 0x0001

/-- `Integer.valueOf`, which throws for a text that is no number of 32 bits. -/
def integerValueOf (text : CString) : Option Int :=
  let body := match text.bytes with
    | 45 :: rest => rest
    | 43 :: rest => rest
    | rest => rest
  if body ≠ [] ∧ body.all CString.isDigit = true ∧ -0x80000000 ≤ text.atoi ∧
      text.atoi ≤ 0x7fffffff then
    some text.atoi
  else none

/-- A filter.  There is no predicate without a condition. -/
structure JavaFilter where
  svcName : CString
  condition : Table CString CString
  predicate : Table CString Int
  condition_of_predicate : forall key, key ∈ predicate -> key ∈ condition

namespace JavaFilter

def new (svcName : CString) : JavaFilter where
  svcName := svcName
  condition := ∅
  predicate := ∅
  condition_of_predicate _ member := absurd member ExtTreeMap.not_mem_empty

def addRule (filter : JavaFilter) (key pattern : CString) (pred : Int) : JavaFilter where
  svcName := filter.svcName
  condition := filter.condition.insert key pattern
  predicate := filter.predicate.insert key pred
  condition_of_predicate other member := by
    rw [ExtTreeMap.mem_insert] at member ⊢
    exact member.imp_right (filter.condition_of_predicate other)

/-- A filter with some rules added in turn. -/
def build (svcName : CString) (rules : List (CString × CString × Int)) : JavaFilter :=
  rules.foldl (fun filter rule => filter.addRule rule.1 rule.2.1 rule.2.2) (new svcName)

def toMessage (filter : JavaFilter) : Message :=
  { data := []
    metaMap := Table.addLabelled predLabel (filter.predicate.map fun _ pred => CString.ofInt pred)
      (Table.addLabelled condLabel filter.condition
        (Message.empty.setMeta serviceNameKey filter.svcName).metaMap) }

/-- `ServiceFilter(Message)`.  A label with nothing behind it is no condition, and a
predicate that is no number is an exception. -/
def ofMessage (message : Message) : Option JavaFilter :=
  let condition := (Table.labelled condLabel message.metaMap).erase .empty
  let predicate := condition.filterMap fun key _ => message.metaMap[predLabel ++ key]?
  if predicate.toList.all fun entry => (integerValueOf entry.2).isSome then
    some
      { svcName := message.metaMap.getD serviceNameKey .empty
        condition := condition
        predicate := predicate.filterMap fun _ text => integerValueOf text
        condition_of_predicate := fun _ member =>
          ExtTreeMap.mem_of_mem_filterMap (ExtTreeMap.mem_of_mem_filterMap member) }
  else none

/-- The request that `find` publishes. -/
def request (filter : JavaFilter) (reqId : CString) : Message :=
  (filter.toMessage.setMeta typeKey serviceDisc).setMeta reqIdKey reqId

/-- A description for which one of the `OP_EQUALS` rules does not hold. -/
def Violated (filter : JavaFilter) (desc : ServiceDescription) : Prop :=
  Exists fun key : CString => Exists fun pattern : CString =>
    filter.condition[key]? = some pattern ∧ filter.predicate[key]? = some opEquals ∧
      desc.properties.getD key .empty ≠ pattern

/-- The filters of the two languages ask for the same service, with the same value
and predicate for every key. -/
structure Same (java : JavaFilter) (native : ServiceFilter) : Prop where
  svcName : java.svcName = native.svcName
  value : forall key : CString, java.condition[key]? = native.value[key]?
  predicate : forall key : CString, java.predicate[key]? = native.predicate[key]?

/-! ## From one language to the other -/

/-- Without the right labels there is nothing to read. -/
theorem ofMessage_of_unlabelled (message : Message)
    (unlabelled : forall key, message.metaMap[condLabel ++ key]? = none) :
    ofMessage message = some (new (message.metaMap.getD serviceNameKey .empty)) := by
  have condition : (Table.labelled condLabel message.metaMap).erase .empty = ∅ := by
    apply ExtTreeMap.ext_getElem?
    intro key
    rw [Table.getElem?_erase_eq, Table.getElem?_labelled, unlabelled, ite_self]
    rfl
  simp only [ofMessage, condition]
  rfl

end JavaFilter

/-- Without the right labels there is nothing to read. -/
theorem ServiceFilter.rules_of_unlabelled (message : Message)
    (unlabelled : forall key, message.metaMap[valueLabel ++ key]? = none) :
    (ofMessage message).value = ∅ ∧ (ofMessage message).predicate = ∅ := by
  have value : Table.labelled valueLabel message.metaMap = ∅ := by
    apply ExtTreeMap.ext_getElem?
    intro key
    rw [Table.getElem?_labelled, unlabelled]
    rfl
  refine ⟨value, ?_⟩
  change (Table.labelled valueLabel message.metaMap).map _ = ∅
  rw [value]
  rfl

namespace JavaFilter

theorem getElem?_toMessage_value (filter : JavaFilter) (key : CString) :
    filter.toMessage.metaMap[valueLabel ++ key]? = none := by
  rw [toMessage, Table.getElem?_addLabelled_other _ _ _ _
      ((FilterField.apart .pred .value (by decide)).dropLabel_append key),
    Table.getElem?_addLabelled_other _ _ _ _ ((apart_condLabel .value).symm.dropLabel_append key),
    Message.setMeta, Table.getElem?_insert_eq,
    if_neg ((FilterField.apart .value .serviceName (by decide)).append_ne key)]
  rfl

theorem getElem?_toMessage_serviceName (filter : JavaFilter) :
    filter.toMessage.metaMap[serviceNameKey]? = some filter.svcName := by
  rw [toMessage, Table.getElem?_addLabelled_other _ _ _ _
      (FilterField.apart .pred .serviceName (by decide)).dropLabel,
    Table.getElem?_addLabelled_other _ _ _ _ (apart_condLabel .serviceName).symm.dropLabel,
    Message.setMeta, Table.getElem?_insert_eq, if_pos rfl]

/-- The other entries of a request that arrives are those of the filter. -/
theorem getElem?_request (filter : JavaFilter) (reqId procUUID key : CString)
    (publisher : DataPublisher)
    (own : key ∉ [typeKey, reqIdKey, Message.procKey, Message.publisherKey, Message.channelKey]) :
    (ZeroMQSubscriber.delivered publisher procUUID (filter.request reqId)).metaMap[key]? =
      filter.toMessage.metaMap[key]? := by
  simp only [List.mem_cons, List.not_mem_nil, or_false, not_or] at own
  obtain ⟨notType, notReqId, notProc, notPublisher, notChannel⟩ := own
  rw [ZeroMQSubscriber.getElem?_delivered, ZeroMQSubscriber.getElem?_complete, if_neg notProc,
    if_neg notPublisher, if_neg notChannel, Option.or_none, request, Message.setMeta, Message.setMeta,
    Table.getElem?_insert_eq, if_neg notReqId, Table.getElem?_insert_eq, if_neg notType]

/-- The filter that the other side makes of a request: the name is right and
there are no rules. -/
theorem ofMessage_request (filter : JavaFilter) (reqId procUUID : CString)
    (publisher : DataPublisher) :
    let read := ServiceFilter.ofMessage
      (ZeroMQSubscriber.delivered publisher procUUID (filter.request reqId))
    read.svcName = filter.svcName ∧ read.value = ∅ := by
  constructor
  · change (ZeroMQSubscriber.delivered publisher procUUID (filter.request reqId)).metaMap.getD
      serviceNameKey .empty = filter.svcName
    rw [ExtTreeMap.getD_eq_getD_getElem?, getElem?_request, getElem?_toMessage_serviceName,
      Option.getD_some]
    simp only [List.mem_cons, List.not_mem_nil, or_false, not_or]
    exact ⟨(MessageKey.apart .type .serviceName).ne, (MessageKey.apart .reqId .serviceName).ne,
      (MessageKey.apart .proc .serviceName).ne, (MessageKey.apart .publisher .serviceName).ne,
      (MessageKey.apart .channel .serviceName).ne⟩
  · refine (ServiceFilter.rules_of_unlabelled _ ?_).1
    intro key
    rw [getElem?_request, getElem?_toMessage_value]
    simp only [List.mem_cons, List.not_mem_nil, or_false, not_or]
    exact ⟨(MessageKey.apart .type .value).append_ne key,
      (MessageKey.apart .reqId .value).append_ne key, (MessageKey.apart .proc .value).append_ne key,
      (MessageKey.apart .publisher .value).append_ne key,
      (MessageKey.apart .channel .value).append_ne key⟩

end JavaFilter

/-! ## Rules do not cross the border -/

namespace JavaFilter

theorem build_concat (svcName : CString) (rules : List (CString × CString × Int))
    (key pattern : CString) (pred : Int) :
    (build svcName (rules.concat (key, pattern, pred))).condition[key]? = some pattern := by
  rw [build, List.concat_eq_append, List.foldl_concat]
  exact ExtTreeMap.getElem?_insert_self

theorem same_ofMessage_iff (svcName : CString) (rules : List (CString × CString × Int)) :
    (build svcName rules).Same (.ofMessage (build svcName rules).toMessage) <-> rules = [] := by
  have lost := ServiceFilter.rules_of_unlabelled (build svcName rules).toMessage
    (getElem?_toMessage_value _)
  constructor
  · intro same
    rcases List.eq_nil_or_concat rules with rfl | ⟨before, ⟨key, pattern, pred⟩, rfl⟩
    · rfl
    · have stands := same.value key
      rw [build_concat, lost.1] at stands
      cases stands
  · rintro rfl
    refine ⟨?_, ?_, ?_⟩
    · change _ = (build svcName []).toMessage.metaMap.getD serviceNameKey .empty
      rw [ExtTreeMap.getD_eq_getD_getElem?, getElem?_toMessage_serviceName, Option.getD_some]
    · intro key
      rw [lost.1]
      rfl
    · intro key
      rw [lost.2]
      rfl

end JavaFilter

namespace ServiceFilter

theorem build_concat (uuid svcName : CString) (rules : List (CString × Rule)) (key : CString)
    (rule : Rule) :
    (build uuid svcName (rules.concat (key, rule))).value[key]? = some rule.value := by
  rw [build, List.concat_eq_append, List.foldl_concat]
  exact ExtTreeMap.getElem?_insert_self

theorem same_ofMessage_iff (uuid svcName : CString) (rules : List (CString × Rule)) :
    (Exists fun java : JavaFilter =>
      JavaFilter.ofMessage (build uuid svcName rules).toMessage = some java ∧
        java.Same (build uuid svcName rules)) <-> rules = [] := by
  have unlabelled : forall key,
      (build uuid svcName rules).toMessage.metaMap[condLabel ++ key]? = none := by
    intro key
    apply getElem?_toMessage_other
    simp only [IsFilterKey, not_or, Option.not_isSome_iff_eq_none]
    exact ⟨(apart_condLabel .serviceName).symm.append_ne key,
      (apart_condLabel .uuid).symm.append_ne key, (apart_condLabel .value).dropLabel_append key,
      (apart_condLabel .pattern).dropLabel_append key, (apart_condLabel .pred).dropLabel_append key⟩
  rw [JavaFilter.ofMessage_of_unlabelled _ unlabelled]
  constructor
  · rintro ⟨java, read, same⟩
    cases read
    rcases List.eq_nil_or_concat rules with rfl | ⟨before, ⟨key, rule⟩, rfl⟩
    · rfl
    · have stands := same.value key
      rw [build_concat] at stands
      cases stands
  · rintro rfl
    refine ⟨_, rfl, ?_, fun _ => rfl, fun _ => rfl⟩
    change (build uuid svcName []).toMessage.metaMap.getD serviceNameKey .empty = _
    rw [ExtTreeMap.getD_eq_getD_getElem?, getElem?_toMessage_serviceName, Option.getD_some]

end ServiceFilter

namespace JavaFilter

/-- No rule of a request is looked at, so a description that violates one is found
as soon as there is a rule that can be violated. -/
theorem answer_violates_iff (holds : Rule -> CString -> Bool) (filter : JavaFilter)
    (reqId procUUID : CString) (publisher : DataPublisher) :
    (forall (manager : ServiceManager) (found : Nat × ServiceDescription),
      found ∈ (manager.findLocal holds (.ofMessage
          (ZeroMQSubscriber.delivered publisher procUUID (filter.request reqId)))).2 ->
        ¬ filter.Violated found.2) <->
      forall key : CString, filter.predicate[key]? ≠ some opEquals := by
  obtain ⟨name, rules⟩ := ofMessage_request filter reqId procUUID publisher
  constructor
  · intro respected key equals
    have member := ExtTreeMap.mem_iff_isSome_getElem?.mpr (Option.isSome_of_eq_some equals)
    obtain ⟨pattern, condition⟩ := Table.getElem?_of_mem (filter.condition_of_predicate key member)
    -- a service of the right name whose property has one byte too many
    let wrong : CString := pattern.cons 120 (by decide)
    let desc : ServiceDescription :=
      ⟨filter.svcName, .empty, (∅ : Table CString CString).insert key wrong⟩
    apply respected { ServiceManager.init with services := (∅ : Table Nat _).insert 0 desc } (0, desc)
    · rw [ServiceManager.mem_findLocal]
      refine ⟨desc, ExtTreeMap.getElem?_insert_self, ?_, ?_⟩
      · rw [ServiceFilter.matches_of_no_rules rules, name]
        exact decide_eq_true rfl
      · rw [ServiceFilter.matches_of_no_rules rules]
    · refine ⟨key, pattern, condition, equals, ?_⟩
      rw [ExtTreeMap.getD_eq_getD_getElem?, ExtTreeMap.getElem?_insert_self, Option.getD_some]
      intro same
      have lengths := congrArg (fun text : CString => text.bytes.length) same
      exact absurd lengths (Nat.succ_ne_self _)
  · rintro none manager found _ ⟨key, pattern, _, equals, _⟩
    exact none key equals

end JavaFilter

/-- A filter keeps its rules on the way to the other language exactly if it has
none, and a request is answered in accordance with its `OP_EQUALS` rules exactly if
it has none of them. -/
theorem rules_cross_iff (holds : Rule -> CString -> Bool) :
    (forall (uuid svcName : CString) (rules : List (CString × Rule)),
      (Exists fun java : JavaFilter =>
        JavaFilter.ofMessage (ServiceFilter.build uuid svcName rules).toMessage = some java ∧
          java.Same (.build uuid svcName rules)) <-> rules = []) ∧
    (forall (svcName : CString) (rules : List (CString × CString × Int)),
      JavaFilter.Same (.build svcName rules)
        (.ofMessage (JavaFilter.build svcName rules).toMessage) <-> rules = []) ∧
    (forall (svcName : CString) (rules : List (CString × CString × Int)) (reqId procUUID : CString)
      (publisher : DataPublisher),
      (forall (manager : ServiceManager) (found : Nat × ServiceDescription),
        found ∈ (manager.findLocal holds (.ofMessage (ZeroMQSubscriber.delivered publisher procUUID
            ((JavaFilter.build svcName rules).request reqId)))).2 ->
          ¬ (JavaFilter.build svcName rules).Violated found.2) <->
        forall key : CString, (JavaFilter.build svcName rules).predicate[key]? ≠ some opEquals) :=
  ⟨ServiceFilter.same_ofMessage_iff, JavaFilter.same_ofMessage_iff,
    fun svcName rules => JavaFilter.answer_violates_iff holds (.build svcName rules)⟩

/-- A request for a service `s` whose property `k` equals `v`. -/
def JavaFilter.askForValue : JavaFilter :=
  .build (.ofBytes [115]) [(.ofBytes [107], .ofBytes [118], opEquals)]

/-- A service `s` whose property `k` is `w`. -/
def ServiceDescription.otherValue : ServiceDescription :=
  ⟨.ofBytes [115], .ofBytes [99], (∅ : Table CString CString).insert (.ofBytes [107]) (.ofBytes [119])⟩

/-- The rule is gone when the request arrives, and the wrong service is found,
even by a filter for which no rule ever holds. -/
theorem java_rule_ignored :
    (ServiceFilter.ofMessage JavaFilter.askForValue.toMessage).value[CString.ofBytes [107]]? = none ∧
    JavaFilter.askForValue.Violated .otherValue ∧
    (ServiceManager.findLocal (fun _ _ => false)
      { ServiceManager.init with services := (∅ : Table Nat _).insert 0 .otherValue }
      (.ofMessage (ZeroMQSubscriber.delivered ⟨.ofBytes [112], .ofBytes [99], false⟩ (.ofBytes [113])
        (JavaFilter.askForValue.request (.ofBytes [114]))))).2.map Prod.fst = [0] := by
  refine ⟨by decide +kernel, ⟨.ofBytes [107], .ofBytes [118], ?_, ?_, ?_⟩, ?_⟩ <;> decide +kernel

end Rpc
end Umundo
