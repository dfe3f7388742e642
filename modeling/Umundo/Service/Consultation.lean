import Umundo.Service.DescriptionMessage
import Umundo.Service.Evaluation

namespace Umundo
namespace Service

open Foundation Std

/-!
# What is left of a description

A filter looks at properties through subscripts, which store an empty property where there
is none.  It looks at its keys in order, up to the first rule that does not hold, also if
this rule makes it throw.  No filter can tell an empty property from none, so the keys that
any number of filters look at depend only on the description they began with.

An empty property is sent like any other one.  So what a manager says about a service
depends on the filters that it has evaluated before, unless the properties they look at
are there.  The name and the channel are always sent, so their keys make no difference.
-/

/-! ## Looking at keys -/

/-- Look at some keys in turn. -/
def touchAll (properties : Table Bytes Bytes) (keys : List Bytes) : Table Bytes Bytes :=
  keys.foldl (fun touched key => touched.insertIfNew key []) properties

theorem getElem?_touchAll (properties : Table Bytes Bytes) (keys : List Bytes) (key : Bytes) :
    (touchAll properties keys)[key]? = properties[key]?.or (if key ∈ keys then some [] else none) := by
  induction keys generalizing properties with
  | nil => exact (Option.or_none).symm
  | cons first rest ih =>
      refine (ih (properties.insertIfNew first [])).trans ?_
      rw [Table.getElem?_touch]
      by_cases same : first = key
      · subst same
        rw [if_pos rfl, if_pos List.mem_cons_self, Option.some_or]
        cases properties[first]? <;> rfl
      · rw [if_neg same]
        simp only [List.mem_cons, Ne.symm same, false_or]

/-- Nothing is stored exactly if all keys are there. -/
theorem touchAll_eq_self_iff (properties : Table Bytes Bytes) (keys : List Bytes) :
    touchAll properties keys = properties <-> forall key, key ∈ keys -> key ∈ properties := by
  constructor
  · intro same key member
    rw [← same, ExtTreeMap.mem_iff_isSome_getElem?, getElem?_touchAll, if_pos member]
    cases properties[key]? <;> rfl
  · intro present
    refine ExtTreeMap.ext_getElem? fun key => ?_
    rw [getElem?_touchAll]
    split
    next member =>
      obtain ⟨value, found⟩ := Table.getElem?_of_mem (present key member)
      rw [found]
      rfl
    next => exact Option.or_none

namespace ServiceDescription

/-- The description, after some properties were looked at. -/
def looked (desc : ServiceDescription) (keys : List Bytes) : ServiceDescription :=
  { desc with properties := touchAll desc.properties keys }

theorem property_looked (desc : ServiceDescription) (keys : List Bytes) (key : Bytes) :
    (desc.looked keys).property key = desc.property key := by
  rw [property, property, looked, ExtTreeMap.getD_eq_getD_getElem?, ExtTreeMap.getD_eq_getD_getElem?,
    getElem?_touchAll]
  cases desc.properties[key]? with
  | some value => rfl
  | none =>
      rw [Option.none_or]
      split <;> rfl

theorem looked_append (desc : ServiceDescription) (first second : List Bytes) :
    (desc.looked first).looked second = desc.looked (first ++ second) := by
  rw [looked, looked, looked, touchAll, touchAll, touchAll, List.foldl_append]

theorem announced_looked (desc : ServiceDescription) (keys : List Bytes) :
    (desc.looked keys).announced = touchAll desc.announced keys := by
  refine ExtTreeMap.ext_getElem? fun key => ?_
  rw [getElem?_announced, getElem?_touchAll, getElem?_announced]
  split
  next => rfl
  next =>
    split
    next => rfl
    next => exact getElem?_touchAll _ _ _

theorem mem_announced_iff (desc : ServiceDescription) (key : Bytes) :
    key ∈ desc.announced <-> key ∈ desc.properties ∨ key = nameKey ∨ key = channelKey := by
  rw [ExtTreeMap.mem_iff_isSome_getElem?, ExtTreeMap.mem_iff_isSome_getElem?, getElem?_announced]
  split
  next same => simp [same]
  next other =>
    split
    next same => simp [same]
    next other' => simp [other, other']

end ServiceDescription

/-! ## The keys a filter looks at -/

section

variable {Number : Type} [LinearOrder Number] (environment : Environment Number)

namespace ServiceFilter

/-- The keys of the rules up to the first one that does not hold. -/
def consulted (filter : ServiceFilter) (desc : ServiceDescription) : List (Bytes × Bytes) -> List Bytes
  | [] => []
  | (key, value) :: rest =>
      key :: if evaluate environment (filter.rule key value) (desc.property key) = some true then
        filter.consulted desc rest
      else []

/-- The keys a call of `matches` looks at. -/
def consults (filter : ServiceFilter) (desc : ServiceDescription) : List Bytes :=
  if filter.svcName ≠ desc.svcName then [] else filter.consulted environment desc filter.value.toList

theorem consulted_looked (filter : ServiceFilter) (desc : ServiceDescription) (keys : List Bytes)
    (rules : List (Bytes × Bytes)) :
    filter.consulted environment (desc.looked keys) rules = filter.consulted environment desc rules := by
  induction rules with
  | nil => rfl
  | cons entry rest ih => rw [consulted, consulted, desc.property_looked, ih]

theorem consults_looked (filter : ServiceFilter) (desc : ServiceDescription) (keys : List Bytes) :
    filter.consults environment (desc.looked keys) = filter.consults environment desc := by
  rw [consults, consults, consulted_looked]
  rfl

theorem checkRules_looked (filter : ServiceFilter) (rules : List (Bytes × Bytes))
    (desc : ServiceDescription) :
    (filter.checkRules environment rules desc).2 =
      desc.looked (filter.consulted environment desc rules) := by
  induction rules generalizing desc with
  | nil => rfl
  | cons entry rest ih =>
      have read : desc.getProperty entry.1 = (desc.property entry.1, desc.looked [entry.1]) := rfl
      rw [checkRules, consulted, read]
      dsimp only
      cases evaluate environment (filter.rule entry.1 entry.2) (desc.property entry.1) with
      | none => rfl
      | some holds =>
          cases holds with
          | false => rfl
          | true =>
              dsimp only
              rw [ih, consulted_looked, if_pos rfl]
              exact desc.looked_append [entry.1] _

theorem matches_looked (filter : ServiceFilter) (desc : ServiceDescription) :
    (filter.matches environment desc).2 = desc.looked (filter.consults environment desc) := by
  rw [ServiceFilter.matches, consults]
  split
  next => rfl
  next => exact filter.checkRules_looked environment _ desc

end ServiceFilter

/-! ## Many filters -/

/-- The description, after some filters were evaluated against it. -/
def afterMatching (filters : List ServiceFilter) (desc : ServiceDescription) : ServiceDescription :=
  filters.foldl (fun desc filter => (filter.matches environment desc).2) desc

theorem afterMatching_eq (filters : List ServiceFilter) (desc : ServiceDescription) :
    afterMatching environment filters desc =
      desc.looked (filters.flatMap fun filter => filter.consults environment desc) := by
  induction filters generalizing desc with
  | nil => rfl
  | cons filter rest ih =>
      refine (ih (filter.matches environment desc).2).trans ?_
      simp only [filter.matches_looked, ServiceFilter.consults_looked]
      rw [ServiceDescription.looked_append, List.flatMap_cons]

end

/-! ## Replies -/

namespace ServiceDescription

/-- A message about a service.  The channel is written once more. -/
def reply (desc : ServiceDescription) (entries : List (ReplyKey × Bytes)) : Message :=
  (desc.toMessage.annotate entries).setMeta (descLabel.attach channelKey) desc.channelName

/-- The reply to a request for a service. -/
def foundMsg (desc : ServiceDescription) (reqId : Bytes) : Message :=
  desc.reply [(.respId, reqId)]

theorem getElem?_reply (desc : ServiceDescription) (entries : List (ReplyKey × Bytes)) (key : Bytes) :
    (desc.reply entries).metaMap[descLabel.attach key]? = desc.announced[key]? := by
  rw [reply, Message.setMeta, Table.getElem?_insert_eq, Message.getElem?_annotate, getElem?_toMessage]
  split
  next same =>
    cases descLabel.attach_injective same
    rw [getElem?_announced, if_pos rfl]
  next => rfl

/-- Two replies differ only in what is announced. -/
theorem reply_eq_iff {first second : ServiceDescription} (channel : first.channelName = second.channelName)
    (entries : List (ReplyKey × Bytes)) :
    first.reply entries = second.reply entries <-> first.announced = second.announced := by
  constructor
  · intro same
    refine ExtTreeMap.ext_getElem? fun key => ?_
    rw [← getElem?_reply first entries, ← getElem?_reply second entries, same]
  · intro same
    rw [reply, reply, (toMessage_eq_iff first second).mpr same, channel]

end ServiceDescription

section

variable {Number : Type} [LinearOrder Number] (environment : Environment Number)

/-- Filters leave a description as it is exactly if they look at its properties only.  What
is said about it stays the same exactly if they look at its properties, its name and its
channel only. -/
theorem unchanged_by_matching_iff (filters : List ServiceFilter) (desc : ServiceDescription) :
    ((afterMatching environment filters desc).properties = desc.properties <->
        forall filter, filter ∈ filters -> forall key, key ∈ filter.consults environment desc ->
          key ∈ desc.properties) ∧
      ((afterMatching environment filters desc).toMessage = desc.toMessage <->
        forall filter, filter ∈ filters -> forall key, key ∈ filter.consults environment desc ->
          key ∈ desc.properties ∨ key = nameKey ∨ key = channelKey) ∧
      (forall entries : List (ReplyKey × Bytes),
        ((afterMatching environment filters desc).reply entries = desc.reply entries <->
          forall filter, filter ∈ filters -> forall key, key ∈ filter.consults environment desc ->
            key ∈ desc.properties ∨ key = nameKey ∨ key = channelKey)) := by
  have announced : (afterMatching environment filters desc).announced = desc.announced <->
      forall filter, filter ∈ filters -> forall key, key ∈ filter.consults environment desc ->
        key ∈ desc.properties ∨ key = nameKey ∨ key = channelKey := by
    rw [afterMatching_eq, ServiceDescription.announced_looked, touchAll_eq_self_iff]
    simp only [List.forall_mem_flatMap, ServiceDescription.mem_announced_iff]
  refine ⟨?_, ?_, fun entries => ?_⟩
  · rw [afterMatching_eq, ServiceDescription.looked]
    dsimp only
    rw [touchAll_eq_self_iff, List.forall_mem_flatMap]
  · rw [ServiceDescription.toMessage_eq_iff, announced]
  · rw [ServiceDescription.reply_eq_iff, announced]
    rw [afterMatching_eq]
    rfl

end

/-- A service without properties is asked for one.  The property is stored, and sent from
then on. -/
theorem property_stored_by_matching :
    let environment : Environment Nat := ⟨selectAll, List.length⟩
    let desc : ServiceDescription := ⟨literal "s", literal "c", ∅⟩
    let filter := exampleFilter ".*" "v" Operator.equals.code
    (filter.matches environment desc).1 = some false ∧
      (afterMatching environment [filter] desc).properties ≠ desc.properties ∧
      (afterMatching environment [filter] desc).toMessage ≠ desc.toMessage ∧
      (afterMatching environment [filter] desc).foundMsg (literal "r") ≠ desc.foundMsg (literal "r") := by
  intro environment desc filter
  have stored : (afterMatching environment [filter] desc).properties[literal "k"]? = some [] := by
    decide +kernel
  have sent : (afterMatching environment [filter] desc).toMessage.metaMap[literal "desc:k"]? = some [] := by
    decide +kernel
  have replied :
      ((afterMatching environment [filter] desc).foundMsg (literal "r")).metaMap[literal "desc:k"]? =
        some [] := by
    decide +kernel
  have unsent : desc.toMessage.metaMap[literal "desc:k"]? = none := by decide +kernel
  have unreplied : (desc.foundMsg (literal "r")).metaMap[literal "desc:k"]? = none := by decide +kernel
  refine ⟨by decide +kernel, fun same => ?_, fun same => ?_, fun same => ?_⟩
  · rw [same] at stored
    cases stored
  · rw [same, unsent] at sent
    cases sent
  · rw [same, unreplied] at replied
    cases replied

end Service
end Umundo
