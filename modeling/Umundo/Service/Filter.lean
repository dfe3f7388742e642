import Umundo.Foundation.Fields

namespace Umundo
namespace Service

open Foundation Std

/-!
# Filters on arbitrary strings

Names, keys, values and patterns of a filter are strings of the standard library.  They
may be empty and may contain any byte, the terminator included, so this model does not
use terminated strings.  A predicate is a 32-bit integer that holds an operator and
modifiers.
-/

/-- What a literal in the source stands for. -/
def literal (text : String) : Bytes := text.toUTF8.toList

/-! ## Descriptions -/

structure ServiceDescription where
  svcName : Bytes
  channelName : Bytes
  properties : Table Bytes Bytes

namespace ServiceDescription

/-- The value a subscript yields. -/
def property (desc : ServiceDescription) (key : Bytes) : Bytes := desc.properties.getD key []

/-- The value of a property, and the description with the property stored. -/
def getProperty (desc : ServiceDescription) (key : Bytes) : Bytes × ServiceDescription :=
  (desc.property key, { desc with properties := desc.properties.insertIfNew key [] })

/-- Looking at a property is not noticed by whoever looks next. -/
theorem property_getProperty (desc : ServiceDescription) (key other : Bytes) :
    (desc.getProperty key).2.property other = desc.property other := by
  rw [property, property, getProperty, ExtTreeMap.getD_eq_getD_getElem?,
    ExtTreeMap.getD_eq_getD_getElem?, Table.getElem?_touch]
  split
  next same =>
    rw [same]
    rfl
  next => rfl

end ServiceDescription

/-! ## Predicates -/

/-- The operators of a predicate. -/
inductive Operator where
  | equals
  | greater
  | less
  | startsWith
  | endsWith
  | contains
deriving DecidableEq

/-- The constants of the source. -/
def Operator.code : Operator -> Int32
  | equals => 0x0001
  | greater => 0x0002
  | less => 0x0003
  | startsWith => 0x0004
  | endsWith => 0x0005
  | contains => 0x0006

def modNot : Int32 := 0x1000

def maskOp : Int32 := 0x0fff

def maskMod : Int32 := 0xf000

/-- The case of the switch that a number selects, if it is not the default. -/
def Operator.ofCode (code : Int32) : Option Operator :=
  [equals, less, greater, startsWith, endsWith, contains].find? fun op => op.code = code

/-! ## Filters -/

structure Rule where
  pattern : Bytes
  value : Bytes
  predicate : Int32
deriving DecidableEq

/-- A filter.  Its three maps always have the same keys. -/
structure ServiceFilter where
  uuid : Bytes
  svcName : Bytes
  value : Table Bytes Bytes
  pattern : Table Bytes Bytes
  predicate : Table Bytes Int32
  pattern_iff : forall key, key ∈ pattern <-> key ∈ value
  predicate_iff : forall key, key ∈ predicate <-> key ∈ value

namespace ServiceFilter

@[ext] theorem ext {first second : ServiceFilter} (uuid : first.uuid = second.uuid)
    (svcName : first.svcName = second.svcName) (value : first.value = second.value)
    (pattern : first.pattern = second.pattern) (predicate : first.predicate = second.predicate) :
    first = second := by
  cases first
  cases second
  cases uuid
  cases svcName
  cases value
  cases pattern
  cases predicate
  rfl

/-- `ServiceFilter(svcName)`, with the uuid it is given. -/
def new (uuid svcName : Bytes) : ServiceFilter where
  uuid := uuid
  svcName := svcName
  value := ∅
  pattern := ∅
  predicate := ∅
  pattern_iff _ := Iff.rfl
  predicate_iff _ := iff_of_false ExtTreeMap.not_mem_empty ExtTreeMap.not_mem_empty

def addRule (filter : ServiceFilter) (key : Bytes) (rule : Rule) : ServiceFilter where
  uuid := filter.uuid
  svcName := filter.svcName
  value := filter.value.insert key rule.value
  pattern := filter.pattern.insert key rule.pattern
  predicate := filter.predicate.insert key rule.predicate
  pattern_iff other := by rw [ExtTreeMap.mem_insert, ExtTreeMap.mem_insert, filter.pattern_iff]
  predicate_iff other := by rw [ExtTreeMap.mem_insert, ExtTreeMap.mem_insert, filter.predicate_iff]

/-- The variant of `addRule` without a pattern. -/
def addRuleForAll (filter : ServiceFilter) (key value : Bytes) (pred : Int32) : ServiceFilter :=
  filter.addRule key ⟨literal ".*", value, pred⟩

def clearRules (filter : ServiceFilter) : ServiceFilter :=
  new filter.uuid filter.svcName

/-- The rule for a key whose value is known. -/
def rule (filter : ServiceFilter) (key value : Bytes) : Rule :=
  ⟨filter.pattern.getD key [], value, filter.predicate.getD key 0⟩

end ServiceFilter

end Service
end Umundo
