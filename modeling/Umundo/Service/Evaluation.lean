import Mathlib.Algebra.Group.Nat.Defs
import Mathlib.Order.Lattice
import Umundo.Foundation.Search
import Umundo.Service.Filter

namespace Umundo
namespace Service

open Foundation Std

/-!
# How a filter is evaluated

A rule holds for a property if the pattern matches, and the part that the pattern selects
is in the relation to the target that the predicate names.  Equality and order are
numeric if both strings look like numbers.  The relations between strings are computed
from the offset of the first occurrence, in unsigned 64-bit arithmetic.

Regular expressions and the parser for numbers are not modelled.  They are arbitrary
functions, collected in an `Environment`.  A match is given by pairs of an offset and a
length, and an offset may lie outside the text: it is negative for a group that took no
part in the match.  The standard library throws an exception when such a part is
extracted, which is the `none` branch of everything that follows.

The laws at the end say what users of filters expect of rules.  They fail where the part
to be compared cannot be extracted, which makes `matches` throw.
-/

/-- What is known of a successful match: pairs of an offset and a length. -/
structure RegexMatch where
  whole : Int × Int
  subMatches : List (Int × Int)
deriving DecidableEq

/-- Regular expressions and the parser for numbers. -/
structure Environment (Number : Type) where
  compile : Bytes -> Option (Bytes -> Option RegexMatch)
  toNumber : Bytes -> Number

/-! ## Strings -/

/-- `substr`, whose arguments are converted to unsigned numbers: a negative offset is
behind every string, a negative length reaches to the end. -/
def substr (text : Bytes) (offset length : Int) : Option Bytes :=
  if 0 ≤ offset ∧ offset ≤ text.length then
    let rest := text.drop offset.toNat
    some (if length < 0 then rest else rest.take length.toNat)
  else none

/-- `std::string::npos` -/
def npos : UInt64 := 0xffffffffffffffff

/-- The largest size of a string. -/
def maxSize : Nat := 2 ^ 63 - 1

def size (text : Bytes) : UInt64 := UInt64.ofNat text.length

/-- `text.find(target)` -/
def find (text target : Bytes) : UInt64 :=
  match position target text with
  | none => npos
  | some offset => UInt64.ofNat offset

def isNumeric (test : Bytes) : Bool :=
  test.all fun byte => CString.isDigit byte || byte == 46 || byte == 101

/-! ## Rules -/

/-- The offset and the length of the part that is compared: the first group if there are
groups. -/
def RegexMatch.span (found : RegexMatch) : Int × Int :=
  match found.subMatches with
  | first :: _ => first
  | [] => found.whole

def RegexMatch.selected (found : RegexMatch) (actual : Bytes) : Option Bytes :=
  substr actual found.span.1 found.span.2

/-- The part begins in the text. -/
def RegexMatch.Inside (found : RegexMatch) (actual : Bytes) : Prop :=
  0 ≤ found.span.1 ∧ found.span.1 ≤ actual.length

instance (found : RegexMatch) (actual : Bytes) : Decidable (found.Inside actual) :=
  inferInstanceAs (Decidable (_ ∧ _))

theorem RegexMatch.isSome_selected_iff (found : RegexMatch) (actual : Bytes) :
    (found.selected actual).isSome = true <-> found.Inside actual := by
  rw [selected, substr, Inside]
  split
  next inside => exact iff_of_true rfl inside
  next outside => exact iff_of_false Bool.false_ne_true outside

section

variable {Number : Type} [LinearOrder Number] (environment : Environment Number)

/-- The conditions in the switch. -/
def related (substring target : Bytes) : Operator -> Bool
  | .equals =>
      if isNumeric target && isNumeric substring then
        environment.toNumber substring = environment.toNumber target
      else compare substring target = .eq
  | .less =>
      if isNumeric target && isNumeric substring then
        environment.toNumber substring < environment.toNumber target
      else compare substring target = .lt
  | .greater =>
      if isNumeric target && isNumeric substring then
        environment.toNumber target < environment.toNumber substring
      else compare substring target = .gt
  | .startsWith => find substring target = 0
  | .endsWith => find substring target = size substring - size target
  | .contains => find substring target ≠ npos

/-- The switch: does it pass without a return? -/
def passes (substring target : Bytes) (pred : Int32) : Bool :=
  let mod := pred &&& maskMod
  match Operator.ofCode (pred &&& maskOp) with
  | some op => !((!related environment substring target op) ^^ decide (0 < mod &&& modNot))
  -- a predicate with an unknown operator asks for nothing
  | none => true

/-- One rule and the property it is about. -/
def evaluate (rule : Rule) (actual : Bytes) : Option Bool :=
  match environment.compile rule.pattern with
  | none => some false
  | some regex =>
      match regex actual with
      | none => some false
      | some found =>
          match found.selected actual with
          | none => none
          | some substring => some (passes environment substring rule.value rule.predicate)

namespace ServiceFilter

/-- The loop over the rules, and what is left of the description. -/
def checkRules (filter : ServiceFilter) :
    List (Bytes × Bytes) -> ServiceDescription -> Option Bool × ServiceDescription
  | [], desc => (some true, desc)
  | (key, value) :: rest, desc =>
      let read := desc.getProperty key
      match evaluate environment (filter.rule key value) read.1 with
      | none => (none, read.2)
      | some false => (some false, read.2)
      | some true => filter.checkRules rest read.2

end ServiceFilter

def ServiceFilter.matches (filter : ServiceFilter) (desc : ServiceDescription) :
    Option Bool × ServiceDescription :=
  if filter.svcName ≠ desc.svcName then (some false, desc)
  else filter.checkRules environment filter.value.toList desc

/-- The call returns true. -/
def ServiceFilter.Matches (filter : ServiceFilter) (desc : ServiceDescription) : Prop :=
  (filter.matches environment desc).1 = some true

/-! ## Many rules -/

namespace ServiceFilter

theorem checkRules_iff (filter : ServiceFilter) (rules : List (Bytes × Bytes)) (desc : ServiceDescription) :
    (filter.checkRules environment rules desc).1 = some true <->
      forall entry, entry ∈ rules ->
        evaluate environment (filter.rule entry.1 entry.2) (desc.property entry.1) = some true := by
  induction rules generalizing desc with
  | nil => simp [checkRules]
  | cons entry rest ih =>
      have read : (desc.getProperty entry.1).1 = desc.property entry.1 := rfl
      rw [checkRules, List.forall_mem_cons, read]
      cases evaluate environment (filter.rule entry.1 entry.2) (desc.property entry.1) with
      | none => simp
      | some holds =>
          cases holds with
          | false => simp
          | true =>
              simp only [true_and]
              rw [ih]
              simp only [desc.property_getProperty]

/-- A description matches if its name is right and every rule holds. -/
theorem matches_iff (filter : ServiceFilter) (desc : ServiceDescription) :
    filter.Matches environment desc <->
      filter.svcName = desc.svcName ∧
        forall key value : Bytes, filter.value[key]? = some value ->
          evaluate environment (filter.rule key value) (desc.property key) = some true := by
  rw [Matches, ServiceFilter.matches]
  split
  next different => simp [different]
  next same =>
    rw [checkRules_iff, and_iff_right (not_not.mp same)]
    simp only [Prod.forall, ExtTreeMap.mem_toList_iff_getElem?_eq_some]

/-- The filter for the same name with one rule only. -/
def only (uuid svcName key : Bytes) (rule : Rule) : ServiceFilter :=
  (new uuid svcName).addRule key rule

theorem matches_only_iff (uuid svcName key : Bytes) (rule : Rule) (desc : ServiceDescription) :
    (only uuid svcName key rule).Matches environment desc <->
      svcName = desc.svcName ∧ evaluate environment rule (desc.property key) = some true := by
  have itself : (only uuid svcName key rule).rule key rule.value = rule := by
    simp [ServiceFilter.rule, only, addRule]
  have found (other value : Bytes) : (only uuid svcName key rule).value[other]? = some value <->
      other = key ∧ rule.value = value := by
    rw [only, addRule, Table.getElem?_insert_eq]
    split
    next same => simp [same]
    next different => simp [different, new]
  rw [matches_iff]
  refine and_congr_right fun _ => ?_
  constructor
  · intro every
    have holds := every key rule.value ((found _ _).mpr ⟨rfl, rfl⟩)
    rwa [itself] at holds
  · rintro holds other value stored
    obtain ⟨rfl, rfl⟩ := (found _ _).mp stored
    rwa [itself]

/-- Rules do not influence each other. -/
theorem matches_iff_each (filter : ServiceFilter) (desc : ServiceDescription) :
    filter.Matches environment desc <->
      filter.svcName = desc.svcName ∧
        forall key value : Bytes, filter.value[key]? = some value ->
          (only filter.uuid filter.svcName key (filter.rule key value)).Matches environment desc := by
  rw [matches_iff]
  refine and_congr_right fun same => ?_
  simp only [matches_only_iff, same, true_and]

end ServiceFilter

/-! ## One rule -/

section Bits

private theorem or_and_distrib (first second mask : Int32) :
    (first ||| second) &&& mask = (first &&& mask) ||| (second &&& mask) := by
  apply Int32.toBitVec.inj
  ext index inside
  simp [Bool.and_or_distrib_right]

private theorem and_or_absorb (bits mask : Int32) : (bits &&& mask) ||| mask = mask := by
  apply Int32.toBitVec.inj
  ext index inside
  simp

/-- Is the modifier for negation set? -/
def negated (pred : Int32) : Bool := 0 < (pred &&& maskMod) &&& modNot

theorem negated_eq (pred : Int32) : negated pred = decide (0 < pred &&& modNot) := by
  rw [negated, Int32.and_assoc, show maskMod &&& modNot = modNot by decide]

theorem negated_or_modNot (pred : Int32) : negated (pred ||| modNot) = true := by
  rw [negated_eq, or_and_distrib, show modNot &&& modNot = modNot by decide, and_or_absorb]
  decide

/-- The modifier does not change the operator. -/
theorem or_modNot_and_maskOp (pred : Int32) : (pred ||| modNot) &&& maskOp = pred &&& maskOp := by
  rw [or_and_distrib, show modNot &&& maskOp = 0 by decide, Int32.or_zero]

end Bits

/-- The switch, once its case is known. -/
theorem passes_eq {pred : Int32} {op : Operator} (selects : Operator.ofCode (pred &&& maskOp) = some op)
    (substring target : Bytes) :
    passes environment substring target pred =
      (related environment substring target op ^^ negated pred) := by
  simp only [passes, selects, negated, Bool.not_xor, Bool.not_not]

theorem passes_code (op : Operator) (substring target : Bytes) :
    passes environment substring target op.code = related environment substring target op := by
  have selects : Operator.ofCode (op.code &&& maskOp) = some op := by cases op <;> decide
  have plain : negated op.code = false := by cases op <;> decide
  rw [passes_eq environment selects, plain, Bool.xor_false]

/-- The pattern compiles and matches. -/
def Environment.found (pattern actual : Bytes) : Option RegexMatch :=
  (environment.compile pattern).bind fun regex => regex actual

/-- The whole of a rule. -/
theorem evaluate_eq (rule : Rule) (actual : Bytes) :
    evaluate environment rule actual =
      match environment.found rule.pattern actual with
      | none => some false
      | some found =>
          (found.selected actual).map fun substring =>
            passes environment substring rule.value rule.predicate := by
  rw [evaluate, Environment.found]
  cases environment.compile rule.pattern with
  | none => rfl
  | some regex =>
      dsimp only [Option.bind_some]
      cases regex actual with
      | none => rfl
      | some found =>
          dsimp only
          cases found.selected actual <;> rfl

theorem evaluate_of_selected {pattern actual substring : Bytes} {found : RegexMatch}
    (matched : environment.found pattern actual = some found)
    (selected : found.selected actual = some substring) (value : Bytes) (pred : Int32) :
    evaluate environment ⟨pattern, value, pred⟩ actual =
      some (passes environment substring value pred) := by
  rw [evaluate_eq, matched]
  dsimp only
  rw [selected]
  rfl

/-! ## Laws -/

/-- What is expected of the rules with the same key, pattern and target. -/
structure RuleLaws (desc : ServiceDescription) (uuid key pattern target : Bytes) : Prop where
  /-- for every predicate with one of the operators and without the modifier -/
  negation : forall pred : Int32, (Operator.ofCode (pred &&& maskOp)).isSome = true ->
    pred &&& modNot = 0 ->
    ((ServiceFilter.only uuid desc.svcName key ⟨pattern, target, pred ||| modNot⟩).Matches
        environment desc <->
      ¬ (ServiceFilter.only uuid desc.svcName key ⟨pattern, target, pred⟩).Matches environment desc)
  trichotomy : ExistsUnique fun op : Operator => op ∈ [Operator.less, .equals, .greater] ∧
    (ServiceFilter.only uuid desc.svcName key ⟨pattern, target, op.code⟩).Matches environment desc

/-- Three of the operators ask for the three outcomes of a comparison. -/
theorem related_order (substring target : Bytes) :
    Exists fun order : Ordering =>
      related environment substring target .less = decide (order = .lt) ∧
        related environment substring target .equals = decide (order = .eq) ∧
        related environment substring target .greater = decide (order = .gt) := by
  by_cases numeric : (isNumeric target && isNumeric substring) = true
  · refine ⟨compare (environment.toNumber substring) (environment.toNumber target), ?_, ?_, ?_⟩
    · rw [related, if_pos numeric]
      exact decide_eq_decide.mpr compare_lt_iff_lt.symm
    · rw [related, if_pos numeric]
      exact decide_eq_decide.mpr Std.compare_eq_iff_eq.symm
    · rw [related, if_pos numeric]
      exact decide_eq_decide.mpr compare_gt_iff_gt.symm
  · refine ⟨compare substring target, ?_, ?_, ?_⟩
    · rw [related, if_neg numeric]
    · rw [related, if_neg numeric]
    · rw [related, if_neg numeric]

/-- The operator that asks for an outcome. -/
def Operator.ofOrdering : Ordering -> Operator
  | .lt => less
  | .eq => equals
  | .gt => greater

theorem existsUnique_related (substring target : Bytes) :
    ExistsUnique fun op : Operator => op ∈ [Operator.less, .equals, .greater] ∧
      related environment substring target op = true := by
  obtain ⟨order, less, equals, greater⟩ := related_order environment substring target
  have asks (op : Operator) (listed : op ∈ [Operator.less, .equals, .greater]) :
      related environment substring target op = true <-> op = .ofOrdering order := by
    simp only [List.mem_cons, List.not_mem_nil, or_false] at listed
    rcases listed with rfl | rfl | rfl
    · rw [less]
      cases order <;> decide
    · rw [equals]
      cases order <;> decide
    · rw [greater]
      cases order <;> decide
  have listed : Operator.ofOrdering order ∈ [Operator.less, .equals, .greater] := by
    cases order <;> decide
  refine ⟨.ofOrdering order, ⟨listed, (asks _ listed).mpr rfl⟩, ?_⟩
  rintro op ⟨other, holds⟩
  exact (asks op other).mp holds

section

variable {desc : ServiceDescription} {uuid key pattern target : Bytes}

/-- No rule with a pattern that does not match can hold. -/
theorem not_matches_of_unmatched (unmatched : environment.found pattern (desc.property key) = none)
    (pred : Int32) :
    ¬ (ServiceFilter.only uuid desc.svcName key ⟨pattern, target, pred⟩).Matches environment desc := by
  rw [ServiceFilter.matches_only_iff, evaluate_eq, unmatched]
  simp

/-- A rule whose pattern selects something. -/
theorem matches_of_selected {found : RegexMatch} {substring : Bytes}
    (matched : environment.found pattern (desc.property key) = some found)
    (selected : found.selected (desc.property key) = some substring) (pred : Int32) :
    (ServiceFilter.only uuid desc.svcName key ⟨pattern, target, pred⟩).Matches environment desc <->
      passes environment substring target pred = true := by
  rw [ServiceFilter.matches_only_iff, evaluate_of_selected environment matched selected,
    and_iff_right rfl, Option.some.injEq]

/-- A rule whose pattern selects a part outside of the property. -/
theorem not_matches_of_unselected {found : RegexMatch}
    (matched : environment.found pattern (desc.property key) = some found)
    (unselected : found.selected (desc.property key) = none) (pred : Int32) :
    ¬ (ServiceFilter.only uuid desc.svcName key ⟨pattern, target, pred⟩).Matches environment desc := by
  rw [ServiceFilter.matches_only_iff, evaluate_eq, matched]
  dsimp only
  rw [unselected]
  simp

/-- The laws hold exactly if the part that the pattern selects can be extracted. -/
theorem ruleLaws_iff {found : RegexMatch}
    (matched : environment.found pattern (desc.property key) = some found) :
    RuleLaws environment desc uuid key pattern target <-> found.Inside (desc.property key) := by
  rw [← found.isSome_selected_iff]
  cases selected : found.selected (desc.property key) with
  | none =>
      refine iff_of_false (fun laws => ?_) Bool.false_ne_true
      obtain ⟨op, ⟨_, holds⟩, _⟩ := laws.trichotomy
      exact not_matches_of_unselected environment matched selected op.code holds
  | some substring =>
      refine iff_of_true ⟨?_, ?_⟩ rfl
      · intro pred known plain
        obtain ⟨op, selects⟩ := Option.isSome_iff_exists.mp known
        have negates : Operator.ofCode ((pred ||| modNot) &&& maskOp) = some op := by
          rw [or_modNot_and_maskOp, selects]
        have unmodified : negated pred = false := by
          rw [negated_eq, plain]
          rfl
        simp only [matches_of_selected environment matched selected]
        rw [passes_eq environment negates, passes_eq environment selects, negated_or_modNot, unmodified,
          Bool.xor_true, Bool.xor_false, Bool.not_eq_true', Bool.not_eq_true]
      · simp only [matches_of_selected environment matched selected, passes_code]
        exact existsUnique_related environment substring target

end

/-- The algebra of rules.  A filter asks for its name and for each of its rules on its own.
The rules with a pattern that matches obey the laws exactly if the part to be compared
begins in the property.  No rule holds with a pattern that does not match. -/
theorem rule_algebra_iff :
    (forall (filter : ServiceFilter) (desc : ServiceDescription),
      filter.Matches environment desc <->
        filter.svcName = desc.svcName ∧
          forall key value : Bytes, filter.value[key]? = some value ->
            (ServiceFilter.only filter.uuid filter.svcName key (filter.rule key value)).Matches
              environment desc) ∧
      (forall (desc : ServiceDescription) (uuid key pattern target : Bytes) (found : RegexMatch),
        environment.found pattern (desc.property key) = some found ->
        (RuleLaws environment desc uuid key pattern target <-> found.Inside (desc.property key))) ∧
      (forall (desc : ServiceDescription) (uuid key pattern target : Bytes),
        environment.found pattern (desc.property key) = none -> forall pred : Int32,
          ¬ (ServiceFilter.only uuid desc.svcName key ⟨pattern, target, pred⟩).Matches environment desc) :=
  ⟨fun filter desc => filter.matches_iff_each environment desc,
    fun _ _ _ _ _ _ matched => ruleLaws_iff environment matched,
    fun _ _ _ _ _ unmatched => not_matches_of_unmatched environment unmatched⟩

end

/-! ## Small objects for concrete rules -/

/-- Every pattern matches every text as a whole. -/
def selectAll : Bytes -> Option (Bytes -> Option RegexMatch) :=
  fun _ => some fun text => some ⟨(0, text.length), []⟩

/-- What a library for regular expressions says about `(a)|(b)` and the text `b`: the first
group takes no part in the match. -/
def alternation : Bytes -> Option (Bytes -> Option RegexMatch) := fun pattern =>
  if pattern = literal "(a)|(b)" then
    some fun text => if text = literal "b" then some ⟨(0, 1), [(-1, 0), (0, 1)]⟩ else none
  else none

/-- A service with one property. -/
def exampleDescription (value : String) : ServiceDescription :=
  ⟨literal "s", literal "c", ExtTreeMap.empty.insert (literal "k") (literal value)⟩

/-- A filter with one rule for that property. -/
def exampleFilter (pattern target : String) (pred : Int32) : ServiceFilter :=
  .only [] (literal "s") (literal "k") ⟨literal pattern, literal target, pred⟩

theorem rule_algebra_iff_everything :
    let environment : Environment Nat := ⟨selectAll, List.length⟩
    let desc := exampleDescription "b"
    environment.found (literal ".*") (desc.property (literal "k")) = some ⟨(0, 1), []⟩ ∧
      RuleLaws environment desc [] (literal "k") (literal ".*") (literal "c") := by
  intro environment desc
  have matched : environment.found (literal ".*") (desc.property (literal "k")) = some ⟨(0, 1), []⟩ := by
    decide +kernel
  have inside : RegexMatch.Inside ⟨(0, 1), []⟩ (desc.property (literal "k")) := by decide +kernel
  exact ⟨matched, ((rule_algebra_iff environment).2.1 desc [] (literal "k") (literal ".*") (literal "c") _
    matched).mpr inside⟩

/-- A rule whose first group takes no part in the match, and its negation. -/
theorem neither_rule_nor_negation :
    let environment : Environment Nat := ⟨alternation, List.length⟩
    let desc := exampleDescription "b"
    (forall op : Operator,
        ((exampleFilter "(a)|(b)" "b" op.code).matches environment desc).1 = none ∧
          ((exampleFilter "(a)|(b)" "b" (op.code ||| modNot)).matches environment desc).1 = none) ∧
      ¬ RuleLaws environment desc [] (literal "k") (literal "(a)|(b)") (literal "b") := by
  intro environment desc
  have thrown (op : Operator) : ((exampleFilter "(a)|(b)" "b" op.code).matches environment desc).1 = none ∧
      ((exampleFilter "(a)|(b)" "b" (op.code ||| modNot)).matches environment desc).1 = none := by
    cases op <;> decide +kernel
  refine ⟨thrown, fun laws => ?_⟩
  obtain ⟨op, ⟨_, holds⟩, _⟩ := laws.trichotomy
  cases (thrown op).1.symm.trans holds

end Service
end Umundo
