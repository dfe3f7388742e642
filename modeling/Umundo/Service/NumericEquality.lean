import Mathlib.Algebra.Order.Ring.Rat
import Umundo.Foundation.Numeral
import Umundo.Service.Evaluation

namespace Umundo
namespace Service

open Foundation Std

/-!
# Equality of numbers

Two strings are compared as numbers if every byte of both of them is a digit, a point or
the letter `e`.  That does not make them numerals.  The number of such a string is read by
a stream, which takes the longest numeral at its beginning and ignores the rest.  What the
variable holds if there is no numeral at all depends on the standard library: older ones
leave it uninitialised, newer ones store zero.  Only from an empty string nothing is
extracted at all, and the variable is left uninitialised by newer ones too.
-/

/-- A reader that takes the longest numeral.  Nothing is said about texts without one. -/
def ReadsLongest (read : Bytes -> Rat) : Prop :=
  forall (numeral : Numeral) (text : Bytes), numeral.Longest text -> read text = numeral.value

/-- `toNumber`, with the values of strings that cannot be read. -/
def toNumber (failed : Bytes -> Rat) (numberString : Bytes) : Rat :=
  match Numeral.scan numberString with
  | some numeral => numeral.value
  | none => failed numberString

theorem readsLongest_toNumber (failed : Bytes -> Rat) : ReadsLongest (toNumber failed) := by
  intro numeral text longest
  rw [toNumber, Numeral.longest_iff_scan.mp longest]

/-- Both strings are numerals as a whole, and denote the same number. -/
def SameNumber (first second : Bytes) : Prop :=
  Exists fun left : Numeral => Exists fun right : Numeral =>
    left.text = first ∧ right.text = second ∧ left.value = right.value

section

variable {environment : Environment Rat}

/-- Two numerals denote the same number if the same is read from them. -/
theorem sameNumber_of_isNumeral (reads : ReadsLongest environment.toNumber) {first second : Bytes}
    (left : IsNumeral first) (right : IsNumeral second)
    (same : environment.toNumber first = environment.toNumber second) : SameNumber first second := by
  obtain ⟨numeral, rfl⟩ := left
  obtain ⟨other, rfl⟩ := right
  rw [reads numeral _ numeral.longest_text, reads other _ other.longest_text] at same
  exact ⟨numeral, other, rfl, rfl, same⟩

theorem related_equals_iff {substring target : Bytes} :
    related environment substring target .equals = true <->
      if isNumeric target = true ∧ isNumeric substring = true then
        environment.toNumber substring = environment.toNumber target
      else substring = target := by
  rw [related]
  split
  next numeric =>
    rw [if_pos (Bool.and_eq_true_iff.mp numeric), decide_eq_true_iff]
  next textual =>
    rw [if_neg (mt Bool.and_eq_true_iff.mpr textual), decide_eq_true_iff, LawfulEqCmp.compare_eq_iff_eq]

/-- Equality is right exactly if the strings are equal, or one of them has a byte that no
numeral has, or both are numerals, or different numbers are read from them. -/
theorem numeric_equality_iff (environment : Environment Rat) (reads : ReadsLongest environment.toNumber)
    (desc : ServiceDescription) (uuid key pattern target actual : Bytes) (found : RegexMatch)
    (matched : environment.found pattern (desc.property key) = some found)
    (selected : found.selected (desc.property key) = some actual) :
    ((ServiceFilter.only uuid desc.svcName key ⟨pattern, target, Operator.equals.code⟩).Matches
          environment desc ->
        actual = target ∨ SameNumber actual target) <->
      actual = target ∨ isNumeric actual = false ∨ isNumeric target = false ∨
        (IsNumeral actual ∧ IsNumeral target) ∨
        environment.toNumber actual ≠ environment.toNumber target := by
  rw [matches_of_selected environment matched selected, passes_code, related_equals_iff]
  constructor
  · intro sound
    by_contra refuted
    simp only [not_or, Bool.not_eq_false, not_not] at refuted
    obtain ⟨different, first, second, numerals, same⟩ := refuted
    rw [if_pos ⟨second, first⟩] at sound
    obtain ⟨numeral, other, left, right, _⟩ := (sound same).resolve_left different
    exact numerals ⟨⟨numeral, left⟩, ⟨other, right⟩⟩
  · intro condition equal
    split at equal
    next numeric =>
      rcases condition with same | strange | strange | numerals | distinct
      · exact .inl same
      · cases numeric.2.symm.trans strange
      · cases numeric.1.symm.trans strange
      · exact .inr (sameNumber_of_isNumeral reads numerals.1 numerals.2 equal)
      · exact absurd equal distinct
    next textual => exact .inl equal

end

/-- Two ways to write one number. -/
theorem numeric_equality_iff_exponent :
    let environment : Environment Rat := ⟨selectAll, toNumber fun _ => 0⟩
    let desc := exampleDescription "1.5e1"
    environment.found (literal ".*") (desc.property (literal "k")) = some ⟨(0, 5), []⟩ ∧
      SameNumber (literal "1.5e1") (literal "15") := by
  intro environment desc
  have matched : environment.found (literal ".*") (desc.property (literal "k")) = some ⟨(0, 5), []⟩ := by
    decide +kernel
  have selected : RegexMatch.selected ⟨(0, 5), []⟩ (desc.property (literal "k")) =
      some (literal "1.5e1") := by
    decide +kernel
  have numerals : IsNumeral (literal "1.5e1") ∧ IsNumeral (literal "15") := by decide +kernel
  have equal : ((exampleFilter ".*" "15" Operator.equals.code).matches environment desc).1 = some true := by
    decide +kernel
  have sound := (numeric_equality_iff environment (readsLongest_toNumber _) desc [] (literal "k")
    (literal ".*") (literal "15") (literal "1.5e1") _ matched selected).mpr
      (.inr (.inr (.inr (.inl numerals)))) equal
  exact ⟨matched, sound.resolve_left (by decide +kernel)⟩

/-- Two addresses are equal, and the empty string is zero. -/
theorem addresses_equal :
    let environment : Environment Rat := ⟨selectAll, toNumber fun _ => 0⟩
    let pred := Operator.equals.code
    ReadsLongest environment.toNumber ∧
      ((exampleFilter ".*" "10.0.0.2" pred).matches environment (exampleDescription "10.0.0.1")).1 =
        some true ∧
      ¬ SameNumber (literal "10.0.0.1") (literal "10.0.0.2") ∧
      ((exampleFilter ".*" "0" pred).matches environment (exampleDescription "")).1 = some true ∧
      ¬ SameNumber (literal "") (literal "0") := by
  refine ⟨readsLongest_toNumber _, by decide +kernel, ?_, by decide +kernel, ?_⟩
  · rintro ⟨numeral, _, same, _⟩
    exact absurd ⟨numeral, same⟩ (by decide +kernel : ¬ IsNumeral (literal "10.0.0.1"))
  · rintro ⟨numeral, _, same, _⟩
    exact absurd ⟨numeral, same⟩ (by decide +kernel : ¬ IsNumeral (literal ""))

end Service
end Umundo
