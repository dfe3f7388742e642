import Umundo.Service.Evaluation

namespace Umundo
namespace Service

open Foundation Std

/-!
# Prefix, suffix and substring

Three operators of a filter are about the place of one string in another one.  They are
computed from the offset of the first occurrence.  This is right for the beginning and
for any place.  For the end it is wrong in two cases: the target occurs once more before
the end, or it is longer than the text by one, when the difference of the sizes is the
number that stands for no occurrence.
-/

section

variable {text target : Bytes}

private theorem toNat_ofNat_of_le {number : Nat} (bounded : number ≤ maxSize) :
    (UInt64.ofNat number).toNat = number := by
  rw [UInt64.toNat_ofNat']
  simp only [maxSize] at bounded
  omega

private theorem toNat_npos : npos.toNat = 2 ^ 64 - 1 := rfl

/-- The offset that is found, as a number. -/
theorem toNat_find (bounded : text.length ≤ maxSize) :
    (find text target).toNat = (position target text).getD (2 ^ 64 - 1) := by
  rw [find]
  cases found : position target text with
  | none => exact toNat_npos
  | some offset =>
      have inside := (position_eq_some_iff.mp found).1
      exact toNat_ofNat_of_le (Nat.le_trans inside bounded)

/-- An offset is never the number that stands for no occurrence. -/
private theorem offset_lt (bounded : text.length ≤ maxSize) {offset : Nat}
    (found : position target text = some offset) : offset < 2 ^ 64 - 1 := by
  have inside := (position_eq_some_iff.mp found).1
  simp only [maxSize] at bounded
  omega

theorem find_eq_zero_iff (bounded : text.length ≤ maxSize) : find text target = 0 <-> target <+: text := by
  rw [← position_eq_zero_iff, ← UInt64.toNat_inj, toNat_find bounded]
  cases found : position target text with
  | none => simp
  | some offset => simp

theorem find_ne_npos_iff (bounded : text.length ≤ maxSize) :
    find text target ≠ npos <-> target <:+: text := by
  rw [← position_ne_none_iff, ne_eq, ← UInt64.toNat_inj, toNat_find bounded, toNat_npos]
  cases found : position target text with
  | none => simp
  | some offset =>
      have small := offset_lt bounded found
      simp only [Option.getD_some, ne_eq, reduceCtorEq, not_false_eq_true, iff_true]
      omega

/-- The difference of two sizes wraps around. -/
theorem toNat_size_sub (bounded : text.length ≤ maxSize) (short : target.length ≤ maxSize) :
    (size text - size target).toNat =
      if target.length ≤ text.length then text.length - target.length
      else 2 ^ 64 - (target.length - text.length) := by
  rw [UInt64.toNat_sub, size, size, toNat_ofNat_of_le bounded, toNat_ofNat_of_le short]
  simp only [maxSize] at bounded short
  split
  · omega
  · omega

/-- When the code takes the target for the end of the text. -/
theorem find_eq_size_sub_iff (bounded : text.length ≤ maxSize) (short : target.length ≤ maxSize) :
    find text target = size text - size target <->
      (target <:+ text ∧ OnlyAtEnd target text) ∨ target.length = text.length + 1 := by
  rw [← position_eq_length_sub_iff, ← UInt64.toNat_inj, toNat_find bounded, toNat_size_sub bounded short]
  simp only [maxSize] at bounded short
  cases found : position target text with
  | none =>
      -- without an occurrence, the two numbers are equal only if the difference wraps to `npos`
      simp only [Option.getD_none, reduceCtorEq, and_false, false_or]
      split <;> omega
  | some offset =>
      obtain ⟨inside, begins, _⟩ := position_eq_some_iff.mp found
      have room := begins.length_le
      rw [List.length_drop] at room
      simp only [Option.getD_some, Option.some.injEq]
      split <;> omega

end

section

variable {Number : Type} [LinearOrder Number]

/-- A rule about a beginning or an occurrence is right.  A rule about the end is right
exactly if the target does not have one letter more than the text, and does not occur
before the end if it stands there. -/
theorem string_predicates_iff (environment : Environment Number) (desc : ServiceDescription)
    (uuid key pattern target substring : Bytes) (found : RegexMatch)
    (matched : environment.found pattern (desc.property key) = some found)
    (selected : found.selected (desc.property key) = some substring)
    (bounded : substring.length ≤ maxSize) (short : target.length ≤ maxSize) :
    let rule := fun op : Operator =>
      ServiceFilter.only uuid desc.svcName key ⟨pattern, target, op.code⟩
    ((rule .startsWith).Matches environment desc <-> target <+: substring) ∧
      ((rule .contains).Matches environment desc <-> target <:+: substring) ∧
      (((rule .endsWith).Matches environment desc <-> target <:+ substring) <->
        target.length ≠ substring.length + 1 ∧ (target <:+ substring -> OnlyAtEnd target substring)) := by
  intro rule
  have matches_iff (op : Operator) : (rule op).Matches environment desc <->
      related environment substring target op = true := by
    rw [matches_of_selected environment matched selected, passes_code]
  refine ⟨?_, ?_, ?_⟩
  · rw [matches_iff, related, decide_eq_true_iff, find_eq_zero_iff bounded]
  · rw [matches_iff, related, decide_eq_true_iff, find_ne_npos_iff bounded]
  · rw [matches_iff, related, decide_eq_true_iff, find_eq_size_sub_iff bounded short]
    have fits : target <:+ substring -> target.length ≠ substring.length + 1 := by
      intro ends
      have le := ends.length_le
      omega
    tauto

end

/-- A target that occurs once. -/
theorem string_predicates_iff_once :
    let environment : Environment Nat := ⟨selectAll, List.length⟩
    let desc := exampleDescription "abc"
    environment.found (literal ".*") (desc.property (literal "k")) = some ⟨(0, 3), []⟩ ∧
      ((exampleFilter ".*" "bc" Operator.startsWith.code).Matches environment desc <->
        literal "bc" <+: literal "abc") := by
  intro environment desc
  have matched : environment.found (literal ".*") (desc.property (literal "k")) = some ⟨(0, 3), []⟩ := by
    decide +kernel
  have selected : RegexMatch.selected ⟨(0, 3), []⟩ (desc.property (literal "k")) =
      some (literal "abc") := by
    decide +kernel
  exact ⟨matched, (string_predicates_iff environment desc [] (literal "k") (literal ".*") (literal "bc")
    (literal "abc") ⟨(0, 3), []⟩ matched selected (by decide +kernel) (by decide +kernel)).1⟩

/-- The text `abab` ends with `ab`, and `ab` does not end with `xab`. -/
theorem endsWith_misjudged :
    let environment : Environment Nat := ⟨selectAll, List.length⟩
    let pred := Operator.endsWith.code
    literal "ab" <:+ literal "abab" ∧
      ((exampleFilter ".*" "ab" pred).matches environment (exampleDescription "abab")).1 = some false ∧
      ¬ literal "xab" <:+ literal "ab" ∧
      ((exampleFilter ".*" "xab" pred).matches environment (exampleDescription "ab")).1 = some true := by
  decide +kernel

end Service
end Umundo
