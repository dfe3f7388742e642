import Mathlib.Data.List.Basic
import Umundo.Foundation.CString
import Umundo.Foundation.Labels

namespace Umundo
namespace Foundation

open Std

/-!
# Structured values in a flat table of strings

A meta map is one table from strings to strings.  A structured value is put into
it entry by entry: the entries of an inner table under keys with a common label,
and numbers in decimal notation.  Reading it back means to look for the keys
that begin with the label, to cut the label off, and to parse the numbers.

`labelled` is the inner table that is found under a label and `addLabelled` the
outer table with an inner one added.  They are described by lookups alone, so
entries under other labels, and entries that others add to the table, can be
discarded one lookup at a time.
-/

/-! ## Labels -/

namespace CString

theorem bytes_append (left right : CString) : (left ++ right).bytes = left.bytes ++ right.bytes :=
  rfl

/-- What follows a label, if the text begins with it. -/
def dropLabel (label text : CString) : Option CString :=
  if label.bytes <+: text.bytes then
    some ⟨text.bytes.drop label.length, fun zero => text.nulFree (List.mem_of_mem_drop zero)⟩
  else none

theorem dropLabel_eq_some_iff (label text rest : CString) :
    dropLabel label text = some rest <-> text = label ++ rest := by
  rw [dropLabel]
  constructor
  · intro dropped
    split at dropped
    next begins =>
      cases dropped
      obtain ⟨suffix, split⟩ := begins
      apply CString.ext
      rw [bytes_append]
      simp only [← split, CString.length, List.drop_left]
    next => cases dropped
  · intro split
    have begins : label.bytes <+: text.bytes := by
      rw [split, bytes_append]
      exact List.prefix_append label.bytes rest.bytes
    rw [if_pos begins]
    apply congrArg some
    apply CString.ext
    simp only [split, bytes_append, CString.length, List.drop_left]

/-- Strings can be marked with other strings. -/
def label (label : CString) : Label CString where
  attach key := label ++ key
  detach := dropLabel label
  detach_eq_some_iff := dropLabel_eq_some_iff label

theorem dropLabel_append (label rest : CString) : dropLabel label (label ++ rest) = some rest :=
  (dropLabel_eq_some_iff label _ rest).mpr rfl

/-- Neither text begins with the other one. -/
def Apart (first second : CString) : Prop := Diverge first.bytes second.bytes

instance (first second : CString) : Decidable (Apart first second) :=
  inferInstanceAs (Decidable (Diverge _ _))

namespace Apart

variable {label other : CString}

theorem symm (apart : Apart label other) : Apart other label := ⟨apart.2, apart.1⟩

theorem ne (apart : Apart label other) : label ≠ other := by
  rintro rfl
  exact apart.1 (List.prefix_refl _)

theorem dropLabel (apart : Apart label other) : dropLabel label other = none := if_neg apart.1

/-- Two labels of which neither begins with the other are never confused. -/
theorem dropLabel_append (apart : Apart label other) (rest : CString) :
    CString.dropLabel label (other ++ rest) = none :=
  if_neg (Diverge.not_prefix_append apart rest.bytes)

theorem append_ne (apart : Apart label other) (rest : CString) : label ++ rest ≠ other :=
  fun same => Diverge.append_ne apart rest.bytes (congrArg CString.bytes same)

end Apart

end CString

namespace Table

variable {V : Type}

/-- The entries under a label, with the label cut off. -/
def labelled (label : CString) (table : Table CString V) : Table CString V :=
  (CString.label label).read table

/-- Add all entries of a table under a label. -/
def addLabelled (label : CString) (inner table : Table CString V) : Table CString V :=
  (CString.label label).write inner table

theorem getElem?_labelled (label : CString) (table : Table CString V) (key : CString) :
    (table.labelled label)[key]? = table[label ++ key]? :=
  (CString.label label).getElem?_read table key

/-- An entry with the label comes from the inner table if it has one. -/
theorem getElem?_addLabelled_self (label : CString) (inner table : Table CString V) (key : CString) :
    (addLabelled label inner table)[label ++ key]? = inner[key]?.or table[label ++ key]? :=
  (CString.label label).getElem?_write_self inner table key

/-- An entry without the label is not touched. -/
theorem getElem?_addLabelled_other (label : CString) (inner table : Table CString V) (key : CString)
    (unlabelled : CString.dropLabel label key = none) :
    (addLabelled label inner table)[key]? = table[key]? :=
  (CString.label label).getElem?_write_other inner table unlabelled

end Table

/-! ## Numbers -/

namespace CString

def isDigit (byte : UInt8) : Bool := 48 ≤ byte.toNat && byte.toNat ≤ 57

/-- The bytes that `isspace` accepts. -/
def isSpace (byte : UInt8) : Bool := byte.toNat = 32 || 9 ≤ byte.toNat && byte.toNat ≤ 13

/-- The value of the leading digits. -/
def digits (bytes : Bytes) : Nat :=
  (bytes.takeWhile isDigit).foldl (fun value byte => 10 * value + (byte.toNat - 48)) 0

/-- `atoi`: white space, a sign and digits, ended by anything else. -/
def atoi (text : CString) : Int :=
  match text.bytes.dropWhile isSpace with
  | 45 :: rest => -(digits rest : Int)
  | 43 :: rest => digits rest
  | rest => digits rest

/-- The text a stream prints for a signed number. -/
def ofInt (number : Int) : CString :=
  if number < 0 then (decimal number.natAbs).cons 45 (by decide) else decimal number.natAbs

private theorem isDigit_of_mem_decimal {number : Nat} {byte : UInt8}
    (member : byte ∈ (decimal number).bytes) : isDigit byte = true := by
  obtain ⟨digit, listed, rfl⟩ := List.mem_map.mp member
  have ranged := Nat.isDigit_of_mem_toDigits (by decide) (by decide) listed
  simp only [Char.isDigit, Bool.and_eq_true, decide_eq_true_eq] at ranged
  have lower : 48 ≤ digit.toNat := ranged.1
  have upper : digit.toNat ≤ 57 := ranged.2
  simp only [isDigit, UInt8.toNat_ofNat', Bool.and_eq_true, decide_eq_true_eq]
  omega

/-- A digit is the same number as a byte and as a character. -/
private theorem toNat_digit {number : Nat} {digit : Char} (listed : digit ∈ Nat.toDigits 10 number) :
    (UInt8.ofNat digit.toNat).toNat = digit.toNat := by
  have ranged := Nat.isDigit_of_mem_toDigits (by decide) (by decide) listed
  simp only [Char.isDigit, Bool.and_eq_true, decide_eq_true_eq] at ranged
  have upper : digit.toNat ≤ 57 := ranged.2
  rw [UInt8.toNat_ofNat']
  omega

theorem digits_decimal (number : Nat) : digits (decimal number).bytes = number := by
  rw [digits, List.takeWhile_eq_self_iff.mpr fun byte => isDigit_of_mem_decimal, decimal,
    List.foldl_map]
  have read : Nat.ofDigitChars 10 (Nat.toDigits 10 number) 0 = number :=
    Nat.ofDigitChars_toDigits (by decide) (by decide)
  refine Eq.trans ?_ read
  apply List.foldl_ext
  intro value digit listed
  rw [toNat_digit listed]
  rfl

/-- The first byte of a number is neither white space nor a sign. -/
private theorem atoi_of_isDigit {text : CString}
    (isNumber : forall byte, byte ∈ text.bytes -> isDigit byte = true) :
    atoi text = digits text.bytes := by
  rw [atoi]
  rcases text with ⟨_ | ⟨first, rest⟩, nulFree⟩
  · rfl
  · have ranged := isNumber first List.mem_cons_self
    simp only [isDigit, Bool.and_eq_true, decide_eq_true_eq] at ranged
    have visible : isSpace first = false := by
      simp only [isSpace, Bool.or_eq_false_iff, Bool.and_eq_false_iff, decide_eq_false_iff_not]
      omega
    dsimp only
    rw [List.dropWhile_cons_of_neg (by rw [visible]; exact Bool.false_ne_true)]
    split
    next minus =>
      cases minus
      exact absurd ranged.1 (by decide)
    next plus =>
      cases plus
      exact absurd ranged.1 (by decide)
    next => rfl

/-- Every number is read back from its text. -/
theorem atoi_ofInt (number : Int) : atoi (ofInt number) = number := by
  rw [ofInt]
  split
  next negative =>
    have minus : atoi ((decimal number.natAbs).cons 45 (by decide)) =
        -(digits (decimal number.natAbs).bytes : Int) := rfl
    rw [minus, digits_decimal]
    omega
  next natural =>
    rw [atoi_of_isDigit fun byte => isDigit_of_mem_decimal, digits_decimal]
    omega

end CString

end Foundation
end Umundo
