import Mathlib.Data.List.TakeWhile
import Mathlib.Tactic.Common

namespace Umundo
namespace Foundation

/-!
# Byte strings and terminated strings

Everything that crosses a socket is a finite sequence of bytes.  Names,
addresses and identifiers are in addition handled through a terminating zero
byte: they are copied up to it when written, and measured by a search for it
when read back.  A string that is treated in this way cannot contain the
terminator, and `CString` records that fact as a field.

The reader `readCString` is partial.  It answers only if the terminator lies
inside the buffer it was given; running off the end of the buffer is the
`none` branch, never a shorter string.
-/

/-- The content of one message part. -/
abbrev Bytes := List UInt8

/-- The upper case letter or digit of a half byte. -/
def hexDigit (digit : UInt8) : UInt8 := if digit < 10 then 48 + digit else 55 + digit

/-- A string without an embedded terminator. -/
structure CString where
  bytes : Bytes
  nulFree : 0 ∉ bytes
deriving DecidableEq

namespace CString

@[ext] theorem ext {left right : CString} (same : left.bytes = right.bytes) : left = right := by
  cases left
  cases right
  cases same
  rfl

/-- Strings are ordered byte by byte, the shorter of two comparable ones first. -/
instance : Ord CString := ⟨fun left right => List.compareLex compare left.bytes right.bytes⟩

theorem compare_eq (left right : CString) :
    compare left right = compare left.bytes right.bytes := rfl

instance : Std.TransOrd CString where
  eq_swap {left right} := by
    rw [compare_eq, compare_eq]
    exact Std.OrientedCmp.eq_swap
  isLE_trans {first second third} := by
    rw [compare_eq, compare_eq, compare_eq]
    exact Std.TransCmp.isLE_trans

instance : Std.LawfulEqOrd CString where
  eq_of_compare {left right} equal := by
    rw [compare_eq] at equal
    exact CString.ext (Std.LawfulEqCmp.eq_of_compare equal)

def length (text : CString) : Nat := text.bytes.length

/-- The empty string, which the sources write as `""`. -/
def empty : CString := ⟨[], List.not_mem_nil⟩

def cons (byte : UInt8) (text : CString) (nonzero : byte ≠ 0) : CString :=
  ⟨byte :: text.bytes, by
    intro member
    rcases List.mem_cons.mp member with zero | later
    · exact nonzero zero.symm
    · exact text.nulFree later⟩

instance : Append CString where
  append left right := ⟨left.bytes ++ right.bytes, by
    intro member
    rcases List.mem_append.mp member with before | after
    · exact left.nulFree before
    · exact right.nulFree after⟩

/-- The string a terminated buffer holds: everything before its first zero. -/
def ofBytes (buffer : Bytes) : CString :=
  ⟨buffer.takeWhile (fun byte => byte != 0), by
    intro member
    have kept := List.mem_takeWhile_imp member
    simp at kept⟩

theorem ofBytes_bytes (text : CString) : ofBytes text.bytes = text := by
  apply CString.ext
  change text.bytes.takeWhile (fun byte => byte != 0) = text.bytes
  apply List.takeWhile_eq_self_iff.mpr
  intro byte member
  have nonzero : byte ≠ 0 := by
    intro zero
    exact text.nulFree (zero ▸ member)
  exact bne_iff_ne.mpr nonzero

/-- The decimal digits a stream prints for a number. -/
def decimal (number : Nat) : CString :=
  ⟨(Nat.toDigits 10 number).map (fun digit => UInt8.ofNat digit.toNat), by
    intro member
    rcases List.mem_map.mp member with ⟨digit, listed, zero⟩
    have isDigit := Nat.isDigit_of_mem_toDigits (by decide) (by decide) listed
    simp only [Char.isDigit, Bool.and_eq_true, decide_eq_true_eq] at isDigit
    have lower : 48 ≤ digit.toNat := isDigit.1
    have upper : digit.toNat ≤ 57 := isDigit.2
    have value := congrArg UInt8.toNat zero
    rw [UInt8.toNat_ofNat'] at value
    simp at value
    omega⟩

end CString

/-! ## Reading a terminated string out of a buffer -/

/-- Split a buffer behind its first terminated string.  The search is the
one `strlen` performs, but it stops at the end of the buffer. -/
def readCString : Bytes -> Option (CString × Bytes)
  | [] => none
  | byte :: rest =>
      if nonzero : byte = 0 then some (.empty, rest)
      else match readCString rest with
        | none => none
        | some (text, remaining) => some (text.cons byte nonzero, remaining)

theorem readCString_append (text : CString) (rest : Bytes) :
    readCString (text.bytes ++ 0 :: rest) = some (text, rest) := by
  rcases text with ⟨bytes, nulFree⟩
  induction bytes with
  | nil => rfl
  | cons byte tail ih =>
      have parts := not_or.mp (mt List.mem_cons.mpr nulFree)
      have nonzero : byte ≠ 0 := Ne.symm parts.1
      have tailRead := ih parts.2
      change readCString (byte :: (tail ++ 0 :: rest)) = _
      rw [readCString, dif_neg nonzero]
      change (match readCString (tail ++ 0 :: rest) with
        | none => none
        | some (text, remaining) => some (text.cons byte nonzero, remaining)) = _
      rw [tailRead]
      rfl

/-- Conversely, whatever was read is what stood in front of the terminator. -/
theorem eq_append_of_readCString {buffer rest : Bytes} {text : CString}
    (read : readCString buffer = some (text, rest)) :
    buffer = text.bytes ++ 0 :: rest := by
  induction buffer generalizing text rest with
  | nil => cases read
  | cons byte tail ih =>
      by_cases zero : byte = 0
      · rw [readCString, dif_pos zero] at read
        cases read
        subst zero
        rfl
      · rw [readCString, dif_neg zero] at read
        cases inner : readCString tail with
        | none =>
            rw [inner] at read
            cases read
        | some found =>
            rcases found with ⟨later, remaining⟩
            rw [inner] at read
            cases read
            have split := ih inner
            change byte :: tail = byte :: (later.bytes ++ 0 :: rest)
            rw [← split]

theorem readCString_eq_some_iff (buffer rest : Bytes) (text : CString) :
    readCString buffer = some (text, rest) <-> buffer = text.bytes ++ 0 :: rest := by
  constructor
  · exact eq_append_of_readCString
  · intro split
    rw [split]
    exact readCString_append text rest

/-- A string can be read from a buffer that has a terminator in it. -/
theorem readCString_isSome_iff (buffer : Bytes) :
    (readCString buffer).isSome = true <-> 0 ∈ buffer := by
  induction buffer with
  | nil => simp [readCString]
  | cons byte rest ih =>
      by_cases zero : byte = 0
      · simp [readCString, zero]
      · have read : (readCString (byte :: rest)).isSome = (readCString rest).isSome := by
          rw [readCString, dif_neg zero]
          cases readCString rest with
          | none => rfl
          | some found => rfl
        rw [read, ih, List.mem_cons, or_iff_right (Ne.symm zero)]

/-! ## Sixteen-bit numbers in network byte order -/

/-- The two bytes `htons` leaves in memory, most significant first. -/
def toNetwork (number : UInt16) : Bytes :=
  [UInt8.ofNat (number.toNat / 256), UInt8.ofNat (number.toNat % 256)]

/-- The number `ntohs` finds in two consecutive bytes. -/
def ofNetwork (high low : UInt8) : UInt16 :=
  UInt16.ofNat (high.toNat * 256 + low.toNat)

theorem ofNetwork_toNetwork (number : UInt16) :
    ofNetwork (UInt8.ofNat (number.toNat / 256)) (UInt8.ofNat (number.toNat % 256)) = number := by
  apply UInt16.toNat_inj.mp
  have bound := number.toNat_lt
  simp only [ofNetwork, UInt8.toNat_ofNat', UInt16.toNat_ofNat']
  omega

theorem toNetwork_ofNetwork (high low : UInt8) :
    toNetwork (ofNetwork high low) = [high, low] := by
  have highBound := high.toNat_lt
  have lowBound := low.toNat_lt
  have value : (ofNetwork high low).toNat = high.toNat * 256 + low.toNat := by
    simp only [ofNetwork, UInt16.toNat_ofNat']
    omega
  have highPart : UInt8.ofNat ((high.toNat * 256 + low.toNat) / 256) = high := by
    apply UInt8.toNat_inj.mp
    simp only [UInt8.toNat_ofNat']
    omega
  have lowPart : UInt8.ofNat ((high.toNat * 256 + low.toNat) % 256) = low := by
    apply UInt8.toNat_inj.mp
    simp only [UInt8.toNat_ofNat']
    omega
  simp only [toNetwork, value, highPart, lowPart]

end Foundation
end Umundo
