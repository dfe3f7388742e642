import Mathlib.Data.Rat.Defs
import Umundo.Foundation.Fields

namespace Umundo
namespace Foundation

/-!
# Decimal numerals

A numeral has digits, at most one point among them, and at most one exponent behind them.
It has at least one digit in front of the exponent, and an exponent has at least one, too.
There are no signs here.

A stream that reads a number takes the longest numeral the text begins with.  `scan` finds
it, and finds the whole text if the text is a numeral.
-/

/-- Nothing but digits. -/
def Digits (bytes : Bytes) : Prop := forall byte, byte ∈ bytes -> CString.isDigit byte = true

theorem digits_takeWhile (bytes : Bytes) : Digits (bytes.takeWhile CString.isDigit) :=
  fun _ member => List.mem_takeWhile_imp member

/-- The digits are followed by something else. -/
theorem takeWhile_digits_append {front rest : Bytes} (digits : Digits front) :
    (front ++ rest).takeWhile CString.isDigit = front ++ rest.takeWhile CString.isDigit :=
  List.takeWhile_append_of_pos digits

theorem dropWhile_digits_append {front rest : Bytes} (digits : Digits front) :
    (front ++ rest).dropWhile CString.isDigit = rest.dropWhile CString.isDigit :=
  List.dropWhile_append_of_pos digits

/-- The digits in front of the point, those behind it if there is a point, and those of
the exponent if there is one. -/
structure Numeral where
  whole : Bytes
  fraction : Option Bytes
  exponent : Option Bytes
  whole_digits : Digits whole
  fraction_digits : forall digits, fraction = some digits -> Digits digits
  exponent_digits : forall digits, exponent = some digits -> digits ≠ [] ∧ Digits digits
  some_digit : whole ++ fraction.getD [] ≠ []

namespace Numeral

@[ext] theorem ext {first second : Numeral} (whole : first.whole = second.whole)
    (fraction : first.fraction = second.fraction) (exponent : first.exponent = second.exponent) :
    first = second := by
  cases first
  cases second
  cases whole
  cases fraction
  cases exponent
  rfl

/-- A part that is introduced by a letter, if it is there. -/
def part (letter : UInt8) : Option Bytes -> Bytes
  | none => []
  | some digits => letter :: digits

def text (numeral : Numeral) : Bytes :=
  numeral.whole ++ (part 46 numeral.fraction ++ part 101 numeral.exponent)

/-- The number a numeral denotes. -/
def value (numeral : Numeral) : Rat :=
  let fraction := numeral.fraction.getD []
  (CString.digits (numeral.whole ++ fraction) : Rat) / 10 ^ fraction.length *
    10 ^ CString.digits (numeral.exponent.getD [])

/-! ## Reading -/

/-- The digits behind a letter, and what follows them. -/
def readPart (letter : UInt8) (text : Bytes) : Option Bytes :=
  match text with
  | [] => none
  | first :: rest => if first = letter then some (rest.takeWhile CString.isDigit) else none

/-- What is left behind the digits and the point. -/
def afterPoint (text : Bytes) : Bytes :=
  match readPart 46 text with
  | none => text
  | some digits => text.drop (digits.length + 1)

/-- An exponent without digits is none. -/
def readExponent (text : Bytes) : Option Bytes :=
  (readPart 101 text).filter fun digits => digits ≠ []

theorem digits_of_readPart {letter : UInt8} {text digits : Bytes}
    (read : readPart letter text = some digits) : Digits digits := by
  cases text with
  | nil => cases read
  | cons first rest =>
      rw [readPart] at read
      split at read
      · cases read
        exact digits_takeWhile rest
      · cases read

/-- The longest numeral that a text begins with. -/
def scan (text : Bytes) : Option Numeral :=
  let whole := text.takeWhile CString.isDigit
  let rest := text.dropWhile CString.isDigit
  let fraction := readPart 46 rest
  if some_digit : whole ++ fraction.getD [] ≠ [] then
    some {
      whole
      fraction
      exponent := readExponent (afterPoint rest)
      whole_digits := digits_takeWhile text
      fraction_digits := fun _ read => digits_of_readPart read
      exponent_digits := fun _ read => by
        obtain ⟨found, nonempty⟩ := Option.filter_eq_some_iff.mp read
        exact ⟨of_decide_eq_true nonempty, digits_of_readPart found⟩
      some_digit }
  else none

/-! ## What is read -/

theorem scan_eq_some_iff {text : Bytes} {numeral : Numeral} :
    scan text = some numeral <->
      numeral.whole = text.takeWhile CString.isDigit ∧
        numeral.fraction = readPart 46 (text.dropWhile CString.isDigit) ∧
        numeral.exponent = readExponent (afterPoint (text.dropWhile CString.isDigit)) := by
  rw [scan]
  constructor
  · intro scanned
    split at scanned
    · cases scanned
      exact ⟨rfl, rfl, rfl⟩
    · cases scanned
  · rintro ⟨whole, fraction, exponent⟩
    have some_digit := numeral.some_digit
    rw [whole, fraction] at some_digit
    rw [dif_pos some_digit]
    exact congrArg some (Numeral.ext whole.symm fraction.symm exponent.symm)

theorem isSome_scan_iff {text : Bytes} :
    (scan text).isSome = true <->
      text.takeWhile CString.isDigit ++ (readPart 46 (text.dropWhile CString.isDigit)).getD [] ≠ [] := by
  rw [scan]
  split
  next some_digit => exact iff_of_true rfl some_digit
  next none => exact iff_of_false Bool.false_ne_true none

private theorem takeWhile_prefix_eq (text : Bytes) :
    text.takeWhile CString.isDigit = text.take (text.takeWhile CString.isDigit).length :=
  List.prefix_iff_eq_take.mp <| List.takeWhile_prefix _

theorem part_append_afterPoint (text : Bytes) : part 46 (readPart 46 text) ++ afterPoint text = text := by
  rw [afterPoint]
  cases text with
  | nil => rfl
  | cons first rest =>
      rw [readPart]
      split
      next point =>
        dsimp only [part]
        rw [List.drop_succ_cons, List.cons_append, point]
        refine congrArg (46 :: ·) ?_
        nth_rewrite 1 [takeWhile_prefix_eq rest]
        exact List.take_append_drop _ rest
      next => rfl

theorem part_readExponent_isPrefix (text : Bytes) : part 101 (readExponent text) <+: text := by
  cases text with
  | nil => exact List.nil_prefix
  | cons first rest =>
      rw [readExponent, readPart]
      split
      next letter =>
        rw [Option.filter_some]
        split
        · rw [part, letter]
          exact List.cons_prefix_cons.mpr ⟨rfl, List.takeWhile_prefix _⟩
        · exact List.nil_prefix
      next => exact List.nil_prefix

/-- What is read is in front of the text. -/
theorem text_prefix_of_scan {text : Bytes} {numeral : Numeral} (scanned : scan text = some numeral) :
    numeral.text <+: text := by
  obtain ⟨whole, fraction, exponent⟩ := scan_eq_some_iff.mp scanned
  have front : text.takeWhile CString.isDigit ++ text.dropWhile CString.isDigit = text :=
    List.takeWhile_append_dropWhile
  rw [Numeral.text, whole, fraction, exponent]
  nth_rewrite 4 [← front]
  rw [List.prefix_append_right_inj]
  nth_rewrite 3 [← part_append_afterPoint (text.dropWhile CString.isDigit)]
  rw [List.prefix_append_right_inj]
  exact part_readExponent_isPrefix _

theorem readPart_cons_append {digits : Bytes} (letter : UInt8) (numbers : Digits digits) (more : Bytes) :
    readPart letter (letter :: (digits ++ more)) = some (digits ++ more.takeWhile CString.isDigit) := by
  rw [readPart, if_pos rfl, takeWhile_digits_append numbers]

theorem readExponent_cons_append {digits : Bytes} (nonempty : digits ≠ []) (numbers : Digits digits)
    (more : Bytes) :
    readExponent (101 :: (digits ++ more)) = some (digits ++ more.takeWhile CString.isDigit) := by
  rw [readExponent, readPart_cons_append 101 numbers, Option.filter_some, if_pos]
  simp [nonempty]

theorem afterPoint_cons_append {digits : Bytes} (numbers : Digits digits) (more : Bytes) :
    afterPoint (46 :: (digits ++ more)) = more.dropWhile CString.isDigit := by
  have whole := part_append_afterPoint (46 :: (digits ++ more))
  rw [readPart_cons_append 46 numbers, part, List.cons_append, List.cons.injEq, List.append_assoc,
    List.append_cancel_left_eq] at whole
  exact List.append_cancel_left (whole.2.trans List.takeWhile_append_dropWhile.symm)

/-- An exponent keeps the parts in front of it from going on. -/
private theorem read_before_exponent {digits : Bytes} (nonempty : digits ≠ []) (numbers : Digits digits)
    (more : Bytes) :
    (part 101 (some digits) ++ more).takeWhile CString.isDigit = [] ∧
      (part 101 (some digits) ++ more).dropWhile CString.isDigit = part 101 (some digits) ++ more ∧
      readPart 46 (part 101 (some digits) ++ more) = none ∧
      readExponent (part 101 (some digits) ++ more) =
        some (digits ++ more.takeWhile CString.isDigit) := by
  refine ⟨rfl, rfl, rfl, ?_⟩
  exact readExponent_cons_append nonempty numbers more

section

variable (numeral : Numeral) (more : Bytes)

private theorem text_append :
    numeral.text ++ more =
      numeral.whole ++ (part 46 numeral.fraction ++ (part 101 numeral.exponent ++ more)) := by
  simp only [text, List.append_assoc]

/-- The digits behind a point go on as far as there are digits. -/
private theorem read_point {digits : Bytes} (fraction : numeral.fraction = some digits) :
    (numeral.text ++ more).takeWhile CString.isDigit = numeral.whole ∧
      readPart 46 ((numeral.text ++ more).dropWhile CString.isDigit) =
        some (digits ++ (part 101 numeral.exponent ++ more).takeWhile CString.isDigit) ∧
      afterPoint ((numeral.text ++ more).dropWhile CString.isDigit) =
        (part 101 numeral.exponent ++ more).dropWhile CString.isDigit := by
  have numbers := numeral.fraction_digits digits fraction
  rw [text_append, takeWhile_digits_append numeral.whole_digits,
    dropWhile_digits_append numeral.whole_digits, fraction]
  exact ⟨List.append_nil _, readPart_cons_append 46 numbers _, afterPoint_cons_append numbers _⟩

/-- Without a point, the digits in front of it do. -/
private theorem read_no_point (fraction : numeral.fraction = none) :
    (numeral.text ++ more).takeWhile CString.isDigit =
        numeral.whole ++ (part 101 numeral.exponent ++ more).takeWhile CString.isDigit ∧
      (numeral.text ++ more).dropWhile CString.isDigit =
        (part 101 numeral.exponent ++ more).dropWhile CString.isDigit := by
  rw [text_append, takeWhile_digits_append numeral.whole_digits,
    dropWhile_digits_append numeral.whole_digits, fraction]
  exact ⟨rfl, rfl⟩

/-- A text that begins with a numeral is read. -/
theorem isSome_scan_text_append : (scan (numeral.text ++ more)).isSome = true := by
  have some_digit := numeral.some_digit
  rw [isSome_scan_iff]
  cases fraction : numeral.fraction with
  | some digits =>
      obtain ⟨taken, read, _⟩ := numeral.read_point more fraction
      rw [fraction] at some_digit
      rw [taken, read, Option.getD_some, ← List.append_assoc]
      exact List.append_ne_nil_of_left_ne_nil some_digit _
  | none =>
      obtain ⟨taken, _⟩ := numeral.read_no_point more fraction
      rw [fraction, Option.getD_none, List.append_nil] at some_digit
      rw [taken, List.append_assoc]
      exact List.append_ne_nil_of_left_ne_nil some_digit _

/-- It is read at least as far as the numeral reaches. -/
theorem text_prefix_of_scan_append {longer : Numeral}
    (scanned : scan (numeral.text ++ more) = some longer) :
    numeral.text <+: longer.text ∧ (more = [] -> longer = numeral) := by
  obtain ⟨whole, fraction, exponent⟩ := scan_eq_some_iff.mp scanned
  -- only the last part that the numeral has can go on in the text
  cases point : numeral.fraction with
  | some digits =>
      obtain ⟨taken, read, rest⟩ := numeral.read_point more point
      rw [taken] at whole
      rw [read] at fraction
      rw [rest] at exponent
      cases power : numeral.exponent with
      | some figures =>
          obtain ⟨nonempty, numbers⟩ := numeral.exponent_digits figures power
          obtain ⟨stops, stays, _, goesOn⟩ := read_before_exponent nonempty numbers more
          rw [power, stops, List.append_nil] at fraction
          rw [power, stays, goesOn] at exponent
          refine ⟨?_, ?_⟩
          · rw [text, text, whole, fraction, exponent, point, power]
            simp [part]
          · rintro rfl
            exact Numeral.ext whole (fraction.trans point.symm) (by simp [exponent, power])
      | none =>
          rw [power] at fraction exponent
          refine ⟨?_, ?_⟩
          · rw [text, text, whole, fraction, point, power]
            simp [part]
          · rintro rfl
            refine Numeral.ext whole ?_ (exponent.trans power.symm)
            rw [fraction, point]
            simp [part]
  | none =>
      obtain ⟨taken, rest⟩ := numeral.read_no_point more point
      rw [taken] at whole
      rw [rest] at fraction exponent
      cases power : numeral.exponent with
      | some figures =>
          obtain ⟨nonempty, numbers⟩ := numeral.exponent_digits figures power
          obtain ⟨stops, stays, pointless, goesOn⟩ := read_before_exponent nonempty numbers more
          rw [power, stops, List.append_nil] at whole
          rw [power, stays, pointless] at fraction
          rw [power, stays, afterPoint, pointless] at exponent
          dsimp only at exponent
          rw [goesOn] at exponent
          refine ⟨?_, ?_⟩
          · rw [text, text, whole, fraction, exponent, point, power]
            simp [part]
          · rintro rfl
            exact Numeral.ext whole (fraction.trans point.symm) (by simp [exponent, power])
      | none =>
          rw [power] at whole fraction exponent
          refine ⟨?_, ?_⟩
          · rw [text, text, whole, point, power]
            simp [part]
          · rintro rfl
            refine Numeral.ext ?_ (fraction.trans point.symm) (exponent.trans power.symm)
            rw [whole]
            exact List.append_nil _

end

/-! ## The longest numeral -/

/-- A numeral that the text begins with, and no longer one. -/
def Longest (numeral : Numeral) (text : Bytes) : Prop :=
  numeral.text <+: text ∧
    forall other : Numeral, other.text <+: text -> other.text.length ≤ numeral.text.length

theorem longest_text (numeral : Numeral) : numeral.Longest numeral.text :=
  ⟨List.prefix_refl _, fun _ begins => begins.length_le⟩

theorem scan_text (numeral : Numeral) : scan numeral.text = some numeral := by
  have read := numeral.isSome_scan_text_append []
  obtain ⟨longer, scanned⟩ := Option.isSome_iff_exists.mp read
  obtain ⟨_, itself⟩ := numeral.text_prefix_of_scan_append [] scanned
  rw [List.append_nil, itself rfl] at scanned
  exact scanned

/-- A text is a numeral in one way only. -/
theorem text_injective {first second : Numeral} (same : first.text = second.text) : first = second := by
  have scanned := first.scan_text
  rw [same, second.scan_text] at scanned
  exact (Option.some.inj scanned).symm

theorem longest_iff_scan {numeral : Numeral} {text : Bytes} :
    numeral.Longest text <-> scan text = some numeral := by
  constructor
  · rintro ⟨⟨more, rfl⟩, longest⟩
    obtain ⟨longer, scanned⟩ := Option.isSome_iff_exists.mp (numeral.isSome_scan_text_append more)
    obtain ⟨reaches, _⟩ := numeral.text_prefix_of_scan_append more scanned
    have bound := longest longer (text_prefix_of_scan scanned)
    rw [scanned, text_injective (reaches.eq_of_length_le bound)]
  · intro scanned
    refine ⟨text_prefix_of_scan scanned, ?_⟩
    rintro other ⟨more, rfl⟩
    exact (other.text_prefix_of_scan_append more scanned).1.length_le

end Numeral

/-- The whole text is a numeral. -/
def IsNumeral (text : Bytes) : Prop := Exists fun numeral : Numeral => numeral.text = text

theorem isNumeral_iff {text : Bytes} :
    IsNumeral text <-> (Numeral.scan text).map Numeral.text = some text := by
  constructor
  · rintro ⟨numeral, rfl⟩
    rw [numeral.scan_text]
    rfl
  · intro scanned
    obtain ⟨numeral, _, same⟩ := Option.map_eq_some_iff.mp scanned
    exact ⟨numeral, same⟩

instance : DecidablePred IsNumeral := fun _ => decidable_of_iff _ isNumeral_iff.symm

end Foundation
end Umundo
