import Umundo.Foundation.CString

namespace Umundo
namespace Foundation

/-!
# Code that walks a buffer with a pointer

A reader of the wire format holds a pointer into a buffer of known size and
examines bytes through it.  It does not check the size on its way.  The type
`Access` records both things that matter about such code: every index that it
examines, and its result.  A result exists exactly if all of the indices are
inside, so the first index outside ends the part of the execution that has a
meaning.

A writer copies bytes to a pointer.  A copy that does not fit into the buffer
is the `none` branch of `memcpy`.
-/

/-- What pointer code does with a buffer of the given size. -/
structure Access (size : Nat) (Value : Type) where
  /-- the indices examined, up to the first one outside -/
  examined : List Nat
  result : Option Value
  inside_iff : (forall index, index ∈ examined -> index < size) <-> result.isSome = true

namespace Access

variable {size : Nat} {First Second : Type}

/-- Return without a further look at the buffer. -/
def pure (value : First) : Access size First where
  examined := []
  result := some value
  inside_iff := by simp

/-- Continue with the result, if there is one. -/
def bind (first : Access size First) (next : First -> Access size Second) : Access size Second where
  examined :=
    match first.result with
    | none => first.examined
    | some value => first.examined ++ (next value).examined
  result := first.result.bind fun value => (next value).result
  inside_iff := by
    have inside := first.inside_iff
    cases outcome : first.result with
    | none =>
        rw [outcome] at inside
        exact inside
    | some value =>
        rw [outcome] at inside
        have later := (next value).inside_iff
        simp only [Option.bind_some, List.mem_append]
        rw [← later]
        constructor
        · intro every index member
          exact every index (.inr member)
        · intro every index member
          rcases member with earlier | member
          · exact inside.mpr rfl index earlier
          · exact every index member

instance : Monad (Access size) where
  pure := Access.pure
  bind := Access.bind

@[simp] theorem result_pure (value : First) : (Pure.pure value : Access size First).result = some value := by
  rfl

@[simp] theorem result_bind (first : Access size First) (next : First -> Access size Second) :
    (first >>= next).result = first.result.bind fun value => (next value).result := rfl

end Access

/-! ## Reading -/

/-- Look at one byte. -/
def load (buffer : Bytes) (index : Nat) : Access buffer.length UInt8 where
  examined := [index]
  result := buffer[index]?
  inside_iff := by simp

@[simp] theorem result_load (buffer : Bytes) (index : Nat) : (load buffer index).result = buffer[index]? := by
  rfl

/-- Search for a terminator in what is left of a buffer from some index on:
the indices examined, and the number of bytes before the terminator. -/
def scan : Bytes -> Nat -> List Nat × Option Nat
  | [], index => ([index], none)
  | byte :: rest, index =>
      if byte = 0 then ([index], some 0)
      else (index :: (scan rest (index + 1)).1, (scan rest (index + 1)).2.map (· + 1))

theorem scan_inside_iff (rest : Bytes) (index size : Nat) (left : index + rest.length = size) :
    (forall examined, examined ∈ (scan rest index).1 -> examined < size) <->
      (scan rest index).2.isSome = true := by
  induction rest generalizing index with
  | nil =>
      have outside : ¬ index < size := by
        rw [List.length_nil] at left
        omega
      simp [scan, outside]
  | cons byte rest ih =>
      rw [List.length_cons] at left
      have inside : index < size := by omega
      by_cases zero : byte = 0
      · simp [scan, zero, inside]
      · have later := ih (index + 1) (by omega)
        simp only [scan, if_neg zero, List.mem_cons, Option.isSome_map, ← later]
        constructor
        · intro every examined member
          exact every examined (.inr member)
        · intro every examined member
          rcases member with first | member
          · rw [first]
            exact inside
          · exact every examined member

/-- The search finds the terminator behind the string that `readCString` reads. -/
theorem scan_result (rest : Bytes) (index : Nat) :
    (scan rest index).2 = (readCString rest).map fun read => read.1.length := by
  induction rest generalizing index with
  | nil => rfl
  | cons byte rest ih =>
      by_cases zero : byte = 0
      · rw [scan, if_pos zero, readCString, dif_pos zero]
        rfl
      · rw [scan, if_neg zero, readCString, dif_neg zero, ih]
        cases readCString rest with
        | none => rfl
        | some read => rfl

/-- The length of the string a pointer points to. -/
def strlen (buffer : Bytes) (start : Nat) : Access buffer.length Nat where
  examined := (scan (buffer.drop start) start).1
  result := (scan (buffer.drop start) start).2
  inside_iff := by
    rcases Nat.le_or_ge start buffer.length with within | beyond
    · apply scan_inside_iff
      rw [List.length_drop]
      omega
    · rw [List.drop_of_length_le beyond]
      simp only [scan, List.mem_singleton, forall_eq, Option.isSome_none, Bool.false_eq_true,
        iff_false]
      omega

/-- The string a pointer points to. -/
def stringAt (buffer : Bytes) (start : Nat) : CString := .ofBytes (buffer.drop start)

theorem ofBytes_append (text : CString) (rest : Bytes) :
    CString.ofBytes (text.bytes ++ 0 :: rest) = text := by
  apply CString.ext
  change (text.bytes ++ 0 :: rest).takeWhile (fun byte => byte != 0) = text.bytes
  have kept : forall byte, byte ∈ text.bytes -> (byte != 0) = true := by
    intro byte member
    apply bne_iff_ne.mpr
    intro zero
    exact text.nulFree (zero ▸ member)
  rw [List.takeWhile_append_of_pos kept]
  simp

/-- Where the list reader succeeds, `strlen` measures the string it reads and
the rest begins behind the terminator. -/
theorem strlen_of_readCString {buffer rest : Bytes} {start : Nat} {text : CString}
    (read : readCString (buffer.drop start) = some (text, rest)) :
    (strlen buffer start).result = some text.length ∧ stringAt buffer start = text ∧
      buffer.drop (start + text.length + 1) = rest ∧
      start + text.length + 1 + rest.length = buffer.length := by
  have split := eq_append_of_readCString read
  have total := congrArg List.length split
  simp only [List.length_drop, List.length_append, List.length_cons] at total
  refine ⟨?_, ?_, ?_, ?_⟩
  · change (scan (buffer.drop start) start).2 = _
    rw [scan_result, read]
    rfl
  · rw [stringAt, split, ofBytes_append]
  · rw [Nat.add_assoc, ← List.drop_drop, split, CString.length, List.drop_append]
    simp
  · rw [CString.length]
    omega

theorem strlen_of_readCString_none {buffer : Bytes} {start : Nat}
    (unread : readCString (buffer.drop start) = none) : (strlen buffer start).result = none := by
  change (scan (buffer.drop start) start).2 = none
  rw [scan_result, unread]
  rfl

/-! ## Writing -/

/-- Copy bytes to a place in a buffer that has room for them. -/
def memcpy (buffer : Bytes) (start : Nat) (data : Bytes) : Option Bytes :=
  if start + data.length ≤ buffer.length then
    some (buffer.take start ++ (data ++ buffer.drop (start + data.length)))
  else none

/-- A copy behind what is filled already fills the buffer further. -/
theorem memcpy_filled (filled free data : Bytes) (room : data.length ≤ free.length) :
    memcpy (filled ++ free) filled.length data =
      some (filled ++ data ++ free.drop data.length) := by
  have fits : filled.length + data.length ≤ (filled ++ free).length := by
    rw [List.length_append]
    omega
  rw [memcpy, if_pos fits, List.take_left, ← List.drop_drop, List.drop_left, List.append_assoc]

end Foundation
end Umundo
