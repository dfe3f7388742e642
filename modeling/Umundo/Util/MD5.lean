import Umundo.Foundation.Blocks
import Umundo.Foundation.CString

namespace Umundo
namespace Util

open Foundation

/-!
# The digest of a file

A message is appended to a state in pieces.  Full blocks of 64 bytes are processed at once,
and the rest waits in a buffer.  The end of a message is padded with a bit, zeros and its
length in bits.

The digest of a message is defined for the whole message, without a buffer.  Whatever the
pieces are, the state comes to the same digest.
-/

namespace MD5

/-- The four words of a state. -/
structure Registers where
  a : UInt32
  b : UInt32
  c : UInt32
  d : UInt32
deriving DecidableEq

/-- The position of a word in the block, a rotation and a constant. -/
structure Operation where
  k : Nat
  s : UInt32
  t : UInt32

def rotateLeft (x n : UInt32) : UInt32 := (x <<< n) ||| (x >>> (32 - n))

def F (x y z : UInt32) : UInt32 := (x &&& y) ||| (~~~x &&& z)

def G (x y z : UInt32) : UInt32 := (x &&& z) ||| (y &&& ~~~z)

def H (x y z : UInt32) : UInt32 := x ^^^ y ^^^ z

def I (x y z : UInt32) : UInt32 := y ^^^ (x ||| ~~~z)

/-- A word of a block, the least significant byte first. -/
def word (block : Bytes) (k : Nat) : UInt32 :=
  let byte (i : Nat) : UInt32 := (block.getD (4 * k + i) 0).toUInt32
  byte 0 + (byte 1 <<< 8) + (byte 2 <<< 16) + (byte 3 <<< 24)

/-- One operation.  The registers change their places, so that the next operation finds
its own first. -/
def set (f : UInt32 -> UInt32 -> UInt32 -> UInt32) (block : Bytes) (now : Registers) (operation : Operation) :
    Registers :=
  let t := now.a + f now.b now.c now.d + word block operation.k + operation.t
  ⟨now.d, rotateLeft t operation.s + now.b, now.b, now.c⟩

def round1 : List Operation :=
  [⟨0, 7, 0xd76aa478⟩, ⟨1, 12, 0xe8c7b756⟩, ⟨2, 17, 0x242070db⟩, ⟨3, 22, 0xc1bdceee⟩,
   ⟨4, 7, 0xf57c0faf⟩, ⟨5, 12, 0x4787c62a⟩, ⟨6, 17, 0xa8304613⟩, ⟨7, 22, 0xfd469501⟩,
   ⟨8, 7, 0x698098d8⟩, ⟨9, 12, 0x8b44f7af⟩, ⟨10, 17, 0xffff5bb1⟩, ⟨11, 22, 0x895cd7be⟩,
   ⟨12, 7, 0x6b901122⟩, ⟨13, 12, 0xfd987193⟩, ⟨14, 17, 0xa679438e⟩, ⟨15, 22, 0x49b40821⟩]

def round2 : List Operation :=
  [⟨1, 5, 0xf61e2562⟩, ⟨6, 9, 0xc040b340⟩, ⟨11, 14, 0x265e5a51⟩, ⟨0, 20, 0xe9b6c7aa⟩,
   ⟨5, 5, 0xd62f105d⟩, ⟨10, 9, 0x02441453⟩, ⟨15, 14, 0xd8a1e681⟩, ⟨4, 20, 0xe7d3fbc8⟩,
   ⟨9, 5, 0x21e1cde6⟩, ⟨14, 9, 0xc33707d6⟩, ⟨3, 14, 0xf4d50d87⟩, ⟨8, 20, 0x455a14ed⟩,
   ⟨13, 5, 0xa9e3e905⟩, ⟨2, 9, 0xfcefa3f8⟩, ⟨7, 14, 0x676f02d9⟩, ⟨12, 20, 0x8d2a4c8a⟩]

def round3 : List Operation :=
  [⟨5, 4, 0xfffa3942⟩, ⟨8, 11, 0x8771f681⟩, ⟨11, 16, 0x6d9d6122⟩, ⟨14, 23, 0xfde5380c⟩,
   ⟨1, 4, 0xa4beea44⟩, ⟨4, 11, 0x4bdecfa9⟩, ⟨7, 16, 0xf6bb4b60⟩, ⟨10, 23, 0xbebfbc70⟩,
   ⟨13, 4, 0x289b7ec6⟩, ⟨0, 11, 0xeaa127fa⟩, ⟨3, 16, 0xd4ef3085⟩, ⟨6, 23, 0x04881d05⟩,
   ⟨9, 4, 0xd9d4d039⟩, ⟨12, 11, 0xe6db99e5⟩, ⟨15, 16, 0x1fa27cf8⟩, ⟨2, 23, 0xc4ac5665⟩]

def round4 : List Operation :=
  [⟨0, 6, 0xf4292244⟩, ⟨7, 10, 0x432aff97⟩, ⟨14, 15, 0xab9423a7⟩, ⟨5, 21, 0xfc93a039⟩,
   ⟨12, 6, 0x655b59c3⟩, ⟨3, 10, 0x8f0ccc92⟩, ⟨10, 15, 0xffeff47d⟩, ⟨1, 21, 0x85845dd1⟩,
   ⟨8, 6, 0x6fa87e4f⟩, ⟨15, 10, 0xfe2ce6e0⟩, ⟨6, 15, 0xa3014314⟩, ⟨13, 21, 0x4e0811a1⟩,
   ⟨4, 6, 0xf7537e82⟩, ⟨11, 10, 0xbd3af235⟩, ⟨2, 15, 0x2ad7d2bb⟩, ⟨9, 21, 0xeb86d391⟩]

/-- Process a block. -/
def process (abcd : Registers) (block : Bytes) : Registers :=
  let first := round1.foldl (set F block) abcd
  let second := round2.foldl (set G block) first
  let third := round3.foldl (set H block) second
  let fourth := round4.foldl (set I block) third
  ⟨abcd.a + fourth.a, abcd.b + fourth.b, abcd.c + fourth.c, abcd.d + fourth.d⟩

/-- The length of a message in bits, the lower word first, the registers, and what was not
processed yet. -/
structure State where
  count0 : UInt32
  count1 : UInt32
  abcd : Registers
  buf : Bytes

def initial : Registers := ⟨0x67452301, 0xefcdab89, 0x98badcfe, 0x10325476⟩

/-- Initialize the algorithm.  The buffer stays as it is. -/
def init (buf : Bytes) : State := ⟨0, 0, initial, buf⟩

/-- Overwrite a part of a buffer. -/
def memcpy (buf : Bytes) (offset : Nat) (data : Bytes) : Bytes :=
  buf.take offset ++ data ++ buf.drop (offset + data.length)

/-- Update the message length. -/
def State.addLength (state : State) (nbytes : Nat) : State :=
  let nbits := UInt32.ofNat (nbytes <<< 3)
  let count0 := state.count0 + nbits
  { state with
    count0 := count0
    count1 := state.count1 + UInt32.ofNat (nbytes >>> 29) + if count0 < nbits then 1 else 0 }

/-- Process full blocks, and keep a final partial block. -/
def State.appendBlocks (state : State) (data : Bytes) : State :=
  { state with
    abcd := processFull 64 process state.abcd data
    buf := memcpy state.buf 0 (remainder 64 data) }

/-- Append a string to the message. -/
def State.append (state : State) (data : Bytes) : State :=
  if data = [] then state
  else
    let offset := ((state.count0 >>> 3) &&& 63).toNat
    let counted := state.addLength data.length
    if offset = 0 then counted.appendBlocks data
    else
      -- Process an initial partial block.
      let copy := if 64 < offset + data.length then 64 - offset else data.length
      let buf := memcpy state.buf offset (data.take copy)
      if offset + copy < 64 then { counted with buf := buf }
      else State.appendBlocks { counted with abcd := process state.abcd buf, buf := buf } (data.drop copy)

/-- The bytes of a word, the least significant one first. -/
def wordBytes (x : UInt32) : Bytes :=
  [x.toUInt8, (x >>> 8).toUInt8, (x >>> 16).toUInt8, (x >>> 24).toUInt8]

def Registers.bytes (abcd : Registers) : Bytes :=
  wordBytes abcd.a ++ wordBytes abcd.b ++ wordBytes abcd.c ++ wordBytes abcd.d

def pad : Bytes := 0x80 :: List.replicate 63 0

/-- Finish the message and return the digest. -/
def State.finish (state : State) : Bytes :=
  -- Save the length before padding.
  let data := wordBytes state.count0 ++ wordBytes state.count1
  let zeros := ((55 : UInt32) - state.count0 >>> 3) &&& 63
  let padded := state.append (pad.take (zeros.toNat + 1))
  (padded.append data).abcd.bytes

/-- Two hexadecimal digits for each byte. -/
def hexText (digest : Bytes) : Bytes := digest.flatMap fun byte => [hexDigit (byte / 16), hexDigit (byte % 16)]

/-- The digest of a message as a text.  The buffer is not initialized. -/
def md5 (buf data : Bytes) : Bytes := hexText ((init buf).append data).finish

/-! ## The digest of a message -/

/-- A message with a bit, zeros and its length in bits behind it. -/
def padded (message : Bytes) : Bytes :=
  message ++ 0x80 :: List.replicate ((119 - message.length % 64) % 64) 0 ++
    (wordBytes (.ofNat (8 * message.length)) ++ wordBytes (.ofNat (8 * message.length / 0x100000000)))

def digest (message : Bytes) : Bytes := (processFull 64 process initial (padded message)).bytes

/-- The state is the one of a message: its blocks were processed, and the rest is in the buffer. -/
structure State.Holds (state : State) (message : Bytes) : Prop where
  count0 : state.count0 = .ofNat (8 * message.length)
  count1 : state.count1 = .ofNat (8 * message.length / 0x100000000)
  abcd : state.abcd = processFull 64 process initial message
  room : state.buf.length = 64
  buf : state.buf.take (message.length % 64) = remainder 64 message

theorem length_memcpy {buf data : Bytes} {offset : Nat} (fits : offset + data.length ≤ buf.length) :
    (memcpy buf offset data).length = buf.length := by
  simp only [memcpy, List.length_append, List.length_take, List.length_drop]
  omega

theorem take_memcpy {buf data : Bytes} {offset : Nat} (fits : offset + data.length ≤ buf.length) :
    (memcpy buf offset data).take (offset + data.length) = buf.take offset ++ data := by
  have length : (buf.take offset ++ data).length = offset + data.length := by
    rw [List.length_append, List.length_take_of_le (by omega)]
  rw [memcpy, ← length, List.take_left]

theorem holds_init {buf : Bytes} (room : buf.length = 64) : (init buf).Holds [] where
  count0 := rfl
  count1 := rfl
  abcd := rfl
  room := room
  buf := rfl

theorem toNat_and_63 (x : UInt32) : (x &&& 63).toNat = x.toNat % 64 := by
  rw [UInt32.toNat_and]
  exact Nat.and_two_pow_sub_one_eq_mod x.toNat 6

section

variable {state : State} {message : Bytes}

namespace State.Holds

theorem bytes (holds : state.Holds message) :
    (state.count0 >>> 3).toNat = 8 * message.length % 0x100000000 / 8 := by
  rw [holds.count0, UInt32.toNat_shiftRight, UInt32.toNat_ofNat', show (3 : UInt32).toNat % 32 = 3 from rfl,
    Nat.shiftRight_eq_div_pow]

/-- The position in the buffer is read off the count. -/
theorem offset (holds : state.Holds message) :
    ((state.count0 >>> 3) &&& 63).toNat = message.length % 64 := by
  rw [toNat_and_63, holds.bytes]
  omega

theorem zeros (holds : state.Holds message) :
    ((55 : UInt32) - state.count0 >>> 3 &&& 63).toNat = (119 - message.length % 64) % 64 := by
  rw [toNat_and_63, UInt32.toNat_sub, holds.bytes, show (55 : UInt32).toNat = 55 from rfl]
  omega

/-- The two words count modulo `2 ^ 64`. -/
theorem addLength (holds : state.Holds message) (data : Bytes) :
    (state.addLength data.length).count0 = .ofNat (8 * (message ++ data).length) ∧
      (state.addLength data.length).count1 = .ofNat (8 * (message ++ data).length / 0x100000000) := by
  have bits : data.length <<< 3 = 8 * data.length := by rw [Nat.shiftLeft_eq, Nat.mul_comm]
  have high : data.length >>> 29 = data.length / 0x20000000 := Nat.shiftRight_eq_div_pow data.length 29
  have low : (state.addLength data.length).count0 = .ofNat (8 * (message ++ data).length) := by
    rw [State.addLength, holds.count0, bits, List.length_append, Nat.mul_add, UInt32.ofNat_add]
  have carry : (state.addLength data.length).count0 < UInt32.ofNat (8 * data.length) <->
      0x100000000 ≤ 8 * message.length % 0x100000000 + 8 * data.length % 0x100000000 := by
    rw [low, UInt32.lt_iff_toNat_lt, UInt32.toNat_ofNat', UInt32.toNat_ofNat', List.length_append]
    omega
  refine ⟨low, ?_⟩
  rw [← UInt32.toNat_inj, UInt32.toNat_ofNat', List.length_append]
  simp only [State.addLength, bits, high] at carry ⊢
  rw [UInt32.toNat_add, UInt32.toNat_add, holds.count1, UInt32.toNat_ofNat', UInt32.toNat_ofNat']
  split
  next carries =>
    have := carry.mp carries
    rw [show (1 : UInt32).toNat = 1 from rfl]
    omega
  next stays =>
    have := mt carry.mpr stays
    rw [show (0 : UInt32).toNat = 0 from rfl]
    omega

/-- At the start of a block, what is appended is processed by blocks. -/
theorem appendBlocks {counted : State} {data : Bytes}
    (count0 : counted.count0 = .ofNat (8 * (message ++ data).length))
    (count1 : counted.count1 = .ofNat (8 * (message ++ data).length / 0x100000000))
    (abcd : counted.abcd = processFull 64 process initial message)
    (room : counted.buf.length = 64) (whole : remainder 64 message = []) :
    (counted.appendBlocks data).Holds (message ++ data) := by
  have positive : 0 < 64 := by decide
  have rest : remainder 64 (message ++ data) = remainder 64 data := by
    rw [remainder_append positive, whole, List.nil_append]
  have left : (remainder 64 data).length = (message ++ data).length % 64 := by
    rw [← rest, length_remainder]
  have fits : 0 + (remainder 64 data).length ≤ counted.buf.length := by
    rw [left, room]
    omega
  refine ⟨count0, count1, ?_, ?_, ?_⟩
  · rw [processFull_append positive, whole, List.nil_append, ← abcd]
    rfl
  · exact (length_memcpy fits).trans room
  · rw [rest, ← left, ← Nat.zero_add (remainder 64 data).length]
    exact take_memcpy fits

/-- Data that does not fill the block is kept in the buffer. -/
theorem appendShort {counted : State} {data : Bytes} (holds : state.Holds message)
    (count0 : counted.count0 = .ofNat (8 * (message ++ data).length))
    (count1 : counted.count1 = .ofNat (8 * (message ++ data).length / 0x100000000))
    (abcd : counted.abcd = state.abcd)
    (buf : counted.buf = memcpy state.buf (message.length % 64) data)
    (short : message.length % 64 + data.length < 64) : counted.Holds (message ++ data) := by
  have positive : 0 < 64 := by decide
  have fits : message.length % 64 + data.length ≤ state.buf.length := by
    rw [holds.room]
    omega
  have small : (remainder 64 message ++ data).length < 64 := by
    rw [List.length_append, length_remainder]
    exact short
  have filled : (message ++ data).length % 64 = message.length % 64 + data.length := by
    rw [List.length_append]
    omega
  refine ⟨count0, count1, ?_, ?_, ?_⟩
  · rw [abcd, holds.abcd, processFull_append positive, processFull_of_lt small]
  · rw [buf, length_memcpy fits, holds.room]
  · rw [filled, buf, take_memcpy fits, holds.buf, remainder_append positive, remainder_of_lt small]

/-- Data that fills the block is processed with what was in the buffer. -/
theorem appendFilling {counted : State} {data : Bytes} {copy : Nat} (holds : state.Holds message)
    (count0 : counted.count0 = .ofNat (8 * (message ++ data).length))
    (count1 : counted.count1 = .ofNat (8 * (message ++ data).length / 0x100000000))
    (abcd : counted.abcd = process state.abcd (memcpy state.buf (message.length % 64) (data.take copy)))
    (buf : counted.buf = memcpy state.buf (message.length % 64) (data.take copy))
    (enough : copy ≤ data.length) (fills : message.length % 64 + copy = 64) :
    (counted.appendBlocks (data.drop copy)).Holds (message ++ data) := by
  have positive : 0 < 64 := by decide
  have taken : message.length % 64 + (data.take copy).length = 64 := by
    rw [List.length_take_of_le enough, fills]
  have fits : message.length % 64 + (data.take copy).length ≤ state.buf.length := by rw [taken, holds.room]
  have room : (memcpy state.buf (message.length % 64) (data.take copy)).length = 64 := by
    rw [length_memcpy fits, holds.room]
  have block : memcpy state.buf (message.length % 64) (data.take copy) =
      remainder 64 message ++ data.take copy := by
    rw [← holds.buf, ← take_memcpy fits, taken, List.take_of_length_le (Nat.le_of_eq room)]
  have parts : message ++ data = message ++ data.take copy ++ data.drop copy := by
    rw [List.append_assoc, List.take_append_drop]
  rw [parts] at count0 count1 ⊢
  refine appendBlocks count0 count1 ?_ (buf ▸ room) ?_
  · rw [abcd, processFull_append positive, ← holds.abcd, ← block, processFull_of_length positive room]
  · rw [remainder_append positive, ← block, ← List.length_eq_zero_iff, length_remainder, room]

/-- Appending a piece continues the message. -/
theorem append (holds : state.Holds message) (data : Bytes) : (state.append data).Holds (message ++ data) := by
  obtain ⟨count0, count1⟩ := holds.addLength data
  rw [State.append, holds.offset]
  split
  next empty => rwa [empty, List.append_nil]
  next nonempty =>
    dsimp only
    split
    next aligned =>
      refine appendBlocks count0 count1 holds.abcd holds.room ?_
      rw [← List.length_eq_zero_iff, length_remainder, aligned]
    next inside =>
      by_cases beyond : 64 < message.length % 64 + data.length
      · rw [if_pos beyond, if_neg (by omega)]
        exact holds.appendFilling count0 count1 rfl rfl (by omega) (by omega)
      · rw [if_neg beyond]
        split
        next short =>
          rw [List.take_length]
          exact holds.appendShort count0 count1 rfl rfl short
        next => exact holds.appendFilling count0 count1 rfl rfl (Nat.le_refl _) (by omega)

/-- The digest of a state is the one of its message. -/
theorem finish (holds : state.Holds message) : state.finish = digest message := by
  have padding : pad.take ((119 - message.length % 64) % 64 + 1) =
      0x80 :: List.replicate ((119 - message.length % 64) % 64) 0 := by
    rw [pad, List.take_succ_cons, List.take_replicate, Nat.min_eq_left (by omega)]
  have ends := (holds.append (pad.take ((119 - message.length % 64) % 64 + 1))).append
    (wordBytes state.count0 ++ wordBytes state.count1)
  rw [State.finish, holds.zeros, ends.abcd, digest, padded, padding, holds.count0, holds.count1]

end State.Holds

end

/-- The text is the one of the digest, whatever is in the buffer. -/
theorem md5_eq {buf : Bytes} (room : buf.length = 64) (message : Bytes) :
    md5 buf message = hexText (digest message) := by
  rw [md5, ((holds_init room).append message).finish, List.nil_append]

example : md5 (List.replicate 64 0) [] =
    [68, 52, 49, 68, 56, 67, 68, 57, 56, 70, 48, 48, 66, 50, 48, 52, 69, 57, 56, 48, 48, 57, 57, 56, 69, 67, 70, 56,
      52, 50, 55, 69] := by
  decide +kernel

end MD5

end Util
end Umundo
