import Umundo.Util.DirectoryListing
import Umundo.Util.MD5

namespace Umundo
namespace Util

open Foundation

/-!
# Retrieving a file

The size of a file is asked for under its name, which is relative to the working directory of
the process.  The file is read under its name in the directory of the service.  The size is
64 bits wide in one place and 32 bits in another.  A file that cannot be opened or read leaves
a null pointer, which is used like a buffer.

What the operating system answers is an input.  A program that reads behind the bytes of a
buffer, or from a null pointer, ends here.
-/

/-- A size in `off_t`. -/
abbrev FileSize := Fin 0x8000000000000000

/-- A file that was opened, and the bytes that can be read before an error. -/
structure Stream where
  bytes : Bytes
  readable : Bytes
  begins : readable <+: bytes

/-- What the operating system says during a request, under absolute names. -/
structure System where
  cwd : Bytes
  stat : Bytes -> Option FileSize
  fopen : Bytes -> Option Stream
  /-- is there so much memory? -/
  malloc : Nat -> Bool
  /-- the memory of a digest that is not initialized -/
  stack : Bytes
  room : stack.length = 64

/-- The absolute name of a file. -/
def System.resolve (system : System) (path : Bytes) : Bytes :=
  if path.head? = some 47 then path else system.cwd ++ 47 :: path

structure DirectoryEntryContent where
  content : Option Bytes
  md5 : Option Bytes
deriving DecidableEq

/-- What was used as the content of a reply: the bytes in the buffer, unless it is `NULL`, and
the sizes that were passed along. -/
structure Usage where
  buffer : Option Bytes
  contentSize : Nat
  md5Size : Nat
deriving DecidableEq

structure Retrieval where
  reply : DirectoryEntryContent
  usage : Option Usage
deriving DecidableEq

/-- Read so many bytes from a pointer. -/
def bytesAt : Option Bytes -> Nat -> Option Bytes
  | some bytes, count => check (count ≤ bytes.length) (some (bytes.take count))
  | none, count => check (count = 0) (some [])

/-- The digest of so many bytes, as many as an `int` holds. -/
def System.md5 (system : System) (data : Option Bytes) (length : Nat) : Option Bytes :=
  (bytesAt data (toInt length).toNat).map (MD5.md5 system.stack)

namespace DirectoryListingService

variable (service : DirectoryListingService) (system : System)

def absFilename (fileName : CString) : Bytes :=
  system.resolve ((CString.ofBytes service.dir).bytes ++ 47 :: fileName.bytes)

/-- Read a file into a buffer of some size.  The result is `NULL` if that is impossible, or if
there is no memory for it. -/
def readFileIntoBuffer (fileName : CString) (size : Int) : Option (Option Bytes) :=
  let allocated := system.malloc (size % 0x10000000000000000).toNat
  match system.fopen (service.absFilename system fileName) with
  | none => some none
  | some stream =>
      if 0 < size then
        -- Nothing can be read into a buffer that is not there.
        check (allocated = true)
          (let read := stream.readable.take size.toNat
          some (if read.length = size.toNat then some read else none))
      else
        some (if allocated then some [] else none)

/-- Answer a request for a file. -/
def get (name : Bytes) : Option Retrieval :=
  let fileName := CString.ofBytes name
  match system.stat (system.resolve fileName.bytes) with
  | none => some ⟨⟨none, none⟩, none⟩
  | some size =>
      (service.readFileIntoBuffer system fileName (toInt size.val)).bind fun buffer =>
        (bytesAt buffer size).bind fun content =>
          (system.md5 buffer size).map fun digest =>
            ⟨⟨some content, some digest⟩, some ⟨buffer, size, size⟩⟩

/-! ## All or nothing -/

/-- A file that can be examined, opened and read. -/
def Retrievable (system : System) (path : Bytes) : Prop :=
  (system.stat path).isSome ∧ Exists fun stream => system.fopen path = some stream ∧ stream.readable = stream.bytes

/-- The reply is empty because the file cannot be retrieved, or it is the file with its digest;
and what is used as content is in a buffer. -/
structure AllOrNothing (name : Bytes) (retrieval : Retrieval) : Prop where
  reply : (¬ Retrievable system (service.absFilename system (.ofBytes name)) ∧ retrieval.reply = ⟨none, none⟩) ∨
    Exists fun stream => system.fopen (service.absFilename system (.ofBytes name)) = some stream ∧
      retrieval.reply = ⟨some stream.bytes, some (MD5.hexText (MD5.digest stream.bytes))⟩
  usage : forall usage, retrieval.usage = some usage -> Exists fun bytes => usage.buffer = some bytes ∧
    usage.contentSize = bytes.length ∧ usage.md5Size = bytes.length

variable {service system}

theorem readFileIntoBuffer_eq_some_iff {fileName : CString} {size : Int} {bytes : Bytes} :
    service.readFileIntoBuffer system fileName size = some (some bytes) <->
      Exists fun stream => system.fopen (service.absFilename system fileName) = some stream ∧
        system.malloc (size % 0x10000000000000000).toNat = true ∧
          bytes = stream.readable.take size.toNat ∧ bytes.length = size.toNat := by
  rw [readFileIntoBuffer]
  cases opened : system.fopen (service.absFilename system fileName) with
  | none => simp
  | some stream =>
      simp only [Option.some.injEq, exists_eq_left']
      by_cases allocated : system.malloc (size % 0x10000000000000000).toNat = true
      · rw [check_of allocated]
        split
        next positive =>
          simp only [Option.some.injEq, Option.ite_none_right_eq_some, allocated, true_and]
          constructor
          · rintro ⟨length, rfl⟩
            exact ⟨rfl, length⟩
          · rintro ⟨rfl, length⟩
            exact ⟨length, rfl⟩
        next nothing =>
          have none : size.toNat = 0 := Int.toNat_of_nonpos (Int.not_lt.mp nothing)
          simp only [Option.some.injEq, allocated, none, List.take_zero, true_and]
          constructor
          · rintro rfl
            exact ⟨rfl, rfl⟩
          · rintro ⟨rfl, _⟩
            rfl
      · rw [check_of_not allocated]
        simp [allocated]

theorem bytesAt_length (bytes : Bytes) : bytesAt (some bytes) bytes.length = some bytes := by
  rw [bytesAt, check_of (Nat.le_refl _), List.take_length]

/-- A buffer that holds as many bytes as it is used for is used as the content. -/
theorem get_of_buffer {name bytes : Bytes} {size : FileSize}
    (examined : system.stat (system.resolve (CString.ofBytes name).bytes) = some size)
    (read : service.readFileIntoBuffer system (.ofBytes name) (toInt size.val) = some (some bytes))
    (length : bytes.length = size) (small : size.val < 0x80000000) :
    service.get system name =
      some ⟨⟨some bytes, some (MD5.hexText (MD5.digest bytes))⟩, some ⟨some bytes, size, size⟩⟩ := by
  have digest : system.md5 (some bytes) size = some (MD5.hexText (MD5.digest bytes)) := by
    rw [System.md5, toInt_of_lt small, Int.toNat_natCast, ← length, bytesAt_length, Option.map_some,
      MD5.md5_eq system.room]
  rw [get, examined]
  dsimp only
  rw [read, Option.bind_some, ← length, bytesAt_length, Option.bind_some, length, digest, Option.map_some]

theorem malloc_natCast (size : FileSize) :
    system.malloc ((size.val : Int) % 0x10000000000000000).toNat = system.malloc size.val := by
  have small := size.isLt
  rw [Int.emod_eq_of_lt (by omega) (by omega), Int.toNat_natCast]

/-- Where the name is examined, the reply is right if a file of that size is there to be read. -/
theorem allOrNothing_of_examined_iff {name : Bytes} {size : FileSize}
    (examined : system.stat (system.resolve (CString.ofBytes name).bytes) = some size) :
    Ensures (service.get system name) (service.AllOrNothing system name) <->
      size.val < 0x80000000 ∧ system.malloc size = true ∧
        Exists fun stream => system.fopen (service.absFilename system (.ofBytes name)) = some stream ∧
          stream.readable = stream.bytes ∧ stream.bytes.length = size := by
  constructor
  · rintro ⟨retrieval, ends, right⟩
    rw [get, examined] at ends
    obtain ⟨buffer, read, ends⟩ := Option.bind_eq_some_iff.mp ends
    obtain ⟨content, handed, ends⟩ := Option.bind_eq_some_iff.mp ends
    obtain ⟨digest, _, rfl⟩ := Option.map_eq_some_iff.mp ends
    obtain ⟨bytes, rfl, length, _⟩ := right.usage _ rfl
    obtain ⟨stream, opened, allocated, taken, count⟩ := readFileIntoBuffer_eq_some_iff.mp read
    have length : size.val = bytes.length := length
    have small : size.val < 0x80000000 := by
      have := toInt_lt size.val
      omega
    rw [toInt_of_lt small, malloc_natCast] at allocated
    obtain ⟨_, reply⟩ | ⟨other, openedOther, reply⟩ := right.reply
    · cases reply
    · obtain rfl : stream = other := Option.some.inj (opened.symm.trans openedOther)
      have exactly : content = stream.bytes := Option.some.inj (congrArg DirectoryEntryContent.content reply)
      have whole : bytes = stream.bytes := by
        rw [length, bytesAt_length] at handed
        exact (Option.some.inj handed).trans exactly
      refine ⟨small, allocated, stream, opened, stream.begins.eq_of_length_le ?_, ?_⟩
      · rw [← whole, taken]
        exact List.length_take_le' _ _
      · rw [← whole, length]
  · rintro ⟨small, allocated, stream, opened, whole, length⟩
    have read : service.readFileIntoBuffer system (.ofBytes name) (toInt size.val) = some (some stream.bytes) := by
      rw [readFileIntoBuffer_eq_some_iff, toInt_of_lt small]
      refine ⟨stream, opened, ?_, ?_, ?_⟩
      · rw [malloc_natCast]
        exact allocated
      · rw [whole, Int.toNat_natCast, ← length, List.take_length]
      · rw [Int.toNat_natCast, length]
    refine ⟨_, get_of_buffer examined read length small, .inr ⟨stream, opened, rfl⟩, ?_⟩
    rintro _ ⟨⟩
    exact ⟨stream.bytes, rfl, length.symm, length.symm⟩

/-- Retrieving a file is all or nothing if the name stands for a file of that size in both
directories and the file fits into the buffer, or for a file in neither of them. -/
theorem retrieved_iff (service : DirectoryListingService) (system : System) (name : Bytes) :
    Ensures (service.get system name) (service.AllOrNothing system name) <->
      (system.stat (system.resolve (CString.ofBytes name).bytes) = none ∧
        ¬ Retrievable system (service.absFilename system (.ofBytes name))) ∨
      Exists fun size => system.stat (system.resolve (CString.ofBytes name).bytes) = some size ∧
        size.val < 0x80000000 ∧ system.malloc size = true ∧
          Exists fun stream => system.fopen (service.absFilename system (.ofBytes name)) = some stream ∧
            stream.readable = stream.bytes ∧ stream.bytes.length = size := by
  cases examined : system.stat (system.resolve (CString.ofBytes name).bytes) with
  | none =>
      have empty : service.get system name = some ⟨⟨none, none⟩, none⟩ := by rw [get, examined]
      simp only [true_and, reduceCtorEq, false_and, exists_false, or_false]
      constructor
      · rintro ⟨retrieval, ends, right⟩
        obtain rfl := Option.some.inj (empty.symm.trans ends)
        obtain ⟨missing, _⟩ | ⟨_, _, reply⟩ := right.reply
        · exact missing
        · cases reply
      · intro missing
        refine ⟨_, empty, .inl ⟨missing, rfl⟩, ?_⟩
        rintro usage ⟨⟩
  | some size =>
      rw [allOrNothing_of_examined_iff examined]
      simp

/-- A system with one file `/d/a`, of so many bytes, which the process may not open unless it is
allowed to. -/
def singleFile (cwd : Bytes) (size : FileSize) (allowed : Bool) : System where
  cwd := cwd
  stat path := if path = [47, 100, 47, 97] then some size else none
  fopen path :=
    if path = [47, 100, 47, 97] ∧ allowed = true then
      some ⟨List.replicate size 1, List.replicate size 1, List.prefix_rfl⟩
    else none
  malloc _ := true
  stack := List.replicate 64 0
  room := List.length_replicate

/-- The file `/d/a` can be retrieved, but a process in `/` looks for `/a` and replies with
nothing.  In `/d` it replies with a null pointer if it may not open an empty file, and a file of
more than `2 ^ 32` bytes ends the program. -/
theorem retrieval_fails :
    ((DirectoryListingService.mk [47, 100] (fun _ => true) 0 ∅).get (singleFile [] 3 true) [97] =
        some ⟨⟨none, none⟩, none⟩ ∧
      Retrievable (singleFile [] 3 true) [47, 100, 47, 97]) ∧
    ((DirectoryListingService.mk [47, 100] (fun _ => true) 0 ∅).get (singleFile [47, 100] 0 false) [97]).map
        (fun retrieval => (retrieval.reply.content, retrieval.usage)) = some (some [], some ⟨none, 0, 0⟩) ∧
    (DirectoryListingService.mk [47, 100] (fun _ => true) 0 ∅).get (singleFile [47, 100] 0x100000003 true) [97] =
      none := by
  exact ⟨⟨by decide +kernel, by decide, _, rfl, rfl⟩, by decide +kernel, by decide +kernel⟩

end DirectoryListingService

end Util
end Umundo
