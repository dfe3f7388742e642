import Umundo.Util.DirectoryListing

namespace Umundo
namespace Util

open Foundation

/-!
# The parts of an entry's name

The extension of an entry is read off its name, and its segments are to be read off the name
of the directory.  The loop for the segments looks for a slash with a backslash behind it,
not for one of the two, and goes on from the position where it has found one.  So it finds the
same position again.  What it finds is assigned to segments that were never added.

A position is kept in an `int` of 32 bits.  Nothing found ends the loop, and so does a position
that is negative as an `int`.
-/

/-- The next slash with a backslash behind it, from some position on. -/
def findSeparatorFrom (dir : Bytes) (start : Nat) : Option Nat :=
  (findSeparator (dir.drop start)).map (· + start)

/-- Assign to a segment.  There is no segment at an index that was not added.  Whether a
program survives the assignment then is a parameter, `tolerant`. -/
def setSegments (tolerant : Bool) (index : Nat) (value : Bytes) (segments : List Bytes) :
    Option (List Bytes) :=
  check (index < segments.length ∨ tolerant = true) (some (segments.set index value))

/-- The variables of the loop over the segments. -/
structure Segmenting where
  start : Nat
  stop : Nat
  segment : Nat
  segments : List Bytes

/-- The loop over the segments.  It yields nothing if it has not ended after so many turns,
or if the program has ended before. -/
def segmentLoop (tolerant : Bool) (dir : Bytes) : Nat -> Segmenting -> Option (List Bytes)
  | 0, _ => none
  | turns + 1, now =>
      let stop := positionToInt (findSeparatorFrom dir now.stop)
      if 0 < stop then
        (setSegments tolerant now.segment ((dir.drop now.start).take stop.toNat) now.segments).bind fun segments =>
          segmentLoop tolerant dir turns ⟨stop.toNat, stop.toNat, now.segment + 1, segments⟩
      else
        some now.segments

/-- The description of a file, and its segments. -/
def DirectoryListingService.deriveEntry (service : DirectoryListingService) (tolerant : Bool) (turns : Nat)
    (fileName : Bytes) (fileStat : FileStat) : Option (DirectoryEntry × List Bytes) :=
  (segmentLoop tolerant service.dir turns ⟨0, 0, 0, []⟩).map (service.describe fileName fileStat, ·)

/-! ## The loop over the segments -/

section

variable {tolerant : Bool} {dir : Bytes}

/-- A search that starts before the first occurrence finds the first occurrence. -/
theorem findSeparatorFrom_of_le {position start : Nat} (found : findSeparator dir = some position)
    (before : start ≤ position) : findSeparatorFrom dir start = some position := by
  induction start generalizing dir position with
  | zero => simp [findSeparatorFrom, found]
  | succ start ih =>
      match dir, found with
      | first :: second :: rest, found =>
          rw [findSeparator] at found
          split at found
          next =>
            obtain rfl : 0 = position := Option.some.inj found
            exact absurd before (Nat.not_succ_le_zero start)
          next =>
            obtain ⟨inner, foundInner, rfl⟩ := Option.map_eq_some_iff.mp found
            obtain ⟨offset, foundOffset, atInner⟩ :=
              Option.map_eq_some_iff.mp (ih foundInner (Nat.le_of_succ_le_succ before))
            rw [findSeparatorFrom, List.drop_succ_cons, foundOffset, Option.map_some, ← Nat.add_assoc, atInner]

/-- The loop finds the first occurrence again and again. -/
theorem segmentLoop_of_endless (endless : Endless dir) (turns : Nat) {now : Segmenting}
    (before : forall position, findSeparator dir = some position -> now.stop ≤ position) :
    segmentLoop tolerant dir turns now = none := by
  induction turns generalizing now with
  | zero => rfl
  | succ turns ih =>
      cases found : findSeparator dir with
      | none =>
          rw [Endless, found] at endless
          exact absurd endless (by decide)
      | some position =>
          have again := findSeparatorFrom_of_le found (before position found)
          have ahead : (positionToInt (findSeparatorFrom dir now.stop)).toNat ≤ position := by
            rw [again, positionToInt, Int.toNat_le]
            exact toInt_natCast_le position
          have entered : 0 < positionToInt (findSeparatorFrom dir now.stop) := by
            rw [again, ← found]
            exact endless
          rw [segmentLoop, if_pos entered, Option.bind_eq_none_iff]
          intro segments _
          refine ih ?_
          intro other foundOther
          obtain rfl : position = other := Option.some.inj (found.symm.trans foundOther)
          exact ahead

/-- The loop is not entered, or it is never left. -/
theorem segmentLoop_eq_some_iff {turns : Nat} {segments : List Bytes} :
    segmentLoop tolerant dir (turns + 1) ⟨0, 0, 0, []⟩ = some segments <->
      ¬ Endless dir ∧ segments = [] := by
  have start : findSeparatorFrom dir 0 = findSeparator dir := by simp [findSeparatorFrom]
  by_cases endless : Endless dir
  · rw [segmentLoop_of_endless endless (turns + 1) (fun position _ => Nat.zero_le position)]
    simp [endless]
  · have notEntered : ¬ 0 < positionToInt (findSeparatorFrom dir 0) := by
      rw [start]
      exact endless
    rw [segmentLoop, if_neg notEntered, Option.some.injEq]
    simp only [endless, not_false_eq_true, true_and, eq_comm]

end

/-! ## What is to be derived -/

/-- The text behind the last dot, if there is a dot. -/
def IsExtension (fileName : Bytes) : Option Bytes -> Prop
  | some text => 46 ∉ text ∧ Exists fun before => fileName = before ++ 46 :: text
  | none => 46 ∉ fileName

/-- A slash or a backslash. -/
def isSeparator (byte : UInt8) : Bool := byte = 47 || byte = 92

/-- What stands between the separators of a path. -/
def components (path : Bytes) : List Bytes := (path.splitOnP isSeparator).filter (· ≠ [])

theorem components_eq_nil_iff (path : Bytes) :
    components path = [] <-> forall byte, byte ∈ path -> isSeparator byte = true := by
  induction path with
  | nil => simp [components]
  | cons byte rest ih =>
      rw [components, List.splitOnP_cons_eq_if_modifyHead]
      split
      next separator =>
        rw [List.filter_cons_of_neg (by simp), List.forall_mem_cons]
        simp only [separator, true_and]
        exact ih
      next other =>
        refine iff_of_false ?_ (fun all => other (all byte List.mem_cons_self))
        obtain ⟨first, more, parts⟩ := List.exists_cons_of_ne_nil (List.splitOnP_ne_nil isSeparator rest)
        simp [parts]

theorem findIdx?_dot_of_not_mem {text : Bytes} (undotted : 46 ∉ text) :
    text.reverse.findIdx? (· == 46) = none := by
  rw [List.findIdx?_eq_none_iff]
  intro byte member
  exact beq_eq_false_iff_ne.mpr fun dot => undotted (dot ▸ List.mem_reverse.mp member)

theorem extension_of_not_mem {fileName : Bytes} (undotted : 46 ∉ fileName) :
    extension fileName = some fileName := by
  rw [extension, findIdx?_dot_of_not_mem undotted]

theorem extension_append {before text : Bytes} (undotted : 46 ∉ text) :
    extension (before ++ 46 :: text) = if before = [] then none else some text := by
  have last : (before ++ 46 :: text).reverse.findIdx? (· == 46) = some text.length := by
    rw [List.reverse_append, List.reverse_cons, List.append_assoc, List.findIdx?_append,
      findIdx?_dot_of_not_mem undotted]
    simp [List.findIdx?_cons]
  have whole : text.length + 1 = (before ++ 46 :: text).length <-> before = [] := by
    rw [List.length_append, List.length_cons, ← List.length_eq_zero_iff]
    omega
  have behind : (before ++ 46 :: text).length - text.length = (before ++ [46]).length := by
    simp only [List.length_append, List.length_cons, List.length_nil]
    omega
  rw [extension, last]
  simp only [whole]
  rw [behind, List.append_cons before 46 text, List.drop_left]

/-- The extension is right if there is a dot, and not only in front. -/
theorem isExtension_extension_iff (fileName : Bytes) :
    IsExtension fileName (extension fileName) <-> 46 ∈ fileName.tail := by
  by_cases dotted : 46 ∈ fileName
  · obtain ⟨after, before, same, undotted⟩ := List.eq_append_cons_of_mem (List.mem_reverse.mpr dotted)
    have parts : fileName = before.reverse ++ 46 :: after.reverse := by
      rw [← List.reverse_reverse fileName, same]
      simp
    have last : 46 ∉ after.reverse := fun member => undotted (List.mem_reverse.mp member)
    rw [parts, extension_append last]
    cases before.reverse with
    | nil => exact iff_of_false (fun right => right List.mem_cons_self) last
    | cons byte more => exact iff_of_true ⟨last, _, rfl⟩ (by simp)
  · rw [extension_of_not_mem dotted]
    refine iff_of_false ?_ (fun member => dotted (List.mem_of_mem_tail member))
    rintro ⟨_, before, same⟩
    exact dotted (same ▸ by simp)

namespace DirectoryListingService

variable (service : DirectoryListingService) (tolerant : Bool) (fileName : Bytes) (fileStat : FileStat)

/-- A file is described without segments, or the loop is never left. -/
theorem exists_deriveEntry_iff {entry : DirectoryEntry} {segments : List Bytes} :
    (Exists fun turns => service.deriveEntry tolerant turns fileName fileStat = some (entry, segments)) <->
      service.statToEntry fileName fileStat = some entry ∧ segments = [] := by
  rw [statToEntry, check, Option.ite_none_right_eq_some, Option.some.injEq]
  constructor
  · rintro ⟨_ | turns, ends⟩
    · cases ends
    · obtain ⟨_, left, same⟩ := Option.map_eq_some_iff.mp ends
      obtain ⟨leaves, rfl⟩ := segmentLoop_eq_some_iff.mp left
      cases same
      exact ⟨⟨leaves, rfl⟩, rfl⟩
  · rintro ⟨⟨leaves, rfl⟩, rfl⟩
    refine ⟨1, ?_⟩
    rw [deriveEntry, segmentLoop_eq_some_iff.mpr ⟨leaves, rfl⟩, Option.map_some]

/-- A file is described and its parts are right if the loop ends, the name has a dot that
does not come first, and the directory has no components. -/
theorem entry_derived_iff :
    (Exists fun turns => Ensures (service.deriveEntry tolerant turns fileName fileStat) fun derived =>
      IsExtension fileName derived.1.extension ∧ derived.2 = components service.dir) <->
      ¬ Endless service.dir ∧ 46 ∈ fileName.tail ∧
        forall byte, byte ∈ service.dir -> isSeparator byte = true := by
  rw [← components_eq_nil_iff, ← isExtension_extension_iff]
  constructor
  · rintro ⟨turns, ⟨entry, segments⟩, ends, right, same⟩
    obtain ⟨described, unsegmented⟩ := (service.exists_deriveEntry_iff tolerant fileName fileStat).mp ⟨turns, ends⟩
    obtain ⟨leaves, described⟩ := Option.ite_none_right_eq_some.mp described
    cases described
    exact ⟨leaves, right, same.symm.trans unsegmented⟩
  · rintro ⟨leaves, right, empty⟩
    have described : service.statToEntry fileName fileStat = some (service.describe fileName fileStat) :=
      check_of leaves _
    obtain ⟨turns, ends⟩ := (service.exists_deriveEntry_iff tolerant fileName fileStat).mpr ⟨described, rfl⟩
    exact ⟨turns, _, ends, right, empty.symm⟩

/-- A file `README` in `/tmp` has its whole name as an extension and no segments, and in a
directory `a/\` it is never described. -/
theorem entry_not_derived :
    (forall tolerant, (DirectoryListingService.mk [47, 116, 109, 112] (fun _ => true) 0 ∅).deriveEntry tolerant 1
        [82, 69, 65, 68, 77, 69] (.regular 5 1) =
      some (⟨[82, 69, 65, 68, 77, 69], .file, [47, 116, 109, 112], 5, some [82, 69, 65, 68, 77, 69],
        0, 0, 1000, 0⟩, [])) ∧
    components [47, 116, 109, 112] = [[116, 109, 112]] ∧
    forall tolerant turns, (DirectoryListingService.mk [97, 47, 92] (fun _ => true) 0 ∅).deriveEntry tolerant turns
      [82, 69, 65, 68, 77, 69] (.regular 5 1) = none := by
  refine ⟨fun _ => rfl, by decide, ?_⟩
  intro tolerant turns
  have endless : Endless [97, 47, 92] := by decide
  rw [deriveEntry, segmentLoop_of_endless endless turns (fun position _ => Nat.zero_le position), Option.map_none]

end DirectoryListingService

end Util
end Umundo
