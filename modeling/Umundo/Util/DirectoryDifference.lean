import Mathlib.Data.List.Nodup
import Umundo.Util.DirectoryChanges
import Umundo.Util.DirectoryMirror

namespace Umundo
namespace Util

open Foundation Std

/-!
# What a scan reports

A scan compares the files that it knows with those in the directory, and reports what is
new, what was modified and what is gone.  It reports exactly the difference if it ends and
if no file is taken for a directory.

It does not end in two cases.  Every report describes a file, which is impossible for some
names of directories.  And when a file is gone, the loop goes on from an iterator to an
entry that was erased.
-/

/-! ## A directory as a table -/

namespace Listing

variable (keep : Bytes -> FileStat -> Prop) [forall name fileStat, Decidable (keep name fileStat)]

/-- An entry whose `stat` succeeds and that is kept. -/
def kept (entry : Bytes × Option FileStat) : Option (Bytes × FileStat) :=
  entry.2.bind fun fileStat => if keep entry.1 fileStat then some (entry.1, fileStat) else none

theorem kept_eq_some_iff (entry : Bytes × Option FileStat) (pair : Bytes × FileStat) :
    kept keep entry = some pair <-> entry = (pair.1, some pair.2) ∧ keep pair.1 pair.2 := by
  obtain ⟨dname, answer⟩ := entry
  obtain ⟨name, shown⟩ := pair
  cases answer with
  | none => simp [kept]
  | some fileStat =>
      simp only [kept, Option.bind_some, Option.ite_none_right_eq_some, Option.some.injEq, Prod.mk.injEq]
      constructor
      · rintro ⟨keeps, rfl, rfl⟩
        exact ⟨⟨rfl, rfl⟩, keeps⟩
      · rintro ⟨⟨rfl, rfl⟩, keeps⟩
        exact ⟨keeps, rfl, rfl⟩

/-- The files of a directory that are kept. -/
def table (listing : Listing) : Table Bytes FileStat :=
  ExtTreeMap.ofList (listing.entries.filterMap (kept keep))

theorem getElem?_table (listing : Listing) (name : Bytes) (fileStat : FileStat) :
    (listing.table keep)[name]? = some fileStat <->
      (name, some fileStat) ∈ listing.entries ∧ keep name fileStat := by
  have different : ((listing.entries.filterMap (kept keep)).map Prod.fst).Nodup := by
    refine List.pairwise_map.mpr ((List.pairwise_map.mp listing.nodup).filterMap _ ?_)
    intro first second apart pair isFirst pair' isSecond same
    rw [((kept_eq_some_iff keep first pair).mp isFirst).1,
      ((kept_eq_some_iff keep second pair').mp isSecond).1] at apart
    exact apart same
  rw [table, Table.getElem?_ofList_eq_some_iff (Table.distinct_of_nodup different), List.mem_filterMap]
  simp only [kept_eq_some_iff]
  constructor
  · rintro ⟨_, member, rfl, keeps⟩
    exact ⟨member, keeps⟩
  · rintro ⟨member, keeps⟩
    exact ⟨_, member, rfl, keeps⟩

end Listing

namespace DirectoryListingService

variable {service : DirectoryListingService} {forgiving : Bool}

/-- A file that is to be known: no directory, and accepted by the filter. -/
def Wants (service : DirectoryListingService) (name : Bytes) (fileStat : FileStat) : Prop :=
  ¬ fileStat.IsDirectory ∧ service.filter name = true

instance (name : Bytes) (fileStat : FileStat) : Decidable (service.Wants name fileStat) :=
  inferInstanceAs (Decidable (¬ fileStat.mode &&& S_IFMT = S_IFDIR ∧ service.filter name = true))

/-- The files in a directory that are to be known. -/
def snapshot (service : DirectoryListingService) (listing : Listing) : Table Bytes FileStat :=
  listing.table service.Wants

/-- A table of the files that a scan lists. -/
def Tabulates (service : DirectoryListingService) (listing : Listing) (files : Table Bytes FileStat) : Prop :=
  forall (name : Bytes) (fileStat : FileStat), service.Lists listing.entries name fileStat <->
    files[name]? = some fileStat

theorem tabulates_interested (listing : Listing) : service.Tabulates listing (listing.table service.Interested) :=
  fun name fileStat => (listing.getElem?_table service.Interested name fileStat).symm

/-- Every file that the filter accepts is a directory or is not taken for one. -/
def Plain (service : DirectoryListingService) (listing : Listing) : Prop :=
  forall (name : Bytes) (fileStat : FileStat), (name, some fileStat) ∈ listing.entries ->
    service.filter name = true -> fileStat.Plain

/-- A scan lists the files in the directory exactly if none is taken for a directory. -/
theorem tabulates_snapshot_iff (listing : Listing) :
    service.Tabulates listing (service.snapshot listing) <-> service.Plain listing := by
  simp only [Tabulates, snapshot, Listing.getElem?_table, Lists, and_congr_right_iff]
  constructor
  · intro same name fileStat member accepted
    by_cases directory : fileStat.IsDirectory
    · exact .inr directory
    · exact .inl ((same name fileStat member).mpr ⟨directory, accepted⟩).1
  · intro plain name fileStat member
    constructor
    · rintro ⟨bit, accepted⟩
      have usual := (plain name fileStat member accepted).isDirectory_iff
      exact ⟨fun directory => usual.mp directory bit, accepted⟩
    · rintro ⟨other, accepted⟩
      have usual := (plain name fileStat member accepted).isDirectory_iff
      exact ⟨not_not.mp fun bit => other (usual.mpr bit), accepted⟩

/-! ## When a scan ends -/

/-- The difference between what is known and the files there are. -/
inductive Due (service : DirectoryListingService) (files : Table Bytes FileStat) : Notification -> Prop
  | added {name : Bytes} {fileStat : FileStat} (there : files[name]? = some fileStat)
      (new : name ∉ service.knownEntries) : Due service files ⟨.added, service.describe name fileStat⟩
  | modified {name : Bytes} {oldStat fileStat : FileStat}
      (known : service.knownEntries[name]? = some oldStat) (there : files[name]? = some fileStat)
      (later : oldStat.mtime < fileStat.mtime) :
      Due service files ⟨.modified, service.describe name fileStat⟩
  | removed {name : Bytes} {oldStat : FileStat} (known : service.knownEntries[name]? = some oldStat)
      (absent : name ∉ files) : Due service files ⟨.removed, service.describe name oldStat⟩

section

variable {listing : Listing} {files : Table Bytes FileStat}

theorem Tabulates.mem_iff (tabulates : service.Tabulates listing files) (name : Bytes) :
    (Exists fun fileStat => service.Lists listing.entries name fileStat) <-> name ∈ files := by
  simp only [tabulates name]
  exact ⟨fun ⟨_, found⟩ => Table.mem_of_getElem? found, Table.getElem?_of_mem⟩

theorem Tabulates.present_iff (tabulates : service.Tabulates listing files) :
    service.Present listing <-> forall name, name ∈ service.knownEntries -> name ∈ files := by
  simp only [Present, tabulates.mem_iff]

/-- What is reported while the directory is read. -/
theorem Tabulates.mem_reports_iff (tabulates : service.Tabulates listing files) (notification : Notification) :
    notification ∈ listing.entries.flatMap (service.reports service.knownEntries) <->
      notification.operation ≠ .removed ∧ service.Due files notification := by
  rw [List.mem_flatMap]
  constructor
  · rintro ⟨⟨dname, answer⟩, member, reported⟩
    cases answer with
    | none => cases reported
    | some fileStat =>
        rw [reports] at reported
        split at reported
        next interested =>
          have there := (tabulates dname fileStat).mp ⟨member, interested⟩
          split at reported
          next oldStat known =>
            split at reported
            next later =>
              cases List.mem_singleton.mp reported
              exact ⟨Operation.noConfusion, .modified known there later⟩
            next => cases reported
          next unknown =>
            cases List.mem_singleton.mp reported
            exact ⟨Operation.noConfusion, .added there (Table.not_mem_of_getElem? unknown)⟩
        next => cases reported
  · rintro ⟨kind, due⟩
    cases due with
    | @added name fileStat there new =>
        obtain ⟨member, interested⟩ := (tabulates name fileStat).mpr there
        refine ⟨_, member, ?_⟩
        rw [reports, if_pos interested, ExtTreeMap.getElem?_eq_none new]
        exact List.mem_singleton.mpr rfl
    | @modified name oldStat fileStat known there later =>
        obtain ⟨member, interested⟩ := (tabulates name fileStat).mpr there
        refine ⟨_, member, ?_⟩
        rw [reports, if_pos interested, known]
        dsimp only
        rw [if_pos later]
        exact List.mem_singleton.mpr rfl
    | removed => exact absurd rfl kind

/-- A scan ends if what there is to report can be reported and if nothing is gone, or the
iterator is forgiving. -/
theorem Tabulates.ends_iff (tabulates : service.Tabulates listing files) :
    (Exists fun last => service.readEntries forgiving listing = some last) <->
      (forgiving = true ∨ forall name, name ∈ service.knownEntries -> name ∈ files) ∧
        (¬ Endless service.dir ∨ forall notification, ¬ service.Due files notification) := by
  have reported : listing.entries.flatMap (service.reports service.knownEntries) = [] ∧
      service.Present listing <-> forall notification, ¬ service.Due files notification := by
    rw [List.eq_nil_iff_forall_not_mem]
    simp only [tabulates.mem_reports_iff, tabulates.present_iff]
    constructor
    · rintro ⟨silent, present⟩ notification due
      by_cases kind : notification.operation = .removed
      · cases due with
        | removed known absent => exact absent (present _ (Table.mem_of_getElem? known))
        | added | modified => cases kind
      · exact silent notification ⟨kind, due⟩
    · intro undue
      refine ⟨fun notification reported => undue notification reported.2, fun name known => ?_⟩
      obtain ⟨oldStat, stored⟩ := Table.getElem?_of_mem known
      exact not_not.mp fun absent => undue _ (.removed stored absent)
  rw [← reported, ← tabulates.present_iff]
  constructor
  · rintro ⟨last, ends⟩
    obtain ⟨quiet, safe⟩ := readEntries_ends listing last ends
    rcases safe with present | ⟨named, forgives⟩
    · exact ⟨.inr present, quiet.imp_right fun silent => ⟨silent, present⟩⟩
    · exact ⟨.inl forgives, .inl named⟩
  · rintro ⟨safe, possible⟩
    have readable : service.Readable forgiving listing := by
      refine ⟨possible.imp_right And.left, ?_⟩
      rcases possible with named | ⟨_, present⟩
      · exact safe.symm.imp_right fun forgives => ⟨named, forgives⟩
      · exact .inl present
    obtain ⟨last, ends, _⟩ := readEntries_spec readable
    exact ⟨last, ends⟩

/-! ## What was reported -/

/-- The notifications of a scan are the difference, each of them once, and the scan knows
the files there are. -/
structure Difference (service : DirectoryListingService) (files : Table Bytes FileStat)
    (sent : List Notification) (known : Table Bytes FileStat) : Prop where
  nodup : sent.Nodup
  due : forall notification, notification ∈ sent <-> service.Due files notification
  known : known = files

theorem nodup_removed {entries : List (Bytes × FileStat)} (nodup : (entries.map Prod.fst).Nodup) :
    (entries.map fun entry => (⟨.removed, service.describe entry.1 entry.2⟩ : Notification)).Nodup := by
  refine List.Nodup.of_map (fun notification => notification.entry.name) ?_
  rw [List.map_map]
  exact nodup

section

variable {middle : Scanning} (tabulates : service.Tabulates listing files)
  (visited : service.Visited listing.entries ⟨service.knownEntries, ∅, []⟩ middle)

include tabulates visited

/-- What is known after all entries were seen: the files, and those that are gone. -/
theorem Visited.known_iff (name : Bytes) :
    (name ∈ middle.currEntries <-> name ∈ files) ∧
      middle.knownEntries[name]? =
        if name ∈ files then files[name]? else service.knownEntries[name]? := by
  have listed := tabulates.mem_iff name
  refine ⟨?_, Option.ext fun fileStat => ?_⟩
  · rw [visited.curr, or_iff_right ExtTreeSet.not_mem_empty, listed]
  · rw [visited.known, tabulates name]
    split
    next there =>
      refine or_iff_left fun unlisted => ?_
      obtain ⟨other, lists⟩ := listed.mpr there
      exact unlisted.1 other lists
    next absent =>
      have unlisted (other : FileStat) : ¬ service.Lists listing.entries name other :=
        fun lists => absent (listed.mp ⟨other, lists⟩)
      rw [ExtTreeMap.getElem?_eq_none absent]
      simp [unlisted]

/-- Known files are gone if they are not there. -/
theorem Visited.mem_gone_iff (name : Bytes) (oldStat : FileStat) :
    (name, oldStat) ∈ gone middle.currEntries middle.knownEntries.toList <->
      service.knownEntries[name]? = some oldStat ∧ name ∉ files := by
  obtain ⟨current, known⟩ := visited.known_iff tabulates name
  rw [gone, List.mem_filter, ExtTreeMap.mem_toList_iff_getElem?_eq_some, decide_eq_true_eq, current, known]
  refine and_congr_left fun absent => ?_
  rw [if_neg absent]

/-- When they are erased, what is known are the files. -/
theorem Visited.eraseAll_gone :
    middle.knownEntries.eraseAll ((gone middle.currEntries middle.knownEntries.toList).map Prod.fst) = files := by
  refine ExtTreeMap.ext_getElem? fun name => ?_
  have erased : name ∈ (gone middle.currEntries middle.knownEntries.toList).map Prod.fst <->
      name ∈ service.knownEntries ∧ name ∉ files := by
    rw [List.mem_map]
    constructor
    · rintro ⟨⟨_, oldStat⟩, member, rfl⟩
      obtain ⟨stored, absent⟩ := (visited.mem_gone_iff tabulates _ oldStat).mp member
      exact ⟨Table.mem_of_getElem? stored, absent⟩
    · rintro ⟨stored, absent⟩
      obtain ⟨oldStat, found⟩ := Table.getElem?_of_mem stored
      exact ⟨(name, oldStat), (visited.mem_gone_iff tabulates name oldStat).mpr ⟨found, absent⟩, rfl⟩
  rw [Table.getElem?_eraseAll, (visited.known_iff tabulates name).2]
  simp only [erased]
  by_cases there : name ∈ files
  · rw [if_neg fun missing => missing.2 there, if_pos there]
  · rw [if_neg there, ExtTreeMap.getElem?_eq_none there]
    by_cases stored : name ∈ service.knownEntries
    · rw [if_pos ⟨stored, there⟩]
    · rw [if_neg fun missing => stored missing.1, ExtTreeMap.getElem?_eq_none stored]

end

/-- A scan that ends has reported the difference. -/
theorem Tabulates.difference (tabulates : service.Tabulates listing files) :
    Yields (service.readEntries forgiving listing) fun last =>
      service.Difference files last.sent last.knownEntries := by
  intro last ends
  obtain ⟨_, middle, visited, sweeps⟩ := exists_visited ends
  rw [sweeps_eq, check, Option.ite_none_right_eq_some] at sweeps
  cases sweeps.2
  have missing := visited.mem_gone_iff tabulates
  have reported := tabulates.mem_reports_iff
  refine ⟨?_, fun notification => ?_, visited.eraseAll_gone tabulates⟩
  · dsimp only
    rw [visited.sent, List.nil_append]
    refine List.Nodup.append (.of_map _ (service.nodup_reports listing)) (nodup_removed ?_) ?_
    · refine List.Nodup.sublist (List.filter_sublist.map _) ?_
      rw [ExtTreeMap.map_fst_toList_eq_keys]
      exact Table.nodup_keys _
    · intro notification early late
      obtain ⟨entry, _, rfl⟩ := List.mem_map.mp late
      exact ((reported _).mp early).1 rfl
  · dsimp only
    rw [visited.sent, List.nil_append, List.mem_append, reported, List.mem_map]
    constructor
    · rintro (⟨_, due⟩ | ⟨⟨name, oldStat⟩, member, rfl⟩)
      · exact due
      · obtain ⟨stored, absent⟩ := (missing name oldStat).mp member
        exact .removed stored absent
    · intro due
      cases due with
      | added there new => exact .inl ⟨Operation.noConfusion, .added there new⟩
      | modified stored there later => exact .inl ⟨Operation.noConfusion, .modified stored there later⟩
      | removed stored absent => exact .inr ⟨_, (missing _ _).mpr ⟨stored, absent⟩, rfl⟩

end

/-! ## Scans -/

/-- A scan that is executed reports exactly the difference between what is known and the
files in the directory, exactly if no file is taken for a directory, no file is gone or the
iterator is forgiving, and the difference can be reported. -/
theorem scan_difference_iff {scan : Scan} {listing : Listing} (executed : service.reads scan = some listing) :
    (Ensures (service.updateEntries forgiving scan) fun result =>
        service.Difference (service.snapshot listing) result.2 result.1.knownEntries) <->
      service.Plain listing ∧
        (forgiving = true ∨
          forall name, name ∈ service.knownEntries -> name ∈ service.snapshot listing) ∧
        (¬ Endless service.dir ∨
          forall notification, ¬ service.Due (service.snapshot listing) notification) := by
  rw [updateEntries_eq, executed]
  dsimp only
  constructor
  · rintro ⟨result, ends, difference⟩
    obtain ⟨last, read, rfl⟩ := Option.map_eq_some_iff.mp ends
    have listed := ((tabulates_interested listing).difference last read).known
    have tabulates : service.Tabulates listing (service.snapshot listing) := by
      rw [← difference.known, listed]
      exact tabulates_interested listing
    exact ⟨(tabulates_snapshot_iff listing).mp tabulates, tabulates.ends_iff.mp ⟨last, read⟩⟩
  · rintro ⟨plain, possible⟩
    have tabulates := (tabulates_snapshot_iff listing).mpr plain
    obtain ⟨last, ends⟩ := tabulates.ends_iff.mpr possible
    rw [ends]
    exact .done (tabulates.difference last ends)

/-- A service for `/d` that knows the file `a`. -/
def knowing : DirectoryListingService :=
  ⟨[47, 100], fun _ => true, 0, ExtTreeMap.empty.insert [97] (.regular 1 10)⟩

/-- The file `a` was modified, and there is a new file `b`. -/
def grown : Listing := ⟨[([98], some (.regular 2 12)), ([97], some (.regular 1 11))], by decide⟩

theorem scan_difference_iff_grown :
    knowing.reads ⟨some 12, some grown, 13⟩ = some grown ∧
      Ensures (knowing.updateEntries false ⟨some 12, some grown, 13⟩) fun result =>
        knowing.Difference (knowing.snapshot grown) result.2 result.1.knownEntries := by
  have executed : knowing.reads ⟨some 12, some grown, 13⟩ = some grown := rfl
  refine ⟨executed, (scan_difference_iff executed).mpr ⟨?_, .inr fun name known => ?_, .inl ?_⟩⟩
  · intro name fileStat member _
    simp only [grown, List.mem_cons, List.not_mem_nil, or_false, Prod.mk.injEq, Option.some.injEq] at member
    rcases member with ⟨_, rfl⟩ | ⟨_, rfl⟩
    · exact .inl (by decide)
    · exact .inl (by decide)
  · rcases ExtTreeMap.mem_insert.mp known with same | none
    · rw [← LawfulEqCmp.eq_of_compare same]
      decide +kernel
    · exact absurd none ExtTreeMap.not_mem_empty
  · decide

/-- The file `a` is gone, and the scan does not survive this.  A socket is never listed,
whatever the iterator does. -/
theorem scan_misses_difference :
    let vanished : Listing := ⟨[], List.nodup_nil⟩
    let socket : Listing := ⟨[([97], some (.regular 1 10)), ([98], some ⟨S_IFSOCK, 0, 0, 0, 12⟩)], by decide⟩
    knowing.reads ⟨some 12, some vanished, 13⟩ = some vanished ∧
      knowing.updateEntries false ⟨some 12, some vanished, 13⟩ = none ∧
      knowing.reads ⟨some 12, some socket, 13⟩ = some socket ∧
      forall forgiving, ¬ Ensures (knowing.updateEntries forgiving ⟨some 12, some socket, 13⟩) fun result =>
        knowing.Difference (knowing.snapshot socket) result.2 result.1.knownEntries := by
  intro vanished socket
  refine ⟨rfl, by decide +kernel, rfl, fun forgiving ensured => ?_⟩
  obtain ⟨result, ends, difference⟩ := ensured
  have known : (knowing.updateEntries forgiving ⟨some 12, some socket, 13⟩).map
      (fun result => result.1.knownEntries[([98] : Bytes)]?) = some none := by
    cases forgiving <;> decide +kernel
  have there : (knowing.snapshot socket)[([98] : Bytes)]? = some ⟨S_IFSOCK, 0, 0, 0, 12⟩ := by
    decide +kernel
  rw [ends, Option.map_some, difference.known, there] at known
  cases known

end DirectoryListingService

end Util
end Umundo
