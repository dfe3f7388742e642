import Umundo.Util.DirectoryScan

namespace Umundo
namespace Util

open Foundation Std

/-!
# Changes between scans

A call of `updateEntries` looks at the time of the last modification of the directory, reads
the entries if that is not before the last check, and then takes the time of this check.
Files are created and deleted at any moment in between, and the clock goes on.

Times are whole seconds.  A change that falls between the reading of the entries and the
reading of the clock is seen by a later call only if the clock has not advanced in the
meantime: otherwise the directory seems to be older than the last check.
-/

/-! ## A directory and the steps of a call -/

inductive Phase where
  | idle
  /-- the directory was modified, and its entries are to be read -/
  | reading
  /-- the entries were read, and the time is to be taken -/
  | stamping
deriving DecidableEq

structure Watching where
  clock : Int
  files : Table Bytes FileStat
  /-- when the directory was modified -/
  mtime : Int
  service : DirectoryListingService
  phase : Phase

inductive WatchEvent where
  | pass (now : Int)
  | create (name : Bytes) (fileStat : FileStat)
  | delete (name : Bytes)
  | statDirectory
  | readEntries (listing : Listing)
  | setLastChecked

inductive WatchOutput where
  | crashed
deriving DecidableEq

namespace Watching

/-- Only one call is in progress at a time, and its steps come in their order. -/
def step (forgiving : Bool) (state : Watching) : WatchEvent -> Watching × List WatchOutput
  | .pass now => ({ state with clock := now }, [])
  | .create name fileStat =>
      ({ state with
          files := state.files.insert name fileStat
          mtime := state.clock }, [])
  | .delete name =>
      ({ state with
          files := state.files.erase name
          mtime := state.clock }, [])
  | .statDirectory =>
      if state.phase = .idle ∧ unsigned state.service.lastChecked ≤ unsigned state.mtime then
        ({ state with phase := .reading }, [])
      else (state, [])
  | .readEntries listing =>
      if state.phase = .reading then
        match state.service.readEntries forgiving listing with
        | none => (state, [.crashed])
        | some scanning =>
            ({ state with
                service := { state.service with knownEntries := scanning.knownEntries }
                phase := .stamping }, [])
      else (state, [])
  | .setLastChecked =>
      if state.phase = .stamping then
        ({ state with
            service := { state.service with lastChecked := state.clock }
            phase := .idle }, [])
      else (state, [])

end Watching

/-- All entries of the directory are read, in any order, and every `stat` succeeds. -/
def Listing.Of (listing : Listing) (files : Table Bytes FileStat) : Prop :=
  listing.entries.Perm (files.toList.map fun file => (file.1, some file.2))

/-- The entries in the order of their names. -/
def Listing.ofFiles (files : Table Bytes FileStat) : Listing where
  entries := files.toList.map fun file => (file.1, some file.2)
  nodup := by
    rw [List.map_map]
    refine Eq.subst ?_ (Table.nodup_keys files)
    exact ExtTreeMap.map_fst_toList_eq_keys.symm

theorem Listing.of_ofFiles (files : Table Bytes FileStat) : (Listing.ofFiles files).Of files :=
  List.Perm.refl _

/-- What may happen: the clock is never set back, only a file that is there is deleted, and
a new name is used for a new file. -/
def Watching.Possible (state : Watching) : WatchEvent -> Prop
  | .pass now => state.clock ≤ now
  | .create name _ => name ∉ state.files
  | .delete name => name ∈ state.files
  | .readEntries listing => state.phase = .reading -> listing.Of state.files
  | .statDirectory | .setLastChecked => True

instance (listing : Listing) (files : Table Bytes FileStat) : Decidable (listing.Of files) :=
  inferInstanceAs (Decidable (List.Perm _ _))

instance (state : Watching) (event : WatchEvent) : Decidable (state.Possible event) := by
  unfold Watching.Possible
  split <;> infer_instance

/-! ## What a call should find -/

/-- The type of a file is a directory. -/
def FileStat.IsDirectory (fileStat : FileStat) : Prop := fileStat.mode &&& S_IFMT = S_IFDIR

/-- The bit that is tested belongs to directories only.  It is also set in the type of
sockets and of block devices. -/
def FileStat.Plain (fileStat : FileStat) : Prop :=
  fileStat.mode &&& S_IFDIR = 0 ∨ fileStat.IsDirectory

theorem FileStat.Plain.isDirectory_iff {fileStat : FileStat} (plain : fileStat.Plain) :
    fileStat.IsDirectory <-> fileStat.mode &&& S_IFDIR ≠ 0 := by
  have bit (directory : fileStat.IsDirectory) : fileStat.mode &&& S_IFDIR = S_IFDIR := by
    have masked : (fileStat.mode &&& S_IFMT) &&& S_IFDIR = fileStat.mode &&& S_IFDIR := by
      rw [Nat.and_assoc]
      rfl
    rw [← masked, directory]
    rfl
  constructor
  · intro directory
    rw [bit directory]
    decide
  · exact plain.resolve_left

/-- A directory that was modified at some time is read, and what there is can be reported. -/
def DirectoryListingService.Notices (service : DirectoryListingService) (mtime : Int) : Prop :=
  ¬ Endless service.dir ∧ unsigned service.lastChecked ≤ unsigned mtime

instance (service : DirectoryListingService) (mtime : Int) : Decidable (service.Notices mtime) :=
  inferInstanceAs (Decidable (_ ∧ _))

namespace Watching

/-- The files that should be known: no directories, and accepted by the filter. -/
def Wanted (state : Watching) (name : Bytes) : Prop :=
  Exists fun fileStat => state.files[name]? = some fileStat ∧ ¬ fileStat.IsDirectory ∧
    state.service.filter name = true

/-- A call with nothing in between but time. -/
def call (first second third : Int) (listing : Listing) : List WatchEvent :=
  [.pass first, .statDirectory, .pass second, .readEntries listing, .pass third, .setLastChecked]

/-- A call that begins now, with no change after its beginning, ends and knows the files. -/
def Prompt (forgiving : Bool) (state : Watching) : Prop :=
  state.phase = .idle -> forall first second third listing, state.clock ≤ first -> first ≤ second ->
    second ≤ third -> listing.Of state.files ->
      (run (step forgiving) state (call first second third listing)).2 = [] ∧
        forall name, name ∈ (run (step forgiving) state (call first second third listing)).1.service.knownEntries <->
          state.Wanted name

/-- The next call reads the entries, and can report them. -/
def Due (state : Watching) : Prop := state.service.Notices state.mtime

/-- The files that a scan would be shown and not ignore. -/
def Listed (state : Watching) (name : Bytes) : Prop :=
  Exists fun fileStat => fileStat ∈ state.files[name]? ∧ state.service.Interested name fileStat

/-- Every known file is still there. -/
def Covered (state : Watching) : Prop := forall name, name ∈ state.service.knownEntries -> state.Listed name

/-- The known files are those that are there. -/
def Agrees (state : Watching) : Prop := forall name, name ∈ state.service.knownEntries <-> state.Listed name

instance (state : Watching) (name : Bytes) : Decidable (state.Listed name) :=
  inferInstanceAs (Decidable (Exists fun fileStat => fileStat ∈ state.files[name]? ∧ _))

instance (state : Watching) : Decidable state.Covered :=
  decidable_of_iff (forall name, name ∈ state.service.knownEntries.keys -> state.Listed name)
    (forall_congr' fun _ => imp_congr_left ExtTreeMap.mem_keys)

instance (state : Watching) : Decidable state.Agrees :=
  decidable_of_iff (state.Covered ∧ forall name, name ∈ state.files.keys -> state.Listed name ->
      name ∈ state.service.knownEntries) <| by
    constructor
    · rintro ⟨covered, complete⟩ name
      refine ⟨covered name, fun listed => complete name ?_ listed⟩
      obtain ⟨fileStat, stored, _⟩ := listed
      exact ExtTreeMap.mem_keys.mpr (Table.mem_of_getElem? stored)
    · exact fun agrees => ⟨fun name => (agrees name).mp, fun name _ => (agrees name).mpr⟩

/-- The next call will be right: it reads and reports the entries, or they are known. -/
structure Settled (forgiving : Bool) (state : Watching) : Prop where
  covered : forgiving = true ∨ state.Covered
  informed : state.Due ∨ state.Agrees

variable {state : Watching} {forgiving : Bool}

theorem lists_iff {listing : Listing} (complete : listing.Of state.files) (name : Bytes) (fileStat : FileStat) :
    state.service.Lists listing.entries name fileStat <->
      state.files[name]? = some fileStat ∧ state.service.Interested name fileStat := by
  refine and_congr_left fun _ => ?_
  rw [complete.mem_iff, List.mem_map]
  constructor
  · rintro ⟨file, member, same⟩
    cases same
    exact ExtTreeMap.mem_toList_iff_getElem?_eq_some.mp member
  · exact fun stored => ⟨(name, fileStat), ExtTreeMap.mem_toList_iff_getElem?_eq_some.mpr stored, rfl⟩

theorem present_iff {listing : Listing} (complete : listing.Of state.files) :
    state.service.Present listing <-> state.Covered := by
  simp only [DirectoryListingService.Present, Covered, Listed, lists_iff complete, Option.mem_def]

/-- Nothing was ever known that could not be reported. -/
def Mute (state : Watching) : Prop := Endless state.service.dir -> state.service.knownEntries = ∅

/-- Without known files, the known files are those that are there if there are none. -/
theorem agrees_iff_of_empty (empty : state.service.knownEntries = ∅) :
    state.Agrees <-> forall name, ¬ state.Listed name := by
  refine forall_congr' fun name => iff_false_left ?_
  rw [empty]
  exact ExtTreeMap.not_mem_empty

theorem Mute.quiet_iff (mute : state.Mute) {listing : Listing} (complete : listing.Of state.files) :
    state.service.Quiet state.service.knownEntries listing.entries <->
      ¬ Endless state.service.dir ∨ state.Agrees := by
  by_cases endless : Endless state.service.dir
  · have empty := mute endless
    rw [agrees_iff_of_empty empty, DirectoryListingService.Quiet, empty,
      DirectoryListingService.flatMap_reports_empty_iff]
    simp only [Listed, lists_iff complete, Option.mem_def, not_exists]
  · exact iff_of_true (.inl endless) (.inl endless)

theorem Mute.readable_iff (mute : state.Mute) {listing : Listing} (complete : listing.Of state.files) :
    state.service.Readable forgiving listing <->
      (¬ Endless state.service.dir ∨ state.Agrees) ∧ (forgiving = true ∨ state.Covered) := by
  rw [← mute.quiet_iff complete, ← present_iff complete]
  constructor
  · rintro ⟨quiet, safe⟩
    exact ⟨quiet, safe.symm.imp_left And.right⟩
  · rintro ⟨quiet, safe⟩
    refine ⟨quiet, ?_⟩
    by_cases endless : Endless state.service.dir
    · refine .inl fun name known => ?_
      rw [mute endless] at known
      exact absurd known ExtTreeMap.not_mem_empty
    · exact safe.symm.imp_right fun forgives => ⟨endless, forgives⟩

/-- The files are no sockets and no block devices, unless the filter rejects them. -/
def PlainFiles (state : Watching) : Prop :=
  forall (name : Bytes) (fileStat : FileStat), state.files[name]? = some fileStat ->
    state.service.filter name = true -> fileStat.Plain

theorem PlainFiles.wanted_iff (plain : state.PlainFiles) (name : Bytes) :
    state.Wanted name <-> state.Listed name := by
  refine exists_congr fun fileStat => and_congr_right fun stored => ?_
  refine and_congr_left fun accepted => ?_
  rw [(plain name fileStat stored accepted).isDirectory_iff, not_not]

section

variable (first second third : Int) (listing : Listing)

theorem call_of_unmodified (idle : state.phase = .idle)
    (unmodified : ¬ unsigned state.service.lastChecked ≤ unsigned state.mtime) :
    (run (step forgiving) state (call first second third listing)).2 = [] ∧
      (run (step forgiving) state (call first second third listing)).1.service = state.service := by
  simp [call, run, step, idle, unmodified]

variable {listing}

theorem call_of_ends (idle : state.phase = .idle)
    (modified : unsigned state.service.lastChecked ≤ unsigned state.mtime) {last : Scanning}
    (ends : state.service.readEntries forgiving listing = some last) :
    (run (step forgiving) state (call first second third listing)).2 = [] ∧
      (run (step forgiving) state (call first second third listing)).1.service.knownEntries =
        last.knownEntries := by
  simp [call, run, step, idle, modified, ends]

theorem call_of_crash (idle : state.phase = .idle)
    (modified : unsigned state.service.lastChecked ≤ unsigned state.mtime)
    (crashes : state.service.readEntries forgiving listing = none) :
    (run (step forgiving) state (call first second third listing)).2 ≠ [] := by
  simp [call, run, step, idle, modified, crashes]

end

/-- Whether the next call will be right can be told in advance. -/
theorem prompt_iff_of_idle (mute : state.Mute) (plain : state.PlainFiles) (idle : state.phase = .idle) :
    state.Prompt forgiving <-> state.Settled forgiving := by
  have complete := Listing.of_ofFiles state.files
  by_cases modified : unsigned state.service.lastChecked ≤ unsigned state.mtime
  · constructor
    · intro prompt
      obtain ⟨silent, _⟩ := prompt idle state.clock state.clock state.clock _ (Int.le_refl _) (Int.le_refl _)
        (Int.le_refl _) complete
      cases ends : state.service.readEntries forgiving (.ofFiles state.files) with
      | none => exact absurd silent (call_of_crash _ _ _ idle modified ends)
      | some last =>
          obtain ⟨reported, covered⟩ :=
            (mute.readable_iff complete).mp (DirectoryListingService.readEntries_ends _ last ends)
          exact ⟨covered, reported.imp_left fun named => ⟨named, modified⟩⟩
    · intro settled _ first second third listing _ _ _ complete
      have readable := (mute.readable_iff complete).mpr ⟨settled.informed.imp_left And.left, settled.covered⟩
      obtain ⟨last, ends, known, _⟩ := DirectoryListingService.readEntries_spec readable
      obtain ⟨silent, found⟩ := call_of_ends first second third idle modified ends
      refine ⟨silent, fun name => ?_⟩
      rw [found, plain.wanted_iff, ExtTreeMap.mem_iff_isSome_getElem?, Option.isSome_iff_exists]
      exact exists_congr fun fileStat => (known name fileStat).trans (lists_iff complete name fileStat)
  · constructor
    · intro prompt
      obtain ⟨_, found⟩ := prompt idle state.clock state.clock state.clock _ (Int.le_refl _) (Int.le_refl _)
        (Int.le_refl _) complete
      rw [(call_of_unmodified _ _ _ _ idle modified).2] at found
      have agrees : state.Agrees := fun name => (found name).trans (plain.wanted_iff name)
      exact ⟨.inr fun name => (agrees name).mp, .inr agrees⟩
    · intro settled _ first second third listing _ _ _ _
      refine ⟨(call_of_unmodified first second third listing idle modified).1, fun name => ?_⟩
      rw [(call_of_unmodified first second third listing idle modified).2, plain.wanted_iff]
      exact settled.informed.resolve_left (fun due => modified due.2) name

theorem prompt_iff (mute : state.Mute) (plain : state.PlainFiles) :
    state.Prompt forgiving <-> (state.phase = .idle -> state.Settled forgiving) :=
  ⟨fun prompt idle => (prompt_iff_of_idle mute plain idle).mp prompt,
    fun settled idle => (prompt_iff_of_idle mute plain idle).mpr (settled idle) idle⟩

/-! ## Steps -/

/-- A change comes in time for the next call and can be reported, and no known file is gone when it
matters. -/
def Timely (forgiving : Bool) (state : Watching) : WatchEvent -> Prop
  | .create name fileStat => state.phase = .idle ->
      state.service.Notices state.clock ∨ Agrees { state with files := state.files.insert name fileStat }
  | .delete name => state.phase = .idle ->
      (forgiving = true ∨ name ∉ state.service.knownEntries) ∧
        (state.service.Notices state.clock ∨ Agrees { state with files := state.files.erase name })
  | .readEntries _ => state.phase = .reading ->
      (¬ Endless state.service.dir ∨ state.Agrees) ∧ (forgiving = true ∨ state.Covered)
  | .setLastChecked => state.phase = .stamping ->
      (forgiving = true ∨ state.Covered) ∧
        ({ state.service with lastChecked := state.clock }.Notices state.mtime ∨ state.Agrees)
  | .pass _ | .statDirectory => True

instance (forgiving : Bool) (state : Watching) (event : WatchEvent) :
    Decidable (state.Timely forgiving event) := by
  unfold Timely
  split <;> infer_instance

end Watching

/-- No socket or block device is created, unless the filter rejects it. -/
def WatchEvent.Plain (filter : Bytes -> Bool) : WatchEvent -> Prop
  | .create name fileStat => filter name = true -> fileStat.Plain
  | _ => True

instance (fileStat : FileStat) : Decidable fileStat.Plain :=
  inferInstanceAs (Decidable (_ ∨ fileStat.mode &&& S_IFMT = S_IFDIR))

instance (filter : Bytes -> Bool) (event : WatchEvent) : Decidable (event.Plain filter) := by
  unfold WatchEvent.Plain
  split <;> infer_instance

namespace Watching

variable {state : Watching} {forgiving : Bool}

structure Valid (forgiving : Bool) (filter : Bytes -> Bool) (state : Watching) : Prop where
  filter : state.service.filter = filter
  mute : state.Mute
  plain : state.PlainFiles
  settled : state.phase = .idle -> state.Settled forgiving

theorem Covered.create (covered : state.Covered) {name : Bytes} (new : name ∉ state.files)
    (fileStat : FileStat) (now : Int) :
    Covered { state with files := state.files.insert name fileStat, mtime := now } := by
  intro other known
  obtain ⟨found, stored, interested⟩ := covered other known
  refine ⟨found, ?_, interested⟩
  rw [Table.getElem?_insert_eq, if_neg]
  · exact stored
  · rintro rfl
    exact new (Table.mem_of_getElem? stored)

theorem Covered.delete_iff (covered : state.Covered) (name : Bytes) (now : Int) :
    Covered { state with files := state.files.erase name, mtime := now } <->
      name ∉ state.service.knownEntries := by
  constructor
  · intro still known
    obtain ⟨found, stored, _⟩ := still name known
    rw [Table.getElem?_erase_eq, if_pos rfl] at stored
    cases stored
  · intro unknown other known
    obtain ⟨found, stored, interested⟩ := covered other known
    refine ⟨found, ?_, interested⟩
    rw [Table.getElem?_erase_eq, if_neg]
    · exact stored
    · rintro rfl
      exact unknown known

variable {filter : Bytes -> Bool} {event : WatchEvent}

theorem step_filter (state : Watching) (event : WatchEvent) :
    (state.step forgiving event).1.service.filter = state.service.filter ∧
      (state.step forgiving event).1.service.dir = state.service.dir := by
  cases event with
  | pass | create | delete => exact ⟨rfl, rfl⟩
  | statDirectory | setLastChecked =>
      rw [step]
      split <;> exact ⟨rfl, rfl⟩
  | readEntries listing =>
      rw [step]
      split
      · split <;> exact ⟨rfl, rfl⟩
      · exact ⟨rfl, rfl⟩

theorem step_files (state : Watching) (event : WatchEvent) :
    (state.step forgiving event).1.files = match event with
      | .create name fileStat => state.files.insert name fileStat
      | .delete name => state.files.erase name
      | _ => state.files := by
  cases event with
  | pass | create | delete => rfl
  | statDirectory | setLastChecked =>
      rw [step]
      split <;> rfl
  | readEntries listing =>
      rw [step]
      split
      · split <;> rfl
      · rfl

theorem Valid.plain_step (valid : state.Valid forgiving filter) (plain : event.Plain filter) :
    (state.step forgiving event).1.PlainFiles := by
  intro name fileStat stored accepted
  rw [(step_filter state event).1] at accepted
  rw [step_files] at stored
  cases event with
  | create other created =>
      dsimp only at stored
      rw [Table.getElem?_insert_eq] at stored
      split at stored
      next same =>
        cases stored
        rw [same, valid.filter] at accepted
        exact plain accepted
      next => exact valid.plain name fileStat stored accepted
  | delete other =>
      dsimp only at stored
      rw [Table.getElem?_erase_eq] at stored
      split at stored
      next => cases stored
      next => exact valid.plain name fileStat stored accepted
  | pass | statDirectory | readEntries | setLastChecked =>
      exact valid.plain name fileStat stored accepted

/-- The next call stays right exactly if the step is timely. -/
theorem Valid.settled_iff (valid : state.Valid forgiving filter) (possible : state.Possible event) :
    (((state.step forgiving event).1.phase = .idle -> (state.step forgiving event).1.Settled forgiving) ∧
        forall output, output ∈ (state.step forgiving event).2 -> output ≠ .crashed) <->
      state.Timely forgiving event := by
  have quiet (output : WatchOutput) (member : output ∈ []) : output ≠ .crashed :=
    absurd member List.not_mem_nil
  cases event with
  | pass now =>
      refine iff_of_true ⟨fun idle => ?_, quiet⟩ trivial
      exact ⟨(valid.settled idle).covered, (valid.settled idle).informed⟩
  | create name fileStat =>
      refine (and_iff_left quiet).trans ?_
      refine forall_congr' fun idle => ⟨Settled.informed, fun informed => ⟨?_, informed⟩⟩
      exact (valid.settled idle).covered.imp_right fun covered =>
        covered.create possible fileStat state.clock
  | delete name =>
      refine (and_iff_left quiet).trans (forall_congr' fun idle => ?_)
      have gone : (forgiving = true ∨ Covered (state.step forgiving (.delete name)).1) <->
          forgiving = true ∨ name ∉ state.service.knownEntries := by
        rcases (valid.settled idle).covered with forgives | covered
        · exact iff_of_true (.inl forgives) (.inl forgives)
        · exact or_congr_right (covered.delete_iff name state.clock)
      exact ⟨fun settled => ⟨gone.mp settled.covered, settled.informed⟩,
        fun timely => ⟨gone.mpr timely.1, timely.2⟩⟩
  | statDirectory =>
      rw [step]
      split
      · exact iff_of_true ⟨fun idle => (by cases idle), quiet⟩ trivial
      · exact iff_of_true ⟨valid.settled, quiet⟩ trivial
  | readEntries listing =>
      rw [step, Timely]
      by_cases reading : state.phase = .reading
      · rw [if_pos reading, ← valid.mute.readable_iff (possible reading)]
        cases ends : state.service.readEntries forgiving listing with
        | none =>
            refine iff_of_false (fun good => good.2 .crashed (List.mem_singleton.mpr rfl) rfl) fun timely => ?_
            obtain ⟨last, reached, _⟩ := DirectoryListingService.readEntries_spec (timely reading)
            cases ends.symm.trans reached
        | some last =>
            refine iff_of_true ⟨fun idle => (by cases idle), quiet⟩ fun _ => ?_
            exact DirectoryListingService.readEntries_ends listing last ends
      · rw [if_neg reading]
        exact iff_of_true ⟨valid.settled, quiet⟩ fun other => absurd other reading
  | setLastChecked =>
      rw [step, Timely]
      by_cases stamping : state.phase = .stamping
      · rw [if_pos stamping, and_iff_left quiet, forall_prop_of_true rfl, forall_prop_of_true stamping]
        exact ⟨fun settled => ⟨settled.covered, settled.informed⟩, fun timely => ⟨timely.1, timely.2⟩⟩
      · rw [if_neg stamping]
        exact iff_of_true ⟨valid.settled, quiet⟩ fun other => absurd other stamping

/-- A scan that ends without a report has found no files. -/
theorem Valid.mute_step (valid : state.Valid forgiving filter) (possible : state.Possible event) :
    (state.step forgiving event).1.Mute := by
  intro endless
  rw [(step_filter state event).2] at endless
  have empty := valid.mute endless
  cases event with
  | pass | create | delete => exact empty
  | statDirectory | setLastChecked =>
      rw [step]
      split <;> exact empty
  | readEntries listing =>
      rw [step]
      split
      next reading =>
        split
        · exact empty
        next last ends =>
          have readable := DirectoryListingService.readEntries_ends listing last ends
          have agrees := ((valid.mute.readable_iff (possible reading)).mp readable).1.resolve_left
            (not_not.mpr endless)
          refine ExtTreeMap.ext_getElem? fun name => ?_
          rw [ExtTreeMap.getElem?_empty, Option.eq_none_iff_forall_not_mem]
          intro fileStat stored
          have lists := ((DirectoryListingService.lists_of_ends ends).1 name fileStat).mp stored
          exact (agrees_iff_of_empty empty).mp agrees name
            ⟨fileStat, (lists_iff (possible reading) name fileStat).mp lists⟩
      · exact empty

theorem Valid.step_iff (valid : state.Valid forgiving filter) (possible : state.Possible event)
    (plain : event.Plain filter) :
    ((state.step forgiving event).1.Prompt forgiving ∧
        forall output, output ∈ (state.step forgiving event).2 -> output ≠ .crashed) <->
      state.Timely forgiving event := by
  rw [prompt_iff (valid.mute_step possible) (valid.plain_step plain), valid.settled_iff possible]

theorem Valid.step (valid : state.Valid forgiving filter) (possible : state.Possible event)
    (plain : event.Plain filter) (timely : state.Timely forgiving event) :
    (state.step forgiving event).1.Valid forgiving filter where
  filter := (step_filter state event).1.trans valid.filter
  mute := valid.mute_step possible
  plain := valid.plain_step plain
  settled := ((valid.settled_iff possible).mpr timely).1

end Watching

/-- Every call that begins after the last change ends and knows the files, exactly if the
changes are timely, and the first call reads the entries and can report them if there are any. -/
theorem prompt_iff_of_run (forgiving : Bool) {start : Watching} (idle : start.phase = .idle)
    (empty : start.service.knownEntries = ∅) (plain : start.PlainFiles) {events : List WatchEvent}
    (possible : Admits (Watching.step forgiving) Watching.Possible start events)
    (plain_events : forall event, event ∈ events -> event.Plain start.service.filter) :
    (Always (Watching.step forgiving) (Watching.Prompt forgiving) start events ∧
        forall output, output ∈ (run (Watching.step forgiving) start events).2 -> output ≠ .crashed) <->
      (start.Due ∨ forall name, ¬ start.Listed name) ∧
        Admits (Watching.step forgiving) (Watching.Timely forgiving) start events := by
  have mute : start.Mute := fun _ => empty
  have settled_iff : start.Settled forgiving <-> start.Due ∨ forall name, ¬ start.Listed name := by
    rw [← Watching.agrees_iff_of_empty empty]
    refine ⟨Watching.Settled.informed, fun informed => ⟨.inr fun name known => ?_, informed⟩⟩
    rw [empty] at known
    exact absurd known ExtTreeMap.not_mem_empty
  rw [always_and_outputs_iff, Watching.prompt_iff_of_idle mute plain idle, settled_iff]
  refine and_congr_right fun informed => ?_
  have valid : start.Valid forgiving start.service.filter :=
    ⟨rfl, mute, plain, fun _ => settled_iff.mpr informed⟩
  refine admits_iff_admits (Watching.Valid forgiving start.service.filter) _ _ ?_ ?_ valid
    (possible.and (admits_of_forall plain_events _))
  · exact fun _ _ valid allowed good =>
      valid.step allowed.1 allowed.2 ((valid.step_iff allowed.1 allowed.2).mp good)
  · exact fun _ _ valid allowed => valid.step_iff allowed.1 allowed.2

/-- An empty directory `/d` before the first call. -/
def emptyDirectory : Watching := ⟨10, ∅, 5, ⟨[47, 100], fun _ => true, 0, ∅⟩, .idle⟩

/-- A second file is created while the first one is being read, and a third one later.  The
clock goes on only after the time of the check was taken. -/
def timelyChanges : List WatchEvent :=
  [.create [97] (.regular 1 10), .statDirectory, .readEntries ⟨[([97], some (.regular 1 10))], by decide⟩,
    .create [98] (.regular 1 10), .setLastChecked, .pass 12, .create [99] (.regular 1 12), .delete [99]]

theorem prompt_iff_of_run_timely :
    Admits (Watching.step false) Watching.Possible emptyDirectory timelyChanges ∧
      Always (Watching.step false) (Watching.Prompt false) emptyDirectory timelyChanges := by
  have possible : Admits (Watching.step false) Watching.Possible emptyDirectory timelyChanges := by
    decide +kernel
  refine ⟨possible, ((prompt_iff_of_run false rfl rfl ?_ possible (by decide +kernel)).mpr
    ⟨.inr ?_, by decide +kernel⟩).1⟩
  · exact fun name fileStat stored => absurd (Table.mem_of_getElem? stored) ExtTreeMap.not_mem_empty
  · rintro name ⟨fileStat, stored, _⟩
    exact ExtTreeMap.not_mem_empty (Table.mem_of_getElem? stored)

/-- The second file is created when the entries were read, and the clock goes on before the
time of the check is taken.  No later call reads the entries, and the file is not found. -/
theorem overtaken_change :
    let events : List WatchEvent :=
      [.create [97] (.regular 1 10), .statDirectory, .readEntries ⟨[([97], some (.regular 1 10))], by decide⟩,
        .create [98] (.regular 1 10), .pass 11, .setLastChecked]
    let before := (run (Watching.step true) emptyDirectory events).1
    let later := run (Watching.step true) before (Watching.call 11 12 13 (.ofFiles before.files))
    Admits (Watching.step true) Watching.Possible emptyDirectory events ∧ before.phase = .idle ∧
      later.2 = [] ∧ later.1.phase = .idle ∧ later.1.files.keys = [[97], [98]] ∧
      later.1.service.knownEntries.keys = [[97]] := by
  decide +kernel

end Util
end Umundo
