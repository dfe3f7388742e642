import Umundo.Util.DirectoryListing

namespace Umundo
namespace Util

open Foundation Std

/-!
# What a scan finds

A scan that ends knows exactly the files that it was shown.  It ends unless a known file is
gone and the iterator to its entry is not forgiving.  No name is shown twice, so what is
reported about a file depends only on what was known before.
-/

namespace DirectoryListingService

variable {service : DirectoryListingService} {forgiving : Bool}

/-- A scan is shown a file that it does not ignore. -/
def Lists (service : DirectoryListingService) (entries : List (Bytes × Option FileStat)) (name : Bytes)
    (fileStat : FileStat) : Prop :=
  (name, some fileStat) ∈ entries ∧ service.Interested name fileStat

/-- The notifications about an entry, as long as none was removed. -/
def reports (service : DirectoryListingService) (known : Table Bytes FileStat) :
    Bytes × Option FileStat -> List Notification
  | (_, none) => []
  | (dname, some fileStat) =>
      if service.Interested dname fileStat then
        match known[dname]? with
        | some oldStat =>
            if oldStat.mtime < fileStat.mtime then [⟨.modified, service.describe dname fileStat⟩] else []
        | none => [⟨.added, service.describe dname fileStat⟩]
      else []

/-- A file is described unless the name of the directory makes that impossible. -/
theorem notify_eq_check (operation : Operation) (fileName : Bytes) (fileStat : FileStat)
    (scanning : Scanning) :
    service.notify operation fileName fileStat scanning =
      check (¬ Endless service.dir) (some { scanning with
        sent := scanning.sent ++ [⟨operation, service.describe fileName fileStat⟩] }) := by
  rw [notify, statToEntry, check, check]
  split <;> rfl

/-- An entry that is ignored changes nothing. -/
theorem visit_of_ignored {entry : Bytes × Option FileStat} {scanning : Scanning}
    (ignored : forall fileStat, entry.2 = some fileStat -> ¬ service.Interested entry.1 fileStat) :
    service.visit scanning entry = some scanning ∧ service.reports scanning.knownEntries entry = [] := by
  obtain ⟨dname, answer⟩ := entry
  cases answer with
  | none => exact ⟨rfl, rfl⟩
  | some fileStat => exact ⟨if_neg (ignored fileStat rfl), if_neg (ignored fileStat rfl)⟩

/-- A file is seen, and reported if there is something to report. -/
theorem visit_of_interested {dname : Bytes} {fileStat : FileStat}
    (interested : service.Interested dname fileStat) (scanning : Scanning) :
    service.visit scanning (dname, some fileStat) =
      check (¬ Endless service.dir ∨ service.reports scanning.knownEntries (dname, some fileStat) = [])
        (some ⟨scanning.knownEntries.insert dname fileStat, scanning.currEntries.insert dname,
          scanning.sent ++ service.reports scanning.knownEntries (dname, some fileStat)⟩) := by
  have reported (operation : Operation) :
      (service.notify operation dname fileStat scanning).map (fun scanning =>
        { scanning with
          currEntries := scanning.currEntries.insert dname
          knownEntries := scanning.knownEntries.insert dname fileStat }) =
      check (¬ Endless service.dir ∨ [(⟨operation, service.describe dname fileStat⟩ : Notification)] = [])
        (some ⟨scanning.knownEntries.insert dname fileStat, scanning.currEntries.insert dname,
          scanning.sent ++ [⟨operation, service.describe dname fileStat⟩]⟩) := by
    rw [notify_eq_check, check, check]
    simp only [List.cons_ne_nil, or_false]
    split <;> rfl
  rw [visit, if_pos interested, report, reports, if_pos interested]
  cases scanning.knownEntries[dname]? with
  | none => exact reported .added
  | some oldStat =>
      dsimp only
      split
      · exact reported .modified
      · rw [check, if_pos (.inr rfl), List.append_nil]
        rfl

/-! ## All entries -/

theorem reports_congr {known known' : Table Bytes FileStat} {entry : Bytes × Option FileStat}
    (same : known[entry.1]? = known'[entry.1]?) :
    service.reports known entry = service.reports known' entry := by
  obtain ⟨dname, answer⟩ := entry
  cases answer with
  | none => rfl
  | some fileStat =>
      rw [reports, reports]
      dsimp only at same
      rw [same]

theorem lists_cons_of_ignored {entry : Bytes × Option FileStat}
    (ignored : forall fileStat, entry.2 = some fileStat -> ¬ service.Interested entry.1 fileStat)
    (rest : List (Bytes × Option FileStat)) (name : Bytes) (fileStat : FileStat) :
    service.Lists (entry :: rest) name fileStat <-> service.Lists rest name fileStat := by
  refine and_congr_left fun interested => ⟨fun member => ?_, List.mem_cons_of_mem entry⟩
  rcases List.mem_cons.mp member with rfl | later
  · exact absurd interested (ignored fileStat rfl)
  · exact later

theorem lists_cons_of_interested {dname : Bytes} {shown : FileStat}
    (interested : service.Interested dname shown) (rest : List (Bytes × Option FileStat)) (name : Bytes)
    (fileStat : FileStat) : service.Lists ((dname, some shown) :: rest) name fileStat <->
      (name = dname ∧ fileStat = shown) ∨ service.Lists rest name fileStat := by
  rw [Lists, Lists, List.mem_cons, or_and_right, Prod.mk.injEq, Option.some.injEq]
  refine or_congr_left (and_iff_left_of_imp ?_)
  rintro ⟨rfl, rfl⟩
  exact interested

/-- What is reported about other files does not depend on a file. -/
theorem flatMap_reports_insert {dname : Bytes} {rest : List (Bytes × Option FileStat)}
    (single : dname ∉ rest.map Prod.fst) (known : Table Bytes FileStat) (shown : FileStat) :
    rest.flatMap (service.reports (known.insert dname shown)) = rest.flatMap (service.reports known) := by
  refine List.flatMap_congr fun entry member => reports_congr ?_
  rw [Table.getElem?_insert_eq, if_neg]
  rintro rfl
  exact single (List.mem_map_of_mem member)

/-- What a loop over entries has done. -/
structure Visited (service : DirectoryListingService) (entries : List (Bytes × Option FileStat))
    (before after : Scanning) : Prop where
  known : forall (name : Bytes) (fileStat : FileStat), after.knownEntries[name]? = some fileStat <->
    service.Lists entries name fileStat ∨
      (forall other, ¬ service.Lists entries name other) ∧ before.knownEntries[name]? = some fileStat
  curr : forall name, name ∈ after.currEntries <->
    name ∈ before.currEntries ∨ Exists fun fileStat => service.Lists entries name fileStat
  sent : after.sent = before.sent ++ entries.flatMap (service.reports before.knownEntries)

theorem Visited.ignore {entry : Bytes × Option FileStat} {rest : List (Bytes × Option FileStat)}
    {before after : Scanning} (visited : service.Visited rest before after)
    (ignored : forall fileStat, entry.2 = some fileStat -> ¬ service.Interested entry.1 fileStat) :
    service.Visited (entry :: rest) before after where
  known name fileStat := by
    simp only [lists_cons_of_ignored ignored rest]
    exact visited.known name fileStat
  curr name := by
    simp only [lists_cons_of_ignored ignored rest]
    exact visited.curr name
  sent := by rw [visited.sent, List.flatMap_cons, (visit_of_ignored ignored).2, List.nil_append]

theorem Visited.visit {dname : Bytes} {shown : FileStat} {rest : List (Bytes × Option FileStat)}
    {before after : Scanning} (interested : service.Interested dname shown)
    (single : dname ∉ rest.map Prod.fst)
    (visited : service.Visited rest
      ⟨before.knownEntries.insert dname shown, before.currEntries.insert dname,
        before.sent ++ service.reports before.knownEntries (dname, some shown)⟩ after) :
    service.Visited ((dname, some shown) :: rest) before after where
  known name fileStat := by
    have absent (other : FileStat) : ¬ service.Lists rest dname other := fun lists =>
      single (List.mem_map_of_mem lists.1)
    rw [visited.known, Table.getElem?_insert_eq]
    simp only [lists_cons_of_interested interested rest]
    by_cases same : name = dname
    · subst same
      simp [absent, eq_comm]
    · simp only [same, false_and, false_or, if_false]
  curr name := by
    rw [visited.curr, ExtTreeSet.mem_insert, LawfulEqCmp.compare_eq_iff_eq]
    simp only [lists_cons_of_interested interested rest, exists_or, exists_and_left, exists_eq, and_true]
    rw [eq_comm, or_assoc, or_left_comm]
  sent := by
    rw [visited.sent, List.flatMap_cons, flatMap_reports_insert single, List.append_assoc]

/-- Nothing has to be reported, unless it can be. -/
def Quiet (service : DirectoryListingService) (known : Table Bytes FileStat)
    (entries : List (Bytes × Option FileStat)) : Prop :=
  ¬ Endless service.dir ∨ entries.flatMap (service.reports known) = []

instance (known : Table Bytes FileStat) (entries : List (Bytes × Option FileStat)) :
    Decidable (service.Quiet known entries) :=
  inferInstanceAs (Decidable (_ ∨ _))

/-- Every file is new to a service that knows none. -/
theorem flatMap_reports_empty_iff {entries : List (Bytes × Option FileStat)} :
    entries.flatMap (service.reports ∅) = [] <-> forall name fileStat, ¬ service.Lists entries name fileStat := by
  rw [List.flatMap_eq_nil_iff]
  constructor
  · rintro silent name fileStat ⟨member, interested⟩
    have added := silent _ member
    rw [reports, if_pos interested, ExtTreeMap.getElem?_empty] at added
    cases added
  · rintro unlisted ⟨name, answer⟩ member
    cases answer with
    | none => rfl
    | some fileStat => exact if_neg fun interested => unlisted name fileStat ⟨member, interested⟩

theorem quiet_cons_iff {entry : Bytes × Option FileStat} {rest : List (Bytes × Option FileStat)}
    {known : Table Bytes FileStat} :
    service.Quiet known (entry :: rest) <->
      (¬ Endless service.dir ∨ service.reports known entry = []) ∧ service.Quiet known rest := by
  rw [Quiet, Quiet, List.flatMap_cons, List.append_eq_nil_iff]
  exact or_and_left

/-- The loop ends if what has to be reported can be. -/
theorem visits_of_quiet {entries : List (Bytes × Option FileStat)} (nodup : (entries.map Prod.fst).Nodup)
    (before : Scanning) (quiet : service.Quiet before.knownEntries entries) :
    Ensures (entries.foldlM service.visit before) (service.Visited entries before) := by
  induction entries generalizing before with
  | nil =>
      refine .done ⟨fun name fileStat => ?_, fun name => ?_, (List.append_nil _).symm⟩
      · simp [Lists]
      · simp [Lists]
  | cons entry rest ih =>
      obtain ⟨single, distinct⟩ := List.nodup_cons.mp nodup
      obtain ⟨now, later⟩ := quiet_cons_iff.mp quiet
      rw [List.foldlM_cons]
      by_cases ignored : forall fileStat, entry.2 = some fileStat -> ¬ service.Interested entry.1 fileStat
      · rw [(visit_of_ignored ignored).1]
        exact (ih distinct before later).mono fun after visited => visited.ignore ignored
      · obtain ⟨dname, answer⟩ := entry
        simp only [not_forall, not_not] at ignored
        obtain ⟨shown, rfl, interested⟩ := ignored
        rw [visit_of_interested interested, check_of now]
        refine (ih distinct _ ?_).mono fun after visited => visited.visit interested single
        rwa [Quiet, flatMap_reports_insert single]

/-- A loop that ends could report everything. -/
theorem quiet_of_visits {entries : List (Bytes × Option FileStat)} (nodup : (entries.map Prod.fst).Nodup)
    (before : Scanning) :
    Yields (entries.foldlM service.visit before) fun _ => service.Quiet before.knownEntries entries := by
  induction entries generalizing before with
  | nil => exact .done (.inr rfl)
  | cons entry rest ih =>
      obtain ⟨single, distinct⟩ := List.nodup_cons.mp nodup
      rw [List.foldlM_cons]
      by_cases ignored : forall fileStat, entry.2 = some fileStat -> ¬ service.Interested entry.1 fileStat
      · rw [(visit_of_ignored ignored).1]
        exact (ih distinct before).mono fun _ later =>
          quiet_cons_iff.mpr ⟨.inr (visit_of_ignored ignored).2, later⟩
      · obtain ⟨dname, answer⟩ := entry
        simp only [not_forall, not_not] at ignored
        obtain ⟨shown, rfl, interested⟩ := ignored
        rw [visit_of_interested interested]
        refine .found fun middle seen => ?_
        rw [check, Option.ite_none_right_eq_some] at seen
        obtain ⟨now, same⟩ := seen
        cases same
        refine (ih distinct _).mono fun _ later => quiet_cons_iff.mpr ⟨now, ?_⟩
        rwa [Quiet, flatMap_reports_insert single] at later

/-! ## Entries that are gone -/

/-- The entries that are not among those seen. -/
def gone (currEntries : Keys Bytes) (entries : List (Bytes × FileStat)) : List (Bytes × FileStat) :=
  entries.filter fun entry => entry.1 ∉ currEntries

theorem gone_eq_nil_iff {currEntries : Keys Bytes} {entries : List (Bytes × FileStat)} :
    gone currEntries entries = [] <-> forall entry, entry ∈ entries -> entry.1 ∈ currEntries := by
  simp [gone]

/-- The loop ends if nothing is gone, or if this can be reported and the iterator is
forgiving.  All entries that are gone are reported and erased. -/
theorem sweeps_eq (entries : List (Bytes × FileStat)) (before : Scanning) :
    entries.foldlM (service.sweep forgiving) before =
      check (gone before.currEntries entries = [] ∨ ¬ Endless service.dir ∧ forgiving = true)
        (some { before with
          knownEntries := before.knownEntries.eraseAll ((gone before.currEntries entries).map Prod.fst)
          sent := before.sent ++ (gone before.currEntries entries).map fun entry =>
            ⟨.removed, service.describe entry.1 entry.2⟩ }) := by
  induction entries generalizing before with
  | nil =>
      rw [check_of (.inl rfl)]
      simp [gone, Table.eraseAll]
  | cons entry rest ih =>
      rw [List.foldlM_cons, sweep]
      split
      next there =>
        have same : gone before.currEntries (entry :: rest) = gone before.currEntries rest :=
          List.filter_cons_of_neg (by simp [there])
        rw [same]
        exact ih before
      next absent =>
        have first : gone before.currEntries (entry :: rest) = entry :: gone before.currEntries rest :=
          List.filter_cons_of_pos (by simp [absent])
        rw [first, notifyRemovedFile, notify_eq_check]
        by_cases safe : ¬ Endless service.dir ∧ forgiving = true
        · rw [check_of safe.1, Option.bind_some, check_of safe.2]
          refine (ih _).trans ?_
          rw [check_of (.inr safe), check_of (.inr safe), List.append_assoc]
          rfl
        · have stuck : ¬ (entry :: gone before.currEntries rest = [] ∨
              ¬ Endless service.dir ∧ forgiving = true) := by
            rintro (impossible | possible)
            · exact List.cons_ne_nil _ _ impossible
            · exact safe possible
          rw [check_of_not stuck]
          by_cases endless : Endless service.dir
          · rw [check_of_not (not_not.mpr endless)]
            rfl
          · rw [check_of endless, Option.bind_some, check_of_not fun forgives => safe ⟨endless, forgives⟩]
            rfl

/-- What the loop over known entries has done. -/
structure Swept (entries : List (Bytes × FileStat)) (before after : Scanning) : Prop where
  known : forall (name : Bytes), after.knownEntries[name]? =
    if name ∈ entries.map Prod.fst ∧ name ∉ before.currEntries then none else before.knownEntries[name]?
  sent : (forall entry, entry ∈ entries -> entry.1 ∈ before.currEntries) -> after.sent = before.sent

theorem sweeps (entries : List (Bytes × FileStat)) (before : Scanning)
    (safe : (forall entry, entry ∈ entries -> entry.1 ∈ before.currEntries) ∨
      ¬ Endless service.dir ∧ forgiving = true) :
    Ensures (entries.foldlM (service.sweep forgiving) before) (Swept entries before) := by
  rw [sweeps_eq, check_of (safe.imp_left gone_eq_nil_iff.mpr)]
  refine .done ⟨fun name => ?_, fun all => ?_⟩
  · have erased : name ∈ (gone before.currEntries entries).map Prod.fst <->
        name ∈ entries.map Prod.fst ∧ name ∉ before.currEntries := by
      simp only [gone, List.mem_map, List.mem_filter, decide_eq_true_eq]
      constructor
      · rintro ⟨entry, ⟨member, absent⟩, rfl⟩
        exact ⟨⟨entry, member, rfl⟩, absent⟩
      · rintro ⟨⟨entry, member, rfl⟩, absent⟩
        exact ⟨entry, ⟨member, absent⟩, rfl⟩
    dsimp only
    rw [Table.getElem?_eraseAll]
    simp only [erased]
  · dsimp only
    rw [gone_eq_nil_iff.mpr all, List.map_nil, List.append_nil]

/-- A loop that ends has found every entry, or was forgiven. -/
theorem sweeps_ends (entries : List (Bytes × FileStat)) (before : Scanning) :
    Yields (entries.foldlM (service.sweep forgiving) before) fun _ =>
      (forall entry, entry ∈ entries -> entry.1 ∈ before.currEntries) ∨
        ¬ Endless service.dir ∧ forgiving = true := by
  rw [sweeps_eq]
  exact .check fun safe => .done (safe.imp_left gone_eq_nil_iff.mp)

/-! ## The whole scan -/

/-- Every known file is among those that a scan is shown. -/
def Present (service : DirectoryListingService) (listing : Listing) : Prop :=
  forall name, name ∈ service.knownEntries ->
    Exists fun fileStat => service.Lists listing.entries name fileStat

theorem Visited.present_iff {listing : Listing} {after : Scanning}
    (visited : service.Visited listing.entries ⟨service.knownEntries, ∅, []⟩ after) :
    (forall entry, entry ∈ after.knownEntries.toList -> entry.1 ∈ after.currEntries) <->
      service.Present listing := by
  have curr (name : Bytes) : name ∈ after.currEntries <->
      Exists fun fileStat => service.Lists listing.entries name fileStat := by
    rw [visited.curr, or_iff_right ExtTreeSet.not_mem_empty]
  constructor
  · intro all name member
    obtain ⟨oldStat, stored⟩ := Table.getElem?_of_mem member
    by_cases listed : Exists fun fileStat => service.Lists listing.entries name fileStat
    · exact listed
    · have kept : after.knownEntries[name]? = some oldStat :=
        (visited.known name oldStat).mpr (.inr ⟨not_exists.mp listed, stored⟩)
      exact (curr name).mp (all (name, oldStat) (ExtTreeMap.mem_toList_iff_getElem?_eq_some.mpr kept))
  · intro present entry member
    rw [curr]
    have stored := ExtTreeMap.mem_toList_iff_getElem?_eq_some.mp member
    rcases (visited.known entry.1 entry.2).mp stored with listed | ⟨_, known⟩
    · exact ⟨entry.2, listed⟩
    · exact present entry.1 (Table.mem_of_getElem? known)

/-- What there is to report can be reported, and no known file is gone or the iterator is forgiving. -/
structure Readable (service : DirectoryListingService) (forgiving : Bool) (listing : Listing) : Prop where
  quiet : service.Quiet service.knownEntries listing.entries
  safe : service.Present listing ∨ ¬ Endless service.dir ∧ forgiving = true

/-- A scan ends if the directory is readable, and then it knows what it was shown. -/
theorem readEntries_spec {listing : Listing} (readable : service.Readable forgiving listing) :
    Ensures (service.readEntries forgiving listing) fun last =>
      (forall (name : Bytes) (fileStat : FileStat), last.knownEntries[name]? = some fileStat <->
        service.Lists listing.entries name fileStat) ∧
      (service.Present listing ->
        last.sent = listing.entries.flatMap (service.reports service.knownEntries)) := by
  refine .bind (visits_of_quiet listing.nodup _ readable.quiet) fun middle visited => ?_
  refine (sweeps _ middle (readable.safe.imp_left visited.present_iff.mpr)).mono fun last swept => ?_
  refine ⟨fun name fileStat => ?_, fun present => ?_⟩
  · by_cases listed : name ∈ middle.currEntries
    · rw [swept.known, if_neg fun gone => gone.2 listed, visited.known]
      refine or_iff_left fun unlisted => ?_
      obtain ⟨other, lists⟩ := ((visited.curr name).mp listed).resolve_left ExtTreeSet.not_mem_empty
      exact unlisted.1 other lists
    · have absent : last.knownEntries[name]? = none := by
        rw [swept.known]
        split
        next => rfl
        next kept =>
          refine ExtTreeMap.getElem?_eq_none fun member => kept ⟨?_, listed⟩
          rw [ExtTreeMap.map_fst_toList_eq_keys]
          exact ExtTreeMap.mem_keys.mpr member
      rw [absent]
      refine iff_of_false (fun impossible => by cases impossible) fun lists => ?_
      exact listed ((visited.curr name).mpr (.inr ⟨fileStat, lists⟩))
  · rw [swept.sent (visited.present_iff.mpr present), visited.sent, List.nil_append]

/-- A scan that ends has visited all entries, and then swept those that are gone. -/
theorem exists_visited {listing : Listing} {last : Scanning}
    (ends : service.readEntries forgiving listing = some last) :
    service.Quiet service.knownEntries listing.entries ∧ Exists fun middle =>
      service.Visited listing.entries ⟨service.knownEntries, ∅, []⟩ middle ∧
        middle.knownEntries.toList.foldlM (service.sweep forgiving) middle = some last := by
  obtain ⟨middle, visits, sweeps⟩ := Option.bind_eq_some_iff.mp ends
  have quiet := quiet_of_visits listing.nodup _ middle visits
  obtain ⟨_, visits', visited⟩ := visits_of_quiet listing.nodup ⟨service.knownEntries, ∅, []⟩ quiet
  cases visits.symm.trans visits'
  exact ⟨quiet, middle, visited, sweeps⟩

/-- Only a readable directory is read to the end. -/
theorem readEntries_ends (listing : Listing) :
    Yields (service.readEntries forgiving listing) fun _ => service.Readable forgiving listing := by
  intro last ends
  obtain ⟨quiet, middle, visited, sweeps⟩ := exists_visited ends
  exact ⟨quiet, (sweeps_ends _ middle last sweeps).imp_left visited.present_iff.mp⟩

/-- What a scan that has ended knows. -/
theorem lists_of_ends {listing : Listing} {last : Scanning}
    (ends : service.readEntries forgiving listing = some last) :
    (forall (name : Bytes) (fileStat : FileStat), last.knownEntries[name]? = some fileStat <->
        service.Lists listing.entries name fileStat) ∧
      (service.Present listing ->
        last.sent = listing.entries.flatMap (service.reports service.knownEntries)) := by
  obtain ⟨result, reached, found⟩ := readEntries_spec (readEntries_ends listing last ends)
  cases ends.symm.trans reached
  exact found

/-- The entries that a call of `updateEntries` reads, if it reads them. -/
def reads (service : DirectoryListingService) (scan : Scan) : Option Listing :=
  scan.dirStat.bind fun mtime =>
    if unsigned service.lastChecked ≤ unsigned mtime then scan.listing else none

theorem updateEntries_eq (scan : Scan) : service.updateEntries forgiving scan =
    match service.reads scan with
    | none => some (service, [])
    | some listing =>
        (service.readEntries forgiving listing).map fun scanning =>
        ({ service with knownEntries := scanning.knownEntries, lastChecked := scan.time },
          scanning.sent) := by
  rw [updateEntries, reads]
  cases scan.dirStat with
  | none => rfl
  | some mtime =>
      dsimp only [Option.bind_some]
      split
      · rfl
      · rfl

end DirectoryListingService

end Util
end Umundo
