import Mathlib.Data.List.Nodup
import Umundo.Util.DirectoryScan

namespace Umundo
namespace Util

open Foundation Std

/-!
# When the client mirrors the service

Notifications are delivered in the order in which they were sent, some time after the scan.
A client that has received all of them should know the files of the service, with the sizes
and times that the service saw last.

The client never changes an entry and never drops one.  So it is right exactly as long as
every scan finds the known files again, with the same sizes and times.
-/

/-- Sizes and times, as they are published. -/
def FileStat.measures (fileStat : FileStat) : Int × Int × Int × Int × Int :=
  (fileStat.size, toMs fileStat.atime, toMs fileStat.ctime, toMs fileStat.mtime, 0)

def DirectoryEntry.measures (entry : DirectoryEntry) : Int × Int × Int × Int × Int :=
  (entry.size, entry.atimeMs, entry.ctimeMs, entry.mtimeMs, entry.btimeMs)

def DirectoryListingService.key (service : DirectoryListingService) (name : Bytes) : Bytes :=
  service.dir ++ [58] ++ name

theorem DirectoryListingService.key_injective (service : DirectoryListingService) :
    Function.Injective service.key :=
  fun _ _ same => List.append_cancel_left same

structure Mirrors (service : DirectoryListingService) (client : DirectoryListingClient) : Prop where
  keys : forall key, key ∈ client.knownEntries <->
    Exists fun name => name ∈ service.knownEntries ∧ key = service.key name
  measures : forall (name : Bytes) (fileStat : FileStat) (entry : DirectoryEntry),
    service.knownEntries[name]? = some fileStat ->
      client.knownEntries[service.key name]? = some entry -> entry.measures = fileStat.measures

/-- The client knows the key of a name exactly if the service knows the name. -/
theorem Mirrors.mem_key_iff {service : DirectoryListingService} {client : DirectoryListingClient}
    (mirrors : Mirrors service client) (name : Bytes) :
    service.key name ∈ client.knownEntries <-> name ∈ service.knownEntries := by
  refine (mirrors.keys _).trans ⟨?_, fun there => ⟨name, there, rfl⟩⟩
  rintro ⟨other, there, same⟩
  cases service.key_injective same
  exact there

/-! ## The service and a client -/

structure Mirroring where
  service : DirectoryListingService
  /-- notifications that were sent and not delivered -/
  pending : List Notification
  client : DirectoryListingClient

inductive MirrorEvent where
  | scan (scan : Scan)
  | deliver

inductive MirrorOutput where
  | callback (callback : Callback)
  | crashed
deriving DecidableEq

namespace Mirroring

/-- Nothing is known in the beginning. -/
def init (dir : Bytes) (filter : Bytes -> Bool) (lastChecked : Int) (listener : Bool) : Mirroring where
  service := ⟨dir, filter, lastChecked, ∅⟩
  pending := []
  client := ⟨listener, ∅⟩

def step (forgiving : Bool) (state : Mirroring) : MirrorEvent -> Mirroring × List MirrorOutput
  | .scan scan =>
      match state.service.updateEntries forgiving scan with
      | none => (state, [.crashed])
      | some (service, sent) =>
          ({ state with
              service := service
              pending := state.pending ++ sent }, [])
  | .deliver =>
      match state.pending with
      | [] => (state, [])
      | notification :: rest =>
          ({ state with
              pending := rest
              client := (state.client.receive notification).1 },
            (state.client.receive notification).2.map .callback)

/-- The client when everything is delivered. -/
def delivered (state : Mirroring) : DirectoryListingClient :=
  (run DirectoryListingClient.receive state.client state.pending).1

def Mirrored (state : Mirroring) : Prop := Mirrors state.service state.delivered

end Mirroring

/-- The listener is passed what the notification says. -/
def MirrorOutput.Right : MirrorOutput -> Prop
  | .callback call => call.entry = call.cause.entry
  | .crashed => False

/-! ## What a client makes of notifications -/

namespace DirectoryListingClient

variable {client : DirectoryListingClient}

/-- An entry that is stored stays as it is. -/
theorem receive_kept {key : Bytes} {entry : DirectoryEntry}
    (stored : client.knownEntries[key]? = some entry) (notification : Notification) :
    (client.receive notification).1.knownEntries[key]? = some entry := by
  rw [receive]
  cases notification.operation with
  | added =>
      dsimp only
      rw [Table.getElem?_touch]
      split
      next same => rw [same, stored, Option.getD_some]
      next => exact stored
  | modified => exact stored
  | removed => exact stored

theorem run_kept {key : Bytes} {entry : DirectoryEntry}
    (stored : client.knownEntries[key]? = some entry) (notifications : List Notification) :
    (run receive client notifications).1.knownEntries[key]? = some entry :=
  invariant_of_run (fun client => client.knownEntries[key]? = some entry)
    (fun _ notification stored _ => receive_kept stored notification) stored
    (admits_true receive client notifications)

/-- Only new files are reported, and each of them once. -/
structure Fresh (client : DirectoryListingClient) (notifications : List Notification) : Prop where
  added : forall notification, notification ∈ notifications -> notification.operation = .added
  nodup : (notifications.map fun notification => notification.entry.key).Nodup
  new : forall notification, notification ∈ notifications ->
    notification.entry.key ∉ client.knownEntries

theorem receive_new {notification : Notification} (added : notification.operation = .added)
    (new : notification.entry.key ∉ client.knownEntries) (key : Bytes) :
    (client.receive notification).1.knownEntries[key]? =
      if notification.entry.key = key then some notification.entry else client.knownEntries[key]? := by
  rw [receive, added]
  dsimp only
  rw [Table.getElem?_touch, ExtTreeMap.getElem?_eq_none new, Option.getD_none]

/-- The listener is told about the entry of the notification. -/
theorem call_new {notification : Notification} (added : notification.operation = .added)
    (new : notification.entry.key ∉ client.knownEntries) (callback : Callback)
    (called : callback ∈ (client.receive notification).2) :
    callback.entry = callback.cause.entry := by
  have stored := receive_new added new notification.entry.key
  rw [if_pos rfl] at stored
  have calls : (client.receive notification).2 = (client.receive notification).1.call notification := by
    rw [receive, added]
  rw [calls, call, stored] at called
  split at called
  next =>
    cases List.mem_singleton.mp called
    rfl
  next => cases called

namespace Fresh

variable {notification : Notification} {first second notifications : List Notification}

theorem receive (fresh : client.Fresh (notification :: notifications)) :
    (client.receive notification).1.Fresh notifications := by
  obtain ⟨single, nodup⟩ := List.nodup_cons.mp fresh.nodup
  refine ⟨fun other member => fresh.added other (List.mem_cons_of_mem _ member), nodup,
    fun other member known => ?_⟩
  obtain ⟨entry, stored⟩ := Table.getElem?_of_mem known
  rw [receive_new (fresh.added _ List.mem_cons_self) (fresh.new _ List.mem_cons_self)] at stored
  split at stored
  next same => exact single (List.mem_map.mpr ⟨other, member, same.symm⟩)
  next => exact fresh.new other (List.mem_cons_of_mem _ member) (Table.mem_of_getElem? stored)

/-- Everything that was reported is stored. -/
theorem stored_iff (fresh : client.Fresh notifications) (key : Bytes) (entry : DirectoryEntry) :
    (run DirectoryListingClient.receive client notifications).1.knownEntries[key]? = some entry <->
      client.knownEntries[key]? = some entry ∨ Exists fun notification =>
        notification ∈ notifications ∧ notification.entry.key = key ∧ notification.entry = entry := by
  induction notifications generalizing client with
  | nil => simp [run]
  | cons notification rest ih =>
      rw [run, ih fresh.receive,
        receive_new (fresh.added _ List.mem_cons_self) (fresh.new _ List.mem_cons_self)]
      have new := fresh.new notification List.mem_cons_self
      simp only [List.mem_cons, or_and_right, exists_or, exists_eq_left]
      rw [← or_assoc]
      refine or_congr_left ?_
      split
      next same =>
        rw [← same, ExtTreeMap.getElem?_eq_none new, Option.some.injEq]
        simp only [reduceCtorEq, true_and, false_or]
      next different => simp only [different, false_and, or_false]

theorem append (fresh : client.Fresh first)
    (later : (run DirectoryListingClient.receive client first).1.Fresh second) :
    client.Fresh (first ++ second) where
  added notification member :=
    (List.mem_append.mp member).elim (fresh.added notification) (later.added notification)
  nodup := by
    rw [List.map_append]
    refine List.Nodup.append fresh.nodup later.nodup fun key one two => ?_
    obtain ⟨notification, member, rfl⟩ := List.mem_map.mp one
    obtain ⟨other, member', same⟩ := List.mem_map.mp two
    have stored := (fresh.stored_iff other.entry.key notification.entry).mpr
      (.inr ⟨notification, member, same.symm, rfl⟩)
    exact later.new other member' (Table.mem_of_getElem? stored)
  new notification member known := by
    rcases List.mem_append.mp member with before | after
    · exact fresh.new notification before known
    · obtain ⟨entry, stored⟩ := Table.getElem?_of_mem known
      exact later.new notification after (Table.mem_of_getElem? (run_kept stored first))

end Fresh

end DirectoryListingClient

/-! ## Scans that find everything as it was -/

/-- The time in milliseconds fits into a signed number of 64 bits. -/
def Representable (time : Int) : Prop :=
  -0x8000000000000000 ≤ time * 1000 ∧ time * 1000 < 0x8000000000000000

theorem toMs_of_representable {time : Int} (representable : Representable time) :
    toMs time = time * 1000 := by
  obtain ⟨low, high⟩ := representable
  exact Int.bmod_eq_of_le (by omega) (by omega)

theorem mtime_eq_of_measures {first second : FileStat} (same : first.measures = second.measures)
    (representable : Representable first.mtime) (representable' : Representable second.mtime) :
    first.mtime = second.mtime := by
  have milliseconds : toMs first.mtime = toMs second.mtime := by
    simp only [FileStat.measures, Prod.mk.injEq] at same
    exact same.2.2.2.1
  rw [toMs_of_representable representable, toMs_of_representable representable'] at milliseconds
  omega

namespace DirectoryListingService

variable {service : DirectoryListingService} {listing : Listing} {client : DirectoryListingClient}

/-- Every known file is shown again, with the same size and times. -/
def Steady (service : DirectoryListingService) (listing : Listing) : Prop :=
  forall (name : Bytes) (oldStat : FileStat), service.knownEntries[name]? = some oldStat ->
    Exists fun fileStat => service.Lists listing.entries name fileStat ∧
      fileStat.measures = oldStat.measures

instance (listing : Listing) : Decidable (service.Steady listing) :=
  decidable_of_iff (forall known, known ∈ service.knownEntries.toList ->
      Exists fun shown => shown ∈ listing.entries ∧ Exists fun fileStat => fileStat ∈ shown.2 ∧
        shown.1 = known.1 ∧ service.Interested known.1 fileStat ∧
        fileStat.measures = known.2.measures) <| by
    constructor
    · intro all name oldStat stored
      obtain ⟨⟨_, _⟩, member, fileStat, rfl, rfl, interested, same⟩ :=
        all (name, oldStat) (ExtTreeMap.mem_toList_iff_getElem?_eq_some.mpr stored)
      exact ⟨fileStat, ⟨member, interested⟩, same⟩
    · intro steady known member
      obtain ⟨fileStat, lists, same⟩ :=
        steady known.1 known.2 (ExtTreeMap.mem_toList_iff_getElem?_eq_some.mp member)
      exact ⟨(known.1, some fileStat), lists.1, fileStat, rfl, rfl, lists.2, same⟩

theorem Steady.present (steady : service.Steady listing) : service.Present listing := by
  intro name member
  obtain ⟨oldStat, stored⟩ := Table.getElem?_of_mem member
  obtain ⟨fileStat, lists, _⟩ := steady name oldStat stored
  exact ⟨fileStat, lists⟩

/-- No name is shown twice. -/
theorem Lists.unique {name : Bytes} {first second : FileStat}
    (lists : service.Lists listing.entries name first)
    (lists' : service.Lists listing.entries name second) : first = second := by
  have same := List.inj_on_of_nodup_map listing.nodup lists.1 lists'.1 rfl
  exact Option.some.inj (congrArg Prod.snd same)

/-- The times of the files that a service has seen. -/
structure Timed (service : DirectoryListingService) (listing : Listing) : Prop where
  known : forall (name : Bytes) (fileStat : FileStat), service.knownEntries[name]? = some fileStat ->
    Representable fileStat.mtime
  shown : forall (name : Bytes) (fileStat : FileStat), (name, some fileStat) ∈ listing.entries ->
    Representable fileStat.mtime

/-- New files are reported, and nothing else. -/
theorem Steady.mem_reports_iff (steady : service.Steady listing) (timed : service.Timed listing)
    (notification : Notification) :
    notification ∈ listing.entries.flatMap (service.reports service.knownEntries) <->
      Exists fun name => Exists fun fileStat => service.Lists listing.entries name fileStat ∧
        name ∉ service.knownEntries ∧ notification = ⟨.added, service.describe name fileStat⟩ := by
  rw [List.mem_flatMap]
  constructor
  · rintro ⟨⟨name, answer⟩, member, reported⟩
    cases answer with
    | none => cases reported
    | some fileStat =>
        rw [reports] at reported
        split at reported
        next interested =>
          have lists : service.Lists listing.entries name fileStat := ⟨member, interested⟩
          cases stored : service.knownEntries[name]? with
          | none =>
              rw [stored] at reported
              exact ⟨name, fileStat, lists, Table.not_mem_of_getElem? stored, List.mem_singleton.mp reported⟩
          | some oldStat =>
              obtain ⟨found, lists', same⟩ := steady name oldStat stored
              cases lists.unique lists'
              have unmodified := mtime_eq_of_measures same (timed.shown name fileStat member)
                (timed.known name oldStat stored)
              rw [stored] at reported
              dsimp only at reported
              rw [if_neg (by omega)] at reported
              cases reported
        next => cases reported
  · rintro ⟨name, fileStat, lists, unknown, rfl⟩
    refine ⟨(name, some fileStat), lists.1, ?_⟩
    rw [reports, if_pos lists.2, ExtTreeMap.getElem?_eq_none unknown]
    exact List.mem_singleton.mpr rfl

/-- An entry is reported at most once, and under its own name. -/
theorem keys_reports (known : Table Bytes FileStat) (entry : Bytes × Option FileStat) :
    ((service.reports known entry).map fun notification => notification.entry.key).Sublist
      [service.key entry.1] := by
  obtain ⟨name, answer⟩ := entry
  cases answer with
  | none => exact List.nil_sublist _
  | some fileStat =>
      rw [reports]
      split
      · split
        · split
          · exact List.Sublist.refl _
          · exact List.nil_sublist _
        · exact List.Sublist.refl _
      · exact List.nil_sublist _

theorem nodup_reports (service : DirectoryListingService) (listing : Listing) :
    ((listing.entries.flatMap (service.reports service.knownEntries)).map fun notification =>
      notification.entry.key).Nodup := by
  have keys (entries : List (Bytes × Option FileStat)) :
      ((entries.flatMap (service.reports service.knownEntries)).map fun notification =>
        notification.entry.key).Sublist ((entries.map Prod.fst).map service.key) := by
    induction entries with
    | nil => exact List.Sublist.refl _
    | cons entry rest ih =>
        rw [List.flatMap_cons, List.map_append]
        exact (keys_reports _ entry).append ih
  exact (listing.nodup.map service.key_injective).sublist (keys listing.entries)

theorem Steady.fresh (steady : service.Steady listing) (timed : service.Timed listing)
    (mirrors : Mirrors service client) :
    client.Fresh (listing.entries.flatMap (service.reports service.knownEntries)) where
  added notification member := by
    obtain ⟨_, _, _, _, rfl⟩ := (steady.mem_reports_iff timed notification).mp member
    rfl
  nodup := service.nodup_reports listing
  new notification member known := by
    obtain ⟨name, fileStat, _, unknown, rfl⟩ := (steady.mem_reports_iff timed notification).mp member
    exact unknown ((mirrors.mem_key_iff name).mp known)

/-- After a steady scan and its notifications the client is right again. -/
theorem Steady.mirrors (steady : service.Steady listing) (timed : service.Timed listing)
    (mirrors : Mirrors service client) {forgiving : Bool} {last : Scanning}
    (ends : service.readEntries forgiving listing = some last) (time : Int) :
    Mirrors { service with knownEntries := last.knownEntries, lastChecked := time }
      (run DirectoryListingClient.receive client last.sent).1 := by
  obtain ⟨known, sent⟩ := lists_of_ends ends
  rw [sent steady.present]
  have stored := (steady.fresh timed mirrors).stored_iff
  refine ⟨fun key => ⟨fun member => ?_, ?_⟩, fun name fileStat entry there held => ?_⟩
  · obtain ⟨entry, held⟩ := Table.getElem?_of_mem member
    rcases (stored key entry).mp held with before | ⟨notification, reported, same, _⟩
    · obtain ⟨name, old, rfl⟩ := (mirrors.keys key).mp (Table.mem_of_getElem? before)
      obtain ⟨fileStat, lists⟩ := steady.present name old
      exact ⟨name, Table.mem_of_getElem? ((known name fileStat).mpr lists), rfl⟩
    · obtain ⟨name, fileStat, lists, _, rfl⟩ := (steady.mem_reports_iff timed notification).mp reported
      exact ⟨name, Table.mem_of_getElem? ((known name fileStat).mpr lists), same.symm⟩
  · rintro ⟨name, there, rfl⟩
    by_cases old : name ∈ service.knownEntries
    · obtain ⟨entry, held⟩ := Table.getElem?_of_mem ((mirrors.mem_key_iff name).mpr old)
      exact Table.mem_of_getElem? ((stored _ entry).mpr (.inl held))
    · obtain ⟨fileStat, found⟩ := Table.getElem?_of_mem there
      have reported := (steady.mem_reports_iff timed _).mpr
        ⟨name, fileStat, (known name fileStat).mp found, old, rfl⟩
      exact Table.mem_of_getElem? ((stored _ _).mpr (.inr ⟨_, reported, rfl, rfl⟩))
  · have lists := (known name fileStat).mp there
    rcases (stored _ entry).mp held with before | ⟨notification, reported, same, rfl⟩
    · obtain ⟨oldStat, old⟩ := Table.getElem?_of_mem
        ((mirrors.mem_key_iff name).mp (Table.mem_of_getElem? before))
      obtain ⟨shown, lists', unchanged⟩ := steady name oldStat old
      cases lists.unique lists'
      exact (mirrors.measures name oldStat entry old before).trans unchanged.symm
    · obtain ⟨other, shown, lists', _, rfl⟩ := (steady.mem_reports_iff timed notification).mp reported
      cases service.key_injective (show service.key other = service.key name from same)
      cases lists.unique lists'
      rfl

/-- If the client is right again then the scan was steady. -/
theorem steady_of_mirrors {forgiving : Bool} {last : Scanning}
    (ends : service.readEntries forgiving listing = some last) (mirrors : Mirrors service client)
    {time : Int} (after : Mirrors { service with knownEntries := last.knownEntries, lastChecked := time }
      (run DirectoryListingClient.receive client last.sent).1) : service.Steady listing := by
  intro name oldStat old
  obtain ⟨entry, held⟩ := Table.getElem?_of_mem
    ((mirrors.mem_key_iff name).mpr (Table.mem_of_getElem? old))
  have kept := DirectoryListingClient.run_kept held last.sent
  obtain ⟨fileStat, stored⟩ := Table.getElem?_of_mem
    ((after.mem_key_iff name).mp (Table.mem_of_getElem? kept))
  refine ⟨fileStat, ((lists_of_ends ends).1 name fileStat).mp stored, ?_⟩
  rw [← after.measures name fileStat entry stored kept, mirrors.measures name oldStat entry old held]

end DirectoryListingService

/-! ## Runs -/

/-- The times of the files that are shown can be represented. -/
def MirrorEvent.Timed : MirrorEvent -> Prop
  | .scan answers => forall listing, listing ∈ answers.listing ->
      forall entry, entry ∈ listing.entries -> forall fileStat, fileStat ∈ entry.2 ->
        Representable fileStat.mtime
  | .deliver => True

instance (time : Int) : Decidable (Representable time) := inferInstanceAs (Decidable (_ ∧ _))

instance (event : MirrorEvent) : Decidable event.Timed :=
  match event with
  | .scan answers => inferInstanceAs (Decidable (forall listing, listing ∈ answers.listing ->
      forall entry, entry ∈ listing.entries -> forall fileStat, fileStat ∈ entry.2 ->
        Representable fileStat.mtime))
  | .deliver => inferInstanceAs (Decidable True)

namespace Mirroring

variable {state : Mirroring} {forgiving : Bool}

/-- A scan that reads the directory finds everything as it was, and can report what is new. -/
def Steady (state : Mirroring) : MirrorEvent -> Prop
  | .scan scan => forall listing, listing ∈ state.service.reads scan ->
      state.service.Steady listing ∧ state.service.Quiet state.service.knownEntries listing.entries
  | .deliver => True

instance (event : MirrorEvent) : Decidable (state.Steady event) :=
  match event with
  | .scan _ => inferInstanceAs (Decidable (forall listing, listing ∈ _ -> _))
  | .deliver => inferInstanceAs (Decidable True)

/-- Nothing is on its way but new files. -/
structure Valid (state : Mirroring) : Prop where
  mirrored : state.Mirrored
  fresh : state.client.Fresh state.pending
  timed : forall (name : Bytes) (fileStat : FileStat),
    state.service.knownEntries[name]? = some fileStat -> Representable fileStat.mtime

theorem Valid.init (dir : Bytes) (filter : Bytes -> Bool) (lastChecked : Int) (listener : Bool) :
    (init dir filter lastChecked listener).Valid where
  mirrored := by
    refine ⟨fun key => iff_of_false ExtTreeMap.not_mem_empty ?_, fun name fileStat entry stored => ?_⟩
    · rintro ⟨name, known, _⟩
      exact ExtTreeMap.not_mem_empty known
    · exact absurd (Table.mem_of_getElem? stored) ExtTreeMap.not_mem_empty
  fresh := ⟨fun _ member => absurd member List.not_mem_nil, List.nodup_nil,
    fun _ member => absurd member List.not_mem_nil⟩
  timed name fileStat stored := absurd (Table.mem_of_getElem? stored) ExtTreeMap.not_mem_empty

theorem Valid.timed_of_reads (valid : state.Valid) {scan : Scan} (timed : (MirrorEvent.scan scan).Timed)
    {listing : Listing} (reads : state.service.reads scan = some listing) :
    state.service.Timed listing where
  known := valid.timed
  shown name fileStat member := by
    obtain ⟨mtime, _, read⟩ := Option.bind_eq_some_iff.mp reads
    split at read
    · exact timed listing read (name, some fileStat) member fileStat rfl
    · cases read

/-- What was on its way before a scan comes first. -/
theorem delivered_append (state : Mirroring) (service : DirectoryListingService) (sent : List Notification) :
    delivered { state with service := service, pending := state.pending ++ sent } =
      (run DirectoryListingClient.receive state.delivered sent).1 := by
  rw [delivered, delivered, run_append]

/-- To deliver a notification changes nothing in the end. -/
theorem Valid.deliver (valid : state.Valid) : (state.step forgiving .deliver).1.Valid ∧
    forall output, output ∈ (state.step forgiving .deliver).2 -> output.Right := by
  obtain ⟨service, pending, client⟩ := state
  cases pending with
  | nil => exact ⟨valid, fun _ member => absurd member List.not_mem_nil⟩
  | cons notification rest =>
      refine ⟨⟨valid.mirrored, valid.fresh.receive, valid.timed⟩, fun output member => ?_⟩
      obtain ⟨callback, called, rfl⟩ := List.mem_map.mp member
      exact DirectoryListingClient.call_new (valid.fresh.added _ List.mem_cons_self)
        (valid.fresh.new _ List.mem_cons_self) callback called

theorem Valid.scan (valid : state.Valid) {scan : Scan} (timed : (MirrorEvent.scan scan).Timed)
    (steady : state.Steady (.scan scan)) : (state.step forgiving (.scan scan)).1.Valid ∧
      forall output, output ∈ (state.step forgiving (.scan scan)).2 -> output.Right := by
  rw [step, DirectoryListingService.updateEntries_eq]
  cases reads : state.service.reads scan with
  | none =>
      dsimp only
      rw [List.append_nil]
      exact ⟨valid, fun _ member => absurd member List.not_mem_nil⟩
  | some listing =>
      obtain ⟨steady, quiet⟩ := steady listing reads
      have times := valid.timed_of_reads timed reads
      have readable : state.service.Readable forgiving listing := ⟨quiet, .inl steady.present⟩
      obtain ⟨last, ends, known, sent⟩ := DirectoryListingService.readEntries_spec readable
      dsimp only
      rw [ends]
      refine ⟨⟨?_, ?_, fun name fileStat stored => ?_⟩, fun _ member => absurd member List.not_mem_nil⟩
      · rw [Mirrored, Option.map_some, delivered_append]
        exact steady.mirrors times valid.mirrored ends scan.time
      · refine valid.fresh.append ?_
        rw [sent steady.present]
        exact steady.fresh times valid.mirrored
      · exact times.shown name fileStat ((known name fileStat).mp stored).1

theorem Valid.steady (valid : state.Valid) {scan : Scan}
    (mirrored : (state.step forgiving (.scan scan)).1.Mirrored)
    (right : forall output, output ∈ (state.step forgiving (.scan scan)).2 -> output.Right) :
    state.Steady (.scan scan) := by
  intro listing reads
  rw [step, DirectoryListingService.updateEntries_eq, reads] at mirrored right
  dsimp only at mirrored right
  cases ends : state.service.readEntries forgiving listing with
  | none =>
      rw [ends] at right
      exact absurd (right .crashed (List.mem_singleton.mpr rfl)) id
  | some last =>
      rw [ends, Option.map_some, Mirrored, delivered_append] at mirrored
      exact ⟨DirectoryListingService.steady_of_mirrors ends valid.mirrored mirrored,
        (DirectoryListingService.readEntries_ends listing last ends).quiet⟩

theorem Valid.step_iff (valid : state.Valid) {event : MirrorEvent} (timed : event.Timed) :
    ((state.step forgiving event).1.Mirrored ∧
        forall output, output ∈ (state.step forgiving event).2 -> output.Right) <->
      state.Steady event := by
  cases event with
  | scan answers =>
      refine ⟨fun good => valid.steady good.1 good.2, fun steady => ?_⟩
      exact (valid.scan timed steady).imp_left Valid.mirrored
  | deliver => exact iff_of_true (valid.deliver.imp_left Valid.mirrored) trivial

theorem Valid.step (valid : state.Valid) {event : MirrorEvent} (timed : event.Timed)
    (steady : state.Steady event) : (state.step forgiving event).1.Valid := by
  cases event with
  | scan answers => exact (valid.scan timed steady).1
  | deliver => exact valid.deliver.1

end Mirroring

/-- The client mirrors the service, and the listener is told the truth, exactly as long as
every scan that reads the directory finds each known file as it was, and nothing new if it cannot be
reported. -/
theorem mirrored_iff_of_run (forgiving : Bool) (dir : Bytes) (filter : Bytes -> Bool) (lastChecked : Int)
    (listener : Bool) {events : List MirrorEvent} (timed : forall event, event ∈ events -> event.Timed) :
    (Always (Mirroring.step forgiving) Mirroring.Mirrored (.init dir filter lastChecked listener) events ∧
        forall output, output ∈ (run (Mirroring.step forgiving)
          (.init dir filter lastChecked listener) events).2 -> output.Right) <->
      Admits (Mirroring.step forgiving) Mirroring.Steady (.init dir filter lastChecked listener) events := by
  have valid := Mirroring.Valid.init dir filter lastChecked listener
  rw [always_and_outputs_iff, and_iff_right valid.mirrored]
  refine admits_iff_admits Mirroring.Valid _ _ ?_ ?_ valid
    (admits_of_forall timed _)
  · exact fun _ _ valid timed good => valid.step timed ((valid.step_iff timed).mp good)
  · exact fun _ _ valid timed => valid.step_iff timed

/-- Two scans of `/d`.  In between a file is created, and the first one is left alone. -/
def growing : List MirrorEvent :=
  [.scan ⟨some 10, some ⟨[([97], some (.regular 1 10)), ([46], some ⟨S_IFDIR, 0, 0, 0, 10⟩)], by decide⟩, 10⟩,
    .deliver,
    .scan ⟨some 20, some ⟨[([98], some (.regular 2 20)), ([97], some (.regular 1 10))], by decide⟩, 20⟩,
    .deliver]

theorem mirrored_iff_of_run_growing :
    Admits (Mirroring.step false) Mirroring.Steady (.init [47, 100] (fun _ => true) 0 true) growing ∧
      Always (Mirroring.step false) Mirroring.Mirrored (.init [47, 100] (fun _ => true) 0 true) growing ∧
      (run (Mirroring.step false) (.init [47, 100] (fun _ => true) 0 true) growing).2.length = 2 := by
  have steady : Admits (Mirroring.step false) Mirroring.Steady
      (.init [47, 100] (fun _ => true) 0 true) growing := by decide +kernel
  exact ⟨steady, ((mirrored_iff_of_run false _ _ _ _ (by decide +kernel)).mpr steady).1,
    by decide +kernel⟩

/-- A file grows.  The service sees its new size, and the client is told.  The listener is
passed the old entry, and the client keeps it. -/
theorem modified_entry_kept :
    let start := Mirroring.init [47, 100] (fun _ => true) 0 true
    let old := start.service.describe [97] (.regular 1 10)
    let new := start.service.describe [97] (.regular 2 20)
    let final := run (Mirroring.step true) start
      [.scan ⟨some 10, some ⟨[([97], some (.regular 1 10))], by decide⟩, 10⟩, .deliver,
        .scan ⟨some 20, some ⟨[([97], some (.regular 2 20))], by decide⟩, 20⟩, .deliver]
    final.1.pending = [] ∧ final.1.service.knownEntries[([97] : Bytes)]? = some (.regular 2 20) ∧
      final.1.client.knownEntries[([47, 100, 58, 97] : Bytes)]? = some old ∧
      old.measures ≠ (FileStat.regular 2 20).measures ∧
      final.2 = [.callback ⟨⟨.added, old⟩, old⟩, .callback ⟨⟨.modified, new⟩, old⟩] := by
  decide +kernel

end Util
end Umundo
