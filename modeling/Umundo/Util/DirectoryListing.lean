import Umundo.Foundation.Checked
import Umundo.Foundation.CString
import Umundo.Foundation.Table

namespace Umundo
namespace Util

open Foundation Std

/-!
# Listing a directory

The service scans a directory again and again and publishes what has changed since the
last time.  A client keeps the entries that it was told about.  What the operating system
answers to `stat`, `opendir`, `readdir` and `time` is an input of a scan.

A program that follows an invalid pointer ends here.  There is one exception: a scan
increments an iterator after its entry was erased, which is undefined.  In practice it may
well find the next entry.  Whether it does is a parameter, `forgiving`.
-/

/-- What `stat` says about a file.  Times are in seconds. -/
structure FileStat where
  mode : Nat
  size : Int
  atime : Int
  ctime : Int
  mtime : Int
deriving DecidableEq

def S_IFMT : Nat := 0xF000
def S_IFSOCK : Nat := 0xC000
def S_IFLNK : Nat := 0xA000
def S_IFREG : Nat := 0x8000
def S_IFBLK : Nat := 0x6000
def S_IFDIR : Nat := 0x4000
def S_IFCHR : Nat := 0x2000
def S_IFIFO : Nat := 0x1000

/-- A regular file of some size, last modified at some time. -/
def FileStat.regular (size mtime : Int) : FileStat := ⟨S_IFREG, size, 0, 0, mtime⟩

inductive EntryType where
  | namedPipe
  | charDev
  | blockDev
  | file
  | dir
  | symlink
  | socket
  | unknown
deriving DecidableEq

/-- The message that describes a file.  Its segments are never set. -/
structure DirectoryEntry where
  name : Bytes
  type : EntryType
  path : Bytes
  size : Int
  extension : Option Bytes
  atimeMs : Int
  ctimeMs : Int
  mtimeMs : Int
  btimeMs : Int
deriving DecidableEq

/-- Seconds are multiplied as unsigned numbers and stored as signed ones. -/
def toMs (seconds : Int) : Int := (seconds * 1000).bmod 0x10000000000000000

/-- A bit of the mode decides, whatever the other bits of the type are. -/
def FileStat.type (fileStat : FileStat) : EntryType :=
  if fileStat.mode &&& S_IFREG ≠ 0 then .file
  else if fileStat.mode &&& S_IFDIR ≠ 0 then .dir
  else if fileStat.mode &&& S_IFCHR ≠ 0 then .charDev
  else if fileStat.mode &&& S_IFLNK ≠ 0 then .symlink
  else if fileStat.mode &&& S_IFSOCK ≠ 0 then .socket
  else if fileStat.mode &&& S_IFIFO ≠ 0 then .namedPipe
  else if fileStat.mode &&& S_IFBLK ≠ 0 then .blockDev
  else .unknown

/-- What stands behind the last dot.  Without a dot it is the whole name, and there is no
extension if the only dot comes first. -/
def extension (fileName : Bytes) : Option Bytes :=
  match fileName.reverse.findIdx? (· == 46) with
  | none => some fileName
  | some behind =>
      if behind + 1 = fileName.length then none else some (fileName.drop (fileName.length - behind))

/-- The position of the first slash with a backslash behind it. -/
def findSeparator : Bytes -> Option Nat
  | first :: second :: rest =>
      if first = 47 ∧ second = 92 then some 0 else (findSeparator (second :: rest)).map (· + 1)
  | _ => none

inductive Operation where
  | added
  | modified
  | removed
deriving DecidableEq

structure Notification where
  operation : Operation
  entry : DirectoryEntry
deriving DecidableEq

/-- The files that a service knows, as they were when it last looked at them. -/
structure DirectoryListingService where
  dir : Bytes
  /-- are we interested in a file of that name? -/
  filter : Bytes -> Bool
  lastChecked : Int
  knownEntries : Table Bytes FileStat

/-- The names in a directory and what `stat` says about each, unless it fails. -/
structure Listing where
  entries : List (Bytes × Option FileStat)
  nodup : (entries.map Prod.fst).Nodup

/-- What the operating system says during a scan: when the directory was modified, what
there is in it, and what time it is in the end. -/
structure Scan where
  dirStat : Option Int
  listing : Option Listing
  time : Int

/-- The variables of a scan, and the notifications that it has sent. -/
structure Scanning where
  knownEntries : Table Bytes FileStat
  currEntries : Keys Bytes
  sent : List Notification

/-- The conversion from `time_t` to `unsigned`. -/
def unsigned (time : Int) : Int := time % 0x100000000

/-- The conversion from a wider type to `int`. -/
def toInt (number : Int) : Int := number.bmod 0x100000000

theorem toInt_natCast_le (number : Nat) : toInt number ≤ number := by
  rw [toInt, Int.bmod_eq_emod]
  have below : (number : Int) % (0x100000000 : Nat) ≤ number := by
    rw [← Int.natCast_emod, Int.ofNat_le]
    exact Nat.mod_le number _
  split
  next => omega
  next => omega

theorem toInt_of_lt {number : Nat} (small : number < 0x80000000) : toInt number = number :=
  Int.bmod_eq_of_le (by omega) (by omega)

theorem toInt_lt (number : Int) : toInt number < 0x80000000 :=
  Int.bmod_lt (by decide)

/-- The conversion of a position to `int`; nothing found is `npos`. -/
def positionToInt : Option Nat -> Int
  | some position => toInt position
  | none => -1

/-- The loop over the segments of a path is entered, and never left again. -/
def Endless (dir : Bytes) : Prop := 0 < positionToInt (findSeparator dir)

instance (dir : Bytes) : Decidable (Endless dir) := inferInstanceAs (Decidable (0 < _))

namespace DirectoryListingService

variable (service : DirectoryListingService)

/-- What is said about a file. -/
def describe (fileName : Bytes) (fileStat : FileStat) : DirectoryEntry where
  name := fileName
  type := fileStat.type
  path := service.dir
  size := fileStat.size
  extension := extension fileName
  atimeMs := toMs fileStat.atime
  ctimeMs := toMs fileStat.ctime
  mtimeMs := toMs fileStat.mtime
  btimeMs := 0

def statToEntry (fileName : Bytes) (fileStat : FileStat) : Option DirectoryEntry :=
  check (¬ Endless service.dir) (some (service.describe fileName fileStat))

/-! ## Scanning -/

def notify (operation : Operation) (fileName : Bytes) (fileStat : FileStat) (scanning : Scanning) :
    Option Scanning :=
  (service.statToEntry fileName fileStat).map fun entry =>
    { scanning with sent := scanning.sent ++ [⟨operation, entry⟩] }

def notifyNewFile := service.notify .added

def notifyModifiedFile := service.notify .modified

def notifyRemovedFile := service.notify .removed

/-- Directories are ignored, and names that the filter rejects. -/
def Interested (dname : Bytes) (fileStat : FileStat) : Prop :=
  fileStat.mode &&& S_IFDIR = 0 ∧ service.filter dname = true

instance (dname : Bytes) (fileStat : FileStat) : Decidable (service.Interested dname fileStat) :=
  inferInstanceAs (Decidable (_ ∧ _))

/-- Report a file that is new, or that was modified since we have seen it. -/
def report (dname : Bytes) (fileStat : FileStat) (scanning : Scanning) : Option Scanning :=
  match scanning.knownEntries[dname]? with
  | some oldStat =>
      if oldStat.mtime < fileStat.mtime then service.notifyModifiedFile dname fileStat scanning
      else some scanning
  | none => service.notifyNewFile dname fileStat scanning

/-- See if a file was changed. -/
def visit (scanning : Scanning) (entry : Bytes × Option FileStat) : Option Scanning :=
  match entry with
  | (_, none) => some scanning
  | (dname, some fileStat) =>
      if service.Interested dname fileStat then
        (service.report dname fileStat scanning).map fun scanning =>
          { scanning with
            currEntries := scanning.currEntries.insert dname
            knownEntries := scanning.knownEntries.insert dname fileStat }
      else some scanning

/-- See if a known entry is gone.  When it was erased the iterator to it is incremented. -/
def sweep (forgiving : Bool) (scanning : Scanning) (entry : Bytes × FileStat) : Option Scanning :=
  if entry.1 ∈ scanning.currEntries then some scanning
  else
    (service.notifyRemovedFile entry.1 entry.2 scanning).bind fun scanning =>
    check (forgiving = true) (some { scanning with knownEntries := scanning.knownEntries.erase entry.1 })

/-- Iterate all entries and see what changed. -/
def readEntries (forgiving : Bool) (listing : Listing) : Option Scanning :=
  (listing.entries.foldlM service.visit ⟨service.knownEntries, ∅, []⟩).bind fun scanning =>
  scanning.knownEntries.toList.foldlM (service.sweep forgiving) scanning

def updateEntries (forgiving : Bool) (scan : Scan) :
    Option (DirectoryListingService × List Notification) :=
  match scan.dirStat with
  | none => some (service, [])
  | some mtime =>
      if unsigned service.lastChecked ≤ unsigned mtime then
        match scan.listing with
        | none => some (service, [])
        | some listing =>
            (service.readEntries forgiving listing).map fun scanning =>
            ({ service with knownEntries := scanning.knownEntries, lastChecked := scan.time },
              scanning.sent)
      else some (service, [])

end DirectoryListingService

/-! ## The client -/

/-- A call of the listener, with the notification that caused it. -/
structure Callback where
  cause : Notification
  entry : DirectoryEntry
deriving DecidableEq

structure DirectoryListingClient where
  listener : Bool
  knownEntries : Table Bytes DirectoryEntry

def DirectoryEntry.key (entry : DirectoryEntry) : Bytes := entry.path ++ [58] ++ entry.name

namespace DirectoryListingClient

/-- The listener is called with the entry that is stored under the key. -/
def call (client : DirectoryListingClient) (cause : Notification) : List Callback :=
  if client.listener then (client.knownEntries[cause.entry.key]?.map (Callback.mk cause)).toList else []

/-- A new entry is stored unless its key is known.  The other notifications change nothing. -/
def receive (client : DirectoryListingClient) (notification : Notification) :
    DirectoryListingClient × List Callback :=
  match notification.operation with
  | .added =>
      let client := { client with
        knownEntries := client.knownEntries.insertIfNew notification.entry.key notification.entry }
      (client, client.call notification)
  | .modified | .removed => (client, client.call notification)

end DirectoryListingClient

end Util
end Umundo
