import Mathlib.Algebra.Group.Nat.Defs
import Mathlib.Algebra.Ring.Int.Defs
import Mathlib.Data.List.Sort
import Nxpod.Library.Map

/-!
# The Blob Space

The directories a blob server extracts images into. Beside a directory there are markers: that
the blob is ready, how large it is, and when it was last used. A blob is known when there is a
directory with its name, and it is ready when the marker says so.

A request that looks for a blob comes to the disk three times: for the directory, for the marker
that says that it is ready, and to write down that it was used. Nothing is locked meanwhile.

Garbage collection goes through the directories one by one. It removes those that are not ready
and have not been touched for long, and afterwards the least recently used blobs until the rest
is small enough. It reads the markers of a blob one after the other and keeps what it has read,
while requests go on. Removing a directory is one access, with everything that is in it.

The disk is kept as four tables, the directories and one for each kind of marker, so that a marker
can be there without its directory and the other way round. That is what makes the difference
between the accesses visible: removing a directory and removing the marker that says that it is
ready are two accesses, and so are making and marking it.

## Main definitions

* `Disk`: The directories and the markers.
* `Access`, `Disk.get`: Looking for a blob, one access at a time.
* `Disk.makeDir`, `Disk.unpacked`: What downloads do.
* `GcBlob`: What a run knows of a blob when it decides about it.
* `Gc`, `collect`: Garbage collection, one access at a time.

## Theorems

* `get_dirs`: Looking for a blob makes no blob ready.
-/

namespace Nxpod

namespace Blobserve

/-- A directory that was removed and made again is another directory. -/
structure Dir where
  id : Nat
  modTime : Nat
  complete : Bool

/-- The markers of a blob, each of which is a file beside its directory. -/
inductive Marker
  | size
  | used
  | ready

/-- What is on the disk. Directories are numbered as they are made, so that one that
    was removed and made again is not taken for the same. -/
structure Disk where
  dirs : Map String Dir
  ready : Map String Unit
  size : Map String Int
  used : Map String Nat
  made : Nat

/-- What `Get` says of a blob, with the answer whether all of it was there when it was said to
    be ready. -/
inductive BlobState
  | unknown
  | unready
  | ready (complete : Bool)

/-- What `Get` comes to the disk for. -/
inductive Access
  | dir
  | ready
  | used
  deriving DecidableEq

namespace Disk

/-- One access of `Get`. It goes on with another one, or returns the state of the blob, which says
as well whether everything is there of one that is said to be ready. -/
def get (disk : Disk) (now : Nat) (name : String) : Access → Sum Access BlobState × Disk
  | .dir => match disk.dirs.lookup name with
    | none => (.inr .unknown, disk)
    | some _ => (.inl .ready, disk)
  | .ready => match disk.ready.lookup name with
    | none => (.inr .unready, disk)
    | some _ => (.inl .used, disk)
  -- the marker is written whether or not the directory is still there
  | .used => (.inr (.ready ((disk.dirs.lookup name).any Dir.complete)),
      { disk with used := disk.used.insert name now })

/-- A directory that is there is extracted into as well. -/
def makeDir (disk : Disk) (now : Nat) (name : String) : Nat × Disk :=
  match disk.dirs.lookup name with
  | none => (disk.made, { disk with
      dirs := disk.dirs.insert name ⟨disk.made, now, false⟩
      made := disk.made + 1 })
  | some dir => (dir.id, { disk with dirs := disk.dirs.insert name { dir with complete := false } })

/-- What was extracted is in the directory it was extracted into, if that is still there. -/
def unpacked (disk : Disk) (name : String) (id : Nat) : Disk :=
  match disk.dirs.lookup name with
  | none => disk
  | some dir =>
      if dir.id = id then { disk with dirs := disk.dirs.insert name { dir with complete := true } }
      else disk

/-- A marker is written. It says what it says by being there, or with a number in it. -/
def mark (disk : Disk) (now : Nat) (name : String) (size : Nat) : Marker → Disk
  | .size => { disk with size := disk.size.insert name (size : Int) }
  | .used => { disk with used := disk.used.insert name now }
  | .ready => { disk with ready := disk.ready.insert name () }

/-- An entry of a directory was made. -/
def touch (disk : Disk) (now : Nat) (name : String) (dir : Dir) : Disk :=
  { disk with dirs := disk.dirs.insert name { dir with modTime := now } }

/-- A marker is removed on its own, before the directory is. -/
def removeMarker (disk : Disk) (name : String) : Marker → Disk
  | .size => { disk with size := disk.size.erase name }
  | .used => { disk with used := disk.used.erase name }
  | .ready => { disk with ready := disk.ready.erase name }

/-- The directory is removed with everything in it. -/
def removeDir (disk : Disk) (name : String) : Disk :=
  { disk with dirs := disk.dirs.erase name }

end Disk

/-! ## Garbage collection -/

/-- What a run knows of a blob when it decides about it. -/
structure GcBlob where
  name : String
  lastUsed : Nat
  size : Int
  deriving DecidableEq

/-- Twenty minutes, in seconds. -/
def minBlobAge : Nat :=
  1200

/-- A blob without a size that was not used for long. -/
def isStale (now : Nat) (blob : GcBlob) : Bool :=
  blob.size = 0 && now - blob.lastUsed > minBlobAge

/-- Sizes are added up in 64 bits. -/
def wrap (n : Int) : Int :=
  n.bmod (2 ^ 64)

/-- What all of the blobs take on the disk, as the code adds it up. -/
def totalSize (blobs : List GcBlob) : Int :=
  wrap (blobs.map GcBlob.size).sum

/-- What is removed of a blob next. -/
inductive Removal
  | marker (m : Marker)
  | dir

/-- Where garbage collection is. It has seen that a blob is ready and reads its size, or has that
as well and reads when it was used. It has read what there is and judges the blob. -/
inductive Gc
  | waiting
  | scanning (files : List (String × Nat)) (blobs : List GcBlob)
  | readingSize (blob : GcBlob) (files : List (String × Nat)) (blobs : List GcBlob)
  | readingUsed (blob : GcBlob) (files : List (String × Nat)) (blobs : List GcBlob)
  | judging (blob : GcBlob) (files : List (String × Nat)) (blobs : List GcBlob)
  | evicting (blobs : List GcBlob) (total : Int)
  | removing (blob : GcBlob) (removal : Removal) (blobs : List GcBlob) (total : Int)

/-- The directories with the times they were modified. -/
def readDir (disk : Disk) : List (String × Nat) :=
  disk.dirs.entries.map fun entry => (entry.1, entry.2.modTime)

/-- What `getGCBlob` knows before it comes to the disk, of a directory that was listed. -/
def newGcBlob (name : String) (modTime : Nat) : GcBlob :=
  ⟨name, modTime, 0⟩

/-- The size that `getGCBlob` reads, if there is one. -/
def readSize (disk : Disk) (blob : GcBlob) : GcBlob :=
  { blob with size := (disk.size.lookup blob.name).getD blob.size }

/-- When `getGCBlob` finds that the blob was used, if it was. -/
def readUsed (disk : Disk) (blob : GcBlob) : GcBlob :=
  { blob with lastUsed := (disk.used.lookup blob.name).getD blob.lastUsed }

/-- One step of garbage collection. The directories may not be listed, and what is to be removed
may stay. -/
def collect (maxSize : Int) (now : Nat) (fails : Bool) (disk : Disk) : Gc → Gc × Disk
  | .waiting => (.scanning (if fails then [] else readDir disk) [], disk)
  | .scanning [] blobs =>
      let total := totalSize blobs
      if total > maxSize then
        (.evicting (blobs.insertionSort fun a b => a.lastUsed ≤ b.lastUsed) total, disk)
      else (.waiting, disk)
  -- a blob that is not ready has no size
  | .scanning ((name, modTime) :: files) blobs => match disk.ready.lookup name with
    | none => (.judging (newGcBlob name modTime) files blobs, disk)
    | some _ => (.readingSize (newGcBlob name modTime) files blobs, disk)
  | .readingSize blob files blobs => (.readingUsed (readSize disk blob) files blobs, disk)
  | .readingUsed blob files blobs => (.judging (readUsed disk blob) files blobs, disk)
  | .judging blob files blobs =>
      if isStale now blob then
        (.scanning files blobs, if fails then disk else disk.removeDir blob.name)
      else (.scanning files (blobs ++ [blob]), disk)
  | .evicting [] _ => (.waiting, disk)
  | .evicting (blob :: blobs) total =>
      if total > maxSize then (.removing blob (.marker .ready) blobs total, disk)
      else (.waiting, disk)
  | .removing blob (.marker .ready) blobs total =>
      (.removing blob (.marker .size) blobs total,
        if fails then disk else disk.removeMarker blob.name .ready)
  | .removing blob (.marker .size) blobs total =>
      (.removing blob (.marker .used) blobs total,
        if fails then disk else disk.removeMarker blob.name .size)
  | .removing blob (.marker .used) blobs total =>
      (.removing blob .dir blobs total,
        if fails then disk else disk.removeMarker blob.name .used)
  | .removing blob .dir blobs total =>
      if fails then (.evicting blobs total, disk)
      else (.evicting blobs (wrap (total - blob.size)), disk.removeDir blob.name)

/-! ## The markers and the directories -/

namespace Disk

/-- Looking for a blob changes when it was used last and nothing else. -/
theorem get_dirs (disk : Disk) (now : Nat) (name : String) (access : Access) :
    (disk.get now name access).2.dirs = disk.dirs ∧
      (disk.get now name access).2.ready = disk.ready := by
  cases access with
  | used => exact ⟨rfl, rfl⟩
  | dir | ready =>
      rw [get]
      split
      · exact ⟨rfl, rfl⟩
      · exact ⟨rfl, rfl⟩

end Disk

end Blobserve

end Nxpod
