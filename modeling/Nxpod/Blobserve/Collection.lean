import Mathlib.Algebra.BigOperators.Group.List.Basic
import Mathlib.Algebra.Group.Int.Defs
import Mathlib.Algebra.GroupWithZero.Nat
import Mathlib.Algebra.Ring.Int.Defs
import Nxpod.Blobserve.Server

/-!
# A Run of Garbage Collection

What a run of garbage collection removes while requests download blobs and read them. The
directories and the markers that are there in the beginning are arbitrary, as long as what is
shown as ready is complete.

A run looks at the directories one after the other and then works from what it has read. Two
lists are kept beside the server, of what the run has read and of what there was to read of the
blobs that it removes, when it removes them. Nothing reads these lists.

A request that looks for a blob comes to the disk more than once. Where the blob goes away after
its marker was seen, the request is told that it is ready all the same, and makes a new file that
says when the blob was used.

The run goes by the size of a blob where it means to go by its marker. A blob without a size
that is old is taken for one that is not ready, and when there are too many blobs the ones that
are not ready are removed like others.

The statement is about a run as a whole, from the listing of the directories to the last removal,
and about everything that requests do meanwhile. So the invariant has to say at every point of the
run what is already settled: which directories were looked at, which were removed, and how much is
left (`Scanned`, `Pending`, `Leaving`). Requests may take any number of steps between two of the
run, and `accounted_of_steady` says that none of them disturbs this.

## Main definitions

* `Seen`: What there is to read of a blob, and whether it is ready.
* `Traced`, `tracedStep`: The server with what a run reads and removes.
* `Collects`: What is to hold of a run and of the blobs meanwhile.
* `Orderly`: The condition on a step.
* `Disk.Shows`: What a request that looks for a blob relies on.
* `Tended`, `Pending`: The invariant.
* `Steady`: A step that is none of garbage collection.
* `Books`: The blobs a run has looked at are those it has removed and the rest, and each of them is
  there once.

## Theorems

* `keeps_step`: What downloads need, after a step.
* `unremoved_of_books`, `removed_of_books`: What the lists say of a run.
* `holds_collect`: A step of garbage collection.
* `collects_of_orderly`: Orderly runs.
-/

namespace Nxpod

namespace Blobserve

open Transition Parties

/-! ## What a run reads and removes -/

/-- What there is to read of a blob, and whether it is ready. -/
structure Seen where
  blob : GcBlob
  ready : Bool
  deriving DecidableEq

/-- What could be read of a blob if it was read at once. -/
def see (disk : Disk) (name : String) (modTime : Nat) : Seen :=
  match disk.ready.lookup name with
  | none => ⟨newGcBlob name modTime, false⟩
  | some _ => ⟨readUsed disk (readSize disk (newGcBlob name modTime)), true⟩

/-- The server with the lists. `found` says whether the blob that the run reads was ready when the
run came to it. -/
structure Traced where
  server : Server
  looked : List Seen
  removed : List Seen
  found : Bool

/-- A blob is noted as the run has read it. One that is not ready is noted once more when its
directory is removed, and any other one when its marker is. -/
def note (s : Traced) (fails : Bool) : Gc → Traced
  | .waiting => { s with looked := [], removed := [] }
  | .scanning ((name, _) :: _) _ =>
      { s with found := (s.server.disk.ready.lookup name).isSome }
  | .judging blob _ _ =>
      if isStale s.server.now blob then
        if fails then s
        else { s with removed := s.removed ++ [see s.server.disk blob.name blob.lastUsed] }
      else { s with looked := s.looked ++ [⟨blob, s.found⟩] }
  | .removing blob (.marker .ready) _ _ =>
      if fails then s
      else { s with removed := s.removed ++ [see s.server.disk blob.name blob.lastUsed] }
  | _ => s

/-- Only steps of garbage collection are noted. -/
def noted (s : Traced) : Action → Traced
  | .collect fails => note s fails s.server.gc
  | _ => s

/-- A step of the server, with the lists kept up to date. -/
def tracedStep (s : Traced) (a : Action) : Option Traced :=
  match step s.server a with
  | none => none
  | some server => some { noted s a with server := server }

/-- Nothing is under way, and there is anything on the disk. -/
def newRun (maxSize : Int) (now : Nat) (disk : Disk) (refcache : Map String String) : Traced :=
  ⟨⟨maxSize, now, disk, .waiting, refcache, []⟩, [], [], false⟩

/-- The run has removed the blob. -/
def isRemoved (s : Traced) (name : String) : Bool :=
  s.removed.any fun seen => seen.blob.name = name

/-- The ready blobs that the run has looked at and has left. -/
def left (s : Traced) : List Seen :=
  s.looked.filter fun seen => seen.ready && !isRemoved s seen.blob.name

/-- What is shown as ready is complete. -/
def Disk.ShowsComplete (disk : Disk) : Prop :=
  ∀ name dir, disk.dirs.lookup name = some dir → disk.ready.lookup name ≠ none →
    dir.complete = true

/-- `Get` has told the request that the blob is ready, when everything of it was there or not. -/
def Phase.reported : Phase → Option Bool
  | found _ complete | answered (.served complete) => some complete
  | _ => none

/-- After a run the ready blobs it has left are small enough, and it has removed a ready blob
only if it has removed those used less recently. Meanwhile the directory of every download is
there, what is shown as ready is complete, and so is what a request was told to be ready when it
was told so. -/
structure Collects (s : Traced) : Prop where
  small : s.server.gc = .waiting → s.server.maxSize > 0 →
    ((left s).map fun seen => seen.blob.size).sum ≤ s.server.maxSize
  oldest : ∀ x ∈ s.removed, x.ready = true → ∀ y ∈ s.looked, y.ready = true →
    y.blob.lastUsed < x.blob.lastUsed → isRemoved s y.blob.name = true
  running : ∀ r ∈ s.server.requests, ∀ name id, r.phase.works = some (name, id) →
    ∃ dir, s.server.disk.dirs.lookup name = some dir ∧ dir.id = id
  complete : s.server.disk.ShowsComplete
  reported : ∀ r ∈ s.server.requests, r.phase.reported ≠ some false

/-! ## The condition -/

/-- A directory is made where there is none, and no marker. -/
def MakesNew (disk : Disk) : Phase → Prop
  | .absent dgst => disk.dirs.lookup dgst = none ∧ disk.ready.lookup dgst = none
  | _ => True

/-- Sums of these sizes fit into 64 bits. -/
def Fits (blobs : List GcBlob) : Prop :=
  (blobs.map fun blob => blob.size.natAbs).sum < 2 ^ 63

/-- A request has seen that the blob is ready, and comes to the disk once more. -/
def Phase.sees : Phase → Option String
  | cached dgst .used | looping dgst .used => some dgst
  | _ => none

/-- Nothing that is to be removed stays. What is removed as too old is not ready and nobody
extracts to it. What is removed to make space is ready, there is to read of it what the run has
read, and no request has just seen that it is ready. -/
def OrderlyGc (s : Server) (fails : Bool) : Gc → Prop
  | .judging blob _ _ => isStale s.now blob = true → fails = false ∧ Abandoned s blob.name
  | .scanning [] blobs => Fits blobs
  | .removing blob (.marker .ready) _ _ =>
      fails = false ∧ see s.disk blob.name blob.lastUsed = ⟨blob, true⟩ ∧
        ∀ r ∈ s.requests, r.phase.sees ≠ some blob.name
  | .removing _ (.marker .size) _ _ | .removing _ (.marker .used) _ _ | .removing _ .dir _ _ =>
      fails = false
  | _ => True

/-- The condition on a step. Requests make no directory that is there already, and garbage
    collection removes what it has decided to. -/
def Orderly (s : Traced) : Action → Prop
  | .go i => ∀ r ∈ s.server.requests[i]?, MakesNew s.server.disk r.phase
  | .collect fails => OrderlyGc s.server fails s.server.gc
  | _ => True

instance decidableMakesNew (disk : Disk) : ∀ phase, Decidable (MakesNew disk phase)
  | .absent dgst => inferInstanceAs
      (Decidable (disk.dirs.lookup dgst = none ∧ disk.ready.lookup dgst = none))
  | .arrived | .cached _ _ | .missed | .looping _ _ | .unknown _ | .opened _ | .extracting _ _
  | .writing _ _ _ _ | .found _ _ | .answered _ => isTrue trivial

instance decidableOrderlyGc (s : Server) (fails : Bool) : ∀ gc, Decidable (OrderlyGc s fails gc)
  | .judging blob _ _ => inferInstanceAs (Decidable (_ → fails = false ∧ Abandoned s blob.name))
  | .scanning [] _ => inferInstanceAs (Decidable (_ < _))
  | .scanning (_ :: _) _ | .readingSize _ _ _ | .readingUsed _ _ _ => isTrue trivial
  | .removing _ (.marker .ready) _ _ => inferInstanceAs (Decidable (_ ∧ _ ∧ _))
  | .removing _ (.marker .size) _ _ => inferInstanceAs (Decidable (fails = false))
  | .removing _ (.marker .used) _ _ => inferInstanceAs (Decidable (fails = false))
  | .removing _ .dir _ _ => inferInstanceAs (Decidable (fails = false))
  | .waiting => isTrue trivial
  | .evicting _ _ => isTrue trivial

instance decidableOrderly (s : Traced) : ∀ a, Decidable (Orderly s a)
  | .go i => inferInstanceAs
      (Decidable (∀ r ∈ s.server.requests[i]?, MakesNew s.server.disk r.phase))
  | .collect fails => inferInstanceAs (Decidable (OrderlyGc s.server fails s.server.gc))
  | .arrive _ | .resolved _ _ | .fetched _ _ | .untarred _ _ | .touch _ | .tick _ => isTrue trivial

/-! ## Downloads -/

variable {s : Server} {disk : Disk} {i : Nat} {ref name : String} {old new : Phase}

/-- What a request has seen of a blob. It was not ready without a directory, and it is still ready
after its marker was seen. -/
def Disk.Shows (disk : Disk) (name : String) : Access → Prop
  | .dir => True
  | .ready => disk.ready.lookup name ≠ none → disk.dirs.lookup name ≠ none
  | .used => disk.ready.lookup name ≠ none ∧ disk.dirs.lookup name ≠ none

/-- The directory that a request extracts to is there, with everything in it when the markers are
written, and nothing says yet that it is ready. What a request has been told to be ready was
complete. -/
def Phase.Needs (disk : Disk) : Phase → Prop
  | .extracting dgst id => ∃ dir, disk.dirs.lookup dgst = some dir ∧ dir.id = id ∧
      disk.ready.lookup dgst = none
  | .writing dgst id _ _ => ∃ dir, disk.dirs.lookup dgst = some dir ∧ dir.id = id ∧
      disk.ready.lookup dgst = none ∧ dir.complete = true
  | .cached dgst access | .looping dgst access => disk.Shows dgst access
  | .found _ complete | .answered (.served complete) => complete = true
  | _ => True

/-- What is ready is complete, requests have what they need, and no two of them extract to one
directory. -/
structure Tended (s : Server) : Prop where
  complete : s.disk.ShowsComplete
  needs : ∀ r ∈ s.requests, r.phase.Needs s.disk
  alone : (s.requests.flatMap Request.hands).Nodup

/-- A request that extracts has its directory, and the blob is not shown as ready yet. -/
theorem works_of_needs (h : new.Needs disk) {id : Nat} (hworks : new.works = some (name, id)) :
    ∃ dir, disk.dirs.lookup name = some dir ∧ dir.id = id ∧ disk.ready.lookup name = none := by
  cases new with
  | extracting dgst id' =>
      rw [Phase.works, Option.some.injEq, Prod.mk.injEq] at hworks
      rw [← hworks.1, ← hworks.2]
      exact h
  | writing dgst id' size m =>
      rw [Phase.works, Option.some.injEq, Prod.mk.injEq] at hworks
      rw [← hworks.1, ← hworks.2]
      rcases h with ⟨dir, hdir, hid, hnone, _⟩
      exact ⟨dir, hdir, hid, hnone⟩
  | _ => cases hworks

/-- What a request has seen stays true while directories stay and the marker does not change. -/
theorem shows_of_same {disk' : Disk} {access : Access}
    (h : disk.Shows name access)
    (hdirs : disk.dirs.lookup name ≠ none → disk'.dirs.lookup name ≠ none)
    (hready : disk'.ready.lookup name = disk.ready.lookup name) : disk'.Shows name access := by
  cases access with
  | dir => trivial
  | ready => exact fun hsome => hdirs (h (hready ▸ hsome))
  | used => exact ⟨hready ▸ h.1, hdirs h.2⟩

/-- Another disk has all that a request needs when it has the directory to which the request
extracts, and still no marker for it, and shows what the request has seen. -/
theorem needs_of_same {disk' : Disk} (h : new.Needs disk)
    (hsame : ∀ name id, new.works = some (name, id) →
      ∀ dir, disk.dirs.lookup name = some dir → disk.ready.lookup name = none →
        ∃ dir', disk'.dirs.lookup name = some dir' ∧ dir'.id = dir.id ∧
          disk'.ready.lookup name = none ∧ (dir.complete = true → dir'.complete = true))
    (hshows : ∀ name access, (access = .used → new.sees = some name) →
      disk.Shows name access → disk'.Shows name access) :
    new.Needs disk' := by
  cases new with
  | extracting dgst id =>
      rcases h with ⟨dir, hdir, rfl, hnone⟩
      rcases hsame dgst dir.id rfl dir hdir hnone with ⟨dir', hdir', hid, hnone', _⟩
      exact ⟨dir', hdir', hid, hnone'⟩
  | writing dgst id size m =>
      rcases h with ⟨dir, hdir, rfl, hnone, hcomplete⟩
      rcases hsame dgst dir.id rfl dir hdir hnone with ⟨dir', hdir', hid, hnone', hkept⟩
      exact ⟨dir', hdir', hid, hnone', hkept hcomplete⟩
  | cached dgst access => exact hshows dgst access (fun hused => by rw [hused]; rfl) h
  | looping dgst access => exact hshows dgst access (fun hused => by rw [hused]; rfl) h
  | found dgst complete => exact h
  | answered a =>
      cases a with
      | served complete => exact h
      | _ => trivial
  | _ => trivial

theorem there_of_updated {dirs dirs' : Map String Dir} (hupdated : Updated dirs dirs')
    (name : String) (hdir : dirs.lookup name ≠ none) : dirs'.lookup name ≠ none := by
  rcases hupdated name with ⟨hnone, _⟩ | ⟨_, dir', _, hdir', _⟩
  · exact absurd hnone hdir
  · rw [hdir']
    exact Option.some_ne_none _

/-- The directories stay, and what is complete stays so. The markers that say what is ready
stay. -/
theorem tended_setDisk (hs : Tended s) (hupdated : Updated s.disk.dirs disk.dirs)
    (hready : disk.ready = s.disk.ready) : Tended (s.setDisk disk) := by
  refine ⟨fun name dir hdir hsome => ?_, fun r hr => ?_, hs.alone⟩
  · rw [Server.setDisk, hready] at hsome
    rcases hupdated name with ⟨_, hnone⟩ | ⟨dir₀, dir', hdir₀, hdir', _, hcomplete⟩
    · rw [Server.setDisk, hnone] at hdir
      cases hdir
    · rw [Server.setDisk, hdir', Option.some.injEq] at hdir
      exact hdir ▸ hcomplete (hs.complete name dir₀ hdir₀ hsome)
  · refine needs_of_same (hs.needs r hr) (fun name id _ dir hdir hnone => ?_)
      fun name access _ hshows => shows_of_same hshows (there_of_updated hupdated name) ?_
    · rcases hupdated name with ⟨hgone, _⟩ | ⟨dir₀, dir', hdir₀, hdir', hid, hcomplete⟩
      · rw [hdir] at hgone
        cases hgone
      · rw [hdir, Option.some.injEq] at hdir₀
        exact ⟨dir', hdir', hdir₀ ▸ hid, by rw [Server.setDisk, hready, hnone], hdir₀ ▸ hcomplete⟩
    · rw [Server.setDisk, hready]

/-- A request goes on, and extracts what it has extracted before, or nothing. -/
theorem tended_setRequest (hs : Tended s) (hi : s.requests[i]? = some ⟨ref, old⟩)
    (hworks : new.works = none ∨ new.works = old.works) (hneeds : new.Needs s.disk) :
    Tended (s.setRequest i ref new) := by
  refine ⟨hs.complete, forall_mem_set hs.needs hneeds, ?_⟩
  rcases hworks with hnone | hsame
  · refine (flatMap_set_sublist hi ?_).nodup hs.alone
    rw [Request.hands, hnone]
    exact List.nil_sublist _
  · have hhands : Request.hands ⟨ref, new⟩ = Request.hands ⟨ref, old⟩ := by
      rw [Request.hands, Request.hands, hsame]
    exact (flatMap_set_of_eq hi hhands).symm ▸ hs.alone

/-- Nobody extracts to a directory that is not there, and nobody extracts what is ready. -/
theorem not_works_of_tended (hs : Tended s)
    (h : s.disk.dirs.lookup name = none ∨ s.disk.ready.lookup name ≠ none) :
    ∀ r ∈ s.requests, ∀ id, r.phase.works ≠ some (name, id) := by
  intro r hr id hworks
  rcases works_of_needs (hs.needs r hr) hworks with ⟨dir, hdir, _, hnone⟩
  rcases h with hgone | hready
  · rw [hgone] at hdir
    exact nomatch hdir
  · exact hready hnone

/-- The directories that a request has in its hands are those it extracts to. -/
theorem mem_hands_iff {r : Request} : name ∈ r.hands ↔ ∃ id, r.phase.works = some (name, id) := by
  rw [Request.hands, Option.mem_toList, Option.map_eq_some_iff]
  constructor
  · rintro ⟨⟨_, id⟩, hworks, rfl⟩
    exact ⟨id, hworks⟩
  · rintro ⟨id, hworks⟩
    exact ⟨(name, id), hworks, rfl⟩

/-- Who goes on extracting is the only one who does so. -/
theorem not_works_of_ne (hs : Tended s) (hi : s.requests[i]? = some ⟨ref, old⟩) {id : Nat}
    (hworks : old.works = some (name, id)) {j : Nat} {r : Request} (hne : j ≠ i)
    (hj : s.requests[j]? = some r) (id' : Nat) : r.phase.works ≠ some (name, id') := by
  intro hworks'
  have hmem : name ∈ Request.hands ⟨ref, old⟩ := mem_hands_iff.mpr ⟨id, hworks⟩
  exact hne (eq_of_nodup_flatMap hs.alone hj hi (mem_hands_iff.mpr ⟨id', hworks'⟩) hmem)

/-- A directory is made where there is none, and no marker. -/
theorem tended_makeDir (hs : Tended s) (hi : s.requests[i]? = some ⟨ref, .absent name⟩)
    (hnone : s.disk.dirs.lookup name = none) (hunready : s.disk.ready.lookup name = none) :
    Tended ((s.setDisk (s.disk.makeDir s.now name).2).setRequest i ref
      (.extracting name (s.disk.makeDir s.now name).1)) := by
  have hmade : s.disk.makeDir s.now name = (s.disk.made, { s.disk with
      dirs := s.disk.dirs.insert name ⟨s.disk.made, s.now, false⟩
      made := s.disk.made + 1 }) := by
    rw [Disk.makeDir, hnone]
  rw [hmade]
  -- No other directory is touched.
  have hother : ∀ name', name' ≠ name →
      (s.disk.dirs.insert name ⟨s.disk.made, s.now, false⟩).lookup name' =
        s.disk.dirs.lookup name' := by
    intro name' hne
    rw [Map.lookup_insert_eq_ite, if_neg hne]
  refine ⟨fun name' dir hdir hsome => ?_, ?_, ?_⟩
  · have hne : name' ≠ name := fun hc => hsome (hc ▸ hunready)
    exact hs.complete name' dir ((hother name' hne).symm.trans hdir) hsome
  · refine forall_mem_set (fun r hr => ?_) ?_
    · refine needs_of_same (hs.needs r hr) (fun name' id _ dir hdir hready => ?_)
        fun name' access _ hshows => shows_of_same hshows (fun hdir => ?_) rfl
      · have hne : name' ≠ name := fun hc => by
          rw [hc, hnone] at hdir
          cases hdir
        exact ⟨dir, (hother name' hne).trans hdir, rfl, hready, fun h => h⟩
      · have hne : name' ≠ name := fun hc => hdir (hc ▸ hnone)
        exact fun hgone => hdir ((hother name' hne).symm.trans hgone)
    · exact ⟨_, AList.lookup_insert _, rfl, hunready⟩
  · -- Nobody else works in a directory that was not there.
    have htakes : Request.hands ⟨ref, .extracting name s.disk.made⟩ =
        [name] ++ Request.hands ⟨ref, .absent name⟩ := rfl
    refine ((flatMap_set_perm_append hi htakes).nodup_iff).mpr ?_
    refine List.nodup_cons.mpr ⟨fun hmem => ?_, hs.alone⟩
    rcases List.mem_flatMap.mp hmem with ⟨r, hr, hhands⟩
    rcases mem_hands_iff.mp hhands with ⟨id, hworks⟩
    exact not_works_of_tended hs (.inl hnone) r hr id hworks

/-- The last marker is written for a directory with everything in it. -/
theorem tended_ready (hs : Tended s) {id size : Nat}
    (hi : s.requests[i]? = some ⟨ref, .writing name id size .ready⟩) :
    Tended ((s.setDisk (s.disk.mark s.now name size .ready)).setRequest i ref
      (.looping name .dir)) := by
  have hneeds : Phase.Needs s.disk (.writing name id size .ready) :=
    hs.needs _ (List.mem_of_getElem? hi)
  rcases hneeds with ⟨dir₀, hdir₀, _, _, hcomplete⟩
  refine ⟨fun name' dir hdir hsome => ?_, ?_, ?_⟩
  · by_cases hname : name' = name
    · rw [Server.setRequest, Server.setDisk, hname] at hdir
      rw [← Option.some.inj (hdir₀.symm.trans hdir)]
      exact hcomplete
    · rw [Server.setRequest, Server.setDisk, Disk.mark, Map.lookup_insert_eq_ite,
        if_neg hname] at hsome
      exact hs.complete name' dir hdir hsome
  · refine forall_mem_set_of_ne (fun j r hne hj => ?_) trivial
    refine needs_of_same (hs.needs r (List.mem_of_getElem? hj))
      (fun name' id' hworks dir hdir hnone => ⟨dir, hdir, rfl, ?_, fun h => h⟩)
      fun name' access _ hshows => ?_
    · have hname : name' ≠ name := fun hc =>
        not_works_of_ne hs hi rfl hne hj id' (hc ▸ hworks)
      rw [Server.setRequest, Server.setDisk, Disk.mark, Map.lookup_insert_eq_ite, if_neg hname]
      exact hnone
    · by_cases hname : name' = name
      · -- Who looks for the blob finds its directory.
        have hthere : s.disk.dirs.lookup name' ≠ none := by
          rw [hname, hdir₀]
          exact Option.some_ne_none _
        cases access with
        | dir => trivial
        | ready => exact fun _ => hthere
        | used =>
            refine ⟨?_, hthere⟩
            rw [Server.setRequest, Server.setDisk, Disk.mark, Map.lookup_insert_eq_ite,
              if_pos hname]
            exact Option.some_ne_none _
      · refine shows_of_same hshows (fun hdir => hdir) ?_
        rw [Server.setRequest, Server.setDisk, Disk.mark, Map.lookup_insert_eq_ite, if_neg hname]
  · exact (flatMap_set_sublist hi (List.nil_sublist _)).nodup hs.alone

/-- Everything was extracted. -/
theorem tended_unpacked (hs : Tended s) {id size : Nat}
    (hi : s.requests[i]? = some ⟨ref, .extracting name id⟩) :
    Tended ((s.setDisk (s.disk.unpacked name id)).setRequest i ref
      (.writing name id size .size)) := by
  have hneeds : Phase.Needs s.disk (.extracting name id) := hs.needs _ (List.mem_of_getElem? hi)
  rcases hneeds with ⟨dir, hdir, hid, hnone⟩
  have hunpacked : s.disk.unpacked name id = { s.disk with
      dirs := s.disk.dirs.insert name { dir with complete := true } } := by
    rw [Disk.unpacked, hdir]
    exact if_pos hid
  rw [hunpacked]
  refine tended_setRequest (tended_setDisk hs (updated_insert hdir rfl fun _ => rfl) rfl)
    hi (.inr rfl) ?_
  exact ⟨{ dir with complete := true }, AList.lookup_insert _, hid, hnone, rfl⟩

/-- A blob is no longer ready, and no request has just seen that it was. -/
theorem tended_removeMarker (hs : Tended s) (m : Marker)
    (hunseen : m = .ready → ∀ r ∈ s.requests, r.phase.sees ≠ some name) :
    Tended (s.setDisk (s.disk.removeMarker name m)) := by
  cases m with
  | size => exact tended_setDisk hs (updated_refl _) rfl
  | used => exact tended_setDisk hs (updated_refl _) rfl
  | ready =>
      have herased : ∀ name', (s.disk.removeMarker name .ready).ready.lookup name' =
          if name' = name then none else s.disk.ready.lookup name' :=
        fun name' => Map.lookup_erase_eq_ite ..
      refine ⟨fun name' dir hdir hsome => ?_, fun r hr => ?_, hs.alone⟩
      · rw [Server.setDisk, herased] at hsome
        split at hsome
        · exact absurd rfl hsome
        · exact hs.complete name' dir hdir hsome
      · refine needs_of_same (hs.needs r hr) (fun name' _ _ dir hdir hnone => ?_)
          fun name' access hsees hshows => ?_
        · refine ⟨dir, hdir, rfl, ?_, fun h => h⟩
          rw [Server.setDisk, herased, hnone, ite_self]
        · by_cases hname : name' = name
          · cases access with
            | dir => trivial
            | ready =>
                intro hsome
                rw [Server.setDisk, herased, if_pos hname] at hsome
                exact absurd rfl hsome
            | used => exact absurd (hname ▸ hsees rfl) (hunseen rfl r hr)
          · refine shows_of_same hshows (fun hdir => hdir) ?_
            rw [Server.setDisk, herased, if_neg hname]

/-- A directory to which nobody extracts, of a blob that is not ready. -/
theorem tended_removeDir (hs : Tended s)
    (hidle : ∀ r ∈ s.requests, ∀ id, r.phase.works ≠ some (name, id))
    (hunready : s.disk.ready.lookup name = none) :
    Tended (s.setDisk (s.disk.removeDir name)) := by
  have herased : ∀ name', (s.disk.removeDir name).dirs.lookup name' =
      if name' = name then none else s.disk.dirs.lookup name' :=
    fun name' => Map.lookup_erase_eq_ite ..
  refine ⟨fun name' dir hdir hsome => ?_, fun r hr => ?_, hs.alone⟩
  · rw [Server.setDisk, herased] at hdir
    split at hdir
    · cases hdir
    · exact hs.complete name' dir hdir hsome
  · refine needs_of_same (hs.needs r hr) (fun name' id hworks dir hdir hnone => ?_)
      fun name' access hsees hshows => ?_
    · have hname : name' ≠ name := fun hc => hidle r hr id (hc ▸ hworks)
      refine ⟨dir, ?_, rfl, hnone, fun h => h⟩
      rw [Server.setDisk, herased, if_neg hname]
      exact hdir
    · by_cases hname : name' = name
      · cases access with
        | dir => trivial
        | ready => exact fun hsome => absurd (hname ▸ hunready) hsome
        | used => exact absurd (hname ▸ hunready) hshows.1
      · refine shows_of_same hshows (fun hdir => ?_) rfl
        rw [Server.setDisk, herased, if_neg hname]
        exact hdir

/-! ### What requests leave alone -/

/-- A step that is none of garbage collection. No directory goes away, nobody starts to extract to
one that is there, and only who extracts to one makes the blob ready. -/
structure Steady (s s' : Server) : Prop where
  gc : s'.gc = s.gc
  maxSize : s'.maxSize = s.maxSize
  there : ∀ name, s.disk.dirs.lookup name ≠ none → s'.disk.dirs.lookup name ≠ none
  idle : ∀ name, s.disk.dirs.lookup name ≠ none →
    (∀ r ∈ s.requests, ∀ id, r.phase.works ≠ some (name, id)) →
    ∀ r ∈ s'.requests, ∀ id, r.phase.works ≠ some (name, id)
  unready : ∀ name, s.disk.dirs.lookup name ≠ none →
    (∀ r ∈ s.requests, ∀ id, r.phase.works ≠ some (name, id)) →
    s.disk.ready.lookup name = none → s'.disk.ready.lookup name = none

/-- Steps of requests can be taken one after the other. -/
theorem steady_trans {s' s'' : Server} (h : Steady s s') (h' : Steady s' s'') : Steady s s'' where
  gc := h'.gc.trans h.gc
  maxSize := h'.maxSize.trans h.maxSize
  there name hdir := h'.there name (h.there name hdir)
  idle name hdir hidle := h'.idle name (h.there name hdir) (h.idle name hdir hidle)
  unready name hdir hidle hnone :=
    h'.unready name (h.there name hdir) (h.idle name hdir hidle) (h.unready name hdir hidle hnone)

/-- Writing to the disk without removing anything is steady. -/
theorem steady_setDisk (hupdated : Updated s.disk.dirs disk.dirs)
    (hready : disk.ready = s.disk.ready) : Steady s (s.setDisk disk) where
  gc := rfl
  maxSize := rfl
  there := there_of_updated hupdated
  idle _ _ hidle := hidle
  unready name _ _ hnone := by rw [Server.setDisk, hready, hnone]

/-- Who writes the last marker extracts to the directory. -/
theorem steady_ready {id size : Nat}
    (hi : s.requests[i]? = some ⟨ref, .writing name id size .ready⟩) :
    Steady s (s.setDisk (s.disk.mark s.now name size .ready)) where
  gc := rfl
  maxSize := rfl
  there _ hdir := hdir
  idle _ _ hidle := hidle
  unready name' _ hidle hnone := by
    have hne : name' ≠ name := fun hc => hidle _ (List.mem_of_getElem? hi) id (hc ▸ rfl)
    rw [Server.setDisk, Disk.mark, Map.lookup_insert_eq_ite, if_neg hne, hnone]

theorem steady_setRequest (hi : s.requests[i]? = some ⟨ref, old⟩)
    (hworks : new.works = none ∨ new.works = old.works) : Steady s (s.setRequest i ref new) where
  gc := rfl
  maxSize := rfl
  there _ hdir := hdir
  idle name _ hidle := by
    refine forall_mem_set hidle fun id hnew => ?_
    rcases hworks with hnone | hsame
    · rw [hnone] at hnew
      exact nomatch hnew
    · exact hidle _ (List.mem_of_getElem? hi) id (hsame ▸ hnew)
  unready _ _ _ hnone := hnone

theorem steady_makeDir (hnone : s.disk.dirs.lookup name = none) :
    Steady s ((s.setDisk (s.disk.makeDir s.now name).2).setRequest i ref
      (.extracting name (s.disk.makeDir s.now name).1)) where
  gc := rfl
  maxSize := rfl
  there name' hdir := by
    have hne : name' ≠ name := fun hc => hdir (hc ▸ hnone)
    rw [Server.setRequest, Server.setDisk, Disk.makeDir, hnone, Map.lookup_insert_eq_ite,
      if_neg hne]
    exact hdir
  idle name' hdir hidle := by
    refine forall_mem_set hidle fun id hnew => ?_
    rw [Phase.works, Option.some.injEq, Prod.mk.injEq] at hnew
    exact hdir (hnew.1 ▸ hnone)
  unready name' _ _ hunready := by
    rw [Server.setRequest, Server.setDisk, Disk.makeDir, hnone]
    exact hunready

/-- What a step of a request leaves behind. -/
def Keeps (s s' : Server) : Prop :=
  Tended s' ∧ Steady s s'

theorem keeps_setDisk (hs : Tended s) (hupdated : Updated s.disk.dirs disk.dirs)
    (hready : disk.ready = s.disk.ready) : Keeps s (s.setDisk disk) :=
  ⟨tended_setDisk hs hupdated hready, steady_setDisk hupdated hready⟩

/-- For a request that has nothing to extract to afterwards. -/
theorem keeps_idle (hs : Tended s) (hi : s.requests[i]? = some ⟨ref, old⟩)
    (hworks : new.works = none) (hneeds : new.Needs s.disk) : Keeps s (s.setRequest i ref new) :=
  ⟨tended_setRequest hs hi (.inl hworks) hneeds, steady_setRequest hi (.inl hworks)⟩

theorem keeps_trans {s' s'' : Server} (h : Keeps s s') (h' : Keeps s' s'') : Keeps s s'' :=
  ⟨h'.1, steady_trans h.2 h'.2⟩

/-- What one access of `Get` finds, after what was seen before. -/
def Finds (disk : Disk) (name : String) : Sum Access BlobState → Prop
  | .inl next => disk.Shows name next
  | .inr (.ready complete) => complete = true
  | .inr _ => True

/-- An access of `Get` finds what the ones before it have prepared. If nothing was removed in
    between, a blob that is reported as ready is complete. -/
theorem finds_of_shows (hs : Tended s) {access : Access} (hshows : s.disk.Shows name access) :
    Finds s.disk name (s.disk.get s.now name access).1 := by
  cases access with
  | dir =>
      cases hdir : s.disk.dirs.lookup name with
      | none => simp only [Disk.get, hdir, Finds]
      | some dir =>
          simp only [Disk.get, hdir, Finds]
          exact fun _ => by rw [hdir]; exact Option.some_ne_none _
  | ready =>
      cases hready : s.disk.ready.lookup name with
      | none => simp only [Disk.get, hready, Finds]
      | some _ =>
          have hsome : s.disk.ready.lookup name ≠ none := by
            rw [hready]
            exact Option.some_ne_none _
          simp only [Disk.get, hready, Finds]
          exact ⟨hsome, hshows hsome⟩
  | used =>
      -- What is still ready is complete.
      rcases Option.ne_none_iff_exists'.mp hshows.2 with ⟨dir, hdir⟩
      rw [Disk.get, hdir]
      exact hs.complete name dir hdir hshows.1

/-- A request that has come to the disk for a blob. -/
theorem keeps_get (hs : Tended s) (hi : s.requests[i]? = some ⟨ref, old⟩) {access : Access}
    {result : Sum Access BlobState} (hget : s.disk.get s.now name access = (result, disk))
    (hworks : new.works = none) (hneeds : new.Needs s.disk) :
    Keeps s ((s.setDisk disk).setRequest i ref new) := by
  rcases Disk.get_dirs s.disk s.now name access with ⟨hdirs, hready⟩
  rw [hget] at hdirs hready
  have hsame : disk.dirs = s.disk.dirs := hdirs
  have hupdated : Updated s.disk.dirs disk.dirs := hsame ▸ updated_refl _
  have hdisk : Keeps s (s.setDisk disk) := keeps_setDisk hs hupdated hready
  refine keeps_trans hdisk (keeps_idle hdisk.1 hi hworks (needs_of_same hneeds ?_ ?_))
  · intro name' id hworks'
    rw [hworks] at hworks'
    exact nomatch hworks'
  · exact fun name' access' _ hshows => shows_of_same hshows (there_of_updated hupdated name')
      (congrArg (·.lookup name') hready)

/-- A marker other than the one that says that the blob is ready. -/
theorem keeps_mark (hs : Tended s) {id size : Nat} {m m' : Marker}
    (hi : s.requests[i]? = some ⟨ref, .writing name id size m⟩)
    (hdirs : (s.disk.mark s.now name size m).dirs = s.disk.dirs)
    (hready : (s.disk.mark s.now name size m).ready = s.disk.ready) :
    Keeps s ((s.setDisk (s.disk.mark s.now name size m)).setRequest i ref
      (.writing name id size m')) := by
  have hupdated : Updated s.disk.dirs (s.disk.mark s.now name size m).dirs :=
    hdirs ▸ updated_refl _
  have hdisk : Keeps s (s.setDisk (s.disk.mark s.now name size m)) :=
    keeps_setDisk hs hupdated hready
  have hneeds := hdisk.1.needs _ (List.mem_of_getElem? hi)
  exact keeps_trans hdisk
    ⟨tended_setRequest hdisk.1 hi (.inr rfl) hneeds, steady_setRequest hi (.inr rfl)⟩

/-- A request goes on by itself, with one case for each phase. -/
theorem keeps_go (hs : Tended s) (hi : s.requests[i]? = some ⟨ref, old⟩)
    (hnew : MakesNew s.disk old) {s' : Server} (h : s.go i ref old = some s') : Keeps s s' := by
  cases old with
  | arrived =>
      rw [← Option.some.inj h]
      refine keeps_idle hs hi ?_ ?_
      · split <;> rfl
      · split <;> trivial
  | cached name access =>
      -- The access finds what the invariant says of the disk.
      have hshows : s.disk.Shows name access := hs.needs _ (List.mem_of_getElem? hi)
      have hfinds := finds_of_shows hs hshows
      simp only [Server.go] at h
      split at h
      all_goals
        next hget =>
          rw [hget] at hfinds
          rw [← Option.some.inj h]
          first
            | exact keeps_get hs hi hget rfl hfinds
            | exact keeps_get hs hi hget rfl trivial
  | looping name access =>
      have hshows : s.disk.Shows name access := hs.needs _ (List.mem_of_getElem? hi)
      have hfinds := finds_of_shows hs hshows
      simp only [Server.go] at h
      split at h
      all_goals
        next hget =>
          rw [hget] at hfinds
          rw [← Option.some.inj h]
          exact keeps_get hs hi hget rfl hfinds
  | opened name =>
      simp only [Server.go] at h
      split at h
      · rw [← Option.some.inj h]
        exact keeps_idle hs hi rfl trivial
      · rw [← Option.some.inj h]
        exact keeps_idle hs hi rfl trivial
  -- Only here a directory is made, which has to be a new one.
  | absent name =>
      rw [← Option.some.inj h]
      exact ⟨tended_makeDir hs hi hnew.1 hnew.2, steady_makeDir hnew.1⟩
  -- The marks are written one after another, and with the last one the blob is ready.
  | writing name id size m =>
      cases m with
      | size =>
          rw [← Option.some.inj h]
          exact keeps_mark hs hi rfl rfl
      | used =>
          rw [← Option.some.inj h]
          exact keeps_mark hs hi rfl rfl
      | ready =>
          rw [← Option.some.inj h]
          exact ⟨tended_ready hs hi,
            steady_trans (steady_ready hi) (steady_setRequest hi (.inl rfl))⟩
  | found name complete =>
      rw [← Option.some.inj h]
      -- The name is remembered for the reference, which does not change the disk.
      have hcached : Keeps s { s with refcache := s.refcache.insert ref name } :=
        ⟨⟨hs.complete, hs.needs, hs.alone⟩, ⟨rfl, rfl, fun _ hdir => hdir, fun _ _ hidle => hidle,
          fun _ _ _ hnone => hnone⟩⟩
      have hcomplete := hs.needs _ (List.mem_of_getElem? hi)
      exact keeps_trans hcached (keeps_idle hcached.1 hi rfl hcomplete)
  | _ => cases h

/-- All steps but those of garbage collection. -/
theorem keeps_step {a : Action} (hs : Tended s) (hnew : ∀ i r, a = .go i →
    s.requests[i]? = some r → MakesNew s.disk r.phase) (hcollect : ∀ fails, a ≠ .collect fails)
    {s' : Server} (h : step s a = some s') : Keeps s s' := by
  unfold step at h
  cases a with
  | arrive ref =>
      rw [← Option.some.inj h]
      refine ⟨⟨hs.complete, fun r hr => ?_, ?_⟩,
        ⟨rfl, rfl, fun _ hdir => hdir, ?_, fun _ _ _ hnone => hnone⟩⟩
      · rcases List.mem_append.mp hr with hold | hnew
        · exact hs.needs r hold
        · rw [List.mem_singleton.mp hnew]
          trivial
      · rw [List.flatMap_append, List.flatMap_singleton]
        -- A request that has just come does not extract anything.
        exact (List.append_nil _).symm ▸ hs.alone
      · intro name _ hidle r hr id
        rcases List.mem_append.mp hr with hold | hnew
        · exact hidle r hold id
        · rw [List.mem_singleton.mp hnew]
          exact nofun
  | go i =>
      dsimp only at h
      split at h
      · next r hi => exact keeps_go hs hi (hnew i r rfl hi) h
      · exact nomatch h
  | resolved i layers =>
      dsimp only at h
      split at h
      · -- The request goes on, and the disk is as before.
        next ref hi =>
          rw [← Option.some.inj h]
          refine keeps_idle hs hi ?_ ?_
          · split <;> rfl
          · split <;> trivial
      · exact nomatch h
  | fetched i ok =>
      dsimp only at h
      split at h
      · next ref name hi =>
          rw [← Option.some.inj h]
          refine keeps_idle hs hi ?_ ?_
          · split <;> rfl
          · split <;> trivial
      · exact nomatch h
  | untarred i size =>
      dsimp only at h
      split at h
      · next ref name id hi =>
          -- Where the extraction fails, the directory stays as it is.
          cases size with
          | none =>
              rw [← Option.some.inj h]
              exact keeps_idle hs hi rfl trivial
          | some size =>
              rw [← Option.some.inj h]
              -- The directory is still the one that was made for this request.
              have hneeds : Phase.Needs s.disk (.extracting name id) :=
                hs.needs _ (List.mem_of_getElem? hi)
              rcases hneeds with ⟨dir, hdir, hid, _⟩
              have hunpacked : s.disk.unpacked name id = { s.disk with
                  dirs := s.disk.dirs.insert name { dir with complete := true } } := by
                rw [Disk.unpacked, hdir]
                exact if_pos hid
              refine ⟨tended_unpacked hs hi, steady_trans (steady_setDisk ?_ ?_)
                (steady_setRequest hi (.inr rfl))⟩
              · rw [hunpacked]
                exact updated_insert hdir rfl fun _ => rfl
              · rw [hunpacked]
      · exact nomatch h
  | touch name =>
      dsimp only at h
      split at h
      · next dir hdir =>
          -- Touching a file changes neither whether the blob is complete nor whose directory it
          -- is.
          split at h
          · rw [← Option.some.inj h]
            exact keeps_setDisk hs (updated_insert hdir rfl id) rfl
          · exact nomatch h
      · exact nomatch h
  | collect fails => exact absurd rfl (hcollect fails)
  | tick n =>
      rw [← Option.some.inj h]
      exact ⟨⟨hs.complete, hs.needs, hs.alone⟩, ⟨rfl, rfl, fun _ hdir => hdir, fun _ _ h => h,
        fun _ _ _ hnone => hnone⟩⟩

/-! ## What the lists say -/

/-- The blobs a run has looked at are those it has removed and the rest, and each of them is there
once. What was removed was not used later than what is left. -/
structure Books (s : Traced) (rest : List GcBlob) : Prop where
  looked : (s.looked.map Seen.blob).Perm ((s.removed.filter Seen.ready).map Seen.blob ++ rest)
  nodup : ((s.removed.map Seen.blob ++ rest).map GcBlob.name).Nodup
  oldest : ∀ x ∈ s.removed, x.ready = true → ∀ blob ∈ rest, x.blob.lastUsed ≤ blob.lastUsed
  sizes : ∀ y ∈ s.looked, y.ready = false → y.blob.size = 0

/-- The size of some blobs, without overflow. -/
def sizeOf (blobs : List GcBlob) : Int :=
  (blobs.map GcBlob.size).sum

/-- By the list, which has the names of what was removed. -/
theorem isRemoved_iff (t : Traced) (name : String) :
    isRemoved t name = true ↔ name ∈ (t.removed.map Seen.blob).map GcBlob.name := by
  rw [isRemoved, List.any_eq_true, List.map_map, List.mem_map]
  exact exists_congr fun seen => and_congr_right fun _ => decide_eq_true_iff

variable {t t' : Traced} {rest : List GcBlob}

/-- A blob that is not ready has no size, so that leaving it out changes no sum. -/
theorem sum_filter_ready (seens : List Seen) (p : Seen → Bool)
    (hsizes : ∀ y ∈ seens, y.ready = false → y.blob.size = 0) :
    ((seens.filter fun seen => seen.ready && p seen).map fun seen => seen.blob.size).sum =
      ((seens.filter p).map fun seen => seen.blob.size).sum := by
  induction seens with
  | nil => rfl
  | cons seen seens ih =>
      have htail := ih fun y hy => hsizes y (List.mem_cons_of_mem _ hy)
      cases hp : p seen with
      | false =>
          rw [List.filter_cons_of_neg (by simp only [hp, Bool.and_false, Bool.false_eq_true,
            not_false_eq_true]), List.filter_cons_of_neg (by rw [hp]; exact nofun), htail]
      | true =>
          rw [List.filter_cons_of_pos hp, List.map_cons, List.sum_cons]
          cases hready : seen.ready with
          | true =>
              rw [List.filter_cons_of_pos (by rw [hready, hp]; rfl), List.map_cons, List.sum_cons,
                htail]
          | false =>
              rw [List.filter_cons_of_neg (by rw [hready]; exact nofun), htail,
                hsizes seen List.mem_cons_self hready, Int.zero_add]

/-- The rest is what the run has left. -/
theorem unremoved_of_books (h : Books t rest) :
    ((left t).map fun seen => seen.blob.size).sum = sizeOf rest := by
  rw [left, sum_filter_ready t.looked _ h.sizes]
  have hcomp : (t.looked.filter fun seen => !isRemoved t seen.blob.name).map Seen.blob =
      (t.looked.map Seen.blob).filter fun blob => !isRemoved t blob.name := by
    rw [List.filter_map]
    rfl
  have hsum : ((t.looked.filter fun seen => !isRemoved t seen.blob.name).map
      fun seen => seen.blob.size) =
        ((t.looked.map Seen.blob).filter fun blob => !isRemoved t blob.name).map GcBlob.size := by
    rw [← hcomp, List.map_map]
    rfl
  have hnodup := h.nodup
  rw [List.map_append, List.nodup_append] at hnodup
  -- Every name is there once, so that what is left has the name of nothing that was removed.
  have hremoved : ((t.removed.filter Seen.ready).map Seen.blob).filter
      (fun blob => !isRemoved t blob.name) = [] := by
    refine List.filter_eq_nil_iff.mpr fun blob hblob => ?_
    rcases List.mem_map.mp hblob with ⟨seen, hseen, rfl⟩
    have hmem := List.mem_map_of_mem (f := Seen.blob) (List.mem_filter.mp hseen).1
    rw [(isRemoved_iff t _).mpr (List.mem_map_of_mem hmem)]
    exact nofun
  have hrest : rest.filter (fun blob => !isRemoved t blob.name) = rest := by
    refine List.filter_eq_self.mpr fun blob hblob => ?_
    rw [Bool.not_eq_true', ← Bool.not_eq_true, isRemoved_iff]
    exact fun hmem => hnodup.2.2 _ hmem _ (List.mem_map_of_mem hblob) rfl
  have hperm := h.looked.filter fun blob => !isRemoved t blob.name
  rw [List.filter_append, hremoved, hrest, List.nil_append] at hperm
  rw [hsum, sizeOf]
  exact (hperm.map GcBlob.size).sum_eq

/-- What is used less recently than something that was removed was removed too. -/
theorem removed_of_books (h : Books t rest) :
    ∀ x ∈ t.removed, x.ready = true → ∀ y ∈ t.looked, y.ready = true →
      y.blob.lastUsed < x.blob.lastUsed → isRemoved t y.blob.name = true := by
  intro x hx hready y hy _ hless
  have hmem := h.looked.mem_iff.mp (List.mem_map_of_mem hy)
  rcases List.mem_append.mp hmem with hremoved | hrest
  · rcases List.mem_map.mp hremoved with ⟨seen, hseen, hblob⟩
    refine (isRemoved_iff t _).mpr (List.mem_map_of_mem ?_)
    exact hblob ▸ List.mem_map_of_mem (List.mem_filter.mp hseen).1
  · exact absurd hless (Nat.not_lt.mpr (h.oldest x hx hready _ hrest))

/-- The next blob of the rest is removed. -/
theorem books_remove {blob : GcBlob} (h : Books t (blob :: rest))
    (hsorted : ∀ b ∈ rest, blob.lastUsed ≤ b.lastUsed) (htlooked : t'.looked = t.looked)
    (htremoved : t'.removed = t.removed ++ [⟨blob, true⟩]) : Books t' rest where
  looked := by
    have hfilter : (t.removed ++ [(⟨blob, true⟩ : Seen)]).filter Seen.ready =
        t.removed.filter Seen.ready ++ [⟨blob, true⟩] := List.filter_append ..
    rw [htlooked, htremoved, hfilter, List.map_append, List.append_assoc]
    exact h.looked
  nodup := by
    have happend : (t.removed ++ [(⟨blob, true⟩ : Seen)]).map Seen.blob ++ rest =
        t.removed.map Seen.blob ++ blob :: rest := by
      rw [List.map_append, List.append_assoc]
      rfl
    rw [htremoved, happend]
    exact h.nodup
  oldest x hx hready b hb := by
    rw [htremoved] at hx
    rcases List.mem_append.mp hx with hold | hnew
    · exact h.oldest x hold hready b (List.mem_cons_of_mem _ hb)
    · rw [List.mem_singleton.mp hnew]
      exact hsorted b hb
  sizes := by
    rw [htlooked]
    exact h.sizes

/-- The order of the rest does not matter. -/
theorem books_perm {rest' : List GcBlob} (h : Books t rest) (hperm : rest'.Perm rest) :
    Books t rest' where
  looked := h.looked.trans (hperm.symm.append_left _)
  nodup := ((hperm.append_left _).map _).nodup_iff.mpr h.nodup
  oldest x hx hready blob hblob := h.oldest x hx hready blob (hperm.mem_iff.mp hblob)
  sizes := h.sizes

theorem books_of_same (h : Books t rest) (hlooked : t'.looked = t.looked)
    (hremoved : t'.removed = t.removed) : Books t' rest := by
  refine ⟨?_, ?_, ?_, ?_⟩
  · rw [hlooked, hremoved]
    exact h.looked
  · rw [hremoved]
    exact h.nodup
  · rw [hremoved]
    exact h.oldest
  · rw [hlooked]
    exact h.sizes

/-! ## The invariant -/

/-- The run is to remove what is left until it is small enough. -/
structure Pending (t : Traced) (rest : List GcBlob) (total : Int) : Prop where
  books : Books t rest
  sorted : rest.Pairwise fun a b => a.lastUsed ≤ b.lastUsed
  fits : Fits rest
  total : total = sizeOf rest
  there : ∀ blob ∈ rest, t.server.disk.dirs.lookup blob.name ≠ none

/-- The run has removed the first marker of a blob, which is not ready any more, and nobody
extracts to its directory. -/
structure Leaving (t : Traced) (blob : GcBlob) (rest : List GcBlob) (total : Int) : Prop where
  pending : Pending t rest (total - blob.size)
  there : t.server.disk.dirs.lookup blob.name ≠ none
  others : ∀ b ∈ rest, b.name ≠ blob.name
  idle : ∀ r ∈ t.server.requests, ∀ id, r.phase.works ≠ some (blob.name, id)
  unready : t.server.disk.ready.lookup blob.name = none

/-- The run has looked at some directories, and is to look at others. -/
structure Scanned (t : Traced) (names : List String) (blobs : List GcBlob) : Prop where
  looked : t.looked.map Seen.blob = blobs
  removed : ∀ x ∈ t.removed, x.ready = false
  nodup : ((t.removed.map Seen.blob ++ blobs).map GcBlob.name ++ names).Nodup
  sizes : ∀ y ∈ t.looked, y.ready = false → y.blob.size = 0
  there : ∀ blob ∈ blobs, t.server.disk.dirs.lookup blob.name ≠ none
  listed : ∀ name ∈ names, t.server.disk.dirs.lookup name ≠ none

/-- What is settled of a run, depending on where it is. -/
def Accounted (t : Traced) : Gc → Prop
  | .waiting => ∃ rest, Books t rest ∧ (t.server.maxSize > 0 → sizeOf rest ≤ t.server.maxSize)
  | .scanning files blobs => Scanned t (files.map Prod.fst) blobs
  | .readingSize blob files blobs | .readingUsed blob files blobs =>
      Scanned t (blob.name :: files.map Prod.fst) blobs ∧ t.found = true
  | .judging blob files blobs =>
      Scanned t (blob.name :: files.map Prod.fst) blobs ∧ (t.found = false → blob.size = 0)
  | .evicting rest total => Pending t rest total
  | .removing blob (.marker .ready) rest total => Pending t (blob :: rest) total
  | .removing blob (.marker .size) rest total | .removing blob (.marker .used) rest total
  | .removing blob .dir rest total => Leaving t blob rest total

variable {files : List (String × Nat)} {names : List String} {blob : GcBlob} {blobs : List GcBlob}
  {total : Int} {gc : Gc}

/-- A sum is not larger than that of the absolute values. -/
theorem natAbs_sizeOf_le (blobs : List GcBlob) :
    (sizeOf blobs).natAbs ≤ (blobs.map fun blob => blob.size.natAbs).sum := by
  induction blobs with
  | nil => exact Nat.le_refl 0
  | cons blob blobs ih =>
      have hcons : sizeOf (blob :: blobs) = blob.size + sizeOf blobs := List.sum_cons
      rw [hcons, List.map_cons, List.sum_cons]
      exact (Int.natAbs_add_le _ _).trans (Nat.add_le_add_left ih _)

theorem wrap_sizeOf (h : Fits blobs) : wrap (sizeOf blobs) = sizeOf blobs := by
  have hle := (natAbs_sizeOf_le blobs).trans_lt h
  refine Int.bmod_eq_of_le_mul_two ?_ ?_
  · omega
  · omega

theorem fits_of_cons (h : Fits (blob :: blobs)) : Fits blobs := by
  unfold Fits at h ⊢
  rw [List.map_cons, List.sum_cons] at h
  exact (Nat.le_add_left _ _).trans_lt h

/-- What is still to be removed depends on the lists and on the directories that are left. -/
theorem pending_of_same {server : Server} (h : Pending t rest total)
    (hlooked : t'.looked = t.looked) (hremoved : t'.removed = t.removed)
    (hserver : t'.server = server)
    (hthere : ∀ blob ∈ rest, server.disk.dirs.lookup blob.name ≠ none) :
    Pending t' rest total :=
  ⟨books_of_same h.books hlooked hremoved, h.sorted, h.fits, h.total, hserver ▸ hthere⟩

/-- What a run knows stays true while requests take steps. -/
theorem accounted_of_steady (h : Accounted t gc)
    (hsteady : Steady t.server t'.server) (hlooked : t'.looked = t.looked)
    (hremoved : t'.removed = t.removed) (hfound : t'.found = t.found) : Accounted t' gc := by
  have hpending : ∀ {rest total}, Pending t rest total → Pending t' rest total :=
    fun h => pending_of_same h hlooked hremoved rfl
      fun blob hblob => hsteady.there _ (h.there blob hblob)
  have hleaving : ∀ {blob rest total}, Leaving t blob rest total → Leaving t' blob rest total :=
    fun h => ⟨hpending h.pending, hsteady.there _ h.there, h.others,
      hsteady.idle _ h.there h.idle, hsteady.unready _ h.there h.idle h.unready⟩
  have hscanned : ∀ {names blobs}, Scanned t names blobs → Scanned t' names blobs :=
    fun h => ⟨hlooked ▸ h.looked, hremoved ▸ h.removed, hremoved ▸ h.nodup, hlooked ▸ h.sizes,
      fun blob hblob => hsteady.there _ (h.there blob hblob),
      fun name hname => hsteady.there _ (h.listed name hname)⟩
  cases gc with
  | waiting =>
      rcases h with ⟨rest, hbooks, hsmall⟩
      refine ⟨rest, books_of_same hbooks hlooked hremoved, ?_⟩
      rw [hsteady.maxSize]
      exact hsmall
  | scanning files blobs => exact hscanned h
  | readingSize blob files blobs => exact ⟨hscanned h.1, hfound ▸ h.2⟩
  | readingUsed blob files blobs => exact ⟨hscanned h.1, hfound ▸ h.2⟩
  | judging blob files blobs => exact ⟨hscanned h.1, hfound ▸ h.2⟩
  | evicting rest total => exact hpending h
  | removing blob removal rest total =>
      cases removal with
      | dir => exact hleaving h
      | marker m =>
          cases m with
          | ready => exact hpending h
          | size => exact hleaving h
          | used => exact hleaving h

/-! ## A step of garbage collection -/

/-- When all directories were looked at, the run has looked at everything it is going to decide
    about. -/
theorem books_of_scanned (h : Scanned t [] blobs) : Books t blobs where
  looked := by
    have hnone : t.removed.filter Seen.ready = [] :=
      List.filter_eq_nil_iff.mpr fun x hx => by rw [h.removed x hx]; exact nofun
    rw [hnone, h.looked]
    exact List.Perm.refl _
  nodup := by
    have hnodup := h.nodup
    rwa [List.append_nil] at hnodup
  oldest x hx hready := by
    rw [h.removed x hx] at hready
    exact nomatch hready
  sizes := h.sizes

/-- The directories are listed. -/
theorem scanned_readDir (hlooked : t.looked = []) (hremoved : t.removed = [])
    (hfiles : files = [] ∨ files = readDir t.server.disk) :
    Scanned t (files.map Prod.fst) [] where
  looked := by rw [hlooked]; rfl
  removed x hx := by
    rw [hremoved] at hx
    exact absurd hx List.not_mem_nil
  nodup := by
    rw [hremoved]
    rcases hfiles with rfl | rfl
    · exact List.nodup_nil
    · have hkeys : (readDir t.server.disk).map Prod.fst = t.server.disk.dirs.keys := by
        rw [readDir, List.map_map]
        rfl
      rw [hkeys]
      exact AList.keys_nodup _
  sizes y hy := by
    rw [hlooked] at hy
    exact absurd hy List.not_mem_nil
  there blob hblob := absurd hblob List.not_mem_nil
  listed name hname := by
    rcases hfiles with rfl | rfl
    · exact absurd hname List.not_mem_nil
    · rw [readDir, List.map_map, List.mem_map] at hname
      rcases hname with ⟨entry, hentry, rfl⟩
      exact (Map.mem_keys_iff _ _).mp (List.mem_map_of_mem (f := Sigma.fst) hentry)

/-- A directory that is too old is removed. -/
theorem scanned_remove {seen : Seen} (h : Scanned t (name :: names) blobs)
    (hname : seen.blob.name = name) (hready : seen.ready = false)
    (hlooked : t'.looked = t.looked) (hremoved : t'.removed = t.removed ++ [seen])
    (hdirs : t'.server.disk.dirs = t.server.disk.dirs.erase name) : Scanned t' names blobs := by
  have hnodup := h.nodup
  have hkept : ∀ name', name' ≠ name → t.server.disk.dirs.lookup name' ≠ none →
      t'.server.disk.dirs.lookup name' ≠ none := by
    intro name' hne hdir
    rwa [hdirs, Map.lookup_erase_eq_ite, if_neg hne]
  have hfresh : name ∉ names :=
    (List.nodup_cons.mp (List.nodup_append.mp hnodup).2.1).1
  have hold : ∀ blob ∈ blobs, blob.name ≠ name := fun blob hblob =>
    (List.nodup_append.mp hnodup).2.2 _
      (List.mem_map_of_mem (List.mem_append_right _ hblob)) _ List.mem_cons_self
  refine ⟨hlooked ▸ h.looked, fun x hx => ?_, ?_, hlooked ▸ h.sizes,
    fun blob hblob => hkept _ (hold blob hblob) (h.there blob hblob),
    fun name' hname' => hkept _ ?_ (h.listed name' (List.mem_cons_of_mem _ hname'))⟩
  · rw [hremoved] at hx
    rcases List.mem_append.mp hx with hbefore | hnew
    · exact h.removed x hbefore
    · rw [List.mem_singleton.mp hnew]
      exact hready
  -- The name goes from those to look at to those that were removed.
  · have hperm : (((t.removed ++ [seen]).map Seen.blob ++ blobs).map GcBlob.name ++
        names).Perm ((t.removed.map Seen.blob ++ blobs).map GcBlob.name ++ name :: names) := by
      rw [List.map_append, List.map_append, List.map_append, List.map_append, ← hname,
        List.append_assoc, List.append_assoc, List.append_assoc, List.map_singleton,
        List.map_singleton, List.singleton_append]
      exact List.perm_middle.symm.append_left _
    rw [hremoved]
    exact hperm.nodup_iff.mpr hnodup
  · exact fun hc => hfresh (hc ▸ hname')

/-- A directory that is not too old is one of those the run may remove. -/
theorem scanned_look (seen : Seen) (h : Scanned t (name :: names) blobs)
    (hname : seen.blob.name = name) (hsize : seen.ready = false → seen.blob.size = 0)
    (hlooked : t'.looked = t.looked ++ [seen]) (hremoved : t'.removed = t.removed)
    (hdirs : t'.server.disk.dirs = t.server.disk.dirs) :
    Scanned t' names (blobs ++ [seen.blob]) := by
  refine ⟨?_, hremoved ▸ h.removed, ?_, fun y hy => ?_, fun blob hblob => ?_,
    fun name' hname' => hdirs ▸ h.listed name' (List.mem_cons_of_mem _ hname')⟩
  · rw [hlooked, List.map_append, h.looked]
    rfl
  · have hsame : (t.removed.map Seen.blob ++ (blobs ++ [seen.blob])).map GcBlob.name ++ names =
        (t.removed.map Seen.blob ++ blobs).map GcBlob.name ++ name :: names := by
      rw [← List.append_assoc, List.map_append, List.append_assoc, ← hname]
      rfl
    rw [hremoved, hsame]
    exact h.nodup
  · rw [hlooked] at hy
    rcases List.mem_append.mp hy with hold | hnew
    · exact h.sizes y hold
    · rw [List.mem_singleton.mp hnew]
      exact hsize
  · rcases List.mem_append.mp hblob with hold | hnew
    · exact hdirs ▸ h.there blob hold
    · rw [hdirs, List.mem_singleton.mp hnew, hname]
      exact h.listed name List.mem_cons_self

/-- The run has looked at everything, and what there is is too much. -/
theorem pending_of_scanned (h : Scanned t [] blobs) (hfits : Fits blobs) :
    Pending t (blobs.insertionSort fun a b => a.lastUsed ≤ b.lastUsed) (totalSize blobs) := by
  have hperm := List.perm_insertionSort (fun a b : GcBlob => a.lastUsed ≤ b.lastUsed) blobs
  have htotal : Std.Total fun a b : GcBlob => a.lastUsed ≤ b.lastUsed :=
    ⟨fun a b => Nat.le_total a.lastUsed b.lastUsed⟩
  have htrans : IsTrans GcBlob fun a b => a.lastUsed ≤ b.lastUsed :=
    ⟨fun a b c => Nat.le_trans⟩
  refine ⟨books_perm (books_of_scanned h) hperm, List.pairwise_insertionSort _ _, ?_, ?_,
    fun blob hblob => h.there blob (hperm.mem_iff.mp hblob)⟩
  · unfold Fits
    rw [(hperm.map fun blob => blob.size.natAbs).sum_eq]
    exact hfits
  · rw [sizeOf, (hperm.map GcBlob.size).sum_eq]
    exact wrap_sizeOf hfits

/-- The first marker of the next blob is removed. -/
theorem leaving_of_pending (hs : Tended t.server) (h : Pending t (blob :: rest) total)
    (hready : t.server.disk.ready.lookup blob.name ≠ none) (hlooked : t'.looked = t.looked)
    (hremoved : t'.removed = t.removed ++ [⟨blob, true⟩])
    (hdirs : t'.server.disk.dirs = t.server.disk.dirs)
    (hunready : t'.server.disk.ready.lookup blob.name = none)
    (hrequests : t'.server.requests = t.server.requests) : Leaving t' blob rest total := by
  rcases List.pairwise_cons.mp h.sorted with ⟨hfirst, hsorted⟩
  have hnodup := h.books.nodup
  rw [List.map_append, List.map_cons, List.nodup_append, List.nodup_cons] at hnodup
  refine ⟨⟨books_remove h.books hfirst hlooked hremoved, hsorted, fits_of_cons h.fits, ?_,
    fun b hb => hdirs ▸ h.there b (List.mem_cons_of_mem _ hb)⟩,
    hdirs ▸ h.there blob List.mem_cons_self,
    fun b hb hc => hnodup.2.1.1 (hc ▸ List.mem_map_of_mem hb), ?_, hunready⟩
  · have hcons : sizeOf (blob :: rest) = blob.size + sizeOf rest := List.sum_cons
    rw [h.total, hcons]
    omega
  · rw [hrequests]
    exact not_works_of_tended hs (.inr hready)

/-- The directory is removed at last. -/
theorem pending_of_leaving (h : Leaving t blob rest total) (hlooked : t'.looked = t.looked)
    (hremoved : t'.removed = t.removed)
    (hdirs : t'.server.disk.dirs = t.server.disk.dirs.erase blob.name) :
    Pending t' rest (wrap (total - blob.size)) := by
  have htotal : wrap (total - blob.size) = total - blob.size := by
    rw [h.pending.total, wrap_sizeOf h.pending.fits]
  rw [htotal]
  refine pending_of_same h.pending hlooked hremoved rfl fun b hb => ?_
  rw [hdirs, Map.lookup_erase_eq_ite, if_neg (h.others b hb)]
  exact h.pending.there b hb

/-- What holds of every orderly run. -/
def Holds (t : Traced) : Prop :=
  Tended t.server ∧ Accounted t t.server.gc

theorem see_name (disk : Disk) (name : String) (modTime : Nat) :
    (see disk name modTime).blob.name = name := by
  unfold see
  split <;> rfl

theorem see_of_unready {disk : Disk} {name : String} (h : disk.ready.lookup name = none)
    (modTime : Nat) : (see disk name modTime).ready = false := by
  rw [see, h]

theorem tended_gc {server : Server} (h : Tended (server.setDisk disk)) (gc : Gc) :
    Tended { server with gc := gc, disk := disk } :=
  ⟨h.complete, h.needs, h.alone⟩

theorem scanned_of_same (h : Scanned t names blobs) (hlooked : t'.looked = t.looked)
    (hremoved : t'.removed = t.removed) (hdirs : t'.server.disk.dirs = t.server.disk.dirs) :
    Scanned t' names blobs :=
  ⟨hlooked ▸ h.looked, hremoved ▸ h.removed, hremoved ▸ h.nodup, hlooked ▸ h.sizes,
    fun blob hblob => hdirs ▸ h.there blob hblob, fun name hname => hdirs ▸ h.listed name hname⟩

/-- The next directory is looked at. -/
theorem holds_scan {modTime : Nat} {fails : Bool} (hs : Tended t.server)
    (h : Scanned t (name :: files.map Prod.fst) blobs)
    (hresult : (collect t.server.maxSize t.server.now fails t.server.disk
      (.scanning ((name, modTime) :: files) blobs)) = (gc, disk)) :
    Holds { note t fails (.scanning ((name, modTime) :: files) blobs) with
      server := { t.server with gc := gc, disk := disk } } := by
  cases hready : t.server.disk.ready.lookup name with
  | none =>
      rw [collect, hready, Prod.mk.injEq] at hresult
      rcases hresult with ⟨rfl, rfl⟩
      exact ⟨⟨hs.complete, hs.needs, hs.alone⟩, scanned_of_same h rfl rfl rfl, fun _ => rfl⟩
  | some _ =>
      rw [collect, hready, Prod.mk.injEq] at hresult
      rcases hresult with ⟨rfl, rfl⟩
      refine ⟨⟨hs.complete, hs.needs, hs.alone⟩, scanned_of_same h rfl rfl rfl, ?_⟩
      rw [note, hready]
      rfl

theorem holds_judge {fails : Bool} (hs : Tended t.server)
    (h : Scanned t (blob.name :: files.map Prod.fst) blobs)
    (hsize : t.found = false → blob.size = 0)
    (horderly : OrderlyGc t.server fails (.judging blob files blobs))
    (hresult : (collect t.server.maxSize t.server.now fails t.server.disk
      (.judging blob files blobs)) = (gc, disk)) :
    Holds { note t fails (.judging blob files blobs) with
      server := { t.server with gc := gc, disk := disk } } := by
  by_cases hstale : isStale t.server.now blob = true
  · rcases horderly hstale with ⟨rfl, hunready, hidle⟩
    rw [collect, if_pos hstale, Prod.mk.injEq] at hresult
    rcases hresult with ⟨rfl, rfl⟩
    have hnote : note t false (.judging blob files blobs) =
        { t with removed := t.removed ++ [see t.server.disk blob.name blob.lastUsed] } := by
      rw [note]
      exact if_pos hstale
    rw [hnote]
    exact ⟨tended_gc (tended_removeDir hs hidle hunready) _,
      scanned_remove h (see_name ..) (see_of_unready hunready _) rfl rfl rfl⟩
  · rw [collect, if_neg hstale, Prod.mk.injEq] at hresult
    rcases hresult with ⟨rfl, rfl⟩
    have hnote : note t fails (.judging blob files blobs) =
        { t with looked := t.looked ++ [⟨blob, t.found⟩] } := by
      rw [note]
      exact if_neg hstale
    rw [hnote]
    exact ⟨⟨hs.complete, hs.needs, hs.alone⟩,
      scanned_look ⟨blob, t.found⟩ h rfl hsize rfl rfl rfl⟩

theorem leaving_of_same (h : Leaving t blob rest total) (hlooked : t'.looked = t.looked)
    (hremoved : t'.removed = t.removed) (hdirs : t'.server.disk.dirs = t.server.disk.dirs)
    (hready : t'.server.disk.ready = t.server.disk.ready)
    (hrequests : t'.server.requests = t.server.requests) : Leaving t' blob rest total :=
  ⟨pending_of_same h.pending hlooked hremoved rfl fun b hb => hdirs ▸ h.pending.there b hb,
    hdirs ▸ h.there, h.others, hrequests ▸ h.idle, hready ▸ h.unready⟩

/-- What is removed of a blob after the first marker. -/
theorem holds_remove {removal : Removal} (hs : Tended t.server) (h : Leaving t blob rest total)
    (hremoval : removal ≠ .marker .ready)
    (hresult : (collect t.server.maxSize t.server.now false t.server.disk
      (.removing blob removal rest total)) = (gc, disk)) :
    Holds { t with server := { t.server with gc := gc, disk := disk } } := by
  cases removal with
  | dir =>
      rw [collect, if_neg Bool.false_ne_true, Prod.mk.injEq] at hresult
      rcases hresult with ⟨rfl, rfl⟩
      exact ⟨tended_gc (tended_removeDir hs h.idle h.unready) _, pending_of_leaving h rfl rfl rfl⟩
  | marker m =>
      cases m with
      | ready => exact absurd rfl hremoval
      | size =>
          rw [collect, if_neg Bool.false_ne_true, Prod.mk.injEq] at hresult
          rcases hresult with ⟨rfl, rfl⟩
          have hready : Marker.size ≠ .ready := fun heq => hremoval (congrArg Removal.marker heq)
          exact ⟨tended_gc (tended_removeMarker hs .size fun heq => absurd heq hready) _,
            leaving_of_same h rfl rfl rfl rfl rfl⟩
      | used =>
          rw [collect, if_neg Bool.false_ne_true, Prod.mk.injEq] at hresult
          rcases hresult with ⟨rfl, rfl⟩
          have hready : Marker.used ≠ .ready := fun heq => hremoval (congrArg Removal.marker heq)
          exact ⟨tended_gc (tended_removeMarker hs .used fun heq => absurd heq hready) _,
            leaving_of_same h rfl rfl rfl rfl rfl⟩

/-- One step of the run, with one case for each place where it may be. -/
theorem holds_collect {fails : Bool} (hs : Tended t.server) (h : Accounted t t.server.gc)
    (hon : t.server.maxSize > 0) (horderly : OrderlyGc t.server fails t.server.gc)
    (hresult : (collect t.server.maxSize t.server.now fails t.server.disk t.server.gc) =
      (gc, disk)) :
    Holds { note t fails t.server.gc with server := { t.server with gc := gc, disk := disk } } := by
  have htended : ∀ gc, Tended { t.server with gc := gc } :=
    fun gc => ⟨hs.complete, hs.needs, hs.alone⟩
  cases hgc : t.server.gc with
  | waiting =>
      rw [hgc, collect, Prod.mk.injEq] at hresult
      rcases hresult with ⟨rfl, rfl⟩
      refine ⟨htended _, scanned_readDir rfl rfl ?_⟩
      -- If the directories cannot be listed there is nothing to look at.
      cases fails with
      | true => exact .inl rfl
      | false => exact .inr rfl
  | scanning files blobs =>
      rw [hgc] at h horderly hresult
      cases files with
      | cons file files => exact holds_scan hs h hresult
      | nil =>
          -- What the scan has found fits, or it is evicted blob by blob.
          by_cases htotal : totalSize blobs > t.server.maxSize
          · rw [collect, if_pos htotal, Prod.mk.injEq] at hresult
            rcases hresult with ⟨rfl, rfl⟩
            exact ⟨htended _, pending_of_same (pending_of_scanned h horderly) rfl rfl rfl
              (pending_of_scanned h horderly).there⟩
          · rw [collect, if_neg htotal, Prod.mk.injEq] at hresult
            rcases hresult with ⟨rfl, rfl⟩
            -- What was found is no more than the limit, so nothing has to go.
            refine ⟨htended _, blobs, books_of_same (books_of_scanned h) rfl rfl, fun _ => ?_⟩
            rw [← wrap_sizeOf horderly]
            exact Int.not_lt.mp htotal
  | readingSize blob files blobs =>
      rw [hgc] at h hresult
      rw [collect, Prod.mk.injEq] at hresult
      rcases hresult with ⟨rfl, rfl⟩
      exact ⟨htended _, scanned_of_same h.1 rfl rfl rfl, h.2⟩
  | readingUsed blob files blobs =>
      rw [hgc] at h hresult
      rw [collect, Prod.mk.injEq] at hresult
      rcases hresult with ⟨rfl, rfl⟩
      refine ⟨htended _, scanned_of_same h.1 rfl rfl rfl, fun hfalse => ?_⟩
      exact absurd (hfalse.symm.trans h.2) Bool.false_ne_true
  | judging blob files blobs =>
      rw [hgc] at h horderly hresult
      exact holds_judge hs h.1 h.2 horderly hresult
  | evicting rest total =>
      rw [hgc] at h hresult
      cases rest with
      | nil =>
          rw [collect, Prod.mk.injEq] at hresult
          rcases hresult with ⟨rfl, rfl⟩
          exact ⟨htended _, [], books_of_same h.books rfl rfl, fun _ => Int.le_of_lt hon⟩
      | cons blob rest =>
          -- Blobs are removed as long as what is left is too much.
          by_cases htotal : total > t.server.maxSize
          · rw [collect, if_pos htotal, Prod.mk.injEq] at hresult
            rcases hresult with ⟨rfl, rfl⟩
            exact ⟨htended _, pending_of_same h rfl rfl rfl h.there⟩
          · rw [collect, if_neg htotal, Prod.mk.injEq] at hresult
            rcases hresult with ⟨rfl, rfl⟩
            refine ⟨htended _, blob :: rest, books_of_same h.books rfl rfl, fun _ => ?_⟩
            rw [← h.total]
            exact Int.not_lt.mp htotal
  | removing blob removal rest total =>
      rw [hgc] at h horderly hresult
      cases removal with
      | dir =>
          obtain rfl : fails = false := horderly
          exact holds_remove hs h (by intro hc; cases hc) hresult
      | marker m =>
          cases m with
          | size =>
              obtain rfl : fails = false := horderly
              exact holds_remove hs h (by intro hc; cases hc) hresult
          | used =>
              obtain rfl : fails = false := horderly
              exact holds_remove hs h (by intro hc; cases hc) hresult
          | ready =>
              rcases horderly with ⟨rfl, hseen, hunseen⟩
              rw [collect, if_neg Bool.false_ne_true, Prod.mk.injEq] at hresult
              rcases hresult with ⟨rfl, rfl⟩
              -- From the first marker on the blob counts as removed.
              have hnote : note t false (.removing blob (.marker .ready) rest total) =
                  { t with removed := t.removed ++ [⟨blob, true⟩] } := by
                rw [note, if_neg Bool.false_ne_true, hseen]
              have hready : t.server.disk.ready.lookup blob.name ≠ none := by
                intro hnone
                have hsome := congrArg Seen.ready hseen
                rw [see_of_unready hnone] at hsome
                exact Bool.false_ne_true hsome
              rw [hnote]
              exact ⟨tended_gc (tended_removeMarker hs .ready fun _ => hunseen) _,
                leaving_of_pending hs h hready rfl rfl rfl
                  ((Map.lookup_erase_eq_ite ..).trans (if_pos rfl)) rfl⟩

theorem noted_of_ne (t : Traced) {a : Action} (hcollect : ∀ fails, ¬ a = .collect fails) :
    noted t a = t := by
  cases a with
  | collect fails => exact absurd rfl (hcollect fails)
  | _ => rfl

/-- Every step keeps what holds: those of requests leave the run's account alone, and those of
    garbage collection are the ones of the run. -/
theorem holds_step {t' : Traced} {a : Action} (h : Holds t) (horderly : Orderly t a)
    (hstep : tracedStep t a = some t') : Holds t' := by
  unfold tracedStep at hstep
  cases hserver : step t.server a with
  | none =>
      rw [hserver] at hstep
      exact nomatch hstep
  | some server =>
      rw [hserver, Option.some.injEq] at hstep
      rw [← hstep]
      by_cases hcollect : ∃ fails, a = .collect fails
      · rcases hcollect with ⟨fails, rfl⟩
        unfold step at hserver
        dsimp only at hserver
        split at hserver
        · next hon =>
            rcases hresult : collect t.server.maxSize t.server.now fails t.server.disk
              t.server.gc with ⟨gc, disk⟩
            rw [hresult, Option.some.injEq] at hserver
            rw [← hserver]
            exact holds_collect h.1 h.2 hon horderly hresult
        · exact nomatch hserver
      · rw [not_exists] at hcollect
        -- Every other step leaves the collection where it is.
        have hnew : ∀ i r, a = .go i → t.server.requests[i]? = some r →
            MakesNew t.server.disk r.phase := by
          rintro i r rfl hi
          exact horderly r hi
        have hkeeps : Keeps t.server server := keeps_step h.1 hnew hcollect hserver
        rw [noted_of_ne t hcollect]
        refine ⟨hkeeps.1, ?_⟩
        have hgc : server.gc = t.server.gc := hkeeps.2.gc
        dsimp only
        rw [hgc]
        exact accounted_of_steady h.2 hkeeps.2 rfl rfl rfl

/-- What a run has removed, whatever it is about to do. -/
theorem oldest_of_accounted (h : Accounted t gc) :
    ∀ x ∈ t.removed, x.ready = true → ∀ y ∈ t.looked, y.ready = true →
      y.blob.lastUsed < x.blob.lastUsed → isRemoved t y.blob.name = true := by
  cases gc with
  | waiting =>
      rcases h with ⟨_, hbooks, _⟩
      exact removed_of_books hbooks
  | scanning files blobs =>
      intro x hx hready
      rw [h.removed x hx] at hready
      exact nomatch hready
  | readingSize blob files blobs | readingUsed blob files blobs | judging blob files blobs =>
      intro x hx hready
      rw [h.1.removed x hx] at hready
      exact nomatch hready
  | evicting rest total => exact removed_of_books h.books
  | removing blob removal rest total =>
      cases removal with
      | dir => exact removed_of_books h.pending.books
      | marker m =>
          cases m with
          | ready => exact removed_of_books h.books
          | size => exact removed_of_books h.pending.books
          | used => exact removed_of_books h.pending.books

/-- At the end of a run the lists say that it has collected. -/
theorem collects_of_holds (h : Holds t) : Collects t := by
  rcases h with ⟨htended, haccounted⟩
  refine ⟨fun hgc hon => ?_, oldest_of_accounted haccounted, fun r hr name id hworks => ?_,
    htended.complete, fun r hr hreported => ?_⟩
  · rw [hgc] at haccounted
    rcases haccounted with ⟨rest, hrest, hsmall⟩
    rw [unremoved_of_books hrest]
    exact hsmall hon
  · rcases works_of_needs (htended.needs r hr) hworks with ⟨dir, hdir, hid, _⟩
    exact ⟨dir, hdir, hid⟩
  · have hneeds := htended.needs r hr
    cases hphase : r.phase with
    | found dgst complete =>
        rw [hphase] at hneeds hreported
        exact Bool.false_ne_true ((Option.some.inj hreported).symm.trans hneeds)
    | answered a =>
        rw [hphase] at hneeds hreported
        cases a with
        | served complete =>
            exact Bool.false_ne_true ((Option.some.inj hreported).symm.trans hneeds)
        | _ => exact nomatch hreported
    | _ =>
        rw [hphase] at hreported
        exact nomatch hreported

/-- Whatever is on the disk in the beginning and whatever requests do meanwhile, a run whose
    steps are orderly has made room when it ends, has removed a ready blob only after those that
    were used less recently, and has not taken its directory away from a download. And no
    request was told that a blob is ready which was not there as a whole. So downloads and
    garbage collection can go on side by side. There is no lock between them, and what an
    orderly step is says where they may meet. -/
theorem collects_of_orderly (maxSize : Int) (now : Nat) (disk : Disk)
    (refcache : Map String String) (actions : List Action) (t : Traced)
    (hcomplete : disk.ShowsComplete)
    (horderly : MeetsAlong tracedStep Orderly actions (newRun maxSize now disk refcache))
    (hrun : runActions tracedStep actions (newRun maxSize now disk refcache) = some t) :
    Collects t := by
  refine collects_of_holds (invariant_of_reachesWithin (fun _ _ _ _ hs hok hstep =>
    holds_step hs hok hstep) (reachesWithin_of_runActions _ _ _ horderly hrun) ⟨?_, ?_⟩)
  · exact ⟨hcomplete, fun r hr => absurd hr List.not_mem_nil, List.nodup_nil⟩
  · refine ⟨[], ⟨List.Perm.refl _, List.nodup_nil, ?_, ?_⟩, fun hon => Int.le_of_lt hon⟩
    · exact fun x hx => absurd hx List.not_mem_nil
    · exact fun y hy => absurd hy List.not_mem_nil

/-! ## Runs -/

/-- Two blobs that are ready. -/
def twoBlobs : Disk where
  dirs := (AList.insert "b" ⟨1, 0, true⟩ ∅).insert "a" ⟨0, 0, true⟩
  ready := (AList.insert "b" () ∅).insert "a" ()
  size := (AList.insert "b" 3 ∅).insert "a" 10
  used := (AList.insert "b" 2 ∅).insert "a" 1
  made := 2

theorem complete_twoBlobs : twoBlobs.ShowsComplete := by
  intro name dir hdir _
  simp only [twoBlobs, Map.lookup_insert_eq_ite, AList.lookup_empty] at hdir
  split_ifs at hdir
  · rw [← Option.some.inj hdir]
  · rw [← Option.some.inj hdir]

/-- A request that downloads a blob up to where it extracts it. -/
def download (i : Nat) (name : String) : List Action :=
  [.go i, .resolved i (some [name]), .go i, .fetched i true, .go i, .go i]

/-- One of the blobs is removed while a third one is downloaded. -/
theorem collects_of_orderly_download :
    ∃ t, runActions tracedStep ([.arrive "c:1"] ++ download 0 "c" ++
      List.replicate 14 (.collect false) ++ [.untarred 0 (some 4)] ++
      List.replicate 4 (.collect false) ++ [.go 0, .go 0, .go 0])
      (newRun 5 10 twoBlobs ∅) = some t ∧
      t.removed.map (·.blob.name) = ["a"] ∧ t.server.gc = .waiting ∧ Collects t := by
  refine exists_run_of_any (fun t => t.removed.map (·.blob.name) = ["a"] &&
    match t.server.gc with
    | .waiting => true
    | _ => false) (by decide +kernel) fun t hrun h => ?_
  rw [Bool.and_eq_true, decide_eq_true_eq] at h
  rcases h with ⟨hremoved, hgc⟩
  refine ⟨hremoved, ?_, collects_of_orderly 5 10 twoBlobs ∅ _ t complete_twoBlobs
    (by decide +kernel) hrun⟩
  split at hgc
  · next hwaiting => exact hwaiting
  · exact nomatch hgc

/-- Nothing that is to be removed stays. -/
def removes : Action → Bool
  | .collect fails => !fails
  | _ => true

/-- The directory of a download is older than the last use of a blob that is read meanwhile, and
there is too much. The run removes the directory first, which makes no space. -/
theorem running_removed :
    ¬ ∀ (maxSize : Int) (now : Nat) (disk : Disk) (refcache : Map String String)
        (actions : List Action) (t : Traced),
      disk.ShowsComplete → actions.all removes = true →
        runActions tracedStep actions (newRun maxSize now disk refcache) = some t →
          Collects t := by
  intro hall
  rcases exists_of_runActions_any tracedStep
    (([.arrive "c:1"] : List Action) ++ download 0 "c" ++
      ([.tick 1, .arrive "a:1", .go 1, .resolved 1 (some ["a"]), .go 1, .go 1, .go 1,
        .arrive "b:1", .go 2, .resolved 2 (some ["b"]), .go 2, .go 2, .go 2] : List Action) ++
      List.replicate 17 (.collect false)) (newRun 5 10 twoBlobs ∅)
    (fun t => (t.server.disk.dirs.lookup "c").isNone && t.server.requests.any fun r =>
      r.phase.works = some ("c", 2)) (by decide +kernel) with ⟨t, hrun, h⟩
  have hcollects := hall 5 10 twoBlobs ∅ _ t complete_twoBlobs (by decide +kernel) hrun
  rw [Bool.and_eq_true, Option.isNone_iff_eq_none, List.any_eq_true] at h
  rcases h with ⟨hgone, r, hr, hworks⟩
  rcases hcollects.running r hr "c" 2 (of_decide_eq_true hworks) with ⟨dir, hdir, _⟩
  rw [hgone] at hdir
  exact nomatch hdir

/-- A blob that is ready, with a size that cannot be read. -/
def garbledSize : Disk where
  dirs := AList.insert "a" ⟨0, 0, true⟩ ∅
  ready := AList.insert "a" () ∅
  size := ∅
  used := AList.insert "a" 0 ∅
  made := 1

/-- The blob is shown as ready, and not all of it is there. -/
def showsIncomplete (name : String) (t : Traced) : Bool :=
  (t.server.disk.dirs.lookup name).any (fun dir => !dir.complete) &&
    (t.server.disk.ready.lookup name).isSome

/-- Such a blob is taken for one that is not ready. Its directory is removed and its marker is not,
so that the next download is shown as ready from its beginning. -/
theorem shown_incomplete :
    ∃ t, runActions tracedStep (List.replicate 5 (.collect false) ++ [.arrive "a:1"] ++
      download 0 "a") (newRun 5 2000 garbledSize ∅) = some t ∧ ¬ Collects t := by
  refine exists_run_of_any (showsIncomplete "a") (by decide +kernel) fun t _ h hcollects => ?_
  rw [showsIncomplete, Bool.and_eq_true, Option.any_eq_true] at h
  rcases h with ⟨⟨dir, hdir, hincomplete⟩, hready⟩
  rw [hcollects.complete "a" dir hdir (Option.isSome_iff_ne_none.mp hready)] at hincomplete
  exact absurd hincomplete Bool.false_ne_true

/-- A request has seen that the blob is ready, and is told so after it was removed. -/
example : (runActions tracedStep ([.arrive "a:1", .go 0, .resolved 0 (some ["a"]), .go 0, .go 0] ++
    List.replicate 15 (.collect false) ++ [.go 0]) (newRun 5 10 twoBlobs ∅)).any (fun t =>
      (t.server.disk.dirs.lookup "a").isNone &&
        t.server.requests.any fun r => r.phase.reported = some false) = true := by
  decide +kernel

end Blobserve

end Nxpod
