import Nxpod.Blobserve.Blobspace
import Nxpod.Library.Parties
import Nxpod.Library.Transition

/-!
# The Blob Server

Requests for image references, each of which is served from the blob of the image's first
layer. Which blob that is is remembered per reference. A request for a reference that is not
known resolves it, and then it looks for the blob until it is ready: it downloads the blob
itself when the blob is unknown, and waits while it is not ready.

What is remembered is never forgotten. A request for a reference that is known looks for its
blob once, and fails when it is not there.

Every access to the disk is a step of its own, and looking for a blob is up to three of them. So
are the steps of the download. What is resolved, and which downloads fail, is part of the
actions.

The result that is wanted is about requests: none of them fails because of what the server itself
has done to a blob. What has to be avoided for this is said by `Careful`, one line for each step
that could do harm, and each line is about the state before the step. Garbage collection must not
take the marker of a blob that is in use, it must not remove a directory that somebody is about to
fill, and no two requests make the same directory.

Where every step is careful the invariant says who owns which directory (`Request.hands`) and that
whatever is in use is ready. The lemmas below are named after what a step does to the disk, as
several steps do the same.

## Main definitions

* `Answer`: What a request is answered with.
* `Phase`: Where a request is.
* `Request`: A request for a reference, which does not change.
* `Server`: The state.
* `Action`, `step`: What may happen.
* `Careful`: The steps after which every request can still be served.
* `Inv`: The invariant of careful steps.

## Theorems

* `inv_step`: Careful steps keep the invariant.
* `inv_newServer`: It holds in the beginning.
-/

namespace Nxpod

namespace Blobserve

open Transition Parties

/-! ## The server -/

/-- What a request is answered with. Where it is served, the answer says whether the blob was
    complete. -/
inductive Answer
  | served (complete : Bool)
  | failed
  | notFound
  | unready
  | alreadyExists
  deriving DecidableEq

/-- Where a request is. It looks for a blob that is `cached`, or is `looping` until there is one.
It has found the blob `unknown`, has `opened` the download, has seen that the directory is
`absent`, is `extracting` to a directory, is `writing` a marker. -/
inductive Phase
  | arrived
  | cached (dgst : String) (access : Access)
  | missed
  | looping (dgst : String) (access : Access)
  | unknown (dgst : String)
  | opened (dgst : String)
  | absent (dgst : String)
  | extracting (dgst : String) (id : Nat)
  | writing (dgst : String) (id : Nat) (size : Nat) (m : Marker)
  | found (dgst : String) (complete : Bool)
  | answered (a : Answer)

/-- A request for a reference, which does not change. -/
structure Request where
  ref : String
  phase : Phase

/-- The state of a server: what it remembers of references, its disk, the time, all of the
    requests and where its garbage collection is. -/
structure Server where
  maxSize : Int
  now : Nat
  disk : Disk
  gc : Gc
  refcache : Map String String
  requests : List Request

/-- What may happen. A resolved image comes with its layers, and what was extracted with its
size. -/
inductive Action
  | arrive (ref : String)
  | go (i : Nat)
  | resolved (i : Nat) (layers : Option (List String))
  | fetched (i : Nat) (ok : Bool)
  | untarred (i : Nat) (size : Option Nat)
  | touch (name : String)
  | collect (fails : Bool)
  | tick (n : Nat)

namespace Server

/-- A request goes on to another phase. -/
def setRequest (s : Server) (i : Nat) (ref : String) (phase : Phase) : Server :=
  { s with requests := s.requests.set i ⟨ref, phase⟩ }

/-- The disk has changed and nothing else. -/
def setDisk (s : Server) (disk : Disk) : Server :=
  { s with disk := disk }

/-- A step of a request that goes on by itself. -/
def go (s : Server) (i : Nat) (ref : String) : Phase → Option Server
  | .arrived =>
      let dgst := (s.refcache.lookup ref).getD ""
      some (s.setRequest i ref (if dgst = "" then .missed else .cached dgst .dir))
  | .cached dgst access => match s.disk.get s.now dgst access with
    | (.inl next, disk) => some ((s.setDisk disk).setRequest i ref (.cached dgst next))
    | (.inr (.ready complete), disk) =>
        some ((s.setDisk disk).setRequest i ref (.answered (.served complete)))
    | (.inr _, disk) => some ((s.setDisk disk).setRequest i ref (.answered .unready))
  | .looping dgst access => match s.disk.get s.now dgst access with
    | (.inl next, disk) => some ((s.setDisk disk).setRequest i ref (.looping dgst next))
    | (.inr .unknown, disk) => some ((s.setDisk disk).setRequest i ref (.unknown dgst))
    | (.inr .unready, disk) => some ((s.setDisk disk).setRequest i ref (.looping dgst .dir))
    | (.inr (.ready complete), disk) =>
        some ((s.setDisk disk).setRequest i ref (.found dgst complete))
  | .opened dgst => match s.disk.dirs.lookup dgst with
    | none => some (s.setRequest i ref (.absent dgst))
    | some _ => some (s.setRequest i ref (.answered .alreadyExists))
  | .absent dgst => match s.disk.makeDir s.now dgst with
    | (id, disk) => some ((s.setDisk disk).setRequest i ref (.extracting dgst id))
  | .writing dgst id size m =>
      let disk := s.disk.mark s.now dgst size m
      match m with
      | .size => some ((s.setDisk disk).setRequest i ref (.writing dgst id size .used))
      | .used => some ((s.setDisk disk).setRequest i ref (.writing dgst id size .ready))
      | .ready => some ((s.setDisk disk).setRequest i ref (.looping dgst .dir))
  | .found dgst complete =>
      some ({ s with refcache := s.refcache.insert ref dgst }.setRequest i ref
        (.answered (.served complete)))
  | .missed | .unknown _ | .extracting _ _ | .answered _ => none

end Server

/-- A request arrives or goes on, with what comes from outside where something does, time
    passes, or garbage collection takes one more step. -/
def step (s : Server) : Action → Option Server
  | .arrive ref => some { s with requests := s.requests ++ [⟨ref, .arrived⟩] }
  | .go i => match s.requests[i]? with
    | some r => s.go i r.ref r.phase
    | none => none
  | .resolved i layers => match s.requests[i]? with
    | some ⟨ref, .missed⟩ => some (s.setRequest i ref (match layers with
        | none => .answered .failed
        | some [] => .answered .notFound
        | some (blobLayer :: _) => .looping blobLayer .dir))
    | _ => none
  | .fetched i ok => match s.requests[i]? with
    | some ⟨ref, .unknown dgst⟩ =>
        some (s.setRequest i ref (if ok then .opened dgst else .answered .failed))
    | _ => none
  | .untarred i size => match s.requests[i]? with
    | some ⟨ref, .extracting dgst id⟩ => match size with
      | none => some (s.setRequest i ref (.answered .failed))
      | some size => some ((s.setDisk (s.disk.unpacked dgst id)).setRequest i ref
          (.writing dgst id size .size))
    | _ => none
  | .touch name => match s.disk.dirs.lookup name with
    | some dir =>
        if s.requests.any fun r => match r.phase with
            | .extracting dgst id => dgst = name && id = dir.id
            | _ => false
        then some (s.setDisk (s.disk.touch s.now name dir)) else none
    | none => none
  | .collect fails =>
      if s.maxSize > 0 then
        match collect s.maxSize s.now fails s.disk s.gc with
        | (gc, disk) => some { s with gc := gc, disk := disk }
      else none
  | .tick n => some { s with now := s.now + n }

/-- A server that was just started, with nothing on its disk. -/
def newServer (maxSize : Int) : Server where
  maxSize := maxSize
  now := 0
  disk := ⟨∅, ∅, ∅, ∅, 0⟩
  gc := .waiting
  refcache := ∅
  requests := []

/-! ## Careful steps -/

namespace Phase

/-- The blob that was seen to be ready, or is remembered, and is about to be served. -/
def uses : Phase → Option String
  | cached dgst _ | looping dgst .used | found dgst _ => some dgst
  | _ => none

/-- The blob that was found unknown, where no directory is made for it yet. -/
def fetches : Phase → Option String
  | unknown dgst | opened dgst | absent dgst => some dgst
  | _ => none

/-- The blob that is extracted, with the directory. -/
def works : Phase → Option (String × Nat)
  | extracting dgst id | writing dgst id _ _ => some (dgst, id)
  | _ => none

end Phase

/-- A reference has the blob, or a request has seen that it is ready and is about to serve it. -/
def InUse (s : Server) (dgst : String) : Prop :=
  (∃ ref, s.refcache.lookup ref = some dgst) ∨ ∃ r ∈ s.requests, r.phase.uses = some dgst

/-- A directory has no marker that says it is ready, and nobody extracts to it. -/
def Abandoned (s : Server) (name : String) : Prop :=
  s.disk.ready.lookup name = none ∧ ∀ r ∈ s.requests, ∀ id, r.phase.works ≠ some (name, id)

/-- The condition on a step of garbage collection, which depends on where it is. Most of its
    steps only read. -/
def CarefulGc (s : Server) : Gc → Prop
  | .judging blob _ _ => isStale s.now blob = true → Abandoned s blob.name
  | .removing blob (.marker .ready) _ _ => ¬ InUse s blob.name
  | .removing blob .dir _ _ => Abandoned s blob.name
  | _ => True

/-- Nobody else is about to make the directory that a request makes. -/
def MakesAlone (s : Server) (i : Nat) : Phase → Prop
  | .absent dgst => ∀ j < s.requests.length, j ≠ i →
      ∀ r ∈ s.requests[j]?, r.phase.fetches ≠ some dgst
  | _ => True

/-- Garbage collection does not make a blob unready that is in use, and removes only directories
that nobody needs. A request makes a directory only if no other request is about to do so.
Extracting fails only if garbage collection is on. -/
def Careful (s : Server) : Action → Prop
  | .go i => ∀ r ∈ s.requests[i]?, MakesAlone s i r.phase
  | .untarred _ size => size = none → s.maxSize > 0
  | .collect fails => fails = false → CarefulGc s s.gc
  | _ => True

/-- Who uses a blob is found by going through what is remembered and through the requests. -/
instance decidableInUse (s : Server) (dgst : String) : Decidable (InUse s dgst) :=
  decidable_of_iff (dgst ∈ Map.values s.refcache ∨ ∃ r ∈ s.requests, r.phase.uses = some dgst)
    (or_congr (Map.mem_values_iff s.refcache dgst) Iff.rfl)

instance decidableAbandoned (s : Server) (name : String) : Decidable (Abandoned s name) :=
  decidable_of_iff (s.disk.ready.lookup name = none ∧
      ∀ r ∈ s.requests, r.phase.works.map Prod.fst ≠ some name) (by
    refine and_congr_right fun _ => forall₂_congr fun r _ => ?_
    rw [ne_eq, Option.map_eq_some_iff]
    constructor
    · exact fun h id hworks => h ⟨(name, id), hworks, rfl⟩
    · exact fun h ⟨⟨_, id⟩, hworks, hname⟩ => h id (hname ▸ hworks))

instance decidableCarefulGc (s : Server) : ∀ gc, Decidable (CarefulGc s gc)
  | .waiting => isTrue trivial
  | .scanning _ _ | .readingSize _ _ _ | .readingUsed _ _ _ => isTrue trivial
  | .judging blob _ _ => inferInstanceAs (Decidable (_ → Abandoned s blob.name))
  | .evicting _ _ => isTrue trivial
  | .removing blob (.marker .ready) _ _ => inferInstanceAs (Decidable (¬ InUse s blob.name))
  | .removing _ (.marker .size) _ _ => isTrue trivial
  | .removing _ (.marker .used) _ _ => isTrue trivial
  | .removing blob .dir _ _ => inferInstanceAs (Decidable (Abandoned s blob.name))

instance decidableMakesAlone (s : Server) (i : Nat) : ∀ phase, Decidable (MakesAlone s i phase)
  | .absent dgst => inferInstanceAs (Decidable (∀ j < s.requests.length, j ≠ i →
      ∀ r ∈ s.requests[j]?, r.phase.fetches ≠ some dgst))
  | .arrived | .cached _ _ | .missed | .looping _ _ | .unknown _ | .opened _ | .extracting _ _
  | .writing _ _ _ _ | .found _ _ | .answered _ => isTrue trivial

instance decidableCareful (s : Server) : ∀ a, Decidable (Careful s a)
  | .go i => inferInstanceAs (Decidable (∀ r ∈ s.requests[i]?, MakesAlone s i r.phase))
  | .untarred _ size => inferInstanceAs (Decidable (size = none → s.maxSize > 0))
  | .collect fails => inferInstanceAs (Decidable (fails = false → CarefulGc s s.gc))
  | .arrive _ | .resolved _ _ | .fetched _ _ | .touch _ | .tick _ => isTrue trivial

/-! ## The invariant -/

/-- An answer that is no error of the server. -/
def Answer.Proper : Answer → Prop
  | .served complete => complete = true
  | .failed | .notFound => True
  | .unready | .alreadyExists => False

/-- What a request knows. -/
def Phase.Holds (dirs : Map String Dir) : Phase → Prop
  | .found _ complete => complete = true
  | .unknown dgst | .opened dgst | .absent dgst => dirs.lookup dgst = none
  | .extracting dgst id => ∃ dir, dirs.lookup dgst = some dir ∧ dir.id = id
  | .writing dgst id _ _ => ∃ dir, dirs.lookup dgst = some dir ∧ dir.id = id ∧ dir.complete = true
  | .answered a => a.Proper
  | .arrived | .cached _ _ | .missed | .looping _ _ => True

/-- The blob a request extracts. -/
def Request.hands (r : Request) : List String :=
  (r.phase.works.map Prod.fst).toList

/-- Blobs in use are ready, and ready blobs are complete. Nobody extracts to a directory of
another request. A directory that is not ready is extracted to, or garbage collection is on. -/
structure Inv (s : Server) : Prop where
  ready : ∀ dgst, s.disk.ready.lookup dgst ≠ none →
    ∃ dir, s.disk.dirs.lookup dgst = some dir ∧ dir.complete = true
  inUse : ∀ dgst, InUse s dgst → s.disk.ready.lookup dgst ≠ none
  requests : ∀ r ∈ s.requests, r.phase.Holds s.disk.dirs
  exclusive : (s.requests.flatMap Request.hands).Nodup
  unready : ∀ dgst dir, s.disk.dirs.lookup dgst = some dir → s.disk.ready.lookup dgst = none →
    s.maxSize > 0 ∨ ∃ r ∈ s.requests, r.phase.works = some (dgst, dir.id)

variable {s : Server} {i : Nat} {ref : String} {old new : Phase}

/-- A request that extracts has the directory it extracts to. -/
theorem works_of_holds {dirs : Map String Dir} {dgst : String} {id : Nat}
    (h : new.Holds dirs) (hworks : new.works = some (dgst, id)) :
    ∃ dir, dirs.lookup dgst = some dir ∧ dir.id = id := by
  cases new with
  | extracting dgst' id' =>
      rw [Phase.works, Option.some.injEq, Prod.mk.injEq] at hworks
      rw [← hworks.1, ← hworks.2]
      exact h
  | writing dgst' id' size m =>
      rw [Phase.works, Option.some.injEq, Prod.mk.injEq] at hworks
      rw [← hworks.1, ← hworks.2]
      rcases h with ⟨dir, hdir, hid, _⟩
      exact ⟨dir, hdir, hid⟩
  | _ => exact nomatch hworks

/-- No directory is made or removed, and what is complete stays so. -/
def Updated (dirs dirs' : Map String Dir) : Prop :=
  ∀ dgst, (dirs.lookup dgst = none ∧ dirs'.lookup dgst = none) ∨
    ∃ dir dir', dirs.lookup dgst = some dir ∧ dirs'.lookup dgst = some dir' ∧ dir'.id = dir.id ∧
      (dir.complete = true → dir'.complete = true)

theorem updated_refl (dirs : Map String Dir) : Updated dirs dirs := by
  intro dgst
  cases hdir : dirs.lookup dgst with
  | none => exact .inl ⟨rfl, rfl⟩
  | some dir => exact .inr ⟨dir, dir, rfl, rfl, rfl, id⟩

theorem updated_insert {dirs : Map String Dir} {dgst : String} {dir dir' : Dir}
    (hdir : dirs.lookup dgst = some dir) (hid : dir'.id = dir.id)
    (hcomplete : dir.complete = true → dir'.complete = true) :
    Updated dirs (dirs.insert dgst dir') := by
  intro dgst'
  by_cases hd : dgst' = dgst
  · refine .inr ⟨dir, dir', hd ▸ hdir, ?_, hid, hcomplete⟩
    rw [Map.lookup_insert_eq_ite, if_pos hd]
  · rw [Map.lookup_insert_eq_ite, if_neg hd]
    exact updated_refl dirs dgst'

/-- What a request knows is about directories that are there, and stays true while none of them
    goes away. -/
theorem holds_of_updated {dirs dirs' : Map String Dir} (hupdated : Updated dirs dirs')
    (h : new.Holds dirs) : new.Holds dirs' := by
  have hnone : ∀ dgst, dirs.lookup dgst = none → dirs'.lookup dgst = none := by
    intro dgst hd
    rcases hupdated dgst with ⟨_, hd'⟩ | ⟨dir, _, hdir, _⟩
    · exact hd'
    · rw [hd] at hdir
      exact nomatch hdir
  have hsome : ∀ dgst dir, dirs.lookup dgst = some dir → ∃ dir', dirs'.lookup dgst = some dir' ∧
      dir'.id = dir.id ∧ (dir.complete = true → dir'.complete = true) := by
    intro dgst dir hd
    rcases hupdated dgst with ⟨hd', _⟩ | ⟨dir₀, dir', hdir, hdir', hid, hcomplete⟩
    · rw [hd] at hd'
      exact nomatch hd'
    · rw [hd, Option.some.injEq] at hdir
      exact ⟨dir', hdir', hdir ▸ hid, hdir ▸ hcomplete⟩
  cases new with
  | unknown dgst => exact hnone dgst h
  | opened dgst => exact hnone dgst h
  | absent dgst => exact hnone dgst h
  | extracting dgst id =>
      rcases h with ⟨dir, hdir, rfl⟩
      rcases hsome dgst dir hdir with ⟨dir', hdir', hid, _⟩
      exact ⟨dir', hdir', hid⟩
  | writing dgst id size m =>
      rcases h with ⟨dir, hdir, rfl, hcomplete⟩
      rcases hsome dgst dir hdir with ⟨dir', hdir', hid, hkept⟩
      exact ⟨dir', hdir', hid, hkept hcomplete⟩
  | _ => exact h

/-- Who extracts still does so after another request's step, or after its own that goes on with
it. -/
theorem works_setRequest (hi : s.requests[i]? = some ⟨ref, old⟩) {dgst : String} {id : Nat}
    (hkeeps : old.works = some (dgst, id) → new.works = some (dgst, id))
    (h : ∃ r ∈ s.requests, r.phase.works = some (dgst, id)) :
    ∃ r ∈ s.requests.set i ⟨ref, new⟩, r.phase.works = some (dgst, id) := by
  rcases h with ⟨r, hr, hworks⟩
  by_cases hsame : r = ⟨ref, old⟩
  · rw [hsame] at hworks
    exact ⟨⟨ref, new⟩, List.mem_set (List.getElem?_eq_some_iff.mp hi).1 _, hkeeps hworks⟩
  · exact ⟨r, mem_set_of_mem_of_ne hi hr hsame, hworks⟩

/-- Blobs are in use as before, but for the one the request itself is about to serve. -/
theorem inUse_setRequest {dgst : String} (h : InUse (s.setRequest i ref new) dgst) :
    InUse s dgst ∨ new.uses = some dgst := by
  rcases h with hcached | ⟨r, hr, huses⟩
  · exact .inl (.inl hcached)
  · rcases List.mem_or_eq_of_mem_set hr with hold | rfl
    · exact .inl (.inr ⟨r, hold, huses⟩)
    · exact .inr huses

/-- Nothing is made or removed on the disk, and no blob is made ready. -/
theorem inv_setDisk (hs : Inv s) {disk : Disk} (hdirs : Updated s.disk.dirs disk.dirs)
    (hready : disk.ready = s.disk.ready) : Inv (s.setDisk disk) where
  ready dgst h := by
    rw [Server.setDisk, hready] at h
    rcases hs.ready dgst h with ⟨dir, hdir, hcomplete⟩
    rcases hdirs dgst with ⟨hnone, _⟩ | ⟨dir₀, dir', hdir₀, hdir', _, hkept⟩
    · rw [hdir] at hnone
      exact nomatch hnone
    · rw [hdir, Option.some.injEq] at hdir₀
      exact ⟨dir', hdir', hkept (hdir₀ ▸ hcomplete)⟩
  inUse dgst h := by
    rw [Server.setDisk, hready]
    exact hs.inUse dgst h
  requests r hr := holds_of_updated hdirs (hs.requests r hr)
  exclusive := hs.exclusive
  unready dgst dir' hdir' hnone := by
    rw [Server.setDisk, hready] at hnone
    rcases hdirs dgst with ⟨_, hd⟩ | ⟨dir, dir₀, hdir, hdir₀, hid, _⟩
    · rw [Server.setDisk, hd] at hdir'
      exact nomatch hdir'
    · rw [Server.setDisk, hdir₀, Option.some.injEq] at hdir'
      rw [← hdir', hid]
      exact hs.unready dgst dir hdir hnone

/-- A request that is not about to serve a blob needs none to be ready. -/
theorem forall_of_uses_none {phase : Phase} (h : phase.uses = none) {P : String → Prop} :
    ∀ dgst, phase.uses = some dgst → P dgst := by
  intro dgst huses
  rw [h] at huses
  exact absurd huses (by simp only [reduceCtorEq, not_false_eq_true])

/-- A request goes on, and extracts what it has extracted before. -/
theorem inv_setRequest (hs : Inv s) (hi : s.requests[i]? = some ⟨ref, old⟩)
    (hworks : new.works = old.works)
    (huses : ∀ dgst, new.uses = some dgst → s.disk.ready.lookup dgst ≠ none)
    (hholds : new.Holds s.disk.dirs) : Inv (s.setRequest i ref new) where
  ready := hs.ready
  inUse dgst h := by
    rcases inUse_setRequest h with hold | hnew
    · exact hs.inUse dgst hold
    · exact huses dgst hnew
  requests := forall_mem_set hs.requests hholds
  exclusive := by
    have hsame : Request.hands ⟨ref, new⟩ = Request.hands ⟨ref, old⟩ := by
      rw [Request.hands, Request.hands, hworks]
    exact (flatMap_set_of_eq hi hsame).symm ▸ hs.exclusive
  unready dgst dir hdir hnone := by
    rcases hs.unready dgst dir hdir hnone with hon | hworker
    · exact .inl hon
    · exact .inr (works_setRequest hi (fun hold => hworks.trans hold) hworker)

/-- A request that has found a blob remembers it. -/
theorem inv_found (hs : Inv s) {dgst : String} {complete : Bool}
    (hi : s.requests[i]? = some ⟨ref, .found dgst complete⟩) :
    Inv ({ s with refcache := s.refcache.insert ref dgst }.setRequest i ref
      (.answered (.served complete))) where
  ready := hs.ready
  inUse dgst' h := by
    rcases h with ⟨ref', hcached⟩ | ⟨r, hr, huses⟩
    · rw [Server.setRequest, Map.lookup_insert_eq_ite] at hcached
      by_cases href : ref' = ref
      · rw [if_pos href, Option.some.injEq] at hcached
        exact hs.inUse dgst' (.inr ⟨_, List.mem_of_getElem? hi, congrArg some hcached⟩)
      · rw [if_neg href] at hcached
        exact hs.inUse dgst' (.inl ⟨ref', hcached⟩)
    · rcases List.mem_or_eq_of_mem_set hr with hold | rfl
      · exact hs.inUse dgst' (.inr ⟨r, hold, huses⟩)
      · exact nomatch huses
  requests := by
    have hcomplete : (Phase.found dgst complete).Holds s.disk.dirs :=
      hs.requests _ (List.mem_of_getElem? hi)
    exact forall_mem_set hs.requests hcomplete
  exclusive := by
    have hsame : Request.hands ⟨ref, .answered (.served complete)⟩ =
      Request.hands ⟨ref, .found dgst complete⟩ := rfl
    exact (flatMap_set_of_eq hi hsame).symm ▸ hs.exclusive
  unready dgst' dir hdir hnone := by
    rcases hs.unready dgst' dir hdir hnone with hon | hworker
    · exact .inl hon
    · exact .inr (works_setRequest hi nofun hworker)

/-- A new directory concerns only those who are about to make it as well. -/
theorem holds_insert_new {dirs : Map String Dir} {dgst : String}
    (hnone : dirs.lookup dgst = none) (dir : Dir) (h : new.Holds dirs)
    (hfetches : new.fetches ≠ some dgst) : new.Holds (dirs.insert dgst dir) := by
  have hother : ∀ dgst', dgst' ≠ dgst →
      (dirs.insert dgst dir).lookup dgst' = dirs.lookup dgst' := by
    intro dgst' hne
    rw [Map.lookup_insert_eq_ite, if_neg hne]
  have hsome : ∀ dgst' dir', dirs.lookup dgst' = some dir' →
      (dirs.insert dgst dir).lookup dgst' = some dir' := by
    intro dgst' dir' hdir
    refine (hother dgst' fun hc => ?_).trans hdir
    rw [hc, hnone] at hdir
    exact nomatch hdir
  cases new with
  | unknown dgst' => exact (hother dgst' fun hc => hfetches (congrArg some hc)).trans h
  | opened dgst' => exact (hother dgst' fun hc => hfetches (congrArg some hc)).trans h
  | absent dgst' => exact (hother dgst' fun hc => hfetches (congrArg some hc)).trans h
  | extracting dgst' id =>
      rcases h with ⟨dir', hdir, hid⟩
      exact ⟨dir', hsome dgst' dir' hdir, hid⟩
  | writing dgst' id size m =>
      rcases h with ⟨dir', hdir, hid⟩
      exact ⟨dir', hsome dgst' dir' hdir, hid⟩
  | _ => exact h

/-- A request makes a directory that nobody else is about to make. -/
theorem inv_makeDir (hs : Inv s) {dgst : String}
    (hi : s.requests[i]? = some ⟨ref, .absent dgst⟩)
    (halone : ∀ j r, j ≠ i → s.requests[j]? = some r → r.phase.fetches ≠ some dgst) :
    Inv ((s.setDisk (s.disk.makeDir s.now dgst).2).setRequest i ref
      (.extracting dgst (s.disk.makeDir s.now dgst).1)) := by
  have hnone : s.disk.dirs.lookup dgst = none := hs.requests _ (List.mem_of_getElem? hi)
  have hmade : s.disk.makeDir s.now dgst = (s.disk.made, { s.disk with
      dirs := s.disk.dirs.insert dgst ⟨s.disk.made, s.now, false⟩
      made := s.disk.made + 1 }) := by
    rw [Disk.makeDir, hnone]
  rw [hmade]
  have hother : ∀ dgst', dgst' ≠ dgst →
      (s.disk.dirs.insert dgst ⟨s.disk.made, s.now, false⟩).lookup dgst' =
        s.disk.dirs.lookup dgst' := by
    intro dgst' hne
    rw [Map.lookup_insert_eq_ite, if_neg hne]
  -- who has a directory in hand has another one
  have hne : ∀ dgst' dir, s.disk.dirs.lookup dgst' = some dir → dgst' ≠ dgst := by
    intro dgst' dir hdir hc
    rw [hc, hnone] at hdir
    exact nomatch hdir
  refine ⟨fun dgst' h => ?_, fun dgst' h => ?_, ?_, ?_, fun dgst' dir hdir hunready => ?_⟩
  · rcases hs.ready dgst' h with ⟨dir, hdir, hcomplete⟩
    exact ⟨dir, (hother dgst' (hne dgst' dir hdir)).trans hdir, hcomplete⟩
  · rcases inUse_setRequest (s := s.setDisk _) h with hold | hnew
    · exact hs.inUse dgst' hold
    · exact nomatch hnew
  · refine forall_mem_set_of_ne (fun j r hj hr => ?_) ?_
    · exact holds_insert_new hnone _ (hs.requests r (List.mem_of_getElem? hr)) (halone j r hj hr)
    · exact ⟨⟨s.disk.made, s.now, false⟩, AList.lookup_insert _, rfl⟩
  · have htakes : Request.hands ⟨ref, .extracting dgst s.disk.made⟩ =
        [dgst] ++ Request.hands ⟨ref, .absent dgst⟩ := rfl
    refine ((flatMap_set_perm_append hi htakes).nodup_iff).mpr ?_
    refine List.nodup_cons.mpr ⟨fun hmem => ?_, hs.exclusive⟩
    rcases List.mem_flatMap.mp hmem with ⟨r, hr, hworks⟩
    rw [Request.hands, Option.mem_toList, Option.map_eq_some_iff] at hworks
    rcases hworks with ⟨⟨dgst', id⟩, hworks, rfl⟩
    rcases works_of_holds (hs.requests r hr) hworks with ⟨dir, hdir, _⟩
    exact hne _ dir hdir rfl
  · by_cases hd : dgst' = dgst
    · rw [Server.setRequest, Server.setDisk, hd, AList.lookup_insert, Option.some.injEq] at hdir
      refine .inr ⟨⟨ref, .extracting dgst s.disk.made⟩,
        List.mem_set (List.getElem?_eq_some_iff.mp hi).1 _, ?_⟩
      rw [hd, ← hdir]
      rfl
    · rcases hs.unready dgst' dir ((hother dgst' hd).symm.trans hdir) hunready with hon | hworker
      · exact .inl hon
      · exact .inr (works_setRequest hi nofun hworker)

/-- Where garbage collection is on, a request may leave a directory behind. -/
theorem inv_fail (hs : Inv s) (hon : s.maxSize > 0) {dgst : String} {id : Nat}
    (hi : s.requests[i]? = some ⟨ref, .extracting dgst id⟩) :
    Inv (s.setRequest i ref (.answered .failed)) where
  ready := hs.ready
  inUse dgst' h := by
    rcases inUse_setRequest h with hold | hnew
    · exact hs.inUse dgst' hold
    · exact nomatch hnew
  requests := forall_mem_set hs.requests trivial
  exclusive := (flatMap_set_sublist hi (List.nil_sublist _)).nodup hs.exclusive
  unready _ _ _ _ := .inl hon

/-- The last marker makes a blob ready that is complete. -/
theorem inv_ready (hs : Inv s) {dgst : String} {id size : Nat}
    (hi : s.requests[i]? = some ⟨ref, .writing dgst id size .ready⟩) :
    Inv ((s.setDisk (s.disk.mark s.now dgst size .ready)).setRequest i ref
      (.looping dgst .dir)) where
  ready dgst' h := by
    by_cases hd : dgst' = dgst
    · -- The blob of this marker was unpacked by this request.
      have hholds : Phase.Holds s.disk.dirs (.writing dgst id size .ready) :=
        hs.requests _ (List.mem_of_getElem? hi)
      rcases hholds with ⟨dir, hdir, _, hcomplete⟩
      exact ⟨dir, hd ▸ hdir, hcomplete⟩
    · rw [Server.setRequest, Server.setDisk, Disk.mark, Map.lookup_insert_eq_ite, if_neg hd] at h
      exact hs.ready dgst' h
  inUse dgst' h := by
    rw [Server.setRequest, Server.setDisk, Disk.mark, Map.lookup_insert_eq_ite]
    split
    · exact nofun
    · rcases inUse_setRequest (s := s.setDisk _) h with hold | hnew
      · exact hs.inUse dgst' hold
      · exact nomatch hnew
  requests := forall_mem_set hs.requests trivial
  exclusive := (flatMap_set_sublist hi (List.nil_sublist _)).nodup hs.exclusive
  unready dgst' dir hdir hnone := by
    rw [Server.setRequest, Server.setDisk, Disk.mark, Map.lookup_insert_eq_ite] at hnone
    by_cases hd : dgst' = dgst
    · rw [if_pos hd] at hnone
      exact nomatch hnone
    · rw [if_neg hd] at hnone
      rcases hs.unready dgst' dir hdir hnone with hon | hworker
      · exact .inl hon
      · refine .inr (works_setRequest hi (fun hold => ?_) hworker)
        rw [Phase.works, Option.some.injEq, Prod.mk.injEq] at hold
        exact absurd hold.1.symm hd

/-! ### Garbage collection -/

/-- What one step of garbage collection removes. -/
theorem effect_of_collect (s : Server) (fails : Bool) :
    (collect s.maxSize s.now fails s.disk s.gc).2 = s.disk ∨ fails = false ∧
      ((∃ name m, (collect s.maxSize s.now fails s.disk s.gc).2 = s.disk.removeMarker name m ∧
        (CarefulGc s s.gc → m = .ready → ¬ InUse s name)) ∨
      ∃ name, (collect s.maxSize s.now fails s.disk s.gc).2 = s.disk.removeDir name ∧
        (CarefulGc s s.gc → Abandoned s name)) := by
  -- A step that fails removes nothing.
  cases fails with
  | true =>
      left
      cases s.gc with
      | waiting => rfl
      | scanning files blobs =>
          cases files with
          | nil => simp only [collect]; split <;> rfl
          | cons file files => simp only [collect]; split <;> rfl
      | readingSize blob files blobs => rfl
      | readingUsed blob files blobs => rfl
      | judging blob files blobs => simp only [collect]; split <;> rfl
      | evicting blobs total =>
          cases blobs with
          | nil => rfl
          | cons blob blobs => simp only [collect]; split <;> rfl
      | removing blob removal blobs total =>
          cases removal with
          | marker m => cases m <;> rfl
          | dir => rfl
  | false =>
      cases hgc : s.gc with
      | waiting => exact .inl rfl
      | scanning files blobs =>
          cases files with
          | nil => simp only [collect]; split <;> exact .inl rfl
          | cons file files => simp only [collect]; split <;> exact .inl rfl
      | readingSize blob files blobs => exact .inl rfl
      | readingUsed blob files blobs => exact .inl rfl
      | judging blob files blobs =>
          -- A stale blob is removed when it is judged.
          by_cases hstale : isStale s.now blob = true
          · refine .inr ⟨rfl, .inr ⟨blob.name, ?_, fun hcareful => hcareful hstale⟩⟩
            simp only [collect, if_pos hstale, Bool.false_eq_true, if_false]
          · left
            simp only [collect, if_neg hstale]
      | evicting blobs total =>
          cases blobs with
          | nil => exact .inl rfl
          | cons blob blobs => simp only [collect]; split <;> exact .inl rfl
      | removing blob removal blobs total =>
          cases removal with
          | marker m =>
              cases m with
              | ready => exact .inr ⟨rfl, .inl ⟨blob.name, .ready, rfl, fun hc _ => hc⟩⟩
              | size => exact .inr ⟨rfl, .inl ⟨blob.name, .size, rfl, fun _ => nofun⟩⟩
              | used => exact .inr ⟨rfl, .inl ⟨blob.name, .used, rfl, fun _ => nofun⟩⟩
          | dir => exact .inr ⟨rfl, .inr ⟨blob.name, rfl, fun hc => hc⟩⟩

/-- A blob that is not in use is made unready while garbage collection is on. -/
theorem inv_removeMarker (hs : Inv s) (hon : s.maxSize > 0) {name : String} {m : Marker}
    (hunused : m = .ready → ¬ InUse s name) : Inv (s.setDisk (s.disk.removeMarker name m)) := by
  cases m with
  | size => exact inv_setDisk hs (updated_refl _) rfl
  | used => exact inv_setDisk hs (updated_refl _) rfl
  | ready =>
      refine ⟨fun dgst h => ?_, fun dgst h => ?_, hs.requests, hs.exclusive,
        fun _ _ _ _ => .inl hon⟩
      · rw [Server.setDisk, Disk.removeMarker, Map.lookup_erase_eq_ite] at h
        by_cases hd : dgst = name
        · rw [if_pos hd] at h
          exact absurd rfl h
        · rw [if_neg hd] at h
          exact hs.ready dgst h
      · have hne : dgst ≠ name := fun hc => hunused rfl (hc ▸ h)
        rw [Server.setDisk, Disk.removeMarker, Map.lookup_erase_eq_ite, if_neg hne]
        exact hs.inUse dgst h

/-- A directory is removed that nobody needs. -/
theorem inv_removeDir (hs : Inv s) {name : String} (habandoned : Abandoned s name) :
    Inv (s.setDisk (s.disk.removeDir name)) := by
  have hother : ∀ dgst, dgst ≠ name →
      (s.disk.removeDir name).dirs.lookup dgst = s.disk.dirs.lookup dgst := by
    intro dgst hne
    rw [Disk.removeDir, Map.lookup_erase_eq_ite, if_neg hne]
  have hself : (s.disk.removeDir name).dirs.lookup name = none := by
    rw [Disk.removeDir, Map.lookup_erase_eq_ite, if_pos rfl]
  have hnone : ∀ dgst, s.disk.dirs.lookup dgst = none →
      (s.disk.removeDir name).dirs.lookup dgst = none := by
    intro dgst hd
    by_cases hname : dgst = name
    · rw [hname, hself]
    · rw [hother dgst hname, hd]
  refine ⟨fun dgst h => ?_, hs.inUse, fun r hr => ?_, hs.exclusive,
    fun dgst dir hdir hunready => ?_⟩
  · have hne : dgst ≠ name := fun hc => h (hc ▸ habandoned.1)
    rcases hs.ready dgst h with ⟨dir, hdir, hcomplete⟩
    exact ⟨dir, (hother dgst hne).trans hdir, hcomplete⟩
  · have hholds := hs.requests r hr
    -- Nobody who works on a blob works on this one.
    have hworks := habandoned.2 r hr
    cases hphase : r.phase with
    | extracting dgst id =>
        rw [hphase] at hholds hworks
        have hne : dgst ≠ name := fun hc => hworks id (hc ▸ rfl)
        rcases hholds with ⟨dir, hdir, hid⟩
        exact ⟨dir, (hother dgst hne).trans hdir, hid⟩
    | writing dgst id size m =>
        rw [hphase] at hholds hworks
        have hne : dgst ≠ name := fun hc => hworks id (hc ▸ rfl)
        rcases hholds with ⟨dir, hdir, hid⟩
        exact ⟨dir, (hother dgst hne).trans hdir, hid⟩
    | unknown dgst => rw [hphase] at hholds; exact hnone dgst hholds
    | opened dgst => rw [hphase] at hholds; exact hnone dgst hholds
    | absent dgst => rw [hphase] at hholds; exact hnone dgst hholds
    | found dgst complete => rw [hphase] at hholds; exact hholds
    | answered a => rw [hphase] at hholds; exact hholds
    | _ => trivial
  · have hne : dgst ≠ name := fun hc => by
      rw [Server.setDisk, hc, hself] at hdir
      exact nomatch hdir
    exact hs.unready dgst dir ((hother dgst hne).symm.trans hdir) hunready

/-- A step of garbage collection, which only matters where it is on. -/
theorem inv_collect (hs : Inv s) (hon : s.maxSize > 0) {fails : Bool}
    (hcareful : fails = false → CarefulGc s s.gc) {gc : Gc} {disk : Disk}
    (h : collect s.maxSize s.now fails s.disk s.gc = (gc, disk)) :
    Inv { s with gc := gc, disk := disk } := by
  -- what garbage collection does next is not part of the invariant
  have hset : ∀ hdisk : Inv (s.setDisk disk), Inv { s with gc := gc, disk := disk } :=
    fun hdisk => ⟨hdisk.ready, hdisk.inUse, hdisk.requests, hdisk.exclusive, hdisk.unready⟩
  apply hset
  have heffect := effect_of_collect s fails
  rw [h] at heffect
  rcases heffect with hsame | ⟨hfails, ⟨name, m, hmarker, hunused⟩ | ⟨name, hdir, habandoned⟩⟩
  · rw [show disk = s.disk from hsame]
    exact hs
  · rw [show disk = _ from hmarker]
    exact inv_removeMarker hs hon (hunused (hcareful hfails))
  · rw [show disk = _ from hdir]
    exact inv_removeDir hs (habandoned (hcareful hfails))

/-! ### All steps -/

theorem inv_get (hs : Inv s) (dgst : String) (access : Access) :
    Inv (s.setDisk (s.disk.get s.now dgst access).2) := by
  rcases Disk.get_dirs s.disk s.now dgst access with ⟨hdirs, hready⟩
  exact inv_setDisk hs (hdirs ▸ updated_refl _) hready

/-- What the last access of `Get` says of a blob that is still ready. -/
theorem get_used (hs : Inv s) {dgst : String} (hready : s.disk.ready.lookup dgst ≠ none) :
    s.disk.get s.now dgst .used =
      (.inr (.ready true), { s.disk with used := s.disk.used.insert dgst s.now }) := by
  rcases hs.ready dgst hready with ⟨dir, hdir, hcomplete⟩
  rw [Disk.get, hdir, Option.any_some, hcomplete]

/-- The blob of a reference that is remembered is ready. -/
theorem inv_cached (hs : Inv s) {dgst : String} {access : Access}
    (hi : s.requests[i]? = some ⟨ref, .cached dgst access⟩) {s' : Server}
    (h : s.go i ref (.cached dgst access) = some s') : Inv s' := by
  have huse := hs.inUse dgst (.inr ⟨_, List.mem_of_getElem? hi, rfl⟩)
  have hgoes : ∀ next, Inv ((s.setDisk s.disk).setRequest i ref (.cached dgst next)) :=
    fun next => inv_setRequest (s := s.setDisk s.disk) hs hi rfl
      (fun dgst' huses => Option.some.inj huses ▸ huse) trivial
  rcases hs.ready dgst huse with ⟨dir, hdir, _⟩
  rcases Option.ne_none_iff_exists'.mp huse with ⟨_, hsome⟩
  have hdisk := inv_get hs dgst access
  rw [Server.go] at h
  cases access with
  | dir =>
      simp only [Disk.get, hdir] at h
      exact Option.some.inj h ▸ hgoes .ready
  | ready =>
      simp only [Disk.get, hsome] at h
      exact Option.some.inj h ▸ hgoes .used
  | used =>
      simp only [get_used hs huse] at h hdisk
      rw [← Option.some.inj h]
      exact inv_setRequest hdisk hi rfl (forall_of_uses_none rfl) rfl

/-- A request that waits may find that the blob is ready, and remembers it then. -/
theorem inv_looping (hs : Inv s) {dgst : String} {access : Access}
    (hi : s.requests[i]? = some ⟨ref, .looping dgst access⟩) {s' : Server}
    (h : s.go i ref (.looping dgst access) = some s') : Inv s' := by
  have hself : Inv (s.setDisk s.disk) := hs
  have hdisk := inv_get hs dgst access
  rw [Server.go] at h
  cases access with
  | dir =>
      cases hdir : s.disk.dirs.lookup dgst with
      | none =>
          simp only [Disk.get, hdir] at h
          rw [← Option.some.inj h]
          exact inv_setRequest hself hi rfl (forall_of_uses_none rfl) hdir
      | some dir =>
          simp only [Disk.get, hdir] at h
          rw [← Option.some.inj h]
          exact inv_setRequest hself hi rfl (forall_of_uses_none rfl) trivial
  | ready =>
      cases hready : s.disk.ready.lookup dgst with
      | none =>
          simp only [Disk.get, hready] at h
          rw [← Option.some.inj h]
          exact inv_setRequest hself hi rfl (forall_of_uses_none rfl) trivial
      | some _ =>
          -- from here on garbage collection leaves the blob alone
          simp only [Disk.get, hready] at h
          rw [← Option.some.inj h]
          refine inv_setRequest hself hi rfl (fun dgst' huses => ?_) trivial
          rw [← Option.some.inj huses, Server.setDisk, hready]
          exact Option.some_ne_none _
  | used =>
      have huse := hs.inUse dgst (.inr ⟨_, List.mem_of_getElem? hi, rfl⟩)
      simp only [get_used hs huse] at h hdisk
      rw [← Option.some.inj h]
      exact inv_setRequest hdisk hi rfl (fun dgst' huses => Option.some.inj huses ▸ huse) rfl

/-- A request goes on by itself. There is one case for each phase. -/
theorem inv_go (hs : Inv s) (hi : s.requests[i]? = some ⟨ref, old⟩) (hcareful : Careful s (.go i))
    {s' : Server} (h : s.go i ref old = some s') : Inv s' := by
  have hholds : old.Holds s.disk.dirs := hs.requests _ (List.mem_of_getElem? hi)
  cases old with
  | arrived =>
      rw [← Option.some.inj h]
      refine inv_setRequest hs hi ?_ (fun dgst huses => ?_) ?_
      · split <;> rfl
      · cases hcached : s.refcache.lookup ref with
        | none =>
            rw [hcached, Option.getD_none, if_pos rfl] at huses
            exact nomatch huses
        | some dgst' =>
            rw [hcached, Option.getD_some] at huses
            split at huses
            · exact nomatch huses
            · rw [← Option.some.inj huses]
              exact hs.inUse dgst' (.inl ⟨ref, hcached⟩)
      · split <;> trivial
  | cached dgst access => exact inv_cached hs hi h
  | looping dgst access => exact inv_looping hs hi h
  | opened dgst =>
      have hnone : s.disk.dirs.lookup dgst = none := hholds
      simp only [Server.go, hnone] at h
      rw [← Option.some.inj h]
      exact inv_setRequest hs hi rfl nofun hnone
  | absent dgst =>
      rw [← Option.some.inj h]
      -- A careful request makes a directory only if nobody else works on the blob.
      have halone := hcareful _ (Option.mem_def.mpr hi)
      refine inv_makeDir hs hi fun j r hj hr => ?_
      exact halone j (List.getElem?_eq_some_iff.mp hr).1 hj r hr
  | writing dgst id size m =>
      cases m with
      | size =>
          rw [← Option.some.inj h]
          exact inv_setRequest (inv_setDisk hs (updated_refl _) rfl) hi rfl nofun hholds
      | used =>
          rw [← Option.some.inj h]
          exact inv_setRequest (inv_setDisk hs (updated_refl _) rfl) hi rfl nofun hholds
      | ready =>
          rw [← Option.some.inj h]
          exact inv_ready hs hi
  | found dgst complete =>
      rw [← Option.some.inj h]
      exact inv_found hs hi
  | _ => exact nomatch h

/-- Careful steps keep the invariant, so that it holds in all careful runs. What it is for is
    said in the next module: a request whose blob is in use finds it. -/
theorem inv_step {a : Action} (hs : Inv s) (hcareful : Careful s a) {s' : Server}
    (h : step s a = some s') : Inv s' := by
  unfold step at h
  cases a with
  | arrive ref =>
      rw [← Option.some.inj h]
      -- A request that has just come uses nothing and extracts nothing.
      refine ⟨hs.ready, fun dgst huse => hs.inUse dgst ?_, fun r hr => ?_, ?_,
        fun dgst dir hdir hnone => ?_⟩
      · rcases huse with hcached | ⟨r, hr, huses⟩
        · exact .inl hcached
        · rcases List.mem_append.mp hr with hold | hnew
          · exact .inr ⟨r, hold, huses⟩
          · rw [List.mem_singleton.mp hnew] at huses
            exact nomatch huses
      · rcases List.mem_append.mp hr with hold | hnew
        · exact hs.requests r hold
        · rw [List.mem_singleton.mp hnew]
          trivial
      · rw [List.flatMap_append, List.flatMap_singleton]
        exact (List.append_nil _).symm ▸ hs.exclusive
      · rcases hs.unready dgst dir hdir hnone with hon | ⟨r, hr, hworks⟩
        · exact .inl hon
        · exact .inr ⟨r, List.mem_append_left _ hr, hworks⟩
  | go i =>
      dsimp only at h
      split at h
      · next r hi => exact inv_go hs hi hcareful h
      · exact nomatch h
  | resolved i layers =>
      dsimp only at h
      split at h
      · next ref hi =>
          rw [← Option.some.inj h]
          refine inv_setRequest hs hi ?_ (fun dgst huses => ?_) ?_
          · split <;> rfl
          · split at huses <;> exact nomatch huses
          · split <;> trivial
      · exact nomatch h
  | fetched i ok =>
      dsimp only at h
      split at h
      · next ref dgst hi =>
          have hnone : s.disk.dirs.lookup dgst = none :=
            hs.requests _ (List.mem_of_getElem? hi)
          rw [← Option.some.inj h]
          -- Nobody has made a directory for the blob meanwhile.
          cases ok with
          | true => exact inv_setRequest hs hi rfl nofun hnone
          | false => exact inv_setRequest hs hi rfl nofun trivial
      · exact nomatch h
  | untarred i size =>
      dsimp only at h
      split at h
      · next ref dgst id hi =>
          cases size with
          | none =>
              rw [← Option.some.inj h]
              exact inv_fail hs (hcareful rfl) hi
          | some size =>
              rw [← Option.some.inj h]
              have hholds : Phase.Holds s.disk.dirs (.extracting dgst id) :=
                hs.requests _ (List.mem_of_getElem? hi)
              rcases hholds with ⟨dir, hdir, hid⟩
              -- It is the directory that the request has made itself.
              have hunpacked : s.disk.unpacked dgst id = { s.disk with
                  dirs := s.disk.dirs.insert dgst { dir with complete := true } } := by
                rw [Disk.unpacked, hdir]
                exact if_pos hid
              rw [hunpacked]
              refine inv_setRequest (inv_setDisk hs (updated_insert hdir rfl fun _ => rfl) rfl)
                hi rfl nofun ?_
              exact ⟨{ dir with complete := true }, AList.lookup_insert _, hid, rfl⟩
      · exact nomatch h
  | touch name =>
      dsimp only at h
      split at h
      · next dir hdir =>
          split at h
          · rw [← Option.some.inj h]
            exact inv_setDisk hs (updated_insert hdir rfl id) rfl
          · exact nomatch h
      · exact nomatch h
  | collect fails =>
      dsimp only at h
      split at h
      · next hon =>
          rcases hcollect : collect s.maxSize s.now fails s.disk s.gc with ⟨gc, disk⟩
          rw [hcollect] at h
          rw [← Option.some.inj h]
          exact inv_collect hs hon hcareful hcollect
      · exact nomatch h
  | tick n =>
      rw [← Option.some.inj h]
      exact ⟨hs.ready, hs.inUse, hs.requests, hs.exclusive, hs.unready⟩

theorem inv_newServer (maxSize : Int) : Inv (newServer maxSize) where
  ready dgst h := absurd (AList.lookup_empty dgst) h
  inUse dgst h := by
    rcases h with ⟨ref, hcached⟩ | ⟨r, hr, _⟩
    · rw [newServer, AList.lookup_empty] at hcached
      exact nomatch hcached
    · exact absurd hr List.not_mem_nil
  requests _ hr := absurd hr List.not_mem_nil
  exclusive := List.nodup_nil
  unready dgst dir hdir _ := by
    rw [newServer, AList.lookup_empty] at hdir
    exact nomatch hdir

end Blobserve

end Nxpod
