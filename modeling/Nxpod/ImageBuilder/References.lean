import Nxpod.Library.Map
import Nxpod.Library.Parties
import Nxpod.Library.Transition

/-!
# The References of an Image

Which images a build has stored when it says that it was successful. A build source leads
to the reference of its base image. That of an image source is the image in digest form, and
that of a Dockerfile is a tag in the repository of base images which is a hash of the
source. The workspace image has a tag that is a hash of the base image's reference.

A tag is resolved by adding the digest to it, so the digest form of a reference still has
its tag, and two tags of one image have two digest forms. The registry only looks at the
digest of such a reference. But the hash is computed from the whole text, and so from the
tag also.

A base image can also be passed back in digest form, and then the workspace image should be
found again. So a build stores it under two tags, the second of which is computed from the
digest form, and it pushes them one after the other. A request whose first tag is there
already does not build anything. It does not look for the second one.

References have been parsed here: a repository, and a tag or a digest in it. The images that
we build are never removed, and nobody else pushes to our two repositories, which are
different ones. Anything may happen to other images. `sha256` is a parameter.

## Main definitions

* `Version`: A digest may come with the tag that it was resolved from.
* `Ref`, `BuildSource`, `Builder`: References, and what a build is made from.
* `Ref.plain`: What the registry looks at.
* `Git`: The repository a Dockerfile is in.
* `Config`: The two repositories that images are pushed to, which are different ones.
* `getBaseImageRef`, `getWorkspaceImageRef`, `getAbsoluteImageRef`: The references.
* `Phase`: How far a request is.
* `Build`: A build that was closed has been successful or not.
* `Server`, `step`: The requests and the registry, and what can happen.
* `Action`: What is pushed may have been stored or not when an error is returned.
* `Agreed`: Where success was reported, both images are there.
* `InOrder`: The condition on a step.
* `Keeps`: Our images stay, and our base images are not replaced.
* `Inv`: What is kept in every run.
* `Grows`: What one build has done is kept when others go on.

## Theorems

* `getAbsoluteImageRef_idem`: A digest form resolves to itself.
* `keeps_push`: Pushing an image does not change the others.
* `inv_step`: What a step preserves.
* `agreed_of_inOrder`: Runs in which all who report success have stored both images.
-/

namespace Nxpod

namespace ImageBuilder

namespace References

open Transition Parties

/-! ## References -/

/-- A digest may come with the tag that it was resolved from. -/
inductive Version
  | tag (name : String)
  | digest (tag : Option String) (digest : String)
  deriving DecidableEq

/-- A reference that was parsed. -/
structure Ref where
  repository : String
  version : Version
  deriving DecidableEq

/-- How it is written, and this is what is hashed. -/
def Ref.text (ref : Ref) : String :=
  match ref.version with
  | .tag name => ref.repository ++ ":" ++ name
  | .digest none digest => ref.repository ++ "@" ++ digest
  | .digest (some name) digest => ref.repository ++ ":" ++ name ++ "@" ++ digest

/-- What the registry looks at, which is the digest where there is one. -/
def Ref.plain (ref : Ref) : Ref :=
  match ref.version with
  | .tag _ => ref
  | .digest _ digest => ⟨ref.repository, .digest none digest⟩

/-- It has a digest, so it always means the same image. -/
def Ref.Canonical (ref : Ref) : Prop :=
  ∃ tag digest, ref.version = .digest tag digest

/-- The repository a Dockerfile is in. -/
structure Git where
  cloneTaget : String
  remoteUri : String

/-- What is built if it is not an image. -/
structure BuildSourceDockerfile where
  dockerfilePath : String
  dockerfileVersion : String
  contextPath : String
  git : Option Git

/-- What a request asks for. A message may have neither. -/
inductive BuildSource
  | ref (ref : Ref)
  | file (file : BuildSourceDockerfile)
  | none

/-- The two repositories that images are pushed to, which are different ones. -/
structure Config where
  baseImageRepository : String
  workspaceImageRepository : String
  imageBuildSalt : String
  different : baseImageRepository ≠ workspaceImageRepository

/-- What does not change while the builder runs. -/
structure Builder where
  config : Config
  nxpodLayerHash : String
  sha256 : String → String

/-- What the registries have: the digest of the image with a reference. -/
abbrev Images := Map Ref String

/-- An image that was pushed is also there under its digest. -/
def push (images : Images) (ref : Ref) (digest : String) : Images :=
  (images.insert ref.plain digest).insert ⟨ref.repository, .digest none digest⟩ digest

/-- The registry has the image. -/
def isThere (images : Images) (ref : Ref) : Bool :=
  (images.lookup ref.plain).isSome

/-- The tag stays, and the digest is added to it. -/
def getAbsoluteImageRef (images : Images) (ref : Ref) : Option Ref :=
  match ref.version with
  | .digest .. => some ref
  | .tag name =>
      (images.lookup ref).map fun digest => ⟨ref.repository, .digest (some name) digest⟩

/-- The manifest of a source, with its keys in order. -/
def manifest (src : BuildSourceDockerfile) (git : Git) : String :=
  "CloneTarget: " ++ git.cloneTaget ++ "\n" ++
  "ContextPath: " ++ src.contextPath ++ "\n" ++
  "DockerfilePath: " ++ src.dockerfilePath ++ "\n" ++
  "DockerfileVersion: " ++ src.dockerfileVersion ++ "\n" ++
  "RemoteURI: " ++ git.remoteUri ++ "\n" ++
  "Source: git\n"

/-- The image that is built on. For an image it is what its name stands for now. -/
def getBaseImageRef (b : Builder) (images : Images) : BuildSource → Option Ref
  | .ref ref => getAbsoluteImageRef images ref
  | .file file => match file.git with
    | some git => some
        { repository := b.config.baseImageRepository
          version := .tag (b.sha256 (manifest file git ++ (b.config.imageBuildSalt ++ "\n"))) }
    | none => none
  | .none => none

/-- The image that is built, whose name is a hash of the other. -/
def getWorkspaceImageRef (b : Builder) (baseref : Ref) : Ref where
  repository := b.config.workspaceImageRepository
  version := .tag
    (b.sha256 (baseref.text ++ "\n" ++ b.nxpodLayerHash ++ "\n" ++ b.config.imageBuildSalt))

/-! ## The requests -/

/-- How far a request is. From `building` to `closing` it is the one that builds, with the
    build of the number `bld`. It reports success when it has `succeeded`. -/
inductive Phase
  | arrived
  | resolved (baseref : Ref)
  | existing (baseref : Ref)
  | missing (baseref : Ref)
  | listening (baseref : Ref) (bld : Nat)
  | building (baseref : Ref) (bld : Nat)
  | baseMissing (baseref : Ref) (bld : Nat)
  | baseReady (baseref : Ref) (bld : Nat)
  | pushing (baseref : Ref) (bld : Nat) (baserefAbsolute : Ref) (targetref : List Ref)
  | deregistering (baseref : Ref) (bld : Nat) (baserefAbsolute : Option Ref)
  | closing (baseref : Ref) (bld : Nat) (baserefAbsolute : Option Ref)
  | succeeded (wsref : Ref) (baseref : Ref)
  | failed

/-- A request and where it is. -/
structure Request where
  source : BuildSource
  phase : Phase

/-- A build that was closed has been successful or not. The base image is not kept with it,
    and no step depends on it. -/
structure Build where
  baseref : Ref
  status : Option Bool

/-- `complete` are the base images of the builds that have stored both of their tags, each
    with its digest form. No step depends on it. -/
structure Server where
  images : Images
  imgExistsCache : List Ref
  builds : Map Ref Nat
  all : List Build
  requests : List Request
  complete : List (Ref × Ref)

/-- What is pushed may have been stored or not when an error is returned. -/
inductive Action
  | build (source : BuildSource)
  | next (i : Nat)
  | pushBase (i : Nat) (digest : String) (stored ok : Bool)
  | push (i : Nat) (digest : String) (stored ok : Bool)
  | fail (i : Nat)
  | publish (ref : Ref) (digest : String)
  | withdraw (ref : Ref)
  | restart

/-- A request goes on. -/
def goOn (s : Server) (i : Nat) (r : Request) (phase : Phase) : Server :=
  { s with requests := s.requests.set i { r with phase := phase } }

/-- Only the images that we build ourselves are remembered. -/
def remembers (b : Builder) (ref : Ref) : Bool :=
  b.config.baseImageRepository.toList.isPrefixOf ref.text.toList ||
    b.config.workspaceImageRepository.toList.isPrefixOf ref.text.toList

/-- An image that was found once need not be looked for again, if its name cannot come to stand
    for another one. -/
def checkImageExists (b : Builder) (s : Server) (ref : Ref) : Bool × Server :=
  if ref ∈ s.imgExistsCache then (true, s)
  else if isThere s.images ref then
    (true, if remembers b ref then { s with imgExistsCache := ref :: s.imgExistsCache } else s)
  else (false, s)

/-- A new build. -/
def register (b : Builder) (s : Server) (i : Nat) (r : Request) (baseref : Ref) : Server :=
  { goOn s i r (.building baseref s.all.length) with
    builds := s.builds.insert (getWorkspaceImageRef b baseref) s.all.length
    all := s.all ++ [⟨baseref, none⟩] }

/-- A step of a request that is not about a push. -/
def next (b : Builder) (s : Server) (i : Nat) (r : Request) : Option Server :=
  match r.phase with
  | .arrived => match getBaseImageRef b s.images r.source with
    | some baseref => some (goOn s i r (.resolved baseref))
    | none => some (goOn s i r .failed)
  | .resolved baseref => match checkImageExists b s (getWorkspaceImageRef b baseref) with
    | (true, s) => some (goOn s i r (.existing baseref))
    | (false, s) => some (goOn s i r (.missing baseref))
  | .existing baseref => match getAbsoluteImageRef s.images baseref with
    | some baserefAbsolute =>
        some (goOn s i r (.succeeded (getWorkspaceImageRef b baseref) baserefAbsolute))
    | none => some (goOn s i r .failed)
  | .missing baseref => match s.builds.lookup (getWorkspaceImageRef b baseref) with
    | some bld => some (goOn s i r (.listening baseref bld))
    | none => some (register b s i r baseref)
  | .listening baseref bld => match s.all[bld]? with
    | some ⟨_, some true⟩ => match getAbsoluteImageRef s.images baseref with
      | some baserefAbsolute =>
          some (goOn s i r (.succeeded (getWorkspaceImageRef b baseref) baserefAbsolute))
      | none => some (goOn s i r .failed)
    | some ⟨_, some false⟩ => some (goOn s i r .failed)
    | _ => none
  | .building baseref bld => match checkImageExists b s baseref with
    | (true, s) => some (goOn s i r (.baseReady baseref bld))
    | (false, s) => match r.source with
      | .file _ => some (goOn s i r (.baseMissing baseref bld))
      | _ => some (goOn s i r (.deregistering baseref bld none))
  | .baseReady baseref bld => match getAbsoluteImageRef s.images baseref with
    | some baserefAbsolute => some (goOn s i r (.pushing baseref bld baserefAbsolute
        [getWorkspaceImageRef b baseref, getWorkspaceImageRef b baserefAbsolute]))
    | none => some (goOn s i r (.deregistering baseref bld none))
  | .pushing baseref bld baserefAbsolute [] =>
      some (goOn s i r (.deregistering baseref bld (some baserefAbsolute)))
  | .deregistering baseref bld baserefAbsolute =>
      some { goOn s i r (.closing baseref bld baserefAbsolute) with
        builds := s.builds.erase (getWorkspaceImageRef b baseref) }
  | .closing baseref bld (some baserefAbsolute) =>
      some { goOn s i r (.succeeded (getWorkspaceImageRef b baseref) baserefAbsolute) with
        all := s.all.set bld ⟨baseref, some true⟩ }
  | .closing baseref bld none =>
      some { goOn s i r .failed with all := s.all.set bld ⟨baseref, some false⟩ }
  | _ => none

/-- An error while the image is being built has the build deregistered and closed. -/
def fail : Phase → Option Phase
  | .building baseref bld => some (.deregistering baseref bld none)
  | .baseMissing baseref bld => some (.deregistering baseref bld none)
  | .baseReady baseref bld => some (.deregistering baseref bld none)
  | .pushing baseref bld _ _ => some (.deregistering baseref bld none)
  | .deregistering .. => none
  | .closing .. => none
  | .succeeded .. => none
  | .failed => none
  | _ => some .failed

/-- Requests end when the server does. What was reported was reported. -/
def Request.restart (r : Request) : Request :=
  match r.phase with
  | .succeeded .. => r
  | _ => { r with phase := .failed }

/-- An image in one of our repositories. -/
def ours (b : Builder) (ref : Ref) : Bool :=
  ref.repository = b.config.baseImageRepository ||
    ref.repository = b.config.workspaceImageRepository

/-- A request comes in or goes on, a push ends, an image of others comes or goes, or the builder
    is started again. -/
def step (b : Builder) (s : Server) : Action → Option Server
  | .build source => some { s with requests := s.requests ++ [⟨source, .arrived⟩] }
  | .next i => match s.requests[i]? with
    | some r => next b s i r
    | none => none
  | .pushBase i digest stored ok => match s.requests[i]? with
    | some ⟨source, .baseMissing baseref bld⟩ =>
        if ok && !stored then none
        else some { goOn s i ⟨source, .baseMissing baseref bld⟩
              (if ok then .baseReady baseref bld else .deregistering baseref bld none) with
          images := if stored then push s.images baseref digest else s.images }
    | _ => none
  | .push i digest stored ok => match s.requests[i]? with
    | some ⟨source, .pushing baseref bld baserefAbsolute (tag :: targetref)⟩ =>
        if ok && !stored then none
        else some { goOn s i ⟨source, .pushing baseref bld baserefAbsolute (tag :: targetref)⟩
              (if ok then .pushing baseref bld baserefAbsolute targetref
                else .deregistering baseref bld none) with
          images := if stored then push s.images tag digest else s.images
          complete := if stored && targetref.isEmpty then (baseref, baserefAbsolute) :: s.complete
            else s.complete }
    | _ => none
  | .fail i => match s.requests[i]? with
    | some r => (fail r.phase).map (goOn s i r)
    | none => none
  | .publish ref digest =>
      if ours b ref then none else some { s with images := push s.images ref digest }
  | .withdraw ref =>
      if ours b ref then none else some { s with images := s.images.erase ref.plain }
  | .restart => some { s with
      imgExistsCache := []
      builds := ∅
      requests := s.requests.map Request.restart }

/-- There are images and no requests. -/
def newServer (images : Images) : Server where
  images := images
  imgExistsCache := []
  builds := ∅
  all := []
  requests := []
  complete := []

/-! ## What is claimed of the references -/

/-- The workspace image is there, and also the one that is looked for when the base image is
    passed back. -/
def Agrees (b : Builder) (images : Images) (wsref baseref : Ref) : Prop :=
  isThere images wsref = true ∧
    ∃ baseref', getBaseImageRef b images (.ref baseref) = some baseref' ∧
      isThere images (getWorkspaceImageRef b baseref') = true

/-- Whoever was told of success has both images. -/
def Agreed (b : Builder) (s : Server) : Prop :=
  ∀ source wsref baseref, ⟨source, .succeeded wsref baseref⟩ ∈ s.requests →
    Agrees b s.images wsref baseref

/-- Where nothing is built for a Dockerfile, some build of its base image has stored both
    tags. And who listens in listens to a build of the same base image. -/
def InOrder (s : Server) : Action → Prop
  | .next i => match s.requests[i]? with
    | some ⟨_, .existing ⟨repository, .tag name⟩⟩ =>
        ∃ done ∈ s.complete, done.1 = ⟨repository, .tag name⟩
    | some ⟨_, .listening baseref bld⟩ => ∀ bd, s.all[bld]? = some bd → bd.baseref = baseref
    | _ => True
  | _ => True

/-! ## The registry -/

variable {b : Builder} {images images' : Images} {ref baseref baserefAbsolute : Ref}
  {s s' : Server} {a : Action} {i bld : Nat} {r : Request}

theorem repository_plain (ref : Ref) : ref.plain.repository = ref.repository := by
  unfold Ref.plain
  split <;> rfl

theorem isThere_tag (images : Images) (repository name : String) :
    isThere images ⟨repository, .tag name⟩ = (images.lookup ⟨repository, .tag name⟩).isSome :=
  rfl

/-- What a push has stored, under its digest and under its tag. -/
theorem lookup_push (images : Images) (ref ref' : Ref) (digest : String) :
    (push images ref digest).lookup ref' =
      if ref' = ⟨ref.repository, .digest none digest⟩ then some digest
      else if ref' = ref.plain then some digest else images.lookup ref' := by
  unfold push
  rw [Map.lookup_insert_eq_ite, Map.lookup_insert_eq_ite]

theorem isThere_push (images : Images) (ref ref' : Ref) (digest : String)
    (h : isThere images ref' = true) : isThere (push images ref digest) ref' = true := by
  unfold isThere at h ⊢
  rw [lookup_push]
  split_ifs
  · rfl
  · rfl
  · exact h

theorem isThere_push_self (images : Images) (ref : Ref) (digest : String) :
    isThere (push images ref digest) ref = true := by
  unfold isThere
  rw [lookup_push, if_pos rfl, ite_self]
  rfl

theorem canonical_getAbsoluteImageRef
    (h : getAbsoluteImageRef images ref = some baserefAbsolute) : baserefAbsolute.Canonical := by
  cases ref with
  | mk repository version =>
      cases version with
      | digest tag digest =>
          rw [← Option.some.inj h]
          exact ⟨tag, digest, rfl⟩
      | tag name =>
          rcases Option.map_eq_some_iff.mp h with ⟨digest, _, heq⟩
          rw [← heq]
          exact ⟨some name, digest, rfl⟩

theorem getAbsoluteImageRef_of_canonical (images : Images) (h : ref.Canonical) :
    getAbsoluteImageRef images ref = some ref := by
  rcases h with ⟨tag, digest, hversion⟩
  unfold getAbsoluteImageRef
  rw [hversion]

theorem getAbsoluteImageRef_idem (images' : Images)
    (h : getAbsoluteImageRef images ref = some baserefAbsolute) :
    getAbsoluteImageRef images' baserefAbsolute = some baserefAbsolute :=
  getAbsoluteImageRef_of_canonical images' (canonical_getAbsoluteImageRef h)

/-- Our images stay, and our base images are not replaced. -/
structure Keeps (b : Builder) (images images' : Images) : Prop where
  ours : ∀ ref, ours b ref = true → isThere images ref = true → isThere images' ref = true
  tags : ∀ name, isThere images ⟨b.config.baseImageRepository, .tag name⟩ = true →
    images'.lookup ⟨b.config.baseImageRepository, .tag name⟩ =
      images.lookup ⟨b.config.baseImageRepository, .tag name⟩

theorem keeps_refl (b : Builder) (images : Images) : Keeps b images images where
  ours _ _ h := h
  tags _ _ := rfl

/-- An image is pushed that is no base image, or a base image that was not there. -/
theorem keeps_push (digest : String)
    (h : ref.repository ≠ b.config.baseImageRepository ∨ images.lookup ref.plain = none) :
    Keeps b images (push images ref digest) where
  ours ref' _ := isThere_push images ref ref' digest
  tags name hthere := by
    rw [lookup_push]
    split_ifs with hdigest href
    · rw [Ref.mk.injEq] at hdigest
      exact absurd hdigest.2 nofun
    · rcases h with hrepository | hnone
      · rw [← repository_plain, ← href] at hrepository
        exact absurd rfl hrepository
      · rw [isThere_tag, href, hnone] at hthere
        exact absurd hthere nofun
    · rfl

theorem ours_plain (b : Builder) (ref : Ref) : ours b ref.plain = ours b ref := by
  unfold ours
  rw [repository_plain]

/-- What happens to the images of others does not matter. -/
theorem keeps_erase (h : ours b ref = false) : Keeps b images (images.erase ref.plain) where
  ours ref' href' hthere := by
    have hne : ref'.plain ≠ ref.plain := fun heq => by
      rw [← ours_plain, heq, ours_plain, h] at href'
      exact absurd href' nofun
    rw [isThere, AList.lookup_erase_ne hne]
    exact hthere
  tags name _ := by
    refine AList.lookup_erase_ne fun heq => ?_
    rw [← ours_plain, ← heq, ours, decide_eq_true rfl, Bool.true_or] at h
    exact absurd h nofun

/-- The reference is that of the source's base image. -/
def Comes (b : Builder) (source : BuildSource) (baseref : Ref) : Prop :=
  ∃ images, getBaseImageRef b images source = some baseref

theorem comes_file {file : BuildSourceDockerfile} (h : Comes b (.file file) baseref) :
    ∃ name, baseref = ⟨b.config.baseImageRepository, .tag name⟩ := by
  rcases h with ⟨images, h⟩
  unfold getBaseImageRef at h
  dsimp only at h
  split at h
  · exact ⟨_, (Option.some.inj h).symm⟩
  · exact absurd h nofun

/-- It is in digest form, or a tag of ours. -/
def IsBase (b : Builder) (ref : Ref) : Prop :=
  ref.Canonical ∨ ref.repository = b.config.baseImageRepository

theorem isBase_of_comes {source : BuildSource} (h : Comes b source baseref) :
    IsBase b baseref := by
  cases source with
  | ref ref =>
      rcases h with ⟨images, h⟩
      exact .inl (canonical_getAbsoluteImageRef h)
  | file file =>
      rcases comes_file h with ⟨name, rfl⟩
      exact .inr rfl
  | none => exact absurd h.choose_spec nofun

/-- The digest form of a base image stays the same. -/
theorem getAbsoluteImageRef_of_keeps (hk : Keeps b images images') (hbase : IsBase b baseref)
    (h : getAbsoluteImageRef images baseref = some baserefAbsolute) :
    getAbsoluteImageRef images' baseref = some baserefAbsolute := by
  cases baseref with
  | mk repository version =>
      cases version with
      | digest tag digest => exact h
      | tag name =>
          rcases hbase with ⟨tag, digest, hdigest⟩ | hrepository
          · exact absurd hdigest nofun
          · have hthere : isThere images ⟨repository, .tag name⟩ = true := by
              rcases Option.map_eq_some_iff.mp h with ⟨digest, hdigest, _⟩
              rw [isThere_tag, hdigest]
              rfl
            dsimp only at hrepository
            rw [hrepository] at hthere h ⊢
            unfold getAbsoluteImageRef at h ⊢
            dsimp only at h ⊢
            rw [hk.tags name hthere]
            exact h

theorem ours_getWorkspaceImageRef (b : Builder) (baseref : Ref) :
    ours b (getWorkspaceImageRef b baseref) = true := by
  unfold ours getWorkspaceImageRef
  dsimp only
  rw [decide_eq_true rfl, Bool.or_true]

/-- A workspace image is never taken for a base image. -/
theorem repository_getWorkspaceImageRef (b : Builder) (baseref : Ref) :
    (getWorkspaceImageRef b baseref).repository ≠ b.config.baseImageRepository :=
  b.config.different.symm

/-! ## The requests -/

/-- A build of this base image has the number. -/
def BuildsAt (all : List Build) (bld : Nat) (baseref : Ref) : Prop :=
  ∃ bd, all[bld]? = some bd ∧ bd.baseref = baseref

/-- What is still to be pushed when some of it has been pushed. -/
def PushesOn (b : Builder) (s : Server) (baseref baserefAbsolute : Ref) : List Ref → Prop
  | [] => (baseref, baserefAbsolute) ∈ s.complete
  | [tag] => tag = getWorkspaceImageRef b baserefAbsolute ∧
      isThere s.images (getWorkspaceImageRef b baseref) = true
  | targetref =>
      targetref = [getWorkspaceImageRef b baseref, getWorkspaceImageRef b baserefAbsolute]

/-- What is known of a request by where it is. -/
def Request.Holds (b : Builder) (s : Server) (r : Request) : Prop :=
  match r.phase with
  | .resolved baseref => Comes b r.source baseref
  | .existing baseref =>
      Comes b r.source baseref ∧ isThere s.images (getWorkspaceImageRef b baseref) = true
  | .missing baseref => Comes b r.source baseref
  | .listening baseref _ => Comes b r.source baseref
  | .building baseref bld => Comes b r.source baseref ∧ BuildsAt s.all bld baseref
  | .baseMissing baseref bld =>
      Comes b r.source baseref ∧ BuildsAt s.all bld baseref ∧
        (∃ name, baseref = ⟨b.config.baseImageRepository, .tag name⟩) ∧
        s.images.lookup baseref = none
  | .baseReady baseref bld => Comes b r.source baseref ∧ BuildsAt s.all bld baseref
  | .pushing baseref bld baserefAbsolute targetref =>
      Comes b r.source baseref ∧ BuildsAt s.all bld baseref ∧
        getAbsoluteImageRef s.images baseref = some baserefAbsolute ∧
        PushesOn b s baseref baserefAbsolute targetref
  | .deregistering baseref bld baserefAbsolute =>
      BuildsAt s.all bld baseref ∧ ∀ r, baserefAbsolute = some r → (baseref, r) ∈ s.complete
  | .closing baseref bld baserefAbsolute =>
      BuildsAt s.all bld baseref ∧ ∀ r, baserefAbsolute = some r → (baseref, r) ∈ s.complete
  | .succeeded wsref baseref =>
      ours b wsref = true ∧ isThere s.images wsref = true ∧
        baseref.Canonical ∧ isThere s.images (getWorkspaceImageRef b baseref) = true
  | _ => True

/-- The reference under which the build of a request is registered. -/
def Request.registered (b : Builder) (r : Request) : List Ref :=
  match r.phase with
  | .building baseref _ => [getWorkspaceImageRef b baseref]
  | .baseMissing baseref _ => [getWorkspaceImageRef b baseref]
  | .baseReady baseref _ => [getWorkspaceImageRef b baseref]
  | .pushing baseref _ _ _ => [getWorkspaceImageRef b baseref]
  | .deregistering baseref _ _ => [getWorkspaceImageRef b baseref]
  | _ => []

/-- Both tags of a complete build are there, and were computed from what its base image is. -/
structure Completed (b : Builder) (images : Images) (done : Ref × Ref) : Prop where
  base : IsBase b done.1
  absolute : getAbsoluteImageRef images done.1 = some done.2
  wsref : isThere images (getWorkspaceImageRef b done.1) = true
  abswsref : isThere images (getWorkspaceImageRef b done.2) = true

/-- What is kept in every run. -/
structure Inv (b : Builder) (s : Server) : Prop where
  requests : ∀ r ∈ s.requests, r.Holds b s
  complete : ∀ done ∈ s.complete, Completed b s.images done
  closed : ∀ bd ∈ s.all, bd.status = some true → ∃ done ∈ s.complete, done.1 = bd.baseref
  cache : ∀ ref ∈ s.imgExistsCache, ours b ref = true → isThere s.images ref = true
  exclusive : Exclusive (Request.registered b) s.builds.keys.toFinset s.requests

/-- What one build has done is kept when others go on. -/
structure Grows (b : Builder) (s s' : Server) : Prop where
  images : Keeps b s.images s'.images
  complete : s.complete ⊆ s'.complete
  all : ∀ bld baseref, BuildsAt s.all bld baseref → BuildsAt s'.all bld baseref

theorem buildsAt_append (all : List Build) (bd : Build) (h : BuildsAt all bld baseref) :
    BuildsAt (all ++ [bd]) bld baseref := by
  rcases h with ⟨bd', hbd', hbase⟩
  exact ⟨bd', (List.getElem?_append_left (List.getElem?_eq_some_iff.mp hbd').1).trans hbd', hbase⟩

theorem pushesOn_grows {targetref : List Ref} (hg : Grows b s s')
    (h : PushesOn b s baseref baserefAbsolute targetref) :
    PushesOn b s' baseref baserefAbsolute targetref := by
  unfold PushesOn at h ⊢
  split at h
  · exact hg.complete h
  · exact ⟨h.1, hg.images.ours _ (ours_getWorkspaceImageRef b baseref) h.2⟩
  · exact h

/-- A request is not concerned when others go on, if they do not push what it finds missing. -/
theorem holds_grows (hg : Grows b s s') (h : r.Holds b s)
    (hmissing : ∀ baseref bld, r.phase = .baseMissing baseref bld →
      s'.images.lookup baseref = none) : r.Holds b s' := by
  cases r with
  | mk source phase =>
      unfold Request.Holds at h ⊢
      cases phase with
      | arrived => trivial
      | resolved baseref => exact h
      | existing baseref =>
          exact ⟨h.1, hg.images.ours _ (ours_getWorkspaceImageRef b baseref) h.2⟩
      | missing baseref => exact h
      | listening baseref bld => exact h
      | building baseref bld => exact ⟨h.1, hg.all _ _ h.2⟩
      | baseMissing baseref bld =>
          exact ⟨h.1, hg.all _ _ h.2.1, h.2.2.1, hmissing baseref bld rfl⟩
      | baseReady baseref bld => exact ⟨h.1, hg.all _ _ h.2⟩
      | pushing baseref bld baserefAbsolute targetref =>
          -- The base image keeps the digest that was looked up.
          rcases h with ⟨hcomes, hat, habsolute, hpushes⟩
          exact ⟨hcomes, hg.all _ _ hat,
            getAbsoluteImageRef_of_keeps hg.images (isBase_of_comes hcomes) habsolute,
            pushesOn_grows hg hpushes⟩
      | deregistering baseref bld baserefAbsolute =>
          exact ⟨hg.all _ _ h.1, fun r hr => hg.complete (h.2 r hr)⟩
      | closing baseref bld baserefAbsolute =>
          exact ⟨hg.all _ _ h.1, fun r hr => hg.complete (h.2 r hr)⟩
      | succeeded wsref baseref =>
          rcases h with ⟨hours, hthere, hdigest, hthere'⟩
          exact ⟨hours, hg.images.ours _ hours hthere, hdigest,
            hg.images.ours _ (ours_getWorkspaceImageRef b baseref) hthere'⟩
      | failed => trivial

theorem completed_keeps {done : Ref × Ref} (hk : Keeps b images images')
    (h : Completed b images done) : Completed b images' done where
  base := h.base
  absolute := getAbsoluteImageRef_of_keeps hk h.base h.absolute
  wsref := hk.ours _ (ours_getWorkspaceImageRef b done.1) h.wsref
  abswsref := hk.ours _ (ours_getWorkspaceImageRef b done.2) h.abswsref

theorem agreed_of_inv (hs : Inv b s) : Agreed b s := by
  intro source wsref baseref hmem
  rcases hs.requests _ hmem with ⟨_, hthere, hcanonical, hthere'⟩
  exact ⟨hthere, baseref, getAbsoluteImageRef_of_canonical s.images hcanonical, hthere'⟩

/-! ## A request goes on -/

theorem inv_goOn {phase : Phase} (hs : Inv b s) (hi : s.requests[i]? = some r)
    (hholds : (⟨r.source, phase⟩ : Request).Holds b s)
    (hregistered : Request.registered b ⟨r.source, phase⟩ = r.registered b) :
    Inv b (goOn s i r phase) where
  requests := forall_mem_set hs.requests hholds
  complete := hs.complete
  closed := hs.closed
  cache := hs.cache
  exclusive := exclusive_set_of_eq hs.exclusive hi hregistered

/-- What the check says, and that it only remembers what is there. -/
theorem checkImageExists_spec {found : Bool} (hs : Inv b s) (ref : Ref)
    (h : checkImageExists b s ref = (found, s')) :
    ∃ cache, s' = { s with imgExistsCache := cache } ∧
      Inv b { s with imgExistsCache := cache } ∧
      (found = true → ours b ref = true → isThere s.images ref = true) ∧
      (found = false → s.images.lookup ref.plain = none) := by
  unfold checkImageExists at h
  split_ifs at h with hcached hthere hremembers
  · rw [Prod.mk.injEq] at h
    exact ⟨s.imgExistsCache, h.2.symm, hs, fun _ => hs.cache ref hcached,
      fun hfound => absurd (h.1.trans hfound) nofun⟩
  · rw [Prod.mk.injEq] at h
    refine ⟨ref :: s.imgExistsCache, h.2.symm, ⟨hs.requests, hs.complete, hs.closed, ?_,
      hs.exclusive⟩, fun _ _ => hthere, fun hfound => absurd (h.1.trans hfound) nofun⟩
    exact List.forall_mem_cons.mpr ⟨fun _ => hthere, hs.cache⟩
  · rw [Prod.mk.injEq] at h
    exact ⟨s.imgExistsCache, h.2.symm, hs, fun _ _ => hthere,
      fun hfound => absurd (h.1.trans hfound) nofun⟩
  · rw [Prod.mk.injEq] at h
    refine ⟨s.imgExistsCache, h.2.symm, hs, fun hfound => absurd (h.1.trans hfound) nofun,
      fun _ => ?_⟩
    rw [isThere, Bool.not_eq_true, Option.isSome_eq_false_iff, Option.isNone_iff_eq_none] at hthere
    exact hthere

/-- Success is reported of a complete build. -/
theorem holds_succeeded {source : BuildSource}
    (h : Completed b s.images (baseref, baserefAbsolute)) :
    (⟨source, .succeeded (getWorkspaceImageRef b baseref) baserefAbsolute⟩ :
      Request).Holds b s := by
  exact ⟨ours_getWorkspaceImageRef b baseref, h.wsref, canonical_getAbsoluteImageRef h.absolute,
    h.abswsref⟩

/-- The base image stands for what it stood for when it was built. -/
theorem completed_of_absolute {done : Ref × Ref} (hs : Inv b s) (hmem : done ∈ s.complete)
    (hbase : done.1 = baseref) (h : getAbsoluteImageRef s.images baseref = some baserefAbsolute) :
    Completed b s.images (baseref, baserefAbsolute) := by
  have hdone := hs.complete done hmem
  have hsame : done.2 = baserefAbsolute := by
    have habsolute := hdone.absolute
    rw [hbase, h] at habsolute
    exact (Option.some.inj habsolute).symm
  rw [← hbase, ← hsame]
  exact hdone

/-- Without building anything. What is in digest form has one tag only. -/
theorem holds_existing {source : BuildSource} (hs : Inv b s)
    (hi : s.requests[i]? = some ⟨source, .existing baseref⟩) (hin : InOrder s (.next i))
    (h : getAbsoluteImageRef s.images baseref = some baserefAbsolute) :
    (⟨source, .succeeded (getWorkspaceImageRef b baseref) baserefAbsolute⟩ :
      Request).Holds b s := by
  have hthere : isThere s.images (getWorkspaceImageRef b baseref) = true :=
    (hs.requests _ (List.mem_of_getElem? hi)).2
  cases baseref with
  | mk repository version =>
      cases version with
      | digest tag digest =>
          have hsame : baserefAbsolute = ⟨repository, .digest tag digest⟩ :=
            (Option.some.inj h).symm
          rw [hsame]
          exact ⟨ours_getWorkspaceImageRef b ⟨repository, .digest tag digest⟩, hthere,
            ⟨tag, digest, rfl⟩, hthere⟩
      | tag name =>
          unfold InOrder at hin
          dsimp only at hin
          rw [hi] at hin
          rcases hin with ⟨done, hmem, hbase⟩
          have hcompleted := completed_of_absolute hs hmem hbase h
          exact holds_succeeded hcompleted

/-- A build is registered that was not. -/
theorem inv_register {source : BuildSource} (hs : Inv b s)
    (hi : s.requests[i]? = some ⟨source, .missing baseref⟩)
    (hnone : s.builds.lookup (getWorkspaceImageRef b baseref) = none) :
    Inv b (register b s i ⟨source, .missing baseref⟩ baseref) := by
  have hcomes := hs.requests _ (List.mem_of_getElem? hi)
  -- The key is new, so no request has it registered.
  have hnot : getWorkspaceImageRef b baseref ∉ s.builds.keys.toFinset := by
    rw [List.mem_toFinset, Map.mem_keys_iff, not_not]
    exact hnone
  have hkeys : (s.builds.insert (getWorkspaceImageRef b baseref) s.all.length).keys.toFinset =
      insert (getWorkspaceImageRef b baseref) s.builds.keys.toFinset := by
    rw [AList.keys_insert, List.toFinset_cons, List.erase_of_not_mem fun hmem =>
      hnot (List.mem_toFinset.mpr hmem)]
  have hgrows : Grows b s (register b s i ⟨source, .missing baseref⟩ baseref) :=
    ⟨keeps_refl b s.images, List.Subset.refl _, fun _ _ h => buildsAt_append s.all _ h⟩
  have hat : BuildsAt (s.all ++ [⟨baseref, none⟩]) s.all.length baseref :=
    ⟨⟨baseref, none⟩, List.getElem?_concat_length, rfl⟩
  refine ⟨?_, hs.complete, fun bd hbd hstatus => ?_, hs.cache, ?_⟩
  · refine forall_mem_set_of_ne (fun j rj _ hj => ?_) ⟨hcomes, hat⟩
    have hrj := hs.requests rj (List.mem_of_getElem? hj)
    refine holds_grows hgrows hrj fun baseref' bld' hphase => ?_
    unfold Request.Holds at hrj
    rw [hphase] at hrj
    exact hrj.2.2.2
  · rcases List.mem_append.mp hbd with hold | hnew
    · exact hs.closed bd hold hstatus
    · rw [List.mem_singleton.mp hnew] at hstatus
      exact absurd hstatus nofun
  · unfold register
    dsimp only
    rw [hkeys]
    exact exclusive_insert hs.exclusive hi hnot rfl rfl

/-- The build is registered no longer, and nobody else has registered it. -/
theorem inv_deregister {source : BuildSource} {result : Option Ref} (hs : Inv b s)
    (hi : s.requests[i]? = some ⟨source, .deregistering baseref bld result⟩) :
    Inv b { goOn s i ⟨source, .deregistering baseref bld result⟩ (.closing baseref bld result) with
      builds := s.builds.erase (getWorkspaceImageRef b baseref) } := by
  have hkeys : (s.builds.erase (getWorkspaceImageRef b baseref)).keys.toFinset =
      s.builds.keys.toFinset.erase (getWorkspaceImageRef b baseref) := by
    ext ref
    rw [List.mem_toFinset, Map.mem_keys_iff, Map.lookup_erase_eq_ite, Finset.mem_erase,
      List.mem_toFinset, Map.mem_keys_iff]
    split_ifs with heq
    · exact iff_of_false (fun h => h rfl) fun h => h.1 heq
    · exact (and_iff_right heq).symm
  have hholds := hs.requests _ (List.mem_of_getElem? hi)
  refine ⟨forall_mem_set hs.requests hholds, hs.complete, hs.closed, hs.cache, ?_⟩
  dsimp only
  rw [hkeys]
  exact exclusive_erase hs.exclusive hi rfl rfl

theorem buildsAt_set {all : List Build} {bld' : Nat} {baseref' : Ref} (status : Option Bool)
    (hbld : BuildsAt all bld baseref) (h : BuildsAt all bld' baseref') :
    BuildsAt (all.set bld ⟨baseref, status⟩) bld' baseref' := by
  rcases hbld with ⟨bd, hbd, hbase⟩
  rcases h with ⟨bd', hbd', hbase'⟩
  by_cases hsame : bld = bld'
  · refine ⟨⟨baseref, status⟩, ?_, ?_⟩
    · rw [← hsame, List.getElem?_set_self (List.getElem?_eq_some_iff.mp hbd).1]
    · rw [← hsame, hbd] at hbd'
      rw [← hbase, ← hbase', Option.some.inj hbd']
  · exact ⟨bd', (List.getElem?_set_ne hsame).trans hbd', hbase'⟩

/-- The build is closed with the status that its request reports. -/
theorem inv_close {source : BuildSource} {result : Option Ref} {phase : Phase} {status : Bool}
    (hs : Inv b s) (hi : s.requests[i]? = some ⟨source, .closing baseref bld result⟩)
    (hholds : (⟨source, phase⟩ : Request).Holds b s)
    (hregistered : Request.registered b ⟨source, phase⟩ = [])
    (hmissing : ∀ baseref bld, phase ≠ .baseMissing baseref bld)
    (hstatus : status = true → ∃ done ∈ s.complete, done.1 = baseref) :
    Inv b { goOn s i ⟨source, .closing baseref bld result⟩ phase with
      all := s.all.set bld ⟨baseref, some status⟩ } := by
  have hclosing := hs.requests _ (List.mem_of_getElem? hi)
  have hgrows : Grows b s { goOn s i ⟨source, .closing baseref bld result⟩ phase with
      all := s.all.set bld ⟨baseref, some status⟩ } :=
    ⟨keeps_refl b s.images, List.Subset.refl _, fun _ _ h => buildsAt_set _ hclosing.1 h⟩
  refine ⟨?_, hs.complete, fun bd hbd hbdstatus => ?_, hs.cache, ?_⟩
  · refine forall_mem_set (fun rj hj => ?_) ?_
    · have hrj := hs.requests rj hj
      refine holds_grows hgrows hrj fun baseref' bld' hphase => ?_
      unfold Request.Holds at hrj
      rw [hphase] at hrj
      exact hrj.2.2.2
    · exact holds_grows hgrows hholds fun baseref' bld' hphase =>
        absurd hphase (hmissing baseref' bld')
  · rcases List.mem_or_eq_of_mem_set hbd with hold | hnew
    · exact hs.closed bd hold hbdstatus
    · rw [hnew] at hbdstatus ⊢
      exact hstatus (Option.some.inj hbdstatus)
  · exact exclusive_set_of_eq hs.exclusive hi hregistered

theorem inv_next {source : BuildSource} {phase : Phase} (hs : Inv b s)
    (hi : s.requests[i]? = some ⟨source, phase⟩) (hin : InOrder s (.next i))
    (h : next b s i ⟨source, phase⟩ = some s') : Inv b s' := by
  have hr := hs.requests _ (List.mem_of_getElem? hi)
  unfold next at h
  cases phase with
  | arrived =>
      dsimp only at h
      split at h
      · next baseref hbase =>
          rw [← Option.some.inj h]
          exact inv_goOn hs hi ⟨s.images, hbase⟩ rfl
      · rw [← Option.some.inj h]
        exact inv_goOn hs hi trivial rfl
  | resolved baseref =>
      dsimp only at h
      split at h
      · next s1 hcheck =>
          -- The look-up may have changed the cache, which keeps the invariant.
          rcases checkImageExists_spec hs _ hcheck with ⟨cache, rfl, hinv, hthere, _⟩
          rw [← Option.some.inj h]
          exact inv_goOn hinv hi ⟨hr, hthere rfl (ours_getWorkspaceImageRef b baseref)⟩ rfl
      · next s1 hcheck =>
          rcases checkImageExists_spec hs _ hcheck with ⟨cache, rfl, hinv, _, _⟩
          rw [← Option.some.inj h]
          exact inv_goOn hinv hi hr rfl
  | existing baseref =>
      dsimp only at h
      split at h
      · -- The image of the workspace exists, and tells which base it was made from.
        next baserefAbsolute habsolute =>
          rw [← Option.some.inj h]
          exact inv_goOn hs hi (holds_existing hs hi hin habsolute) rfl
      · rw [← Option.some.inj h]
        exact inv_goOn hs hi trivial rfl
  | missing baseref =>
      dsimp only at h
      -- Someone else builds it already, so the request listens to that build.
      split at h
      · rw [← Option.some.inj h]
        exact inv_goOn hs hi hr rfl
      · next hnone =>
          rw [← Option.some.inj h]
          exact inv_register hs hi hnone
  | listening baseref bld =>
      dsimp only at h
      split at h
      · next base hbd =>
          split at h
          · next baserefAbsolute habsolute =>
              rw [← Option.some.inj h]
              unfold InOrder at hin
              dsimp only at hin
              rw [hi] at hin
              -- The build is closed, so one that listens can read off its result.
              rcases hs.closed _ (List.mem_of_getElem? hbd) rfl with ⟨done, hmem, hdone⟩
              have hcompleted := completed_of_absolute hs hmem (hdone.trans (hin _ hbd)) habsolute
              exact inv_goOn hs hi (holds_succeeded hcompleted) rfl
          · rw [← Option.some.inj h]
            exact inv_goOn hs hi trivial rfl
      · rw [← Option.some.inj h]
        exact inv_goOn hs hi trivial rfl
      · exact absurd h nofun
  | building baseref bld =>
      dsimp only at h
      split at h
      · next s1 hcheck =>
          rcases checkImageExists_spec hs _ hcheck with ⟨cache, rfl, hinv, _, _⟩
          rw [← Option.some.inj h]
          exact inv_goOn hinv hi hr rfl
      · next s1 hcheck =>
          rcases checkImageExists_spec hs _ hcheck with ⟨cache, rfl, hinv, _, hnone⟩
          split at h
          · rw [← Option.some.inj h]
            rcases comes_file hr.1 with ⟨name, rfl⟩
            exact inv_goOn hinv hi ⟨hr.1, hr.2, ⟨name, rfl⟩, hnone rfl⟩ rfl
          · rw [← Option.some.inj h]
            exact inv_goOn hinv hi ⟨hr.2, nofun⟩ rfl
  | baseMissing baseref bld => exact absurd h nofun
  | baseReady baseref bld =>
      dsimp only at h
      split at h
      · next baserefAbsolute habsolute =>
          rw [← Option.some.inj h]
          exact inv_goOn hs hi ⟨hr.1, hr.2, habsolute, rfl⟩ rfl
      · rw [← Option.some.inj h]
        exact inv_goOn hs hi ⟨hr.2, nofun⟩ rfl
  | pushing baseref bld baserefAbsolute targetref =>
      cases targetref with
      | nil =>
          rw [← Option.some.inj h]
          refine inv_goOn hs hi ⟨hr.2.1, fun r hsome => ?_⟩ rfl
          rw [← Option.some.inj hsome]
          exact hr.2.2.2
      | cons tag targetref => exact absurd h nofun
  | deregistering baseref bld result =>
      rw [← Option.some.inj h]
      exact inv_deregister hs hi
  | closing baseref bld result =>
      cases result with
      | none =>
          rw [← Option.some.inj h]
          exact inv_close hs hi trivial rfl nofun nofun
      | some baserefAbsolute =>
          -- What is sent to those who listen was completed by this build.
          rw [← Option.some.inj h]
          have hmem := hr.2 baserefAbsolute rfl
          exact inv_close hs hi (holds_succeeded (hs.complete _ hmem)) rfl nofun
            fun _ => ⟨_, hmem, rfl⟩
  | succeeded wsref baseref => exact absurd h nofun
  | failed => exact absurd h nofun

/-! ## Images are pushed -/

theorem lookup_push_of_ne {name digest : String} {repository : String}
    (hne : ⟨repository, .tag name⟩ ≠ ref.plain) :
    (push images ref digest).lookup ⟨repository, .tag name⟩ =
      images.lookup ⟨repository, .tag name⟩ := by
  rw [lookup_push, if_neg, if_neg hne]
  intro heq
  rw [Ref.mk.injEq] at heq
  exact absurd heq.2 nofun

/-- The images change, and a request goes on with its build. -/
theorem inv_pushed {phase : Phase} (hs : Inv b s) (hi : s.requests[i]? = some r)
    (hk : Keeps b s.images images') (complete : List (Ref × Ref)) (hsub : s.complete ⊆ complete)
    (hcomplete : ∀ done ∈ complete, Completed b images' done)
    (hholds : (⟨r.source, phase⟩ : Request).Holds b { goOn s i r phase with
      images := images'
      complete := complete })
    (hregistered : Request.registered b ⟨r.source, phase⟩ = r.registered b)
    (hmissing : ∀ j rj baseref bld, j ≠ i → s.requests[j]? = some rj →
      rj.phase = .baseMissing baseref bld → images'.lookup baseref = none) :
    Inv b { goOn s i r phase with
      images := images'
      complete := complete } := by
  have hgrows : Grows b s { goOn s i r phase with
      images := images'
      complete := complete } := ⟨hk, hsub, fun _ _ h => h⟩
  refine ⟨?_, hcomplete, fun bd hbd hstatus => ?_, fun ref hmem hours => ?_, ?_⟩
  · refine forall_mem_set_of_ne (fun j rj hne hj => ?_) hholds
    exact holds_grows hgrows (hs.requests rj (List.mem_of_getElem? hj))
      fun baseref bld hphase => hmissing j rj baseref bld hne hj hphase
  · rcases hs.closed bd hbd hstatus with ⟨done, hmem, hbase⟩
    exact ⟨done, hsub hmem, hbase⟩
  · exact hk.ours ref hours (hs.cache ref hmem hours)
  · exact exclusive_set_of_eq hs.exclusive hi hregistered

/-- Nobody else has found the same base image missing. -/
theorem baseref_ne_of_ne {source : BuildSource} {baseref' : Ref} {bld' j : Nat} {rj : Request}
    (hs : Inv b s) (hi : s.requests[i]? = some ⟨source, .baseMissing baseref bld⟩) (hne : j ≠ i)
    (hj : s.requests[j]? = some rj) (hphase : rj.phase = .baseMissing baseref' bld') :
    baseref' ≠ baseref := by
  intro heq
  have hmem : getWorkspaceImageRef b baseref ∈ rj.registered b := by
    unfold Request.registered
    rw [hphase, ← heq]
    exact List.mem_singleton_self _
  exact hne (eq_of_nodup_flatMap hs.exclusive.nodup hj hi hmem (List.mem_singleton_self _))

theorem inv_pushBase {source : BuildSource} {digest : String} {stored ok : Bool} (hs : Inv b s)
    (hi : s.requests[i]? = some ⟨source, .baseMissing baseref bld⟩) :
    Inv b { goOn s i ⟨source, .baseMissing baseref bld⟩
        (if ok then .baseReady baseref bld else .deregistering baseref bld none) with
      images := if stored then push s.images baseref digest else s.images } := by
  rcases hs.requests _ (List.mem_of_getElem? hi) with ⟨hcomes, hat, ⟨tag, rfl⟩, hnone⟩
  have hk : Keeps b s.images (if stored then
      push s.images ⟨b.config.baseImageRepository, .tag tag⟩ digest else s.images) := by
    split_ifs
    · exact keeps_push digest (.inr hnone)
    · exact keeps_refl b s.images
  refine inv_pushed hs hi hk s.complete (List.Subset.refl _)
    (fun done hmem => completed_keeps hk (hs.complete done hmem)) ?_ ?_ ?_
  · cases ok with
    | true => exact ⟨hcomes, hat⟩
    | false => exact ⟨hat, nofun⟩
  · cases ok <;> rfl
  · intro j rj baseref' bld' hne hj hphase
    have hrj := hs.requests rj (List.mem_of_getElem? hj)
    unfold Request.Holds at hrj
    rw [hphase] at hrj
    rcases hrj with ⟨_, _, ⟨name, rfl⟩, hnone'⟩
    split_ifs
    · rw [lookup_push_of_ne (baseref_ne_of_ne hs hi hne hj hphase)]
      exact hnone'
    · exact hnone'

/-- What is missing is a base image of ours. -/
theorem lookup_push_missing {ref : Ref} {digest : String} (stored : Bool) (hs : Inv b s)
    (hrepository : ref.repository ≠ b.config.baseImageRepository) (hr : r ∈ s.requests)
    (hphase : r.phase = .baseMissing baseref bld) :
    (if stored then push s.images ref digest else s.images).lookup baseref = none := by
  have hholds := hs.requests r hr
  unfold Request.Holds at hholds
  rw [hphase] at hholds
  rcases hholds with ⟨_, _, ⟨name, rfl⟩, hnone⟩
  split_ifs
  · rw [lookup_push_of_ne fun heq =>
      hrepository ((repository_plain ref).symm.trans (congrArg Ref.repository heq).symm)]
    exact hnone
  · exact hnone

/-- The workspace image is pushed, under one tag after the other. -/
theorem inv_push {source : BuildSource} {tag : Ref} {targetref : List Ref} {digest : String}
    {stored ok : Bool} (hs : Inv b s) (hok : ok = true → stored = true)
    (hi : s.requests[i]? = some ⟨source, .pushing baseref bld baserefAbsolute (tag :: targetref)⟩) :
    Inv b { goOn s i ⟨source, .pushing baseref bld baserefAbsolute (tag :: targetref)⟩
        (if ok then .pushing baseref bld baserefAbsolute targetref
          else .deregistering baseref bld none) with
      images := if stored then push s.images tag digest else s.images
      complete := if stored && targetref.isEmpty then (baseref, baserefAbsolute) :: s.complete
        else s.complete } := by
  rcases hs.requests _ (List.mem_of_getElem? hi) with ⟨hcomes, hat, habsolute, hpushes⟩
  -- Workspace images are pushed only, and never to the repository of base images.
  have htag : tag.repository ≠ b.config.baseImageRepository := by
    cases targetref with
    | nil =>
        rw [hpushes.1]
        exact repository_getWorkspaceImageRef b baserefAbsolute
    | cons tag' targetref =>
        rw [(List.cons.inj hpushes).1]
        exact repository_getWorkspaceImageRef b baseref
  have hk : Keeps b s.images (if stored then push s.images tag digest else s.images) := by
    split_ifs
    · exact keeps_push digest (.inl htag)
    · exact keeps_refl b s.images
  -- A base that some build has found missing is not there after the push either.
  have hmissing : ∀ j rj baseref' bld', j ≠ i → s.requests[j]? = some rj →
      rj.phase = .baseMissing baseref' bld' →
      (if stored then push s.images tag digest else s.images).lookup baseref' = none :=
    fun j rj baseref' bld' _ hj hphase =>
      lookup_push_missing stored hs htag (List.mem_of_getElem? hj) hphase
  have habsolute' := getAbsoluteImageRef_of_keeps hk (isBase_of_comes hcomes) habsolute
  have hregistered : Request.registered b ⟨source, if ok then
      .pushing baseref bld baserefAbsolute targetref else .deregistering baseref bld none⟩ =
      [getWorkspaceImageRef b baseref] := by
    cases ok <;> rfl
  refine inv_pushed hs hi hk _ ?_ ?_ ?_ hregistered hmissing
  · split_ifs
    · exact List.subset_cons_self _ _
    · exact List.Subset.refl _
  · intro done hmem
    -- The build is complete with the last tag.
    by_cases hboth : (stored && targetref.isEmpty) = true
    · rw [if_pos hboth] at hmem
      rcases List.mem_cons.mp hmem with rfl | hold
      · rw [Bool.and_eq_true, List.isEmpty_iff] at hboth
        rcases hboth with ⟨rfl, rfl⟩
        rcases hpushes with ⟨rfl, hthere⟩
        refine ⟨isBase_of_comes hcomes, habsolute', ?_, ?_⟩
        · -- The first tag was pushed before, and nothing that the builder pushes is removed.
          exact hk.ours _ (ours_getWorkspaceImageRef b baseref) hthere
        · exact isThere_push_self s.images _ digest
      · exact completed_keeps hk (hs.complete done hold)
    · rw [if_neg hboth] at hmem
      exact completed_keeps hk (hs.complete done hmem)
  · cases ok with
    | false => exact ⟨hat, nofun⟩
    | true =>
        have hstored := hok rfl
        subst hstored
        refine ⟨hcomes, hat, habsolute', ?_⟩
        cases targetref with
        | nil => exact List.mem_cons_self
        -- The next tag is the one that is left.
        | cons tag' targetref =>
            rcases List.cons.inj hpushes with ⟨rfl, htargetref⟩
            rcases List.cons.inj htargetref with ⟨rfl, rfl⟩
            exact ⟨rfl, isThere_push_self s.images _ digest⟩

/-! ## One step -/

/-- Images of others come and go. -/
theorem inv_images (hs : Inv b s) (hk : Keeps b s.images images')
    (hmissing : ∀ r ∈ s.requests, ∀ baseref bld, r.phase = .baseMissing baseref bld →
      images'.lookup baseref = none) : Inv b { s with images := images' } where
  requests r hr := holds_grows ⟨hk, List.Subset.refl _, fun _ _ h => h⟩ (hs.requests r hr)
    (hmissing r hr)
  complete done hmem := completed_keeps hk (hs.complete done hmem)
  closed := hs.closed
  cache ref hmem hours := hk.ours ref hours (hs.cache ref hmem hours)
  exclusive := hs.exclusive

theorem repository_ne_of_not_ours (h : ¬ ours b ref = true) :
    ref.repository ≠ b.config.baseImageRepository := by
  intro heq
  rw [ours, heq, decide_eq_true rfl, Bool.true_or] at h
  exact h rfl

theorem inv_fail {phase : Phase} (hs : Inv b s) (hi : s.requests[i]? = some r)
    (h : fail r.phase = some phase) : Inv b (goOn s i r phase) := by
  cases r with
  | mk source old =>
      have hr := hs.requests _ (List.mem_of_getElem? hi)
      cases old with
      | arrived => exact Option.some.inj h ▸ inv_goOn hs hi trivial rfl
      | resolved baseref => exact Option.some.inj h ▸ inv_goOn hs hi trivial rfl
      | existing baseref => exact Option.some.inj h ▸ inv_goOn hs hi trivial rfl
      | missing baseref => exact Option.some.inj h ▸ inv_goOn hs hi trivial rfl
      | listening baseref bld => exact Option.some.inj h ▸ inv_goOn hs hi trivial rfl
      | building baseref bld => exact Option.some.inj h ▸ inv_goOn hs hi ⟨hr.2, nofun⟩ rfl
      | baseMissing baseref bld => exact Option.some.inj h ▸ inv_goOn hs hi ⟨hr.2.1, nofun⟩ rfl
      | baseReady baseref bld => exact Option.some.inj h ▸ inv_goOn hs hi ⟨hr.2, nofun⟩ rfl
      | pushing baseref bld baserefAbsolute targetref =>
          exact Option.some.inj h ▸ inv_goOn hs hi ⟨hr.2.1, nofun⟩ rfl
      | deregistering baseref bld result => exact absurd h nofun
      | closing baseref bld result => exact absurd h nofun
      | succeeded wsref baseref => exact absurd h nofun
      | failed => exact absurd h nofun

theorem holds_restart (s' : Server) (himages : s'.images = s.images) (h : r.Holds b s) :
    r.restart.Holds b s' ∧ r.restart.registered b = [] := by
  cases r with
  | mk source phase =>
      cases phase with
      | succeeded wsref baseref =>
          refine ⟨?_, rfl⟩
          unfold Request.restart Request.Holds at *
          dsimp only
          rw [himages]
          exact h
      | _ => exact ⟨trivial, rfl⟩

/-- A restart forgets the builds, and the images are still there. -/
theorem inv_restart (hs : Inv b s) : Inv b { s with
    imgExistsCache := []
    builds := ∅
    requests := s.requests.map Request.restart } := by
  refine ⟨fun r hr => ?_, hs.complete, hs.closed, fun _ hmem => absurd hmem List.not_mem_nil, ?_⟩
  · rcases List.mem_map.mp hr with ⟨old, hold, rfl⟩
    exact (holds_restart _ rfl (hs.requests old hold)).1
  · have hnone : (s.requests.map Request.restart).flatMap (Request.registered b) = [] := by
      refine List.flatMap_eq_nil_iff.mpr fun r hr => ?_
      rcases List.mem_map.mp hr with ⟨old, hold, rfl⟩
      exact (holds_restart s rfl (hs.requests old hold)).2
    refine ⟨?_, fun ref => ?_⟩
    · rw [hnone]
      exact List.nodup_nil
    · rw [hnone]
      exact iff_of_false (List.not_mem_nil ∘ List.mem_toFinset.mp) List.not_mem_nil

/-- One case for each action. -/
theorem inv_step (hs : Inv b s) (hin : InOrder s a) (h : step b s a = some s') : Inv b s' := by
  unfold step at h
  cases a with
  | build source =>
      rw [← Option.some.inj h]
      refine ⟨fun r hr => ?_, hs.complete, hs.closed, hs.cache, ?_⟩
      · rcases List.mem_append.mp hr with hold | hnew
        · exact hs.requests r hold
        · rw [List.mem_singleton.mp hnew]
          trivial
      · -- A request that has just arrived has nothing registered.
        have hsame :
            (s.requests ++ [(⟨source, .arrived⟩ : Request)]).flatMap (Request.registered b) =
              s.requests.flatMap (Request.registered b) := by
          rw [List.flatMap_append, List.flatMap_singleton]
          exact List.append_nil _
        refine ⟨?_, fun ref => ?_⟩
        · rw [hsame]
          exact hs.exclusive.nodup
        · rw [hsame]
          exact hs.exclusive.mem_iff ref
  | next i =>
      dsimp only at h
      split at h
      · next r hi => exact inv_next hs hi hin h
      · exact absurd h nofun
  | pushBase i digest stored ok =>
      dsimp only at h
      split at h
      · next source baseref bld hi =>
          -- The push of the base may fail halfway, and what was stored is stored.
          rw [Option.ite_none_left_eq_some, Option.some.injEq] at h
          rw [← h.2]
          exact inv_pushBase hs hi
      · exact absurd h nofun
  | push i digest stored ok =>
      dsimp only at h
      split at h
      · next source baseref bld baserefAbsolute tag targetref hi =>
          rw [Option.ite_none_left_eq_some, Option.some.injEq] at h
          rcases h with ⟨hlost, rfl⟩
          refine inv_push hs (fun hok => ?_) hi
          -- A push that has gone well was stored.
          rw [hok, Bool.true_and, Bool.not_eq_true', Bool.not_eq_false] at hlost
          exact hlost
      · exact absurd h nofun
  | fail i =>
      dsimp only at h
      split at h
      · next r hi =>
          rcases Option.map_eq_some_iff.mp h with ⟨phase, hphase, rfl⟩
          exact inv_fail hs hi hphase
      · exact absurd h nofun
  | publish ref digest =>
      dsimp only at h
      split_ifs at h with hours
      rw [← Option.some.inj h]
      -- Others publish, but not under the names that the builder has for itself.
      have hrepository := repository_ne_of_not_ours hours
      refine inv_images hs (keeps_push digest (.inl hrepository)) fun r hr baseref bld hphase => ?_
      exact lookup_push_missing true hs hrepository hr hphase
  | withdraw ref =>
      dsimp only at h
      split_ifs at h with hours
      rw [← Option.some.inj h]
      refine inv_images hs (keeps_erase (Bool.eq_false_iff.mpr hours))
        fun r hr baseref bld hphase => ?_
      have hholds := hs.requests r hr
      unfold Request.Holds at hholds
      rw [hphase] at hholds
      -- What is not there is not there after the withdrawal either.
      rw [Map.lookup_erase_eq_ite, hholds.2.2.2, ite_self]
  | restart =>
      rw [← Option.some.inj h]
      exact inv_restart hs

theorem inv_newServer (b : Builder) (images : Images) : Inv b (newServer images) where
  requests _ hmem := absurd hmem List.not_mem_nil
  complete _ hmem := absurd hmem List.not_mem_nil
  closed _ hmem := absurd hmem List.not_mem_nil
  cache _ hmem := absurd hmem List.not_mem_nil
  exclusive := ⟨List.nodup_nil, fun _ => iff_of_false (List.not_mem_nil ∘ List.mem_toFinset.mp)
    List.not_mem_nil⟩

/-- Where all who build nothing find that a build of their base image has stored both tags, and
    all who listen in listen to one of their base image, both images are there wherever success
    is reported. The caller builds on what is reported: it passes the base image back the next
    time, and expects that nothing has to be built for it. -/
theorem agreed_of_inOrder (b : Builder) (images : Images) (as : List Action) (t : Server)
    (hin : MeetsAlong (step b) InOrder as (newServer images))
    (h : runActions (step b) as (newServer images) = some t) : Agreed b t := by
  have hreach := reachesWithin_of_runActions as _ t hin h
  have hinv : Inv b t :=
    invariant_of_reachesWithin (fun s1 s2 a _ hs hok hstep => inv_step hs hok hstep) hreach
      (inv_newServer b images)
  exact agreed_of_inv hinv

instance decidableInOrder (s : Server) (a : Action) : Decidable (InOrder s a) := by
  unfold InOrder
  split
  · split
    · infer_instance
    · next baseref bld _ =>
        exact decidable_of_iff ((s.all[bld]?).all fun bd => bd.baseref = baseref) (by
          simp only [Option.all_eq_true, decide_eq_true_eq])
    · infer_instance
  · infer_instance

/-- A builder whose hash is the text itself. -/
def textBuilder : Builder where
  config :=
    { baseImageRepository := "base"
      workspaceImageRepository := "ws"
      imageBuildSalt := ""
      different := by decide }
  nxpodLayerHash := "0"
  sha256 := id

/-- A Dockerfile in a repository. -/
def dockerfile : BuildSource :=
  .file ⟨"Dockerfile", "1", "", some ⟨"main", "repo"⟩⟩

/-- Both tags are stored, and another request finds the image there. -/
theorem agreed_complete : ∃ as t, runActions (step textBuilder) as (newServer ∅) = some t ∧
    t.requests.any (fun r => match r.phase with
      | .succeeded .. => true
      | _ => false) = true ∧ Agreed textBuilder t := by
  have hrun : ∃ t, runActions (step textBuilder) [.build dockerfile, .next 0, .next 0, .next 0,
      .next 0, .pushBase 0 "d" true true, .next 0, .push 0 "e" true true, .push 0 "e" true true,
      .next 0, .next 0, .next 0, .build dockerfile, .next 1, .next 1, .next 1] (newServer ∅) =
        some t ∧ t.requests.any (fun r => match r.phase with
          | .succeeded .. => true
          | _ => false) = true :=
    exists_of_runActions_any _ _ _ _ (by decide +kernel)
  rcases hrun with ⟨t, ht, hany⟩
  exact ⟨_, t, ht, hany, agreed_of_inOrder textBuilder ∅ _ t (by decide +kernel) ht⟩

/-- The second tag cannot be pushed and the build fails. The next request finds the first tag
    and reports success, but the image that is looked for when the base image is passed
    back is not there. -/
theorem half_pushed : ∃ t, runActions (step textBuilder) [.build dockerfile, .next 0, .next 0,
      .next 0, .next 0, .pushBase 0 "d" true true, .next 0, .push 0 "e" true true,
      .push 0 "e" false false, .next 0, .next 0, .build dockerfile, .next 1, .next 1, .next 1]
      (newServer ∅) = some t ∧ ¬ Agreed textBuilder t := by
  refine exists_run_of_any (fun t => t.requests.any fun r => match r.phase with
      | .succeeded _ baseref => getAbsoluteImageRef t.images baseref = some baseref &&
          !isThere t.images (getWorkspaceImageRef textBuilder baseref)
      | _ => false) (by decide +kernel) fun t _ hany hagreed => ?_
  rcases List.any_eq_true.mp hany with ⟨⟨source, phase⟩, hmem, hphase⟩
  dsimp only at hphase
  split at hphase
  · next wsref baseref =>
      rw [Bool.and_eq_true, decide_eq_true_eq, Bool.not_eq_true'] at hphase
      rcases hagreed source wsref baseref hmem with ⟨_, baseref', hbase, hthere⟩
      have hsame := Option.some.inj (hphase.1.symm.trans hbase)
      rw [← hsame, hphase.2] at hthere
      exact absurd hthere nofun
  · exact absurd hphase nofun

end References

end ImageBuilder

end Nxpod
