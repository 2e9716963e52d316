import Nxpod.Library.Text
import Nxpod.Content.Manifest

/-!
# The Layer Provider

`GetContentLayer` finds the content of a workspace: the manifest of a full
backup, a legacy backup, and without any backup what the initializer names, a
snapshot, a prebuild or a Git repository. Where there is a manifest, its layers
are looked up one by one, and a layer is added that tells that the workspace is
ready, or how to initialize the rest.

A manifest of an unsupported type is returned together with an error, which the
callers take for an old snapshot. The snapshot path then uses the manifest all
the same, and drops the error of looking up its layers. The prebuild path uses
it too.

The storage, the HTTP client, `jsonpb` and the tar writer are given. A lookup
may have another result each time it is made.

## Main definitions

* `Err`: Two errors are told apart, and one of them only as long as nothing is
  wrapped around it.
* `Failure`: An error, or a nil pointer.
* `DownloadInfo`: What the storage says of an object, without the object.
* `Response`: The body is a document, or cannot be read, or is no document.
* `PrebuildSpec`: A snapshot, and what to do if there is none.
* `Initializer`: An initializer; a snapshot is given by its name.
* `WorkspaceInitSource`: Where the content has come from.
* `Provider`: What the provider works with.
* `downloadContentManifest`, `layerFromContentManifest`: Its helpers.
* `getSnapshotContentLayer`, `getPrebuildContentLayer`, `getContentLayer`: The
  content of a snapshot, of a prebuild, and of a workspace.
* `Complete`: All layers of the manifest are there.
* `Rejects`: What cannot be used ends in an error, or in the Git part of a prebuild.
* `Drops`: When a manifest is used that should not be.

## Theorems

* `layersFrom_spec`: The layers that are looked up.
* `downloadContentManifest_spec`: When a manifest is found.
* `rejects_of_not_drops`: What is rejected.
* `complete_iff`: When the layers are complete, and the rest is rejected.
-/

namespace Nxpod

namespace Content

/-- Two errors are told apart, and one of them only as long as nothing is wrapped around it. -/
inductive Err
  | notFound
  | unsupportedContentType
  | other (message : String)
  | wrapped (message : String) (err : Err)
  deriving DecidableEq

/-- `xerrors.Is` with `storage.ErrNotFound`. -/
def Err.isNotFound : Err → Bool
  | .notFound => true
  | .wrapped _ err => err.isNotFound
  | _ => false

/-- An error, or a nil pointer. -/
inductive Failure
  | error (err : Err)
  | panicked
  deriving DecidableEq

/-- What the storage says of an object, without the object. -/
structure DownloadInfo where
  contentType : String
  digest : String
  url : String

/-- The body is a document, or cannot be read, or is no document. -/
structure Response where
  statusCode : Nat
  body : Option (Except String (Option Json))

/-- Which lookup it is. -/
inductive Lookup
  | manifest
  | legacy
  | initializer
  | layer (i : Nat)

/-- A layer as it is returned: its content, or where to get it. -/
structure Layer where
  content : String
  url : String
  digest : String
  diffID : String
  mediaType : String
  size : Int
  deriving DecidableEq

/-- A snapshot, and what to do if there is none. -/
structure PrebuildSpec (γ : Type) where
  prebuild : Option String
  git : Option γ

/-- An initializer; a snapshot is given by its name. -/
inductive Initializer (γ : Type)
  | snapshot (snapshot : Option String)
  | prebuild (prebuild : Option (PrebuildSpec γ))
  | git (git : Option γ)
  | other

namespace Initializer

variable {γ : Type}

/-- The accessor that is generated: what is something else has none. -/
def getSnapshot : Initializer γ → Option String
  | .snapshot s => s
  | _ => none

/-- The same for a prebuild. -/
def getPrebuild : Initializer γ → Option (PrebuildSpec γ)
  | .prebuild pb => pb
  | _ => none

/-- The same for a repository. -/
def getGit : Initializer γ → Option γ
  | .git g => g
  | _ => none

end Initializer

/-- Where the content has come from. -/
inductive WorkspaceInitSource
  | fromBackup
  | fromPrebuild
  | fromOther
  deriving DecidableEq

/-- How it is written. -/
def WorkspaceInitSource.text : WorkspaceInitSource → String
  | .fromBackup => "from-backup"
  | .fromPrebuild => "from-prebuild"
  | .fromOther => "from-other"

/-- What the provider works with. `tar` writes an archive of directories and files,
    and `marshalInitializer` is `jsonpb`. -/
structure Provider (γ : Type) where
  bucket : String → String
  download : Lookup → String → String → Except Err DownloadInfo
  get : Lookup → String → Except String Response
  marshalInitializer : Initializer γ → Except String Json
  tar : List (String × Option Json) → Except String String
  fromBytes : String → String

variable {γ : Type}

/-- The name of the manifest, in this part of the program. -/
def fmtWorkspaceManifest (workspaceID : String) : String :=
  "workspaces/" ++ workspaceID ++ "/wsfull.json"

/-- The name of a backup without a manifest. -/
def fmtLegacyBackupName (workspaceID : String) : String :=
  "workspaces/" ++ workspaceID ++ "/full.tar"

/-- Get the document of a manifest and read it. -/
def readManifest (p : Provider γ) (lookup : Lookup) (info : DownloadInfo) :
    Except Err ContentManifest :=
  match p.get lookup info.url with
  | .error err => .error (.other err)
  | .ok mfresp =>
    if mfresp.statusCode ≠ 200 then
      .error (.other ("cannot get " ++ info.url ++ ": status " ++ toString mfresp.statusCode))
    else match mfresp.body with
      | none => .error (.other "empty response")
      | some (.error err) => .error (.other err)
      | some (.ok mfr) => match mfr.bind ContentManifest.unmarshal with
        | none => .error (.other "cannot unmarshal")
        | some mf => .ok mf

/-- The manifest, where it was found, and the error. There can be both a manifest
    and an error. -/
def downloadContentManifest (p : Provider γ) (lookup : Lookup) (bkt obj : String) :
    Option ContentManifest × Option DownloadInfo × Option Err :=
  match p.download lookup bkt obj with
  | .error err => (none, none, some err)
  | .ok info =>
    if info.contentType ≠ contentTypeManifest then
      (none, some info, some .unsupportedContentType)
    else match readManifest p lookup info with
      | .error err => (none, some info, some err)
      | .ok mf => (some mf, some info,
          if mf.type ≠ typeFullWorkspaceContentV1 then some .unsupportedContentType else none)

/-- A layer is made of a few files, and is named by its digest. -/
def layerFromContent (p : Provider γ) (fs : List (String × Option Json)) : Except Err Layer :=
  match p.tar fs with
  | .error err => .error (.wrapped "cannot prepare content layer" (.other err))
  | .ok content => .ok
      { content := content, url := "", digest := p.fromBytes content, diffID := "",
        mediaType := "", size := 0 }

/-- A layer that says how to make the content. -/
def contentDescriptorToLayer (p : Provider γ) (cdesc : Json) : Except Err Layer :=
  layerFromContent p [("/workspace", none), ("/workspace/.nxpod", none),
    ("/workspace/.nxpod/content.json", some cdesc)]

/-- A layer that says that the content is there. -/
def workspaceReadyLayer (p : Provider γ) (src : WorkspaceInitSource) : Except Err Layer :=
  layerFromContent p [("/workspace", none), ("/workspace/.nxpod", none),
    ("/workspace/.nxpod/ready", some (.obj [("source", .str src.text)]))]

/-- The layers of a manifest from number `i` on. -/
def layersFrom (p : Provider γ) (i : Nat) : List ContentLayer → Except Err (List Layer)
  | [] => .ok []
  | mfl :: rest => match p.download (.layer i) mfl.bucket mfl.object with
    | .error err => .error err
    | .ok info =>
      if info.digest ≠ mfl.digest then
        .error (.other ("digest mismatch for " ++ mfl.bucket ++ "/" ++ mfl.object ++
          ": expected " ++ mfl.digest ++ ", got " ++ info.digest))
      else match layersFrom p (i + 1) rest with
        | .error err => .error err
        | .ok ls => .ok
            ({ content := "", url := info.url, digest := mfl.digest, diffID := mfl.diffID,
               mediaType := mfl.mediaType, size := mfl.size } :: ls)

/-- The layers of a manifest, with one more if there is nothing left to be done. -/
def layerFromContentManifest (p : Provider γ) (mf : ContentManifest)
    (initsrc : WorkspaceInitSource) (ready : Bool) : Except Err (List Layer) :=
  match layersFrom p 0 mf.layers with
  | .error err => .error err
  | .ok l =>
    if ready then
      match workspaceReadyLayer p initsrc with
      | .error err => .error err
      | .ok rl => .ok (l ++ [rl])
    else .ok l

/-- `executor.PrepareFromBackup`. -/
def prepareFromBackup (url : String) : Json :=
  .obj [("fromBackupURL", .str url)]

/-- `executor.Prepare`. -/
def prepare (p : Provider γ) (req : Initializer γ) (urls : List (String × String)) :
    Except Err Json :=
  match p.marshalInitializer req with
  | .error err => .error (.other err)
  | .ok ilr => .ok (.obj ((if urls.isEmpty then [] else
      [("urls", .obj (urls.map fun u => (u.1, .str u.2)))]) ++ [("req", ilr)]))

/-- The layers, and the manifest if there is one. -/
abbrev Found := Except Failure (List Layer × Option ContentManifest)

/-- One layer that holds how to initialize the content. -/
def initLayer (p : Provider γ) (cdesc : Except Err Json) : Found :=
  match cdesc with
  | .error err => .error (.error err)
  | .ok cdesc => match contentDescriptorToLayer p cdesc with
    | .error err => .error (.error err)
    | .ok layer => .ok ([layer], none)

/-- A snapshot with a manifest is made of its layers, and one without is downloaded later. -/
def getSnapshotContentLayer (p : Provider γ) (snapshot : String) : Found :=
  match Text.split '@' snapshot with
  | [obj, bkt] => match downloadContentManifest p .initializer bkt obj with
    | (manifest, info, err) =>
      if err = some .notFound then .error (.error (.wrapped "invalid snapshot" .notFound))
      else match err.filter (· ≠ .unsupportedContentType) with
        | some err => .error (.error err)
        | none => match manifest with
          | none => match info with
            | none => .error .panicked
            | some info =>
              initLayer p (prepare p (.snapshot (some snapshot)) [(snapshot, info.url)])
          | some mf => match layerFromContentManifest p mf .fromOther true with
            | .ok l => .ok (l, some mf)
            -- the error is not returned
            | .error _ => .ok ([], some mf)
  | _ => .error (.error (.other ("invalid snapshot FQN: " ++ snapshot)))

/-- The same with a repository to fall back on. -/
def getPrebuildContentLayer (p : Provider γ) (pb : PrebuildSpec γ) : Found :=
  match pb.prebuild with
  | none => .error .panicked
  | some snapshot => match Text.split '@' snapshot with
    | [obj, bkt] => match downloadContentManifest p .initializer bkt obj with
      | (manifest, info, err) =>
        if err = some .notFound then .error (.error (.wrapped "invalid snapshot" .notFound))
        else match err.filter (· ≠ .unsupportedContentType) with
          | some err => .error (.error err)
          | none => match manifest with
            | none => match info with
              | none => .error .panicked
              | some info =>
                initLayer p (prepare p (.prebuild (some pb)) [(snapshot, info.url)])
            | some mf => match layerFromContentManifest p mf .fromPrebuild false with
              | .error err => .error (.error err)
              | .ok ls =>
                match initLayer p (prepare p (.prebuild (some ⟨none, pb.git⟩)) []) with
                | .error failure => .error failure
                | .ok (layer, _) => .ok (ls ++ layer, some mf)
    | _ => .error (.error (.other ("invalid snapshot FQN: " ++ snapshot)))

/-- A repository is cloned later. -/
def getGitContentLayer (p : Provider γ) (git : Option γ) : Found :=
  match git with
  | none => .error (.error (.other "no backup or valid initializer present"))
  | some git => initLayer p (prepare p (.git (some git)) [])

/-- What the initializer names. A prebuild that fails is left for its Git part. -/
def fromInitializer (p : Provider γ) (initializer : Initializer γ) : Found :=
  match initializer.getSnapshot with
  | some snapshot => getSnapshotContentLayer p snapshot
  | none => match initializer.getPrebuild with
    | none => getGitContentLayer p initializer.getGit
    | some pb => match getPrebuildContentLayer p pb with
      | .error (.error _) => getGitContentLayer p pb.git
      | found => found

/-- The backup comes first, then the legacy backup, and only without either what the initializer
    names. -/
def findContent (p : Provider γ) (owner workspaceID : String) (initializer : Initializer γ) :
    Found :=
  match downloadContentManifest p .manifest (p.bucket owner)
      (fmtWorkspaceManifest workspaceID) with
  | (manifest, _, err) => match err.filter (· ≠ .notFound) with
    | some err => .error (.error err)
    | none => match manifest with
      | some mf => match layerFromContentManifest p mf .fromBackup true with
        | .error err => .error (.error err)
        | .ok l => .ok (l, some mf)
      | none => match p.download .legacy (p.bucket owner) (fmtLegacyBackupName workspaceID) with
        | .ok info => initLayer p (.ok (prepareFromBackup info.url))
        | .error err =>
          if err.isNotFound then fromInitializer p initializer else .error (.error err)

/-- The manifest that is returned when there is none. -/
def emptyManifest : ContentManifest :=
  ⟨typeFullWorkspaceContentV1, []⟩

/-- Where there is no manifest the empty one is returned. -/
def returned (found : List Layer × Option ContentManifest) : List Layer × ContentManifest :=
  (found.1, found.2.getD emptyManifest)

/-- What is returned to the caller. -/
def getContentLayer (p : Provider γ) (owner workspaceID : String) (initializer : Initializer γ) :
    Except Failure (List Layer × ContentManifest) :=
  (findContent p owner workspaceID initializer).map returned

/-! ## Layers that are complete -/

/-- A layer of the manifest as it is returned. -/
structure Matches (mfl : ContentLayer) (l : Layer) : Prop where
  digest : l.digest = mfl.digest
  diffID : l.diffID = mfl.diffID
  size : l.size = mfl.size
  mediaType : l.mediaType = mfl.mediaType

/-- The layer that is added: the workspace is ready, or how to initialize it. -/
def IsAdded (p : Provider γ) (l : Layer) : Prop :=
  (∃ src, workspaceReadyLayer p src = .ok l) ∨ ∃ cdesc, contentDescriptorToLayer p cdesc = .ok l

/-- The layers are those of the manifest, in their order, and one that is added. -/
def Lists (p : Provider γ) (mf : ContentManifest) (l : List Layer) : Prop :=
  mf.type = typeFullWorkspaceContentV1 ∧
    ∃ ls added, l = ls ++ [added] ∧ List.Forall₂ Matches mf.layers ls ∧ IsAdded p added

/-- What is returned with a manifest that is not empty is complete. -/
def Complete (p : Provider γ) (owner workspaceID : String) (initializer : Initializer γ) : Prop :=
  ∀ l mf, getContentLayer p owner workspaceID initializer = .ok (l, mf) →
    mf ≠ emptyManifest → Lists p mf l

/-- A manifest can be downloaded, whatever its type. -/
def FindsManifest (p : Provider γ) (lookup : Lookup) (bkt obj : String) (mf : ContentManifest) :
    Prop :=
  ∃ info doc, p.download lookup bkt obj = .ok info ∧ info.contentType = contentTypeManifest ∧
    p.get lookup info.url = .ok ⟨200, some (.ok (some doc))⟩ ∧
      ContentManifest.unmarshal doc = some mf

/-- All layers are found, with the digests of the manifest. -/
def LayersThere (p : Provider γ) (layers : List ContentLayer) : Prop :=
  ∀ (i : Nat) (mfl : ContentLayer), layers[i]? = some mfl →
    ∃ info, p.download (.layer i) mfl.bucket mfl.object = .ok info ∧ info.digest = mfl.digest

/-- Neither the manifest of a full backup nor a legacy backup is there. -/
def NoBackup (p : Provider γ) (owner workspaceID : String) : Prop :=
  p.download .manifest (p.bucket owner) (fmtWorkspaceManifest workspaceID) = .error .notFound ∧
    ∃ err, p.download .legacy (p.bucket owner) (fmtLegacyBackupName workspaceID) = .error err ∧
      err.isNotFound = true

/-- A snapshot has a manifest that is used though its type is unsupported or one of
    its layers is not there. -/
def DropsSnapshot (p : Provider γ) (snapshot : String) : Prop :=
  ∃ obj bkt mf, Text.split '@' snapshot = [obj, bkt] ∧ FindsManifest p .initializer bkt obj mf ∧
    mf ≠ emptyManifest ∧ ¬ (mf.type = typeFullWorkspaceContentV1 ∧ LayersThere p mf.layers ∧
      ∃ rl, workspaceReadyLayer p .fromOther = .ok rl)

/-- A prebuild has a manifest of an unsupported type, and everything else is there. -/
def DropsPrebuild (p : Provider γ) (pb : PrebuildSpec γ) : Prop :=
  ∃ snapshot obj bkt mf, pb.prebuild = some snapshot ∧ Text.split '@' snapshot = [obj, bkt] ∧
    FindsManifest p .initializer bkt obj mf ∧ mf.type ≠ typeFullWorkspaceContentV1 ∧
      LayersThere p mf.layers ∧
        ∃ found, initLayer p (prepare p (.prebuild (some ⟨none, pb.git⟩)) []) = .ok found

/-- A manifest that must not be used: its type is not supported, or one of its layers is not found
    with its digest. -/
def Unusable (p : Provider γ) (mf : ContentManifest) : Prop :=
  mf.type ≠ typeFullWorkspaceContentV1 ∨ ¬ LayersThere p mf.layers

/-- What cannot be used ends in an error, wherever it comes from, or for a prebuild in what its Git
    part gives. It is never passed over. -/
structure Rejects (p : Provider γ) (owner workspaceID : String) (initializer : Initializer γ) :
    Prop where
  /-- Something else than a manifest is where the one of a backup belongs. -/
  backupType : ∀ info, p.download .manifest (p.bucket owner) (fmtWorkspaceManifest workspaceID) =
      .ok info → info.contentType ≠ contentTypeManifest →
    ∃ err, getContentLayer p owner workspaceID initializer = .error (.error err)
  backup : ∀ mf, FindsManifest p .manifest (p.bucket owner) (fmtWorkspaceManifest workspaceID) mf →
      Unusable p mf → ∃ err, getContentLayer p owner workspaceID initializer = .error (.error err)
  snapshot : ∀ name obj bkt mf, NoBackup p owner workspaceID →
      initializer.getSnapshot = some name → Text.split '@' name = [obj, bkt] →
      FindsManifest p .initializer bkt obj mf → Unusable p mf →
    ∃ err, getContentLayer p owner workspaceID initializer = .error (.error err)
  prebuild : ∀ pb name obj bkt mf, NoBackup p owner workspaceID →
      initializer.getPrebuild = some pb → pb.prebuild = some name →
      Text.split '@' name = [obj, bkt] → FindsManifest p .initializer bkt obj mf →
      Unusable p mf →
    getContentLayer p owner workspaceID initializer = (getGitContentLayer p pb.git).map returned

/-- A manifest is used that should not be. -/
def Drops (p : Provider γ) (owner workspaceID : String) (initializer : Initializer γ) : Prop :=
  NoBackup p owner workspaceID ∧
    match initializer.getSnapshot with
    | some snapshot => DropsSnapshot p snapshot
    | none => ∃ pb, initializer.getPrebuild = some pb ∧ DropsPrebuild p pb

/-! ## The helpers -/

variable {p : Provider γ}

/-- Looking up the layers finds one for each, unless one of them is not there. -/
theorem layersFrom_spec (p : Provider γ) (layers : List ContentLayer) (i : Nat) :
    (∃ ls, layersFrom p i layers = .ok ls ∧ List.Forall₂ Matches layers ls ∧
      ∀ (j : Nat) (mfl : ContentLayer), layers[j]? = some mfl →
        ∃ info, p.download (.layer (i + j)) mfl.bucket mfl.object = .ok info ∧
          info.digest = mfl.digest) ∨
    (∃ err, layersFrom p i layers = .error err) ∧
      ∃ (j : Nat) (mfl : ContentLayer), layers[j]? = some mfl ∧
        ∀ info, p.download (.layer (i + j)) mfl.bucket mfl.object = .ok info →
          info.digest ≠ mfl.digest := by
  induction layers generalizing i with
  | nil => exact Or.inl ⟨[], rfl, .nil, fun j mfl h => absurd h nofun⟩
  | cons mfl rest ih =>
      unfold layersFrom
      cases hdownload : p.download (.layer i) mfl.bucket mfl.object with
      | error err =>
          refine Or.inr ⟨⟨err, rfl⟩, 0, mfl, rfl, fun info hinfo => ?_⟩
          exact absurd (hdownload.symm.trans hinfo) nofun
      | ok info =>
          -- A layer with another digest counts as one that is not there.
          by_cases hdigest : info.digest = mfl.digest
          · simp only [hdigest, ne_eq, not_true, if_false]
            rcases ih (i + 1) with
              ⟨ls, hls, hmatches, hthere⟩ | ⟨⟨err, herr⟩, j, mfl', hj, hgone⟩
            · refine Or.inl ⟨_, by rw [hls], .cons ⟨rfl, rfl, rfl, rfl⟩ hmatches,
                fun j mfl' hj => ?_⟩
              cases j with
              | zero =>
                  rw [List.getElem?_cons_zero, Option.some.injEq] at hj
                  rw [← hj]
                  exact ⟨info, hdownload, hdigest⟩
              | succ j =>
                  rw [List.getElem?_cons_succ] at hj
                  rw [← Nat.add_assoc, Nat.add_right_comm]
                  exact hthere j mfl' hj
            · refine Or.inr ⟨⟨err, by rw [herr]⟩, j + 1, mfl', hj, ?_⟩
              rw [← Nat.add_assoc, Nat.add_right_comm]
              exact hgone
          · refine Or.inr ⟨⟨_, if_pos hdigest⟩, 0, mfl, rfl, fun info' hinfo' => ?_⟩
            rw [← Except.ok.inj (hdownload.symm.trans hinfo')]
            exact hdigest

/-- The layers of a manifest with the one that is added, unless one of them is not
    there or the added one cannot be made. -/
theorem layerFromContentManifest_ready (p : Provider γ) (mf : ContentManifest)
    (src : WorkspaceInitSource) :
    (∃ ls rl, layerFromContentManifest p mf src true = .ok (ls ++ [rl]) ∧
      List.Forall₂ Matches mf.layers ls ∧ LayersThere p mf.layers ∧
        workspaceReadyLayer p src = .ok rl) ∨
    (∃ err, layerFromContentManifest p mf src true = .error err) ∧
      ¬ (LayersThere p mf.layers ∧ ∃ rl, workspaceReadyLayer p src = .ok rl) := by
  unfold layerFromContentManifest
  rcases layersFrom_spec p mf.layers 0 with
    ⟨ls, hls, hmatches, hthere⟩ | ⟨⟨err, herr⟩, j, mfl, hj, hgone⟩
  · simp only [hls, if_true]
    simp only [Nat.zero_add] at hthere
    cases hready : workspaceReadyLayer p src with
    | ok rl => exact Or.inl ⟨ls, rl, rfl, hmatches, hthere, rfl⟩
    | error err => exact Or.inr ⟨⟨err, rfl⟩, fun h => absurd h.2.choose_spec nofun⟩
  · simp only [herr]
    refine Or.inr ⟨⟨err, rfl⟩, fun h => ?_⟩
    rcases h.1 j mfl hj with ⟨info, hinfo, hdigest⟩
    rw [Nat.zero_add] at hgone
    exact hgone info hinfo hdigest

/-- A manifest is read if it comes with the right status and can be unmarshalled. -/
theorem readManifest_eq_ok_iff {lookup : Lookup} {info : DownloadInfo} {mf : ContentManifest} :
    readManifest p lookup info = .ok mf ↔ ∃ doc,
      p.get lookup info.url = .ok ⟨200, some (.ok (some doc))⟩ ∧
        ContentManifest.unmarshal doc = some mf := by
  unfold readManifest
  constructor
  · intro h
    split at h
    · exact absurd h nofun
    · next resp hresp =>
        rcases resp with ⟨statusCode, body⟩
        split_ifs at h with hstatus
        split at h
        · exact absurd h nofun
        · exact absurd h nofun
        · next mfr hbody =>
            split at h
            · exact absurd h nofun
            · next mf' hread =>
                rcases Option.bind_eq_some_iff.mp hread with ⟨doc, hdoc, hmf⟩
                dsimp only at hbody hstatus
                rw [not_not] at hstatus
                rw [Except.ok.injEq] at h
                rw [hresp, hstatus, hbody, hdoc, ← h]
                exact ⟨doc, rfl, hmf⟩
  · rintro ⟨doc, hdoc, hmf⟩
    simp only [hdoc, ne_eq, not_true, if_false, Option.bind_some, hmf]

theorem readManifest_ne_notFound {lookup : Lookup} {info : DownloadInfo} :
    readManifest p lookup info ≠ .error .notFound := by
  unfold readManifest
  repeat' split
  all_goals exact nofun

/-- A manifest is found with an error if its type is not supported, and otherwise
    there is an error, which says that there is none when the storage says so. -/
theorem downloadContentManifest_spec (p : Provider γ) (lookup : Lookup) (bkt obj : String) :
    (∃ mf info, FindsManifest p lookup bkt obj mf ∧ downloadContentManifest p lookup bkt obj =
      (some mf, some info, if mf.type ≠ typeFullWorkspaceContentV1 then
        some .unsupportedContentType else none)) ∨
    (∃ info err, downloadContentManifest p lookup bkt obj = (none, info, some err) ∧
      (err = .notFound ↔ p.download lookup bkt obj = .error .notFound)) ∧
        ∀ mf, ¬ FindsManifest p lookup bkt obj mf := by
  unfold downloadContentManifest FindsManifest
  cases p.download lookup bkt obj with
  | error err =>
      refine Or.inr ⟨⟨none, err, rfl, ?_⟩, fun mf ⟨_, _, h, _⟩ => absurd h nofun⟩
      rw [Except.error.injEq]
  | ok info =>
      simp only [Except.ok.injEq, exists_eq_left', exists_and_left, reduceCtorEq, iff_false]
      by_cases htype : info.contentType = contentTypeManifest
      · rw [if_neg (not_not.mpr htype)]
        cases hread : readManifest p lookup info with
        | error err =>
            refine Or.inr ⟨⟨some info, err, rfl, fun herr => ?_⟩, fun mf h => ?_⟩
            · rw [herr] at hread
              exact readManifest_ne_notFound hread
            · exact absurd (hread.symm.trans (readManifest_eq_ok_iff.mpr h.2)) nofun
        | ok mf =>
            exact Or.inl ⟨mf, ⟨htype, readManifest_eq_ok_iff.mp hread⟩, info, rfl⟩
      · rw [if_pos htype]
        exact Or.inr ⟨⟨some info, _, rfl, nofun⟩, fun mf h => htype h.1⟩

/-- A layer that tells what to do is all there is then. -/
theorem initLayer_eq_ok {cdesc : Except Err Json} {l : List Layer} {o : Option ContentManifest}
    (h : initLayer p cdesc = .ok (l, o)) : o = none ∧ ∃ added, l = [added] ∧ IsAdded p added := by
  unfold initLayer at h
  repeat' split at h
  all_goals cases h
  next cdesc _ added hadded => exact ⟨rfl, added, rfl, Or.inr ⟨cdesc, hadded⟩⟩

/-! ## What is complete -/

/-- What is found with a manifest that is not empty is complete. -/
def Sound (p : Provider γ) (found : Found) : Prop :=
  ∀ l mf, found = .ok (l, some mf) → mf ≠ emptyManifest → Lists p mf l

/-- What is said of the result is said of what was found. -/
theorem complete_iff_sound {owner workspaceID : String} {initializer : Initializer γ} :
    Complete p owner workspaceID initializer ↔
      Sound p (findContent p owner workspaceID initializer) := by
  unfold Complete Sound getContentLayer
  cases findContent p owner workspaceID initializer with
  | error failure => exact iff_of_true (fun _ _ h => absurd h nofun) (fun _ _ h => absurd h nofun)
  | ok found =>
      rcases found with ⟨l, o⟩
      cases o with
      | none =>
          refine iff_of_true (fun l' mf h hne => absurd ?_ hne) (fun _ _ h => absurd h nofun)
          rw [Except.map, Except.ok.injEq, Prod.mk.injEq] at h
          exact h.2.symm
      | some mf =>
          simp only [Except.map, returned, Except.ok.injEq, Prod.mk.injEq, Option.getD_some,
            Option.some.injEq]

theorem sound_of_error (failure : Failure) : Sound p (.error failure) :=
  fun _ _ h => absurd h nofun

theorem sound_initLayer (cdesc : Except Err Json) : Sound p (initLayer p cdesc) := by
  intro l mf h
  exact absurd (initLayer_eq_ok h).1 nofun

theorem sound_getGitContentLayer (git : Option γ) : Sound p (getGitContentLayer p git) := by
  unfold getGitContentLayer
  cases git with
  | none => exact sound_of_error _
  | some git => exact sound_initLayer _

/-- With a manifest the layers have to be those it lists. -/
theorem sound_ok_iff {l : List Layer} {mf : ContentManifest} :
    Sound p (.ok (l, some mf)) ↔ (mf ≠ emptyManifest → Lists p mf l) := by
  unfold Sound
  simp only [Except.ok.injEq, Prod.mk.injEq, Option.some.injEq, and_imp]
  constructor
  · intro h hne
    exact h l mf rfl rfl hne
  · rintro h l' mf' rfl rfl hne
    exact h hne

theorem findsManifest_unique {lookup : Lookup} {bkt obj : String} {mf mf' : ContentManifest}
    (h : FindsManifest p lookup bkt obj mf) (h' : FindsManifest p lookup bkt obj mf') :
    mf = mf' := by
  rcases h with ⟨info, doc, hinfo, -, hdoc, hmf⟩
  rcases h' with ⟨info', doc', hinfo', -, hdoc', hmf'⟩
  rw [hinfo, Except.ok.injEq] at hinfo'
  rw [← hinfo', hdoc, Except.ok.injEq, Response.mk.injEq, Option.some.injEq, Except.ok.injEq,
    Option.some.injEq] at hdoc'
  rw [← hdoc'.2, hmf, Option.some.injEq] at hmf'
  exact hmf'

/-- What is said of some manifest that is found is said of the one that there is. -/
theorem exists_findsManifest_iff {lookup : Lookup} {bkt obj : String} {mf : ContentManifest}
    (h : FindsManifest p lookup bkt obj mf) (holds : ContentManifest → Prop) :
    (∃ mf', FindsManifest p lookup bkt obj mf' ∧ holds mf') ↔ holds mf := by
  constructor
  · rintro ⟨mf', h', hholds⟩
    rw [findsManifest_unique h h']
    exact hholds
  · exact fun hholds => ⟨mf, h, hholds⟩

/-- A manifest whose type is not supported counts as one that is not there, where
    the errors are looked at. -/
theorem filter_unsupported (mf : ContentManifest) :
    (if mf.type ≠ typeFullWorkspaceContentV1 then some Err.unsupportedContentType
      else none) ≠ some .notFound ∧
    (if mf.type ≠ typeFullWorkspaceContentV1 then some Err.unsupportedContentType
      else none).filter (· ≠ .unsupportedContentType) = none := by
  split_ifs
  · exact ⟨nofun, rfl⟩
  · exact ⟨nofun, rfl⟩

/-- Without a manifest there is nothing that could be incomplete. -/
theorem sound_without_manifest {info : Option DownloadInfo} {err : Err}
    (cdesc : DownloadInfo → Except Err Json) :
    Sound p (if some err = some .notFound then
        .error (.error (.wrapped "invalid snapshot" .notFound))
      else match (some err).filter (· ≠ .unsupportedContentType) with
        | some err => .error (.error err)
        | none => match info with
          | none => .error .panicked
          | some info => initLayer p (cdesc info)) := by
  split
  · exact sound_of_error _
  · split
    · exact sound_of_error _
    · split
      · exact sound_of_error _
      · exact sound_initLayer _

theorem sound_getSnapshotContentLayer_iff (snapshot : String) :
    Sound p (getSnapshotContentLayer p snapshot) ↔ ¬ DropsSnapshot p snapshot := by
  unfold getSnapshotContentLayer
  split
  · next obj bkt hsegs =>
      have hdrops : ∀ mf, FindsManifest p .initializer bkt obj mf → (DropsSnapshot p snapshot ↔
          mf ≠ emptyManifest ∧ ¬ (mf.type = typeFullWorkspaceContentV1 ∧
            LayersThere p mf.layers ∧ ∃ rl, workspaceReadyLayer p .fromOther = .ok rl)) := by
        intro mf hmf
        constructor
        · rintro ⟨obj', bkt', mf', hsegs', hmf', hne, hnot⟩
          rw [hsegs, List.cons.injEq, List.singleton_inj] at hsegs'
          rw [← hsegs'.1, ← hsegs'.2] at hmf'
          rw [findsManifest_unique hmf hmf']
          exact ⟨hne, hnot⟩
        · intro hboth
          exact ⟨obj, bkt, mf, hsegs, hmf, hboth⟩
      rcases downloadContentManifest_spec p .initializer bkt obj with
        ⟨mf, info, hfinds, heq⟩ | ⟨⟨info, err, heq, -⟩, hnone⟩
      · rw [heq, hdrops mf hfinds]
        dsimp only
        rw [if_neg (filter_unsupported mf).1, (filter_unsupported mf).2]
        rcases layerFromContentManifest_ready p mf .fromOther with
          ⟨ls, rl, hl, hmatches, hthere, hrl⟩ | ⟨⟨err, herr⟩, hgone⟩
        · rw [hl]
          dsimp only
          rw [sound_ok_iff, not_and, not_not]
          refine imp_congr_right (fun _ => ?_)
          unfold Lists
          refine and_congr_right (fun _ => iff_of_true ?_ ⟨hthere, rl, hrl⟩)
          exact ⟨ls, rl, rfl, hmatches, Or.inl ⟨_, hrl⟩⟩
        · rw [herr]
          dsimp only
          rw [sound_ok_iff, not_and, not_not]
          refine imp_congr_right (fun _ => ?_)
          -- nothing is returned, not even the layer that is added
          refine iff_of_false ?_ (fun h => hgone h.2)
          rintro ⟨-, ls, added, hempty, -⟩
          exact absurd (List.append_eq_nil_iff.mp hempty.symm).2 nofun
      · rw [heq]
        dsimp only
        refine iff_of_true (sound_without_manifest fun info => prepare p
          (.snapshot (some snapshot)) [(snapshot, info.url)]) ?_
        rintro ⟨obj', bkt', mf, hsegs', hmf, -⟩
        rw [hsegs, List.cons.injEq, List.singleton_inj] at hsegs'
        rw [← hsegs'.1, ← hsegs'.2] at hmf
        exact hnone mf hmf
  · next hsegs =>
      refine iff_of_true (sound_of_error _) ?_
      rintro ⟨obj, bkt, mf, hsegs', -⟩
      exact hsegs obj bkt hsegs'

/-- Name and bucket of a prebuild are determined by the text of its snapshot. -/
theorem dropsPrebuild_iff {pb : PrebuildSpec γ} {snapshot obj bkt : String}
    (hpb : pb.prebuild = some snapshot) (hsegs : Text.split '@' snapshot = [obj, bkt]) :
    DropsPrebuild p pb ↔ ∃ mf, FindsManifest p .initializer bkt obj mf ∧
      mf.type ≠ typeFullWorkspaceContentV1 ∧ LayersThere p mf.layers ∧
        ∃ found, initLayer p (prepare p (.prebuild (some ⟨none, pb.git⟩)) []) = .ok found := by
  constructor
  · rintro ⟨snapshot', obj', bkt', mf, hsnapshot, hsegs', hrest⟩
    rw [hpb, Option.some.injEq] at hsnapshot
    rw [← hsnapshot, hsegs, List.cons.injEq, List.singleton_inj] at hsegs'
    rw [← hsegs'.1, ← hsegs'.2] at hrest
    exact ⟨mf, hrest⟩
  · rintro ⟨mf, hrest⟩
    exact ⟨snapshot, obj, bkt, mf, hpb, hsegs, hrest⟩

theorem sound_getPrebuildContentLayer_iff (pb : PrebuildSpec γ) :
    Sound p (getPrebuildContentLayer p pb) ↔ ¬ DropsPrebuild p pb := by
  unfold getPrebuildContentLayer
  cases hpb : pb.prebuild with
  | none =>
      -- Without a prebuild there is an error, and nothing is dropped.
      refine iff_of_true (sound_of_error _) ?_
      rintro ⟨snapshot, obj, bkt, mf, hsnapshot, -⟩
      exact absurd (hpb.symm.trans hsnapshot) nofun
  | some snapshot =>
      dsimp only
      split
      · next obj bkt hsegs =>
          rw [dropsPrebuild_iff hpb hsegs]
          rcases downloadContentManifest_spec p .initializer bkt obj with
            ⟨mf, info, hfinds, heq⟩ | ⟨⟨info, err, heq, -⟩, hnone⟩
          · -- At most one manifest is found there, so the condition is about that one.
            rw [heq, exists_findsManifest_iff hfinds]
            dsimp only
            rw [if_neg (filter_unsupported mf).1, (filter_unsupported mf).2]
            unfold layerFromContentManifest
            -- Either all layers of the manifest are there, or one is missing and there is an
            -- error.
            rcases layersFrom_spec p mf.layers 0 with
              ⟨ls, hls, hmatches, hthere⟩ | ⟨⟨err, herr⟩, j, mfl, hj, hgone⟩
            · simp only [Nat.zero_add] at hthere
              rw [hls]
              simp only [Bool.false_eq_true, if_false]
              cases hinit : initLayer p (prepare p (.prebuild (some ⟨none, pb.git⟩)) []) with
              | error failure =>
                  exact iff_of_true (sound_of_error _) (fun h => absurd h.2.2.choose_spec nofun)
              | ok found =>
                  rcases found with ⟨layer, o⟩
                  rcases (initLayer_eq_ok hinit).2 with ⟨added, hadded, his⟩
                  rw [sound_ok_iff, hadded]
                  constructor
                  · -- a manifest of another type is not the empty one
                    intro h hboth
                    have hne : mf ≠ emptyManifest := fun heq => hboth.1 (by rw [heq]; rfl)
                    exact hboth.1 (h hne).1
                  · intro h _
                    have htype := not_not.mp (fun hne => h ⟨hne, hthere, _, rfl⟩)
                    exact ⟨htype, ls, added, rfl, hmatches, his⟩
            · rw [herr]
              refine iff_of_true (sound_of_error _) (fun h => ?_)
              rcases h.2.1 j mfl hj with ⟨info, hinfo, hdigest⟩
              rw [Nat.zero_add] at hgone
              exact hgone info hinfo hdigest
          · rw [heq]
            -- Without a manifest, none can be dropped.
            dsimp only
            refine iff_of_true (sound_without_manifest fun info => prepare p
              (.prebuild (some pb)) [(snapshot, info.url)]) ?_
            rintro ⟨mf, hmf, -⟩
            exact hnone mf hmf
      · next hsegs =>
          -- The text does not have the form of a snapshot.
          refine iff_of_true (sound_of_error _) ?_
          rintro ⟨snapshot', obj, bkt, mf, hsnapshot, hsegs', -⟩
          rw [hpb, Option.some.injEq] at hsnapshot
          rw [← hsnapshot] at hsegs'
          exact hsegs obj bkt hsegs'

theorem sound_fromInitializer_iff (initializer : Initializer γ) :
    Sound p (fromInitializer p initializer) ↔
      ¬ match initializer.getSnapshot with
        | some snapshot => DropsSnapshot p snapshot
        | none => ∃ pb, initializer.getPrebuild = some pb ∧ DropsPrebuild p pb := by
  unfold fromInitializer
  cases initializer.getSnapshot with
  | some snapshot => exact sound_getSnapshotContentLayer_iff snapshot
  | none =>
      cases initializer.getPrebuild with
      | none => exact iff_of_true (sound_getGitContentLayer _) (fun ⟨_, h, _⟩ => absurd h nofun)
      | some pb =>
          simp only [Option.some.injEq, exists_eq_left']
          rw [← sound_getPrebuildContentLayer_iff]
          split
          · next err herr =>
              -- the error leads to the Git part, which has no manifest
              rw [herr]
              exact iff_of_true (sound_getGitContentLayer _) (sound_of_error _)
          · exact Iff.rfl

/-- The manifest of a full backup is complete whenever it is returned. -/
theorem sound_of_backup {lookup : Lookup} {bkt obj : String} {mf : ContentManifest}
    {info : Option DownloadInfo} (otherwise : Found)
    (heq : downloadContentManifest p lookup bkt obj = (some mf, info,
      if mf.type ≠ typeFullWorkspaceContentV1 then some .unsupportedContentType else none)) :
    Sound p (match downloadContentManifest p lookup bkt obj with
      | (manifest, _, err) => match err.filter (· ≠ .notFound) with
        | some err => .error (.error err)
        | none => match manifest with
          | some mf => match layerFromContentManifest p mf .fromBackup true with
            | .error err => .error (.error err)
            | .ok l => .ok (l, some mf)
          | none => otherwise) := by
  rw [heq]
  dsimp only
  by_cases htype : mf.type = typeFullWorkspaceContentV1
  · rw [if_neg (not_not.mpr htype)]
    rcases layerFromContentManifest_ready p mf .fromBackup with
      ⟨ls, rl, hl, hmatches, hthere, hrl⟩ | ⟨⟨err, herr⟩, -⟩
    · rw [hl]
      exact sound_ok_iff.mpr fun _ => ⟨htype, ls, rl, rfl, hmatches, Or.inl ⟨_, hrl⟩⟩
    · rw [herr]
      exact sound_of_error _
  · rw [if_pos htype]
    exact sound_of_error _

theorem complete_iff_not_drops (p : Provider γ) (owner workspaceID : String)
    (initializer : Initializer γ) :
    Complete p owner workspaceID initializer ↔ ¬ Drops p owner workspaceID initializer := by
  rw [complete_iff_sound]
  unfold findContent Drops NoBackup
  rcases downloadContentManifest_spec p .manifest (p.bucket owner)
    (fmtWorkspaceManifest workspaceID) with ⟨mf, info, hfinds, heq⟩ | ⟨⟨info, err, heq, herr⟩, -⟩
  · refine iff_of_true (sound_of_backup _ heq) ?_
    rcases hfinds with ⟨info', doc, hinfo, -⟩
    rintro ⟨⟨hnotFound, -⟩, -⟩
    exact absurd (hinfo.symm.trans hnotFound) nofun
  · rw [heq, ← herr]
    dsimp only
    -- Only a manifest that was not found gives way to the older backup.
    by_cases hnotFound : err = .notFound
    · have hfilter : (some err).filter (· ≠ .notFound) = none := by rw [hnotFound]; rfl
      rw [hfilter]
      cases hlegacy : p.download .legacy (p.bucket owner) (fmtLegacyBackupName workspaceID) with
      | ok info =>
          refine iff_of_true (sound_initLayer _) ?_
          rintro ⟨⟨-, err', herr', -⟩, -⟩
          exact absurd herr' nofun
      | error err' =>
          dsimp only
          -- And only if there is none either, the initializer is asked.
          by_cases hthere : err'.isNotFound = true
          · rw [if_pos hthere, sound_fromInitializer_iff]
            refine not_congr (and_iff_right ?_).symm
            exact ⟨hnotFound, err', rfl, hthere⟩
          · rw [if_neg hthere]
            refine iff_of_true (sound_of_error _) ?_
            rintro ⟨⟨-, err'', herr'', hthere'⟩, -⟩
            rw [Except.error.inj herr''] at hthere
            exact hthere hthere'
    · have hfilter : (some err).filter (· ≠ .notFound) = some err := by
        rw [Option.filter_some, decide_eq_true hnotFound]
        rfl
      rw [hfilter]
      exact iff_of_true (sound_of_error _) (fun h => hnotFound h.1.1)

/-! ## What is rejected -/

theorem not_unusable_emptyManifest : ¬ Unusable p emptyManifest := by
  rintro (htype | hlayers)
  · exact htype rfl
  · exact hlayers fun i mfl h => absurd h nofun

/-- Without a backup it is the initializer that counts. -/
theorem findContent_of_noBackup {owner workspaceID : String} {initializer : Initializer γ}
    (h : NoBackup p owner workspaceID) :
    findContent p owner workspaceID initializer = fromInitializer p initializer := by
  rcases h with ⟨hnotFound, err, herr, hthere⟩
  unfold findContent downloadContentManifest
  rw [hnotFound, herr]
  exact if_pos hthere

/-- The look-up of the layers fails where one of them is missing. -/
theorem layerFromContentManifest_of_missing {mf : ContentManifest} {src : WorkspaceInitSource}
    {ready : Bool} (h : ¬ LayersThere p mf.layers) :
    ∃ err, layerFromContentManifest p mf src ready = .error err := by
  unfold layerFromContentManifest
  rcases layersFrom_spec p mf.layers 0 with ⟨ls, -, -, hthere⟩ | ⟨⟨err, herr⟩, -⟩
  · simp only [Nat.zero_add] at hthere
    exact absurd hthere h
  · rw [herr]
    exact ⟨err, rfl⟩

theorem initLayer_ne_panicked (cdesc : Except Err Json) : initLayer p cdesc ≠ .error .panicked := by
  unfold initLayer
  repeat' split
  all_goals exact nofun

/-- What is there in place of the manifest of a backup is not passed over. -/
theorem findContent_of_unsupported {owner workspaceID : String} (initializer : Initializer γ)
    {manifest : Option ContentManifest} {info : Option DownloadInfo}
    (h : downloadContentManifest p .manifest (p.bucket owner) (fmtWorkspaceManifest workspaceID) =
      (manifest, info, some .unsupportedContentType)) :
    findContent p owner workspaceID initializer = .error (.error .unsupportedContentType) := by
  unfold findContent
  rw [h]
  rfl

/-- A backup that cannot be used is an error, and nothing else is tried. -/
theorem findContent_of_unusable {owner workspaceID : String} (initializer : Initializer γ)
    {mf : ContentManifest}
    (hfinds : FindsManifest p .manifest (p.bucket owner) (fmtWorkspaceManifest workspaceID) mf)
    (h : Unusable p mf) :
    ∃ err, findContent p owner workspaceID initializer = .error (.error err) := by
  rcases downloadContentManifest_spec p .manifest (p.bucket owner)
    (fmtWorkspaceManifest workspaceID) with ⟨mf', info, hfinds', heq⟩ | ⟨-, hnone⟩
  · rw [findsManifest_unique hfinds' hfinds] at heq
    by_cases htype : mf.type = typeFullWorkspaceContentV1
    · -- The type is right, so that a layer is missing.
      have hlayers := h.resolve_left (not_not_intro htype)
      rcases layerFromContentManifest_of_missing hlayers with ⟨err, herr⟩
      refine ⟨err, ?_⟩
      unfold findContent
      rw [heq, if_neg (not_not_intro htype)]
      dsimp only [Option.filter]
      rw [herr]
    · rw [if_pos htype] at heq
      exact ⟨_, findContent_of_unsupported initializer heq⟩
  · exact absurd hfinds (hnone mf)

/-- Everything that cannot be used in a snapshot is used, and so it has to be there. -/
theorem dropsSnapshot_of_unusable {name obj bkt : String} {mf : ContentManifest}
    (hsegs : Text.split '@' name = [obj, bkt]) (hfinds : FindsManifest p .initializer bkt obj mf)
    (h : Unusable p mf) : DropsSnapshot p name := by
  refine ⟨obj, bkt, mf, hsegs, hfinds, ?_, ?_⟩
  · rintro rfl
    exact not_unusable_emptyManifest h
  · rintro ⟨htype, hlayers, -⟩
    exact h.elim (fun hne => hne htype) fun hnot => hnot hlayers

/-- What cannot be used in a prebuild is either used, or the prebuild fails. -/
theorem getPrebuildContentLayer_of_unusable {pb : PrebuildSpec γ} {name obj bkt : String}
    {mf : ContentManifest} (hpb : pb.prebuild = some name)
    (hsegs : Text.split '@' name = [obj, bkt]) (hfinds : FindsManifest p .initializer bkt obj mf)
    (h : Unusable p mf) (hdrops : ¬ DropsPrebuild p pb) :
    ∃ err, getPrebuildContentLayer p pb = .error (.error err) := by
  rcases downloadContentManifest_spec p .initializer bkt obj with
    ⟨mf', info, hfinds', heq⟩ | ⟨-, hnone⟩
  · rw [findsManifest_unique hfinds' hfinds] at heq
    unfold getPrebuildContentLayer
    rw [hpb]
    dsimp only
    rw [hsegs]
    dsimp only
    rw [heq]
    dsimp only
    rw [if_neg (filter_unsupported mf).1, (filter_unsupported mf).2]
    by_cases hlayers : LayersThere p mf.layers
    · have htype := h.resolve_right (not_not_intro hlayers)
      cases hl : layerFromContentManifest p mf .fromPrebuild false with
      | error err => exact ⟨err, rfl⟩
      | ok ls =>
          dsimp only
          cases hinit : initLayer p (prepare p (.prebuild (some ⟨none, pb.git⟩)) []) with
          | ok found =>
              exact absurd ⟨name, obj, bkt, mf, hpb, hsegs, hfinds, htype, hlayers, found, hinit⟩
                hdrops
          | error failure =>
              cases failure with
              | error err => exact ⟨err, rfl⟩
              | panicked => exact absurd hinit (initLayer_ne_panicked _)
    · rcases layerFromContentManifest_of_missing hlayers with ⟨err, herr⟩
      rw [herr]
      exact ⟨err, rfl⟩
  · exact absurd hfinds (hnone mf)

/-- Where nothing is dropped, everything that cannot be used is turned down. -/
theorem rejects_of_not_drops {owner workspaceID : String} {initializer : Initializer γ}
    (h : ¬ Drops p owner workspaceID initializer) : Rejects p owner workspaceID initializer where
  backupType info hinfo htype := by
    have hnone : downloadContentManifest p .manifest (p.bucket owner)
        (fmtWorkspaceManifest workspaceID) = (none, some info, some .unsupportedContentType) := by
      rw [downloadContentManifest, hinfo]
      exact if_pos htype
    refine ⟨.unsupportedContentType, ?_⟩
    rw [getContentLayer, findContent_of_unsupported initializer hnone]
    rfl
  backup mf hfinds hunusable := by
    rcases findContent_of_unusable initializer hfinds hunusable with ⟨err, herr⟩
    refine ⟨err, ?_⟩
    rw [getContentLayer, herr]
    rfl
  snapshot name obj bkt mf hbackup hname hsegs hfinds hunusable := by
    refine absurd ⟨hbackup, ?_⟩ h
    rw [hname]
    exact dropsSnapshot_of_unusable hsegs hfinds hunusable
  prebuild pb name obj bkt mf hbackup hpb hname hsegs hfinds hunusable := by
    have hsnapshot : initializer.getSnapshot = none := by
      cases initializer with
      | prebuild _ => rfl
      | snapshot _ | git _ | other => cases hpb
    have hdrops : ¬ DropsPrebuild p pb := by
      refine fun hdrops => h ⟨hbackup, ?_⟩
      rw [hsnapshot]
      exact ⟨pb, hpb, hdrops⟩
    rcases getPrebuildContentLayer_of_unusable hname hsegs hfinds hunusable hdrops with ⟨err, herr⟩
    rw [getContentLayer, findContent_of_noBackup hbackup, fromInitializer, hsnapshot]
    dsimp only
    rw [hpb]
    dsimp only
    rw [herr]

/-- The content of a workspace is never lost silently: the layers that are returned are
    complete, and what cannot be used is rejected, exactly when no manifest is used that should
    not be. It is said of each source on its own, the backup, the snapshot and the prebuild,
    because each of them has its own way to go on after an error. -/
theorem complete_iff (p : Provider γ) (owner workspaceID : String)
    (initializer : Initializer γ) :
    Complete p owner workspaceID initializer ∧ Rejects p owner workspaceID initializer ↔
      ¬ Drops p owner workspaceID initializer := by
  rw [complete_iff_not_drops]
  exact and_iff_left_of_imp rejects_of_not_drops

/-- A snapshot with one layer that is no longer in the storage. -/
def lostLayer : Provider Unit where
  bucket := fun owner => "bucket-" ++ owner
  download := fun lookup _ _ => match lookup with
    | .initializer => .ok ⟨contentTypeManifest, "", "http://content-manifest"⟩
    | _ => .error .notFound
  get := fun _ _ => .ok ⟨200, some (.ok (some (ContentManifest.mk typeFullWorkspaceContentV1
    [⟨mediaTypeUncompressedLayer, "d", 1, "bucket", "layer", "d", "i"⟩]).marshal))⟩
  marshalInitializer := fun _ => .ok .null
  tar := fun _ => .ok ""
  fromBytes := fun _ => ""

/-- The content of the snapshot is returned without its layer, and without an
    error. -/
theorem not_complete :
    getContentLayer lostLayer "owner" "ws" (.snapshot (some "mf@bucket")) =
        .ok ([], ⟨typeFullWorkspaceContentV1,
          [⟨mediaTypeUncompressedLayer, "d", 1, "bucket", "layer", "d", "i"⟩]⟩) ∧
      ¬ (Complete lostLayer "owner" "ws" (.snapshot (some "mf@bucket")) ∧
        Rejects lostLayer "owner" "ws" (.snapshot (some "mf@bucket"))) := by
  have hresult : getContentLayer lostLayer "owner" "ws" (.snapshot (some "mf@bucket")) =
      .ok ([], ⟨typeFullWorkspaceContentV1,
        [⟨mediaTypeUncompressedLayer, "d", 1, "bucket", "layer", "d", "i"⟩]⟩) := by
    rfl
  refine ⟨hresult, fun hcomplete => ?_⟩
  rcases hcomplete.1 _ _ hresult (by decide) with ⟨-, ls, added, hempty, -⟩
  exact absurd (List.append_eq_nil_iff.mp hempty.symm).2 nofun

end Content

end Nxpod
