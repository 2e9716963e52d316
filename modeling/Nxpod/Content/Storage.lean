import Nxpod.Library.Text

/-!
# Remote Storage

Backups of a workspace are kept in a bucket of its owner, with GCloud or with
MinIO. `Download` and `DownloadSnapshot` open an object, extract it, and say
whether there was one. `InitializeWorkspace` runs the initializer, which
creates fresh content, when there was none.

Opening an object gives a reader or an error. Both backends look at the reader
only: without one they say that nothing was found, whatever the error is. So
a backup that cannot be opened, because the network is down or the access was
denied, counts as one that does not exist.

The storage and the file system are given.

## Main definitions

* `Kind`: The two storages.
* `DirectAccess`: The storage of a workspace, with its names.
* `StoreError`: What the storage answers if it does not give the object.
* `Reader`: What is read of an object.
* `Env`: What the storage and the file system answer.
* `DownloadResult`: What a download returns, or that it looked at a file
  information it did not get.
* `gcpDownload`, `minioDownload`: Opening and extracting an object.
* `download`, `downloadSnapshot`: What is called from outside.
* `InitEnv`: What `InitializeWorkspace` meets besides the storage.
* `initializeWorkspace`: From a backup or by an initializer.
* `SaysAbsent`, `Fails`: What the storage said of an object.

## Theorems

* `downloadObject_cases`: What is found with a reader and without one.
* `downloadObject_notMistaken_iff`: When a missing reader means a missing object.
* `ran_initializer_iff`: When the initializer runs.
* `notMistaken_iff`: Both ways to download, and the initializer.
-/

namespace Nxpod

namespace Content

namespace Storage

/-- The two storages. -/
inductive Kind
  | gCloud
  | minio
  deriving DecidableEq

/-- The archive of a workspace. -/
def defaultBackup : String :=
  "full.tar"

/-- The manifest of a full backup. -/
def defaultBackupManifest : String :=
  "wsfull.json"

/-- One bucket for each owner. -/
def gcpBucketName (stage ownerID : String) : String :=
  "nxpod-" ++ stage ++ "-user-" ++ ownerID

/-- The same, without the stage. -/
def minioBucketName (ownerID : String) : String :=
  "nxpod-user-" ++ ownerID

/-- The name of an object is that of the workspace and its own. -/
def gcpObjectName (workspaceName name : String) : String :=
  "workspaces/" ++ workspaceName ++ "/" ++ name

/-- The same with an ending. -/
def minioObjectName (workspaceName name : String) : String :=
  "workspaces/" ++ workspaceName ++ "/" ++ name ++ ".tar"

/-- The storage of a workspace after `Init`. MinIO has no stages. -/
structure DirectAccess where
  kind : Kind
  stage : String
  username : String
  workspaceName : String

namespace DirectAccess

/-- The bucket of the owner. -/
def bucketName (rs : DirectAccess) : String :=
  match rs.kind with
  | .gCloud => gcpBucketName rs.stage rs.username
  | .minio => minioBucketName rs.username

/-- The object of the workspace. -/
def objectName (rs : DirectAccess) (name : String) : String :=
  match rs.kind with
  | .gCloud => gcpObjectName rs.workspaceName name
  | .minio => minioObjectName rs.workspaceName name

/-- A name that `DownloadSnapshot` understands. -/
def qualify (rs : DirectAccess) (name : String) : String :=
  rs.objectName name ++ String.singleton '@' ++ rs.bucketName

end DirectAccess

/-! ## Downloading -/

/-- What the storage answers if it does not give the object. -/
inductive StoreError
  | objectNotExist
  | bucketNotExist
  | other (message : String)
  deriving DecidableEq

/-- Two of the answers mean that there is nothing. -/
def StoreError.saysAbsent : StoreError → Bool
  | .objectNotExist | .bucketNotExist => true
  | .other _ => false

/-- What `os.Stat` gives. -/
inductive Stat
  | notExist
  | failed
  | file
  | dir

/-- What is read of an object. -/
structure Reader where
  bucket : String
  object : String

/-- What the storage and the file system answer. `openObject` is `NewReader` of
    GCloud and `GetObject` of MinIO, which is followed by `Stat`. -/
structure Env where
  hasClient : Bool
  openObject : String → String → Except StoreError Reader
  statObject : Reader → Option StoreError
  extractTarbal : String → Reader → Option String
  join : String → String → String
  stat : String → Stat
  readDir : String → Except String (List String)
  rename : String → String → Option String
  remove : String → Option String

/-- There may be no storage at all. -/
inductive AccessError
  | noClient
  | store (err : StoreError)
  deriving DecidableEq

/-- Opening an object. The error is returned beside the reader. -/
def gcpObjectAccess (env : Env) (bkt obj : String) : Option Reader × Bool × Option AccessError :=
  if !env.hasClient then (none, false, some .noClient)
  else match env.openObject bkt obj with
    | .error err => (none, false, some (.store err))
    | .ok rc => (some rc, false, none)

/-- The same in two steps, since opening does not ask the storage yet. -/
def minioObjectAccess (env : Env) (bkt obj : String) : Option Reader × Option AccessError :=
  if !env.hasClient then (none, some .noClient)
  else match env.openObject bkt obj with
    | .error err => (none, some (.store err))
    | .ok object => match env.statObject object with
      | some err => (none, some (.store err))
      | none => (some object, none)

/-- What a download returns, or that it looked at a file information it did not
    get. -/
inductive DownloadResult
  | returned (found : Bool) (err : Option String)
  | panicked
  deriving DecidableEq

/-- Move the entries of the legacy folder up, one after the other. -/
def moveAll (env : Env) (legacyPath destination : String) : List String → Option String
  | [] => none
  | name :: rest => match env.rename (env.join legacyPath name) (env.join destination name) with
    | some err => some err
    | none => moveAll env legacyPath destination rest

/-- Old archives have a folder in them, which is taken away after they are
    extracted. -/
def fixLegacyFilenames (env : Env) (workspaceName destination : String) : DownloadResult :=
  let legacyPath := env.join destination workspaceName
  match env.stat legacyPath with
  | .notExist | .file => .returned true none
  | .failed => .panicked
  | .dir => match env.readDir legacyPath with
    | .error err => .returned true (some err)
    | .ok fis => match moveAll env legacyPath destination fis with
      | some err => .returned true (some err)
      | none => .returned true (env.remove legacyPath)

/-- Without a reader nothing was found, whatever the error is. -/
def gcpDownload (env : Env) (workspaceName destination bkt obj : String) : DownloadResult :=
  match gcpObjectAccess env bkt obj with
  | (none, _, _) => .returned false none
  | (some rc, _, _) => match env.extractTarbal destination rc with
    | some err => .returned true (some err)
    | none => fixLegacyFilenames env workspaceName destination

/-- The error is not looked at: without a reader nothing was found. -/
def minioDownload (env : Env) (destination bkt obj : String) : DownloadResult :=
  match minioObjectAccess env bkt obj with
  | (none, _) => .returned false none
  | (some rc, _) => .returned true (env.extractTarbal destination rc)

/-- Either backend. -/
def DirectAccess.downloadObject (rs : DirectAccess) (env : Env) (destination bkt obj : String) :
    DownloadResult :=
  match rs.kind with
  | .gCloud => gcpDownload env rs.workspaceName destination bkt obj
  | .minio => minioDownload env destination bkt obj

/-- A backup by its name. -/
def download (rs : DirectAccess) (env : Env) (destination name : String) : DownloadResult :=
  rs.downloadObject env destination rs.bucketName (rs.objectName name)

/-- The object and the bucket of a qualified name. -/
def snapshotLocation (name : String) : Option (String × String) :=
  match Text.split '@' name with
  | [obj, bkt] => some (bkt, obj)
  | _ => none

/-- A snapshot by its full name, in which the bucket is named as well. -/
def downloadSnapshot (rs : DirectAccess) (env : Env) (destination name : String) :
    DownloadResult :=
  match snapshotLocation name with
  | none => .returned false (some (name ++ match rs.kind with
    | .gCloud => " is not a valid GCloud remote storage FQN"
    | .minio => " is not a valid MinIO remote storage FQN"))
  | some (bkt, obj) => rs.downloadObject env destination bkt obj

/-! ## Initializing a workspace -/

/-- What `InitializeWorkspace` meets besides the storage. `run` is the initializer,
    and `removeAll` gives the error of removing an entry of the location. -/
structure InitEnv (σ : Type) where
  cleanSlate : Bool
  inWorkspace : Bool
  locationMissing : Bool
  mkdir : Option String
  readDir : Except String (List String)
  removeAll : String → Option String
  chown : Option String
  fromBackup : σ
  fromOther : σ
  run : σ × Option String
  recursiveChown : Option String

variable {σ : Type}

/-- The first error of emptying the location. That it exists already is none. -/
def InitEnv.cleanOut (env : InitEnv σ) : Option String :=
  if !env.cleanSlate then none
  else match if env.locationMissing then env.mkdir else none with
    | some err => some ("cannot create workspace: " ++ err)
    | none => match env.readDir with
      | .error err => some ("cannot clean workspace folder: " ++ err)
      | .ok fs => match fs.findSome? env.removeAll with
        | some err => some ("cannot clean workspace folder: " ++ err)
        | none => env.chown.map fun err => "cannot create workspace: " ++ err

/-- The source and the error, and whether the initializer ran. -/
structure Initialized (σ : Type) where
  src : σ
  err : Option String
  ran : Bool

/-- Set the permissions, unless this happens in the workspace. -/
def InitEnv.finish (env : InitEnv σ) (src : σ) (ran : Bool) : Initialized σ :=
  if env.inWorkspace then ⟨src, none, ran⟩
  else ⟨src, env.recursiveChown.map fun err => "cannot set workspace permissions: " ++ err, ran⟩

/-- Nothing is returned if the download panics. -/
def initializeWorkspace (rs : DirectAccess) (env : Env) (ienv : InitEnv σ) (location : String) :
    Option (Initialized σ) :=
  match ienv.cleanOut with
  | some err => some ⟨ienv.fromOther, some err, false⟩
  | none => match download rs env location defaultBackup with
    | .panicked => none
    | .returned _ (some err) =>
        some ⟨ienv.fromOther, some ("cannot restore backup: " ++ err), false⟩
    | .returned true none => some (ienv.finish ienv.fromBackup false)
    | .returned false none => match ienv.run with
      | (src, some err) => some ⟨src, some ("cannot initialize workspace: " ++ err), true⟩
      | (src, none) => some (ienv.finish src true)

/-! ## What the storage said -/

/-- The storage gives this error when the object is opened, or when its status is
    asked for, which only MinIO does. -/
def Answers (rs : DirectAccess) (env : Env) (bkt obj : String) (err : StoreError) : Prop :=
  env.openObject bkt obj = .error err ∨
    rs.kind = .minio ∧ ∃ rc, env.openObject bkt obj = .ok rc ∧ env.statObject rc = some err

/-- The storage says that the object or its bucket does not exist. -/
def SaysAbsent (rs : DirectAccess) (env : Env) (bkt obj : String) : Prop :=
  env.hasClient = true ∧ ∃ err : StoreError, err.saysAbsent = true ∧ Answers rs env bkt obj err

/-- There is no storage to ask, or it answers with another error. -/
def Fails (rs : DirectAccess) (env : Env) (bkt obj : String) : Prop :=
  env.hasClient = false ∨ ∃ err : StoreError, err.saysAbsent = false ∧ Answers rs env bkt obj err

/-- Nothing found means that the storage said so, and a failure is reported. -/
structure NotMistaken (rs : DirectAccess) (env : Env) (bkt obj : String) (r : DownloadResult) :
    Prop where
  absent : r = .returned false none → SaysAbsent rs env bkt obj
  reported : Fails rs env bkt obj → ∃ found err, r = .returned found (some err)

variable {rs : DirectAccess} {env : Env} {destination bkt obj : String}

theorem answers_unique {err err' : StoreError} (h : Answers rs env bkt obj err)
    (h' : Answers rs env bkt obj err') : err = err' := by
  rcases h with h | ⟨-, rc, hrc, hstat⟩
  · rcases h' with h' | ⟨-, rc', hrc', -⟩
    · exact Except.error.inj (h.symm.trans h')
    · exact absurd (h.symm.trans hrc') nofun
  · rcases h' with h' | ⟨-, rc', hrc', hstat'⟩
    · exact absurd (hrc.symm.trans h') nofun
    · rw [Except.ok.inj (hrc.symm.trans hrc')] at hstat
      exact Option.some.inj (hstat.symm.trans hstat')

/-- With a reader, something is found. -/
theorem fixLegacyFilenames_ne (env : Env) (workspaceName destination : String)
    (err : Option String) :
    fixLegacyFilenames env workspaceName destination ≠ .returned false err := by
  unfold fixLegacyFilenames
  dsimp only
  repeat' split
  all_goals exact nofun

theorem gcpDownload_ne {rc : Reader} (workspaceName : String) (hclient : env.hasClient = true)
    (hrc : env.openObject bkt obj = .ok rc) (err : Option String) :
    gcpDownload env workspaceName destination bkt obj ≠ .returned false err := by
  unfold gcpDownload gcpObjectAccess
  rw [hclient, hrc]
  simp only [Bool.not_true, Bool.false_eq_true, if_false]
  split
  · exact nofun
  · exact fixLegacyFilenames_ne env workspaceName destination err

/-- A download says that nothing was found when the storage gives no reader, and
    otherwise it finds something. -/
theorem downloadObject_cases (rs : DirectAccess) (env : Env) (destination bkt obj : String) :
    (rs.downloadObject env destination bkt obj = .returned false none ∧
      (env.hasClient = false ∨ ∃ err, Answers rs env bkt obj err)) ∨
    (∀ err, rs.downloadObject env destination bkt obj ≠ .returned false err) ∧
      env.hasClient = true ∧ ∀ err, ¬ Answers rs env bkt obj err := by
  unfold DirectAccess.downloadObject Answers
  cases hclient : env.hasClient with
  | false =>
      refine Or.inl ⟨?_, Or.inl rfl⟩
      cases rs.kind with
      | gCloud => simp only [gcpDownload, gcpObjectAccess, hclient, Bool.not_false, if_true]
      | minio => simp only [minioDownload, minioObjectAccess, hclient, Bool.not_false, if_true]
  | true =>
      cases hopen : env.openObject bkt obj with
      | error err =>
          refine Or.inl ⟨?_, Or.inr ⟨err, Or.inl rfl⟩⟩
          cases rs.kind with
          | gCloud => simp only [gcpDownload, gcpObjectAccess, hclient, hopen, Bool.not_true,
              Bool.false_eq_true, if_false]
          | minio => simp only [minioDownload, minioObjectAccess, hclient, hopen, Bool.not_true,
              Bool.false_eq_true, if_false]
      | ok rc =>
          -- Only MinIO asks for the object once more before it is read.
          cases hkind : rs.kind with
          | gCloud =>
              refine Or.inr ⟨fun err => gcpDownload_ne rs.workspaceName hclient hopen err, rfl, ?_⟩
              rintro err (h | ⟨h, -⟩)
              · exact absurd h nofun
              · exact absurd h nofun
          | minio =>
              cases hstat : env.statObject rc with
              | some err =>
                  refine Or.inl ⟨?_, Or.inr ⟨err, Or.inr ⟨rfl, rc, rfl, hstat⟩⟩⟩
                  simp only [minioDownload, minioObjectAccess, hclient, hopen, hstat, Bool.not_true,
                    Bool.false_eq_true, if_false]
              | none =>
                  refine Or.inr ⟨fun err => ?_, rfl, ?_⟩
                  · simp only [minioDownload, minioObjectAccess, hclient, hopen, hstat,
                      Bool.not_true, Bool.false_eq_true, if_false, ne_eq,
                      DownloadResult.returned.injEq, Bool.true_eq_false, false_and,
                      not_false_eq_true]
                  · rintro err (h | ⟨-, rc', hrc', hstat'⟩)
                    · exact absurd h nofun
                    · rw [← Except.ok.inj hrc', hstat] at hstat'
                      exact absurd hstat' nofun

/-- What is not opened is absent, or the storage fails. -/
theorem saysAbsent_or_fails (h : env.hasClient = false ∨ ∃ err, Answers rs env bkt obj err) :
    SaysAbsent rs env bkt obj ∧ ¬ Fails rs env bkt obj ∨ Fails rs env bkt obj := by
  cases hclient : env.hasClient with
  | false => exact Or.inr (Or.inl hclient)
  | true =>
      rcases h.resolve_left (fun hno => absurd (hclient.symm.trans hno) nofun) with ⟨err, herr⟩
      cases habsent : err.saysAbsent with
      | false => exact Or.inr (Or.inr ⟨err, habsent, herr⟩)
      | true =>
          refine Or.inl ⟨⟨hclient, err, habsent, herr⟩, ?_⟩
          rintro (hno | ⟨err', habsent', herr'⟩)
          · exact absurd (hclient.symm.trans hno) nofun
          · rw [answers_unique herr herr', habsent'] at habsent
            exact absurd habsent nofun

/-- When the storage fails, nothing is found. -/
theorem downloadObject_of_fails (destination : String) (h : Fails rs env bkt obj) :
    rs.downloadObject env destination bkt obj = .returned false none := by
  rcases downloadObject_cases rs env destination bkt obj with ⟨hnone, -⟩ | ⟨-, hclient, hanswers⟩
  · exact hnone
  · rcases h with hno | ⟨err, -, herr⟩
    · exact absurd (hclient.symm.trans hno) nofun
    · exact absurd herr (hanswers err)

theorem not_saysAbsent_of_fails (h : Fails rs env bkt obj) : ¬ SaysAbsent rs env bkt obj := by
  rintro ⟨hclient, err, habsent, herr⟩
  rcases h with hno | ⟨err', habsent', herr'⟩
  · exact absurd (hclient.symm.trans hno) nofun
  · rw [answers_unique herr herr', habsent'] at habsent
    exact absurd habsent nofun

/-- A download is not mistaken about an object exactly when the storage does not
    fail. -/
theorem downloadObject_notMistaken_iff :
    NotMistaken rs env bkt obj (rs.downloadObject env destination bkt obj) ↔
      ¬ Fails rs env bkt obj := by
  constructor
  · intro h hfails
    rcases h.reported hfails with ⟨found, err, hresult⟩
    exact absurd ((downloadObject_of_fails _ hfails).symm.trans hresult) nofun
  · intro hnot
    refine ⟨fun hresult => ?_, fun hfails => absurd hfails hnot⟩
    rcases downloadObject_cases rs env destination bkt obj with ⟨-, hgives⟩ | ⟨hfound, -⟩
    · rcases saysAbsent_or_fails hgives with ⟨habsent, -⟩ | hfails
      · exact habsent
      · exact absurd hfails hnot
    · exact absurd hresult (hfound none)

/-- The initializer runs when the location could be emptied and nothing was found. -/
theorem ran_initializer_iff {ienv : InitEnv σ} {location : String} :
    (∃ init, initializeWorkspace rs env ienv location = some init ∧ init.ran = true) ↔
      ienv.cleanOut = none ∧ download rs env location defaultBackup = .returned false none := by
  have hfinish : ∀ (src : σ) (ran : Bool), (ienv.finish src ran).ran = ran := by
    intro src ran
    unfold InitEnv.finish
    split_ifs <;> rfl
  unfold initializeWorkspace
  cases ienv.cleanOut with
  | some err => simp only [Option.some.injEq, exists_eq_left', Bool.false_eq_true, reduceCtorEq,
      false_and]
  | none =>
      rw [and_iff_right rfl]
      cases download rs env location defaultBackup with
      | panicked => exact iff_of_false (fun ⟨_, h, _⟩ => absurd h nofun) nofun
      | returned found err =>
          cases err with
          | some err => simp only [Option.some.injEq, exists_eq_left', Bool.false_eq_true,
              DownloadResult.returned.injEq, reduceCtorEq, and_false]
          | none =>
              cases found with
              | true => simp only [Option.some.injEq, exists_eq_left', hfinish, Bool.false_eq_true,
                  DownloadResult.returned.injEq, Bool.true_eq_false, false_and]
              | false =>
                  refine iff_of_true ?_ rfl
                  dsimp only
                  split
                  · exact ⟨_, rfl, rfl⟩
                  · exact ⟨_, rfl, hfinish _ _⟩

/-- What a name of a snapshot leads to: an error if it is not a qualified one, and
    otherwise what was stored under it. -/
def SnapshotNotMistaken (rs : DirectAccess) (env : Env) (name : String) (r : DownloadResult) :
    Prop :=
  match snapshotLocation name with
  | none => ∃ err, r = .returned false (some err)
  | some (bkt, obj) => NotMistaken rs env bkt obj r

/-- Downloading a backup or a snapshot, and running the initializer only when
    there is no backup: each works exactly when the storage does not fail on the
    object that is opened. The initializer does not run if the location cannot
    be emptied. What is at stake is the work of a user, since a workspace whose
    backup is taken for absent begins with fresh content. -/
theorem notMistaken_iff (rs : DirectAccess) (env : Env) (ienv : InitEnv σ)
    (destination name fqn : String) :
    (NotMistaken rs env rs.bucketName (rs.objectName name) (download rs env destination name) ↔
      ¬ Fails rs env rs.bucketName (rs.objectName name)) ∧
    (SnapshotNotMistaken rs env fqn (downloadSnapshot rs env destination fqn) ↔
      ∀ bkt obj, snapshotLocation fqn = some (bkt, obj) → ¬ Fails rs env bkt obj) ∧
    ((∀ init, initializeWorkspace rs env ienv destination = some init → init.ran = true →
        SaysAbsent rs env rs.bucketName (rs.objectName defaultBackup)) ↔
      (ienv.cleanOut = none → ¬ Fails rs env rs.bucketName (rs.objectName defaultBackup))) := by
  refine ⟨downloadObject_notMistaken_iff, ?_, ?_⟩
  · unfold SnapshotNotMistaken downloadSnapshot
    cases hlocation : snapshotLocation fqn with
    | none => exact iff_of_true ⟨_, rfl⟩ (fun bkt obj h => absurd h nofun)
    | some location =>
        rcases location with ⟨bkt, obj⟩
        refine downloadObject_notMistaken_iff.trans ?_
        simp only [Option.some.injEq, Prod.mk.injEq, and_imp]
        exact ⟨fun h _ _ hb ho => hb ▸ ho ▸ h, fun h => h bkt obj rfl rfl⟩
  · constructor
    · intro h hclean hfails
      have hnone := downloadObject_of_fails destination hfails
      rcases ran_initializer_iff.mpr ⟨hclean, hnone⟩ with ⟨init, hinit, hran⟩
      exact not_saysAbsent_of_fails hfails (h init hinit hran)
    · intro h init hinit hran
      have hclean := ran_initializer_iff.mp ⟨init, hinit, hran⟩
      exact (downloadObject_notMistaken_iff.mpr (h hclean.1)).absent hclean.2

/-- A storage that cannot be reached at the moment. -/
def unreachable : Env where
  hasClient := true
  openObject := fun _ _ => .error (.other "i/o timeout")
  statObject := fun _ => none
  extractTarbal := fun _ _ => none
  join := fun dir name => dir ++ "/" ++ name
  stat := fun _ => .notExist
  readDir := fun _ => .ok []
  rename := fun _ _ => none
  remove := fun _ => none

/-- A location in which everything works. -/
def freshContent : InitEnv String where
  cleanSlate := true
  inWorkspace := false
  locationMissing := false
  mkdir := none
  readDir := .ok []
  removeAll := fun _ => none
  chown := none
  fromBackup := "from-backup"
  fromOther := "from-other"
  run := ("from-other", none)
  recursiveChown := none

/-- A storage of each kind. -/
def backend (kind : Kind) : DirectAccess :=
  ⟨kind, "prod", "owner", "ws"⟩

/-- With both backends a storage that cannot be reached counts as one without a
    backup, and the initializer runs. -/
theorem mistaken_unreachable :
    ¬ (∃ kind, SaysAbsent (backend kind) unreachable (backend kind).bucketName
      ((backend kind).objectName defaultBackup)) ∧
    download (backend .gCloud) unreachable "/workspace" defaultBackup = .returned false none ∧
    download (backend .minio) unreachable "/workspace" defaultBackup = .returned false none ∧
    (initializeWorkspace (backend .gCloud) unreachable freshContent "/workspace").map
      Initialized.ran = some true ∧
    (initializeWorkspace (backend .minio) unreachable freshContent "/workspace").map
      Initialized.ran = some true := by
  refine ⟨?_, rfl, rfl, rfl, rfl⟩
  rintro ⟨kind, habsent⟩
  exact not_saysAbsent_of_fails (Or.inr ⟨.other "i/o timeout", rfl, Or.inl rfl⟩) habsent

end Storage

end Content

end Nxpod
