import Nxpod.Content.LayerProvider
import Nxpod.Content.Storage

/-!
# The Names of Backups

Three parts of the program name the objects of the storage. `Upload`,
`Download` and `Qualify` use the names of the backend. The layer provider has
formats of its own for the manifest of a full backup and for a legacy backup,
and asks a presigned access for them.

The names of GCloud agree with these formats. MinIO puts `.tar` behind every
name, so the provider never finds what was uploaded there.

## Main definitions

* `uploadLocation`: Where `Upload` stores an object.
* `presignedBucket`: The bucket that the provider asks for.
* `Agrees`: All of them name the same objects.

## Theorems

* `downloadSnapshot_qualify`: A qualified name leads back to its object.
* `fmtWorkspaceManifest_eq`, `fmtLegacyBackupName_eq`: The formats of the provider.
* `not_noBackup_of_agrees`: The provider finds what was uploaded.
* `agrees_iff`: The backend whose names agree.
-/

namespace Nxpod

namespace Content

namespace Storage

/-- The bucket and the object that `Upload` stores and returns. -/
def DirectAccess.uploadLocation (rs : DirectAccess) (name : String) : String × String :=
  (rs.bucketName, rs.objectName name)

/-- `Bucket` of the presigned access with the same configuration. -/
def presignedBucket (kind : Kind) (stage ownerID : String) : String :=
  match kind with
  | .gCloud => gcpBucketName stage ownerID
  | .minio => minioBucketName ownerID

/-- What is stored under a name is what is read under it: by `Download`, by the layer
    provider, which looks for a manifest and a legacy backup, and by
    `DownloadSnapshot`, if there is no other separator in the qualified name. -/
structure Agrees (rs : DirectAccess) : Prop where
  download : ∀ env destination name, download rs env destination name =
    rs.downloadObject env destination (rs.uploadLocation name).1 (rs.uploadLocation name).2
  manifest : (presignedBucket rs.kind rs.stage rs.username,
    fmtWorkspaceManifest rs.workspaceName) = rs.uploadLocation defaultBackupManifest
  legacy : (presignedBucket rs.kind rs.stage rs.username,
    fmtLegacyBackupName rs.workspaceName) = rs.uploadLocation defaultBackup
  snapshot : ∀ env destination name, '@' ∉ (rs.objectName name).toList →
    '@' ∉ rs.bucketName.toList → downloadSnapshot rs env destination (rs.qualify name) =
      rs.downloadObject env destination (rs.uploadLocation name).1 (rs.uploadLocation name).2

variable {rs : DirectAccess}

/-- A full name leads back to bucket and object, if none of them has the separator. -/
theorem snapshotLocation_qualify (name : String) (hobj : '@' ∉ (rs.objectName name).toList)
    (hbkt : '@' ∉ rs.bucketName.toList) :
    snapshotLocation (rs.qualify name) = some (rs.uploadLocation name) := by
  unfold snapshotLocation DirectAccess.qualify
  rw [Text.split_append hobj, Text.split_of_not_mem hbkt]
  rfl

/-- With both backends a qualified name leads back to its object. -/
theorem downloadSnapshot_qualify (env : Env) (destination name : String)
    (hobj : '@' ∉ (rs.objectName name).toList) (hbkt : '@' ∉ rs.bucketName.toList) :
    downloadSnapshot rs env destination (rs.qualify name) =
      rs.downloadObject env destination (rs.uploadLocation name).1 (rs.uploadLocation name).2 := by
  unfold downloadSnapshot
  rw [snapshotLocation_qualify name hobj hbkt]

theorem presignedBucket_eq (rs : DirectAccess) :
    presignedBucket rs.kind rs.stage rs.username = rs.bucketName := by
  unfold presignedBucket DirectAccess.bucketName
  cases rs.kind <;> rfl

/-- The formats of the provider are the names of GCloud. -/
theorem fmtWorkspaceManifest_eq (workspaceID : String) :
    fmtWorkspaceManifest workspaceID = gcpObjectName workspaceID defaultBackupManifest := by
  unfold fmtWorkspaceManifest gcpObjectName
  rw [String.append_assoc, String.append_assoc, String.append_assoc]
  rfl

theorem fmtLegacyBackupName_eq (workspaceID : String) :
    fmtLegacyBackupName workspaceID = gcpObjectName workspaceID defaultBackup := by
  unfold fmtLegacyBackupName gcpObjectName
  rw [String.append_assoc, String.append_assoc, String.append_assoc]
  rfl

/-- The suffix of MinIO makes another name of it. -/
theorem minioObjectName_ne (workspaceName name : String) :
    minioObjectName workspaceName name ≠ gcpObjectName workspaceName name := by
  unfold minioObjectName gcpObjectName
  intro h
  have hlength := congrArg String.length h
  rw [String.length_append] at hlength
  have htar : ".tar".length = 4 := rfl
  omega

/-- When the names agree, and something was stored as the backup of a workspace, the
    layer provider does not take the workspace for one without a backup. -/
theorem not_noBackup_of_agrees {γ : Type} {p : Provider γ} {info : DownloadInfo}
    (h : Agrees rs) (hbucket : p.bucket rs.username =
      presignedBucket rs.kind rs.stage rs.username)
    (hstored : p.download .legacy (rs.uploadLocation defaultBackup).1
      (rs.uploadLocation defaultBackup).2 = .ok info) :
    ¬ NoBackup p rs.username rs.workspaceName := by
  rintro ⟨-, err, herr, -⟩
  rw [hbucket, ← h.legacy] at *
  exact absurd (hstored.symm.trans herr) nofun

/-- The names agree exactly with GCloud. With MinIO the storage puts one more ending to the name
    of a backup, so the layer provider asks for an object that is not there, and finds every
    backup absent. -/
theorem agrees_iff (rs : DirectAccess) : Agrees rs ↔ rs.kind = .gCloud := by
  constructor
  · intro h
    cases hkind : rs.kind with
    | gCloud => rfl
    | minio =>
        have hname := congrArg Prod.snd h.legacy
        unfold DirectAccess.uploadLocation DirectAccess.objectName at hname
        rw [hkind, fmtLegacyBackupName_eq] at hname
        exact absurd hname.symm (minioObjectName_ne rs.workspaceName defaultBackup)
  · intro hkind
    have hname : ∀ name, rs.objectName name = gcpObjectName rs.workspaceName name := by
      intro name
      unfold DirectAccess.objectName
      rw [hkind]
    have hformat : ∀ name, (presignedBucket rs.kind rs.stage rs.username,
        gcpObjectName rs.workspaceName name) = rs.uploadLocation name := by
      intro name
      rw [DirectAccess.uploadLocation, presignedBucket_eq, hname]
    exact {
      download := fun _ _ _ => rfl
      manifest := by rw [fmtWorkspaceManifest_eq, hformat]
      legacy := by rw [fmtLegacyBackupName_eq, hformat]
      snapshot := fun env destination name => downloadSnapshot_qualify env destination name }

/-- The backup of a workspace with MinIO and what the layer provider looks for. -/
theorem not_agrees_minio :
    (backend .minio).uploadLocation defaultBackup =
        ("nxpod-user-owner", "workspaces/ws/full.tar.tar") ∧
      (presignedBucket .minio "prod" "owner", fmtLegacyBackupName "ws") =
        ("nxpod-user-owner", "workspaces/ws/full.tar") ∧ ¬ Agrees (backend .minio) := by
  refine ⟨by decide, by decide, fun h => ?_⟩
  exact absurd h.legacy (by decide)

end Storage

end Content

end Nxpod
