import Mathlib.Data.Finset.Image
import Mathlib.Tactic.Common
import Nxpod.Library.History

/-!
# Garbage Collection of Workspaces

A workspace that was not used for some days is marked as deleted by the garbage collector, and one
that its owner deletes is marked at once. The content of a marked workspace is deleted when the mark
is some days old. The workspaces of old prebuilds lose their content without having been marked
before.

All of it is read first and written later. A query finds rows, and what is done with them is done
one request at a time, while any other server reads and writes the same rows. A row that a server
starts a workspace from is stored as it was read, long after, with all columns that it has. So a
mark may be taken back or replaced, and what was found may have changed.

The objects of a workspace are found by the prefix of their names. MinIO lists what is in a
directory and not what is further down.

What is deleted was nevertheless warranted once: by a mark that was old enough and was made for the
owner or for want of use, or by an old prebuild. This is the past of the run and not its state
(`warranted_run`).

## Main definitions

* `Uuid`: The IDs of workspaces are all of one length.
* `WorkspaceType`: What a workspace is for.
* `WorkspaceSoftDeletion`: Who has marked it.
* `Workspace`, `State`, `Action`, `step`: The database, the storage and what the servers do.
* `WorkspaceInstance`: When a workspace was used.
* `PrebuiltWorkspace`: Which workspace was a prebuild.
* `Env`: What is configured.
* `Phase`: How far a deletion has come.
* `Job`: What a server is about to do.
* `FoundForGarbageCollection`, `FoundForContentDeletion`, `FoundPrebuilt`: What the queries find.
* `JobStep`: A job that a step has started, or that it has gone on with.
* `Marked`, `Retained`: The causes of a deletion.
* `Warranted`: What is deleted was warranted.
* `Cleared`: What a recorded deletion has left.

## Theorems

* `step_cases`: What a step does to a job.
* `warranted_run`: No object is deleted without a cause.
* `cleared_run`: What is left of a workspace whose content was deleted.
-/

namespace Nxpod

namespace GarbageCollector

open Transition

/-! ## Rows -/

/-- The IDs of workspaces are all of one length. -/
structure Uuid where
  text : String
  length_text : text.length = 36
  deriving DecidableEq

/-- What a workspace is for. -/
inductive WorkspaceType
  | regular
  | prebuild
  | probe
  deriving DecidableEq

/-- Who has marked it. -/
inductive WorkspaceSoftDeletion
  | user
  | gc
  deriving DecidableEq

/-- The columns of a workspace. A time is in milliseconds, and none where the column is empty. -/
structure Workspace where
  id : Uuid
  ownerId : String
  type : WorkspaceType
  creationTime : Nat
  pinned : Bool
  deleted : Bool
  softDeleted : Option WorkspaceSoftDeletion
  softDeletedTime : Option Nat
  contentDeletedTime : Option Nat
  basedOnPrebuildId : Option String
  deriving DecidableEq

/-- When a workspace was used. -/
structure WorkspaceInstance where
  id : String
  workspaceId : Uuid
  creationTime : Nat
  startedTime : Option Nat
  stoppedTime : Option Nat
  deriving DecidableEq

/-- Which workspace was a prebuild. -/
structure PrebuiltWorkspace where
  id : String
  buildWorkspaceId : Uuid
  deriving DecidableEq

/-- Where the server runs. -/
inductive KubeStage
  | production
  | prodcopy
  | staging
  | dev
  deriving DecidableEq

/-- Which storage there is. -/
inductive StorageKind
  | gcloud
  | minio
  deriving DecidableEq

/-- What is configured. -/
structure Env where
  kubeStage : KubeStage
  storage : StorageKind
  garbageCollectionDisabled : Bool
  garbageCollectionStartDate : Nat
  daysBeforeGarbageCollection : Nat
  garbageCollectionLimit : Nat
  daysBeforeGarbageCollectingPrebuilds : Nat
  workspaceDeletionRetentionPeriodDays : Nat
  workspaceDeletionLimit : Nat

/-! ## Names of objects -/

/-- Two of the stages have a name of their own. -/
def getBucketNamePrefix : KubeStage → String
  | .production => "prod"
  | .staging => "prodcopy"
  | _ => "dev"

/-- One bucket for each owner. -/
def getBucketName (userId : String) (stage : KubeStage) : String :=
  s!"nxpod-{getBucketNamePrefix stage}-user-{userId}"

/-- The prefix of all objects of a workspace. -/
def workspacePrefix (id : Uuid) : String := "workspaces/" ++ id.text

/-- The objects of a workspace have its ID in their names. -/
def objectName (id : Uuid) (name : String) : String := workspacePrefix id ++ "/" ++ name

/-- The prefixes that are deleted one after the other. -/
def deletedPrefixes (id : Uuid) (includeSnapshots : Bool) : List String :=
  if includeSnapshots then [workspacePrefix id]
  else [workspacePrefix id ++ "/full.tar", workspacePrefix id ++ "/trail-"]

/-- The objects that are listed under a prefix. -/
def isListed (kind : StorageKind) (p name : String) : Bool :=
  p.toList.isPrefixOf name.toList &&
    (kind = .gcloud || !(name.toList.drop p.toList.length).contains '/')

/-! ## Jobs -/

/-- How far a deletion has come. -/
inductive Phase
  | deleting
  | failed (code : Nat)
  | recorded
  deriving DecidableEq

/-- The deletion of the content of a workspace: the prefixes that remain, and what was listed for
    the last one and is not deleted yet. -/
structure Deletion where
  id : Uuid
  prebuild : Bool
  includeSnapshots : Bool
  bucket : String
  prefixes : List String
  names : List String
  phase : Phase
  deriving DecidableEq

/-- What a server is about to do. -/
inductive Job
  | softDelete (id : Uuid) (cause : WorkspaceSoftDeletion)
  | collect (d : Deletion)
  | store (ws : Workspace)
  deriving DecidableEq

/-- All rows, all objects, and what is still to be done. -/
structure State where
  now : Nat
  probeUsers : List String
  workspaces : List Workspace
  instances : List WorkspaceInstance
  prebuilds : List PrebuiltWorkspace
  objects : Finset (String × String)
  jobs : List Job

/-- `deleteWorkspaceStorage` from its beginning. -/
def deleteWorkspaceStorage (env : Env) (ws : Workspace) (prebuild includeSnapshots : Bool) : Job :=
  .collect
    { id := ws.id
      prebuild := prebuild
      includeSnapshots := includeSnapshots
      bucket := getBucketName ws.ownerId env.kubeStage
      prefixes := deletedPrefixes ws.id includeSnapshots
      names := []
      phase := .deleting }

/-- The content of a marked workspace, and its snapshots only if the owner wanted it. -/
def garbageCollectWorkspace (env : Env) (ws : Workspace) : Job :=
  deleteWorkspaceStorage env ws false (ws.softDeleted = some .user)

/-- The content of a prebuild and its snapshot. -/
def garbageCollectPrebuild (env : Env) (ws : Workspace) : Job :=
  deleteWorkspaceStorage env ws true true

/-! ## Queries -/

/-- The database counts seconds. -/
def dbNow (s : State) : Nat := s.now / 1000 * 1000

/-- Longer ago than so many days. -/
def isOlder (s : State) (days time : Nat) : Bool := time + days * 86400000 < dbNow s

/-- `GREATEST` of the times of an instance, of which an empty one is least. -/
def activity (wsi : WorkspaceInstance) : Nat :=
  max (max wsi.creationTime (wsi.startedTime.getD 0)) (wsi.stoppedTime.getD 0)

/-- The greatest one is older, or there is none. -/
def isOlderMax (s : State) (days : Nat) (times : List Nat) : Bool :=
  times.max?.all (isOlder s days)

/-- A workspace that nobody has used for some days. -/
def FoundForGarbageCollection (env : Env) (s : State) (ws : Workspace) : Prop :=
  ws.deleted = false ∧ ws.type = .regular ∧ ws.softDeleted = none ∧ ws.pinned = false ∧
    isOlder s env.daysBeforeGarbageCollection ws.creationTime ∧
    isOlderMax s env.daysBeforeGarbageCollection
      ((s.instances.filter (·.workspaceId = ws.id)).map activity)

/-- A workspace that was marked some days ago. -/
def FoundForContentDeletion (env : Env) (s : State) (ws : Workspace) : Prop :=
  ws.deleted = false ∧ ws.contentDeletedTime = none ∧ ws.softDeleted ≠ none ∧
    ws.softDeletedTime.all (isOlder s env.workspaceDeletionRetentionPeriodDays) ∧
    ws.ownerId ∉ s.probeUsers

/-- The rows that are based on a prebuild of a workspace. -/
def usages (s : State) (ws : Workspace) : List Workspace :=
  s.workspaces.filter fun usage =>
    s.prebuilds.any fun pb => pb.buildWorkspaceId = ws.id ∧ usage.basedOnPrebuildId = some pb.id

/-- A prebuild that nobody has used for some days. -/
def FoundPrebuilt (env : Env) (s : State) (ws : Workspace) : Prop :=
  (∃ pb ∈ s.prebuilds, pb.buildWorkspaceId = ws.id) ∧
    ws.contentDeletedTime = none ∧ ws.pinned = false ∧
    isOlder s env.daysBeforeGarbageCollectingPrebuilds ws.creationTime ∧
    isOlderMax s env.daysBeforeGarbageCollectingPrebuilds
      ((usages s ws).map Workspace.creationTime)

instance (env : Env) (s : State) (ws : Workspace) :
    Decidable (FoundForGarbageCollection env s ws) :=
  inferInstanceAs (Decidable (_ ∧ _))

instance (env : Env) (s : State) (ws : Workspace) : Decidable (FoundForContentDeletion env s ws) :=
  inferInstanceAs (Decidable (_ ∧ _))

instance (env : Env) (s : State) (ws : Workspace) : Decidable (FoundPrebuilt env s ws) :=
  inferInstanceAs (Decidable (_ ∧ _))

/-- A query with a limit finds that many of the rows, and which ones is up to the database. -/
def Selects (limit : Nat) (rows found : List Workspace) : Prop :=
  found.Subperm rows ∧ found.length = min limit rows.length

instance (limit : Nat) (rows found : List Workspace) : Decidable (Selects limit rows found) :=
  inferInstanceAs (Decidable (_ ∧ _))

/-- The queries, each of which finds rows as they are then. -/
def findWorkspacesForGarbageCollection (env : Env) (s : State) : List Workspace :=
  s.workspaces.filter (FoundForGarbageCollection env s ·)

/-- The same for those that were marked. -/
def findWorkspacesForContentDeletion (env : Env) (s : State) : List Workspace :=
  s.workspaces.filter (FoundForContentDeletion env s ·)

/-- The same for prebuilds. -/
def findPrebuiltWorkspacesForGC (env : Env) (s : State) : List Workspace :=
  s.workspaces.filter (FoundPrebuilt env s ·)

/-! ## Steps -/

/-- What an owner may ask for. -/
inductive PinAction
  | pin
  | unpin
  | toggle

/-- What happens. A job goes on, or the server that has it goes away. -/
inductive Action
  | tick (milliseconds : Nat)
  | createWorkspace (ws : Workspace)
  | storeInstance (wsi : WorkspaceInstance)
  | storePrebuiltWorkspace (pb : PrebuiltWorkspace)
  | upload (bucket name : String)
  | updateWorkspaceUserPin (userId : String) (id : Uuid) (action : PinAction)
  | deleteWorkspace (userId : String) (id : Uuid)
  | readWorkspace (ws : Workspace)
  | softDeleteOldWorkspaces (found : List Workspace)
  | deleteWorkspaceContentAfterRetentionPeriod (found : List Workspace)
  | deleteOldPrebuilds (found : List Workspace)
  | softDeleteWorkspace (id : Uuid) (cause : WorkspaceSoftDeletion)
  | storeWorkspace (ws : Workspace)
  | listObjects (d : Deletion) (names : List String)
  | deleteObject (d : Deletion) (name : String)
  | fail (d : Deletion) (code : Nat) (inFlight : List String)
  | record (d : Deletion)
  | forget (job : Job)

/-- Writing some columns of a row. -/
def State.updatePartial (s : State) (id : Uuid) (f : Workspace → Workspace) : State :=
  { s with workspaces := s.workspaces.map fun ws => if ws.id = id then f ws else ws }

/-- A row by its ID. -/
def State.findById (s : State) (id : Uuid) : Option Workspace :=
  s.workspaces.find? (·.id = id)

/-- A job becomes what is left of it. -/
def State.replace (s : State) (job : Job) (left : List Job) : State :=
  { s with jobs := left ++ s.jobs.erase job }

/-- New jobs are added. -/
def State.start (s : State) (jobs : List Job) : State :=
  { s with jobs := jobs ++ s.jobs }

/-- What it makes of the pin. -/
def PinAction.apply : PinAction → Bool → Bool
  | .pin, _ => true
  | .unpin, _ => false
  | .toggle, pinned => !pinned

/-- The columns `save` writes are those that were read with a value. -/
def stored (read row : Workspace) : Workspace :=
  { read with
    softDeletedTime := read.softDeletedTime.or row.softDeletedTime
    contentDeletedTime := read.contentDeletedTime.or row.contentDeletedTime
    basedOnPrebuildId := read.basedOnPrebuildId.or row.basedOnPrebuildId }

/-- A mark has who and when. -/
def softDeletedAt (now : Nat) (cause : WorkspaceSoftDeletion) (ws : Workspace) : Workspace :=
  { ws with softDeleted := some cause, softDeletedTime := some now }

/-- What is written of a workspace whose content was deleted. -/
def contentDeletedAt (now : Nat) (prebuild : Bool) (ws : Workspace) : Workspace :=
  if prebuild then { softDeletedAt now .gc ws with contentDeletedTime := some now }
  else { ws with contentDeletedTime := some now }

/-- A deletion is recorded at its end, or if what was to be deleted was not there. -/
def Deletion.returns (d : Deletion) : Prop :=
  (d.phase = .deleting ∧ d.prefixes = [] ∧ d.names = []) ∨ d.phase = .failed 404

instance (d : Deletion) : Decidable d.returns :=
  inferInstanceAs (Decidable (_ ∨ _))

/-- Everything that is listed under the prefix, in some order. -/
def State.Lists (s : State) (kind : StorageKind) (bucket p : String) (names : List String) : Prop :=
  names.toFinset = (s.objects.filter fun o => o.1 = bucket ∧ isListed kind p o.2).image Prod.snd

instance (s : State) (kind : StorageKind) (bucket p : String) (names : List String) :
    Decidable (s.Lists kind bucket p names) :=
  inferInstanceAs (Decidable (_ = _))

/-- A row is written, a query is made, or a job goes on. -/
def step (env : Env) (s : State) : Action → Option State
  | .tick milliseconds => some { s with now := s.now + milliseconds }
  | .createWorkspace ws =>
      if s.findById ws.id = none ∧ ws.softDeleted = none then
        some { s with workspaces := ws :: s.workspaces }
      else none
  | .storeInstance wsi =>
      some { s with instances := wsi :: s.instances.filter (·.id ≠ wsi.id) }
  | .storePrebuiltWorkspace pb => some { s with prebuilds := pb :: s.prebuilds }
  | .upload bucket name => some { s with objects := insert (bucket, name) s.objects }
  | .updateWorkspaceUserPin userId id action =>
      if (s.findById id).any (·.ownerId = userId) then
        some (s.updatePartial id fun ws => { ws with pinned := action.apply ws.pinned })
      else none
  | .deleteWorkspace userId id =>
      if (s.findById id).any (·.ownerId = userId) then some (s.start [.softDelete id .user])
      else none
  | .readWorkspace ws => if ws ∈ s.workspaces then some (s.start [.store ws]) else none
  | .softDeleteOldWorkspaces found =>
      if env.garbageCollectionDisabled then none
      else if s.now < env.garbageCollectionStartDate then some s
      else if Selects env.garbageCollectionLimit (findWorkspacesForGarbageCollection env s)
          found then
        some (s.start (found.map fun ws => .softDelete ws.id .gc))
      else none
  | .deleteWorkspaceContentAfterRetentionPeriod found =>
      if env.garbageCollectionDisabled then none
      else if Selects env.workspaceDeletionLimit (findWorkspacesForContentDeletion env s) found then
        some (s.start (found.map (garbageCollectWorkspace env)))
      else none
  | .deleteOldPrebuilds found =>
      if env.garbageCollectionDisabled then none
      else if Selects env.workspaceDeletionLimit (findPrebuiltWorkspacesForGC env s) found then
        some (s.start (found.map (garbageCollectPrebuild env)))
      else none
  | .softDeleteWorkspace id cause =>
      if .softDelete id cause ∈ s.jobs then
        some ((s.updatePartial id (softDeletedAt s.now cause)).replace (.softDelete id cause) [])
      else none
  | .storeWorkspace ws =>
      if .store ws ∈ s.jobs then
        some ((s.updatePartial ws.id (stored ws)).replace (.store ws) [])
      else none
  | .listObjects d names =>
      match d.prefixes with
      | [] => none
      | p :: prefixes =>
          if .collect d ∈ s.jobs ∧ d.phase = .deleting ∧ d.names = [] ∧
              s.Lists env.storage d.bucket p names then
            some (s.replace (.collect d) [.collect { d with prefixes := prefixes, names := names }])
          else none
  | .deleteObject d name =>
      if .collect d ∈ s.jobs ∧ name ∈ d.names then
        some ({ s with objects := s.objects.erase (d.bucket, name) }.replace (.collect d)
          [.collect { d with names := d.names.erase name }])
      else none
  | .fail d code inFlight =>
      if .collect d ∈ s.jobs ∧ d.phase = .deleting ∧ inFlight.Sublist d.names then
        some (s.replace (.collect d)
          [.collect { d with phase := .failed code, prefixes := [], names := inFlight }])
      else none
  | .record d =>
      if .collect d ∈ s.jobs ∧ d.returns then
        some ((s.updatePartial d.id (contentDeletedAt s.now d.prebuild)).replace (.collect d)
          [.collect { d with phase := .recorded }])
      else none
  | .forget job => if job ∈ s.jobs then some (s.replace job []) else none

/-! ## What a step does -/

variable {env : Env} {s s' : State} {a : Action}

/-- A row that a step has written. -/
inductive RowStep (s : State) : Action → Workspace → Workspace → Prop
  | pin {a : Action} (ws : Workspace) (pinned : Bool) : RowStep s a ws { ws with pinned := pinned }
  | mark (ws : Workspace) (cause : WorkspaceSoftDeletion) (h : .softDelete ws.id cause ∈ s.jobs) :
      RowStep s (.softDeleteWorkspace ws.id cause) ws (softDeletedAt s.now cause ws)
  | store {a : Action} (ws read : Workspace) (h : .store read ∈ s.jobs) (hid : ws.id = read.id) :
      RowStep s a ws (stored read ws)
  | record {a : Action} (ws : Workspace) (prebuild : Bool) :
      RowStep s a ws (contentDeletedAt s.now prebuild ws)

/-- A job that a step has started, or that it has gone on with. -/
inductive JobStep (env : Env) (s : State) : Action → Job → Prop
  | delete (ws : Workspace) (h : ws ∈ s.workspaces) :
      JobStep env s (.deleteWorkspace ws.ownerId ws.id) (.softDelete ws.id .user)
  | unused (found : List Workspace) (ws : Workspace) (h : ws ∈ s.workspaces)
      (hfound : FoundForGarbageCollection env s ws) :
      JobStep env s (.softDeleteOldWorkspaces found) (.softDelete ws.id .gc)
  | read {a : Action} (ws : Workspace) (h : ws ∈ s.workspaces) : JobStep env s a (.store ws)
  | content (found : List Workspace) (ws : Workspace) (h : ws ∈ s.workspaces)
      (hfound : FoundForContentDeletion env s ws) :
      JobStep env s (.deleteWorkspaceContentAfterRetentionPeriod found)
        (garbageCollectWorkspace env ws)
  | prebuild (found : List Workspace) (ws : Workspace) (h : ws ∈ s.workspaces)
      (hfound : FoundPrebuilt env s ws) :
      JobStep env s (.deleteOldPrebuilds found) (garbageCollectPrebuild env ws)
  | list (d : Deletion) (p : String) (prefixes names : List String) (h : .collect d ∈ s.jobs)
      (hphase : d.phase = .deleting) (hprefixes : d.prefixes = p :: prefixes)
      (hnames : d.names = []) (hlists : s.Lists env.storage d.bucket p names) :
      JobStep env s (.listObjects d names)
        (.collect { d with prefixes := prefixes, names := names })
  | erase (d : Deletion) (name : String) (h : .collect d ∈ s.jobs) :
      JobStep env s (.deleteObject d name) (.collect { d with names := d.names.erase name })
  | fail {a : Action} (d : Deletion) (code : Nat) (inFlight : List String)
      (h : .collect d ∈ s.jobs) (hsub : inFlight.Sublist d.names) :
      JobStep env s a
        (.collect { d with phase := .failed code, prefixes := [], names := inFlight })
  | record {a : Action} (d : Deletion) (h : .collect d ∈ s.jobs) :
      JobStep env s a (.collect { d with phase := .recorded })

/-- What may have changed in a step: rows were written, jobs were started or went on, and an object
    was deleted or uploaded. -/
structure Effect (env : Env) (s : State) (a : Action) (s' : State) : Prop where
  rows : ∀ ws' ∈ s'.workspaces, ws' ∈ s.workspaces ∨ ws'.softDeleted = none ∨
    ∃ ws ∈ s.workspaces, RowStep s a ws ws'
  jobs : ∀ job ∈ s'.jobs, job ∈ s.jobs ∨ JobStep env s a job
  objects : ∀ o ∈ s.objects, o ∈ s'.objects ∨ ∃ d name, a = .deleteObject d name ∧
    .collect d ∈ s.jobs ∧ name ∈ d.names ∧ o = (d.bucket, name)
  uploaded : ∀ o ∈ s'.objects, o ∈ s.objects ∨ a = .upload o.1 o.2

theorem effect_world (hrows : ∀ ws ∈ s'.workspaces, ws ∈ s.workspaces ∨ ws.softDeleted = none)
    (hjobs : s'.jobs = s.jobs) (hobjects : s'.objects = s.objects) : Effect env s a s' where
  rows := fun ws hws => (hrows ws hws).imp_right Or.inl
  jobs := fun _ hjob => .inl (hjobs ▸ hjob)
  objects := fun _ ho => .inl (hobjects ▸ ho)
  uploaded := fun _ ho => .inl (hobjects ▸ ho)

/-- What a query starts, it starts for rows that it has found. -/
theorem effect_start {jobs : List Job} (hjobs : ∀ job ∈ jobs, JobStep env s a job) :
    Effect env s a (s.start jobs) where
  rows := fun _ hws => .inl hws
  jobs := fun job hjob => (List.mem_append.mp hjob).symm.imp_right (hjobs job)
  objects := fun _ ho => .inl ho
  uploaded := fun _ ho => .inl ho

theorem mem_replace {job : Job} {left : List Job} {j : Job} (h : j ∈ (s.replace job left).jobs) :
    j ∈ s.jobs ∨ j ∈ left :=
  (List.mem_append.mp h).symm.imp_left List.mem_of_mem_erase

theorem effect_replace {job : Job} {left : List Job} (hleft : ∀ j ∈ left, JobStep env s a j) :
    Effect env s a (s.replace job left) where
  rows := fun _ hws => .inl hws
  jobs := fun j hj => (mem_replace hj).imp_right (hleft j)
  objects := fun _ ho => .inl ho
  uploaded := fun _ ho => .inl ho

theorem mem_updatePartial {id : Uuid} {f : Workspace → Workspace} {ws' : Workspace}
    (h : ws' ∈ (s.updatePartial id f).workspaces) :
    ws' ∈ s.workspaces ∨ ∃ ws ∈ s.workspaces, ws.id = id ∧ ws' = f ws := by
  rcases List.mem_map.mp h with ⟨ws, hws, rfl⟩
  by_cases hid : ws.id = id
  · rw [if_pos hid]
    exact .inr ⟨ws, hws, hid, rfl⟩
  · rw [if_neg hid]
    exact .inl hws

theorem effect_updatePartial {id : Uuid} {f : Workspace → Workspace}
    (hrow : ∀ ws ∈ s.workspaces, ws.id = id → RowStep s a ws (f ws)) :
    Effect env s a (s.updatePartial id f) where
  rows := by
    intro ws' hws'
    rcases mem_updatePartial hws' with hws | ⟨ws, hws, hid, rfl⟩
    · exact .inl hws
    · exact .inr (.inr ⟨ws, hws, hrow ws hws hid⟩)
  jobs := fun _ hjob => .inl hjob
  objects := fun _ ho => .inl ho
  uploaded := fun _ ho => .inl ho

theorem effect_write {id : Uuid} {f : Workspace → Workspace} {job : Job} {left : List Job}
    (hrow : ∀ ws ∈ s.workspaces, ws.id = id → RowStep s a ws (f ws))
    (hleft : ∀ j ∈ left, JobStep env s a j) :
    Effect env s a ((s.updatePartial id f).replace job left) where
  rows := (@effect_updatePartial env s a id f hrow).rows
  jobs := (@effect_replace env s a job left hleft).jobs
  objects := fun _ ho => .inl ho
  uploaded := fun _ ho => .inl ho

theorem mem_of_findById_any {id : Uuid} {userId : String}
    (h : (s.findById id).any (·.ownerId = userId) = true) :
    ∃ ws ∈ s.workspaces, ws.id = id ∧ ws.ownerId = userId := by
  rcases (Option.any_eq_true _ _).mp h with ⟨ws, hfind, howner⟩
  have hid := List.find?_some hfind
  exact ⟨ws, List.mem_of_find?_eq_some hfind, of_decide_eq_true hid, of_decide_eq_true howner⟩

theorem Selects.mem {limit : Nat} {p : Workspace → Prop} [DecidablePred p] {found : List Workspace}
    (h : Selects limit (s.workspaces.filter (p ·)) found) {ws : Workspace} (hws : ws ∈ found) :
    ws ∈ s.workspaces ∧ p ws :=
  (List.mem_filter.mp (h.1.subset hws)).imp_right of_decide_eq_true

/-- What is listed begins as was asked, whichever storage it is. -/
theorem isPrefix_of_isListed {kind : StorageKind} {p name : String}
    (h : isListed kind p name = true) : p.toList <+: name.toList := by
  rw [isListed, Bool.and_eq_true] at h
  exact List.isPrefixOf_iff_prefix.mp h.1

theorem State.Lists.mem {kind : StorageKind} {bucket p : String} {names : List String}
    (h : s.Lists kind bucket p names) {name : String} :
    name ∈ names ↔ (bucket, name) ∈ s.objects ∧ isListed kind p name = true := by
  rw [← List.mem_toFinset, h, Finset.mem_image]
  constructor
  · rintro ⟨⟨_, _⟩, ho, rfl⟩
    rw [Finset.mem_filter] at ho
    rcases ho with ⟨ho, rfl, hlisted⟩
    exact ⟨ho, hlisted⟩
  · rintro ⟨ho, hlisted⟩
    exact ⟨(bucket, name), Finset.mem_filter.mpr ⟨ho, rfl, hlisted⟩, rfl⟩

/-- A step has no other effect. -/
theorem step_cases (h : step env s a = some s') : Effect env s a s' := by
  -- What others do leaves the jobs alone. What a collector does starts jobs or goes on with one.
  cases a with
  | tick milliseconds =>
      cases h
      exact effect_world (fun _ hws => .inl hws) rfl rfl
  | createWorkspace ws =>
      simp only [step, Option.ite_none_right_eq_some, Option.some.injEq] at h
      rcases h with ⟨⟨-, hnone⟩, rfl⟩
      refine effect_world (fun row hrow => ?_) rfl rfl
      rcases List.mem_cons.mp hrow with rfl | hrow
      · exact .inr hnone
      · exact .inl hrow
  | storeInstance wsi =>
      cases h
      exact effect_world (fun _ hws => .inl hws) rfl rfl
  | storePrebuiltWorkspace pb =>
      cases h
      exact effect_world (fun _ hws => .inl hws) rfl rfl
  | upload bucket name =>
      cases h
      -- An upload adds an object and takes none away.
      refine ⟨fun _ hws => .inl hws, fun _ hjob => .inl hjob,
        fun _ ho => .inl (Finset.mem_insert_of_mem ho), fun o ho => ?_⟩
      rcases Finset.mem_insert.mp ho with rfl | ho
      · exact .inr rfl
      · exact .inl ho
  | updateWorkspaceUserPin userId id action =>
      simp only [step, Option.ite_none_right_eq_some, Option.some.injEq] at h
      rcases h with ⟨-, rfl⟩
      exact effect_updatePartial fun ws _ _ => .pin ws _
  | deleteWorkspace userId id =>
      simp only [step, Option.ite_none_right_eq_some, Option.some.injEq] at h
      rcases h with ⟨hany, rfl⟩
      rcases mem_of_findById_any hany with ⟨ws, hws, rfl, rfl⟩
      refine effect_start fun job hjob => ?_
      rw [List.mem_singleton.mp hjob]
      exact .delete ws hws
  | readWorkspace ws =>
      simp only [step, Option.ite_none_right_eq_some, Option.some.injEq] at h
      rcases h with ⟨hws, rfl⟩
      refine effect_start fun job hjob => ?_
      rw [List.mem_singleton.mp hjob]
      exact .read ws hws
  | softDeleteOldWorkspaces found =>
      simp only [step] at h
      split_ifs at h with hdisabled hstart hfound
      · cases h
        exact effect_world (fun _ hws => .inl hws) rfl rfl
      · cases h
        -- A round starts a job for every row that it has found.
        refine effect_start fun job hjob => ?_
        rcases List.mem_map.mp hjob with ⟨ws, hws, rfl⟩
        rcases hfound.mem hws with ⟨hrow, hunused⟩
        exact .unused found ws hrow hunused
  | deleteWorkspaceContentAfterRetentionPeriod found =>
      simp only [step] at h
      split_ifs at h with hdisabled hfound
      cases h
      refine effect_start fun job hjob => ?_
      rcases List.mem_map.mp hjob with ⟨ws, hws, rfl⟩
      rcases hfound.mem hws with ⟨hrow, hold⟩
      exact .content found ws hrow hold
  | deleteOldPrebuilds found =>
      simp only [step] at h
      split_ifs at h with hdisabled hfound
      cases h
      refine effect_start fun job hjob => ?_
      rcases List.mem_map.mp hjob with ⟨ws, hws, rfl⟩
      rcases hfound.mem hws with ⟨hrow, hold⟩
      exact .prebuild found ws hrow hold
  | softDeleteWorkspace id cause =>
      simp only [step, Option.ite_none_right_eq_some, Option.some.injEq] at h
      rcases h with ⟨hjob, rfl⟩
      refine effect_write (fun ws _ hid => ?_) fun job hleft => absurd hleft List.not_mem_nil
      -- The row that is written is the one the job is about.
      rw [← hid] at hjob ⊢
      exact .mark ws cause hjob
  | storeWorkspace read =>
      simp only [step, Option.ite_none_right_eq_some, Option.some.injEq] at h
      rcases h with ⟨hjob, rfl⟩
      exact effect_write (fun ws _ hid => .store ws read hjob hid)
        fun job hleft => absurd hleft List.not_mem_nil
  | listObjects d names =>
      simp only [step] at h
      split at h
      · cases h
      · next p prefixes hprefixes =>
          -- The listing gives all names under the prefix, and the job keeps them.
          simp only [Option.ite_none_right_eq_some, Option.some.injEq] at h
          rcases h with ⟨⟨hjob, hphase, hnames, hlists⟩, rfl⟩
          refine effect_replace fun job hleft => ?_
          rw [List.mem_singleton.mp hleft]
          exact .list d p prefixes names hjob hphase hprefixes hnames hlists
  | deleteObject d name =>
      simp only [step, Option.ite_none_right_eq_some, Option.some.injEq] at h
      rcases h with ⟨⟨hjob, hname⟩, rfl⟩
      have hgoOn : ∀ j ∈ [Job.collect { d with names := d.names.erase name }],
          JobStep env s (.deleteObject d name) j := by
        intro j hj
        rw [List.mem_singleton.mp hj]
        exact .erase d name hjob
      refine ⟨fun _ hws => .inl hws, (effect_replace hgoOn).jobs, fun o ho => ?_,
        fun _ ho => .inl (Finset.mem_of_mem_erase ho)⟩
      -- Only the object of this step may be gone afterwards.
      by_cases heq : o = (d.bucket, name)
      · exact .inr ⟨d, name, rfl, hjob, hname, heq⟩
      · exact .inl (Finset.mem_erase.mpr ⟨heq, ho⟩)
  | fail d code inFlight =>
      simp only [step, Option.ite_none_right_eq_some, Option.some.injEq] at h
      rcases h with ⟨⟨hjob, -, hsub⟩, rfl⟩
      refine effect_replace fun job hleft => ?_
      rw [List.mem_singleton.mp hleft]
      exact .fail d code inFlight hjob hsub
  | record d =>
      simp only [step, Option.ite_none_right_eq_some, Option.some.injEq] at h
      rcases h with ⟨⟨hjob, -⟩, rfl⟩
      refine effect_write (fun ws _ _ => .record ws d.prebuild) fun job hleft => ?_
      rw [List.mem_singleton.mp hleft]
      exact .record d hjob
  | forget job =>
      simp only [step, Option.ite_none_right_eq_some, Option.some.injEq] at h
      rcases h with ⟨-, rfl⟩
      exact effect_replace fun job hleft => absurd hleft List.not_mem_nil

/-! ## A run -/

/-- Everything takes one day. -/
def oneDay : Env where
  kubeStage := .production
  storage := .gcloud
  garbageCollectionDisabled := false
  garbageCollectionStartDate := 0
  daysBeforeGarbageCollection := 1
  garbageCollectionLimit := 10
  daysBeforeGarbageCollectingPrebuilds := 1
  workspaceDeletionRetentionPeriodDays := 1
  workspaceDeletionLimit := 10

/-- Some ID. -/
def someId : Uuid where
  text := "a0000000-0000-0000-0000-000000000000"
  length_text := by decide

/-- A workspace that nobody uses. -/
def unusedWorkspace : Workspace where
  id := someId
  ownerId := "u"
  type := .regular
  creationTime := 0
  pinned := false
  deleted := false
  softDeleted := none
  softDeletedTime := none
  contentDeletedTime := none
  basedOnPrebuildId := none

/-- A workspace that was never started, with a backup and a snapshot. -/
def unusedStart : State where
  now := 100000000
  probeUsers := []
  workspaces := [unusedWorkspace]
  instances := []
  prebuilds := []
  objects := {("nxpod-prod-user-u", objectName someId "full.tar"),
    ("nxpod-prod-user-u", objectName someId "snapshot.tar")}
  jobs := []

/-- A deletion of its content, as far as it has come. -/
def unusedDeletion (prefixes names : List String) : Deletion where
  id := someId
  prebuild := false
  includeSnapshots := false
  bucket := "nxpod-prod-user-u"
  prefixes := prefixes
  names := names
  phase := .deleting

/-- It is marked, and its backup is deleted two days later. -/
def unusedRun : List Action :=
  let backup := objectName someId "full.tar"
  let trail := objectName someId "trail-"
  [.softDeleteOldWorkspaces [unusedWorkspace],
    .softDeleteWorkspace someId .gc,
    .tick 200000000,
    .deleteWorkspaceContentAfterRetentionPeriod [softDeletedAt 100000000 .gc unusedWorkspace],
    .listObjects (unusedDeletion [backup, trail] []) [backup],
    .deleteObject (unusedDeletion [trail] [backup]) backup,
    .listObjects (unusedDeletion [trail] []) [],
    .record (unusedDeletion [] [])]

/-! ## Causes -/

/-- The owner has deleted the workspace. -/
def Asked (id : Uuid) : Past State Action → Prop :=
  Once fun _ s a => ∃ ws ∈ s.workspaces, ws.id = id ∧ a = .deleteWorkspace ws.ownerId id

/-- The workspace was found not to be used. -/
def FoundUnused (env : Env) (id : Uuid) : Past State Action → Prop :=
  Once fun _ s a => ∃ ws ∈ s.workspaces, ws.id = id ∧ FoundForGarbageCollection env s ws ∧
    ∃ found, a = .softDeleteOldWorkspaces found

/-- Someone has decided to mark the workspace. -/
def Decided (env : Env) (id : Uuid) : WorkspaceSoftDeletion → Past State Action → Prop
  | .user => Asked id
  | .gc => FoundUnused env id

/-- The workspace was marked at a time, as had been decided before. -/
def Marked (env : Env) (id : Uuid) (cause : WorkspaceSoftDeletion) (time : Nat) :
    Past State Action → Prop :=
  Once fun earlier s a => a = .softDeleteWorkspace id cause ∧ s.now = time ∧
    Decided env id cause earlier

/-- The workspace of an owner was found with a mark for longer than the content is retained. -/
def Retained (env : Env) (id : Uuid) (owner : String) (cause : WorkspaceSoftDeletion) :
    Past State Action → Prop :=
  Once fun earlier s a => (∃ found, a = .deleteWorkspaceContentAfterRetentionPeriod found) ∧
    ∃ ws ∈ s.workspaces, ws.id = id ∧ ws.ownerId = owner ∧ ws.softDeleted = some cause ∧
      ∃ time, Marked env id cause time earlier ∧
        time + env.workspaceDeletionRetentionPeriodDays * 86400000 < s.now

/-- The workspace of an owner was found to have made a prebuild that nobody uses any more. -/
def Outdated (env : Env) (id : Uuid) (owner : String) : Past State Action → Prop :=
  Once fun _ s a => (∃ found, a = .deleteOldPrebuilds found) ∧
    ∃ ws ∈ s.workspaces, ws.id = id ∧ ws.ownerId = owner ∧ FoundPrebuilt env s ws

/-- The name begins like those of the backups of a workspace. -/
def IsBackup (id : Uuid) (name : String) : Prop :=
  ∃ p ∈ deletedPrefixes id false, p.toList <+: name.toList

/-- There was a cause to delete what begins like this. Without the owner or a prebuild, only backups
    are deleted. -/
def Warrant (env : Env) (id : Uuid) (bucket name : String) (past : Past State Action) : Prop :=
  ∃ owner, bucket = getBucketName owner env.kubeStage ∧
    (workspacePrefix id).toList <+: name.toList ∧
    (Retained env id owner .user past ∨ Retained env id owner .gc past ∧ IsBackup id name ∨
      Outdated env id owner past)

/-- What is deleted was warranted once, and no other workspace has it. -/
def Warranted (env : Env) (past : Past State Action) (s : State) (_ : Action) (s' : State) : Prop :=
  ∀ bucket name, (bucket, name) ∈ s.objects → (bucket, name) ∉ s'.objects →
    ∃ id, Warrant env id bucket name past ∧ ∀ id' rest, name = objectName id' rest → id' = id

/-! ## The invariant -/

/-- A mark has a time, and it was made then. -/
def Dated (env : Env) (past : Past State Action) (ws : Workspace) : Prop :=
  ∀ cause, ws.softDeleted = some cause → ws.contentDeletedTime = none →
    ∃ time, ws.softDeletedTime = some time ∧ Marked env ws.id cause time past

/-- There was a reason for the job when it was begun. -/
def JobOk (env : Env) (past : Past State Action) : Job → Prop
  | .softDelete id cause => Decided env id cause past
  | .collect d => ∀ name, name ∈ d.prefixes ∨ name ∈ d.names → Warrant env d.id d.bucket name past
  | .store ws => Dated env past ws

/-- So there was for every row that is marked and for every job. -/
structure Justified (env : Env) (past : Past State Action) (s : State) : Prop where
  rows : ∀ ws ∈ s.workspaces, Dated env past ws
  jobs : ∀ job ∈ s.jobs, JobOk env past job

variable {past : Past State Action} {id : Uuid} {bucket name : String}

theorem Decided.cons {cause : WorkspaceSoftDeletion} (h : Decided env id cause past)
    (entry : State × Action) : Decided env id cause (entry :: past) := by
  cases cause with
  | user => exact Once.cons h entry
  | gc => exact Once.cons h entry

theorem Warrant.cons (h : Warrant env id bucket name past) (entry : State × Action) :
    Warrant env id bucket name (entry :: past) := by
  rcases h with ⟨owner, hbucket, hprefix, hcause⟩
  refine ⟨owner, hbucket, hprefix, ?_⟩
  rcases hcause with huser | ⟨hgc, hbackup⟩ | hprebuild
  · exact .inl (huser.cons entry)
  · exact .inr (.inl ⟨hgc.cons entry, hbackup⟩)
  · exact .inr (.inr (hprebuild.cons entry))

/-- What is warranted for a prefix is so for what begins with it. -/
theorem Warrant.of_isPrefix {p : String} (h : Warrant env id bucket p past)
    (hp : p.toList <+: name.toList) : Warrant env id bucket name past := by
  rcases h with ⟨owner, hbucket, hprefix, hcause⟩
  refine ⟨owner, hbucket, hprefix.trans hp, ?_⟩
  rcases hcause with huser | ⟨hgc, q, hq, hqp⟩ | hprebuild
  · exact .inl huser
  · exact .inr (.inl ⟨hgc, q, hq, hqp.trans hp⟩)
  · exact .inr (.inr hprebuild)

theorem Dated.cons {ws : Workspace} (h : Dated env past ws) (entry : State × Action) :
    Dated env (entry :: past) ws := by
  intro cause hcause hcontent
  rcases h cause hcause hcontent with ⟨time, htime, hmarked⟩
  exact ⟨time, htime, hmarked.cons entry⟩

theorem JobOk.cons {job : Job} (h : JobOk env past job) (entry : State × Action) :
    JobOk env (entry :: past) job := by
  cases job with
  | softDelete id cause => exact Decided.cons h entry
  | collect d => exact fun name hname => (h name hname).cons entry
  | store ws => exact Dated.cons h entry

/-- A row that is written keeps its mark, or gets one that is new or was read. -/
theorem dated_of_rowStep {ws ws' : Workspace} (h : RowStep s a ws ws') (hs : Justified env past s)
    (hws : ws ∈ s.workspaces) : Dated env ((s, a) :: past) ws' := by
  cases h with
  | pin _ pinned => exact (hs.rows ws hws).cons (s, a)
  | mark _ cause hjob =>
      intro cause' hcause' _
      cases hcause'
      exact ⟨s.now, rfl, Once.here ⟨rfl, rfl, hs.jobs _ hjob⟩⟩
  | store _ read hjob hid =>
      intro cause hcause hcontent
      -- what was read had its content, and so its mark has a time
      rcases Option.or_eq_none_iff.mp hcontent with ⟨hread, -⟩
      rcases Dated.cons (hs.jobs _ hjob) (s, a) cause hcause hread with ⟨time, htime, hmarked⟩
      refine ⟨time, ?_, hmarked⟩
      rw [stored]
      dsimp only
      rw [htime, Option.some_or]
  | record _ prebuild =>
      intro cause _ hcontent
      unfold contentDeletedAt at hcontent
      split_ifs at hcontent

theorem workspacePrefix_prefixes {includeSnapshots : Bool} {p : String}
    (hp : p ∈ deletedPrefixes id includeSnapshots) :
    (workspacePrefix id).toList <+: p.toList := by
  unfold deletedPrefixes at hp
  split_ifs at hp
  · rw [List.mem_singleton.mp hp]
  · rcases List.mem_pair.mp hp with rfl | rfl
    · rw [String.toList_append]
      exact List.prefix_append _ _
    · rw [String.toList_append]
      exact List.prefix_append _ _

theorem lt_now_of_isOlder {days time : Nat} (h : isOlder s days time = true) :
    time + days * 86400000 < s.now :=
  (of_decide_eq_true h).trans_le (Nat.div_mul_le_self _ _)

/-- A mark that a query finds to be old enough has been there that long. -/
theorem retained_of_found {ws : Workspace} {found : List Workspace} (hs : Justified env past s)
    (hws : ws ∈ s.workspaces) (hfound : FoundForContentDeletion env s ws)
    {cause : WorkspaceSoftDeletion} (hcause : ws.softDeleted = some cause) :
    Retained env ws.id ws.ownerId cause
      ((s, .deleteWorkspaceContentAfterRetentionPeriod found) :: past) := by
  rcases hfound with ⟨-, hcontent, -, hold, -⟩
  rcases hs.rows ws hws cause hcause hcontent with ⟨time, htime, hmarked⟩
  rw [htime, Option.all_some] at hold
  exact Once.here ⟨⟨found, rfl⟩, ws, hws, rfl, rfl, hcause, time, hmarked, lt_now_of_isOlder hold⟩

/-- A job that is started has a cause, and one that goes on has kept it. -/
theorem jobOk_of_jobStep {job : Job} (h : JobStep env s a job) (hs : Justified env past s) :
    JobOk env ((s, a) :: past) job := by
  cases h with
  | delete ws hws => exact Once.here ⟨ws, hws, rfl, rfl⟩
  | unused found ws hws hfound => exact Once.here ⟨ws, hws, rfl, hfound, found, rfl⟩
  | read ws hws => exact (hs.rows ws hws).cons (s, a)
  | content found ws hws hfound =>
      intro p hp
      have hp : p ∈ deletedPrefixes ws.id (ws.softDeleted = some .user) :=
        hp.resolve_right List.not_mem_nil
      refine ⟨ws.ownerId, rfl, workspacePrefix_prefixes hp, ?_⟩
      rcases Option.ne_none_iff_exists'.mp hfound.2.2.1 with ⟨cause, hcause⟩
      have hretained := @retained_of_found env s past ws found hs hws hfound cause hcause
      cases cause with
      | user => exact .inl hretained
      | gc =>
          rw [hcause, decide_eq_false (by decide)] at hp
          exact .inr (.inl ⟨hretained, p, hp, List.prefix_refl _⟩)
  | prebuild found ws hws hfound =>
      intro p hp
      have hp : p ∈ deletedPrefixes ws.id true := hp.resolve_right List.not_mem_nil
      exact ⟨ws.ownerId, rfl, workspacePrefix_prefixes hp,
        .inr (.inr (Once.here ⟨⟨found, rfl⟩, ws, hws, rfl, rfl, hfound⟩))⟩
  | list d p prefixes names hjob _ hprefixes _ hlists =>
      have hd := hs.jobs _ hjob
      intro name hname
      refine Warrant.cons ?_ (s, _)
      rcases hname with hname | hname
      · exact hd name (.inl (hprefixes ▸ List.mem_cons_of_mem p hname))
      · have hp := hd p (.inl (hprefixes ▸ List.mem_cons_self))
        exact hp.of_isPrefix (isPrefix_of_isListed (hlists.mem.mp hname).2)
  | erase d name hjob =>
      exact fun n hn => (hs.jobs _ hjob n (hn.imp_right List.mem_of_mem_erase)).cons (s, _)
  | fail d code inFlight hjob hsub =>
      intro n hn
      have hn : n ∈ inFlight := hn.resolve_left List.not_mem_nil
      exact (hs.jobs _ hjob n (.inr (hsub.subset hn))).cons (s, a)
  | record d hjob => exact fun n hn => (hs.jobs _ hjob n hn).cons (s, a)

/-- One case for each action. -/
theorem justified_step (hs : Justified env past s) (h : step env s a = some s') :
    Justified env ((s, a) :: past) s' where
  rows := by
    intro ws' hws'
    rcases (step_cases h).rows ws' hws' with hws | hnone | ⟨ws, hws, hrow⟩
    · exact (hs.rows ws' hws).cons (s, a)
    · intro cause hcause
      rw [hnone] at hcause
      cases hcause
    · exact dated_of_rowStep hrow hs hws
  jobs := by
    intro job hjob
    rcases (step_cases h).jobs job hjob with hjob | hjob
    · exact (hs.jobs job hjob).cons (s, a)
    · exact jobOk_of_jobStep hjob hs

/-- IDs are of one length, so the prefix of one workspace is not that of another. -/
theorem eq_of_workspacePrefix_isPrefix {id id' : Uuid} {rest : String}
    (h : (workspacePrefix id).toList <+: (objectName id' rest).toList) : id' = id := by
  have hname : (objectName id' rest).toList =
      (workspacePrefix id').toList ++ ("/" ++ rest).toList := by
    rw [objectName, String.append_assoc, String.toList_append]
  have hlength : (workspacePrefix id).toList.length = (workspacePrefix id').toList.length := by
    rw [workspacePrefix, workspacePrefix, String.toList_append, String.toList_append,
      List.length_append, List.length_append, String.length_toList, String.length_toList,
      String.length_toList, id.length_text, id'.length_text]
  rw [hname] at h
  have htake := List.prefix_iff_eq_take.mp h
  rw [hlength, List.take_left, workspacePrefix, workspacePrefix, String.toList_append,
    String.toList_append, List.append_cancel_left_eq] at htake
  have htext := String.toList_injective htake
  cases id
  cases id'
  cases htext
  rfl

/-- A deletion is warranted by the reason for its job. -/
theorem warranted_step (hs : Justified env past s) (h : step env s a = some s') :
    Warranted env past s a s' := by
  intro bucket name hmem hnot
  rcases (step_cases h).objects _ hmem with hmem' | ⟨d, name', -, hjob, hname, heq⟩
  · exact absurd hmem' hnot
  · cases heq
    have hwarrant := hs.jobs _ hjob name (.inr hname)
    refine ⟨d.id, hwarrant, fun id' rest hrest => ?_⟩
    rcases hwarrant with ⟨-, -, hprefix, -⟩
    rw [hrest] at hprefix
    exact eq_of_workspacePrefix_isPrefix hprefix

/-- Along every run, an object is deleted only if, before, the workspace it belongs to was found
    with a mark that was old enough, or as that of an old prebuild. The mark was made when the
    owner had deleted the workspace, or for want of use, and then only backups are deleted. So
    content is never deleted for a reason other than these, however many collectors run beside
    one another and whatever is uploaded meanwhile. The workspace may be in use again by then. -/
theorem warranted_run (env : Env) {s : State} (hrows : ∀ ws ∈ s.workspaces, ws.softDeleted = none)
    (hjobs : s.jobs = []) (as : List Action) :
    StepsAlong (remember (step env)) (fun h a h' => Warranted env h.1 h.2 a h'.2) as ([], s) := by
  have hstart : Justified env [] s := by
    refine ⟨fun ws hws cause hcause => ?_, fun job hjob => ?_⟩
    · rw [hrows ws hws] at hcause
      cases hcause
    · rw [hjobs] at hjob
      exact absurd hjob List.not_mem_nil
  exact stepsAlong_remember_of_invariant
    (fun _ _ _ _ hs h => ⟨justified_step hs h, warranted_step hs h⟩) hstart as

/-- The backup of a workspace that nobody has used is deleted, and its snapshot stays. -/
theorem warranted_unused :
    StepsAlong (remember (step oneDay)) (fun h a h' => Warranted oneDay h.1 h.2 a h'.2) unusedRun
        ([], unusedStart) ∧
      (runActions (step oneDay) unusedRun unusedStart).any fun t =>
        t.objects = {("nxpod-prod-user-u", objectName someId "snapshot.tar")} :=
  ⟨warranted_run oneDay (by decide) rfl unusedRun, by decide +kernel⟩

/-! ## What is left -/

/-- A deletion has listed what is under a prefix of the workspace. -/
def Listed (id : Uuid) (p : String) : Past State Action → Prop :=
  Once fun _ _ a => ∃ d names, a = .listObjects d names ∧ d.id = id ∧ d.prefixes.head? = some p

/-- The object was uploaded after such a list. -/
def UploadedSince (id : Uuid) (p bucket name : String) : Past State Action → Prop :=
  Once fun earlier _ a => a = .upload bucket name ∧ Listed id p earlier

/-- Where a deletion is recorded at its end, what is under the prefixes was uploaded after they were
    listed. -/
def Cleared (past : Past State Action) (s : State) (a : Action) (_ : State) : Prop :=
  ∀ d, a = .record d → d.phase = .deleting → ∀ p ∈ deletedPrefixes d.id d.includeSnapshots,
    ∀ name, (d.bucket, name) ∈ s.objects → p.toList <+: name.toList →
      UploadedSince d.id p d.bucket name past

/-- A prefix remains, or what is under it is about to be deleted. -/
def Clearing (past : Past State Action) (s : State) (d : Deletion) : Prop :=
  ∀ p ∈ deletedPrefixes d.id d.includeSnapshots, p ∈ d.prefixes ∨
    Listed d.id p past ∧ ∀ name, (d.bucket, name) ∈ s.objects → p.toList <+: name.toList →
      name ∈ d.names ∨ UploadedSince d.id p d.bucket name past

/-- What was listed and is still there is still to be deleted. -/
def AllClearing (past : Past State Action) (s : State) : Prop :=
  ∀ d, .collect d ∈ s.jobs → d.phase = .deleting → Clearing past s d

theorem Clearing.step {d : Deletion} (hd : Clearing past s d) (h : step env s a = some s') :
    Clearing ((s, a) :: past) s' d := by
  intro p hp
  rcases hd p hp with hremains | ⟨hlisted, hnames⟩
  · exact .inl hremains
  · refine .inr ⟨hlisted.cons (s, a), fun name hmem hprefix => ?_⟩
    rcases (step_cases h).uploaded _ hmem with hmem | rfl
    · exact (hnames name hmem hprefix).imp_right fun huploaded => huploaded.cons _
    · exact .inr (Once.here ⟨rfl, hlisted⟩)

theorem objects_of_deleteObject {d : Deletion} {name : String}
    (h : step env s (.deleteObject d name) = some s') : (d.bucket, name) ∉ s'.objects := by
  simp only [GarbageCollector.step, Option.ite_none_right_eq_some, Option.some.injEq] at h
  rcases h with ⟨-, rfl⟩
  exact Finset.notMem_erase _ _

theorem isListed_gcloud {p name : String} (h : p.toList <+: name.toList) :
    isListed .gcloud p name = true := by
  rw [isListed, List.isPrefixOf_iff_prefix.mpr h]
  rfl

theorem clearing_of_jobStep {d : Deletion} (hstorage : env.storage = .gcloud)
    (hs : AllClearing past s) (h : step env s a = some s') (hjob : JobStep env s a (.collect d))
    (hphase : d.phase = .deleting) : Clearing ((s, a) :: past) s' d := by
  generalize hj : Job.collect d = job at hjob
  cases hjob with
  | delete ws hws => cases hj
  | unused found ws hws hfound => cases hj
  | read ws hws => cases hj
  | content found ws hws hfound =>
      cases hj
      exact fun p hp => .inl hp
  | prebuild found ws hws hfound =>
      cases hj
      exact fun p hp => .inl hp
  | list e p prefixes names he hphase' hprefixes hnames hlists =>
      cases hj
      intro q hq
      have hhead : Listed e.id p ((s, .listObjects e names) :: past) :=
        Once.here ⟨e, names, rfl, rfl, by rw [hprefixes, List.head?_cons]⟩
      -- nothing is left of what was listed for the prefixes before this one
      rcases Clearing.step (hs e he hphase') h q hq with hremains | ⟨hlisted, hrest⟩
      · rw [hprefixes] at hremains
        rcases List.mem_cons.mp hremains with rfl | hremains
        · refine .inr ⟨hhead, fun name hmem hprefix => .inl ?_⟩
          rcases (step_cases h).uploaded _ hmem with hmem | hupload
          · rw [hstorage] at hlists
            exact hlists.mem.mpr ⟨hmem, isListed_gcloud hprefix⟩
          · cases hupload
        · exact .inl hremains
      · refine .inr ⟨hlisted, fun name hmem hprefix => ?_⟩
        have hname := hrest name hmem hprefix
        rw [hnames] at hname
        exact .inr (hname.resolve_left List.not_mem_nil)
  | erase e name he =>
      cases hj
      intro q hq
      rcases Clearing.step (hs e he hphase) h q hq with hremains | ⟨hlisted, hrest⟩
      · exact .inl hremains
      · refine .inr ⟨hlisted, fun n hmem hprefix => (hrest n hmem hprefix).imp_left fun hn => ?_⟩
        have hne : n ≠ name := by
          rintro rfl
          exact objects_of_deleteObject h hmem
        exact (List.mem_erase_of_ne hne).mpr hn
  | fail e code inFlight he hsub =>
      cases hj
      cases hphase
  | record e he =>
      cases hj
      cases hphase

/-- So it is in every run. -/
theorem allClearing_step (hstorage : env.storage = .gcloud) (hs : AllClearing past s)
    (h : step env s a = some s') : AllClearing ((s, a) :: past) s' := by
  intro d hd hphase
  rcases (step_cases h).jobs _ hd with hd | hd
  · exact (hs d hd hphase).step h
  · exact clearing_of_jobStep hstorage hs h hd hphase

/-- And when a job is done nothing is left but what was uploaded since. -/
theorem cleared_step (hs : AllClearing past s) (h : step env s a = some s') :
    Cleared past s a s' := by
  rintro d rfl hphase p hp name hmem hprefix
  simp only [GarbageCollector.step, Option.ite_none_right_eq_some] at h
  rcases h with ⟨⟨hjob, hreturns⟩, -⟩
  rcases hreturns with ⟨-, hprefixes, hnames⟩ | hfailed
  · rcases hs d hjob hphase p hp with hremains | ⟨-, hrest⟩
    · rw [hprefixes] at hremains
      exact absurd hremains List.not_mem_nil
    · have hname := hrest name hmem hprefix
      rw [hnames] at hname
      exact hname.resolve_left List.not_mem_nil
  · rw [hphase] at hfailed
    cases hfailed

/-- Along every run with GCloud, where the deletion of a workspace is recorded without a
    failure, of what it had to delete there is only what was uploaded after it was listed. This
    is the other half: but for such an upload, no row says that content is gone which is still
    there. -/
theorem cleared_run (env : Env) (hstorage : env.storage = .gcloud) {s : State}
    (hjobs : s.jobs = []) (as : List Action) :
    StepsAlong (remember (step env)) (fun h a h' => Cleared h.1 h.2 a h'.2) as ([], s) := by
  have hstart : AllClearing [] s := by
    intro d hd
    rw [hjobs] at hd
    exact absurd hd List.not_mem_nil
  exact stepsAlong_remember_of_invariant
    (fun _ _ _ _ hs h => ⟨allClearing_step hstorage hs h, cleared_step hs h⟩) hstart as

theorem cleared_unused :
    StepsAlong (remember (step oneDay)) (fun h a h' => Cleared h.1 h.2 a h'.2) unusedRun
        ([], unusedStart) ∧
      (runActions (step oneDay) unusedRun unusedStart).any fun t =>
        t.workspaces.all fun ws => ws.contentDeletedTime = some 300000000 :=
  ⟨cleared_run oneDay rfl rfl unusedRun, by decide +kernel⟩

end GarbageCollector

end Nxpod
