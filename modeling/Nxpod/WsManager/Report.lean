import Nxpod.Library.Duration
import Nxpod.WsManager.Api
import Nxpod.WsManager.Objects

/-!
# The Status That Is Reported

`getWorkspaceStatus` of ws-manager reports what is known of a workspace. Most of
it is read off the pod and its annotations. The rest is in the state that
outlives the pod, which is kept in an annotation of a config map, and in the
services. Without a pod, the status is the last one that was computed with it,
as far as it is in that state.

Points in time are numbers of nanoseconds. What is written in the annotations by
others, as JSON or as an encoded message, is read by functions that are
parameters.

## Main definitions

* `WorkspaceType`: What the workspace is for.
* `PortSpec`: A target of 0 is the port itself.
* `WorkspaceMetadata`: Who the workspace belongs to, and since when it is there.
* `WorkspaceStatus`, `PLIS`: The status, and the state that outlives the pod.
* `ImageSpec`: The image a workspace was asked for, which is not the one that
  the pod has.
* `Env`, `Failure`: What is written by others, and how a function may fail.
* `extractStatusFromPLIS`, `getWorkspaceStatusFromPLIS`, `getWorkspaceStatus`: The
  source's functions.

## Theorems

* `phase_of_getWorkspaceStatus`: The phase of a workspace with a pod is read off it.
-/

namespace Nxpod

namespace WsManager

namespace Report

open Finalize ( workspaceIDAnnotation)
open Ports (metaIDLabel portNameToVisibility portURLKey)
open Objects
open Status (WorkspacePhase WorkspaceConditionBool TimeFormat)

/-! ## The status -/

/-- What the workspace is for. -/
inductive WorkspaceType where
  | regular
  | prebuild
  | probe
  deriving DecidableEq

/-- A target of 0 is the port itself. -/
structure PortSpec where
  port : UInt32
  target : UInt32
  visibility : PortVisibility
  url : String

/-- Who the workspace belongs to, and since when it is there. -/
structure WorkspaceMetadata (Stamp : Type) where
  owner : String
  metaId : String
  startedAt : Option Stamp

/-- What the workspace was started with, as far as it is reported. -/
structure WorkspaceSpec where
  headless : Bool
  workspaceImage : String
  url : String
  type : WorkspaceType
  timeout : String
  exposedPorts : List PortSpec := []

/-- The conditions that are not read off the status of the pod come last. -/
structure WorkspaceStatus (Stamp : Type) extends Status.WorkspaceStatus Stamp where
  id : String
  metadata : WorkspaceMetadata Stamp
  spec : WorkspaceSpec
  nodeName : String
  auth : WorkspaceAuthentication
  snapshot : String
  finalBackupComplete : WorkspaceConditionBool := .false
  serviceExists : WorkspaceConditionBool := .false
  deployed : WorkspaceConditionBool := .false

/-- The pod lifecycle independent state. -/
structure PLIS (Stamp : Type) where
  finalBackupComplete : Bool := false
  finalBackupFailure : String := ""
  stoppingSince : Option Int := none
  lastPodStatus : Option (WorkspaceStatus Stamp) := none
  hostIP : String := ""

/-- The image a workspace was asked for, which is not the one that the pod has. -/
structure ImageSpec where
  baseRef : String

/-- How what is written in annotations is read. -/
structure Env (Stamp : Type) where
  format : TimeFormat Int Stamp
  unmarshal : String → Except String (PLIS Stamp)
  imageSpecFromBase64 : String → Except String ImageSpec

/-- A function that dereferences nil panics. -/
inductive Failure where
  | error (text : String)
  | panic

/-- `xerrors.Errorf` with the context in front. Nothing wraps a panic. -/
def Failure.wrap (context : String) : Failure → Failure
  | .error err => .error s!"{context}: {err}"
  | .panic => .panic

/-! ## The annotations -/

/-- Where the workspace is reached. -/
def workspaceURLAnnotation : String := "nxpod/url"

/-- The snapshot that was taken of a headless workspace. -/
def workspaceSnapshotAnnotation : String := "nxpod/snapshot"

/-- What the image of the pod is to be put together from. -/
def workspaceImageSpecAnnotation : String := "nxpod/imageSpec"

/-- How long the workspace may be without activity, if that was asked for. -/
def customTimeoutAnnotation : String := "nxpod/customTimeout"

/-- What the owner shows when he comes to the workspace. -/
def ownerTokenAnnotation : String := "nxpod/ownerToken"

/-- Who may come to the workspace. -/
def workspaceAdmissionAnnotation : String := "nxpod/admission"

/-- The state that outlives the pod is one text in an annotation. -/
def plisDataAnnotation : String := "nxpod/plis"

/-- Whose workspace it is. -/
def ownerLabel : String := "owner"

/-- What the workspace is for, in the words of the interface and in lower case. -/
def typeLabel : String := "workspaceType"

/-- The upper case of a letter, where it is one of `A` to `Z`. No name that is looked for
    has another one. -/
def upper (c : Char) : Char :=
  if c = 'ı' then 'I' else if c = 'ſ' then 'S' else c.toUpper

/-- `strings.ToUpper`, for the names of the interface. -/
def toUpper (s : String) : String := String.ofList (s.toList.map upper)

/-- The names that are generated from the interface, in upper case. -/
def workspaceTypeValue : String → Option WorkspaceType
  | "REGULAR" => some .regular
  | "PREBUILD" => some .prebuild
  | "PROBE" => some .probe
  | _ => none

/-- The same for the admission. -/
def admissionLevelValue : String → Option AdmissionLevel
  | "ADMIT_OWNER_ONLY" => some .admitOwnerOnly
  | "ADMIT_EVERYONE" => some .admitEveryone
  | _ => none

/-! ## Reading the status -/

variable {Stamp : Type}

/-- What the phase of a workspace is read off. -/
def statusObjects (wso : WorkspaceObjects) : Status.WorkspaceObjects where
  pod := wso.pod.map Pod.toPod
  plis := wso.plis.map ConfigMap.toConfigMap
  events := wso.events

/-- As it is read for the phase. -/
def isWorkspaceHeadless (wso : WorkspaceObjects) : Bool :=
  Status.isWorkspaceHeadless (statusObjects wso)

/-- A pod of a former version has no label for the type. -/
def workspaceType (wso : WorkspaceObjects) : Except String WorkspaceType :=
  match (wso.pod.map fun pod => pod.labels).or (wso.plis.map fun plis => plis.labels) with
  | none => .error "cannot determine pod type"
  | some labels => match labels.lookup typeLabel with
    -- Prebuilds were the only headless workspaces when there was no label yet.
    | none => .ok (if isWorkspaceHeadless wso then .prebuild else .regular)
    | some lbl => match workspaceTypeValue (toUpper lbl) with
      | some tpe => .ok tpe
      | none => .error s!"pod has invalid type label: {lbl}"

/-- The first container of the name. -/
def getContainer (pod : Pod) (name : String) : Option Container :=
  pod.containers.find? (·.name = name)

/-- What is not there is left empty, a time that cannot be told included. -/
def getWorkspaceMetadata (env : Env Stamp) (pod : Pod) : WorkspaceMetadata Stamp where
  owner := (pod.labels.lookup ownerLabel).getD ""
  metaId := (pod.labels.lookup metaIDLabel).getD ""
  startedAt := (env.format.timestampProto pod.creationTimestamp).toOption

/-- A config map may have no state yet. -/
def unmarshalPodLifecycleIndependentState (env : Env Stamp) (cfg : ConfigMap) :
    Except String (Option (PLIS Stamp)) :=
  match cfg.annotations.lookup plisDataAnnotation with
  | none => .ok none
  | some rawPLIS => match env.unmarshal rawPLIS with
    | .error err => .error s!"cannot unmarshal pod lifecycle independent state: {err}"
    | .ok result => .ok (some result)

/-- The failure of the last backup is said once. -/
def lastBackupFailed (failed finalBackupFailure : String) : String :=
  if finalBackupFailure ≠ "" ∧ ¬ "last backup failed".toList <:+: failed.toList then
    (if failed ≠ "" then failed ++ "; " else failed) ++
      s!"last backup failed: {finalBackupFailure}. " ++
      "Please contact support if you need the workspace data."
  else failed

/-- Adds what the state says to the status. -/
def extractStatusFromPLIS (result : WorkspaceStatus Stamp) (wso : WorkspaceObjects)
    (plis : Option (PLIS Stamp)) : WorkspaceStatus Stamp :=
  match plis, wso.plis with
  | some plis, some cfg =>
      let result := if plis.finalBackupComplete then
          { result with
            finalBackupComplete := .true
            -- As long as there is a pod, the phase is its phase.
            phase := if wso.pod.isNone then .stopped else result.phase }
        else result
      let conditions := { result.conditions with
        failed := lastBackupFailed result.conditions.failed plis.finalBackupFailure }
      let conditions := match cfg.annotations.lookup Status.workspaceTimedOutAnnotation with
        | some timeout =>
            if conditions.timeout = "" then { conditions with timeout := timeout } else conditions
        | none => conditions
      { result with conditions := conditions }
  | _, _ => result

/-- The status as it was when there was a pod, with what is known now of the end. Whatever is
    missing on the way is an error of its own. -/
def getWorkspaceStatusFromPLIS (env : Env Stamp) (wso : WorkspaceObjects) :
    Except String (WorkspaceStatus Stamp) :=
  match wso.plis with
  | none => .error "workspace has no pod lifecycle independent state obj"
  | some cfg => match unmarshalPodLifecycleIndependentState env cfg with
    | .error err =>
        .error s!"cannot get status from pod lifecycle independent state: {err}"
    | .ok none => .error "workspace has no pod lifecycle independent state"
    | .ok (some plis) => match plis.lastPodStatus with
      | none => .error "pod lifecycle independent state does not contain last pod-based status"
      | some status => .ok (extractStatusFromPLIS status wso (some plis))

/-- The configured timeout of a regular workspace, unless the pod has one of its own. -/
def timeoutText (regularWorkspace : Duration) (pod : Pod) : String :=
  match pod.annotations.lookup customTimeoutAnnotation with
  | some v => v
  | none => if 0 < regularWorkspace.ns then regularWorkspace.toText else ""

/-- The image that was asked for is in the annotation, and for a pod without it in the
    container. -/
def workspaceImage (env : Env Stamp) (pod : Pod) (container : Container) : Except String String :=
  match pod.annotations.lookup workspaceImageSpecAnnotation with
  | none => .ok container.image
  | some ispec => match env.imageSpecFromBase64 ispec with
    | .error err => .error s!"invalid iamge spec: {err}"
    | .ok spec => .ok spec.baseRef

/-- Only the owner is let in, unless the annotation says otherwise. -/
def admission (pod : Pod) : AdmissionLevel :=
  (admissionLevelValue (toUpper
    ((pod.annotations.lookup workspaceAdmissionAnnotation).getD ""))).getD .admitOwnerOnly

/-- The status before the phase is known. -/
def initialStatus (env : Env Stamp) (wso : WorkspaceObjects) (pod : Pod) (id image wsurl : String)
    (tpe : WorkspaceType) (timeout : String) : WorkspaceStatus Stamp where
  phase := .unknown
  message := ""
  conditions := ⟨"", "", .false, .false, none⟩
  id := id
  metadata := getWorkspaceMetadata env pod
  spec :=
    { headless := isWorkspaceHeadless wso
      workspaceImage := image
      url := wsurl
      type := tpe
      timeout := timeout }
  nodeName := pod.nodeName
  auth := ⟨admission pod, (pod.annotations.lookup ownerTokenAnnotation).getD ""⟩
  snapshot := (pod.annotations.lookup workspaceSnapshotAnnotation).getD ""

/-- The pod comes first, and the state second. -/
def extractStatus (env : Env Stamp) (wso : WorkspaceObjects) (pod : Pod)
    (status : WorkspaceStatus Stamp) : Except String (WorkspaceStatus Stamp) :=
  match Status.extractStatusFromPod env.format status.toWorkspaceStatus (statusObjects wso)
    pod.toPod with
  | .error err => .error s!"cannot get workspace status: {err}"
  | .ok read =>
      let status := { status with toWorkspaceStatus := read }
      match wso.plis with
      | none => .ok status
      | some cfg => match unmarshalPodLifecycleIndependentState env cfg with
        | .error err => .error s!"cannot get workspace status: {err}"
        | .ok plis => .ok (extractStatusFromPLIS status wso plis)

/-- A pod has to have a container for the workspace and to know its URL. What else is missing
    has a default. -/
def getWorkspaceStatusFromPod (env : Env Stamp) (regularWorkspace : Duration)
    (wso : WorkspaceObjects) (pod : Pod) (id : String) : Except String (WorkspaceStatus Stamp) :=
  match getContainer pod "workspace" with
  | none =>
      .error s!"workspace pod for {id} is degenerate - does not have workspace container"
  | some container => match pod.annotations.lookup workspaceURLAnnotation with
    | none => .error s!"pod {pod.name} has no {workspaceURLAnnotation} annotation"
    | some wsurl => match workspaceType wso with
      | .error err => .error err
      | .ok tpe => match workspaceImage env pod container with
        | .error err => .error err
        | .ok image => extractStatus env wso pod
            (initialStatus env wso pod id image wsurl tpe (timeoutText regularWorkspace pod))

/-- A port of the service as it is reported. A port that is its own target is reported without
    one. -/
def exposedPort (service : Ports.Service) (p : Ports.ServicePort) : PortSpec where
  port := UInt32.ofInt p.port
  target := if UInt32.ofInt p.port = UInt32.ofInt p.targetPort then 0
    else UInt32.ofInt p.targetPort
  visibility := portNameToVisibility p.name
  url := (service.annotations.lookup (portURLKey p.port)).getD ""

/-- What does not depend on how the status was computed. -/
def withServices (status : WorkspaceStatus Stamp) (wso : WorkspaceObjects) :
    WorkspaceStatus Stamp :=
  { status with
    spec := { status.spec with
      exposedPorts := match wso.portsService with
        | some service => service.ports.map (exposedPort service)
        | none => [] }
    serviceExists := if wso.theiaService.isSome ∨ wso.portsService.isSome then .true else .false
    deployed := if wso.pod.isNone then .false else .true }

/-- Without an ID, the message names the pod, which may be nil. -/
def getWorkspaceStatus (env : Env Stamp) (regularWorkspace : Duration) (wso : WorkspaceObjects) :
    Except Failure (WorkspaceStatus Stamp) :=
  match wso.workspaceID with
  | none => match wso.pod with
    | none => .error .panic
    | some pod => .error (.error s!"cannot get {workspaceIDAnnotation} annotation from {pod.name}")
  | some id =>
      let computed := match wso.pod with
        | none => getWorkspaceStatusFromPLIS env wso
        | some pod => getWorkspaceStatusFromPod env regularWorkspace wso pod id
      match computed with
      | .error err => .error (.error err)
      | .ok status => .ok (withServices status wso)

/-! ## The phase -/

variable {wso : WorkspaceObjects} {pod : Pod}

/-- Where there is a pod, the phase stays what it was. -/
theorem phase_extractStatusFromPLIS (hpod : wso.pod = some pod)
    (result : WorkspaceStatus Stamp) (plis : Option (PLIS Stamp)) :
    (extractStatusFromPLIS result wso plis).phase = result.phase := by
  unfold extractStatusFromPLIS
  rw [hpod]
  cases plis with
  | none => rfl
  | some plis =>
      cases wso.plis with
      | none => rfl
      | some cfg =>
          dsimp only [Option.isNone_some]
          split_ifs with _ hnone
          · cases hnone
          · rfl
          · rfl

/-- A status that is reported has the phase that was read off the pod. -/
theorem extractStatus_ok {env : Env Stamp} {initial status : WorkspaceStatus Stamp}
    (hpod : wso.pod = some pod) (h : extractStatus env wso pod initial = .ok status) :
    ∃ read, Status.extractStatusFromPod env.format initial.toWorkspaceStatus (statusObjects wso)
      pod.toPod = .ok read ∧ status.phase = read.phase := by
  unfold extractStatus at h
  split at h
  · cases h
  · next read hread =>
      refine ⟨read, hread, ?_⟩
      dsimp only at h
      cases hplis : wso.plis with
      | none =>
          rw [hplis] at h
          cases h
          rfl
      | some cfg =>
          rw [hplis] at h
          dsimp only at h
          split at h
          · cases h
          · cases h
            exact phase_extractStatusFromPLIS hpod _ _

theorem getWorkspaceStatusFromPod_ok {env : Env Stamp} {regularWorkspace : Duration} {id : String}
    {status : WorkspaceStatus Stamp}
    (h : getWorkspaceStatusFromPod env regularWorkspace wso pod id = .ok status) :
    ∃ initial, extractStatus env wso pod initial = .ok status := by
  unfold getWorkspaceStatusFromPod at h
  split at h
  · cases h
  · split at h
    · cases h
    · split at h
      · cases h
      · split at h
        · cases h
        · exact ⟨_, h⟩

/-- Nothing besides the pod has a say in the phase of a workspace that has one. -/
theorem phase_of_getWorkspaceStatus {env : Env Stamp} {regularWorkspace : Duration}
    {status : WorkspaceStatus Stamp} (hpod : wso.pod = some pod)
    (h : getWorkspaceStatus env regularWorkspace wso = .ok status) :
    ∃ result read, Status.extractStatusFromPod env.format result (statusObjects wso) pod.toPod =
      .ok read ∧ status.phase = read.phase := by
  unfold getWorkspaceStatus at h
  rw [hpod] at h
  split at h
  · cases h
  · dsimp only at h
    split at h
    · cases h
    · next computed hcomputed =>
        cases h
        rcases getWorkspaceStatusFromPod_ok hcomputed with ⟨initial, hinitial⟩
        rcases extractStatus_ok hpod hinitial with ⟨read, hread, hphase⟩
        exact ⟨_, read, hread, hphase⟩

/-- Times, states and images are not read. -/
def readsNothing : Env Unit where
  format := ⟨fun _ => .error "not a time", fun _ => .ok ()⟩
  unmarshal _ := .error "not a state"
  imageSpecFromBase64 _ := .error "not an image"

/-- A pod of a workspace that has a phase and nothing else that is of interest. -/
def podWithPhase (phase : Status.PodPhase) : Pod where
  annotations := (AList.insert workspaceIDAnnotation "id" ∅).insert workspaceURLAnnotation "url"
  labels := AList.insert typeLabel "regular" ∅
  deletionTimestamp := none
  status := ⟨phase, "", "", []⟩
  name := "ws-id"
  creationTimestamp := 0
  hostIP := ""
  nodeName := "node"
  containers := [⟨"workspace", "image"⟩]

end Report

end WsManager

end Nxpod
