import Mathlib.Data.List.Basic
import Mathlib.Tactic.Common
import Nxpod.WsManager.Dangling
import Nxpod.WsManager.Timeout

/-!
# The Workspace Monitor

The monitor watches the pods of the workspaces and the config maps with what outlives them, the
pod lifecycle independent state. When a pod stops, its last status goes into the state. When the
state changes and the pod is gone, the monitor has the content of the workspace finalized, and
once this was recorded, or took too long, it deletes the config map.

Nothing of this happens at once. A watch delivers any version that an object has had, and what a
handler has decided is done later, while other handlers, finalizers and the housekeeping go on.
What a handler decides is therefore a list of reactions, each of which is carried out in a step of
its own, in any order. Pods come, change and go as they like. A workspace ID is used for one
workspace only.

An update of a config map succeeds only if nobody else has changed it since it was read, so that
reading and storing it are one step. A call of the Kubernetes API that fails ends a handler
without effect.

The housekeeping lists the pods and the config maps at one instant. The monitor asks for them one
after the other, so that a state whose pod was deleted in between is not seen to be dangling here
before the next round. What is decided then is still done later, when the two may have changed.

That a workspace goes away in order is not said anywhere in the code. It follows from what each
handler looks at before it decides, and from what cannot be undone: a pod that is gone does not
come back, and a mark that says that the final backup is complete is never taken away. So the
invariant does not speak of what is the case now only, but of every version that a state has had,
as a handler may have seen any of them, and of every reaction that was decided on and is still to
be carried out (`Version`, `Sound`). A reaction is sound if carrying it out at any later time does
no harm, so the order in which reactions are carried out does not matter.

The step lemma `inv_step` has one case for each thing that can happen, and most of them are about
one function of the monitor: what it decides is sound, by a lemma named after it. `orderly_run` and
the two properties in it are then read off the invariant, step by step.

## Main definitions

* `Lookups`: What is found in the namespace.
* `completeWorkspaceObjects`: The objects of a workspace, from one of them.
* `Reaction`: What a handler has done about a workspace.
* `actOnPodEvent`, `actOnConfigMapEvent`: What is done about the status of a workspace.
* `markTimedoutWorkspaces`, `deleteDanglingPodLifecycleIndependentState`: The housekeeping.
* `Config`: How the states of workspaces are written and read, and the configured timeouts.
* `State`, `step`: The namespace, with the monitor at work in it.
* `Action`: What can happen.
* `Finished`: The state of a workspace that needs nothing any more.
* `Orderly`, `Recorded`: The order in which a workspace goes away, and what is kept of it.
* `Harmless`: The marks change neither the ID nor the state, and take no mark of a timeout away.
* `Inv`: What holds in every state of the monitor.

## Theorems

* `mem_onConfigMapEvent`: What a config map event leads to.
* `finalPart_finalized`: What a finalizer records here is what it records there.
* `inv_patchState`: Patching the state keeps the invariant.
* `inv_step`: What a step preserves.
* `orderly_run`: Every run is orderly.
-/

namespace Nxpod

namespace WsManager

namespace Monitor

open Transition Objects Report
open Finalize ( workspaceIDAnnotation)
open Patch (Mark PatchFunction addMark deleteMark prepare)
open Ports ( servicePrefixAnnotation getPortsServiceName)
open Status ( workspaceTimedOutAnnotation workspaceFailedBeforeStoppingAnnotation
  workspaceNeverReadyAnnotation)
open Timeout (isWorkspaceTimedOut)

deriving instance DecidableEq for Status.WorkspaceConditions, Status.WorkspaceStatus,
  Report.PortSpec, WorkspaceMetadata, WorkspaceSpec, Report.WorkspaceStatus, PLIS

/-! ## The objects of a workspace -/

/-- What is found in the namespace. -/
structure Lookups where
  pod : String → Option Pod
  plis : String → Option ConfigMap
  service : String → Option Ports.Service
  events : Pod → List Status.Event

/-- The annotation of the pod takes precedence. -/
def servicePrefix (wso : WorkspaceObjects) : String :=
  let ofPod := (wso.pod.bind Pod.servicePrefix).getD ""
  if ofPod = "" then (wso.plis.bind ConfigMap.servicePrefix).getD "" else ofPod

/-- Events are looked for only where there is a pod. -/
def findServices (look : Lookups) (wso : WorkspaceObjects) : WorkspaceObjects :=
  { wso with
    theiaService :=
      wso.theiaService.or (look.service (getTheiaServiceName (servicePrefix wso)))
    portsService :=
      wso.portsService.or (look.service (getPortsServiceName (servicePrefix wso)))
    events := match wso.pod with
      | some pod => if wso.events.isEmpty then look.events pod else wso.events
      | none => wso.events }

/-- The objects besides the pod that is known by now. -/
def findRemaining (look : Lookups) (wso : WorkspaceObjects) : Except String WorkspaceObjects :=
  if servicePrefix wso = "" then .error "completeWorkspaceObjects: no service prefix found"
  else match wso.plis, wso.pod with
    | none, some pod => match pod.id with
      | none => .error s!"cannot act on pod {pod.name}: has no {workspaceIDAnnotation} annotation"
      | some workspaceID => .ok { findServices look wso with plis := look.plis workspaceID }
    | _, _ => .ok (findServices look wso)

/-- From a pod or from a config map alone, its ID being the same in both, everything else that
    belongs to the workspace is looked up. -/
def completeWorkspaceObjects (look : Lookups) (wso : WorkspaceObjects) :
    Except String WorkspaceObjects :=
  match wso.pod, wso.plis with
  | none, none =>
      .error "completeWorkspaceObjects: need either pod or lifecycle independent state"
  | none, some plis => match plis.id with
    | none => .error s!"cannot find {workspaceIDAnnotation} annotation on {plis.name}"
    | some workspaceID => findRemaining look { wso with pod := look.pod workspaceID }
  | some _, _ => findRemaining look wso

/-! ## Reactions -/

variable {Stamp : Type}

/-- What a handler has done about a workspace. -/
inductive Reaction (Stamp : Type) where
  | markWorkspace (marks : List Mark)
  | stopWorkspace
  | initializeWorkspaceContent
  | waitForWorkspaceReady
  | listen
  | patchState (patch : Option (PatchFunction Stamp)) (marks : List Mark)
  | finalizeWorkspaceContent
  | deleteState (freed : List String)
  | deleteDangling

/-- What the stopping pod leaves in the state. -/
def stoppingPod [DecidableEq Stamp] (status : Report.WorkspaceStatus Stamp) (hostIP : String)
    (now : Int) : PatchFunction Stamp := fun plis =>
  ({ plis with
      lastPodStatus := some status
      hostIP := if hostIP ≠ "" then hostIP else plis.hostIP
      stoppingSince := some (plis.stoppingSince.getD now) },
    decide (plis.lastPodStatus ≠ some status) ||
      (decide (hostIP ≠ "") && decide (plis.hostIP ≠ hostIP)) || plis.stoppingSince.isNone)

/-- A workspace that has failed or timed out, and is not on its way out. -/
def failing (status : Report.WorkspaceStatus Stamp) : Bool :=
  (status.phase ≠ .stopping && status.phase ≠ .stopped) &&
    (status.conditions.failed ≠ "" || status.conditions.timeout ≠ "")

/-- What is decided from a pod and its status. A failure or a timeout comes first: such a
    workspace is stopped, whatever its phase, unless it is on its way out. -/
def actOnPodEvent [DecidableEq Stamp] (status : Report.WorkspaceStatus Stamp)
    (wso : WorkspaceObjects) (pod : Pod) (now : Int) : Except String (List (Reaction Stamp)) :=
  match pod.id with
  | none => .error s!"cannot act on pod {pod.name}: has no {workspaceIDAnnotation} annotation"
  | some _ =>
      if failing status then
        let marked := Status.has pod.annotations workspaceFailedBeforeStoppingAnnotation
        .ok ((if status.conditions.failed ≠ "" && !marked then
          [.markWorkspace [addMark workspaceFailedBeforeStoppingAnnotation "true"]] else []) ++
            [.stopWorkspace])
      else .ok (match status.phase with
        | .creating => [.initializeWorkspaceContent]
        | .initializing => if isWorkspaceHeadless wso then [] else [.waitForWorkspaceReady]
        | .running =>
            if isWorkspaceHeadless wso then [.listen]
            else [.markWorkspace [deleteMark Stop.traceIDAnnotation]]
        | .stopping => [.patchState (some (stoppingPod status pod.hostIP now))
            ((pod.annotations.lookup workspaceNeverReadyAnnotation).toList.map
              (addMark workspaceNeverReadyAnnotation))]
        | .unknown | .pending | .stopped | .interrupted => [])

/-- The pod of an event that says that it was deleted does not exist any more. -/
def onPodEvent [DecidableEq Stamp] (env : Env Stamp) (regularWorkspace : Duration)
    (look : Lookups) (pod : Pod) (deleted : Bool) (now : Int) :
    Except Failure (List (Reaction Stamp)) :=
  match completeWorkspaceObjects look { pod := some pod } with
  | .error err => .error (.error s!"cannot handle workspace event: getWorkspaceObjects: {err}")
  | .ok wso => match getWorkspaceStatus env regularWorkspace wso with
    | .error failure => .error (failure.wrap "cannot handle workspace event")
    | .ok status =>
        let status := if deleted then { status with deployed := .false } else status
        match actOnPodEvent status wso pod now with
        | .error err => .error (.error err)
        | .ok reactions => .ok reactions

/-- This is called only when there is no pod. -/
def actOnConfigMapEvent (status : Report.WorkspaceStatus Stamp) (wso : WorkspaceObjects)
    (cfgmap : ConfigMap) : List (Reaction Stamp) :=
  let doDelete := .deleteState
    ((wso.theiaService.map Ports.Service.name).toList ++
      (wso.portsService.map Ports.Service.name).toList)
  match status.phase with
  | .stopping =>
      if Status.has cfgmap.annotations workspaceTimedOutAnnotation then [doDelete]
      else [.finalizeWorkspaceContent]
  | .stopped => [doDelete]
  | .unknown | .pending | .creating | .initializing | .running | .interrupted => []

/-- An event of a state is of interest only where there is no pod any more. A config map that is
    being deleted is left alone. -/
def onConfigMapEvent (env : Env Stamp) (regularWorkspace : Duration) (look : Lookups)
    (cfgmap : ConfigMap) (deletionGracePeriodSeconds : Option Int) :
    Except Failure (List (Reaction Stamp)) :=
  if deletionGracePeriodSeconds.isSome then .ok []
  else match completeWorkspaceObjects look { plis := some cfgmap } with
    | .error err => .error (.error s!"cannot handle workspace event: {err}")
    | .ok wso =>
        if wso.pod.isSome then .ok []
        else match getWorkspaceStatus env regularWorkspace wso with
          | .error failure => .error (failure.wrap "cannot handle workspace event")
          | .ok status => .ok (actOnConfigMapEvent status wso cfgmap)

/-! ## Housekeeping -/

/-- The reason for which the workspace has timed out. An error is collected, and the workspace
    left alone. -/
def timedOutReason (env : Env Stamp) (parseDuration : String → Except String Duration)
    (m : Timeout.Manager) (now : Int) (wso : WorkspaceObjects) : Option String :=
  match isWorkspaceTimedOut env parseDuration m now wso with
  | .error _ => none
  | .ok reason => if reason = "" then none else some reason

/-- The pods come first, and then the config maps without a pod. -/
def markTimedoutWorkspaces (env : Env Stamp)
    (parseDuration : String → Except String Duration) (m : Timeout.Manager) (now : Int)
    (pods : List Pod) (allPlis : List ConfigMap) : List (String × Reaction Stamp) :=
  (pods.filterMap fun pod => match pod.id with
    | none => none
    | some workspaceID =>
        if Status.has pod.annotations workspaceTimedOutAnnotation then none
        else (timedOutReason env parseDuration m now { pod := some pod }).map fun reason =>
          (workspaceID, .markWorkspace [addMark workspaceTimedOutAnnotation reason])) ++
  allPlis.filterMap fun plis => match plis.id with
    | none => none
    | some workspaceID =>
        if workspaceID ∈ pods.filterMap Pod.id then none
        else (timedOutReason env parseDuration m now { plis := some plis }).map fun reason =>
          (workspaceID, .patchState none [addMark workspaceTimedOutAnnotation reason])

/-- How long a state may be without a pod. -/
def lonelyPLISSurvivalTime : Int := 60 * Duration.minute

/-- The state is too old to be without a pod. -/
def isTooOld (env : Env Stamp) (creationTimestamp now : Int) (cfgmap : ConfigMap) : Bool :=
  match unmarshalPodLifecycleIndependentState env cfgmap with
  | .error _ => false
  | .ok plis =>
      let referenceTime := (plis.bind PLIS.stoppingSince).getD creationTimestamp
      lonelyPLISSurvivalTime ≤ (Duration.sub now referenceTime).ns

/-- States that have no pod and are too old are deleted. The pods are those that were listed, and
    a workspace that is being started has its pod before its state. -/
def deleteDanglingPodLifecycleIndependentState (env : Env Stamp)
    (creationTimestamp : ConfigMap → Int) (now : Int) (pods : List Pod)
    (plisConfigmaps : List ConfigMap) : List (String × Reaction Stamp) :=
  plisConfigmaps.filterMap fun cfgmap =>
    match cfgmap.labels.lookup Dangling.workspaceIDLabel with
    | none => none
    | some workspaceID =>
        if workspaceID ∈ pods.filterMap (·.labels.lookup Dangling.workspaceIDLabel) then none
        else if isTooOld env (creationTimestamp cfgmap) now cfgmap then
          some (workspaceID, .deleteDangling)
        else none

/-! ## Finalizers -/

/-- What a finalizer records of a workspace whose content is backed up as a whole. -/
def fullBackup : PatchFunction Stamp := fun plis =>
  ({ plis with finalBackupComplete := true }, true)

/-- What a finalizer records in the end. -/
def finalized (dataloss : Bool) (backupError : Option String) : PatchFunction Stamp := fun plis =>
  ({ plis with
      finalBackupComplete := true
      finalBackupFailure := match backupError with
        | some text => if dataloss then text else plis.finalBackupFailure
        | none => plis.finalBackupFailure }, true)

/-- The part of the state that is all a finalizer knows of it. The Git status is left out
    here. -/
def finalPart (plis : PLIS Stamp) : Finalize.PLIS Unit where
  finalBackupComplete := plis.finalBackupComplete
  finalBackupFailure := plis.finalBackupFailure
  lastPodStatus := plis.lastPodStatus.map fun _ => none

/-- The finalizers were modelled on their own, over the part of the state that they know. What
    is recorded here is the same there. -/
theorem finalPart_finalized (dataloss : Bool) (backupError : Option String) (plis : PLIS Stamp) :
    finalPart (finalized dataloss backupError plis).1 =
      Finalize.patch dataloss backupError none (finalPart plis) := by
  simp only [finalized, finalPart, Finalize.patch]
  cases plis.lastPodStatus <;> rfl

/-! ## The namespace -/

/-- How the states of workspaces are written and read, and the configured timeouts. -/
structure Config (Stamp : Type) where
  env : Env Stamp
  marshal : PLIS Stamp → Except String String
  parseDuration : String → Except String Duration
  timeouts : Timeout.Timeouts
  creationTimestamp : ConfigMap → Int

/-- The pods, the config maps with the states and the services of the namespace. The workspaces
    that were started, the versions that states have had and the workspaces whose finalizers were
    started are the history. Of the workspaces in `creating` there is no state yet. -/
structure State (Stamp : Type) where
  pods : Map String Pod
  states : Map String ConfigMap
  services : Map String Ports.Service
  started : List String
  creating : List String
  versions : List (String × ConfigMap)
  reactions : List (String × Reaction Stamp)
  finalizing : List String

/-- An empty namespace, in which no workspace was started yet. -/
def newState : State Stamp where
  pods := ∅
  states := ∅
  services := ∅
  started := []
  creating := []
  versions := []
  reactions := []
  finalizing := []

/-- The ID of a workspace is in an annotation and in a label. -/
def IsPodOf (workspaceID : String) (pod : Pod) : Prop :=
  pod.id = some workspaceID ∧
    pod.labels.lookup Dangling.workspaceIDLabel = some workspaceID

instance (workspaceID : String) (pod : Pod) : Decidable (IsPodOf workspaceID pod) :=
  inferInstanceAs (Decidable (_ ∧ _))

/-- The config map that `StartWorkspace` creates. -/
def plisConfigMap (workspaceID servicePrefix : String) (labels : Map String String) :
    ConfigMap where
  name := s!"plis-{workspaceID}"
  labels := labels.insert Dangling.workspaceIDLabel workspaceID
  annotations := (AList.insert workspaceIDAnnotation workspaceID ∅).insert
    servicePrefixAnnotation servicePrefix

/-- What can happen. The first few are those of Kubernetes and of the clients, and the others
    are turns of the monitor: an event arrives, a reaction is carried out, the housekeeping
    runs, and a finalizer records what it has done. A version that an event delivers is any of
    those that there were. -/
inductive Action where
  | startPod (workspaceID : String) (pod : Pod)
  | createState (workspaceID servicePrefix : String) (labels : Map String String)
  | changePod (workspaceID : String) (pod : Pod)
  | removePod (workspaceID : String)
  | changeServices (services : Map String Ports.Service)
  | podEvent (workspaceID : String) (pod : Pod) (events : List Status.Event) (deleted : Bool)
      (now : Int)
  | configMapEvent (i : Nat) (deletionGracePeriodSeconds : Option Int)
  | stop (workspaceID traceID : String) (now gracePeriodSeconds : Int) (o : Stop.Outcomes)
  | houseKeep (activity : Map String Int) (now : Int)
  | react (i : Nat) (works : Bool)
  | recordFullBackup (workspaceID : String) (works : Bool)
  | recordFinalized (workspaceID : String) (dataloss : Bool) (backupError : Option String)
      (works : Bool)

namespace State

/-- Of a config map that is not there the client returns an empty one. -/
def lookups (s : State Stamp) (events : List Status.Event) : Lookups where
  pod := s.pods.lookup
  plis := fun id => some ((s.states.lookup id).getD ⟨⟨∅, ∅⟩, ""⟩)
  service := s.services.lookup
  events := fun _ => events

/-- Stores a version of the state of a workspace. -/
def store (s : State Stamp) (workspaceID : String) (cfg : ConfigMap) : State Stamp :=
  { s with
    states := s.states.insert workspaceID cfg
    versions := s.versions ++ [(workspaceID, cfg)] }

/-- A handler has decided. -/
def enqueue (s : State Stamp) (reactions : List (String × Reaction Stamp)) : State Stamp :=
  { s with reactions := s.reactions ++ reactions }

/-- A handler that fails has decided nothing. -/
def handled (s : State Stamp) (workspaceID : String)
    (decided : Except Failure (List (Reaction Stamp))) : State Stamp :=
  match decided with
  | .error _ => s
  | .ok reactions => s.enqueue (reactions.map (workspaceID, ·))

end State

/-- `patchPodLifecycleIndependentState`, which may fail. -/
def patchState (c : Config Stamp) (s : State Stamp) (workspaceID : String) (works : Bool)
    (patch : Option (PatchFunction Stamp)) (marks : List Mark) : State Stamp :=
  match s.states.lookup workspaceID with
  | none => s
  | some cfg => match prepare c.env c.marshal patch marks cfg with
    | .error _ => s
    | .ok (plisCfg, needsUpdate) =>
        if needsUpdate && works then s.store workspaceID plisCfg else s

/-- What concerns only the pod is among the things that happen to pods. -/
def carryOut (c : Config Stamp) (s : State Stamp) (workspaceID : String) (works : Bool) :
    Reaction Stamp → State Stamp
  | .patchState patch marks => patchState c s workspaceID works patch marks
  | .finalizeWorkspaceContent => { s with finalizing := workspaceID :: s.finalizing }
  | .deleteState _ | .deleteDangling =>
      if works then { s with states := s.states.erase workspaceID } else s
  | .markWorkspace _ | .stopWorkspace | .initializeWorkspaceContent | .waitForWorkspaceReady
  | .listen => s

/-- The patches among the calls of `stopWorkspace`. -/
def stopReactions (run : Stop.Run Stamp) : List (Reaction Stamp) :=
  run.calls.filterMap fun
    | .patchState patch marks => some (.patchState (some patch) marks)
    | .deleteService _ _ | .deletePod _ _ => none

/-- One round of the housekeeping, with what it lists at this moment. -/
def houseKeeping (c : Config Stamp) (s : State Stamp) (activity : Map String Int) (now : Int) :
    List (String × Reaction Stamp) :=
  let pods := Map.values s.pods
  let states := Map.values s.states
  markTimedoutWorkspaces c.env c.parseDuration ⟨c.timeouts, activity⟩ now pods states ++
    deleteDanglingPodLifecycleIndependentState c.env c.creationTimestamp now pods states

/-- A step of whoever is named in the action: the cluster, a handler that gets a version of an
    object, a reaction that is carried out, a finalizer, or the housekeeping. -/
def step [DecidableEq Stamp] (c : Config Stamp) (s : State Stamp) : Action → Option (State Stamp)
  | .startPod id pod =>
      if id ∉ s.started ∧ IsPodOf id pod then some { s with
        pods := s.pods.insert id pod
        started := id :: s.started
        creating := id :: s.creating }
      else none
  | .createState id servicePrefix labels =>
      if id ∈ s.creating then
        some { s.store id (plisConfigMap id servicePrefix labels) with
          creating := s.creating.filter (· ≠ id) }
      else none
  | .changePod id pod =>
      if (s.pods.lookup id).isSome ∧ IsPodOf id pod then
        some { s with pods := s.pods.insert id pod }
      else none
  | .removePod id => some { s with pods := s.pods.erase id }
  | .changeServices services => some { s with services := services }
  | .podEvent id pod events deleted now =>
      if id ∈ s.started ∧ IsPodOf id pod then
        some (s.handled id
          (onPodEvent c.env c.timeouts.regularWorkspace (s.lookups events) pod deleted now))
      else none
  | .configMapEvent i deletionGracePeriodSeconds => match s.versions[i]? with
    | none => none
    | some (id, cfg) => some (s.handled id
        (onConfigMapEvent c.env c.timeouts.regularWorkspace (s.lookups []) cfg
          deletionGracePeriodSeconds))
  | .stop id traceID now gracePeriodSeconds o => match s.pods.lookup id with
    | none => none
    | some pod => some (s.enqueue
        ((stopReactions (Stop.stopWorkspace c.env c.timeouts.regularWorkspace false (.ok pod)
          traceID now gracePeriodSeconds o)).map (id, ·)))
  | .houseKeep activity now => some (s.enqueue (houseKeeping c s activity now))
  | .react i works => match s.reactions[i]? with
    | none => none
    | some (id, reaction) =>
        some (carryOut c { s with reactions := s.reactions.eraseIdx i } id works reaction)
  | .recordFullBackup id works =>
      if id ∈ s.finalizing then some (patchState c s id works (some fullBackup) []) else none
  | .recordFinalized id dataloss backupError works =>
      if id ∈ s.finalizing then
        some (patchState c s id works (some (finalized dataloss backupError)) [])
      else none

/-! ## The order in which a workspace goes away -/

/-- The final backup is recorded as complete. -/
def complete (env : Env Stamp) (cfg : ConfigMap) : Bool :=
  match unmarshalPodLifecycleIndependentState env cfg with
  | .ok (some plis) => plis.finalBackupComplete
  | .ok none | .error _ => false

/-- The mark of a timeout, which is an annotation of the config map. -/
def timedOut (cfg : ConfigMap) : Bool :=
  Status.has cfg.annotations workspaceTimedOutAnnotation

/-- The content of the workspace is finalized, or that has taken too long. -/
def Finished (env : Env Stamp) (cfg : ConfigMap) : Prop :=
  complete env cfg = true ∨ timedOut cfg = true

/-- The pod has been there, and is gone for good. -/
def Gone (s : State Stamp) (workspaceID : String) : Prop :=
  workspaceID ∈ s.started ∧ s.pods.lookup workspaceID = none

/-- The content of a workspace is finalized once its pod is gone, and its state is deleted once
    this is finished, or by the housekeeping when the state has outlived the pod for long. -/
structure Orderly (c : Config Stamp) (s : State Stamp) (a : Action) (s' : State Stamp) :
    Prop where
  finalizes : ∀ id ∈ s'.finalizing, id ∉ s.finalizing → Gone s id
  deletes : ∀ id cfg, s.states.lookup id = some cfg → s'.states.lookup id = none →
    Gone s id ∧ (Finished c.env cfg ∨
      ∃ i, a = .react i true ∧ s.reactions[i]? = some (id, .deleteDangling))

/-- The final backup is recorded as complete only when the pod is gone, and neither this nor a
    timeout is forgotten while there is a state. -/
structure Recorded (c : Config Stamp) (s s' : State Stamp) : Prop where
  completes : ∀ id cfg, s'.states.lookup id = some cfg → complete c.env cfg = true → Gone s' id
  lasts : ∀ id cfg cfg', s.states.lookup id = some cfg → s'.states.lookup id = some cfg' →
    (complete c.env cfg = true → complete c.env cfg' = true) ∧
      (timedOut cfg = true → timedOut cfg' = true)

/-- What is written is read again as far as the monitor asks for it. -/
def ReadsBack (c : Config Stamp) : Prop :=
  ∀ plis raw, c.marshal plis = .ok raw → ∃ plis', c.env.unmarshal raw = .ok plis' ∧
    plis'.finalBackupComplete = plis.finalBackupComplete ∧
    plis'.lastPodStatus.map (·.phase) = plis.lastPodStatus.map (·.phase)

/-! ## Patching a state -/

/-- The last status of the pod is that of a stopping one. -/
def Stops (plis : PLIS Stamp) : Prop :=
  ∀ status ∈ plis.lastPodStatus, status.phase = .stopping

/-- The patch keeps this, and completes the final backup only where `P` holds. -/
def Keeps (P : Prop) (patch : Option (PatchFunction Stamp)) : Prop :=
  ∀ f ∈ patch, ∀ plis, (Stops plis → Stops (f plis).1) ∧
    ((f plis).1.finalBackupComplete = plis.finalBackupComplete ∨
      (f plis).1.finalBackupComplete = true ∧ P)

/-- The marks change neither the ID nor the state, and take no mark of a timeout away. -/
structure Harmless (marks : List Mark) : Prop where
  nodup : (marks.map Mark.name).Nodup
  id_not_mem : workspaceIDAnnotation ∉ marks.map Mark.name
  plis_not_mem : plisDataAnnotation ∉ marks.map Mark.name
  timedOut : ∀ a ∈ marks, a.delete = false

theorem harmless_nil : Harmless [] where
  nodup := List.nodup_nil
  id_not_mem := List.not_mem_nil
  plis_not_mem := List.not_mem_nil
  timedOut := fun _ ha => absurd ha List.not_mem_nil

/-- A mark does no harm unless it is written over the ID or the state. -/
theorem harmless_addMark {name : String} (value : String) (hid : workspaceIDAnnotation ≠ name)
    (hplis : plisDataAnnotation ≠ name) : Harmless [addMark name value] where
  nodup := List.nodup_singleton name
  id_not_mem := fun h => hid (List.mem_singleton.mp h)
  plis_not_mem := fun h => hplis (List.mem_singleton.mp h)
  timedOut := fun a ha => by rw [List.mem_singleton.mp ha]; rfl

/-- The text of the annotation is read, so what is recorded is what the text says. -/
theorem complete_eq_true_iff {env : Env Stamp} {cfg : ConfigMap} :
    complete env cfg = true ↔ ∃ plis, unmarshalPodLifecycleIndependentState env cfg =
      .ok (some plis) ∧ plis.finalBackupComplete = true := by
  unfold complete
  split
  · next plis hun =>
      constructor
      · exact fun h => ⟨plis, hun, h⟩
      · rintro ⟨plis', hun', h⟩
        cases hun.symm.trans hun'
        exact h
  · next hun =>
      constructor
      · exact fun h => absurd h Bool.false_ne_true
      · rintro ⟨plis', hun', -⟩
        cases hun.symm.trans hun'
  · next err hun =>
      constructor
      · exact fun h => absurd h Bool.false_ne_true
      · rintro ⟨plis', hun', -⟩
        cases hun.symm.trans hun'

/-- What a lookup in the annotations is read as. -/
theorem unmarshal_congr {env : Env Stamp} {cfg cfg' : ConfigMap}
    (h : cfg'.annotations.lookup plisDataAnnotation = cfg.annotations.lookup plisDataAnnotation) :
    unmarshalPodLifecycleIndependentState env cfg' =
      unmarshalPodLifecycleIndependentState env cfg := by
  rw [unmarshalPodLifecycleIndependentState, unmarshalPodLifecycleIndependentState, h]

variable {c : Config Stamp} {s s' : State Stamp} {id : String}
  {patch : Option (PatchFunction Stamp)} {marks : List Mark} {cfg plisCfg : ConfigMap}

/-- A patch goes from the state that is read to one that is read as what it has written. -/
theorem unmarshal_of_prepare (hreads : ReadsBack c) (hmarks : Harmless marks)
    {needsUpdate : Bool}
    (h : prepare c.env c.marshal patch marks cfg = .ok (plisCfg, needsUpdate)) :
    (patch = none ∧ unmarshalPodLifecycleIndependentState c.env plisCfg =
      unmarshalPodLifecycleIndependentState c.env cfg) ∨
    ∃ f plis plis', patch = some f ∧
      unmarshalPodLifecycleIndependentState c.env cfg = .ok plis ∧
      unmarshalPodLifecycleIndependentState c.env plisCfg = .ok (some plis') ∧
      plis'.finalBackupComplete = (f (plis.getD {})).1.finalBackupComplete ∧
      plis'.lastPodStatus.map (·.phase) = (f (plis.getD {})).1.lastPodStatus.map (·.phase) := by
  rcases Patch.prepare_spec hmarks.nodup h with ⟨-, -, hstate, hothers, -, -⟩
  cases patch with
  | none =>
      refine .inl ⟨rfl, unmarshal_congr (hothers _ hmarks.plis_not_mem ?_)⟩
      exact fun hsome => absurd hsome Bool.false_ne_true
  | some f =>
      refine .inr ?_
      -- the state that was found can be read, or the patch would have failed
      have hread : ∃ plis, unmarshalPodLifecycleIndependentState c.env cfg = .ok plis ∧
          Patch.readState c.env (cfg.annotations.lookup plisDataAnnotation) =
            .ok (plis.getD {}) := by
        rcases Patch.unmarshal_getD c.env cfg with ⟨err, hun, -⟩ | hok
        · rw [Patch.prepare, Patch.patchState, hun] at h
          cases h
        · exact hok
      rcases hread with ⟨plis, hun, hread⟩
      rcases hstate hmarks.plis_not_mem _ ⟨f, rfl, _, hread, rfl⟩ with ⟨raw, hraw, hmarshal⟩
      rcases hreads _ raw hmarshal with ⟨plis', hun', hcomplete, hphase⟩
      refine ⟨f, plis, plis', rfl, hun, ?_, hcomplete, hphase⟩
      rw [unmarshalPodLifecycleIndependentState, hraw]
      dsimp only
      rw [hun']

/-- Only the phase of the last status matters, so patches of the rest keep this. -/
theorem stops_of_phase {plis plis' : PLIS Stamp}
    (h : plis'.lastPodStatus.map (·.phase) = plis.lastPodStatus.map (·.phase))
    (hplis : Stops plis) : Stops plis' := by
  intro status hstatus
  rw [Option.mem_def.mp hstatus, Option.map_some] at h
  cases hlast : plis.lastPodStatus with
  | none =>
      rw [hlast] at h
      cases h
  | some status' =>
      rw [hlast, Option.map_some, Option.some.injEq] at h
      rw [h]
      exact hplis status' hlast

/-- What is stored after a patch, in terms of what was there before. -/
theorem prepare_keeps (hreads : ReadsBack c) (hmarks : Harmless marks) {P : Prop}
    (hkeeps : Keeps P patch) {needsUpdate : Bool}
    (h : prepare c.env c.marshal patch marks cfg = .ok (plisCfg, needsUpdate))
    (hstops : ∀ plis, unmarshalPodLifecycleIndependentState c.env cfg = .ok (some plis) →
      Stops plis) :
    (∀ plis, unmarshalPodLifecycleIndependentState c.env plisCfg = .ok (some plis) →
      Stops plis) ∧
    (complete c.env cfg = true → complete c.env plisCfg = true) ∧
    (complete c.env plisCfg = true → complete c.env cfg = true ∨ P) := by
  rcases unmarshal_of_prepare hreads hmarks h with
    ⟨-, hsame⟩ | ⟨f, plis, plis', hf, hun, hun', hcomplete, hphase⟩
  · rw [complete_eq_true_iff, complete_eq_true_iff, hsame]
    exact ⟨hstops, fun h => h, .inl⟩
  · have hbefore : Stops (plis.getD {}) := by
      cases plis with
      | none => exact fun _ hstatus => absurd hstatus (Option.not_mem_none _)
      | some plis => exact hstops plis hun
    rcases hkeeps f hf (plis.getD {}) with ⟨hkept, hbackup⟩
    refine ⟨fun plis'' hplis'' => ?_, fun hold => ?_, fun hnew => ?_⟩
    · cases hun'.symm.trans hplis''
      exact stops_of_phase hphase (hkept hbefore)
    · rcases complete_eq_true_iff.mp hold with ⟨old, hold, hdone⟩
      cases hun.symm.trans hold
      refine complete_eq_true_iff.mpr ⟨plis', hun', hcomplete.trans ?_⟩
      rcases hbackup with hsame | ⟨htrue, -⟩
      · exact hsame.trans hdone
      · exact htrue
    · rcases complete_eq_true_iff.mp hnew with ⟨new, hnew, hdone⟩
      cases hun'.symm.trans hnew
      rcases hbackup with hsame | ⟨-, hP⟩
      · refine .inl ?_
        cases plis with
        | none =>
            -- a state that is not there has no backup
            cases (hcomplete.symm.trans hdone).symm.trans hsame
        | some plis =>
            have hbackup := hsame.symm.trans (hcomplete.symm.trans hdone)
            exact complete_eq_true_iff.mpr ⟨plis, hun, hbackup⟩
      · exact .inr hP

theorem timedOut_of_prepare (hmarks : Harmless marks) {needsUpdate : Bool}
    (h : prepare c.env c.marshal patch marks cfg = .ok (plisCfg, needsUpdate))
    (hcfg : timedOut cfg = true) : timedOut plisCfg = true := by
  rcases Patch.prepare_spec hmarks.nodup h with ⟨-, hadded, -, hothers, -, -⟩
  by_cases hmem : workspaceTimedOutAnnotation ∈ marks.map Mark.name
  · rcases List.mem_map.mp hmem with ⟨a, ha, hname⟩
    have htext := hadded a ha
    rw [hname, Patch.Mark.text, hmarks.timedOut a ha] at htext
    rw [timedOut, Status.has, htext]
    rfl
  · rw [timedOut, Status.has, hothers _ hmem (fun _ => by decide)]
    exact hcfg

/-! ## The invariant -/

/-- What is known of a version that the state of a workspace has had. -/
structure Version (c : Config Stamp) (s : State Stamp) (id : String) (cfg : ConfigMap) :
    Prop where
  started : id ∈ s.started
  created : id ∉ s.creating
  id_eq : cfg.id = some id
  label : cfg.labels.lookup Dangling.workspaceIDLabel = some id
  stops : ∀ plis, unmarshalPodLifecycleIndependentState c.env cfg = .ok (some plis) → Stops plis
  gone : complete c.env cfg = true → Gone s id
  lasts : ∀ cur, s.states.lookup id = some cur →
    (complete c.env cfg = true → complete c.env cur = true) ∧
      (timedOut cfg = true → timedOut cur = true)

/-- What a handler may have decided. -/
def Sound (c : Config Stamp) (s : State Stamp) (id : String) : Reaction Stamp → Prop
  | .patchState patch marks => Keeps False patch ∧ Harmless marks
  | .finalizeWorkspaceContent => Gone s id
  | .deleteState _ => Gone s id ∧ ∃ cfg, (id, cfg) ∈ s.versions ∧ Finished c.env cfg
  | .deleteDangling => Gone s id
  | .markWorkspace _ | .stopWorkspace | .initializeWorkspaceContent | .waitForWorkspaceReady
  | .listen => True

/-- What holds in every state of the monitor: of all the versions that states have had, of all
    the reactions that are still to be carried out, of what is stored at present, and of the
    workspaces that are being created. -/
structure Inv (c : Config Stamp) (s : State Stamp) : Prop where
  pods : ∀ id pod, s.pods.lookup id = some pod → id ∈ s.started ∧ IsPodOf id pod
  creating : ∀ id ∈ s.creating, id ∈ s.started
  states : ∀ id cfg, s.states.lookup id = some cfg → (id, cfg) ∈ s.versions
  versions : ∀ v ∈ s.versions, Version c s v.1 v.2
  reactions : ∀ r ∈ s.reactions, Sound c s r.1 r.2
  finalizing : ∀ id ∈ s.finalizing, Gone s id

theorem inv_newState (c : Config Stamp) : Inv c newState where
  pods := fun id pod h => by cases h
  creating := fun id hid => absurd hid List.not_mem_nil
  states := fun id cfg h => by cases h
  versions := fun v hv => absurd hv List.not_mem_nil
  reactions := fun r hr => absurd hr List.not_mem_nil
  finalizing := fun id hid => absurd hid List.not_mem_nil

/-- What was sound once stays sound. A pod that is gone does not come back, and versions only
    become more. -/
theorem sound_mono {r : Reaction Stamp} (hgone : Gone s id → Gone s' id)
    (hversions : ∀ cfg, (id, cfg) ∈ s.versions → (id, cfg) ∈ s'.versions)
    (h : Sound c s id r) : Sound c s' id r := by
  cases r with
  | deleteState freed =>
      rcases h with ⟨hg, cfg, hcfg, hfinished⟩
      exact ⟨hgone hg, cfg, hversions cfg hcfg, hfinished⟩
  | finalizeWorkspaceContent => exact hgone h
  | deleteDangling => exact hgone h
  | patchState patch marks => exact h
  | markWorkspace marks => trivial
  | stopWorkspace => trivial
  | initializeWorkspaceContent => trivial
  | waitForWorkspaceReady => trivial
  | listen => trivial

theorem Version.mono (h : Version c s id cfg) (hstarted : id ∈ s'.started)
    (hcreated : id ∉ s'.creating) (hgone : Gone s id → Gone s' id)
    (hlasts : ∀ cur, s'.states.lookup id = some cur →
      (complete c.env cfg = true → complete c.env cur = true) ∧
        (timedOut cfg = true → timedOut cur = true)) : Version c s' id cfg where
  started := hstarted
  created := hcreated
  id_eq := h.id_eq
  label := h.label
  stops := h.stops
  gone := fun hcomplete => hgone (h.gone hcomplete)
  lasts := hlasts

/-- What happens to pods and services leaves the rest as it is, and brings no pod back. -/
theorem inv_environment (hs : Inv c s) {pods : Map String Pod} {started creating : List String}
    {services : Map String Ports.Service}
    (hpods : ∀ id pod, pods.lookup id = some pod → id ∈ started ∧ IsPodOf id pod)
    (hstarted : ∀ id ∈ s.started, id ∈ started) (hcreating : ∀ id ∈ creating, id ∈ started)
    (hnew : ∀ id ∈ s.started, id ∈ creating → id ∈ s.creating)
    (hgone : ∀ id, Gone s id → pods.lookup id = none) :
    Inv c { s with
      pods := pods, started := started, creating := creating, services := services } := by
  have hgone' : ∀ id, Gone s id → Gone { s with
      pods := pods, started := started, creating := creating, services := services } id :=
    fun id hg => ⟨hstarted id hg.1, hgone id hg⟩
  exact
    { pods := hpods
      creating := hcreating
      states := hs.states
      versions := fun v hv =>
        have hversion := hs.versions v hv
        hversion.mono (hstarted _ hversion.started)
          (fun h => hversion.created (hnew _ hversion.started h)) (hgone' v.1) hversion.lasts
      reactions := fun r hr =>
        sound_mono (hgone' r.1) (fun _ h => h) (hs.reactions r hr)
      finalizing := fun id hid => hgone' id (hs.finalizing id hid) }

/-- Deciding something changes nothing but what is to be done. -/
theorem inv_enqueue (hs : Inv c s) {rs : List (String × Reaction Stamp)}
    (hrs : ∀ r ∈ rs, Sound c s r.1 r.2) : Inv c (s.enqueue rs) where
  pods := hs.pods
  creating := hs.creating
  states := hs.states
  versions := fun v hv =>
    have hversion := hs.versions v hv
    hversion.mono hversion.started hversion.created (fun h => h) hversion.lasts
  reactions := fun r hr => by
    rcases List.mem_append.mp hr with hr | hr
    · exact sound_mono (fun h => h) (fun _ h => h) (hs.reactions r hr)
    · exact sound_mono (fun h => h) (fun _ h => h) (hrs r hr)
  finalizing := hs.finalizing

/-- What a handler has decided is added to what is to be carried out, so it has to be sound. -/
theorem inv_handled (hs : Inv c s) {decided : Except Failure (List (Reaction Stamp))}
    (h : ∀ rs, decided = .ok rs → ∀ r ∈ rs, Sound c s id r) : Inv c (s.handled id decided) := by
  unfold State.handled
  cases decided with
  | error failure => exact hs
  | ok rs =>
      refine inv_enqueue hs fun r hr => ?_
      rcases List.mem_map.mp hr with ⟨reaction, hreaction, rfl⟩
      exact h rs rfl reaction hreaction

/-- Storing a version that says no less than those before it. -/
theorem inv_store (hs : Inv c s) {creating : List String}
    (hsub : ∀ id' ∈ creating, id' ∈ s.creating) (hstarted : id ∈ s.started)
    (hcreated : id ∉ creating) (hid : cfg.id = some id)
    (hlabel : cfg.labels.lookup Dangling.workspaceIDLabel = some id)
    (hstops : ∀ plis, unmarshalPodLifecycleIndependentState c.env cfg = .ok (some plis) →
      Stops plis)
    (hgone : complete c.env cfg = true → Gone s id)
    (hlasts : ∀ old, (id, old) ∈ s.versions →
      (complete c.env old = true → complete c.env cfg = true) ∧
        (timedOut old = true → timedOut cfg = true)) :
    Inv c { s.store id cfg with creating := creating } where
  pods := hs.pods
  creating := fun id' hid' => hs.creating id' (hsub id' hid')
  states := fun id' cfg' h => by
    rw [State.store, Map.lookup_insert_eq_ite] at h
    split_ifs at h with heq
    · rw [heq, ← Option.some.inj h]
      exact List.mem_append_right _ (List.mem_singleton_self _)
    · exact List.mem_append_left _ (hs.states id' cfg' h)
  versions := fun v hv => by
    rcases List.mem_append.mp hv with hv | hv
    · have hversion := hs.versions v hv
      refine hversion.mono hversion.started (fun h => hversion.created (hsub _ h)) (fun h => h)
        fun cur hcur => ?_
      rw [State.store, Map.lookup_insert_eq_ite] at hcur
      split_ifs at hcur with heq
      · cases Option.some.inj hcur
        exact hlasts v.2 (heq ▸ hv)
      · exact hversion.lasts cur hcur
    · cases List.mem_singleton.mp hv
      refine ⟨hstarted, hcreated, hid, hlabel, hstops, hgone, fun cur hcur => ?_⟩
      rw [State.store, Map.lookup_insert_eq_ite, if_pos rfl] at hcur
      cases Option.some.inj hcur
      exact ⟨fun h => h, fun h => h⟩
  reactions := fun r hr =>
    sound_mono (s := s) (fun h => h) (fun _ h => List.mem_append_left _ h) (hs.reactions r hr)
  finalizing := hs.finalizing

/-- Patching keeps the invariant, and the final backup is completed once the pod is gone. -/
theorem inv_patchState (hreads : ReadsBack c) (hs : Inv c s) {P : Prop} (works : Bool)
    (hkeeps : Keeps P patch) (hmarks : Harmless marks) (hP : P → Gone s id) :
    Inv c (patchState c s id works patch marks) := by
  unfold patchState
  cases hlookup : s.states.lookup id with
  | none => exact hs
  | some cfg =>
      dsimp only
      cases hprepare : prepare c.env c.marshal patch marks cfg with
      | error failure => exact hs
      | ok prepared =>
          obtain ⟨plisCfg, needsUpdate⟩ := prepared
          dsimp only
          split_ifs
          · have hversion := hs.versions _ (hs.states id cfg hlookup)
            rcases Patch.prepare_spec hmarks.nodup hprepare with ⟨-, -, -, hothers, -, hlabels⟩
            rcases prepare_keeps hreads hmarks hkeeps hprepare hversion.stops with
              ⟨hstops, hcomplete, hcompletes⟩
            have hid : plisCfg.id = cfg.id := hothers _ hmarks.id_not_mem fun _ => by decide
            refine inv_store hs (fun _ h => h) hversion.started hversion.created
              (hid.trans hversion.id_eq) (hlabels ▸ hversion.label) hstops (fun h => ?_)
              fun old hold => ?_
            · rcases hcompletes h with h | h
              · exact hversion.gone h
              · exact hP h
            · rcases (hs.versions _ hold).lasts cfg hlookup with ⟨hc, ht⟩
              exact ⟨fun h => hcomplete (hc h),
                fun h => timedOut_of_prepare hmarks hprepare (ht h)⟩
          · exact hs

/-! ## What handlers decide -/

variable {r : Reaction Stamp} {rs : List (Reaction Stamp)}

/-- Looking up the rest leaves alone what was there already. -/
theorem findRemaining_ok {look : Lookups} {wso wso' : WorkspaceObjects}
    (h : findRemaining look wso = .ok wso') :
    wso'.pod = wso.pod ∧ ∀ cfg, wso.plis = some cfg → wso'.plis = some cfg := by
  unfold findRemaining at h
  split at h
  · cases h
  · cases hplis : wso.plis with
    | some cfg =>
        rw [hplis] at h
        cases h
        exact ⟨rfl, fun cfg' hcfg' => hplis.trans hcfg'⟩
    | none =>
        refine ⟨?_, fun cfg' hcfg' => by cases hcfg'⟩
        rw [hplis] at h
        cases hpod : wso.pod with
        | none =>
            rw [hpod] at h
            cases h
            exact hpod
        | some pod =>
            rw [hpod] at h
            dsimp only at h
            cases hid : pod.id with
            | none =>
                rw [hid] at h
                cases h
            | some workspaceID =>
                rw [hid] at h
                cases h
                exact hpod

/-- The phase that the state alone tells of a workspace is not that of a pod, which is gone, but
    what the recorded backup says. -/
theorem phase_of_extract {wso : WorkspaceObjects} (hpod : wso.pod = none)
    (hplis : wso.plis = some cfg) (result : Report.WorkspaceStatus Stamp) (plis : PLIS Stamp) :
    (extractStatusFromPLIS result wso (some plis)).phase =
      if plis.finalBackupComplete then .stopped else result.phase := by
  unfold extractStatusFromPLIS
  rw [hplis, hpod]
  dsimp only
  cases plis.finalBackupComplete with
  | false => rfl
  | true => rfl

/-- Without a pod, the phase is stopped once the final backup is complete. -/
theorem phase_of_no_pod {env : Env Stamp} {regularWorkspace : Duration} {wso : WorkspaceObjects}
    {status : Report.WorkspaceStatus Stamp} (hpod : wso.pod = none) (hplis : wso.plis = some cfg)
    (hstops : ∀ plis, unmarshalPodLifecycleIndependentState env cfg = .ok (some plis) →
      Stops plis)
    (h : getWorkspaceStatus env regularWorkspace wso = .ok status) :
    status.phase = if complete env cfg then .stopped else .stopping := by
  unfold getWorkspaceStatus at h
  rw [hpod] at h
  dsimp only at h
  split at h
  · cases h
  · next workspaceID _ =>
      cases hread : getWorkspaceStatusFromPLIS env wso with
      | error err =>
          rw [hread] at h
          cases h
      | ok read =>
          rw [hread] at h
          cases h
          unfold getWorkspaceStatusFromPLIS at hread
          rw [hplis] at hread
          dsimp only at hread
          cases hun : unmarshalPodLifecycleIndependentState env cfg with
          | error err =>
              rw [hun] at hread
              cases hread
          | ok found => match found with
            | none =>
                rw [hun] at hread
                cases hread
            | some plis =>
                rw [hun] at hread
                dsimp only at hread
                cases hlast : plis.lastPodStatus with
                | none =>
                    rw [hlast] at hread
                    cases hread
                | some last =>
                    rw [hlast] at hread
                    cases hread
                    have hphase : last.phase = .stopping := hstops plis hun last hlast
                    rw [complete, hun, withServices, phase_of_extract hpod hplis, hphase]

/-- An event of the state has the content finalized or the state deleted, and does neither while
    there is a pod. -/
theorem mem_onConfigMapEvent {env : Env Stamp} {regularWorkspace : Duration} {look : Lookups}
    {deletionGracePeriodSeconds : Option Int} (hid : cfg.id = some id)
    (hstops : ∀ plis, unmarshalPodLifecycleIndependentState env cfg = .ok (some plis) →
      Stops plis)
    (h : onConfigMapEvent env regularWorkspace look cfg deletionGracePeriodSeconds = .ok rs)
    (hr : r ∈ rs) :
    look.pod id = none ∧ (r = .finalizeWorkspaceContent ∨
      ∃ freed, r = .deleteState freed ∧ Finished env cfg) := by
  unfold onConfigMapEvent at h
  split at h
  · cases h
    exact absurd hr List.not_mem_nil
  · unfold completeWorkspaceObjects at h
    dsimp only at h
    rw [hid] at h
    dsimp only at h
    cases hfound : findRemaining look { pod := look.pod id, plis := some cfg } with
    | error err =>
        rw [hfound] at h
        cases h
    | ok wso =>
        rw [hfound] at h
        dsimp only at h
        rcases findRemaining_ok hfound with ⟨hpod, hplis⟩
        split at h
        · cases h
          exact absurd hr List.not_mem_nil
        · next hnone =>
            rw [Option.not_isSome_iff_eq_none] at hnone
            cases hstatus : getWorkspaceStatus env regularWorkspace wso with
            | error failure =>
                rw [hstatus] at h
                cases h
            | ok status =>
                rw [hstatus] at h
                cases h
                refine ⟨hpod.symm.trans hnone, ?_⟩
                have hphase := phase_of_no_pod hnone (hplis cfg rfl) hstops hstatus
                unfold actOnConfigMapEvent at hr
                rw [hphase] at hr
                cases hcomplete : complete env cfg with
                | true =>
                    rw [hcomplete] at hr
                    exact .inr ⟨_, List.mem_singleton.mp hr, .inl hcomplete⟩
                | false =>
                    rw [hcomplete] at hr
                    simp only [Bool.false_eq_true, if_false] at hr
                    split at hr
                    · next hmarked => exact .inr ⟨_, List.mem_singleton.mp hr, .inr hmarked⟩
                    · exact .inl (List.mem_singleton.mp hr)

/-- The last status of a stopping pod does not say anything about the final backup. -/
theorem keeps_stoppingPod [DecidableEq Stamp] {status : Report.WorkspaceStatus Stamp}
    (hphase : status.phase = .stopping) (hostIP : String) (now : Int) :
    Keeps False (some (stoppingPod status hostIP now)) := by
  intro f hf plis
  cases hf
  refine ⟨fun _ last hlast => ?_, .inl rfl⟩
  cases hlast
  exact hphase

/-- The patch for a pod that stops says nothing of the backup. -/
theorem keeps_stoppingPatch (status : Report.WorkspaceStatus Stamp) (pod : Pod) (t : Int) :
    Keeps False (some (Stop.stoppingPatch status pod t)) := by
  intro f hf plis
  cases hf
  refine ⟨fun _ last hlast => ?_, .inl rfl⟩
  cases hlast
  rfl

theorem keeps_none (P : Prop) : Keeps P (none : Option (PatchFunction Stamp)) :=
  fun _ hf => absurd hf (Option.not_mem_none _)

/-- A finalizer, on the other hand, completes the final backup, and has to have a reason for it. -/
theorem keeps_fullBackup {P : Prop} (hP : P) :
    Keeps P (some (fullBackup : PatchFunction Stamp)) := by
  intro f hf plis
  cases hf
  exact ⟨fun hstops => hstops, .inr ⟨rfl, hP⟩⟩

/-- A finalizer says that the backup is complete, if it has a reason. -/
theorem keeps_finalized {P : Prop} (hP : P) (dataloss : Bool) (backupError : Option String) :
    Keeps P (some (finalized dataloss backupError : PatchFunction Stamp)) := by
  intro f hf plis
  cases hf
  exact ⟨fun hstops => hstops, .inr ⟨rfl, hP⟩⟩

/-- Whatever is decided because of a pod's event may be done later: it patches the state without
    completing the final backup, or concerns the pod alone. -/
theorem sound_actOnPodEvent [DecidableEq Stamp] {status : Report.WorkspaceStatus Stamp}
    {wso : WorkspaceObjects} {pod : Pod} {now : Int}
    (h : actOnPodEvent status wso pod now = .ok rs) (hr : r ∈ rs) : Sound c s id r := by
  unfold actOnPodEvent at h
  split at h
  · cases h
  · split at h
    · cases h
      rcases List.mem_append.mp hr with hr | hr
      · split at hr
        · rw [List.mem_singleton.mp hr]
          trivial
        · exact absurd hr List.not_mem_nil
      · rw [List.mem_singleton.mp hr]
        trivial
    · cases h
      cases hphase : status.phase with
      | stopping =>
          rw [hphase] at hr
          rw [List.mem_singleton.mp hr]
          refine ⟨keeps_stoppingPod hphase pod.hostIP now, ?_⟩
          cases pod.annotations.lookup workspaceNeverReadyAnnotation with
          | none => exact harmless_nil
          | some v => exact harmless_addMark v (by decide) (by decide)
      | initializing =>
          rw [hphase] at hr
          dsimp only at hr
          split at hr
          · exact absurd hr List.not_mem_nil
          · rw [List.mem_singleton.mp hr]
            trivial
      | running =>
          rw [hphase] at hr
          dsimp only at hr
          split at hr
          · rw [List.mem_singleton.mp hr]
            trivial
          · rw [List.mem_singleton.mp hr]
            trivial
      | creating =>
          rw [hphase] at hr
          rw [List.mem_singleton.mp hr]
          trivial
      | unknown =>
          rw [hphase] at hr
          exact absurd hr List.not_mem_nil
      | pending =>
          rw [hphase] at hr
          exact absurd hr List.not_mem_nil
      | stopped =>
          rw [hphase] at hr
          exact absurd hr List.not_mem_nil
      | interrupted =>
          rw [hphase] at hr
          exact absurd hr List.not_mem_nil

/-- An event that comes late tells of a pod that may not exist any more, which makes no
    difference for what is decided. -/
theorem sound_onPodEvent [DecidableEq Stamp] {env : Env Stamp} {regularWorkspace : Duration}
    {look : Lookups} {pod : Pod} {deleted : Bool} {now : Int}
    (h : onPodEvent env regularWorkspace look pod deleted now = .ok rs) (hr : r ∈ rs) :
    Sound c s id r := by
  unfold onPodEvent at h
  cases hwso : completeWorkspaceObjects look { pod := some pod } with
  | error err =>
      rw [hwso] at h
      cases h
  | ok wso =>
      rw [hwso] at h
      dsimp only at h
      cases hstatus : getWorkspaceStatus env regularWorkspace wso with
      | error failure =>
          rw [hstatus] at h
          cases h
      | ok status =>
          rw [hstatus] at h
          dsimp only at h
          generalize (if deleted then { status with deployed := .false } else status) = status at h
          cases hacted : actOnPodEvent status wso pod now with
          | error err =>
              rw [hacted] at h
              cases h
          | ok reactions =>
              rw [hacted] at h
              cases h
              exact sound_actOnPodEvent hacted hr

theorem sound_stopReactions {env : Env Stamp} {regularWorkspace : Duration} {pod : Pod}
    {traceID : String} {now gracePeriodSeconds : Int} {o : Stop.Outcomes}
    (hr : r ∈ stopReactions (Stop.stopWorkspace env regularWorkspace false (.ok pod) traceID now
      gracePeriodSeconds o)) : Sound c s id r := by
  have hpatch : ∀ status : Report.WorkspaceStatus Stamp, Sound c s id
      (.patchState (some (Stop.stoppingPatch status pod now))
        [addMark Stop.traceIDAnnotation traceID]) := fun status =>
    ⟨keeps_stoppingPatch status pod now, harmless_addMark traceID (by decide) (by decide)⟩
  rcases List.mem_filterMap.mp hr with ⟨call, hcall, heq⟩
  unfold Stop.stopWorkspace at hcall
  simp only [Bool.false_eq_true, if_false] at hcall
  cases hstatus : getWorkspaceStatus env regularWorkspace { pod := some pod } with
  | error failure =>
      rw [hstatus] at hcall
      exact absurd hcall List.not_mem_nil
  | ok status =>
      rw [hstatus] at hcall
      dsimp only at hcall
      unfold Stop.stopWithStatus at hcall
      split at hcall
      · exact absurd hcall List.not_mem_nil
      · cases hservice : pod.servicePrefix with
        | none =>
            rw [hservice] at hcall
            rw [List.mem_singleton.mp hcall] at heq
            cases heq
            exact hpatch status
        | some servicePrefix =>
            rw [hservice] at hcall
            rcases List.mem_cons.mp hcall with rfl | hcall
            · cases heq
              exact hpatch status
            · -- the rest are deletions
              rcases List.mem_cons.mp hcall with rfl | hcall
              · cases heq
              · rcases List.mem_cons.mp hcall with rfl | hcall
                · cases heq
                · rw [List.mem_singleton.mp hcall] at heq
                  cases heq

theorem sound_markTimedoutWorkspaces {env : Env Stamp}
    {parseDuration : String → Except String Duration} {m : Timeout.Manager} {now : Int}
    {pods : List Pod} {allPlis : List ConfigMap} {reaction : String × Reaction Stamp}
    (h : reaction ∈ markTimedoutWorkspaces env parseDuration m now pods allPlis) :
    Sound c s reaction.1 reaction.2 := by
  rcases List.mem_append.mp h with h | h
  · rcases List.mem_filterMap.mp h with ⟨pod, -, heq⟩
    split at heq
    · cases heq
    · split at heq
      · cases heq
      · rcases Option.map_eq_some_iff.mp heq with ⟨reason, -, rfl⟩
        trivial
  · rcases List.mem_filterMap.mp h with ⟨plis, -, heq⟩
    split at heq
    · cases heq
    · split at heq
      · cases heq
      · rcases Option.map_eq_some_iff.mp heq with ⟨reason, -, rfl⟩
        exact ⟨keeps_none False, harmless_addMark reason (by decide) (by decide)⟩

/-- A state without a pod has outlived it, since the pod was there first. -/
theorem sound_deleteDangling (hs : Inv c s) {now : Int} {reaction : String × Reaction Stamp}
    (h : reaction ∈ deleteDanglingPodLifecycleIndependentState c.env c.creationTimestamp now
      (Map.values s.pods) (Map.values s.states)) : Sound c s reaction.1 reaction.2 := by
  rcases List.mem_filterMap.mp h with ⟨cfg, hcfg, heq⟩
  rcases (Map.mem_values_iff s.states cfg).mp hcfg with ⟨k, hk⟩
  have hversion := hs.versions _ (hs.states k cfg hk)
  rw [hversion.label] at heq
  dsimp only at heq
  split at heq
  · cases heq
  · next hnone =>
      split at heq
      · cases heq
        refine ⟨hversion.started, ?_⟩
        cases hpod : s.pods.lookup k with
        | none => rfl
        | some pod =>
            refine absurd (List.mem_filterMap.mpr ⟨pod, ?_, (hs.pods k pod hpod).2.2⟩) hnone
            exact (Map.mem_values_iff s.pods pod).mpr ⟨k, hpod⟩
      · cases heq

/-! ## Runs -/

/-- A step that has nothing finalized and deletes no state is in order, whatever else it does. -/
theorem orderly_of_kept {a : Action} (hfinalizing : s'.finalizing = s.finalizing)
    (hstates : ∀ id, s.states.lookup id ≠ none → s'.states.lookup id ≠ none) :
    Orderly c s a s' where
  finalizes := fun _ hid hnot => absurd (hfinalizing ▸ hid) hnot
  deletes := fun _ cfg hcfg hnone =>
    absurd hnone (hstates _ (hcfg ▸ Option.some_ne_none cfg))

theorem finalizing_patchState (works : Bool) :
    (patchState c s id works patch marks).finalizing = s.finalizing := by
  unfold patchState
  split
  · rfl
  · split
    · rfl
    · split <;> rfl

theorem lookup_store_ne {id' : String} (h : s.states.lookup id' ≠ none) :
    (s.store id cfg).states.lookup id' ≠ none := by
  rw [State.store, Map.lookup_insert_eq_ite]
  split_ifs
  · exact Option.some_ne_none cfg
  · exact h

theorem lookup_patchState_ne (works : Bool) {id' : String} (h : s.states.lookup id' ≠ none) :
    (patchState c s id works patch marks).states.lookup id' ≠ none := by
  unfold patchState
  split
  · exact h
  · split
    · exact h
    · split
      · exact lookup_store_ne h
      · exact h

theorem orderly_handled {a : Action} (decided : Except Failure (List (Reaction Stamp))) :
    Orderly c s a (s.handled id decided) := by
  unfold State.handled
  split <;> exact orderly_of_kept rfl fun _ h => h

/-- A state that is deleted leaves its versions behind, and what was decided on because of them
    may still be carried out. -/
theorem inv_erase (hs : Inv c s) (id : String) :
    Inv c { s with states := s.states.erase id } where
  pods := hs.pods
  creating := hs.creating
  states := fun id' cfg h => by
    rw [Map.lookup_erase_eq_ite] at h
    split_ifs at h
    exact hs.states id' cfg h
  versions := fun v hv =>
    have hversion := hs.versions v hv
    hversion.mono hversion.started hversion.created (fun h => h) fun cur hcur => by
      rw [Map.lookup_erase_eq_ite] at hcur
      split_ifs at hcur
      exact hversion.lasts cur hcur
  reactions := fun r hr => sound_mono (fun h => h) (fun _ h => h) (hs.reactions r hr)
  finalizing := hs.finalizing

/-- A reaction is taken from those that are to be carried out, from anywhere in the list. -/
theorem inv_eraseIdx (hs : Inv c s) (i : Nat) :
    Inv c { s with reactions := s.reactions.eraseIdx i } where
  pods := hs.pods
  creating := hs.creating
  states := hs.states
  versions := fun v hv =>
    have hversion := hs.versions v hv
    hversion.mono hversion.started hversion.created (fun h => h) hversion.lasts
  reactions := fun r hr => sound_mono (fun h => h) (fun _ h => h)
    (hs.reactions r (List.mem_of_mem_eraseIdx hr))
  finalizing := hs.finalizing

/-- Carrying out a reaction that was decided on. -/
theorem inv_carryOut (hreads : ReadsBack c) (hs : Inv c s) (works : Bool)
    (hr : Sound c s id r) : Inv c (carryOut c s id works r) := by
  cases r with
  | patchState patch marks => exact inv_patchState hreads hs works hr.1 hr.2 False.elim
  | finalizeWorkspaceContent =>
      exact
        { pods := hs.pods
          creating := hs.creating
          states := hs.states
          versions := fun v hv =>
            have hversion := hs.versions v hv
            hversion.mono hversion.started hversion.created (fun h => h) hversion.lasts
          reactions := fun r hr => sound_mono (fun h => h) (fun _ h => h) (hs.reactions r hr)
          finalizing := fun id' hid' => by
            rcases List.mem_cons.mp hid' with rfl | hid'
            · exact hr
            · exact hs.finalizing id' hid' }
  | deleteState freed =>
      rw [carryOut]
      split
      · exact inv_erase hs id
      · exact hs
  | deleteDangling =>
      rw [carryOut]
      split
      · exact inv_erase hs id
      · exact hs
  | markWorkspace marks => exact hs
  | stopWorkspace => exact hs
  | initializeWorkspaceContent => exact hs
  | waitForWorkspaceReady => exact hs
  | listen => exact hs

/-- What was stored while a workspace was being created has neither mark. -/
theorem unmarshal_plisConfigMap (env : Env Stamp) (id servicePrefix : String)
    (labels : Map String String) : unmarshalPodLifecycleIndependentState env
      (plisConfigMap id servicePrefix labels) = .ok none := by
  have hnone : (plisConfigMap id servicePrefix labels).annotations.lookup plisDataAnnotation =
      none := by
    rw [plisConfigMap, Map.lookup_insert_eq_ite, if_neg (by decide), Map.lookup_insert_eq_ite,
      if_neg (by decide), AList.lookup_empty]
  rw [unmarshalPodLifecycleIndependentState, hnone]

/-- The first version of a state is stored when the pod was created. -/
theorem inv_createState (hs : Inv c s) (hcreating : id ∈ s.creating) (servicePrefix : String)
    (labels : Map String String) :
    Inv c { s.store id (plisConfigMap id servicePrefix labels) with
      creating := s.creating.filter (· ≠ id) } := by
  have hun := unmarshal_plisConfigMap c.env id servicePrefix labels
  refine inv_store hs (fun id' hid' => List.mem_of_mem_filter hid') (hs.creating id hcreating)
    (fun h => ?_) ?_ ?_ (fun plis h => by cases hun.symm.trans h) (fun h => ?_) fun old hold => ?_
  · exact of_decide_eq_true (List.mem_filter.mp h).2 rfl
  · rw [ConfigMap.id, plisConfigMap, Map.lookup_insert_eq_ite, if_neg (by decide),
      AList.lookup_insert]
  · rw [plisConfigMap, AList.lookup_insert]
  · rcases complete_eq_true_iff.mp h with ⟨plis, hplis, -⟩
    cases hun.symm.trans hplis
  · -- there is no version yet
    exact absurd hcreating (hs.versions _ hold).created

theorem inv_startPod (hs : Inv c s) {pod : Pod} (hnew : id ∉ s.started) (hpod : IsPodOf id pod) :
    Inv c { s with
      pods := s.pods.insert id pod
      started := id :: s.started
      creating := id :: s.creating } := by
  refine inv_environment hs (fun id' pod' h => ?_) (fun id' h => List.mem_cons_of_mem _ h)
    (fun id' h => ?_) (fun id' hstarted h => ?_) (fun id' hgone => ?_)
  · rw [Map.lookup_insert_eq_ite] at h
    split_ifs at h with heq
    · rw [heq, ← Option.some.inj h]
      exact ⟨List.mem_cons_self, hpod⟩
    · rcases hs.pods id' pod' h with ⟨hstarted, hid⟩
      exact ⟨List.mem_cons_of_mem _ hstarted, hid⟩
  · rcases List.mem_cons.mp h with rfl | h
    · exact List.mem_cons_self
    · exact List.mem_cons_of_mem _ (hs.creating id' h)
  · rcases List.mem_cons.mp h with rfl | h
    · exact absurd hstarted hnew
    · exact h
  · have hne : id' ≠ id := fun heq => hnew (heq ▸ hgone.1)
    rw [Map.lookup_insert_eq_ite, if_neg hne]
    exact hgone.2

/-- The invariant is kept by every step. Each case is settled by the lemma on the function that
    takes its turn. -/
theorem inv_step [DecidableEq Stamp] (hreads : ReadsBack c) (hs : Inv c s) {a : Action}
    (h : step c s a = some s') : Inv c s' := by
  cases a with
  | startPod id pod =>
      rw [step] at h
      split at h
      · next hnew =>
          cases h
          exact inv_startPod hs hnew.1 hnew.2
      · cases h
  | createState id servicePrefix labels =>
      rw [step] at h
      split at h
      · next hcreating =>
          cases h
          exact inv_createState hs hcreating servicePrefix labels
      · cases h
  | changePod id pod =>
      rw [step] at h
      split at h
      · next hthere =>
          cases h
          -- The pod changes and keeps its ID.
          refine inv_environment hs (fun id' pod' h => ?_) (fun _ h => h) hs.creating
            (fun _ _ h => h) (fun id' hgone => ?_)
          · rw [Map.lookup_insert_eq_ite] at h
            split_ifs at h with heq
            · rcases Option.isSome_iff_exists.mp hthere.1 with ⟨old, hold⟩
              rw [heq, ← Option.some.inj h]
              exact ⟨(hs.pods id old hold).1, hthere.2⟩
            · exact hs.pods id' pod' h
          · rw [Map.lookup_insert_eq_ite, if_neg]
            · exact hgone.2
            · rintro rfl
              rw [hgone.2] at hthere
              exact Bool.false_ne_true hthere.1
      · cases h
  | removePod id =>
      rw [step] at h
      cases h
      -- A pod that was gone is not brought back.
      refine inv_environment hs (fun id' pod' h => ?_) (fun _ h => h) hs.creating
        (fun _ _ h => h) (fun id' hgone => ?_)
      · rw [Map.lookup_erase_eq_ite] at h
        split_ifs at h
        exact hs.pods id' pod' h
      · rw [Map.lookup_erase_eq_ite, hgone.2, ite_self]
  | changeServices services =>
      -- Services are not in the invariant.
      rw [step] at h
      cases h
      exact inv_environment hs hs.pods (fun _ h => h) hs.creating (fun _ _ h => h)
        (fun _ hgone => hgone.2)
  | podEvent id pod events deleted now =>
      rw [step] at h
      split at h
      · cases h
        exact inv_handled hs fun rs hrs r hr => sound_onPodEvent hrs hr
      · cases h
  | configMapEvent i deletionGracePeriodSeconds =>
      rw [step] at h
      split at h
      · cases h
      · next id cfg hi =>
          cases h
          -- The version in the event is one that was written at some time, if not the last.
          have hmem := List.mem_of_getElem? hi
          have hversion := hs.versions _ hmem
          refine inv_handled hs fun rs hrs r hr => ?_
          rcases mem_onConfigMapEvent hversion.id_eq hversion.stops hrs hr with
            -- Such an event leads to nothing, or to the deletion of a state that is finished.
            ⟨hnone, rfl | ⟨freed, rfl, hfinished⟩⟩
          · exact ⟨hversion.started, hnone⟩
          · exact ⟨⟨hversion.started, hnone⟩, cfg, hmem, hfinished⟩
  | stop id traceID now gracePeriodSeconds o =>
      rw [step] at h
      split at h
      · cases h
      · cases h
        -- The call leaves reactions, which are carried out later.
        refine inv_enqueue hs fun r hr => ?_
        rcases List.mem_map.mp hr with ⟨reaction, hreaction, rfl⟩
        exact sound_stopReactions hreaction
  | houseKeep activity now =>
      rw [step] at h
      cases h
      -- Housekeeping finds workspaces that have timed out and states that dangle.
      refine inv_enqueue hs fun r hr => ?_
      rcases List.mem_append.mp hr with hr | hr
      · exact sound_markTimedoutWorkspaces hr
      · exact sound_deleteDangling hs hr
  | react i works =>
      rw [step] at h
      split at h
      · cases h
      · next id reaction hi =>
          cases h
          -- A reaction is sound when it is noted, and still so when it is carried out.
          exact inv_carryOut hreads (inv_eraseIdx hs i) works
            (sound_mono (fun h => h) (fun _ h => h) (hs.reactions _ (List.mem_of_getElem? hi)))
  | recordFullBackup id works =>
      rw [step] at h
      split at h
      · next hmem =>
          cases h
          exact inv_patchState hreads hs works (keeps_fullBackup (hs.finalizing id hmem))
            harmless_nil (fun hgone => hgone)
      · cases h
  | recordFinalized id dataloss backupError works =>
      rw [step] at h
      split at h
      · next hmem =>
          cases h
          exact inv_patchState hreads hs works
            (keeps_finalized (hs.finalizing id hmem) dataloss backupError) harmless_nil
            (fun hgone => hgone)
      · cases h

/-- A reaction is carried out in the order that was decided on. -/
theorem orderly_carryOut (hs : Inv c s) {i : Nat} (works : Bool)
    (hi : s.reactions[i]? = some (id, r)) :
    Orderly c s (.react i works)
      (carryOut c { s with reactions := s.reactions.eraseIdx i } id works r) := by
  have hr : Sound c s id r := hs.reactions _ (List.mem_of_getElem? hi)
  have hkept : Orderly c s (.react i works) { s with reactions := s.reactions.eraseIdx i } :=
    orderly_of_kept rfl fun _ h => h
  cases r with
  | patchState patch marks =>
      exact orderly_of_kept (finalizing_patchState works) fun _ h => lookup_patchState_ne works h
  | finalizeWorkspaceContent =>
      refine ⟨fun id' hid' hnot => ?_, fun id' cfg hcfg hnone => ?_⟩
      · rcases List.mem_cons.mp hid' with rfl | hid'
        · exact hr
        · exact absurd hid' hnot
      · cases hcfg.symm.trans hnone
  | deleteState freed =>
      rw [carryOut]
      split
      · refine ⟨fun id' hid' hnot => absurd hid' hnot, fun id' cfg hcfg hnone => ?_⟩
        rw [Map.lookup_erase_eq_ite] at hnone
        split_ifs at hnone with heq
        · subst heq
          rcases hr with ⟨hgone, old, hold, hfinished⟩
          rcases (hs.versions _ hold).lasts cfg hcfg with ⟨hcomplete, htimedOut⟩
          refine ⟨hgone, .inl ?_⟩
          rcases hfinished with hfinished | hfinished
          · exact .inl (hcomplete hfinished)
          · exact .inr (htimedOut hfinished)
        · cases hcfg.symm.trans hnone
      · exact hkept
  | deleteDangling =>
      rw [carryOut]
      split
      · next hworks =>
          refine ⟨fun id' hid' hnot => absurd hid' hnot, fun id' cfg hcfg hnone => ?_⟩
          rw [Map.lookup_erase_eq_ite] at hnone
          split_ifs at hnone with heq
          · subst heq
            rw [hworks]
            exact ⟨hr, .inr ⟨i, rfl, hi⟩⟩
          · cases hcfg.symm.trans hnone
      · exact hkept
  | markWorkspace marks => exact hkept
  | stopWorkspace => exact hkept
  | initializeWorkspaceContent => exact hkept
  | waitForWorkspaceReady => exact hkept
  | listen => exact hkept

/-- Only three kinds of steps have a say in this: a finalizer that is started, a state that is
    deleted by a reaction, and one that the housekeeping deletes. For each of them the invariant
    tells what was the case when it was decided on, and that this still holds. -/
theorem orderly_step [DecidableEq Stamp] (hs : Inv c s) {a : Action}
    (h : step c s a = some s') : Orderly c s a s' := by
  -- Only a reaction that is carried out finalizes or deletes, and the other steps leave both
  -- alone.
  cases a with
  | startPod id pod =>
      rw [step] at h
      split at h
      · cases h
        exact orderly_of_kept rfl fun _ h => h
      · cases h
  | createState id servicePrefix labels =>
      rw [step] at h
      split at h
      · cases h
        exact orderly_of_kept rfl fun _ h => lookup_store_ne h
      · cases h
  | changePod id pod =>
      rw [step] at h
      split at h
      · cases h
        exact orderly_of_kept rfl fun _ h => h
      · cases h
  | removePod id =>
      rw [step] at h
      cases h
      exact orderly_of_kept rfl fun _ h => h
  | changeServices services =>
      rw [step] at h
      cases h
      exact orderly_of_kept rfl fun _ h => h
  | podEvent id pod events deleted now =>
      rw [step] at h
      split at h
      · cases h
        -- What an event leads to is noted, and carried out later.
        exact orderly_handled _
      · cases h
  | configMapEvent i deletionGracePeriodSeconds =>
      rw [step] at h
      split at h
      · cases h
      · cases h
        exact orderly_handled _
  | stop id traceID now gracePeriodSeconds o =>
      rw [step] at h
      split at h
      · cases h
      · cases h
        exact orderly_of_kept rfl fun _ h => h
  | houseKeep activity now =>
      rw [step] at h
      cases h
      exact orderly_of_kept rfl fun _ h => h
  | react i works =>
      rw [step] at h
      split at h
      · cases h
      · next id reaction hi =>
          cases h
          exact orderly_carryOut hs works hi
  | recordFullBackup id works =>
      rw [step] at h
      split at h
      · cases h
        -- Patching a state does not delete it.
        exact orderly_of_kept (finalizing_patchState works) fun _ h => lookup_patchState_ne works h
      · cases h
  | recordFinalized id dataloss backupError works =>
      rw [step] at h
      split at h
      · cases h
        exact orderly_of_kept (finalizing_patchState works) fun _ h => lookup_patchState_ne works h
      · cases h

theorem versions_patchState (works : Bool) {v : String × ConfigMap} (hv : v ∈ s.versions) :
    v ∈ (patchState c s id works patch marks).versions := by
  unfold patchState
  split
  · exact hv
  · split
    · exact hv
    · split
      · exact List.mem_append_left _ hv
      · exact hv

theorem versions_handled (decided : Except Failure (List (Reaction Stamp)))
    {v : String × ConfigMap} (hv : v ∈ s.versions) : v ∈ (s.handled id decided).versions := by
  unfold State.handled
  split <;> exact hv

theorem versions_carryOut (works : Bool) {v : String × ConfigMap} (hv : v ∈ s.versions) :
    v ∈ (carryOut c s id works r).versions := by
  cases r with
  | patchState patch marks => exact versions_patchState works hv
  | deleteState freed =>
      rw [carryOut]
      split <;> exact hv
  | deleteDangling =>
      rw [carryOut]
      split <;> exact hv
  | finalizeWorkspaceContent => exact hv
  | markWorkspace marks => exact hv
  | stopWorkspace => exact hv
  | initializeWorkspaceContent => exact hv
  | waitForWorkspaceReady => exact hv
  | listen => exact hv

/-- No version is forgotten. -/
theorem versions_step [DecidableEq Stamp] {a : Action} (h : step c s a = some s')
    {v : String × ConfigMap} (hv : v ∈ s.versions) : v ∈ s'.versions := by
  cases a with
  | startPod id pod =>
      rw [step] at h
      split at h <;> cases h
      exact hv
  | createState id servicePrefix labels =>
      rw [step] at h
      split at h <;> cases h
      exact List.mem_append_left _ hv
  | changePod id pod =>
      rw [step] at h
      split at h <;> cases h
      exact hv
  | removePod id =>
      cases h
      exact hv
  | changeServices services =>
      cases h
      exact hv
  | podEvent id pod events deleted now =>
      rw [step] at h
      split at h <;> cases h
      exact versions_handled _ hv
  | configMapEvent i deletionGracePeriodSeconds =>
      rw [step] at h
      split at h <;> cases h
      exact versions_handled _ hv
  | stop id traceID now gracePeriodSeconds o =>
      rw [step] at h
      split at h <;> cases h
      exact hv
  | houseKeep activity now =>
      cases h
      exact hv
  | react i works =>
      rw [step] at h
      split at h <;> cases h
      exact versions_carryOut works hv
  | recordFullBackup id works =>
      rw [step] at h
      split at h <;> cases h
      exact versions_patchState works hv
  | recordFinalized id dataloss backupError works =>
      rw [step] at h
      split at h <;> cases h
      exact versions_patchState works hv

/-- What was recorded in one version is recorded in the next one, as patches of the state are
    based on it. -/
theorem recorded_step [DecidableEq Stamp] (hs : Inv c s) (hs' : Inv c s') {a : Action}
    (h : step c s a = some s') : Recorded c s s' where
  completes := fun id cfg hcfg hcomplete =>
    (hs'.versions _ (hs'.states id cfg hcfg)).gone hcomplete
  lasts := fun id cfg cfg' hcfg hcfg' =>
    (hs'.versions _ (versions_step h (hs.states id cfg hcfg))).lasts cfg' hcfg'

/-- The result about the monitor as a whole. In every run, with events that come late and
    reactions that are carried out in any order, the content of a workspace is finalized only
    when its pod is gone, and its state is deleted only when this is finished, or found to be
    dangling. And no mark of a finished backup or of a timeout is lost meanwhile, so that an
    owner who sees the workspace as stopped can rely on the backup having been tried. -/
theorem orderly_run [DecidableEq Stamp] (c : Config Stamp) (hreads : ReadsBack c)
    (as : List Action) :
    StepsAlong (step c) (fun s a s' => Orderly c s a s' ∧ Recorded c s s') as newState := by
  refine stepsAlong_of_invariant (fun s a s' hs h => ?_) as newState (inv_newState c)
  have hs' : Inv c s' := inv_step hreads hs h
  exact ⟨hs', orderly_step hs h, recorded_step hs hs' h⟩

/-- A pod that is being deleted. -/
def lastPod : Pod :=
  { podWithPhase .running with
    annotations := (podWithPhase .running).annotations.insert servicePrefixAnnotation "ws"
    labels := AList.insert Dangling.workspaceIDLabel "id" ∅
    deletionTimestamp := some 0 }

/-- Its status. -/
def lastStatus : Report.WorkspaceStatus Unit where
  phase := .stopping
  message := ""
  conditions := ⟨"", "", .false, .false, none⟩
  id := "id"
  metadata := ⟨"", "", some ()⟩
  spec :=
    { headless := false
      workspaceImage := "image"
      url := "url"
      type := .regular
      timeout := "" }
  nodeName := "node"
  auth := ⟨.admitOwnerOnly, ""⟩
  snapshot := ""
  deployed := .true

/-- What the pod leaves behind. -/
def lastState : PLIS Unit where
  stoppingSince := some 0
  lastPodStatus := some lastStatus

/-- The members of its JSON. -/
def lastMembers : String :=
  "\"stoppingSince\":\"1970-01-01T00:00:00Z\",\"lastPodStatus\":\x7b\"id\":\"id\"," ++
  "\"metadata\":\x7b\"started_at\":\x7b\x7d\x7d," ++
  "\"spec\":\x7b\"workspace_image\":\"image\",\"url\":\"url\"\x7d,\"phase\":5," ++
  "\"conditions\":\x7b\"deployed\":1\x7d,\"runtime\":\x7b\"node_name\":\"node\"\x7d," ++
  "\"auth\":\x7b\x7d\x7d\x7d"

/-- A state that has a last status and nothing else. -/
def lastText : String := "\x7b" ++ lastMembers

/-- The same once the backup is complete. -/
def completeText : String := "\x7b\"finalBackupComplete\":true," ++ lastMembers

/-- Nothing is written or read but the states that this pod leaves behind. -/
def oneWorkspace : Config Unit where
  env := { readsNothing with
    unmarshal := fun raw =>
      if raw = lastText then .ok lastState
      else if raw = completeText then .ok { lastState with finalBackupComplete := true }
      else .error "not the state" }
  marshal plis :=
    if plis = lastState then .ok lastText
    else if plis = { lastState with finalBackupComplete := true } then .ok completeText
    else .error "not the state"
  parseDuration _ := .error "not a duration"
  timeouts :=
    let zero : Duration := ⟨0, by decide⟩
    ⟨zero, zero, zero, zero, zero, zero, zero, zero⟩
  creationTimestamp _ := 0

theorem readsBack_oneWorkspace : ReadsBack oneWorkspace := by
  intro plis raw h
  simp only [oneWorkspace] at h ⊢
  split_ifs at h with hlast hcomplete
  · cases h
    exact ⟨_, if_pos rfl, by rw [hlast], by rw [hlast]⟩
  · cases h
    exact ⟨_, (if_neg (by decide)).trans (if_pos rfl), by rw [hcomplete], by rw [hcomplete]⟩

/-- The pod is seen for the last time, its content is finalized, and its state is deleted. -/
def disposal : List Action :=
  [.startPod "id" lastPod, .createState "id" "ws" ∅, .podEvent "id" lastPod [] false 0,
    .react 0 true, .removePod "id", .configMapEvent 1 none, .react 0 true,
    .recordFinalized "id" true none true, .configMapEvent 2 none, .react 0 true]

theorem orderly_disposal :
    (∃ t, runActions (step oneWorkspace) disposal newState = some t ∧
      t.states.lookup "id" = none ∧ "id" ∈ t.finalizing) ∧
    StepsAlong (step oneWorkspace) (fun s a s' => Orderly oneWorkspace s a s' ∧
      Recorded oneWorkspace s s') disposal newState := by
  refine ⟨?_, orderly_run oneWorkspace readsBack_oneWorkspace disposal⟩
  refine exists_run_of_any (fun t => (t.states.lookup "id").isNone && decide ("id" ∈ t.finalizing))
    (by decide +kernel) fun t _ h => ?_
  rw [Bool.and_eq_true, Option.isNone_iff_eq_none, decide_eq_true_eq] at h
  exact h

end Monitor

end WsManager

end Nxpod
