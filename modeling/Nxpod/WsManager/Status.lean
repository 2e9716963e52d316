import Mathlib.Data.List.Basic
import Mathlib.Data.List.Infix
import Mathlib.Tactic.Common
import Nxpod.Library.Map

/-!
# The Status of a Workspace Pod

How ws-manager reads the phase of a workspace off its pod. First a failure is
extracted, which may come with a phase of its own and then decides. Otherwise a
pod that is being deleted is stopping, and what it failed from is forgotten
unless it had failed before. Only then does the phase of the pod count, with the
states of its containers and the marks of readiness in its annotations.

There are two generations of these marks. A workspace of today is marked as
never ready until it is ready for the first time, and one of a former version is
marked as ready. `WasEverReady` looks at both.

The pod is an argument of its own, where the source takes it from the objects of
the workspace without asking whether there is one. Parsing the time of the first
user activity is a parameter.

## Main definitions

* `WorkspacePhase`: The phases in the order of the interface.
* `WorkspaceConditionBool`: The third value is the one that a message without it has.
* `Terminated`: How a container ended.
* `Pod`, `ContainerStatus`, `WorkspaceObjects`: What the status is read off.
* `ConfigMap`: The part of a workspace that outlives its pod.
* `Event`: What Kubernetes reports of a pod besides its status.
* `WorkspaceStatus`: The part of a status that is read off the pod.
* `wasEverReady`, `isWorkspaceHeadless`: What is asked of the objects.
* `extractFailure`: The failure, possibly with a phase.
* `extractStatusFromPod`: The phase, the message and the conditions.
* `Regressed`, `KeepsPhase`: A phase from before the workspace was ready, and the
  pods that do not have one.
* `DeletionWins`, `WinsOverFailure`: A deleted pod is stopping and has not failed, and
  the pods of which that is so.

## Theorems

* `phase_extractFailure`, `phase_of_pending`, `phase_of_running`: Where the phase of a
  pod that is not deleted comes from.
* `not_regressed_iff`: When a workspace that was ready keeps its phase.
* `extractFailure_deleted`: The failure of a pod that is being deleted.
* `stopping_of_deleted`: Such a pod is stopping.
* `deletionWins_iff`: When its failure is forgotten.
-/

namespace Nxpod

namespace WsManager

namespace Status

/-! ## The objects -/

/-- The phases in the order of the interface. -/
inductive WorkspacePhase where
  | unknown
  | pending
  | creating
  | initializing
  | running
  | stopping
  | stopped
  | interrupted
  deriving DecidableEq

/-- The third value is the one that a message without it has. -/
inductive WorkspaceConditionBool where
  | false
  | true
  | empty
  deriving DecidableEq

/-- The phase is a text. Kubernetes has these five, and any other falls through all comparisons. -/
inductive PodPhase where
  | pending
  | running
  | succeeded
  | failed
  | unknown
  | other (text : String)
  deriving DecidableEq

/-- Why a container waits, and what is said of it. -/
structure Waiting where
  reason : String
  message : String

/-- How a container ended. -/
structure Terminated where
  exitCode : Int
  reason : String
  message : String

/-- A container waits, or has terminated, or else runs. -/
structure ContainerState where
  waiting : Option Waiting
  terminated : Option Terminated

/-- A container that was restarted also keeps the state in which it ended before. -/
structure ContainerStatus where
  name : String
  state : ContainerState
  lastTerminationState : ContainerState
  ready : Bool
  restartCount : Int

/-- What Kubernetes says of a pod. -/
structure PodStatus where
  phase : PodPhase
  reason : String
  message : String
  containerStatuses : List ContainerStatus

/-- What is read of a pod. The deletion timestamp is set when its deletion is asked for, and it
    goes on for a while. -/
structure Pod where
  annotations : Map String String
  labels : Map String String
  deletionTimestamp : Option Int
  status : PodStatus

/-- The part of a workspace that outlives its pod. -/
structure ConfigMap where
  annotations : Map String String
  labels : Map String String

/-- What Kubernetes reports of a pod besides its status. -/
structure Event where
  reason : String
  message : String

/-- All that there is in the cluster of a workspace. -/
structure WorkspaceObjects where
  pod : Option Pod
  plis : Option ConfigMap
  events : List Event

/-- What is said of a workspace besides its phase. No failure and no time-out are empty texts. -/
structure WorkspaceConditions (Stamp : Type) where
  failed : String
  timeout : String
  pullingImages : WorkspaceConditionBool
  networkNotReady : WorkspaceConditionBool
  firstUserActivity : Option Stamp

/-- The part of a status that is read off the pod. -/
structure WorkspaceStatus (Stamp : Type) where
  phase : WorkspacePhase
  message : String
  conditions : WorkspaceConditions Stamp

/-- `time.Parse` and `ptypes.TimestampProto`. -/
structure TimeFormat (Time Stamp : Type) where
  parse : String → Except String Time
  timestampProto : Time → Except String Stamp

/-! ## The marks -/

/-- The mark of a former version, put on a pod when it was ready for the first time. -/
def deprecatedWorkspaceReadyAnnotation : String := "nxpod/ready"

/-- The mark of today, taken off a pod when it is ready for the first time. -/
def workspaceNeverReadyAnnotation : String := "nxpod/never-ready"

/-- Why the workspace was stopped, if it was for a time-out. -/
def workspaceTimedOutAnnotation : String := "nxpod/timedout"

/-- Why the workspace has failed, if ws-manager itself has said so. -/
def workspaceExplicitFailAnnotation : String := "nxpod/explicitFail"

/-- The failure was there before the pod was deleted, and is not a consequence of that. -/
def workspaceFailedBeforeStoppingAnnotation : String := "nxpod/failedBeforeStopping"

/-- When the user did something for the first time. -/
def firstUserActivityAnnotation : String := "nxpod/firstUserActivity"

/-- The pod of a prebuild or a probe, for which nobody waits in a browser. -/
def headlessLabel : String := "headless"

/-- The volume with the IDE. -/
def theiaVolumeName : String := "vol-this-theia"

/-- The volume with the content of the workspace. -/
def workspaceVolumeName : String := "vol-this-workspace"

/-- The exit code of a container that was killed. -/
def containerKilledExitCode : Int := 137

/-- The exit code that Docker gives when it does not know it. -/
def containerUnknownExitCode : Int := 255

/-- The annotation is there, whatever it says. -/
def has (annotations : Map String String) (key : String) : Bool :=
  (annotations.lookup key).isSome

/-- The mark of the former version takes precedence. -/
def checkReady (annotations : Map String String) : Bool :=
  if has annotations deprecatedWorkspaceReadyAnnotation then true
  else !has annotations workspaceNeverReadyAnnotation

/-- The pod is asked, then the config map. A workspace that has neither counts as ready, which
    the source takes for the better way to be wrong. -/
def wasEverReady (wso : WorkspaceObjects) : Bool :=
  match wso.pod, wso.plis with
  | some pod, _ => checkReady pod.annotations
  | none, some plis => checkReady plis.annotations
  | none, none => true

/-- Both are asked in the same order, and a workspace that has neither is no headless one. -/
def isWorkspaceHeadless (wso : WorkspaceObjects) : Bool :=
  match wso.pod, wso.plis with
  | some pod, _ => pod.labels.lookup headlessLabel = some "true"
  | none, some plis => plis.labels.lookup headlessLabel = some "true"
  | none, none => false

/-- The deletion was asked for. -/
def isPodBeingDeleted (pod : Pod) : Bool :=
  pod.deletionTimestamp.isSome

/-- The pod could not be connected. -/
def hasNetworkNotReadyEvent (wso : WorkspaceObjects) : Bool :=
  wso.events.any (·.reason = "NetworkNotReady")

/-! ## The failure -/

/-- What the container says about an image that it could not pull. -/
def failedPull (cs : ContainerStatus) : Option String :=
  match cs.state.waiting with
  | some waiting =>
      if waiting.reason = "ImagePullBackOff" ∨ waiting.reason = "ErrImagePull" then
        some waiting.message
      else none
  | none => none

/-- The container has terminated, or has been started anew after that. -/
def terminationState (cs : ContainerStatus) : Option Terminated :=
  match cs.state.terminated with
  | some t => some t
  | none => cs.lastTerminationState.terminated

/-- What the end of a container means. With a message it is a failure, and so it is if the
    container completed, which it should not. Other ends are failures only while the pod is not
    being deleted: an error, unless the container was killed, and a reason that nobody can name,
    which brings a phase with it. -/
def terminationFailure (deleted : Bool) (name : String) (t : Terminated) :
    Option (String × Option WorkspacePhase) :=
  if t.message ≠ "" then some (t.message, none)
  else if t.reason = "Error" then
    if !deleted ∧ t.exitCode ≠ containerKilledExitCode then
      some (s!"container {name} ran with an error: exit code {t.exitCode}", none)
    else none
  else if t.reason = "Completed" then
    some (s!"container {name} completed; containers of a workspace pod are not supposed to do that",
      none)
  else if !deleted ∧ t.exitCode ≠ containerUnknownExitCode then
    some (s!"workspace container {name} terminated for an unknown reason: ({t.reason}) {t.message}",
      some .unknown)
  else none

/-- One round of the loop over the containers. -/
def containerFailure (deleted : Bool) (cs : ContainerStatus) :
    Option (String × Option WorkspacePhase) :=
  match failedPull cs with
  | some message =>
      some (s!"cannot pull image: {message}", some (if deleted then .stopping else .creating))
  | none => (terminationState cs).bind (terminationFailure deleted cs.name)

/-- Some failures are only evident from the events. -/
def eventFailure (events : List Event) : String :=
  match events.find? (·.reason = "FailedMount") with
  | none => ""
  | some evt =>
      if theiaVolumeName.toList <:+: evt.message.toList then "cannot mount Theia"
      else if workspaceVolumeName.toList <:+: evt.message.toList then "cannot mount workspace"
      else evt.message

/-- The first failure in the order of the source, together with the phase that it may bring. -/
def extractFailure (wso : WorkspaceObjects) (pod : Pod) : String × Option WorkspacePhase :=
  match pod.annotations.lookup workspaceExplicitFailAnnotation with
  | some reason => (reason, none)
  | none =>
      if pod.status.phase = .failed then (s!"{pod.status.reason}: {pod.status.message}", none)
      else match pod.status.containerStatuses.findSome? (containerFailure (isPodBeingDeleted pod))
        with
        | some failure => failure
        | none => (eventFailure wso.events, none)

/-! ## The phase -/

variable {Time Stamp : Type}

/-- One round of the loop over the containers of a pending pod. A workspace that was
    ready once does not fall back to creating its containers. -/
def pendingContainer (wso : WorkspaceObjects) (result : WorkspaceStatus Stamp)
    (cs : ContainerStatus) : Option (WorkspaceStatus Stamp) :=
  match cs.state.waiting with
  | some waiting =>
      if waiting.reason ≠ "ContainerCreating" then none
      else if wasEverReady wso then none
      else some
        { phase := .creating
          message := "containers are being created"
          conditions := { result.conditions with pullingImages := .true } }
  | none => none

/-- A pod that is pending in Kubernetes is pending here too, or creating its containers. -/
def statusOfPending (wso : WorkspaceObjects) (pod : Pod) (result : WorkspaceStatus Stamp) :
    WorkspaceStatus Stamp :=
  match pod.status.containerStatuses.findSome? (pendingContainer wso result) with
  | some status => status
  | none => { result with phase := .pending, message := "pod is pending" }

/-- A time that cannot be read is an error of the whole status. -/
def firstUserActivity (format : TimeFormat Time Stamp) (pod : Pod)
    (result : WorkspaceStatus Stamp) : Except String (WorkspaceStatus Stamp) :=
  match pod.annotations.lookup firstUserActivityAnnotation with
  | none => .ok result
  | some text => match format.parse text with
    | .error err => .error s!"cannot parse firstUserActivity: {err}"
    | .ok t => match format.timestampProto t with
      | .error err => .error s!"cannot convert firstUserActivity: {err}"
      | .ok pt => .ok
          { result with conditions := { result.conditions with firstUserActivity := some pt } }

/-- The workspace was there and is not now. -/
def interrupted (result : WorkspaceStatus Stamp) (message : String) : WorkspaceStatus Stamp :=
  { result with phase := .interrupted, message := message }

/-- The exit code of a container that has terminated and not been started anew. -/
def exitCode (cs : ContainerStatus) : Option Int :=
  cs.state.terminated.map (·.exitCode)

/-- One round of the loop over the containers of a running pod. -/
def runningContainer (wso : WorkspaceObjects) (pod : Pod) (result : WorkspaceStatus Stamp)
    (cs : ContainerStatus) : Option (WorkspaceStatus Stamp) :=
  if exitCode cs = some containerUnknownExitCode then
    if hasNetworkNotReadyEvent wso then
      some (interrupted
        { result with conditions := { result.conditions with networkNotReady := .true } }
        "container network not ready - workspace should recover shortly")
    else some (interrupted result
      s!"container {cs.name} was terminated unexpectedly - workspace should recover")
  else if exitCode cs = some containerKilledExitCode then
    some (interrupted result
      s!"container {cs.name} was terminated unexpectedly - workspace should recover")
  else if !cs.ready ∧ cs.restartCount > 0 then
    some (interrupted result
      s!"container {cs.name} was terminated unexpectedly - workspace is recovering")
  else if has pod.annotations workspaceNeverReadyAnnotation ∧ !cs.ready then
    some
      { phase := .creating
        message := "containers are starting"
        conditions := { result.conditions with pullingImages := .false } }
  else none

/-- A pod that runs in Kubernetes may be interrupted or creating here, as the first container
    with such a state says, and without one it is initializing until it was ready once. A
    headless workspace is never initializing. -/
def statusOfRunning (format : TimeFormat Time Stamp) (wso : WorkspaceObjects) (pod : Pod)
    (result : WorkspaceStatus Stamp) : Except String (WorkspaceStatus Stamp) :=
  match firstUserActivity format pod result with
  | .error err => .error err
  | .ok result => .ok
      (match pod.status.containerStatuses.findSome? (runningContainer wso pod result) with
      | some status => status
      | none =>
          if isWorkspaceHeadless wso then { result with phase := .running }
          else if !has pod.annotations workspaceNeverReadyAnnotation then
            { result with phase := .running }
          else
            { result with phase := .initializing, message := "workspace initializer is running" })

/-- While the pod is being deleted its failure is not of interest, unless it was
    stopped because it had failed. -/
def statusOfDeleted (pod : Pod) (result : WorkspaceStatus Stamp) : WorkspaceStatus Stamp :=
  if has pod.annotations workspaceFailedBeforeStoppingAnnotation then
    { result with phase := .stopping }
  else
    { result with phase := .stopping, conditions := { result.conditions with failed := "" } }

/-- A reason that is empty is still a reason. -/
def timedOut (pod : Pod) (result : WorkspaceStatus Stamp) : WorkspaceStatus Stamp :=
  match pod.annotations.lookup workspaceTimedOutAnnotation with
  | none => result
  | some reason =>
      let reason := if reason = "" then "workspace timed out for an unknown reason" else reason
      { result with conditions := { result.conditions with timeout := reason } }

/-- The phase of a failure comes before everything else, then the deletion, and then the phase
    of the pod. -/
def extractStatusFromPod (format : TimeFormat Time Stamp) (result : WorkspaceStatus Stamp)
    (wso : WorkspaceObjects) (pod : Pod) : Except String (WorkspaceStatus Stamp) :=
  let failure := extractFailure wso pod
  let result := { result with conditions := { result.conditions with failed := failure.1 } }
  match failure.2 with
  | some phase => .ok { result with phase := phase }
  | none =>
      let result := timedOut pod result
      if isPodBeingDeleted pod then .ok (statusOfDeleted pod result)
      else match pod.status.phase with
        | .pending => .ok (statusOfPending wso pod result)
        | .running => statusOfRunning format wso pod result
        | .unknown => .ok
            { result with
              phase := .unknown
              message := "Kubernetes reports workspace phase as unknown" }
        | .succeeded | .failed | .other _ =>
            if failure.1 ≠ "" then .ok { result with phase := .unknown }
            else .ok
              { result with
                phase := .unknown
                message := "cannot determine workspace phase. We should never get here." }

/-! ## A workspace that was ready -/

/-- A phase from before the workspace was ready. -/
def Regressed (phase : WorkspacePhase) : Prop :=
  phase = .pending ∨ phase = .creating ∨ phase = .initializing

instance (phase : WorkspacePhase) : Decidable (Regressed phase) :=
  inferInstanceAs (Decidable (_ ∨ _ ∨ _))

/-- The termination is a failure of a kind that leaves the phase open. -/
def explained (t : Terminated) : Bool :=
  t.message ≠ "" ∨ (t.reason = "Error" ∧ t.exitCode ≠ containerKilledExitCode) ∨
    t.reason = "Completed"

/-- The termination is a failure that nobody can name. -/
def unexplained (t : Terminated) : Bool :=
  t.message = "" ∧ t.reason ≠ "Error" ∧ t.reason ≠ "Completed" ∧
    t.exitCode ≠ containerUnknownExitCode

/-- The first failure among the terminations is one that nobody can name, and nothing
    that is asked before says that the pod has failed. -/
def failsForUnknownReason (pod : Pod) : Bool :=
  !has pod.annotations workspaceExplicitFailAnnotation && pod.status.phase ≠ .failed &&
    ((pod.status.containerStatuses.filterMap terminationState).find? fun t =>
      explained t || unexplained t).any unexplained

/-- The container was lost or killed, or is not ready again after it was restarted. -/
def isInterrupted (cs : ContainerStatus) : Bool :=
  exitCode cs = some containerUnknownExitCode ∨ exitCode cs = some containerKilledExitCode ∨
    (!cs.ready ∧ cs.restartCount > 0)

/-- The annotation is not there, or can be read as a time. -/
def activityReadable (format : TimeFormat Time Stamp) (pod : Pod) : Bool :=
  match pod.annotations.lookup firstUserActivityAnnotation with
  | none => true
  | some text => match format.parse text with
    | .error _ => false
    | .ok t => (format.timestampProto t).isOk

/-- Where a workspace that was ready is not reported with a phase from before. When its
    pod runs and is marked as never ready all the same, the containers have to look
    interrupted before one of them looks unready, or the workspace is headless. -/
def KeepsPhase (format : TimeFormat Time Stamp) (wso : WorkspaceObjects) (pod : Pod) : Prop :=
  failsForUnknownReason pod = true ∨ (pod.status.phase ≠ .pending ∧
    (pod.status.phase = .running → has pod.annotations workspaceNeverReadyAnnotation = false ∨
      activityReadable format pod = false ∨
      ((pod.status.containerStatuses.find? fun cs => isInterrupted cs || !cs.ready).map
        isInterrupted).getD (isWorkspaceHeadless wso) = true))

instance (format : TimeFormat Time Stamp) (wso : WorkspaceObjects) (pod : Pod) :
    Decidable (KeepsPhase format wso pod) :=
  inferInstanceAs (Decidable (_ ∨ (_ ∧ (_ → _ ∨ _ ∨ _))))

/-- Nothing else about a termination matters, as long as the pod is not deleted. -/
theorem terminationFailure_cases (name : String) (t : Terminated) :
    (unexplained t = true ∧ ∃ text, terminationFailure false name t = some (text, some .unknown)) ∨
    (unexplained t = false ∧ explained t = true ∧
      ∃ text, terminationFailure false name t = some (text, none)) ∨
    (unexplained t = false ∧ explained t = false ∧ terminationFailure false name t = none) := by
  unfold terminationFailure unexplained explained
  by_cases hmessage : t.message = ""
  · by_cases herror : t.reason = "Error"
    · by_cases hkilled : t.exitCode = containerKilledExitCode
      · exact .inr (.inr (by simp [hmessage, herror, hkilled]))
      · exact .inr (.inl (by simp [hmessage, herror, hkilled]))
    · by_cases hcompleted : t.reason = "Completed"
      · exact .inr (.inl (by simp [hmessage, hcompleted]))
      · by_cases hunknown : t.exitCode = containerUnknownExitCode
        · exact .inr (.inr (by simp [hmessage, herror, hcompleted, hunknown]))
        · exact .inl (by simp [hmessage, herror, hcompleted, hunknown])
  · exact .inr (.inl (by simp [hmessage]))

/-- The loop over the containers comes with a phase exactly when the first failure it
    finds is one that nobody can name. -/
theorem phase_findSome {containers : List ContainerStatus}
    (hpull : ∀ cs ∈ containers, failedPull cs = none) :
    (containers.findSome? (containerFailure false)).bind Prod.snd =
      if ((containers.filterMap terminationState).find? fun t =>
        explained t || unexplained t).any unexplained then some .unknown else none := by
  induction containers with
  | nil => rfl
  | cons cs containers ih =>
      rw [List.forall_mem_cons] at hpull
      have hrest := ih hpull.2
      have hround : containerFailure false cs =
          (terminationState cs).bind (terminationFailure false cs.name) := by
        rw [containerFailure, hpull.1]
      rw [List.findSome?_cons, hround]
      cases hstate : terminationState cs with
      | none =>
          rw [List.filterMap_cons_none hstate]
          exact hrest
      | some t =>
          rw [List.filterMap_cons_some hstate, List.find?_cons, Option.bind_some]
          rcases terminationFailure_cases cs.name t with
            ⟨hun, text, htf⟩ | ⟨hun, hex, text, htf⟩ | ⟨hun, hex, htf⟩
          · rw [htf, hun, Bool.or_true]
            exact (if_pos hun).symm
          · rw [htf, hex, Bool.true_or]
            exact (if_neg (Bool.not_eq_true _ ▸ hun)).symm
          · rw [htf, hex, hun]
            exact hrest

theorem isPodBeingDeleted_eq_false {pod : Pod} (hdel : pod.deletionTimestamp = none) :
    isPodBeingDeleted pod = false := by
  rw [isPodBeingDeleted, hdel]
  rfl

/-- The phase comes from the loop over the containers, unless something that is asked
    before says that the pod has failed. -/
theorem extractFailure_snd {pod : Pod} (hdel : pod.deletionTimestamp = none)
    (wso : WorkspaceObjects) :
    (extractFailure wso pod).2 =
      if !has pod.annotations workspaceExplicitFailAnnotation && pod.status.phase ≠ .failed then
        (pod.status.containerStatuses.findSome? (containerFailure false)).bind Prod.snd
      else none := by
  unfold extractFailure has
  rw [isPodBeingDeleted_eq_false hdel]
  cases pod.annotations.lookup workspaceExplicitFailAnnotation with
  | some reason => rfl
  | none =>
      by_cases hfailed : pod.status.phase = .failed
      · rw [if_pos hfailed, hfailed]
        rfl
      · rw [if_neg hfailed, decide_eq_true hfailed]
        -- What only the events say comes without a phase.
        cases pod.status.containerStatuses.findSome? (containerFailure false) with
        | none => rfl
        | some failure => rfl

/-- Of a pod that is not deleted only a failure for an unknown reason brings a phase, as long as
    no image is missing. -/
theorem phase_extractFailure {pod : Pod} (hdel : pod.deletionTimestamp = none)
    (hpull : ∀ cs ∈ pod.status.containerStatuses, failedPull cs = none)
    (wso : WorkspaceObjects) :
    (extractFailure wso pod).2 = if failsForUnknownReason pod then some .unknown else none := by
  rw [extractFailure_snd hdel, phase_findSome hpull, failsForUnknownReason]
  cases !has pod.annotations workspaceExplicitFailAnnotation &&
      decide (pod.status.phase ≠ .failed) with
  | true => rw [if_pos rfl, Bool.true_and]
  | false => rw [if_neg Bool.false_ne_true, Bool.false_and, if_neg Bool.false_ne_true]

variable {wso : WorkspaceObjects} {pod : Pod} {result : WorkspaceStatus Stamp}
  {format : TimeFormat Time Stamp}

/-- No container makes a workspace that was ready look as if it was being created. -/
theorem phase_of_pending (hready : wasEverReady wso = true) :
    (statusOfPending wso pod result).phase = .pending := by
  have hround : ∀ cs ∈ pod.status.containerStatuses, pendingContainer wso result cs = none := by
    intro cs _
    unfold pendingContainer
    cases cs.state.waiting with
    | none => rfl
    | some waiting => simp only [hready, if_true, ite_self]
  rw [statusOfPending, List.findSome?_eq_none_iff.mpr hround]

/-- The phase a container of a running pod stands for, if it does for any. -/
theorem runningContainer_phase (wso : WorkspaceObjects) (pod : Pod)
    (result : WorkspaceStatus Stamp) (cs : ContainerStatus) :
    (runningContainer wso pod result cs).map (·.phase) =
      if isInterrupted cs then some .interrupted
      else if has pod.annotations workspaceNeverReadyAnnotation && !cs.ready then some .creating
      else none := by
  unfold runningContainer
  by_cases hunknown : exitCode cs = some containerUnknownExitCode
  · have hi : isInterrupted cs = true := decide_eq_true (.inl hunknown)
    rw [if_pos hunknown, hi]
    cases hasNetworkNotReadyEvent wso <;> rfl
  · by_cases hkilled : exitCode cs = some containerKilledExitCode
    · have hi : isInterrupted cs = true := decide_eq_true (.inr (.inl hkilled))
      rw [if_neg hunknown, if_pos hkilled, hi]
      rfl
    · by_cases hrestart : (!cs.ready) = true ∧ cs.restartCount > 0
      · have hi : isInterrupted cs = true := decide_eq_true (.inr (.inr hrestart))
        rw [if_neg hunknown, if_neg hkilled, if_pos hrestart, hi]
        rfl
      · have hi : isInterrupted cs = false :=
          decide_eq_false (not_or.mpr ⟨hunknown, not_or.mpr ⟨hkilled, hrestart⟩⟩)
        rw [if_neg hunknown, if_neg hkilled, if_neg hrestart, hi]
        cases has pod.annotations workspaceNeverReadyAnnotation <;> cases cs.ready <;> rfl

/-- The loop ends at the first container that is interrupted or, in a workspace that is
    marked as never ready, not ready. -/
theorem runningContainers_phase (wso : WorkspaceObjects) (pod : Pod)
    (result : WorkspaceStatus Stamp) (containers : List ContainerStatus) :
    (containers.findSome? (runningContainer wso pod result)).map (·.phase) =
      (containers.find? fun cs => isInterrupted cs ||
        (has pod.annotations workspaceNeverReadyAnnotation && !cs.ready)).map
          fun cs => if isInterrupted cs then .interrupted else .creating := by
  induction containers with
  | nil => rfl
  | cons cs containers ih =>
      have hround := runningContainer_phase wso pod result cs
      rw [List.findSome?_cons, List.find?_cons]
      cases hi : isInterrupted cs with
      | true =>
          rw [hi, if_pos rfl, Option.map_eq_some_iff] at hround
          rcases hround with ⟨status, hstatus, hphase⟩
          rw [hstatus, Bool.true_or]
          exact congrArg some (hphase.trans (if_pos hi).symm)
      | false =>
          rw [hi, if_neg Bool.false_ne_true] at hround
          cases hunready : (has pod.annotations workspaceNeverReadyAnnotation && !cs.ready) with
          | true =>
              rw [hunready, if_pos rfl, Option.map_eq_some_iff] at hround
              rcases hround with ⟨status, hstatus, hphase⟩
              rw [hstatus, Bool.or_true]
              exact congrArg some (hphase.trans (if_neg (Bool.eq_false_iff.mp hi)).symm)
          | false =>
              rw [hunready, if_neg Bool.false_ne_true, Option.map_eq_none_iff] at hround
              -- the loop goes on behind a container that is neither
              rw [hround]
              exact ih

theorem firstUserActivity_isOk (format : TimeFormat Time Stamp) (pod : Pod)
    (result : WorkspaceStatus Stamp) :
    (firstUserActivity format pod result).isOk = activityReadable format pod := by
  unfold firstUserActivity activityReadable
  cases pod.annotations.lookup firstUserActivityAnnotation with
  | none => rfl
  | some text =>
      cases hparse : format.parse text with
      | error err => simp only [hparse]; rfl
      | ok t =>
          cases hproto : format.timestampProto t with
          | error err => simp only [hparse, hproto]; rfl
          | ok pt => simp only [hparse, hproto]; rfl

/-- The phase of a pod that runs, unless its annotation cannot be read. -/
theorem phase_of_running {status : WorkspaceStatus Stamp}
    (h : statusOfRunning format wso pod result = .ok status) :
    status.phase = ((pod.status.containerStatuses.find? fun cs => isInterrupted cs ||
        (has pod.annotations workspaceNeverReadyAnnotation && !cs.ready)).map
          fun cs => if isInterrupted cs then .interrupted else .creating).getD
      (if isWorkspaceHeadless wso || !has pod.annotations workspaceNeverReadyAnnotation then
        .running else .initializing) := by
  unfold statusOfRunning at h
  cases hactivity : firstUserActivity format pod result with
  | error err =>
      rw [hactivity] at h
      exact absurd h nofun
  | ok read =>
      rw [hactivity] at h
      have hloop := runningContainers_phase wso pod read pod.status.containerStatuses
      rw [← Except.ok.inj h, ← hloop]
      cases pod.status.containerStatuses.findSome? (runningContainer wso pod read) with
      | some found => rfl
      | none =>
          dsimp only [Option.map_none, Option.getD_none]
          cases isWorkspaceHeadless wso with
          | true => rfl
          | false =>
              cases has pod.annotations workspaceNeverReadyAnnotation with
              | true => rfl
              | false => rfl

theorem forall_ok_iff {status : WorkspaceStatus Stamp} {p : WorkspaceStatus Stamp → Prop} :
    (∀ status', (.ok status : Except String _) = .ok status' → p status') ↔ p status :=
  ⟨fun h => h status rfl, fun h _ heq => Except.ok.inj heq ▸ h⟩

theorem not_regressed_of_unknown {phase : WorkspacePhase} (h : phase = .unknown) :
    ¬ Regressed phase := by
  rw [h]
  decide

/-- A running pod of a workspace that was ready. -/
theorem not_regressed_running_iff :
    (∀ status, statusOfRunning format wso pod result = .ok status → ¬ Regressed status.phase) ↔
      has pod.annotations workspaceNeverReadyAnnotation = false ∨
      activityReadable format pod = false ∨
      ((pod.status.containerStatuses.find? fun cs => isInterrupted cs || !cs.ready).map
        isInterrupted).getD (isWorkspaceHeadless wso) = true := by
  have hphase := fun status (h : statusOfRunning format wso pod result = .ok status) =>
    phase_of_running h
  have hread : (statusOfRunning format wso pod result).isOk = activityReadable format pod := by
    rw [← firstUserActivity_isOk format pod result, statusOfRunning]
    cases firstUserActivity format pod result with
    | error err => rfl
    | ok read => rfl
  cases hrunning : statusOfRunning format wso pod result with
  | error err =>
      rw [hrunning] at hread
      exact iff_of_true (fun _ h => absurd h nofun) (.inr (.inl hread.symm))
  | ok status =>
      have hthis := hphase status hrunning
      rw [hrunning] at hread
      rw [forall_ok_iff, ← hread, hthis]
      cases hnever : has pod.annotations workspaceNeverReadyAnnotation with
      | false =>
          -- a container at which the loop ends is interrupted
          refine iff_of_true ?_ (.inl rfl)
          cases hfind : pod.status.containerStatuses.find? fun cs => isInterrupted cs ||
              (false && !cs.ready) with
          | none => simp [Regressed]
          | some cs =>
              have hi := List.find?_some hfind
              rw [Bool.false_and, Bool.or_false] at hi
              simp [Regressed, hi]
      | true =>
          have hok : (.ok status : Except String (WorkspaceStatus Stamp)).isOk = true := rfl
          simp only [Bool.true_and, hok]
          cases pod.status.containerStatuses.find? fun cs => isInterrupted cs || !cs.ready with
          | none => cases isWorkspaceHeadless wso <;> decide
          | some cs =>
              rw [Option.map_some, Option.map_some, Option.getD_some, Option.getD_some]
              cases isInterrupted cs <;> decide

/-- For every pod of a workspace that was ready, unless it is deleted or one of its containers
    waits for an image that could not be pulled. The phase is computed anew from the pod each
    time, without looking at what it was, so whether a user sees a running workspace start again
    is up to the order of the checks. -/
theorem not_regressed_iff (hdel : pod.deletionTimestamp = none)
    (hready : wasEverReady wso = true)
    (hpull : ∀ cs ∈ pod.status.containerStatuses, failedPull cs = none) :
    (∀ status, extractStatusFromPod format result wso pod = .ok status →
      ¬ Regressed status.phase) ↔ KeepsPhase format wso pod := by
  have hdeleted := isPodBeingDeleted_eq_false hdel
  unfold extractStatusFromPod KeepsPhase
  dsimp only
  rw [phase_extractFailure hdel hpull]
  cases hunknown : failsForUnknownReason pod with
  | true => exact iff_of_true (forall_ok_iff.mpr (not_regressed_of_unknown rfl)) (.inl rfl)
  | false =>
      rw [if_neg Bool.false_ne_true]
      dsimp only
      rw [if_neg (Bool.eq_false_iff.mp hdeleted)]
      cases hphase : pod.status.phase with
      | pending =>
          -- no branch for a pending pod knows of a workspace that was ready
          refine iff_of_false ?_ (by simp)
          rw [forall_ok_iff, phase_of_pending hready]
          decide
      | running =>
          -- only here the mark of today is asked without the former one
          rw [not_regressed_running_iff]
          simp
      | unknown =>
          exact iff_of_true (forall_ok_iff.mpr (not_regressed_of_unknown rfl)) (.inr (by simp))
      | succeeded | failed | other =>
          refine iff_of_true ?_ (.inr (by simp))
          split_ifs
          · exact forall_ok_iff.mpr (not_regressed_of_unknown rfl)
          · exact forall_ok_iff.mpr (not_regressed_of_unknown rfl)

/-- Times that are never read, for pods without that annotation. -/
def noTimes : TimeFormat Unit Unit where
  parse _ := .error "not a time"
  timestampProto t := .ok t

/-- The status before anything is known. -/
def noStatus : WorkspaceStatus Unit where
  phase := .unknown
  message := ""
  conditions := ⟨"", "", .false, .false, none⟩

/-- The pod of a workspace with the mark of the former version. -/
def legacyPod (phase : PodPhase) (never : Bool) (containers : List ContainerStatus) : Pod where
  annotations :=
    let marks : Map String String := AList.insert deprecatedWorkspaceReadyAnnotation "true" ∅
    if never then marks.insert workspaceNeverReadyAnnotation "true" else marks
  labels := ∅
  deletionTimestamp := none
  status := ⟨phase, "", "", containers⟩

/-- A workspace that is only a pod. -/
def objectsOf (pod : Pod) : WorkspaceObjects := ⟨some pod, none, []⟩

/-- The workspace container after its image could not be pulled, was killed, or is just
    being started. -/
def container (waiting : Option Waiting) (terminated : Option Terminated) : ContainerStatus where
  name := "workspace"
  state := ⟨waiting, terminated⟩
  lastTerminationState := ⟨none, none⟩
  ready := false
  restartCount := 0

/-- A workspace that was ready and whose container was killed is interrupted. -/
theorem not_regressed_killed :
    ∃ status, extractStatusFromPod noTimes noStatus
      (objectsOf (legacyPod .running true [container none (some ⟨137, "Error", ""⟩)]))
      (legacyPod .running true [container none (some ⟨137, "Error", ""⟩)]) = .ok status ∧
        ¬ Regressed status.phase := by
  have hnot : ∀ status, extractStatusFromPod noTimes noStatus
      (objectsOf (legacyPod .running true [container none (some ⟨137, "Error", ""⟩)]))
      (legacyPod .running true [container none (some ⟨137, "Error", ""⟩)]) = .ok status →
        ¬ Regressed status.phase :=
    (not_regressed_iff rfl (by decide) (by decide)).mpr (by decide)
  exact ⟨_, rfl, hnot _ rfl⟩

/-- A workspace that was ready is pending when its pod is, and initializing when the mark
    of today is still there. -/
theorem regressed_legacyPod :
    (∀ phase never, (legacyPod phase never []).deletionTimestamp = none ∧
      wasEverReady (objectsOf (legacyPod phase never [])) = true) ∧
    (∃ status, extractStatusFromPod noTimes noStatus (objectsOf (legacyPod .pending false []))
      (legacyPod .pending false []) = .ok status ∧ status.phase = .pending) ∧
    ∃ status, extractStatusFromPod noTimes noStatus (objectsOf (legacyPod .running true []))
      (legacyPod .running true []) = .ok status ∧ status.phase = .initializing := by
  refine ⟨fun phase never => ⟨rfl, ?_⟩, ⟨_, rfl, rfl⟩, _, rfl, rfl⟩
  cases never <;> rfl

/-! ## A pod that is being deleted -/

/-- The termination is a failure also of a pod that is being deleted. -/
def settles (t : Terminated) : Bool :=
  t.message ≠ "" ∨ t.reason = "Completed"

/-- The first container of which the failure of a pod that is being deleted is read
    waits for its image. -/
def pullDecides (containers : List ContainerStatus) : Bool :=
  (containers.find? fun cs => (failedPull cs).isSome || (terminationState cs).any settles).any
    fun cs => (failedPull cs).isSome

/-- The pod has failed before it was stopped, or its failure comes without a phase. -/
def WinsOverFailure (pod : Pod) : Prop :=
  has pod.annotations workspaceFailedBeforeStoppingAnnotation = true ∨
    has pod.annotations workspaceExplicitFailAnnotation = true ∨ pod.status.phase = .failed ∨
    pullDecides pod.status.containerStatuses = false

instance (pod : Pod) : Decidable (WinsOverFailure pod) :=
  inferInstanceAs (Decidable (_ ∨ _ ∨ _ ∨ _))

/-- The pod is stopping, and it has not failed unless it had before. -/
def DeletionWins (pod : Pod) (r : Except String (WorkspaceStatus Stamp)) : Prop :=
  ∃ status, r = .ok status ∧ status.phase = .stopping ∧ (status.conditions.failed ≠ "" →
    has pod.annotations workspaceFailedBeforeStoppingAnnotation = true)

/-- For a pod that is being deleted only a message or a completion counts, and neither brings a
    phase. -/
theorem terminationFailure_deleted (name : String) (t : Terminated) :
    (terminationFailure true name t).isSome = settles t ∧
      (terminationFailure true name t).bind Prod.snd = none := by
  unfold terminationFailure settles
  by_cases hmessage : t.message = ""
  · by_cases hcompleted : t.reason = "Completed"
    · simp [hmessage, hcompleted]
    · simp [hmessage, hcompleted]
  · simp [hmessage]

/-- One round of the loop over the containers of a pod that is being deleted. -/
theorem containerFailure_deleted (cs : ContainerStatus) :
    (∃ message : String, failedPull cs = some message ∧ containerFailure true cs =
      some (s!"cannot pull image: {message}", some .stopping)) ∨
    (failedPull cs = none ∧
      (containerFailure true cs).isSome = (terminationState cs).any settles ∧
      (containerFailure true cs).bind Prod.snd = none) := by
  unfold containerFailure
  cases failedPull cs with
  | some message => exact .inl ⟨message, rfl, rfl⟩
  | none =>
      refine .inr ⟨rfl, ?_⟩
      cases terminationState cs with
      | none => exact ⟨rfl, rfl⟩
      | some t => exact terminationFailure_deleted cs.name t

/-- Where the missing image comes before such an end of a container, the failure is that of the
    image, and brings a phase. -/
theorem findSome_of_pullDecides {containers : List ContainerStatus}
    (h : pullDecides containers = true) :
    ∃ message : String, containers.findSome? (containerFailure true) =
      some (s!"cannot pull image: {message}", some .stopping) := by
  induction containers with
  | nil => exact absurd h Bool.false_ne_true
  | cons cs containers ih =>
      unfold pullDecides at h ih
      rw [List.find?_cons] at h
      rw [List.findSome?_cons]
      rcases containerFailure_deleted cs with ⟨message, hpull, hfailure⟩ | ⟨hpull, hsome, _⟩
      · rw [hfailure]
        exact ⟨message, rfl⟩
      · rw [hpull, Option.isSome_none, Bool.false_or, ← hsome] at h
        cases hround : containerFailure true cs with
        | none =>
            rw [hround] at h
            exact ih h
        | some failure =>
            rw [hround] at h
            dsimp only [Option.isSome_some, Option.any_some] at h
            rw [hpull] at h
            exact absurd h Bool.false_ne_true

theorem findSome_of_not_pullDecides {containers : List ContainerStatus}
    (h : pullDecides containers = false) :
    (containers.findSome? (containerFailure true)).bind Prod.snd = none := by
  induction containers with
  | nil => rfl
  | cons cs containers ih =>
      unfold pullDecides at h ih
      rw [List.find?_cons] at h
      rw [List.findSome?_cons]
      rcases containerFailure_deleted cs with ⟨message, hpull, _⟩ | ⟨hpull, hsome, hphase⟩
      · rw [hpull, Option.isSome_some, Bool.true_or] at h
        dsimp only [Option.any_some] at h
        rw [hpull] at h
        exact absurd h.symm Bool.false_ne_true
      · rw [hpull, Option.isSome_none, Bool.false_or, ← hsome] at h
        cases hround : containerFailure true cs with
        | none =>
            rw [hround] at h
            exact ih h
        | some failure =>
            rw [hround] at hphase
            exact hphase

/-- The failure of a pod that is being deleted comes with a phase only when a container
    waits for its image, and then the phase is the right one. -/
theorem extractFailure_deleted (hdel : isPodBeingDeleted pod = true) (wso : WorkspaceObjects) :
    ((extractFailure wso pod).2 = none ∧
      (has pod.annotations workspaceExplicitFailAnnotation = true ∨ pod.status.phase = .failed ∨
        pullDecides pod.status.containerStatuses = false)) ∨
    (¬ (has pod.annotations workspaceExplicitFailAnnotation = true ∨ pod.status.phase = .failed ∨
        pullDecides pod.status.containerStatuses = false) ∧
      ∃ message : String, extractFailure wso pod =
        (s!"cannot pull image: {message}", some .stopping)) := by
  unfold extractFailure has
  rw [hdel]
  cases pod.annotations.lookup workspaceExplicitFailAnnotation with
  -- the explicit failure and that of the pod come before the containers
  | some reason => exact .inl ⟨rfl, .inl rfl⟩
  | none =>
      by_cases hfailed : pod.status.phase = .failed
      · rw [if_pos hfailed]
        exact .inl ⟨rfl, .inr (.inl hfailed)⟩
      · rw [if_neg hfailed]
        cases hpull : pullDecides pod.status.containerStatuses with
        | true =>
            rcases findSome_of_pullDecides hpull with ⟨message, hmessage⟩
            rw [hmessage]
            exact .inr ⟨by simp [hfailed], message, rfl⟩
        | false =>
            have hphase := findSome_of_not_pullDecides hpull
            refine .inl ⟨?_, .inr (.inr rfl)⟩
            cases hloop : pod.status.containerStatuses.findSome? (containerFailure true) with
            | none => rfl
            | some failure =>
                rw [hloop] at hphase
                exact hphase

/-- Whatever else is said of it, a pod that is being deleted is stopping. -/
theorem stopping_of_deleted (hdel : isPodBeingDeleted pod = true) :
    ∃ status, extractStatusFromPod format result wso pod = .ok status ∧
      status.phase = .stopping := by
  unfold extractStatusFromPod
  dsimp only
  rcases extractFailure_deleted hdel wso with ⟨hphase, _⟩ | ⟨_, message, hfailure⟩
  · rw [hphase]
    dsimp only
    rw [if_pos hdel]
    refine ⟨_, rfl, ?_⟩
    unfold statusOfDeleted
    split_ifs <;> rfl
  · rw [hfailure]
    exact ⟨_, rfl, rfl⟩

/-- For every pod that is being deleted. The phase is that it is stopping, always. A failure is
    what stays of it in the end, so one that was only found while the pod went down is not to be
    reported. -/
theorem deletionWins_iff (hdel : isPodBeingDeleted pod = true) :
    DeletionWins pod (extractStatusFromPod format result wso pod) ↔ WinsOverFailure pod := by
  unfold DeletionWins WinsOverFailure extractStatusFromPod
  dsimp only
  rcases extractFailure_deleted hdel wso with ⟨hphase, hopen⟩ | ⟨hpull, message, hfailure⟩
  · -- without a phase, the failure is forgotten unless it was there before
    rw [hphase]
    dsimp only
    rw [if_pos hdel]
    refine iff_of_true ?_ (.inr hopen)
    unfold statusOfDeleted
    cases hbefore : has pod.annotations workspaceFailedBeforeStoppingAnnotation with
    | true => exact ⟨_, rfl, rfl, fun _ => rfl⟩
    | false => exact ⟨_, rfl, rfl, fun hne => absurd rfl hne⟩
  · rw [hfailure]
    have hne : s!"cannot pull image: {message}" ≠ "" := by
      intro heq
      rw [String.append_eq_empty_iff] at heq
      exact absurd heq.1 (by simp [toString])
    constructor
    · rintro ⟨status, hstatus, _, hfailed⟩
      rw [← Except.ok.inj hstatus] at hfailed
      exact .inl (hfailed hne)
    · rintro (hbefore | hrest)
      · exact ⟨_, rfl, rfl, fun _ => hbefore⟩
      · exact absurd hrest hpull

/-- A pod that is deleted while its image cannot be pulled, with the container behind
    another one. -/
def deletedPod (annotations : Map String String) (containers : List ContainerStatus) : Pod where
  annotations := annotations
  labels := ∅
  deletionTimestamp := some 0
  status := ⟨.pending, "", "", containers⟩

/-- A container whose image is not there. -/
def backOff : ContainerStatus :=
  container (some ⟨"ImagePullBackOff", "Back-off pulling image"⟩) none

/-- The failure of a container before it is found first, and forgotten. -/
theorem deletionWins_completed :
    DeletionWins (deletedPod ∅ [container none (some ⟨0, "Completed", ""⟩), backOff])
      (extractStatusFromPod noTimes noStatus
        (objectsOf (deletedPod ∅ [container none (some ⟨0, "Completed", ""⟩), backOff]))
        (deletedPod ∅ [container none (some ⟨0, "Completed", ""⟩), backOff])) :=
  (deletionWins_iff rfl).mpr (by decide)

/-- Its own failure is not forgotten, without any mark that the pod had failed. -/
theorem failed_backOff :
    ∃ status, extractStatusFromPod noTimes noStatus (objectsOf (deletedPod ∅ [backOff]))
        (deletedPod ∅ [backOff]) = .ok status ∧
      status.phase = .stopping ∧
      status.conditions.failed = "cannot pull image: Back-off pulling image" ∧
      has (deletedPod ∅ [backOff]).annotations workspaceFailedBeforeStoppingAnnotation = false :=
  ⟨_, rfl, rfl, rfl, rfl⟩

end Status

end WsManager

end Nxpod
