import Nxpod.WsManager.Report

/-!
# The Timeouts of a Workspace

`isWorkspaceTimedOut` of ws-manager says whether a workspace has taken too long.
The phase of the workspace decides which timeout counts, and from when. A
workspace with a pod may be waiting for its node, starting, running or
interrupted. One without a pod may be stopping, and the state that outlives the
pod says since when.

A comment in the source says that a pod that is in none of the phases with a
timeout is stopping or stopped. There is one more, the unknown phase, and a pod
stays in it for as long as the reason is there. Such a workspace never times
out.

Reading a custom timeout is a parameter.

## Main definitions

* `Timeouts`, `Manager`: The configuration, and the last activities.
* `decideTimeout`, `podTimeout`, `plisTimeout`: How long is too long.
* `isWorkspaceTimedOut`: The reason of the timeout, which is empty without one.
* `Exceeds`: More time has passed than any timeout allows.
* `KnownPhase`: The pods of which the phase can be told.

## Theorems

* `containerFailure_cases`, `phase_extractFailure`: The phase of a failure.
* `timed_or_unknown`: A pod has a phase with a timeout, or an unknown one.
* `timesOut_iff`: When a workspace times out after all timeouts.
-/

namespace Nxpod

namespace WsManager

namespace Timeout

open Finalize ( workspaceIDAnnotation)
open Objects Report
open Status (WorkspacePhase ContainerStatus PodPhase failedPull terminationState explained
  unexplained containerFailure extractFailure extractStatusFromPod statusOfPending statusOfRunning)

/-! ## The configuration -/

/-- The times in the order of the configuration. -/
structure Timeouts where
  totalStartup : Duration
  initialization : Duration
  regularWorkspace : Duration
  headlessWorkspace : Duration
  afterClose : Duration
  contentFinalization : Duration
  stopping : Duration
  interrupted : Duration

/-- All of them, for what is said about each. -/
def Timeouts.all (t : Timeouts) : List Duration :=
  [t.totalStartup, t.initialization, t.regularWorkspace, t.headlessWorkspace, t.afterClose,
    t.contentFinalization, t.stopping, t.interrupted]

/-- The last activities are by the IDs of workspaces. -/
structure Manager where
  timeouts : Timeouts
  activity : Map String Int

/-- The activity of a workspace is kept in memory alone, so after a restart there is none until
    the next one. -/
def Manager.getWorkspaceActivity (m : Manager) (workspaceID : String) : Option Int :=
  m.activity.lookup workspaceID

/-- The user has closed the workspace. -/
def workspaceClosedAnnotation : String := "nxpod/closed"

/-! ## What took too long -/

/-- What a workspace was doing for too long is part of the reason that is given. -/
def activityInit : String := "initialization"

/-- The workspace has not come up. -/
def activityStartup : String := "startup"

/-- The pod is there, and its containers are not. -/
def activityCreatingContainers : String := "creating containers"

/-- The containers wait for their images. -/
def activityPullingImages : String := "pulling images"

/-- Nobody is there to be active. -/
def activityRunningHeadless : String := "running the headless workspace"

/-- The user has done nothing for a while. -/
def activityNone : String := "period of inactivity"

/-- The user has gone away. -/
def activityClosed : String := "after being closed"

/-- The workspace has not come back. -/
def activityInterrupted : String := "workspace interruption"

/-- The pod has not gone. -/
def activityStopping : String := "stopping"

/-- The pod has gone, and the content is not there yet. -/
def activityBackup : String := "backup"

/-- At least two characters. -/
def twoDigits (n : Int) : String :=
  if 0 ≤ n ∧ n < 10 then "0" ++ toString n else toString n

/-- A duration in hours and minutes, rounded, for a reason that is read by people. -/
def formatDuration (d : Duration) : String :=
  let d := (d.round Duration.minute).ns
  let h := d.tdiv Duration.hour
  let m := (d - h * Duration.hour).tdiv Duration.minute
  s!"{twoDigits h}h{twoDigits m}m"

/-- `decide` of the source. -/
def decideTimeout (now start : Int) (timeout : Duration) (activity : String) : String :=
  let inactivity := Duration.sub now start
  if inactivity.ns < timeout.ns then ""
  else s!"workspace timed out after {activity} took longer than {formatDuration inactivity}"

/-- A custom timeout that cannot be read is as if it was not there. -/
def inactivityTimeout (parseDuration : String → Except String Duration) (m : Manager)
    (pod : Pod) : Duration :=
  match pod.annotations.lookup customTimeoutAnnotation with
  | none => m.timeouts.regularWorkspace
  | some ctv => match parseDuration ctv with
    | .error _ => m.timeouts.regularWorkspace
    | .ok ct => ct

variable {Stamp : Type}

/-- A workspace with a pod. -/
def podTimeout (parseDuration : String → Except String Duration) (m : Manager) (now : Int)
    (wso : WorkspaceObjects) (pod : Pod) (status : Report.WorkspaceStatus Stamp)
    (lastActivity : Option Int) : String :=
  let start := pod.creationTimestamp
  match status.phase with
  | .pending => decideTimeout now start m.timeouts.initialization activityInit
  | .initializing => decideTimeout now start m.timeouts.totalStartup activityStartup
  | .creating =>
      decideTimeout now start m.timeouts.totalStartup
        (if status.conditions.pullingImages = .true then activityPullingImages
        else activityCreatingContainers)
  | .running =>
      if isWorkspaceHeadless wso then
        decideTimeout now start m.timeouts.headlessWorkspace activityRunningHeadless
      else match lastActivity with
        | none => decideTimeout now start m.timeouts.totalStartup activityNone
        | some lastActivity =>
            if Status.has pod.annotations workspaceClosedAnnotation then
              decideTimeout now lastActivity m.timeouts.afterClose activityClosed
            else decideTimeout now lastActivity (inactivityTimeout parseDuration m pod) activityNone
  | .interrupted =>
      -- An activity counts here, but the pod's own timeout does not.
      decideTimeout now (lastActivity.getD start) m.timeouts.interrupted activityInterrupted
  -- The source takes this for the branch of the phases that are handled without a pod.
  | .unknown | .stopping | .stopped => ""

/-- There is nothing to tell the time by. -/
def noObjects : String :=
  "cannot determine workspace timeout: we have neither pod nor pod lifecycle " ++
    "independent state"

/-- A workspace without a pod. -/
def plisTimeout (env : Env Stamp) (m : Manager) (now : Int) (cfg : ConfigMap)
    (status : Report.WorkspaceStatus Stamp) : Except String String :=
  match unmarshalPodLifecycleIndependentState env cfg with
  | .error err => .error s!"cannot determine workspace timeout: {err}"
  | .ok none => .error noObjects
  | .ok (some plis) => match status.phase with
    | .stopping => match plis.stoppingSince with
      | none =>
          .error "cannot determine workspace timeout: we don't know when we started stopping"
      | some stoppingSince => .ok
          (decideTimeout now stoppingSince m.timeouts.stopping
            (if status.finalBackupComplete = .true then activityStopping else activityBackup))
    | .stopped => .ok ""
    | _ => .error noObjects

/-- The reason is empty where the workspace has time left. Where its status cannot be computed
    there is no answer at all. -/
def isWorkspaceTimedOut (env : Env Stamp) (parseDuration : String → Except String Duration)
    (m : Manager) (now : Int) (wso : WorkspaceObjects) : Except Failure String :=
  match wso.workspaceID with
  | none => .error (.error s!"workspace has no {workspaceIDAnnotation} annotation")
  | some workspaceID =>
      match getWorkspaceStatus env m.timeouts.regularWorkspace wso with
      | .error err => .error (err.wrap "cannot determine workspace phase")
      | .ok status => match wso.pod, wso.plis with
        | some pod, _ => .ok
            (podTimeout parseDuration m now wso pod status (m.getWorkspaceActivity workspaceID))
        | none, some cfg => match plisTimeout env m now cfg status with
          | .error err => .error (.error err)
          | .ok reason => .ok reason
        | none, none => .error (.error noObjects)

/-! ## The phase of a failure -/

/-- The container settles whether the failure of a pod comes with a phase. -/
def settles (cs : ContainerStatus) : Bool :=
  (failedPull cs).isSome || (terminationState cs).any fun t => explained t || unexplained t

/-- The failure of a pod is read off its containers, and what settles it is there. -/
def settledBy (pod : Status.Pod) (p : ContainerStatus → Bool) : Bool :=
  !Status.has pod.annotations Status.workspaceExplicitFailAnnotation &&
    pod.status.phase ≠ .failed && (pod.status.containerStatuses.find? settles).any p

/-- The first container that settles it waits for an image that cannot be pulled. -/
def waitsForImage (pod : Status.Pod) : Bool :=
  settledBy pod fun cs => (failedPull cs).isSome

/-- The first container that settles it was terminated for a reason that nobody can name. -/
def failsUnnamed (pod : Status.Pod) : Bool :=
  settledBy pod fun cs => (failedPull cs).isNone && (terminationState cs).any unexplained

/-- A container of the pod waits for its image, or the pod is pending or running and no
    container was terminated for a reason that nobody can name. -/
def KnownPhase (pod : Status.Pod) : Prop :=
  waitsForImage pod = true ∨
    (failsUnnamed pod = false ∧ (pod.status.phase = .pending ∨ pod.status.phase = .running))

instance (pod : Status.Pod) : Decidable (KnownPhase pod) :=
  inferInstanceAs (Decidable (_ ∨ (_ ∧ _)))

/-- One round of the loop over the containers of a pod that is not deleted. -/
theorem containerFailure_cases (cs : ContainerStatus) :
    ((failedPull cs).isSome = true ∧ settles cs = true ∧
      ∃ text, containerFailure false cs = some (text, some .creating)) ∨
    ((failedPull cs).isSome = false ∧ (terminationState cs).any unexplained = true ∧
      settles cs = true ∧ ∃ text, containerFailure false cs = some (text, some .unknown)) ∨
    ((failedPull cs).isSome = false ∧ (terminationState cs).any unexplained = false ∧
      settles cs = true ∧ ∃ text, containerFailure false cs = some (text, none)) ∨
    (settles cs = false ∧ containerFailure false cs = none) := by
  unfold settles containerFailure
  cases hpull : failedPull cs with
  | some message => exact .inl ⟨rfl, rfl, _, rfl⟩
  | none =>
      cases hstate : terminationState cs with
      | none => exact .inr (.inr (.inr ⟨rfl, rfl⟩))
      | some t =>
          rcases Status.terminationFailure_cases cs.name t with
            ⟨hun, text, htf⟩ | ⟨hun, hex, text, htf⟩ | ⟨hun, hex, htf⟩
          · exact .inr (.inl ⟨rfl, hun, by simp [hun], text, htf⟩)
          · exact .inr (.inr (.inl ⟨rfl, hun, by simp [hex], text, htf⟩))
          · exact .inr (.inr (.inr ⟨by simp [hun, hex], htf⟩))

/-- The loop ends at the first container that settles it. -/
theorem phase_containers (containers : List ContainerStatus) :
    (containers.findSome? (containerFailure false)).bind Prod.snd =
      if (containers.find? settles).any fun cs => (failedPull cs).isSome then some .creating
      else if (containers.find? settles).any fun cs =>
        (failedPull cs).isNone && (terminationState cs).any unexplained then some .unknown
      else none := by
  induction containers with
  | nil => rfl
  | cons cs containers ih =>
      rw [List.findSome?_cons, List.find?_cons]
      rcases containerFailure_cases cs with ⟨hpull, hsettles, text, hfailure⟩ |
        ⟨hpull, hun, hsettles, text, hfailure⟩ | ⟨hpull, hun, hsettles, text, hfailure⟩ |
        ⟨hsettles, hfailure⟩
      · simp [hfailure, hsettles, hpull]
      · -- Terminated for a reason without a name: this container settles it as unknown.
        rw [hfailure, hsettles]
        simp [hpull, hun, Option.isSome_eq_false_iff.mp hpull]
      · -- The reason is known, and leaves the phase to what Kubernetes says.
        rw [hfailure, hsettles]
        simp [hpull, hun]
      · -- Nothing failed here, and the loop goes on.
        rw [hfailure, hsettles]
        exact ih

/-- The failures of a pod that is not deleted and that bring a phase. -/
theorem phase_extractFailure {pod : Status.Pod} (hdel : pod.deletionTimestamp = none)
    (wso : Status.WorkspaceObjects) :
    (extractFailure wso pod).2 = if waitsForImage pod then some .creating
      else if failsUnnamed pod then some .unknown else none := by
  rw [Status.extractFailure_snd hdel, phase_containers, waitsForImage, failsUnnamed, settledBy,
    settledBy]
  cases !Status.has pod.annotations Status.workspaceExplicitFailAnnotation &&
      decide (pod.status.phase ≠ .failed) with
  | true => rw [if_pos rfl, Bool.true_and, Bool.true_and]
  | false => simp only [Bool.false_and, Bool.false_eq_true, if_false]

/-! ## The phase of a pod -/

/-- A phase that has a timeout while there is a pod. -/
def Timed (phase : WorkspacePhase) : Prop :=
  phase ≠ .unknown ∧ phase ≠ .stopping ∧ phase ≠ .stopped

instance (phase : WorkspacePhase) : Decidable (Timed phase) :=
  inferInstanceAs (Decidable (_ ∧ _ ∧ _))

variable {wso : Status.WorkspaceObjects} {pod : Status.Pod}
  {result status : Status.WorkspaceStatus Stamp} {format : Status.TimeFormat Int Stamp}

/-- A pod that is pending is in a phase that has a timeout. -/
theorem timed_statusOfPending : Timed (statusOfPending wso pod result).phase := by
  unfold statusOfPending
  split
  · next status hfound =>
      rcases List.exists_of_findSome?_eq_some hfound with ⟨cs, -, hcs⟩
      unfold Status.pendingContainer at hcs
      split at hcs
      · split_ifs at hcs
        cases hcs
        exact (by decide : Timed .creating)
      · cases hcs
  · exact (by decide : Timed .pending)

theorem timed_statusOfRunning (h : statusOfRunning format wso pod result = .ok status) :
    Timed status.phase := by
  rw [Status.phase_of_running h]
  cases pod.status.containerStatuses.find? fun cs => Status.isInterrupted cs ||
    (Status.has pod.annotations Status.workspaceNeverReadyAnnotation && !cs.ready) with
  | none =>
      rw [Option.map_none, Option.getD_none]
      split_ifs <;> decide
  | some cs =>
      rw [Option.map_some, Option.getD_some]
      split_ifs <;> decide

/-- A pod that is not deleted is neither stopping nor stopped, and nothing else is left out
    by the timeouts than the phase that is unknown. -/
theorem timed_or_unknown (hdel : pod.deletionTimestamp = none)
    (h : extractStatusFromPod format result wso pod = .ok status) :
    (KnownPhase pod ∧ Timed status.phase) ∨ (¬ KnownPhase pod ∧ status.phase = .unknown) := by
  have hdeleted := Status.isPodBeingDeleted_eq_false hdel
  unfold extractStatusFromPod at h
  dsimp only at h
  rw [phase_extractFailure hdel, hdeleted] at h
  -- A failure that comes with a phase ends the extraction before the pod's phase is read.
  cases hwaits : waitsForImage pod with
  | true =>
      rw [hwaits] at h
      cases h
      exact .inl ⟨.inl hwaits, (by decide : Timed .creating)⟩
  | false =>
      cases hunnamed : failsUnnamed pod with
      | true =>
          rw [hwaits, hunnamed] at h
          cases h
          exact .inr ⟨by simp [KnownPhase, hwaits, hunnamed], rfl⟩
      | false =>
          rw [hwaits, hunnamed] at h
          simp only [Bool.false_eq_true, if_false] at h
          have hknown : KnownPhase pod ↔
              pod.status.phase = .pending ∨ pod.status.phase = .running := by
            simp [KnownPhase, hwaits, hunnamed]
          rw [hknown]
          cases hphase : pod.status.phase with
          | pending =>
              rw [hphase] at h
              cases h
              exact .inl ⟨.inl rfl, timed_statusOfPending⟩
          | running =>
              rw [hphase] at h
              exact .inl ⟨.inr rfl, timed_statusOfRunning h⟩
          | unknown =>
              rw [hphase] at h
              cases h
              exact .inr ⟨by decide, rfl⟩
          -- These pods are done or lost, and none of them is taken for stopped.
          | succeeded | failed | other =>
              rw [hphase] at h
              refine .inr ⟨by simp, ?_⟩
              dsimp only at h
              split_ifs at h
              · cases h
                rfl
              · cases h
                rfl

/-! ## Timeouts -/

/-- More time has passed since then than any timeout allows, the configured ones and that
    of the pod. -/
def ExceedsFrom (parseDuration : String → Except String Duration) (m : Manager) (now : Int)
    (pod : Pod) (start : Int) : Prop :=
  (∀ timeout ∈ m.timeouts.all, timeout.ns < now - start) ∧
    ∀ ctv, pod.annotations.lookup customTimeoutAnnotation = some ctv →
      ∀ ct, parseDuration ctv = .ok ct → ct.ns < now - start

/-- So it has since the pod was created and since the last activity, if there was one. -/
def Exceeds (parseDuration : String → Except String Duration) (m : Manager) (now : Int)
    (wso : WorkspaceObjects) (pod : Pod) : Prop :=
  ExceedsFrom parseDuration m now pod pod.creationTimestamp ∧
    ∀ workspaceID, wso.workspaceID = some workspaceID →
      ∀ lastActivity, m.getWorkspaceActivity workspaceID = some lastActivity →
        ExceedsFrom parseDuration m now pod lastActivity

variable {parseDuration : String → Except String Duration} {m : Manager} {now start : Int}

theorem decideTimeout_ne {timeout : Duration} (h : timeout.ns < now - start) (activity : String) :
    decideTimeout now start timeout activity ≠ "" := by
  unfold decideTimeout
  rw [if_neg (Int.not_lt.mpr (Duration.le_sub_of_le (Int.le_of_lt h)))]
  intro heq
  simp [String.append_eq_empty_iff, toString] at heq

/-- Whichever timeout counts for the time without activity, it is exceeded. -/
theorem inactivityTimeout_lt {pod : Pod} (h : ExceedsFrom parseDuration m now pod start) :
    (inactivityTimeout parseDuration m pod).ns < now - start := by
  have hregular : m.timeouts.regularWorkspace.ns < now - start := h.1 _ (by simp [Timeouts.all])
  unfold inactivityTimeout
  cases hcustom : pod.annotations.lookup customTimeoutAnnotation with
  | none => exact hregular
  | some ctv =>
      dsimp only
      cases hparse : parseDuration ctv with
      | error err => exact hregular
      | ok ct => exact h.2 ctv hcustom ct hparse

theorem podTimeout_ne {wso : WorkspaceObjects} {pod : Pod} {status : Report.WorkspaceStatus Stamp}
    {lastActivity : Option Int} (hstart : ExceedsFrom parseDuration m now pod pod.creationTimestamp)
    (hlast : ∀ t, lastActivity = some t → ExceedsFrom parseDuration m now pod t)
    (htimed : Timed status.phase) :
    podTimeout parseDuration m now wso pod status lastActivity ≠ "" := by
  have hall : ∀ timeout ∈ m.timeouts.all, ∀ activity,
      decideTimeout now pod.creationTimestamp timeout activity ≠ "" :=
    fun timeout hmem activity => decideTimeout_ne (hstart.1 timeout hmem) activity
  unfold podTimeout
  cases hphase : status.phase with
  | unknown => exact absurd hphase htimed.1
  | stopping => exact absurd hphase htimed.2.1
  | stopped => exact absurd hphase htimed.2.2
  | pending | creating | initializing => exact hall _ (by simp [Timeouts.all]) _
  | interrupted =>
      cases lastActivity with
      | none => exact hall _ (by simp [Timeouts.all]) _
      | some t => exact decideTimeout_ne ((hlast t rfl).1 _ (by simp [Timeouts.all])) _
  | running =>
      dsimp only
      cases isWorkspaceHeadless wso with
      | true => exact hall _ (by simp [Timeouts.all]) _
      | false =>
          cases lastActivity with
          | none => exact hall _ (by simp [Timeouts.all]) _
          | some t =>
              cases Status.has pod.annotations workspaceClosedAnnotation with
              | true => exact decideTimeout_ne ((hlast t rfl).1 _ (by simp [Timeouts.all])) _
              | false => exact decideTimeout_ne (inactivityTimeout_lt (hlast t rfl)) _

/-- For every workspace with a pod that is not deleted, whatever its phase. When all timeouts
    are exceeded it is timed out exactly if its phase is known. A workspace that never times out
    is there until someone stops it, and costs as long. -/
theorem timesOut_iff {env : Env Stamp} {wso : WorkspaceObjects} {pod : Pod}
    {status : Report.WorkspaceStatus Stamp} (hpod : wso.pod = some pod)
    (hdel : pod.deletionTimestamp = none)
    (hstatus : getWorkspaceStatus env m.timeouts.regularWorkspace wso = .ok status)
    (hexceeds : Exceeds parseDuration m now wso pod) :
    (∃ reason, isWorkspaceTimedOut env parseDuration m now wso = .ok reason ∧ reason ≠ "") ↔
      KnownPhase pod.toPod := by
  -- A workspace that has a status has an ID.
  obtain ⟨workspaceID, hid⟩ : ∃ workspaceID, wso.workspaceID = some workspaceID := by
    cases hid : wso.workspaceID with
    | none =>
        unfold getWorkspaceStatus at hstatus
        rw [hid, hpod] at hstatus
        cases hstatus
    | some workspaceID => exact ⟨workspaceID, rfl⟩
  have hresult : isWorkspaceTimedOut env parseDuration m now wso = .ok
      (podTimeout parseDuration m now wso pod status (m.getWorkspaceActivity workspaceID)) := by
    unfold isWorkspaceTimedOut
    rw [hid, hpod]
    dsimp only
    rw [hstatus]
  rw [hresult]
  rcases phase_of_getWorkspaceStatus hpod hstatus with ⟨_, read, hread, hphase⟩
  rcases timed_or_unknown hdel hread with ⟨hknown, htimed⟩ | ⟨hunknown, hread⟩
  · refine iff_of_true ⟨_, rfl, ?_⟩ hknown
    exact podTimeout_ne hexceeds.1 (hexceeds.2 workspaceID hid) (hphase ▸ htimed)
  · refine iff_of_false ?_ hunknown
    -- The reason of the last branch is empty.
    rintro ⟨reason, hreason, hne⟩
    refine hne ((Except.ok.inj hreason).symm.trans ?_)
    unfold podTimeout
    rw [hphase, hread]

/-- No custom timeout can be read. -/
def noDuration (_ : String) : Except String Duration := .error "not a duration"

/-- Every timeout is a minute, and nothing was active. -/
def minuteManager : Manager where
  timeouts :=
    let minute := Duration.clamp Duration.minute
    ⟨minute, minute, minute, minute, minute, minute, minute, minute⟩
  activity := ∅

theorem exceeds_podWithPhase (phase : PodPhase) :
    Exceeds noDuration minuteManager (2 * Duration.minute) { pod := some (podWithPhase phase) }
      (podWithPhase phase) := by
  have hconfigured : ∀ timeout ∈ minuteManager.timeouts.all,
      timeout.ns < 2 * (Duration.minute : Int) - 0 := by
    decide
  refine ⟨⟨hconfigured, fun ctv h => ?_⟩, fun id _ t h => ?_⟩
  · cases h
  · cases h

/-- Two minutes after it was created, a pending pod times out. -/
theorem timesOut_pending : ∃ reason, isWorkspaceTimedOut readsNothing noDuration minuteManager
    (2 * Duration.minute) { pod := some (podWithPhase .pending) } = .ok reason ∧ reason ≠ "" :=
  (timesOut_iff rfl rfl rfl (exceeds_podWithPhase .pending)).mpr (by decide)

/-- A pod whose phase Kubernetes does not know does not. -/
theorem unknown_never_times_out :
    (podWithPhase .unknown).deletionTimestamp = none ∧
    Exceeds noDuration minuteManager (2 * Duration.minute) { pod := some (podWithPhase .unknown) }
      (podWithPhase .unknown) ∧
    (∃ status, getWorkspaceStatus readsNothing minuteManager.timeouts.regularWorkspace
      { pod := some (podWithPhase .unknown) } = .ok status ∧ status.phase = .unknown) ∧
    isWorkspaceTimedOut readsNothing noDuration minuteManager (2 * Duration.minute)
      { pod := some (podWithPhase .unknown) } = .ok "" :=
  ⟨rfl, exceeds_podWithPhase .unknown, ⟨_, rfl, rfl⟩, rfl⟩

end Timeout

end WsManager

end Nxpod
