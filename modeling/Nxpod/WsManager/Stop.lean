import Nxpod.WsManager.Patch

/-!
# Stopping a Workspace

`stopWorkspace` of ws-manager deletes the two services of a workspace and its
pod. Before that it computes the status of the workspace, to do nothing when it
is stopping already, and has it stored in the state that outlives the pod.

A comment in the source says that a workspace is stopped also when its status
cannot be computed. The tag with the phase is set all the same, and there is no
phase then. After the deletions, a service that was not there is not a failure.
Whether this was so for the first service is asked of the error of the second.

What the calls to the API server come to is given. The calls that are made are
recorded.

## Main definitions

* `KubeError`, `Outcomes`: What the calls come to.
* `stoppingPatch`: The state of a workspace that is stopping.
* `Call`, `Run`: The calls that are made, and what is returned.
* `stopWorkspace`: The source's function.
* `Stopped`: Pod and services are deleted.
* `ReturnsRightly`: There is no panic, and no error exactly when the workspace is
  stopped or was stopping.
* `MixesUp`, `StopsRightly`: The errors with a wrong result, and the condition.

## Theorems

* `resultOfDeletions_iff`: When no error is returned after the deletions.
* `resultOfDeletions_right_iff`: When that is right.
* `returnsRightly_iff`: When what is returned is right.
-/

namespace Nxpod

namespace WsManager

namespace Stop

open Objects Report
open Patch (Mark PatchFunction addMark)
open Ports ( servicePrefixAnnotation getPortsServiceName)

/-! ## Calls and their outcomes -/

/-- Of the errors of the API server only this one kind is told apart. -/
structure KubeError where
  notFound : Bool
  text : String

/-- What is not there has no error of this kind. -/
def isKubernetesObjNotFoundError : Option KubeError → Bool
  | none => false
  | some err => err.notFound

/-- How the state patch and the deletions end. -/
structure Outcomes where
  statePatch : Option String
  theiaServiceErr : Option KubeError
  portsServiceErr : Option KubeError
  podErr : Option KubeError

/-- The annotation by which the deletion is traced. -/
def traceIDAnnotation : String := "nxpod/traceid"

/-- The source's pods know their IP once they are on a node. -/
def stoppingPatch {Stamp : Type} (status : Report.WorkspaceStatus Stamp) (pod : Pod) (t : Int) :
    PatchFunction Stamp := fun plis =>
  ({ plis with
    stoppingSince := some t
    lastPodStatus := some { status with phase := .stopping }
    hostIP := if pod.hostIP ≠ "" then pod.hostIP else plis.hostIP }, true)

/-- What is asked of the API server. -/
inductive Call (Stamp : Type) where
  | patchState (patch : PatchFunction Stamp) (marks : List Mark)
  | deleteService (name : String) (gracePeriodSeconds : Int)
  | deletePod (name : String) (gracePeriodSeconds : Int)

/-- What a call of `stopWorkspace` has asked for, and how it ends. -/
structure Run (Stamp : Type) where
  calls : List (Call Stamp)
  result : Except Failure Unit

/-! ## Stopping -/

variable {Stamp : Type}

/-- Once the deletions were made. The error of the ports service is asked for in both
    cases. -/
def resultOfDeletions (o : Outcomes) : Except Failure Unit :=
  match o.podErr with
  | some podErr => .error (.error s!"stopWorkspace: {podErr.text}")
  -- The error that is asked for is not the one that is returned.
  | none => match o.theiaServiceErr, isKubernetesObjNotFoundError o.portsServiceErr with
    | some theiaServiceErr, false => .error (.error s!"stopWorkspace: {theiaServiceErr.text}")
    | _, _ => match o.portsServiceErr, isKubernetesObjNotFoundError o.portsServiceErr with
      | some portsServiceErr, false =>
          .error (.error s!"stopWorkspace: {portsServiceErr.text}")
      | _, _ => .ok ()

/-- The failure of the state patch is only logged. -/
def stopWithStatus (pod : Pod) (status : Report.WorkspaceStatus Stamp) (traceID : String)
    (t gracePeriodSeconds : Int) (o : Outcomes) : Run Stamp :=
  if status.phase = .stopping then ⟨[], .ok ()⟩
  else
    let patched := Call.patchState (stoppingPatch status pod t) [addMark traceIDAnnotation traceID]
    match pod.servicePrefix with
    | none =>
        { calls := [patched]
          result := .error (.error
            s!"stopWorkspace: pod {pod.name} has no nxpod/servicePrefix annotation") }
    | some servicePrefix =>
        { calls :=
            [patched, .deleteService (getTheiaServiceName servicePrefix) gracePeriodSeconds,
              .deleteService (getPortsServiceName servicePrefix) gracePeriodSeconds,
              .deletePod pod.name gracePeriodSeconds]
          result := resultOfDeletions o }

/-- Reading the phase of a status that could not be computed panics. -/
def stopWorkspace (env : Env Stamp) (regularWorkspace : Duration) (dryRun : Bool)
    (found : Except KubeError Pod) (traceID : String) (t gracePeriodSeconds : Int)
    (o : Outcomes) : Run Stamp :=
  if dryRun then ⟨[], .ok ()⟩
  else match found with
    | .error err =>
        ⟨[], .error (.error (if err.notFound then err.text else s!"stopWorkspace: {err.text}"))⟩
    | .ok pod => match getWorkspaceStatus env regularWorkspace { pod := some pod } with
      -- The tag with the phase is set before the status is found to be nil.
      | .error _ => ⟨[], .error .panic⟩
      | .ok status => stopWithStatus pod status traceID t gracePeriodSeconds o

/-! ## What should be returned -/

/-- The workspace is stopping as far as its status says. -/
def AlreadyStopping (env : Env Stamp) (regularWorkspace : Duration) (pod : Pod) : Prop :=
  ∃ status, getWorkspaceStatus env regularWorkspace { pod := some pod } = .ok status ∧
    status.phase = .stopping

/-- After the call the object is not there, or was not there before it. -/
def Gone (err : Option KubeError) : Prop :=
  err = none ∨ isKubernetesObjNotFoundError err = true

/-- The pod is deleted by a call that was made, and so are its services, unless they were
    not there. -/
def Stopped (pod : Pod) (o : Outcomes) (r : Run Stamp) : Prop :=
  ((∃ grace, .deletePod pod.name grace ∈ r.calls) ∧ o.podErr = none) ∧
    ∃ sp, pod.servicePrefix = some sp ∧
      ((∃ grace, .deleteService (getTheiaServiceName sp) grace ∈ r.calls) ∧
        Gone o.theiaServiceErr) ∧
      (∃ grace, .deleteService (getPortsServiceName sp) grace ∈ r.calls) ∧
        Gone o.portsServiceErr

/-- A call does not panic, and is successful if there is nothing left to delete. -/
structure ReturnsRightly (env : Env Stamp) (regularWorkspace : Duration) (pod : Pod)
    (o : Outcomes) (r : Run Stamp) : Prop where
  calm : r.result ≠ .error .panic
  nil : r.result = .ok () ↔ AlreadyStopping env regularWorkspace pod ∨ Stopped pod o r

/-- The theia service was not there and the ports service was, or the theia service could
    not be deleted and the ports service was not there. -/
def MixesUp (o : Outcomes) : Prop :=
  (isKubernetesObjNotFoundError o.theiaServiceErr = true ∧ o.portsServiceErr = none) ∨
    (¬ Gone o.theiaServiceErr ∧ isKubernetesObjNotFoundError o.portsServiceErr = true)

/-- The status can be computed, and it is stopping, or nothing gets as far as the errors of
    the services, or they are not mixed up. -/
def StopsRightly (env : Env Stamp) (regularWorkspace : Duration) (pod : Pod) (o : Outcomes) :
    Prop :=
  (∃ status, getWorkspaceStatus env regularWorkspace { pod := some pod } = .ok status) ∧
    (AlreadyStopping env regularWorkspace pod ∨ pod.servicePrefix = none ∨ o.podErr ≠ none ∨
      ¬ MixesUp o)

theorem resultOfDeletions_ne (o : Outcomes) : resultOfDeletions o ≠ .error .panic := by
  unfold resultOfDeletions
  repeat' split
  all_goals nofun

/-- The error of the theia service is taken for that of the ports service. -/
theorem resultOfDeletions_iff (o : Outcomes) :
    resultOfDeletions o = .ok () ↔ o.podErr = none ∧
      (o.theiaServiceErr = none ∨ isKubernetesObjNotFoundError o.portsServiceErr = true) ∧
      Gone o.portsServiceErr := by
  unfold resultOfDeletions Gone
  cases o.podErr with
  | some podErr => simp
  | none =>
      cases o.theiaServiceErr with
      | none =>
          cases o.portsServiceErr with
          | none => simp
          | some portsErr => cases h : portsErr.notFound <;> simp [isKubernetesObjNotFoundError, h]
      | some theiaErr =>
          cases o.portsServiceErr with
          | none => simp [isKubernetesObjNotFoundError]
          | some portsErr => cases h : portsErr.notFound <;> simp [isKubernetesObjNotFoundError, h]

theorem resultOfDeletions_right_iff {o : Outcomes} (hpod : o.podErr = none) :
    (resultOfDeletions o = .ok () ↔ Gone o.theiaServiceErr ∧ Gone o.portsServiceErr) ↔
      ¬ MixesUp o := by
  rw [resultOfDeletions_iff]
  unfold MixesUp Gone
  cases o.theiaServiceErr with
  | none => simp [hpod, isKubernetesObjNotFoundError]
  | some theiaErr =>
      cases o.portsServiceErr with
      | none => simp [hpod, isKubernetesObjNotFoundError]
      | some portsErr =>
          cases h : portsErr.notFound <;> simp [hpod, isKubernetesObjNotFoundError, h]

variable {env : Env Stamp} {regularWorkspace : Duration} {pod : Pod}
  {status : Report.WorkspaceStatus Stamp} {o : Outcomes}

/-- The calls are made once the prefix of the services is known. -/
theorem stopped_iff {sp : String} (traceID : String) (t gracePeriodSeconds : Int)
    (hphase : status.phase ≠ .stopping) (hsp : pod.servicePrefix = some sp) :
    Stopped pod o (stopWithStatus pod status traceID t gracePeriodSeconds o) ↔
      o.podErr = none ∧ Gone o.theiaServiceErr ∧ Gone o.portsServiceErr := by
  unfold Stopped stopWithStatus
  rw [if_neg hphase, hsp]
  simp

/-- Of a pod without the prefix the services cannot be named, and this is an error. -/
theorem result_of_no_prefix (traceID : String) (t gracePeriodSeconds : Int)
    (hphase : status.phase ≠ .stopping) (hsp : pod.servicePrefix = none) :
    ∃ text, (stopWithStatus pod status traceID t gracePeriodSeconds o).result =
      .error (.error text) := by
  unfold stopWithStatus
  rw [if_neg hphase, hsp]
  exact ⟨_, rfl⟩

/-- A pod that is not stopping already. -/
theorem returnsRightly_of_status (traceID : String) (t gracePeriodSeconds : Int)
    (hnot : ¬ AlreadyStopping env regularWorkspace pod) (hphase : status.phase ≠ .stopping) :
    ReturnsRightly env regularWorkspace pod o
      (stopWithStatus pod status traceID t gracePeriodSeconds o) ↔
      pod.servicePrefix = none ∨ o.podErr ≠ none ∨ ¬ MixesUp o := by
  cases hsp : pod.servicePrefix with
  | none =>
      rcases result_of_no_prefix (o := o) traceID t gracePeriodSeconds hphase hsp with
        ⟨text, hresult⟩
      -- An error is returned and no pod deleted, which is right.
      refine iff_of_true ⟨?_, ?_⟩ (.inl rfl)
      · rw [hresult]
        nofun
      · rw [hresult]
        refine iff_of_false nofun ?_
        rintro (h | ⟨-, sp, h, -⟩)
        · exact hnot h
        · rw [hsp] at h
          cases h
  | some sp =>
      have hresult : (stopWithStatus pod status traceID t gracePeriodSeconds o).result =
          resultOfDeletions o := by rw [stopWithStatus, if_neg hphase, hsp]
      have hstopped := stopped_iff (o := o) traceID t gracePeriodSeconds hphase hsp
      rw [or_iff_right nofun]
      cases hpod : o.podErr with
      | some podErr =>
          -- The error of the pod comes before those of the services.
          refine iff_of_true ⟨?_, ?_⟩ (.inl nofun)
          · rw [hresult]
            exact resultOfDeletions_ne o
          · rw [hresult, resultOfDeletions_iff, or_iff_right hnot, hstopped, hpod]
            exact iff_of_false (fun h => nomatch h.1) fun h => nomatch h.1
      | none =>
          rw [or_iff_right (not_not.mpr rfl), ← resultOfDeletions_right_iff hpod]
          constructor
          · intro h
            have hnil := h.nil
            rwa [hresult, or_iff_right hnot, hstopped, and_iff_right hpod] at hnil
          · intro h
            refine ⟨hresult ▸ resultOfDeletions_ne o, ?_⟩
            rwa [hresult, or_iff_right hnot, hstopped, and_iff_right hpod]

/-- For every pod and every combination of outcomes, unless it is a dry run. Both services are
    deleted before the pod is, and a service that is not found is as good as deleted. The check
    for one of them asks the error of the other. -/
theorem returnsRightly_iff (env : Env Stamp) (regularWorkspace : Duration) (pod : Pod)
    (traceID : String) (t gracePeriodSeconds : Int) (o : Outcomes) :
    ReturnsRightly env regularWorkspace pod o
      (stopWorkspace env regularWorkspace false (.ok pod) traceID t gracePeriodSeconds o) ↔
      StopsRightly env regularWorkspace pod o := by
  -- Without a dry run the status decides what is done.
  have hrun : stopWorkspace env regularWorkspace false (.ok pod) traceID t gracePeriodSeconds o =
      match getWorkspaceStatus env regularWorkspace { pod := some pod } with
      | .error _ => ⟨[], .error .panic⟩
      | .ok status => stopWithStatus pod status traceID t gracePeriodSeconds o := rfl
  rw [hrun]
  unfold StopsRightly
  cases hstatus : getWorkspaceStatus env regularWorkspace { pod := some pod } with
  | error failure =>
      refine iff_of_false (fun h => h.calm rfl) ?_
      rintro ⟨⟨status, h⟩, -⟩
      cases h
  | ok status =>
      have hstopping : AlreadyStopping env regularWorkspace pod ↔ status.phase = .stopping := by
        unfold AlreadyStopping
        rw [hstatus]
        exact ⟨fun ⟨_, heq, h⟩ => Except.ok.inj heq ▸ h, fun h => ⟨status, rfl, h⟩⟩
      by_cases hphase : status.phase = .stopping
      · have halready := hstopping.mpr hphase
        refine iff_of_true ?_ ⟨⟨status, rfl⟩, .inl halready⟩
        dsimp only
        rw [stopWithStatus, if_pos hphase]
        exact ⟨nofun, iff_of_true rfl (.inl halready)⟩
      · have hnot := fun h => hphase (hstopping.mp h)
        rw [and_iff_right ⟨status, rfl⟩, or_iff_right hnot]
        exact returnsRightly_of_status traceID t gracePeriodSeconds hnot hphase

/-- A pod that runs and has the prefix of its services. -/
def runningPod : Pod :=
  { podWithPhase .running with
    annotations := (podWithPhase .running).annotations.insert servicePrefixAnnotation "prefix" }

/-- The theia service is not there, and everything else is deleted. -/
def theiaNotFound : Outcomes where
  statePatch := none
  theiaServiceErr := some ⟨true, "services ws-prefix-theia not found"⟩
  portsServiceErr := none
  podErr := none

/-- A pod without containers has no status. Stopping it panics, and stopping one whose theia
    service is not there fails. -/
theorem stop_panics_and_fails :
    (stopWorkspace readsNothing (.clamp 0) false (.ok { runningPod with containers := [] })
      "trace" 0 30 theiaNotFound).result = .error .panic ∧
    ¬ AlreadyStopping readsNothing (.clamp 0) runningPod ∧
    Stopped runningPod theiaNotFound
      (stopWorkspace readsNothing (.clamp 0) false (.ok runningPod) "trace" 0 30 theiaNotFound) ∧
    (stopWorkspace readsNothing (.clamp 0) false (.ok runningPod) "trace" 0 30
      theiaNotFound).result =
      .error (.error "stopWorkspace: services ws-prefix-theia not found") := by
  refine ⟨rfl, ?_, ?_, rfl⟩
  · rintro ⟨status, hstatus, hphase⟩
    cases hstatus
    cases hphase
  · -- The state patch is the first of the four calls.
    refine ⟨⟨⟨30, .tail _ (.tail _ (.tail _ (.head _)))⟩, rfl⟩, "prefix", rfl, ?_, ?_⟩
    · exact ⟨⟨30, .tail _ (.head _)⟩, .inr rfl⟩
    · exact ⟨⟨30, .tail _ (.tail _ (.head _))⟩, .inl rfl⟩

end Stop

end WsManager

end Nxpod
