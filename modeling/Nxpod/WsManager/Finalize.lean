import Mathlib.Data.Finset.Basic
import Nxpod.Library.Parties
import Nxpod.Library.Transition
import Nxpod.WsManager.Status

/-!
# Finalizing the Content of a Workspace

`finalizeWorkspaceContent` asks ws-sync to dispose of a workspace, with a final
backup if the workspace was ever ready and is not headless. It tries again when
ws-sync was unavailable or did not answer in time, and records in the end that the
backup is complete, together with the error of the last attempt. Any number of
these calls is in progress. The map of finalizers keeps a call from disposing of a
workspace while another one does.

What ws-sync answers is arbitrary, and so is whether it has taken the backup,
which it may do after the request has failed. Whether a connection can be had and
whether the record can be written are arbitrary as well.

## Main definitions

* `Objects`, `Error`, `PLIS`: What a finalizer reads and writes.
* `Setting`: `xerrors.Errorf` without arguments is given by the text of its
  error.
* `handleGRPCError`, `isRetriable`, `isDataloss`: How an error is classified.
* `Phase`: Where a finalizer is.
* `Call`, `Monitor`, `step`: Finalizers in progress, and what can happen.
* `Action`: What may happen next.
* `OneInFlight`, `RecordsRightly`: What is asked of the finalizers.
* `FailsWhenLost`: The condition on a step.
* `Effect`: What a step can do, with everything it asks for.
* `Inv`: The map has the workspaces of the finalizers that hold one, and no two
  hold the same.

## Theorems

* `isDataloss_eq_true`: No error is tuned down.
* `effect_of_step`: What a step can do.
* `inv_step`: What a step preserves.
* `oneInFlight_of_inv`: The map of finalizers does its work.
* `recordsRightly_iff_of_step`: What is recorded.
* `finalization_iff`: The runs in which a failure is recorded only when the backup
  is lost.
-/

namespace Nxpod

namespace WsManager

namespace Finalize

open Transition Parties Status

/-! ## The objects -/

/-- The workspace that a pod or a config map belongs to. -/
def workspaceIDAnnotation : String := "nxpod/id"

/-- The content is backed up with the whole container, and not from the volume. -/
def fullWorkspaceBackupAnnotation : String := "nxpod/fullWorkspaceBackup"

/-- The objects of a workspace, with the host IP in the status of the pod and the one in
    the pod lifecycle independent state. -/
structure Objects extends WorkspaceObjects where
  podHostIP : String
  plisHostIP : String

namespace Objects

/-- The annotation of the pod takes precedence. Without any, the ID is empty. -/
def workspaceID (wso : Objects) : String :=
  ((wso.pod.bind (·.annotations.lookup workspaceIDAnnotation)).or
    (wso.plis.bind (·.annotations.lookup workspaceIDAnnotation))).getD ""

/-- The node whose ws-sync has the content. The pod says it as long as it is there. -/
def hostIP (wso : Objects) : String :=
  match wso.pod, wso.plis with
  | some _, _ => wso.podHostIP
  | none, some _ => wso.plisHostIP
  | none, none => ""

/-- It is asked of the labels, of the pod and of the config map. -/
def fullWorkspaceBackup (wso : Objects) : Bool :=
  wso.pod.any (has ·.labels fullWorkspaceBackupAnnotation) ||
    wso.plis.any (has ·.labels fullWorkspaceBackupAnnotation)

/-- A workspace that was never ready has nothing to back up, and the result of a headless one is
    its snapshot. -/
def doBackup (wso : Objects) : Bool :=
  wasEverReady wso.toWorkspaceObjects && !isWorkspaceHeadless wso.toWorkspaceObjects

end Objects

/-- The part of the pod lifecycle independent state that finalizers write. Of the last
    status of the pod it is the Git status. -/
structure PLIS (G : Type) where
  finalBackupComplete : Bool
  finalBackupFailure : String
  lastPodStatus : Option (Option G)

/-- The state that is stored when a workspace is made. -/
def newPLIS {G : Type} : PLIS G where
  finalBackupComplete := false
  finalBackupFailure := ""
  lastPodStatus := none

/-! ## Errors -/

/-- The codes of gRPC except that for success, of which only some are told apart here. -/
inductive Code
  | canceled
  | unknown
  | invalidArgument
  | deadlineExceeded
  | notFound
  | alreadyExists
  | permissionDenied
  | resourceExhausted
  | failedPrecondition
  | aborted
  | outOfRange
  | unimplemented
  | internal
  | unavailable
  | dataLoss
  | unauthenticated
  deriving DecidableEq

/-- An error with its text and what `FromError` makes of it: the code and the message of
    a status, or no code where it is none. -/
structure Error where
  code : Option Code
  message : String
  text : String
  deriving DecidableEq

/-- `xerrors.Errorf` without arguments is given by the text of its error. The number of
    attempts is a variable of the source. -/
structure Setting where
  errorf : String → String
  maxAttempts : Nat

/-- Two minutes, with five seconds for each. -/
def wssyncMaxAttempts : Nat := 120 / 5

/-- The text of the error that is left, if one is. -/
def handleGRPCError (c : Setting) (err : Option Error) : Option String :=
  err.map fun e => match e.code with
    | none => e.text
    | some .unavailable => "workspace initialization is currently unavailable - please try again"
    | some _ => c.errorf e.message

/-- No error is a status as well. -/
def isGRPCError (err : Option Error) : Bool :=
  err.all (·.code.isSome)

/-- It was perhaps only a bad moment. A deadline is told by its text. -/
def isRetriable (err : Option Error) : Bool :=
  err.any fun e =>
    decide ("context deadline exceeded".toList <:+: e.text.toList) ||
      e.code = some .unavailable || e.code = some .canceled

/-- The worst case is assumed, and what is tuned is the worst case again. -/
def isDataloss (doBackup : Bool) (err : Option Error) : Bool :=
  let dataloss := true
  if doBackup then
    match err.bind (·.code) with
    | some .dataLoss => true
    | some .failedPrecondition => true
    | _ => dataloss
  else dataloss

theorem isDataloss_eq_true (doBackup : Bool) (err : Option Error) :
    isDataloss doBackup err = true := by
  unfold isDataloss
  dsimp only
  split_ifs
  · split <;> rfl
  · rfl

/-- The error of `wssyncPool.Get` is wrapped, and then the message is the whole text. -/
def connectToWorkspaceSync (hostIP : String) (pool : Option Error) : Option Error :=
  if hostIP = "" then some ⟨none, "", "pod has no hostIP"⟩
  else pool.map fun e =>
    let text := "cannot connect to ws-sync: " ++ e.text
    ⟨e.code, text, text⟩

/-! ## Finalizers -/

variable {G : Type}

/-- Where a finalizer is. Between taking its place and giving it back it holds the entry of the
    workspace. -/
inductive Phase (G : Type)
  | started
  | completing
  | attempting (i : Nat)
  | disposing (i : Nat)
  | disposed (i : Nat) (err : Option Error) (gitStatus : Option G)
  | recording (dataloss : Bool) (backupError : Option String) (gitStatus : Option G)
  | done

/-- A call of `finalizeWorkspaceContent`. How its attempts ended is the history, and
    whether it has asked ws-sync for a backup. -/
structure Call (G : Type) where
  wso : Objects
  phase : Phase G
  outcomes : List (Option Error)
  asked : Bool

namespace Call

def workspaceID (call : Call G) : String := call.wso.workspaceID

/-- The request has been sent, and the answer is not there. -/
def inFlight (call : Call G) : Bool :=
  match call.phase with
  | .disposing _ => true
  | _ => false

/-- The error of the last attempt. -/
def lastError (call : Call G) : Option Error :=
  call.outcomes.getLast?.join

/-- One more attempt has ended. -/
def attempted (call : Call G) (phase : Phase G) (err : Option Error) : Call G :=
  { call with phase := phase, outcomes := call.outcomes ++ [err] }

end Call

/-- `finalizerMap` has the workspaces that are being disposed of. `taken` are the
    workspaces whose final backup ws-sync has, and `failures` is what was recorded as a
    failure of the final backup. Both are the history. -/
structure Monitor (G : Type) where
  finalizerMap : Finset String
  plis : Map String (PLIS G)
  calls : List (Call G)
  taken : List String
  failures : List (String × String)

/-- Nobody is finalizing anything. -/
def newMonitor (plis : Map String (PLIS G)) : Monitor G where
  finalizerMap := ∅
  plis := plis
  calls := []
  taken := []
  failures := []

/-- The loop goes on, or ends with what the last attempt has left. -/
def nextAttempt (c : Setting) (i : Nat) (dataloss : Bool) (backupError : Option String)
    (gitStatus : Option G) : Phase G :=
  if i < c.maxAttempts then .attempting i else .recording dataloss backupError gitStatus

/-- What follows `doFinalize` in the loop. -/
def afterAttempt (c : Setting) (doBackup : Bool) (i : Nat) (gitStatus : Option G)
    (err : Option Error) : Phase G :=
  let backupError := handleGRPCError c err
  if !isGRPCError err then .recording true backupError gitStatus
  else if isRetriable err then nextAttempt c (i + 1) true backupError gitStatus
  else .recording (isDataloss doBackup err) backupError gitStatus

/-- What the finalizer writes at its end. -/
def patch (dataloss : Bool) (backupError : Option String) (gitStatus : Option G)
    (plis : PLIS G) : PLIS G where
  finalBackupComplete := true
  lastPodStatus := plis.lastPodStatus.map fun _ => gitStatus
  finalBackupFailure := match backupError with
    | some text => if dataloss then text else plis.finalBackupFailure
    | none => plis.finalBackupFailure

/-- The failure that is written, if it is one. An empty text is none to those who read
    it. -/
def failure (dataloss : Bool) (backupError : Option String) : List String :=
  match backupError with
  | some text => if dataloss && text ≠ "" then [text] else []
  | none => []

/-- What may happen next. Finalizers take turns in any order, and ws-sync takes a backup
    whenever it likes. -/
inductive Action (G : Type)
  | finalize (wso : Objects)
  | start (i : Nat)
  | complete (i : Nat) (patched : Bool)
  | attempt (i : Nat) (pool : Option Error)
  | backUp (i : Nat)
  | answer (i : Nat) (err : Option Error) (gitStatus : Option G)
  | remove (i : Nat)
  | record (i : Nat) (patched : Bool)

/-- The finalizer goes on. -/
def goOn (s : Monitor G) (i : Nat) (call : Call G) : Monitor G :=
  { s with calls := s.calls.set i call }

/-- One attempt, up to the request to ws-sync. All of it happens under the lock. -/
def doFinalize [Inhabited G] (c : Setting) (s : Monitor G) (i n : Nat) (call : Call G)
    (pool : Option Error) : Monitor G :=
  if call.workspaceID ∈ s.finalizerMap then goOn s i { call with phase := .done }
  else if !call.wso.doBackup && call.wso.hostIP = "" then
    goOn s i (call.attempted (afterAttempt c call.wso.doBackup n (some default) none) none)
  else match connectToWorkspaceSync call.wso.hostIP pool with
    | some err =>
        goOn s i (call.attempted (afterAttempt c call.wso.doBackup n none (some err)) (some err))
    | none =>
        { goOn s i { call with phase := .disposing n, asked := call.wso.doBackup } with
          finalizerMap := insert call.workspaceID s.finalizerMap }

/-- `patchPodLifecycleIndependentState`, which fails without a config map. -/
def patchPLIS (s : Monitor G) (id : String) (patched : Bool) (f : PLIS G → PLIS G) :
    Monitor G :=
  match s.plis.lookup id with
  | some plis => if patched then { s with plis := s.plis.insert id (f plis) } else s
  | none => s

/-- A step of the finalizer that is named, if it is there to be made. -/
def step [Inhabited G] (c : Setting) (s : Monitor G) : Action G → Option (Monitor G)
  | .finalize wso => some { s with calls := s.calls ++ [⟨wso, .started, [], false⟩] }
  | .start i => match s.calls[i]? with
    | some call => match call.phase with
      | .started => some (goOn s i { call with
          phase := if call.wso.fullWorkspaceBackup then .completing
            else nextAttempt c 0 false none none })
      | _ => none
    | none => none
  | .complete i patched => match s.calls[i]? with
    | some call => match call.phase with
      | .completing => some (goOn
          (patchPLIS s call.workspaceID patched fun plis =>
            { plis with finalBackupComplete := true })
          i { call with phase := .done })
      | _ => none
    | none => none
  | .attempt i pool => match s.calls[i]? with
    | some call => match call.phase with
      | .attempting n => some (doFinalize c s i n call pool)
      | _ => none
    | none => none
  | .backUp i => match s.calls[i]? with
    | some call =>
        if call.asked then some { s with taken := call.workspaceID :: s.taken } else none
    | none => none
  | .answer i err gitStatus => match s.calls[i]? with
    | some call => match call.phase with
      | .disposing n => some (goOn s i { call with phase := .disposed n err gitStatus })
      | _ => none
    | none => none
  | .remove i => match s.calls[i]? with
    | some call => match call.phase with
      | .disposed n err gitStatus => some
          { goOn s i
              (call.attempted (afterAttempt c call.wso.doBackup n gitStatus err) err) with
            finalizerMap := s.finalizerMap.erase call.workspaceID }
      | _ => none
    | none => none
  | .record i patched => match s.calls[i]? with
    | some call => match call.phase with
      | .recording dataloss backupError gitStatus =>
          let written := patched && (s.plis.lookup call.workspaceID).isSome
          some (goOn
            { patchPLIS s call.workspaceID patched (patch dataloss backupError gitStatus) with
              failures := s.failures ++ (if written then
                (failure dataloss backupError).map (call.workspaceID, ·) else []) }
            i { call with phase := .done })
      | _ => none
    | none => none

/-! ## What is asked of the finalizers -/

/-- At most one `DisposeWorkspace` of each workspace is in flight. -/
def OneInFlight (s : Monitor G) : Prop :=
  ((s.calls.filter Call.inFlight).map Call.workspaceID).Nodup

/-- A step records a failure only of a backup that was needed and that ws-sync does not
    have. -/
def RecordsRightly (s : Monitor G) (a : Action G) (s' : Monitor G) : Prop :=
  s'.failures = s.failures ∨ match a with
    | .record i _ => ∃ call ∈ s.calls[i]?,
        call.wso.doBackup = true ∧ call.workspaceID ∉ s.taken
    | _ => False

/-- When a finalizer whose last attempt has left an error writes its record, the workspace
    needed a backup and ws-sync does not have it. -/
def FailsWhenLost (c : Setting) (s : Monitor G) : Action G → Prop
  | .record i true => ∀ call ∈ s.calls[i]?, s.plis.lookup call.workspaceID ≠ none →
      (handleGRPCError c call.lastError).getD "" ≠ "" →
      call.wso.doBackup = true ∧ call.workspaceID ∉ s.taken
  | _ => True

/-! ## What a step can do -/

/-- What a step can do, with everything it asks for. -/
inductive Effect [Inhabited G] (c : Setting) (s : Monitor G) : Action G → Monitor G → Prop
  | finalize (wso : Objects) : Effect c s (.finalize wso)
      { s with calls := s.calls ++ [⟨wso, .started, [], false⟩] }
  | start (i : Nat) (call : Call G) : s.calls[i]? = some call → call.phase = .started →
      Effect c s (.start i) (goOn s i { call with
        phase := if call.wso.fullWorkspaceBackup then .completing
          else nextAttempt c 0 false none none })
  | complete (i : Nat) (patched : Bool) (call : Call G) : s.calls[i]? = some call →
      call.phase = .completing →
      Effect c s (.complete i patched) (goOn
        (patchPLIS s call.workspaceID patched fun plis => { plis with finalBackupComplete := true })
        i { call with phase := .done })
  | attempt (i n : Nat) (pool : Option Error) (call : Call G) : s.calls[i]? = some call →
      call.phase = .attempting n → Effect c s (.attempt i pool) (doFinalize c s i n call pool)
  | backUp (i : Nat) (call : Call G) : s.calls[i]? = some call →
      Effect c s (.backUp i) { s with taken := call.workspaceID :: s.taken }
  | answer (i n : Nat) (err : Option Error) (gitStatus : Option G) (call : Call G) :
      s.calls[i]? = some call → call.phase = .disposing n →
      Effect c s (.answer i err gitStatus)
        (goOn s i { call with phase := .disposed n err gitStatus })
  | remove (i n : Nat) (err : Option Error) (gitStatus : Option G) (call : Call G) :
      s.calls[i]? = some call → call.phase = .disposed n err gitStatus →
      Effect c s (.remove i)
        { goOn s i (call.attempted (afterAttempt c call.wso.doBackup n gitStatus err) err) with
          finalizerMap := s.finalizerMap.erase call.workspaceID }
  | record (i : Nat) (patched dataloss : Bool) (backupError : Option String)
      (gitStatus : Option G) (call : Call G) : s.calls[i]? = some call →
      call.phase = .recording dataloss backupError gitStatus →
      Effect c s (.record i patched) (goOn
        { patchPLIS s call.workspaceID patched (patch dataloss backupError gitStatus) with
          failures := s.failures ++
            (if patched && (s.plis.lookup call.workspaceID).isSome then
              (failure dataloss backupError).map (call.workspaceID, ·) else []) }
        i { call with phase := .done })

/-- So every invariant is proved once for each of these. -/
theorem effect_of_step [Inhabited G] {c : Setting} {s s' : Monitor G} {a : Action G}
    (h : step c s a = some s') : Effect c s a s' := by
  cases a with
  | finalize wso =>
      rw [step, Option.some.injEq] at h
      rw [← h]
      exact .finalize wso
  | start i =>
      rw [step] at h
      split at h
      · next call hcall =>
          split at h
          · next hphase =>
              rw [← Option.some.inj h]
              exact .start i call hcall hphase
          · exact absurd h nofun
      · exact absurd h nofun
  | complete i patched =>
      rw [step] at h
      split at h
      · next call hcall =>
          split at h
          · next hphase =>
              rw [← Option.some.inj h]
              exact .complete i patched call hcall hphase
          · exact absurd h nofun
      · exact absurd h nofun
  | attempt i pool =>
      rw [step] at h
      split at h
      · next call hcall =>
          split at h
          · next n hphase =>
              rw [← Option.some.inj h]
              exact .attempt i n pool call hcall hphase
          · exact absurd h nofun
      · exact absurd h nofun
  | backUp i =>
      rw [step] at h
      split at h
      · next call hcall =>
          rw [Option.ite_none_right_eq_some, Option.some.injEq] at h
          rw [← h.2]
          exact .backUp i call hcall
      · exact absurd h nofun
  | answer i err gitStatus =>
      rw [step] at h
      split at h
      · next call hcall =>
          split at h
          · next n hphase =>
              rw [← Option.some.inj h]
              exact .answer i n err gitStatus call hcall hphase
          · exact absurd h nofun
      · exact absurd h nofun
  | remove i =>
      rw [step] at h
      split at h
      · next call hcall =>
          split at h
          · next n err gitStatus hphase =>
              rw [← Option.some.inj h]
              exact .remove i n err gitStatus call hcall hphase
          · exact absurd h nofun
      · exact absurd h nofun
  | record i patched =>
      rw [step] at h
      split at h
      · next call hcall =>
          split at h
          · next dataloss backupError gitStatus hphase =>
              rw [← Option.some.inj h]
              exact .record i patched dataloss backupError gitStatus call hcall hphase
          · exact absurd h nofun
      · exact absurd h nofun

/-! ## The map of finalizers -/

namespace Call

/-- The workspace that the finalizer has put into the map. -/
def holds (call : Call G) : List String :=
  match call.phase with
  | .disposing _ | .disposed .. => [call.workspaceID]
  | _ => []

/-- What the finalizer is going to record is what its last attempt has left. -/
def Kept (c : Setting) (call : Call G) : Prop :=
  match call.phase with
  | .started => call.outcomes = []
  | .recording dataloss backupError _ =>
      backupError = handleGRPCError c call.lastError ∧ (backupError ≠ none → dataloss = true)
  | _ => True

/-- Only a finalizer that disposes of a workspace holds its entry. -/
theorem holds_eq_nil {call : Call G} {phase : Phase G} (hphase : call.phase = phase)
    (hdisposing : ∀ n, phase ≠ .disposing n)
    (hdisposed : ∀ n err gitStatus, phase ≠ .disposed n err gitStatus) : call.holds = [] := by
  unfold holds
  rw [hphase]
  split
  · exact absurd rfl (hdisposing _)
  · exact absurd rfl (hdisposed _ _ _)
  · rfl

theorem lastError_attempted (call : Call G) (phase : Phase G) (err : Option Error) :
    (call.attempted phase err).lastError = err := by
  unfold lastError attempted
  rw [List.getLast?_concat, Option.join_some]

/-- An attempt that has ended leaves nothing in the map, and is followed by another one or
    by the record of its error. -/
theorem holds_and_kept_attempted (c : Setting) (call : Call G) (doBackup : Bool) (n : Nat)
    (gitStatus : Option G) (err : Option Error) :
    (call.attempted (afterAttempt c doBackup n gitStatus err) err).holds = [] ∧
      (call.attempted (afterAttempt c doBackup n gitStatus err) err).Kept c := by
  have hcases : (∃ m, afterAttempt c doBackup n gitStatus err = .attempting m) ∨
      afterAttempt c doBackup n gitStatus err =
        .recording true (handleGRPCError c err) gitStatus := by
    unfold afterAttempt nextAttempt
    dsimp only
    rw [isDataloss_eq_true]
    split_ifs
    · exact .inr rfl
    · exact .inl ⟨_, rfl⟩
    · exact .inr rfl
    · exact .inr rfl
  -- the error that is recorded is that of the last attempt
  have hlast := lastError_attempted call (afterAttempt c doBackup n gitStatus err) err
  unfold holds Kept
  rw [hlast]
  unfold attempted
  dsimp only
  rcases hcases with ⟨m, h⟩ | h
  · rw [h]
    exact ⟨rfl, trivial⟩
  · rw [h]
    exact ⟨rfl, rfl, fun _ => rfl⟩

end Call

/-- The map has the workspaces of the finalizers that hold one, and no two hold the
    same. -/
structure Inv (c : Setting) (s : Monitor G) : Prop where
  mapped : Exclusive Call.holds s.finalizerMap s.calls
  kept : ∀ call ∈ s.calls, call.Kept c

variable {c : Setting} {s s' : Monitor G} {i : Nat} {call : Call G}

/-- A finalizer that goes on and leaves the map as it is. -/
theorem inv_goOn {call' : Call G} (hs : Inv c s) (hcall : s.calls[i]? = some call)
    (hholds : call'.holds = call.holds) (hk : call'.Kept c) : Inv c (goOn s i call') :=
  ⟨exclusive_set_of_eq hs.mapped hcall hholds, forall_mem_set hs.kept hk⟩

/-- The state that is written has no part in who holds what. -/
theorem inv_patchPLIS (hs : Inv c s) (id : String) (patched : Bool) (f : PLIS G → PLIS G) :
    Inv c (patchPLIS s id patched f) := by
  unfold patchPLIS
  split
  · split_ifs
    · exact ⟨hs.mapped, hs.kept⟩
    · exact hs
  · exact hs

theorem calls_patchPLIS (s : Monitor G) (id : String) (patched : Bool) (f : PLIS G → PLIS G) :
    (patchPLIS s id patched f).calls = s.calls := by
  unfold patchPLIS
  split
  · split_ifs <;> rfl
  · rfl

variable [Inhabited G]

/-- An attempt either finds the entry taken or takes it. -/
theorem inv_doFinalize {n : Nat} {pool : Option Error} (hs : Inv c s)
    (hcall : s.calls[i]? = some call) (hphase : call.phase = .attempting n) :
    Inv c (doFinalize c s i n call pool) := by
  have hholds := Call.holds_eq_nil hphase nofun nofun
  unfold doFinalize
  split_ifs with hmap hnone
  · exact inv_goOn hs hcall hholds.symm trivial
  · have h := Call.holds_and_kept_attempted c call call.wso.doBackup n (some default) none
    exact inv_goOn hs hcall (h.1.trans hholds.symm) h.2
  · split
    · next err _ =>
        have h := Call.holds_and_kept_attempted c call call.wso.doBackup n none (some err)
        exact inv_goOn hs hcall (h.1.trans hholds.symm) h.2
    · exact ⟨exclusive_insert hs.mapped hcall hmap hholds rfl, forall_mem_set hs.kept trivial⟩

/-- One case for each effect. -/
theorem inv_step {a : Action G} (hs : Inv c s) (h : step c s a = some s') : Inv c s' := by
  cases effect_of_step h with
  | finalize wso =>
      have hsame : (s.calls ++ [(⟨wso, .started, [], false⟩ : Call G)]).flatMap Call.holds =
          s.calls.flatMap Call.holds := by
        rw [List.flatMap_append, List.flatMap_singleton]
        exact List.append_nil _
      refine ⟨⟨?_, fun id => ?_⟩, fun call hcall => ?_⟩
      · rw [hsame]
        exact hs.mapped.nodup
      · rw [hsame]
        exact hs.mapped.mem_iff id
      · rcases List.mem_append.mp hcall with hold | hnew
        · exact hs.kept call hold
        · rw [List.mem_singleton.mp hnew]
          exact (rfl : ([] : List (Option Error)) = [])
  -- A finalizer has nothing in its hands yet when it starts.
  | start i call hcall hphase =>
      have hkept := hs.kept call (List.mem_of_getElem? hcall)
      have hholds := Call.holds_eq_nil hphase nofun nofun
      unfold Call.Kept at hkept
      rw [hphase] at hkept
      refine inv_goOn hs hcall ?_ ?_
      · rw [hholds]
        unfold Call.holds nextAttempt
        dsimp only
        split_ifs <;> rfl
      · unfold Call.Kept nextAttempt
        dsimp only
        split_ifs
        · trivial
        · trivial
        · -- without any attempt there is no error
          unfold Call.lastError
          rw [hkept]
          exact ⟨rfl, fun h => absurd rfl h⟩
  -- What is written to the state is not in this invariant.
  | complete i patched call hcall hphase =>
      have hholds := Call.holds_eq_nil hphase nofun nofun
      refine inv_goOn (inv_patchPLIS hs _ _ _) ?_ hholds.symm trivial
      rw [calls_patchPLIS]
      exact hcall
  | attempt i n pool call hcall hphase => exact inv_doFinalize hs hcall hphase
  | backUp i call hcall => exact ⟨hs.mapped, hs.kept⟩
  | answer i n err gitStatus call hcall hphase =>
      refine inv_goOn hs hcall ?_ trivial
      unfold Call.holds
      rw [hphase]
      rfl
  -- The attempt is over, and the workspace is given free.
  | remove i n err gitStatus call hcall hphase =>
      have hended := Call.holds_and_kept_attempted c call call.wso.doBackup n gitStatus err
      have hholds : call.holds = [call.workspaceID] := by
        unfold Call.holds
        rw [hphase]
      exact ⟨exclusive_erase hs.mapped hcall hholds hended.1, forall_mem_set hs.kept hended.2⟩
  | record i patched dataloss backupError gitStatus call hcall hphase =>
      have hholds := Call.holds_eq_nil hphase nofun nofun
      have hpatched := inv_patchPLIS hs call.workspaceID patched
        (patch dataloss backupError gitStatus)
      refine inv_goOn ⟨hpatched.mapped, hpatched.kept⟩ ?_ hholds.symm trivial
      dsimp only
      rw [calls_patchPLIS]
      exact hcall

omit [Inhabited G] in
theorem inv_new (plis : Map String (PLIS G)) : Inv c (newMonitor plis) where
  mapped := ⟨List.nodup_nil, fun id => iff_of_false (Finset.notMem_empty id) List.not_mem_nil⟩
  kept _ hcall := absurd hcall List.not_mem_nil

omit [Inhabited G] in
/-- What is in flight is held. -/
theorem oneInFlight_of_inv (hs : Inv c s) : OneInFlight s := by
  have hsub : ∀ calls : List (Call G),
      ((calls.filter Call.inFlight).map Call.workspaceID).Sublist (calls.flatMap Call.holds) := by
    intro calls
    induction calls with
    | nil => exact List.Sublist.slnil
    | cons call calls ih =>
        rw [List.flatMap_cons]
        cases hfly : call.inFlight with
        | false =>
            rw [List.filter_cons_of_neg (by rw [hfly]; exact Bool.false_ne_true)]
            exact ih.trans (List.sublist_append_right _ _)
        | true =>
            have hholds : call.holds = [call.workspaceID] := by
              unfold Call.inFlight at hfly
              unfold Call.holds
              split at hfly
              · next h => rw [h]
              · exact absurd hfly Bool.false_ne_true
            rw [List.filter_cons_of_pos hfly, hholds, List.map_cons]
            exact ih.cons_cons _
  exact hs.mapped.nodup.sublist (hsub s.calls)

/-! ## What is recorded -/

omit [Inhabited G] in
theorem failures_patchPLIS (s : Monitor G) (id : String) (patched : Bool)
    (f : PLIS G → PLIS G) : (patchPLIS s id patched f).failures = s.failures := by
  unfold patchPLIS
  split
  · split_ifs <;> rfl
  · rfl

theorem failures_doFinalize {n : Nat} {pool : Option Error} :
    (doFinalize c s i n call pool).failures = s.failures := by
  unfold doFinalize
  split_ifs
  · rfl
  · rfl
  · split <;> rfl

omit [Inhabited G] in
/-- Where an error always counts as a loss, nothing is recorded exactly if there is no text to
    it. -/
theorem failure_eq_nil_iff {dataloss : Bool} {backupError : Option String}
    (hworst : backupError ≠ none → dataloss = true) :
    failure dataloss backupError = [] ↔ backupError.getD "" = "" := by
  cases backupError with
  | none => exact iff_of_true rfl rfl
  | some text =>
      unfold failure
      rw [hworst (Option.some_ne_none text), Option.getD_some]
      by_cases htext : text = ""
      · rw [htext]
        exact iff_of_true rfl rfl
      · refine iff_of_false ?_ htext
        dsimp only
        rw [if_pos (by rw [Bool.true_and, decide_eq_true_eq]; exact htext)]
        exact List.cons_ne_nil _ _

/-- What a record appends is the error of the last attempt, and nothing else is ever
    appended. -/
theorem recordsRightly_iff_of_step {a : Action G} (hs : Inv c s) (h : step c s a = some s') :
    RecordsRightly s a s' ↔ FailsWhenLost c s a := by
  cases effect_of_step h with
  | finalize wso => exact iff_of_true (.inl rfl) trivial
  | start i call hcall hphase => exact iff_of_true (.inl rfl) trivial
  | complete i patched call hcall hphase =>
      exact iff_of_true (.inl (failures_patchPLIS ..)) trivial
  | attempt i n pool call hcall hphase => exact iff_of_true (.inl failures_doFinalize) trivial
  | backUp i call hcall => exact iff_of_true (.inl rfl) trivial
  | answer i n err gitStatus call hcall hphase => exact iff_of_true (.inl rfl) trivial
  | remove i n err gitStatus call hcall hphase => exact iff_of_true (.inl rfl) trivial
  | record i patched dataloss backupError gitStatus call hcall hphase =>
      have hkept := hs.kept call (List.mem_of_getElem? hcall)
      unfold Call.Kept at hkept
      rw [hphase] at hkept
      rcases hkept with ⟨hleft, hworst⟩
      cases patched with
      | false =>
          refine iff_of_true (.inl ?_) trivial
          rw [Bool.false_and, if_neg Bool.false_ne_true]
          exact List.append_nil _
      | true =>
          cases hplis : s.plis.lookup call.workspaceID with
          | none =>
              -- there is no config map to write to
              refine iff_of_true (.inl (List.append_nil _)) fun d hd hfound => ?_
              rw [Option.mem_def, hcall, Option.some.injEq] at hd
              exact absurd (hd ▸ hplis) hfound
          | some plis =>
              have hwritten : (s.failures ++ (failure dataloss backupError).map
                  (call.workspaceID, ·) = s.failures) ↔ backupError.getD "" = "" := by
                rw [List.append_right_eq_self, List.map_eq_nil_iff]
                exact failure_eq_nil_iff hworst
              have hfound : s.plis.lookup call.workspaceID ≠ none := by
                rw [hplis]
                exact Option.some_ne_none plis
              unfold RecordsRightly FailsWhenLost
              dsimp only [goOn]
              rw [hcall, Bool.true_and, Option.isSome_some, if_pos rfl, hwritten, hleft]
              simp only [Option.mem_def, Option.some.injEq, exists_eq_left', forall_eq']
              rw [imp_iff_right hfound, or_iff_not_imp_left]

/-- In every run at most one `DisposeWorkspace` of each workspace is in flight. The runs in
    which only the loss of a needed backup is recorded as a failure are those in which no other
    finalizer is left with an error. The record is what a user is told, so an error of the
    clean-up that is written there frightens for nothing. -/
theorem finalization_iff (c : Setting) (plis : Map String (PLIS G)) (as : List (Action G)) :
    StepsAlong (step c) (fun s a s' => OneInFlight s' ∧ RecordsRightly s a s') as
      (newMonitor plis) ↔ MeetsAlong (step c) (FailsWhenLost c) as (newMonitor plis) := by
  refine stepsAlong_iff_meetsAlong_of_invariant (fun s a s' => inv_step) ?_ as _ (inv_new plis)
  intro s a s' hs h
  rw [and_iff_right (oneInFlight_of_inv (inv_step hs h))]
  exact recordsRightly_iff_of_step hs h

instance decidableOneInFlight (s : Monitor G) : Decidable (OneInFlight s) :=
  inferInstanceAs (Decidable (List.Nodup _))

instance decidableRecordsRightly (s : Monitor G) (a : Action G) (s' : Monitor G) :
    Decidable (RecordsRightly s a s') :=
  match a with
  | .record i _ => inferInstanceAs (Decidable (_ ∨ ∃ call ∈ s.calls[i]?, _ ∧ _))
  | .finalize _ | .start _ | .complete .. | .attempt .. | .backUp _ | .answer .. | .remove _ =>
      inferInstanceAs (Decidable (_ ∨ False))

/-- ws-sync has the backup, and then cannot delete the workspace from its store. The
    failure to clean up is recorded as a failure of the backup. -/
theorem failure_uncleanWorkspace : ¬ ∀ (c : Setting) (plis : Map String (PLIS Unit))
    (as : List (Action Unit)),
    StepsAlong (step c) (fun s a s' => OneInFlight s' ∧ RecordsRightly s a s') as
      (newMonitor plis) := by
  intro h
  let cfgmap : ConfigMap := ⟨AList.singleton workspaceIDAnnotation "w", ∅⟩
  let internal : Error := ⟨some .internal, "cannot delete workspace from store",
    "rpc error: code = Internal desc = cannot delete workspace from store"⟩
  have hrun := h ⟨id, wssyncMaxAttempts⟩ (AList.singleton "w" newPLIS)
    [.finalize ⟨⟨none, some cfgmap, []⟩, "", "10.0.0.1"⟩, .start 0, .attempt 0 none, .backUp 0,
      .answer 0 (some internal) none, .remove 0, .record 0 true]
  revert hrun
  decide +kernel

end Finalize

end WsManager

end Nxpod
