import Nxpod.WsSync.Marking

/-!
# Disposing of a Workspace

`DisposeWorkspace` looks the workspace up, marks it for disposal or waits for
whoever did, takes a final backup, gets the Git status, disposes of the sandbox
and deletes the workspace from the store, which calls `Dispose`. Any number of
these requests is in progress at a time, and any step of the work can fail.

A workspace is marked for disposal before the work is done and the mark is never
taken back. So the work is done by one request at most, ever: when that one has
failed, a later request is turned down because the workspace is not ready, or
waits, or is told that the work is done.

## Main definitions

* `DisposeResult`: The answers, in the order in which a request may come to
  them.
* `Request`, `Service`: A request in progress, and the workspace they are about.
* `Setting`: What does not change: the kind of workspace, and the size limit
  that is configured.
* `advance`: One step of a request.
* `Action`, `step`: What can happen.
* `AtMostOne`, `Retriable`: What is asked of the requests.
* `Fails`: A step at which a request fails that did the work.
* `Advanced`: How a request goes on.
* `Effect`: What can happen: a request comes in, a call of the workspace goes
  on, or a request does.
* `Kept`: What the workspace keeps.

## Theorems

* `effect_of_step`: What a step can do.
* `kept_of_step`: Marked workspaces stay marked, as long as nobody initializes
  them again.
* `sound_step`: What a step preserves.
* `unmarked_step`: A workspace that is not ready is marked by none of the calls
  made later.
* `not_performs_of_marked`: Once the workspace is marked, no later request does
  the work.
* `atMostOne_and_retriable_iff`: Runs in which no request fails.
-/

namespace Nxpod

namespace WsSync

open Transition

/-- The answers, in the order in which a request may come to them. -/
inductive DisposeResult
  | notFound
  | neverReady
  | notMarked
  | waited
  | dataLoss
  | noGitStatus
  | sandboxKept
  | notDeleted
  | disposed
  deriving DecidableEq

/-- The work was not done. -/
def DisposeResult.failedWork : DisposeResult → Bool
  | .dataLoss | .noGitStatus | .sandboxKept | .notDeleted => true
  | _ => false

/-- Where a request is, with its calls of `WaitOrMarkForDisposal` and of
    `Dispose`. -/
inductive Progress
  | start
  | found
  | checked
  | marking (j : Nat)
  | backup (j : Nat)
  | gitStatus (j : Nat)
  | sandbox (j : Nat)
  | deleting (j : Nat)
  | disposing (j k : Nat)
  | returned (result : DisposeResult)
  deriving DecidableEq

/-- A request is with a final backup or without, and somewhere on its way. -/
structure Request where
  backup : Bool
  progress : Progress

/-- The workspace with the requests to dispose of it. `storeLock` is who has the
    lock of the store. -/
structure Service where
  workspace : Workspace
  inStore : Bool
  storeLock : Option Nat
  requests : List Request

/-- What does not change: the kind of workspace, and the size limit that is
    configured. -/
structure Setting where
  fullWorkspaceBackup : Bool
  workspaceSizeLimit : Nat

namespace Service

/-- A workspace that is ready. -/
def start : Service where
  workspace := newWorkspace .ready
  inStore := true
  storeLock := none
  requests := []

/-- The request goes on. -/
def goOn (s : Service) (i : Nat) (r : Request) (progress : Progress) : Service :=
  { s with requests := s.requests.set i { r with progress := progress } }

/-- The request calls a function of the workspace. -/
def call (s : Service) (caller : Caller) : Service :=
  { s with workspace := { s.workspace with callers := s.workspace.callers ++ [caller] } }

/-- One step of `DisposeWorkspace`. -/
def advance (c : Setting) (s : Service) (i : Nat) (r : Request) (ok : Bool) : Option Service :=
  match r.progress with
  | .start =>
      if s.storeLock = none then
        some (s.goOn i r (if s.inStore then .found else .returned .notFound))
      else none
  | .found => some (s.goOn i r
      (if r.backup && s.workspace.state ≠ .ready then .returned .neverReady else .checked))
  | .checked => some ((s.call (.waitOrMarkForDisposal .start)).goOn i r
      (.marking s.workspace.callers.length))
  | .marking j => match s.workspace.callers[j]? with
    | some (.waitOrMarkForDisposal (.returned done ok')) => some (s.goOn i r
        (if !ok' then .returned .notMarked
        else if done then .returned .waited
        else if r.backup then .backup j
        else .gitStatus j))
    | _ => none
  | .backup j => some (s.goOn i r (if ok then .gitStatus j else .returned .dataLoss))
  | .gitStatus j => some (s.goOn i r
      -- the status of a workspace with a full backup is not computed
      (if ok || c.fullWorkspaceBackup then
        if c.workspaceSizeLimit > 0 && !c.fullWorkspaceBackup then .sandbox j else .deleting j
      else .returned .noGitStatus))
  | .sandbox j => some (s.goOn i r (if ok then .deleting j else .returned .sandboxKept))
  | .deleting j =>
      if s.storeLock = none then
        if s.inStore then
          some ({ s.call (.dispose .start) with storeLock := some i }.goOn i r
            (.disposing j s.workspace.callers.length))
        else some (s.goOn i r (.returned .disposed))
      else none
  | .disposing _ k => match s.workspace.callers[k]? with
    | some (.dispose (.returned true)) => some ({ s with storeLock := none, inStore := false }.goOn
        i r (.returned .disposed))
    | some (.dispose (.returned false)) =>
        some ({ s with storeLock := none }.goOn i r (.returned .notDeleted))
    | _ => none
  | .returned _ => none

/-- A request comes in or goes on, or a call of the workspace does. -/
inductive Action
  | request (backup : Bool)
  | advance (i : Nat) (ok : Bool)
  | run (j : Nat) (ok : Bool)

/-- The calls that a request makes are callers of the workspace, which take
    their own steps. -/
def step (c : Setting) (s : Service) : Action → Option Service
  | .request backup => some { s with requests := s.requests ++ [⟨backup, .start⟩] }
  | .advance i ok => match s.requests[i]? with
    | none => none
    | some r => advance c s i r ok
  | .run j ok => (WsSync.step s.workspace (.run j ok)).map fun w => { s with workspace := w }

/-! ## What is asked of the requests -/

/-- The call of `WaitOrMarkForDisposal` of a request that does the work. -/
def worksAfter : Progress → Option Nat
  | .backup j | .gitStatus j | .sandbox j | .deleting j | .disposing j _ => some j
  | _ => none

/-- The call of `WaitOrMarkForDisposal` of a request, until it returns. -/
def marker : Progress → Option Nat
  | .marking j => some j
  | progress => worksAfter progress

/-- The request has marked the workspace for disposal, or does the work. -/
def performs (s : Service) (r : Request) : Bool :=
  match r.progress with
  | .marking j => s.workspace.callers[j]?.any Caller.hasMarked
  | progress => (worksAfter progress).isSome

/-- The request has failed while it did the work. -/
def failedWork (r : Request) : Bool :=
  match r.progress with
  | .returned result => result.failedWork
  | _ => false

/-- One request at most performs the disposal. -/
def AtMostOne (s : Service) : Prop :=
  ∀ (i i' : Nat) (r r' : Request), s.requests[i]? = some r → s.requests[i']? = some r' →
    performs s r = true → performs s r' = true → i = i'

/-- When a request has failed while it did the work, it can happen that one that
    comes in later performs the disposal. -/
def Retriable (c : Setting) (s : Service) : Prop :=
  (∃ r ∈ s.requests, failedWork r = true) →
    ∃ s', ReachesWithin (step c) (fun _ _ => True) s s' ∧
      ∃ (i : Nat) (r : Request),
        s.requests.length ≤ i ∧ s'.requests[i]? = some r ∧ performs s' r = true

/-- The request fails when it goes on, while it does the work. -/
def FailsAt (c : Setting) (s : Service) (r : Request) (ok : Bool) : Prop :=
  match r.progress with
  | .backup _ | .sandbox _ => ok = false
  | .gitStatus _ => ok = false ∧ c.fullWorkspaceBackup = false
  | .disposing _ k => s.workspace.callers[k]? = some (.dispose (.returned false))
  | _ => False

/-- A request fails at this step that did the work. -/
def Fails (c : Setting) (s : Service) : Action → Prop
  | .advance i ok => ∃ r ∈ s.requests[i]?, FailsAt c s r ok
  | _ => False

/-! ## What a step can do -/

variable {c : Setting} {s s' : Service}

/-- How a request goes on. It keeps its call of `WaitOrMarkForDisposal`, has just
    made it, or has none any more. It does the work after it did so before, or
    when that call has marked the workspace. -/
structure Advanced (c : Setting) (s s' : Service) (i : Nat) (r : Request) (ok : Bool)
    (progress : Progress) : Prop where
  requests : s'.requests = s.requests.set i { r with progress := progress }
  workspace : s'.workspace = s.workspace ∨ ∃ caller : Caller, caller.isMarkInitDone = false ∧
    WsSync.step s.workspace (.call caller) = some s'.workspace
  marker : ∀ j, marker progress = some j → marker r.progress = some j ∨
    j = s.workspace.callers.length ∧ j < s'.workspace.callers.length
  works : ∀ j, worksAfter progress = some j → worksAfter r.progress = some j ∨
    s.workspace.callers[j]? = some (.waitOrMarkForDisposal (.returned false true))
  before : failedWork r = false
  fails : failedWork ⟨r.backup, progress⟩ = true ↔ FailsAt c s r ok

theorem marker_of_worksAfter {progress : Progress} {j : Nat}
    (h : worksAfter progress = some j) : marker progress = some j := by
  cases progress <;> first | exact h | exact absurd h (by
    simp only [worksAfter, reduceCtorEq, not_false_eq_true])

theorem worksAfter_of_failsAt {r : Request} {ok : Bool} (h : FailsAt c s r ok) :
    ∃ j, worksAfter r.progress = some j := by
  rw [FailsAt] at h
  cases hp : r.progress with
  | backup j | gitStatus j | sandbox j => exact ⟨j, rfl⟩
  | disposing j k => exact ⟨j, rfl⟩
  | _ => rw [hp] at h; exact absurd h id

/-- A request that returns changes nothing but itself. -/
theorem advanced_of_returned {i : Nat} {r : Request} {ok : Bool} {result : DisposeResult}
    (hrequests : s'.requests = s.requests.set i { r with progress := .returned result })
    (hworkspace : s'.workspace = s.workspace) (hbefore : failedWork r = false)
    (hfails : result.failedWork = true ↔ FailsAt c s r ok) :
    Advanced c s s' i r ok (.returned result) where
  requests := hrequests
  workspace := Or.inl hworkspace
  marker _ hj := absurd hj (by simp only [marker, worksAfter, reduceCtorEq, not_false_eq_true])
  works _ hj := absurd hj (by simp only [worksAfter, reduceCtorEq, not_false_eq_true])
  before := hbefore
  fails := hfails

theorem failedWork_of_worksAfter {r : Request} {j : Nat} (h : worksAfter r.progress = some j) :
    failedWork r = false := by
  rw [failedWork]
  cases hp : r.progress with
  | returned result => rw [hp] at h; exact absurd h (by simp only [worksAfter, reduceCtorEq,
      not_false_eq_true])
  | _ => rfl

/-- A request that goes on with the work may make the next call to the
    workspace. -/
theorem advanced_of_works {i j : Nat} {r : Request} {ok : Bool} {progress : Progress}
    (hrequests : s'.requests = s.requests.set i { r with progress := progress })
    (hworkspace : s'.workspace = s.workspace ∨ ∃ caller : Caller,
      caller.isMarkInitDone = false ∧ WsSync.step s.workspace (.call caller) = some s'.workspace)
    (hmarker : marker r.progress = some j) (hprogress : worksAfter progress = some j)
    (hworks : worksAfter r.progress = some j ∨
      s.workspace.callers[j]? = some (.waitOrMarkForDisposal (.returned false true)))
    (hbefore : failedWork r = false) (hfails : ¬ FailsAt c s r ok) :
    Advanced c s s' i r ok progress where
  requests := hrequests
  workspace := hworkspace
  marker _ hj := Or.inl (hmarker.trans ((marker_of_worksAfter hprogress).symm.trans hj))
  works k hk := by
    rw [hprogress, Option.some.injEq] at hk
    rw [← hk]
    exact hworks
  before := hbefore
  fails := by
    rw [failedWork_of_worksAfter hprogress]
    exact iff_of_false (by decide) hfails

/-- A request that neither works nor has made its call goes on without it. -/
theorem advanced_of_before {i : Nat} {r : Request} {ok : Bool} {progress : Progress}
    (hrequests : s'.requests = s.requests.set i { r with progress := progress })
    (hworkspace : s'.workspace = s.workspace) (hprogress : progress = .found ∨ progress = .checked)
    (hbefore : failedWork r = false) (hfails : ¬ FailsAt c s r ok) :
    Advanced c s s' i r ok progress where
  requests := hrequests
  workspace := Or.inl hworkspace
  marker _ hj := by rcases hprogress with rfl | rfl <;> exact absurd hj (by
    simp only [marker, worksAfter, reduceCtorEq, not_false_eq_true])
  works _ hj := by rcases hprogress with rfl | rfl <;> exact absurd hj (by
    simp only [worksAfter, reduceCtorEq, not_false_eq_true])
  before := hbefore
  fails := by rcases hprogress with rfl | rfl <;> exact iff_of_false Bool.false_ne_true hfails

theorem advanced_of_advance {i : Nat} {r : Request} {ok : Bool}
    (h : advance c s i r ok = some s') : ∃ progress, Advanced c s s' i r ok progress := by
  rw [advance] at h
  -- A case for each place in the handler. Before the work nothing can fail.
  cases hp : r.progress with
  | start =>
      have hbefore : failedWork r = false := by rw [failedWork, hp]
      have hfails : ¬ FailsAt c s r ok := by rw [FailsAt, hp]; exact id
      rw [hp, Option.ite_none_right_eq_some, Option.some.injEq] at h
      rw [← h.2]
      split_ifs
      · exact ⟨_, advanced_of_before rfl rfl (Or.inl rfl) hbefore hfails⟩
      · exact ⟨_, advanced_of_returned rfl rfl hbefore (iff_of_false (by decide) hfails)⟩
  | found =>
      have hbefore : failedWork r = false := by rw [failedWork, hp]
      have hfails : ¬ FailsAt c s r ok := by rw [FailsAt, hp]; exact id
      rw [hp, Option.some.injEq] at h
      rw [← h]
      split_ifs
      · exact ⟨_, advanced_of_returned rfl rfl hbefore (iff_of_false (by decide) hfails)⟩
      · exact ⟨_, advanced_of_before rfl rfl (Or.inr rfl) hbefore hfails⟩
  | checked =>
      have hfails : ¬ FailsAt c s r ok := by rw [FailsAt, hp]; exact id
      rw [hp, Option.some.injEq] at h
      rw [← h]
      refine ⟨.marking s.workspace.callers.length, rfl,
        Or.inr ⟨.waitOrMarkForDisposal .start, rfl, rfl⟩, fun j hj => ?_, fun j hj => ?_,
        by rw [failedWork, hp], iff_of_false (by simp only [failedWork, Bool.false_eq_true,
          not_false_eq_true]) hfails⟩
      · -- The call that is made here is the last one of the workspace's callers.
        rw [marker, Option.some.injEq] at hj
        refine Or.inr ⟨hj.symm, ?_⟩
        rw [← hj]
        simp only [goOn, call, List.length_append, List.length_singleton, Nat.lt_succ_self]
      · exact absurd hj (by simp only [worksAfter, reduceCtorEq, not_false_eq_true])
  | marking j =>
      have hbefore : failedWork r = false := by rw [failedWork, hp]
      have hfails : ¬ FailsAt c s r ok := by rw [FailsAt, hp]; exact id
      rw [hp] at h
      simp only at h
      split at h
      · next done ok' hj =>
          rw [Option.some.injEq] at h
          rw [← h]
          cases ok' with
          | false => exact ⟨_, advanced_of_returned rfl rfl hbefore
              (iff_of_false (by decide) hfails)⟩
          | true =>
              -- A request that finds the work done returns at once.
              cases done with
              | true => exact ⟨_, advanced_of_returned rfl rfl hbefore
                  (iff_of_false (by decide) hfails)⟩
              | false =>
                  have hmarker : marker r.progress = some j := by rw [hp]; rfl
                  refine ⟨_, advanced_of_works rfl (Or.inl rfl) hmarker ?_ (Or.inr hj) hbefore
                    hfails⟩
                  simp only [Bool.not_true, Bool.false_eq_true, if_false]
                  split_ifs <;> rfl
      · exact absurd h (by simp only [reduceCtorEq, not_false_eq_true])
  | backup j | sandbox j =>
      have hj : worksAfter r.progress = some j := by rw [hp]; rfl
      have hfails : FailsAt c s r ok ↔ ok = false := by rw [FailsAt, hp]
      rw [hp, Option.some.injEq] at h
      rw [← h]
      -- A backup or a sandbox that fails ends the request.
      cases ok with
      | true => exact ⟨_, advanced_of_works rfl (Or.inl rfl) (marker_of_worksAfter hj) rfl
          (Or.inl hj) (failedWork_of_worksAfter hj) (hfails.not.mpr (by decide))⟩
      | false => exact ⟨_, advanced_of_returned rfl rfl (failedWork_of_worksAfter hj)
          (iff_of_true rfl (hfails.mpr rfl))⟩
  | gitStatus j =>
      have hj : worksAfter r.progress = some j := by rw [hp]; rfl
      have hfails : FailsAt c s r ok ↔ ¬ (ok || c.fullWorkspaceBackup) = true := by
        rw [FailsAt, hp, Bool.or_eq_true, not_or, Bool.not_eq_true, Bool.not_eq_true]
      rw [hp, Option.some.injEq] at h
      rw [← h]
      -- Without a Git status the request fails, unless the backup is a full one.
      split_ifs with hok
      · exact ⟨_, advanced_of_works rfl (Or.inl rfl) (marker_of_worksAfter hj) rfl (Or.inl hj)
          (failedWork_of_worksAfter hj) (hfails.not.mpr (not_not.mpr hok))⟩
      · exact ⟨_, advanced_of_works rfl (Or.inl rfl) (marker_of_worksAfter hj) rfl (Or.inl hj)
          (failedWork_of_worksAfter hj) (hfails.not.mpr (not_not.mpr hok))⟩
      · exact ⟨_, advanced_of_returned rfl rfl (failedWork_of_worksAfter hj)
          (iff_of_true rfl (hfails.mpr hok))⟩
  | deleting j =>
      have hj : worksAfter r.progress = some j := by rw [hp]; rfl
      have hfails : ¬ FailsAt c s r ok := by rw [FailsAt, hp]; exact id
      rw [hp] at h
      simp only at h
      split_ifs at h with hlock hstore
      · rw [Option.some.injEq] at h
        rw [← h]
        exact ⟨_, advanced_of_works rfl (Or.inr ⟨.dispose .start, rfl, rfl⟩)
          (marker_of_worksAfter hj) rfl (Or.inl hj) (failedWork_of_worksAfter hj) hfails⟩
      · rw [Option.some.injEq] at h
        rw [← h]
        exact ⟨_, advanced_of_returned rfl rfl (failedWork_of_worksAfter hj)
          (iff_of_false (by decide) hfails)⟩
  | disposing j k =>
      have hj : worksAfter r.progress = some j := by rw [hp]; rfl
      have hfails : FailsAt c s r ok ↔
          s.workspace.callers[k]? = some (.dispose (.returned false)) := by rw [FailsAt, hp]
      rw [hp] at h
      simp only at h
      -- The call of `Dispose` has returned, without an error or with one.
      split at h
      · next hk =>
          rw [Option.some.injEq] at h
          rw [← h]
          exact ⟨_, advanced_of_returned rfl rfl (failedWork_of_worksAfter hj)
            (iff_of_false (by decide) (hfails.not.mpr (by rw [hk]; decide)))⟩
      · next hk =>
          rw [Option.some.injEq] at h
          rw [← h]
          exact ⟨_, advanced_of_returned rfl rfl (failedWork_of_worksAfter hj)
            (iff_of_true rfl (hfails.mpr hk))⟩
      · exact absurd h (by simp only [reduceCtorEq, not_false_eq_true])
  | returned result =>
      rw [hp] at h
      exact absurd h (by simp only [reduceCtorEq, not_false_eq_true])

/-- What can happen: a request comes in, a call of the workspace goes on, or a
    request does. -/
inductive Effect (c : Setting) (s : Service) : Action → Service → Prop
  | requested (backup : Bool) : Effect c s (.request backup)
      { s with requests := s.requests ++ [⟨backup, .start⟩] }
  | ran (j : Nat) (ok : Bool) (w : Workspace)
      (h : WsSync.step s.workspace (.run j ok) = some w) :
      Effect c s (.run j ok) { s with workspace := w }
  | advanced (i : Nat) (ok : Bool) (r : Request) (progress : Progress) (s' : Service)
      (hr : s.requests[i]? = some r) (h : Advanced c s s' i r ok progress) :
      Effect c s (.advance i ok) s'

/-- All that a step can do to the requests and to the workspace. -/
theorem effect_of_step {a : Action} (h : step c s a = some s') : Effect c s a s' := by
  cases a with
  | request backup =>
      rw [step, Option.some.injEq] at h
      rw [← h]
      exact .requested backup
  | run j ok =>
      rcases Option.map_eq_some_iff.mp h with ⟨w, hw, rfl⟩
      exact .ran j ok w hw
  | advance i ok =>
      rw [step] at h
      cases hr : s.requests[i]? with
      | none => rw [hr] at h; exact absurd h (by simp only [reduceCtorEq, not_false_eq_true])
      | some r =>
          rw [hr] at h
          rcases advanced_of_advance h with ⟨progress, hadvanced⟩
          exact .advanced i ok r progress s' hr hadvanced

/-! ## One request at most -/

/-- What every step preserves: whoever works has a call that has marked the
    workspace, and no two requests have the same call. -/
structure Sound (s : Service) : Prop where
  marked : MarkedOnce s.workspace
  works : ∀ (i : Nat) (r : Request) (j : Nat), s.requests[i]? = some r →
    worksAfter r.progress = some j →
      s.workspace.callers[j]? = some (.waitOrMarkForDisposal (.returned false true))
  called : ∀ (i : Nat) (r : Request) (j : Nat), s.requests[i]? = some r →
    marker r.progress = some j → j < s.workspace.callers.length
  distinct : ∀ (i i' : Nat) (r r' : Request) (j : Nat), s.requests[i]? = some r →
    s.requests[i']? = some r' → marker r.progress = some j → marker r'.progress = some j → i = i'
  failed : (∃ r ∈ s.requests, failedWork r = true) → s.workspace.state ≠ .ready

theorem length_step {w w' : Workspace} {a : WsSync.Action} (h : WsSync.step w a = some w') :
    w.callers.length ≤ w'.callers.length := by
  cases a with
  | call caller =>
      rw [WsSync.step, Option.ite_none_right_eq_some] at h
      rw [← Option.some.inj h.2, List.length_append]
      exact Nat.le_add_right _ _
  | run i ok =>
      rw [WsSync.step] at h
      split at h
      · exact absurd h (by simp only [reduceCtorEq, not_false_eq_true])
      · rcases Option.map_eq_some_iff.mp h with ⟨⟨w'', t⟩, hrun, rfl⟩
        rw [List.length_set]
        rcases callers_of_turn (turn_of_runCaller hrun) with hc | hc
        · exact Nat.le_of_eq (by rw [hc])
        · exact Nat.le_of_eq (by rw [hc, List.length_map])

/-- What the workspace keeps. -/
structure Kept (w w' : Workspace) : Prop where
  marked : MarkedOnce w'
  length : w.callers.length ≤ w'.callers.length
  notReady : w.state ≠ .ready → w'.state ≠ .ready
  returned : ∀ j : Nat, w.callers[j]? = some (.waitOrMarkForDisposal (.returned false true)) →
    w'.callers[j]? = some (.waitOrMarkForDisposal (.returned false true))

/-- Marked workspaces stay marked, as long as nobody initializes them again. -/
theorem kept_of_step {w w' : Workspace} (hw : MarkedOnce w) {a : WsSync.Action}
    (h : WsSync.step w a = some w')
    (hcall : ∀ caller, a = .call caller → caller.isMarkInitDone = false) : Kept w w' where
  marked := markedOnce_step hw h hcall
  length := length_step h
  notReady hne := by
    rcases state_of_markedOnce hw h with hsame | hnew
    · rw [hsame]
      exact hne
    · exact hnew.1
  returned _ hj := returned_step h hj

theorem kept_of_advanced (hs : Sound s) {i : Nat} {r : Request} {ok : Bool} {progress : Progress}
    (h : Advanced c s s' i r ok progress) : Kept s.workspace s'.workspace := by
  rcases h.workspace with hsame | ⟨caller, hnot, hstep⟩
  · rw [hsame]
    exact ⟨hs.marked, Nat.le_refl _, id, fun _ hj => hj⟩
  · refine kept_of_step hs.marked hstep fun caller' heq => ?_
    rw [WsSync.Action.call.injEq] at heq
    rw [← heq]
    exact hnot

/-- A workspace that was marked is not ready. -/
theorem notReady_of_worksAfter (hs : Sound s) {i j : Nat} {r : Request}
    (hr : s.requests[i]? = some r) (hj : worksAfter r.progress = some j) :
    s.workspace.state ≠ .ready := by
  intro hready
  exact absurd (hs.marked.ready hready j _ (hs.works i r j hr hj)) (by decide)

/-- The requests after one of them went on. -/
theorem getElem?_of_advanced {i k : Nat} {r u : Request} {ok : Bool} {progress : Progress}
    (h : Advanced c s s' i r ok progress) (hu : s'.requests[k]? = some u) :
    k ≠ i ∧ s.requests[k]? = some u ∨ k = i ∧ u = { r with progress := progress } := by
  rw [h.requests, List.getElem?_set] at hu
  split_ifs at hu with hik
  · exact Or.inr ⟨hik.symm, (Option.some.inj hu).symm⟩
  · exact Or.inl ⟨fun heq => hik heq.symm, hu⟩

/-- A request that goes on is where its calls of the workspace say that it is. -/
theorem sound_advanced (hs : Sound s) {i : Nat} {r : Request} {ok : Bool} {progress : Progress}
    (hr : s.requests[i]? = some r) (h : Advanced c s s' i r ok progress) : Sound s' := by
  have hk := kept_of_advanced hs h
  -- a call that a request has now is older than those that come later
  have hnew : ∀ {k j : Nat} {u : Request}, k ≠ i → s.requests[k]? = some u →
      marker u.progress = some j → marker progress = some j → False := by
    intro k j u hne hu hj hj'
    rcases h.marker j hj' with hold | ⟨hfresh, -⟩
    · exact hne (hs.distinct k i u r j hu hr hj hold)
    · exact absurd (hs.called k u j hu hj) (by rw [hfresh]; exact Nat.lt_irrefl _)
  refine ⟨hk.marked, fun k u j hu hj => ?_, fun k u j hu hj => ?_,
    fun k k' u u' j hu hu' hj hj' => ?_, fun hfailed => ?_⟩
  · rcases getElem?_of_advanced h hu with ⟨-, hold⟩ | ⟨-, rfl⟩
    · exact hk.returned j (hs.works k u j hold hj)
    · rcases h.works j hj with hworks | hmarked
      · exact hk.returned j (hs.works i r j hr hworks)
      · exact hk.returned j hmarked
  · rcases getElem?_of_advanced h hu with ⟨-, hold⟩ | ⟨-, rfl⟩
    · exact Nat.lt_of_lt_of_le (hs.called k u j hold hj) hk.length
    · rcases h.marker j hj with hmarker | ⟨-, hlt⟩
      · exact Nat.lt_of_lt_of_le (hs.called i r j hr hmarker) hk.length
      · exact hlt
  · rcases getElem?_of_advanced h hu with ⟨hne, hold⟩ | ⟨rfl, rfl⟩ <;>
      rcases getElem?_of_advanced h hu' with ⟨hne', hold'⟩ | ⟨heq, rfl⟩
    · exact hs.distinct k k' u u' j hold hold' hj hj'
    · exact absurd (hnew hne hold hj hj') id
    · exact absurd (hnew hne' hold' hj' hj) id
    · exact heq.symm
  · rcases hfailed with ⟨u, hu, hf⟩
    rcases List.mem_iff_getElem?.mp hu with ⟨k, hk'⟩
    rcases getElem?_of_advanced h hk' with ⟨-, hold⟩ | ⟨-, rfl⟩
    · exact hk.notReady (hs.failed ⟨u, List.mem_of_getElem? hold, hf⟩)
    · rcases worksAfter_of_failsAt (h.fails.mp hf) with ⟨j, hj⟩
      exact hk.notReady (notReady_of_worksAfter hs hr hj)

theorem getElem?_of_requested {backup : Bool} {k : Nat} {u : Request}
    (hu : (s.requests ++ [⟨backup, .start⟩])[k]? = some u) :
    s.requests[k]? = some u ∨ u.progress = .start := by
  rcases Nat.lt_or_ge k s.requests.length with hlt | hge
  · rw [List.getElem?_append_left hlt] at hu
    exact Or.inl hu
  · rw [List.getElem?_append_right hge, List.getElem?_singleton, Option.ite_none_right_eq_some,
      Option.some.injEq] at hu
    rw [← hu.2]
    exact Or.inr rfl

/-- One case for each effect. -/
theorem sound_step {a : Action} (hs : Sound s) (h : step c s a = some s') : Sound s' := by
  -- A request that has just come in has marked nothing.
  have hstart : ∀ {u : Request} {j : Nat}, u.progress = .start → marker u.progress ≠ some j :=
    fun hu => by rw [hu]; exact Option.some_ne_none _ ∘ Eq.symm
  cases effect_of_step h with
  | requested backup =>
      refine ⟨hs.marked, fun k u j hu hj => ?_, fun k u j hu hj => ?_,
        fun k k' u u' j hu hu' hj hj' => ?_, fun hfailed => ?_⟩
      · rcases getElem?_of_requested hu with hold | hnew
        · exact hs.works k u j hold hj
        · exact absurd (marker_of_worksAfter hj) (hstart hnew)
      · rcases getElem?_of_requested hu with hold | hnew
        · exact hs.called k u j hold hj
        · exact absurd hj (hstart hnew)
      · rcases getElem?_of_requested hu with hold | hnew
        · rcases getElem?_of_requested hu' with hold' | hnew'
          · exact hs.distinct k k' u u' j hold hold' hj hj'
          · exact absurd hj' (hstart hnew')
        · exact absurd hj (hstart hnew)
      · rcases hfailed with ⟨u, hu, hf⟩
        rcases List.mem_append.mp hu with hold | hnew
        · exact hs.failed ⟨u, hold, hf⟩
        · rw [List.mem_singleton.mp hnew] at hf
          exact absurd hf (by simp only [failedWork, Bool.false_eq_true, not_false_eq_true])
  | ran j ok w hw =>
      have hk := kept_of_step hs.marked hw (fun _ heq => absurd heq (by
        simp only [reduceCtorEq, not_false_eq_true]))
      exact ⟨hk.marked, fun k u j hu hj => hk.returned j (hs.works k u j hu hj),
        fun k u j hu hj => Nat.lt_of_lt_of_le (hs.called k u j hu hj) hk.length, hs.distinct,
        fun hfailed => hk.notReady (hs.failed hfailed)⟩
  | advanced i ok r progress _ hr hadvanced => exact sound_advanced hs hr hadvanced

theorem sound_start : Sound start where
  marked := {
    noInit := fun _ _ ht => absurd ht (by simp only [start, newWorkspace, List.getElem?_nil,
      reduceCtorEq, not_false_eq_true])
    initialized := by decide
    ready := fun _ _ _ ht => absurd ht (by simp only [start, newWorkspace, List.getElem?_nil,
      reduceCtorEq, not_false_eq_true])
    once := fun _ _ _ _ ht => absurd ht (by simp only [start, newWorkspace, List.getElem?_nil,
      reduceCtorEq, not_false_eq_true]) }
  works _ _ _ hr := absurd hr (by simp only [start, List.getElem?_nil, reduceCtorEq,
    not_false_eq_true])
  called _ _ _ hr := absurd hr (by simp only [start, List.getElem?_nil, reduceCtorEq,
    not_false_eq_true])
  distinct _ _ _ _ _ hr := absurd hr (by simp only [start, List.getElem?_nil, reduceCtorEq,
    not_false_eq_true])
  failed hf := by
    rcases hf with ⟨r, hr, -⟩
    exact absurd hr List.not_mem_nil

/-- Whoever performs the disposal has a call that has marked the workspace. -/
theorem hasMarked_of_performs (hs : Sound s) {i : Nat} {r : Request}
    (hr : s.requests[i]? = some r) (hp : performs s r = true) :
    ∃ j t, marker r.progress = some j ∧ s.workspace.callers[j]? = some t ∧
      t.hasMarked = true := by
  rw [performs] at hp
  split at hp
  · next j hj =>
      rcases (Option.any_eq_true _ _).mp hp with ⟨t, ht, hmarked⟩
      exact ⟨j, t, by rw [hj]; rfl, ht, hmarked⟩
  · rcases Option.isSome_iff_exists.mp hp with ⟨j, hj⟩
    exact ⟨j, _, marker_of_worksAfter hj, hs.works i r j hr hj, rfl⟩

/-- Two requests at work would both have marked the workspace. -/
theorem atMostOne_of_sound (hs : Sound s) : AtMostOne s := by
  intro i i' r r' hr hr' hp hp'
  rcases hasMarked_of_performs hs hr hp with ⟨j, t, hj, ht, hmarked⟩
  rcases hasMarked_of_performs hs hr' hp' with ⟨j', t', hj', ht', hmarked'⟩
  have hjj := hs.marked.once j j' t t' ht ht' hmarked hmarked'
  rw [← hjj] at hj'
  exact hs.distinct i i' r r' j hr hr' hj hj'

/-! ## No request after the first -/

/-- What holds after a state in which the workspace is marked: the calls made
    since then have not marked it, and the later requests have no others. -/
structure Late (s s' : Service) : Prop where
  sound : Sound s'
  notReady : s'.workspace.state ≠ .ready
  length : s.workspace.callers.length ≤ s'.workspace.callers.length
  unmarked : ∀ (j : Nat) (t : Caller), s.workspace.callers.length ≤ j →
    s'.workspace.callers[j]? = some t → t.hasMarked = false
  later : ∀ (i : Nat) (r : Request) (j : Nat), s.requests.length ≤ i →
    s'.requests[i]? = some r → marker r.progress = some j → s.workspace.callers.length ≤ j

/-- Once the workspace is not ready, whoever comes from now on comes late. -/
theorem late_refl (hs : Sound s) (hready : s.workspace.state ≠ .ready) : Late s s where
  sound := hs
  notReady := hready
  length := Nat.le_refl _
  unmarked j _ hj ht := by
    rw [List.getElem?_eq_none hj] at ht
    exact absurd ht (by simp only [reduceCtorEq, not_false_eq_true])
  later i _ _ hi hr := by
    rw [List.getElem?_eq_none hi] at hr
    exact absurd hr (by simp only [reduceCtorEq, not_false_eq_true])

/-- A workspace that is not ready is marked by none of the calls made later. -/
theorem unmarked_step {w w' : Workspace} {n : Nat} (hw : MarkedOnce w) (hready : w.state ≠ .ready)
    (hn : ∀ (j : Nat) (t : Caller), n ≤ j → w.callers[j]? = some t → t.hasMarked = false)
    {a : WsSync.Action} (h : WsSync.step w a = some w') (j : Nat) (t : Caller) (hj : n ≤ j)
    (ht : w'.callers[j]? = some t) : t.hasMarked = false := by
  refine Bool.eq_false_iff.mpr fun hmarked => ?_
  rcases hasMarked_step h ht hmarked with ⟨u, hu, hold⟩ | ⟨-, hle, -⟩
  · exact absurd ((hn j u hj hu).symm.trans hold) (by decide)
  · have hinit := hw.initialized
    cases hstate : w.state <;> first | exact absurd hstate hinit | exact absurd hstate hready |
      exact absurd hle (by rw [hstate]; decide)

/-- It stays so, and nobody who comes late marks the workspace. -/
theorem late_step {t : Service} {a : Action} (hl : Late s s') (h : step c s' a = some t) :
    Late s t := by
  have hsound := sound_step hl.sound h
  cases effect_of_step h with
  | requested backup =>
      refine ⟨hsound, hl.notReady, hl.length, hl.unmarked, fun i r j hi hr hj => ?_⟩
      rcases getElem?_of_requested hr with hold | hnew
      · exact hl.later i r j hi hold hj
      · rw [hnew] at hj
        exact absurd hj (by simp only [marker, worksAfter, reduceCtorEq, not_false_eq_true])
  | ran j ok w hw =>
      have hk := kept_of_step hl.sound.marked hw (fun _ heq => absurd heq (by
        simp only [reduceCtorEq, not_false_eq_true]))
      exact ⟨hsound, hk.notReady hl.notReady, Nat.le_trans hl.length hk.length,
        unmarked_step hl.sound.marked hl.notReady hl.unmarked hw, hl.later⟩
  | advanced i ok r progress _ hr hadvanced =>
      have hk := kept_of_advanced hl.sound hadvanced
      refine ⟨hsound, hk.notReady hl.notReady, Nat.le_trans hl.length hk.length, ?_,
        fun k u j hk hu hj => ?_⟩
      · rcases hadvanced.workspace with hsame | ⟨caller, -, hstep⟩
        · rw [hsame]
          exact hl.unmarked
        · exact unmarked_step hl.sound.marked hl.notReady hl.unmarked hstep
      · rcases getElem?_of_advanced hadvanced hu with ⟨-, hold⟩ | ⟨rfl, rfl⟩
        · exact hl.later k u j hk hold hj
        · rcases hadvanced.marker j hj with hmarker | ⟨hfresh, -⟩
          · exact hl.later k r j hk hr hmarker
          · rw [hfresh]
            exact hl.length

/-- Once the workspace is marked, no request that comes in later performs the
    disposal, whatever happens. -/
theorem not_performs_of_marked (hs : Sound s) (hready : s.workspace.state ≠ .ready)
    (hr : ReachesWithin (step c) (fun _ _ => True) s s') {i : Nat} {r : Request}
    (hi : s.requests.length ≤ i) (hri : s'.requests[i]? = some r) : performs s' r = false := by
  have hl : Late s s' :=
    invariant_of_reachesWithin (fun _ _ _ _ hl _ hstep => late_step hl hstep) hr
      (late_refl hs hready)
  refine Bool.eq_false_iff.mpr fun hp => ?_
  rcases hasMarked_of_performs hl.sound hri hp with ⟨j, t, hj, ht, hmarked⟩
  exact absurd ((hl.unmarked j t (hl.later i r j hi hri hj) ht).symm.trans hmarked) (by decide)

/-- There is someone who can do the work exactly as long as nobody has failed in
    it. -/
theorem retriable_iff (hs : Sound s) :
    Retriable c s ↔ ¬ ∃ r ∈ s.requests, failedWork r = true := by
  constructor
  · intro h hfailed
    rcases h hfailed with ⟨s', hr, i, r, hi, hri, hp⟩
    exact absurd ((not_performs_of_marked hs (hs.failed hfailed) hr hi hri).symm.trans hp)
      (by decide)
  · exact fun hnone hfailed => absurd hfailed hnone

/-- Some request has failed when one had before, or one fails at this step. -/
theorem failedWork_step {a : Action} (h : step c s a = some s') :
    (∃ r ∈ s'.requests, failedWork r = true) ↔
      (∃ r ∈ s.requests, failedWork r = true) ∨ ¬ ¬ Fails c s a := by
  rw [not_not]
  cases effect_of_step h with
  | requested backup =>
      simp only [List.mem_append, List.mem_singleton, or_and_right, exists_or, exists_eq_left,
        failedWork, Fails, Bool.false_eq_true, or_false]
  | ran j ok w hw => exact (or_iff_left id).symm
  | advanced i ok r progress _ hr hadvanced =>
      have hfails : Fails c s (.advance i ok) ↔ FailsAt c s r ok :=
        ⟨fun ⟨u, hu, hf⟩ => Option.some.inj (hr.symm.trans hu) ▸ hf, fun hf => ⟨r, hr, hf⟩⟩
      rw [hfails, ← hadvanced.fails, hadvanced.requests]
      have hi := (List.getElem?_eq_some_iff.mp hr).1
      constructor
      · rintro ⟨u, hu, hf⟩
        rcases List.mem_or_eq_of_mem_set hu with hold | rfl
        · exact Or.inl ⟨u, hold, hf⟩
        · exact Or.inr hf
      · rintro (⟨u, hu, hf⟩ | hf)
        · rcases List.mem_iff_getElem?.mp hu with ⟨k, hk⟩
          have hne : i ≠ k := by
            rintro rfl
            rw [hr, Option.some.injEq] at hk
            rw [← hk, hadvanced.before] at hf
            exact absurd hf (by decide)
          exact ⟨u, List.mem_of_getElem? ((List.getElem?_set_ne hne).trans hk), hf⟩
        · exact ⟨_, List.mem_set hi _, hf⟩

/-- In every run one request at most performs the disposal. That a later one can
    perform it when one has failed holds exactly as long as none has. The mark
    that keeps others away is set before the work and never taken back, so what
    makes the first half true makes the second fail. -/
theorem atMostOne_and_retriable_iff (c : Setting) (as : List Action) (s : Service)
    (hrun : runActions (step c) as start = some s) :
    (AtMostOne s ∧ Retriable c s) ↔
      MeetsAlong (step c) (fun s a => ¬ Fails c s a) as start := by
  have hs : Sound s :=
    invariant_of_reachesWithin (fun _ _ _ _ hs _ hstep => sound_step hs hstep)
      (reaches_of_runActions hrun) sound_start
  have hnone : ¬ ∃ r ∈ start.requests, failedWork r = true := by
    rintro ⟨r, hr, -⟩
    exact absurd hr List.not_mem_nil
  rw [and_iff_right (atMostOne_of_sound hs), retriable_iff hs]
  exact not_iff_meetsAlong (fun _ _ _ h => failedWork_step h) as start s hnone hrun

instance (c : Setting) (s : Service) (r : Request) (ok : Bool) : Decidable (FailsAt c s r ok) :=
  match hp : r.progress with
  | .backup _ | .sandbox _ => decidable_of_iff (ok = false) (by rw [FailsAt, hp])
  | .gitStatus _ =>
      decidable_of_iff (ok = false ∧ c.fullWorkspaceBackup = false) (by rw [FailsAt, hp])
  | .disposing _ k => decidable_of_iff
      (s.workspace.callers[k]? = some (.dispose (.returned false))) (by rw [FailsAt, hp])
  | .start | .found | .checked | .marking _ | .deleting _ | .returned _ =>
      isFalse (by rw [FailsAt, hp]; exact id)

instance (c : Setting) (s : Service) : (a : Action) → Decidable (Fails c s a)
  | .advance i ok => inferInstanceAs (Decidable (∃ r ∈ s.requests[i]?, FailsAt c s r ok))
  | .request _ | .run _ _ => isFalse id

/-- One request disposes of the workspace, and another one waits for it. -/
theorem atMostOne_and_retriable_iff_disposed :
    ∃ s, runActions (step ⟨false, 1⟩) [.request true, .advance 0 true, .advance 0 true,
      .advance 0 true, .run 0 true, .request false, .advance 1 true, .advance 1 true,
      .advance 1 true, .run 1 true, .run 0 true, .run 0 true, .advance 0 true, .advance 0 true,
      .advance 0 true, .advance 0 true, .advance 0 true, .run 2 true, .run 1 true, .run 1 true,
      .run 2 true, .run 1 true, .run 1 true, .run 2 true, .run 2 true, .advance 0 true,
      .advance 1 true] start = some s ∧ AtMostOne s ∧ Retriable ⟨false, 1⟩ s := by
  refine exists_run_of_any
    (fun s => s.requests.map Request.progress = [.returned .disposed, .returned .waited])
    (by decide +kernel) fun s hrun _ => ?_
  exact (atMostOne_and_retriable_iff _ _ s hrun).mpr (by decide +kernel)

/-- The final backup of a ready workspace fails, and nothing that comes later
    disposes of it. -/
theorem not_retriable_dataLoss :
    ¬ ∀ (c : Setting) (s : Service), ReachesWithin (step c) (fun _ _ => True) start s →
      Retriable c s := by
  intro hall
  rcases exists_of_runActions_any (step ⟨false, 0⟩) [.request true, .advance 0 true,
      .advance 0 true, .advance 0 true, .run 0 true, .run 0 true, .run 0 true, .advance 0 true,
      .advance 0 false] start
    (fun s => s.requests.any failedWork) (by decide +kernel) with ⟨s, hrun, hfailed⟩
  have hreach := reaches_of_runActions hrun
  have hs : Sound s :=
    invariant_of_reachesWithin (fun _ _ _ _ hs _ hstep => sound_step hs hstep) hreach sound_start
  exact (retriable_iff hs).mp (hall _ s hreach) (List.any_eq_true.mp hfailed)

end Service

end WsSync

end Nxpod
