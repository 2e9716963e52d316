import Nxpod.WsManager.Report
import Nxpod.WsProxy.InfoSync

/-!
# What the Proxy Does with a Subscription

The loop of `listen` of ws-proxy, over all that ws-manager publishes. A response to a
subscription is a one-of. It has a status, or it has a log message of a headless
workspace, and the accessor of the alternative it does not have returns nil.

ws-manager publishes in two places. `onChange` has a status, and `OnWorkspaceLog` has
the message that `handleHeadlessLog` makes of a line in the log of a pod. Both publish
to all subscribers, so the proxy gets what is meant for the bridge as well. The bridge
asks which of the two it has. The proxy reads the phase of the status at once.

## Main definitions

* `WorkspaceLogMessage`: A line in the log of a headless workspace, and which workspace it is.
* `Payload`, `SubscribeResponse`: A message of the subscription.
* `Publication`, `handleHeadlessLog`: What ws-manager publishes, and when a log
  message is.
* `listenStep`: The body of the loop.
* `Robust`: The loop gets through, and log messages change nothing.

## Theorems

* `listenStep_response`: The body of the loop on what is published.
* `handleHeadlessLog_spec`: What is published of a log.
* `listen_changes`: The loop over changes.
* `robust_iff`: When the loop is robust.
-/

namespace Nxpod

namespace WsProxy

namespace Listen

open Transition

variable {Stamp : Type}

/-! ## The messages -/

/-- A line in the log of a headless workspace, and which workspace it is. -/
structure WorkspaceLogMessage (Stamp : Type) where
  id : String
  metadata : WsManager.Report.WorkspaceMetadata Stamp
  message : String

/-- A response has one of the two. -/
inductive Payload (Stamp : Type) where
  | status (status : PhasedStatus)
  | log (log : WorkspaceLogMessage Stamp)

/-- A response may also have neither. -/
structure SubscribeResponse (Stamp : Type) where
  payload : Option (Payload Stamp)
  header : List (String × String) := []

/-- The accessor that is generated: without a status it returns nil. -/
def SubscribeResponse.getStatus (resp : SubscribeResponse Stamp) : Option PhasedStatus :=
  match resp.payload with
  | some (.status status) => some status
  | _ => none

/-- The accessor for the log. -/
def SubscribeResponse.getLog (resp : SubscribeResponse Stamp) :
    Option (WorkspaceLogMessage Stamp) :=
  match resp.payload with
  | some (.log log) => some log
  | _ => none

/-- A call of `onChange`, with the header that the tracer makes of the span if it can, or
    one of `OnWorkspaceLog`. -/
inductive Publication (Stamp : Type) where
  | onChange (tracingHeader : List (String × List String)) (status : PhasedStatus)
  | onWorkspaceLog (log : WorkspaceLogMessage Stamp)

/-- The entries that have one value. -/
def headerOf (tracingHeader : List (String × List String)) : List (String × String) :=
  tracingHeader.filterMap fun (k, v) =>
    match v with
    | [value] => some (k, value)
    | _ => none

/-- What goes to the subscribers. -/
def Publication.response : Publication Stamp → SubscribeResponse Stamp
  | .onChange tracingHeader status =>
      { payload := some (.status status), header := headerOf tracingHeader }
  | .onWorkspaceLog log => { payload := some (.log log) }

/-- It is published for the bridge, and comes to the proxy as well. -/
def Publication.isLog : Publication Stamp → Bool
  | .onChange .. => false
  | .onWorkspaceLog _ => true

/-- The status of a change. -/
def Publication.change : Publication Stamp → Option PhasedStatus
  | .onChange _ status => some status
  | .onWorkspaceLog _ => none

/-- A line in the log of a headless workspace. Nothing is published for a pod that does
    not say which workspace it is of. -/
def handleHeadlessLog (env : WsManager.Report.Env Stamp) (pod : WsManager.Objects.Pod)
    (msg : String) : Option (Publication Stamp) :=
  pod.id.map fun id =>
    .onWorkspaceLog ⟨id, WsManager.Report.getWorkspaceMetadata env pod, msg⟩

/-! ## The loop -/

section Loop

variable (getPortStr : String → String)

/-- What the loop does with a response. The phase is read from the status as it is, and
    a status that is nil has none. -/
def listenStep (c : WorkspaceInfoCache) (resp : SubscribeResponse Stamp) :
    Option WorkspaceInfoCache :=
  match resp.getStatus with
  | none => none
  | some status => some (applyUpdate getPortStr c status)

/-- The loop gets through all responses without a panic, and those that have a log message
    leave the cache as it was. -/
structure Robust (c : WorkspaceInfoCache) (resps : List (SubscribeResponse Stamp)) : Prop where
  processed : runActions (listenStep getPortStr) resps c ≠ none
  logs : StepsAlong (listenStep getPortStr) (fun c resp c' => resp.getLog ≠ none → c' = c)
    resps c

variable {getPortStr}

/-- A step of the loop applies the change, and without a change there is none. -/
theorem listenStep_response (c : WorkspaceInfoCache) (pub : Publication Stamp) :
    listenStep getPortStr c pub.response = pub.change.map (applyUpdate getPortStr c) := by
  cases pub with
  | onChange tracingHeader status => rfl
  | onWorkspaceLog log => rfl

/-- The loop makes the step that the synchronisation of the cache has for an update. -/
theorem listenStep_eq_recv {s s' : System} {pub : Publication Stamp} {status : PhasedStatus}
    {queue : List PhasedStatus} (hqueue : s.queue = status :: queue)
    (hpub : pub.change = some status) (h : syncStep getPortStr s .recv = some s') :
    listenStep getPortStr s.cache pub.response = some s'.cache := by
  simp only [syncStep, hqueue] at h
  split_ifs at h
  rw [listenStep_response, hpub, ← Option.some.inj h]
  rfl

theorem isLog_iff (pub : Publication Stamp) : pub.isLog = true ↔ pub.change = none := by
  cases pub with
  | onChange tracingHeader status => exact iff_of_false Bool.false_ne_true (Option.some_ne_none _)
  | onWorkspaceLog log => exact iff_of_true rfl rfl

/-- Every line of a pod that says which workspace it is of is published as a log message. -/
theorem handleHeadlessLog_spec (env : WsManager.Report.Env Stamp) (pod : WsManager.Objects.Pod)
    (msg : String) :
    (handleHeadlessLog env pod msg).isSome = pod.id.isSome ∧
      ∀ pub, handleHeadlessLog env pod msg = some pub → pub.isLog = true := by
  rw [handleHeadlessLog]
  cases pod.id with
  | none => exact ⟨rfl, fun pub h => absurd h (Option.some_ne_none pub).symm⟩
  | some id =>
      refine ⟨rfl, fun pub h => ?_⟩
      rw [← Option.some.inj h]
      rfl

/-- Without log messages the loop applies one change after the other. -/
theorem listen_changes (c : WorkspaceInfoCache) (pubs : List (Publication Stamp))
    (h : ∀ pub ∈ pubs, pub.isLog = false) :
    runActions (listenStep getPortStr) (pubs.map Publication.response) c =
      some ((pubs.filterMap Publication.change).foldl (applyUpdate getPortStr) c) := by
  induction pubs generalizing c with
  | nil => rfl
  | cons pub pubs ih =>
      rcases List.forall_mem_cons.mp h with ⟨hpub, hpubs⟩
      cases hchange : pub.change with
      | none =>
          rw [(isLog_iff pub).mpr hchange] at hpub
          exact absurd hpub (by simp only [Bool.true_eq_false, not_false_eq_true])
      | some status =>
          rw [List.map_cons, runActions, listenStep_response, hchange, Option.map_some,
            List.filterMap_cons_some hchange, List.foldl_cons]
          exact ih _ hpubs

/-- The first log message ends the loop, whatever came before and comes after. -/
theorem listen_log (c : WorkspaceInfoCache) (before after : List (Publication Stamp))
    (log : WorkspaceLogMessage Stamp) :
    runActions (listenStep getPortStr)
      ((before ++ .onWorkspaceLog log :: after).map Publication.response) c = none := by
  induction before generalizing c with
  | nil => rfl
  | cons pub before ih =>
      rw [List.cons_append, List.map_cons, runActions, listenStep_response]
      cases pub.change with
      | none => rfl
      | some status => exact ih _

/-- Wherever the loop gets past a log message, the cache is as before. -/
theorem stepsAlong_logs (c : WorkspaceInfoCache) (pubs : List (Publication Stamp)) :
    StepsAlong (listenStep getPortStr) (fun c resp c' => resp.getLog ≠ none → c' = c)
      (pubs.map Publication.response) c := by
  induction pubs generalizing c with
  | nil => trivial
  | cons pub pubs ih =>
      cases pub with
      | onChange tracingHeader status => exact ⟨fun h => absurd rfl h, ih _⟩
      | onWorkspaceLog log => trivial

/-- The loop is robust as long as no log message is published. A message is a status or a piece
    of a log, and the loop reads the phase of the status without asking which, so that one
    headless workspace with a log stops the proxy. -/
theorem robust_iff (getPortStr : String → String) (c : WorkspaceInfoCache)
    (pubs : List (Publication Stamp)) :
    Robust getPortStr c (pubs.map Publication.response) ↔ ∀ pub ∈ pubs, pub.isLog = false := by
  constructor
  · rintro ⟨hprocessed, _⟩ pub hpub
    cases pub with
    | onChange tracingHeader status => rfl
    | onWorkspaceLog log =>
        rcases List.append_of_mem hpub with ⟨before, after, rfl⟩
        exact absurd (listen_log c before after log) hprocessed
  · intro h
    refine ⟨?_, stepsAlong_logs c pubs⟩
    rw [listen_changes c pubs h]
    exact Option.some_ne_none _

/-- A prebuild writes a line. -/
theorem panics_on_log : ¬ ∀ (getPortStr : String → String) (c : WorkspaceInfoCache)
    (pubs : List (Publication Unit)), Robust getPortStr c (pubs.map Publication.response) := by
  intro hall
  exact (hall (fun _ => "4000") newWorkspaceInfoCache
    [.onWorkspaceLog ⟨"instance", ⟨"owner", "workspace", none⟩, "yarn build"⟩]).processed rfl

end Loop

end Listen

end WsProxy

end Nxpod
