import Mathlib.Data.List.Perm.Basic
import Nxpod.Library.Map
import Nxpod.WsManager.Headless

/-!
# Listening to All Headless Workspaces

`HeadlessListener.Listen` of ws-manager. A call registers the pod under its name,
unless it is registered already, and then tries to connect to its log. When that
works a governor listens to the log from there on. Calls come from several
goroutines, and what they do after the pod is registered is not under the lock.

A call that fails leaves the pod registered. Whoever called it is told so, and
may call again, but then nothing happens, since the pod seems to be listened to.

The calls that are trying to connect and the governors are in two lists. What
the first attempt comes to is part of the action, and a governor makes the steps
of the listener to a single workspace. When it panics the whole program ends.

## Main definitions

* `Pod`: What is read of a pod that is listened to.
* `Log`: A log that was opened, with what the handler answers to it.
* `Outcome`, `listenAndRetry`: The first attempt to connect.
* `Governor`: The listener to one pod, from the first connection on.
* `HeadlessListener`, `Action`, `step`: The registrations, the calls and the
  governors.
* `Retriable`: A failed call can be made again, and no pod has two listeners.
* `Connects`: The condition on a step.
* `Effect`: What a step can do.

## Theorems

* `effect_of_step`: All that a step can do.
* `inv_step`: Nothing happens to a pod twice.
* `retriable_step_iff`: When a step leaves the pod to be tried again.
* `retriable_run_iff`: When every step of a run does.
-/

namespace Nxpod

namespace WsManager

namespace Listening

open Transition

/-! ## The listeners -/

/-- What is read of a pod that is listened to. -/
structure Pod where
  name : String
  startTime : Option Int

/-- A log that was opened, with what the handler answers to it. -/
structure Log where
  lines : List Headless.Line
  time : Headless.Line → Option Int
  continueListening : List Headless.Line → Bool

/-- The context is done, or the stream is opened or not. -/
inductive Outcome where
  | done (err : String)
  | refused (err : String)
  | opened (log : Log)

/-- The listener to one pod, from the first connection on. -/
structure Governor where
  pod : String
  env : Headless.Env
  state : Headless.State

/-- The pods that are registered, the calls that try to connect, and the governors. -/
structure HeadlessListener where
  listeners : Map String Bool
  calls : List Pod
  governors : List Governor

/-- A call begins, a connection is there or not, or a governor goes on. -/
inductive Action where
  | listen (pod : Pod)
  | connect (i : Nat) (outcome : Outcome)
  | govern (i : Nat) (a : Headless.Action)

/-- Nobody is listened to. -/
def newHeadlessListener : HeadlessListener where
  listeners := ∅
  calls := []
  governors := []

/-- Up to the point where the governor is started. -/
def listenAndRetry (pod : Pod) : Outcome → Except String Governor
  | .done err => .error err
  | .refused err => match pod.startTime with
    | none => .error "pod is not running"
    | some _ => .error err
  | .opened log => match pod.startTime with
    | none => .error "pod is not running"
    | some fromPodStartup =>
        let env :=
          { lines := log.lines
            startTime := fromPodStartup
            time := log.time
            continueListening := log.continueListening }
        .ok ⟨pod.name, env, Headless.init env⟩

/-- A panic in one of them ends them all. -/
def hasPanicked (hl : HeadlessListener) : Bool :=
  hl.governors.any fun g => g.state.mode = .panicked

/-- The lock is held while the pod is registered and given back before the connection is tried. -/
def step (hl : HeadlessListener) (a : Action) : Option HeadlessListener :=
  if hasPanicked hl then none
  else match a with
    | .listen pod => match hl.listeners.lookup pod.name with
      | some _ => some hl
      -- From here on the lock is not held.
      | none => some
          { hl with
            listeners := hl.listeners.insert pod.name true
            calls := hl.calls ++ [pod] }
    | .connect i outcome => match hl.calls[i]? with
      | none => none
      | some pod =>
          let hl := { hl with calls := hl.calls.eraseIdx i }
          match listenAndRetry pod outcome with
          -- The error is returned, and the registration stays.
          | .error _ => some hl
          | .ok governor => some { hl with governors := hl.governors ++ [governor] }
    | .govern i a => match hl.governors[i]? with
      | none => none
      | some g => match Headless.step g.env g.state a with
        | none => none
        | some state => some
            { hl with governors := hl.governors.set i { g with state := state } }

/-! ## Calls that are made again -/

/-- The governor has not returned. -/
def IsActive (g : Governor) : Prop := g.state.mode = .running

/-- No two active listeners are of one pod. -/
def AtMostOne (hl : HeadlessListener) : Prop :=
  ∀ (i j : Nat) (g g' : Governor), hl.governors[i]? = some g → hl.governors[j]? = some g' →
    IsActive g → IsActive g' → g.pod = g'.pod → i = j

/-- A call that fails leaves no registration behind, a call for a pod without one tries to
    connect, and no pod has two active listeners. -/
structure Retriable (hl : HeadlessListener) (a : Action) (hl' : HeadlessListener) : Prop where
  unregistered : ∀ i outcome pod err, a = .connect i outcome → hl.calls[i]? = some pod →
    listenAndRetry pod outcome = .error err → hl'.listeners.lookup pod.name = none
  connects : ∀ pod, a = .listen pod → hl.listeners.lookup pod.name = none → pod ∈ hl'.calls
  atMostOne : AtMostOne hl'

/-- The first attempt to connect works: the pod is running and its log is opened. -/
def Connects (hl : HeadlessListener) : Action → Prop
  | .connect i outcome => ∀ pod, hl.calls[i]? = some pod →
      pod.startTime ≠ none ∧ ∃ log, outcome = .opened log
  | _ => True

/-- A connection needs a pod that was started and a log that can be opened. -/
theorem listenAndRetry_cases (pod : Pod) (outcome : Outcome) :
    (∃ t log env, pod.startTime = some t ∧ outcome = .opened log ∧
      listenAndRetry pod outcome = .ok ⟨pod.name, env, Headless.init env⟩) ∨
    ((pod.startTime = none ∨ ∀ log, outcome ≠ .opened log) ∧
      ∃ err, listenAndRetry pod outcome = .error err) := by
  cases outcome with
  | done err => exact .inr ⟨.inr nofun, err, rfl⟩
  | refused err =>
      refine .inr ⟨.inr nofun, ?_⟩
      unfold listenAndRetry
      cases pod.startTime with
      | none => exact ⟨_, rfl⟩
      | some t => exact ⟨_, rfl⟩
  | opened log =>
      cases hstart : pod.startTime with
      | none =>
          refine .inr ⟨.inl rfl, "pod is not running", ?_⟩
          rw [listenAndRetry, hstart]
      | some t =>
          refine .inl ⟨t, log, ⟨log.lines, t, log.time, log.continueListening⟩, rfl, rfl, ?_⟩
          rw [listenAndRetry, hstart]

/-! ## One step -/

/-- The pods that someone tries to connect to or listens to. -/
def taken (hl : HeadlessListener) : List String :=
  hl.calls.map Pod.name ++ hl.governors.map Governor.pod

/-- They are registered, and each is there once. -/
structure Inv (hl : HeadlessListener) : Prop where
  registered : ∀ name ∈ taken hl, hl.listeners.lookup name ≠ none
  nodup : (taken hl).Nodup

variable {hl hl' : HeadlessListener} {a : Action}

/-- What a step can do. -/
inductive Effect (hl : HeadlessListener) : Action → HeadlessListener → Prop
  | registeredAlready (pod : Pod) (h : hl.listeners.lookup pod.name ≠ none) :
      Effect hl (.listen pod) hl
  | registered (pod : Pod) (h : hl.listeners.lookup pod.name = none) :
      Effect hl (.listen pod)
        { hl with
          listeners := hl.listeners.insert pod.name true
          calls := hl.calls ++ [pod] }
  | failed (i : Nat) (outcome : Outcome) (pod : Pod) (err : String)
      (hcall : hl.calls[i]? = some pod) (h : listenAndRetry pod outcome = .error err) :
      Effect hl (.connect i outcome) { hl with calls := hl.calls.eraseIdx i }
  | connected (i : Nat) (outcome : Outcome) (pod : Pod) (g : Governor)
      (hcall : hl.calls[i]? = some pod) (h : listenAndRetry pod outcome = .ok g) :
      Effect hl (.connect i outcome)
        { hl with
          calls := hl.calls.eraseIdx i
          governors := hl.governors ++ [g] }
  | governed (i : Nat) (a : Headless.Action) (g : Governor) (state : Headless.State)
      (h : hl.governors[i]? = some g) :
      Effect hl (.govern i a) { hl with governors := hl.governors.set i { g with state := state } }

/-- All that a step can do. A governor leaves the registrations alone. -/
theorem effect_of_step (h : step hl a = some hl') : Effect hl a hl' := by
  unfold step at h
  split_ifs at h
  cases a with
  | listen pod =>
      dsimp only at h
      cases hlookup : hl.listeners.lookup pod.name with
      | some _ =>
          rw [hlookup] at h
          cases h
          exact .registeredAlready pod (by rw [hlookup]; nofun)
      | none =>
          rw [hlookup] at h
          cases h
          exact .registered pod hlookup
  | connect i outcome =>
      dsimp only at h
      cases hcall : hl.calls[i]? with
      | none =>
          rw [hcall] at h
          cases h
      | some pod =>
          rw [hcall] at h
          dsimp only at h
          cases hconnect : listenAndRetry pod outcome with
          | error err =>
              rw [hconnect] at h
              cases h
              exact .failed i outcome pod err hcall hconnect
          | ok g =>
              rw [hconnect] at h
              cases h
              exact .connected i outcome pod g hcall hconnect
  | govern i a =>
      dsimp only at h
      cases hg : hl.governors[i]? with
      | none =>
          rw [hg] at h
          cases h
      | some g =>
          rw [hg] at h
          dsimp only at h
          cases hstep : Headless.step g.env g.state a with
          | none =>
              rw [hstep] at h
              cases h
          | some state =>
              rw [hstep] at h
              cases h
              exact .governed i a g state hg

/-- A call that ends gives its pod back. -/
theorem taken_perm {i : Nat} {pod : Pod} (hcall : hl.calls[i]? = some pod) :
    (taken hl).Perm (pod.name :: taken { hl with calls := hl.calls.eraseIdx i }) := by
  rcases List.getElem?_eq_some_iff.mp hcall with ⟨hi, hpod⟩
  have hcalls := (List.getElem_cons_eraseIdx_perm hi).map Pod.name
  rw [List.map_cons, hpod] at hcalls
  exact (hcalls.append_right _).symm

theorem taken_set {i : Nat} {g : Governor} (h : hl.governors[i]? = some g)
    (state : Headless.State) :
    taken { hl with governors := hl.governors.set i { g with state := state } } = taken hl := by
  rcases List.getElem?_eq_some_iff.mp h with ⟨hi, rfl⟩
  have hself := List.set_getElem_self (List.length_map Governor.pod ▸ hi :
    i < (hl.governors.map Governor.pod).length)
  rw [List.getElem_map] at hself
  unfold taken
  rw [List.map_set]
  exact congrArg _ hself

theorem inv_new : Inv newHeadlessListener :=
  ⟨fun _ h => absurd h List.not_mem_nil, List.nodup_nil⟩

/-- No step does more than one thing to a pod, whether it fails or not. -/
theorem inv_step (hs : Inv hl) (h : step hl a = some hl') : Inv hl' := by
  cases effect_of_step h with
  | registeredAlready pod _ => exact hs
  | registered pod hlookup =>
      -- A pod that was not registered was not taken either.
      have hperm : (taken { hl with
          listeners := hl.listeners.insert pod.name true
          calls := hl.calls ++ [pod] }).Perm (pod.name :: taken hl) := by
        unfold taken
        rw [List.map_append, List.map_singleton, List.append_assoc]
        exact List.perm_middle
      refine ⟨fun name hname => ?_, hperm.nodup_iff.mpr (List.nodup_cons.mpr ⟨?_, hs.nodup⟩)⟩
      · rw [Map.lookup_insert_eq_ite]
        split_ifs with hne
        · nofun
        · exact hs.registered name ((List.mem_cons.mp (hperm.mem_iff.mp hname)).resolve_left hne)
      · exact fun hmem => hs.registered pod.name hmem hlookup
  | failed i outcome pod err hcall _ =>
      have hperm := taken_perm hcall
      refine ⟨fun name hname => hs.registered name ?_, ?_⟩
      · exact hperm.mem_iff.mpr (List.mem_cons_of_mem _ hname)
      · exact (List.nodup_cons.mp (hperm.nodup_iff.mp hs.nodup)).2
  | connected i outcome pod g hcall hconnect =>
      -- The pod passes from the call to its governor.
      have hpod : g.pod = pod.name := by
        rcases listenAndRetry_cases pod outcome with ⟨t, log, env, -, -, hok⟩ | ⟨-, err, herr⟩
        · rw [hok] at hconnect
          cases hconnect
          rfl
        · rw [herr] at hconnect
          cases hconnect
      have hperm : (taken { hl with
          calls := hl.calls.eraseIdx i
          governors := hl.governors ++ [g] }).Perm (taken hl) := by
        refine List.Perm.trans ?_ (taken_perm hcall).symm
        unfold taken
        rw [List.map_append, List.map_singleton, ← List.append_assoc, hpod]
        exact List.perm_append_singleton _ _
      exact ⟨fun name hname => hs.registered name (hperm.mem_iff.mp hname),
        hperm.nodup_iff.mpr hs.nodup⟩
  | governed i a g state hg =>
      have htaken := taken_set hg state
      exact ⟨fun name hname => hs.registered name (htaken ▸ hname), htaken ▸ hs.nodup⟩

/-- A name is taken by a call or by a governor, and by one of them only. -/
theorem atMostOne_of_inv (hs : Inv hl) : AtMostOne hl := by
  intro i j g g' hg hg' _ _ hpod
  have hnodup := (List.nodup_append.mp hs.nodup).2.1
  have hi : i < (hl.governors.map Governor.pod).length := by
    rw [List.length_map]
    exact (List.getElem?_eq_some_iff.mp hg).1
  refine (List.getElem?_inj hi hnodup).mp ?_
  rw [List.getElem?_map, List.getElem?_map, hg, hg']
  exact congrArg some hpod

/-- The registration of a call that fails is still there. -/
theorem retriable_step_iff (hs : Inv hl) (h : step hl a = some hl') :
    Retriable hl a hl' ↔ Connects hl a := by
  have hone := atMostOne_of_inv (inv_step hs h)
  cases effect_of_step h with
  | registeredAlready pod hlookup =>
      refine iff_of_true ⟨nofun, fun pod' heq hnone => ?_, hone⟩ trivial
      cases heq
      exact absurd hnone hlookup
  | registered pod hlookup =>
      refine iff_of_true ⟨nofun, fun pod' heq _ => ?_, hone⟩ trivial
      cases heq
      exact List.mem_append_right _ List.mem_cons_self
  | failed i outcome pod err hcall hconnect =>
      -- The pod of a call is registered, and failing does not change that.
      refine iff_of_false (fun hretriable => ?_) fun hconnects => ?_
      · have hname : pod.name ∈ taken hl :=
          List.mem_append_left _ (List.mem_map_of_mem (List.mem_of_getElem? hcall))
        exact hs.registered pod.name hname
          (hretriable.unregistered i outcome pod err rfl hcall hconnect)
      · rcases hconnects pod hcall with ⟨hstart, log, hopened⟩
        rcases listenAndRetry_cases pod outcome with ⟨t, _, env, _, _, hok⟩ | ⟨hnot, _⟩
        · rw [hok] at hconnect
          cases hconnect
        · rcases hnot with hnone | hnot
          · exact hstart hnone
          · exact hnot log hopened
  | connected i outcome pod g hcall hconnect =>
      refine iff_of_true ⟨fun i' outcome' pod' err heq hcall' herr => ?_, nofun, hone⟩ ?_
      · cases heq
        cases hcall.symm.trans hcall'
        rw [hconnect] at herr
        cases herr
      · intro pod' hcall'
        cases hcall.symm.trans hcall'
        rcases listenAndRetry_cases pod outcome with
          ⟨t, log, env, hstart, hopened, _⟩ | ⟨_, _, herr⟩
        · exact ⟨by rw [hstart]; nofun, log, hopened⟩
        · rw [hconnect] at herr
          cases herr
  | governed i a g state hg => exact iff_of_true ⟨nofun, nofun, hone⟩ trivial

/-- For every sequence of calls, and whatever their outcomes. The monitor calls again with every
    event of the pod, in the hope that it works the next time, which it does exactly if no first
    attempt to connect has failed. -/
theorem retriable_run_iff (as : List Action) :
    StepsAlong step Retriable as newHeadlessListener ↔
      MeetsAlong step Connects as newHeadlessListener := by
  have hstep : ∀ hl a hl', Inv hl → step hl a = some hl' → (Retriable hl a hl' ↔ Connects hl a) :=
    fun _ _ _ hs h => retriable_step_iff hs h
  exact stepsAlong_iff_meetsAlong_of_invariant (fun _ _ _ hs h => inv_step hs h) hstep as
    newHeadlessListener inv_new

/-- After a call whose stream was refused, the next one for the pod does not connect. -/
theorem registered_after_refused :
    ∃ hl hl', runActions step [.listen ⟨"ws", some 0⟩, .connect 0 (.refused "connection refused")]
        newHeadlessListener = some hl ∧
      step hl (.listen ⟨"ws", some 0⟩) = some hl' ∧
      hl.listeners.lookup "ws" = some true ∧ hl'.calls = [] ∧ hl'.governors = [] :=
  ⟨_, _, rfl, rfl, rfl, rfl, rfl⟩

end Listening

end WsManager

end Nxpod
