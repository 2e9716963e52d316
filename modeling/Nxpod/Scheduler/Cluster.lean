import Mathlib.Data.List.ReduceOption
import Nxpod.Library.Timeline
import Nxpod.Library.Transition
import Nxpod.Scheduler.Strategy

/-!
# The Scheduler in its Cluster

The API server with all versions of all pods, the pod informer that follows it
late and may skip versions, the handlers it notifies, and the one worker that
schedules the pods of the queue and remembers its bindings in a cache until the
informer shows them.

The informer's store is updated pod by pod, before the handlers run. The
handlers run one after the other. A version skipped is one the informer never
saw because it had to list all pods anew.

The worker takes a pod from the queue and drops it if the cache knows its name.
It lists the pods of the informer's store, then the bindings of the cache,
selects a node, asks the API server to bind the pod and creates an event. What
happens elsewhere between any two of these is a step of its own. Looking the
name up is one step with listing the pods: until the worker is done entries
only leave the cache.

Only the scheduler binds pods, and the requests of a pod never change. Which
nodes are potential ones for a pod, and the order in which maps are listed, is
left to the step.

## Main definitions

* `Cluster`, `SystemState`: What is fixed, and what changes.
* `onNotification`, `checkForAndEnqueuePendingPods`, `listPods`,
  `selectNodeForPod`, `bindPodToNode`, `markAsScheduled`: The scheduler.
* `Action`, `step`: What can happen, and its effect.
* `initial`: The state when the informer has listed the pods there are.
* `Effect`: The steps that are enabled, each with its effect.

## Theorems

* `effect_of_step`: What a step can do.
* `lookup_onNotification`: The entry a handler removes from the cache.
-/

namespace Nxpod

namespace Scheduler

open Transition

theorem podKey_eq_of_identity {p q : Pod} (h : p.toPodIdentity = q.toPodIdentity) :
    podKey p = podKey q :=
  congrArg (fun id : PodIdentity => (id.namespace_, id.name)) h

/-- What the pod was when it was created, and the node it was bound to once it
    was bound, persist. -/
def Follows (b a : Pod) : Prop :=
  b.toPodIdentity = a.toPodIdentity ∧ (b.nodeName ≠ "" → a.nodeName = b.nodeName)

instance : IsPreorder Pod Follows where
  refl _ := ⟨rfl, fun _ => rfl⟩
  trans _ _ _ hab hbc := ⟨hab.1.trans hbc.1, fun h =>
    (hbc.2 ((hab.2 h).symm ▸ h)).trans (hab.2 h)⟩

/-- What does not change: the nodes, and the scheduler's configuration. -/
structure Cluster where
  nodes : List K8sNode
  nodes_nodup : (nodes.map K8sNode.name).Nodup
  nodes_named : ∀ node ∈ nodes, node.name ≠ ""
  schedulerName : String
  namespace_ : String
  strategy : Strategy
  tenths : Int → Int → Int

/-- What the informer tells the handlers. -/
inductive Notification
  | added (pod : Pod)
  | updated (pod : Pod)
  | deleted (pod : Pod)
  deriving DecidableEq

/-- How far the worker is with a pod. -/
inductive Worker
  | idle
  | listed (pod : Pod) (nodes : List K8sNode) (pods : List Pod)
  | selected (pod : Pod) (nodeName : String)
  | bound (pod : Pod) (nodeName : String)
  deriving DecidableEq

/-- The state of the whole system. The worker is the only one that changes the
    cache besides the handlers. -/
structure SystemState where
  pods : Map (String × String) (Timeline Pod)
  notifications : List Notification
  queue : List Pod
  worker : Worker
  localBindingCache : Map String Binding

/-- The pod the worker is at. -/
def Worker.pod : Worker → Option Pod
  | .idle => none
  | .listed pod _ _ => some pod
  | .selected pod _ => some pod
  | .bound pod _ => some pod

namespace SystemState

variable (s : SystemState)

/-- The versions of the pods under a namespace and a name. -/
def timeline (key : String × String) : Timeline Pod :=
  (s.pods.lookup key).getD Timeline.empty

/-- The pod the API server has. -/
def api (key : String × String) : Option Pod :=
  (s.timeline key).current

/-- The pod in the informer's store. -/
def store (key : String × String) : Option Pod :=
  (s.timeline key).seen

/-- The pods as the API server has them. -/
def apiPods : List Pod :=
  (Map.values s.pods).filterMap Timeline.current

/-- The pods as the informer's store has them. -/
def storePods : List Pod :=
  (Map.values s.pods).filterMap Timeline.seen

/-- The pods bound to a node, as the API server has them. -/
def boundPods (nodeName : String) : List Pod :=
  s.apiPods.filter fun p => p.nodeName = nodeName

def setTimeline (key : String × String) (t : Timeline Pod) : SystemState :=
  { s with pods := s.pods.insert key t }

/-- A new version at the API server. -/
def push (key : String × String) (v : Option Pod) : SystemState :=
  s.setTimeline key ((s.timeline key).push v)

/-- A pod is created, not bound, with a uid that was never used. -/
def create (pod : Pod) : Option SystemState :=
  if s.api (podKey pod) = none ∧ pod.nodeName = "" ∧
      ∀ w ∈ (s.timeline (podKey pod)).versions.reduceOption, w.uid ≠ pod.uid then
    some (s.push (podKey pod) (some pod))
  else
    none

/-- What may change about a pod changes. -/
def update (pod : Pod) : Option SystemState :=
  if ∃ v ∈ s.api (podKey pod), v.toPodIdentity = pod.toPodIdentity ∧
      v.nodeName = pod.nodeName then
    some (s.push (podKey pod) (some pod))
  else
    none

/-- A pod is deleted at the API server. The informer does not know yet. -/
def delete (key : String × String) : Option SystemState :=
  if s.api key = none then none else some (s.push key none)

end SystemState

/-- What the handlers are told when the informer's store changes. -/
def notificationsOf : Option Pod → Option Pod → List Notification
  | none, none => []
  | none, some p => [.added p]
  | some _, some p => [.updated p]
  | some p, none => [.deleted p]

namespace SystemState

variable (s : SystemState)

/-- The informer learns of versions of a pod, up to the `n` newest ones. -/
def deliver (key : String × String) (n : Nat) : Option SystemState :=
  if n < (s.timeline key).waiting.length then
    some { s.setTimeline key ((s.timeline key).deliver n) with
      notifications := s.notifications ++
        notificationsOf (s.store key) ((s.timeline key).deliver n).seen }
  else
    none

/-- The informer tells the handlers again of a pod in its store. -/
def resync (key : String × String) : Option SystemState :=
  match s.store key with
  | none => none
  | some p => some { s with notifications := s.notifications ++ [.updated p] }

end SystemState

/-- A pod is to be scheduled if it has no node, asks for this scheduler and is
    in its namespace. -/
def isPendingPodWeHaveToSchedule (c : Cluster) (pod : Pod) : Bool :=
  pod.nodeName = "" && pod.schedulerName = c.schedulerName && pod.namespace_ = c.namespace_

/-- The event handlers. Nothing is done when a pod is gone. -/
def onNotification (c : Cluster) (s : SystemState) : Notification → SystemState
  | .added pod =>
      if isPendingPodWeHaveToSchedule c pod then { s with queue := s.queue ++ [pod] } else s
  | .updated pod =>
      -- whichever pod of that name the entry is for
      if pod.nodeName ≠ "" then
        { s with localBindingCache := s.localBindingCache.erase pod.name }
      else s
  | .deleted _ => s

/-- The name whose entry a handler removes from the cache. -/
def Notification.removes : Notification → Option String
  | .updated pod => if pod.nodeName ≠ "" then some pod.name else none
  | _ => none

/-- The handlers run for the next notification. -/
def handle (c : Cluster) (s : SystemState) : Option SystemState :=
  match s.notifications with
  | [] => none
  | n :: rest => some (onNotification c { s with notifications := rest } n)

/-- The regular look for pending pods: those the store shows as pending are put
    into the queue, again if need be. The store lists its pods in any order. -/
def checkForAndEnqueuePendingPods (c : Cluster) (s : SystemState) (pods : List Pod) :
    Option SystemState :=
  if pods.Perm s.storePods then
    some { s with queue := s.queue ++ pods.filter fun p => isPendingPodWeHaveToSchedule c p }
  else
    none

/-- The worker takes a pod from the queue. It drops a pod that is known to have
    been scheduled, and lists the potential nodes and all pods otherwise. -/
def listPods (c : Cluster) (s : SystemState) (nodes : List K8sNode) (pods : List Pod) :
    Option SystemState :=
  match s.worker, s.queue with
  | .idle, pod :: rest =>
      if (s.localBindingCache.lookup pod.name).isSome then
        some { s with queue := rest }
      else if nodes ⊆ c.nodes ∧ (nodes.map K8sNode.name).Nodup ∧ pods.Perm s.storePods then
        some { s with queue := rest, worker := .listed pod nodes pods }
      else
        none
  | _, _ => none

/-- The node for a pod, or the empty name. -/
def selectNode (c : Cluster) (nodes : List K8sNode) (pods : List Pod) (bindings : List Binding)
    (now : Int) (pod : Pod) : String :=
  if nodes = [] then ""
  else (c.strategy.select c.tenths now (buildState nodes pods bindings) pod).getD ""

/-- The worker lists the bindings of its cache and selects a node. -/
def selectNodeForPod (c : Cluster) (s : SystemState) (bindings : List Binding) (now : Int) :
    Option SystemState :=
  match s.worker with
  | .listed pod nodes pods =>
      if bindings.Perm (Map.values s.localBindingCache) then
        let nodeName := selectNode c nodes pods bindings now pod
        some { s with worker := if nodeName = "" then .idle else .selected pod nodeName }
      else
        none
  | _ => none

/-- What becomes of a request to bind a pod. It can take effect while its reply
    is lost. -/
inductive BindOutcome
  | accepted
  | lost
  | rejected
  deriving DecidableEq

/-- The API server binds a pod that is not bound yet. -/
def bindPod (s : SystemState) (pod : Pod) (nodeName : String) : Option SystemState :=
  match s.api (podKey pod) with
  | none => none
  | some v =>
      if v.nodeName = "" then
        some (s.push (podKey pod) (some { v with nodeName := nodeName }))
      else
        none

/-- The request to bind the pod. When the reply is lost the pod may be bound all
    the same, and the worker gives up on it. -/
def bindPodToNode (s : SystemState) (outcome : BindOutcome) : Option SystemState :=
  match s.worker with
  | .selected pod nodeName =>
      match outcome with
      | .accepted => (bindPod s pod nodeName).map fun s' =>
          { s' with worker := .bound pod nodeName }
      | .lost => (bindPod s pod nodeName).map fun s' => { s' with worker := .idle }
      | .rejected => some { s with worker := .idle }
  | _ => none

/-- The worker learns whether the event for the binding could be created, and
    marks the pod as scheduled only then. -/
def markAsScheduled (s : SystemState) (eventCreated : Bool) : Option SystemState :=
  match s.worker with
  | .bound pod nodeName =>
      let s' := { s with worker := .idle }
      -- without the event the source returns the error before it gets to the cache
      if eventCreated then
        let binding : Binding := { pod := pod, nodeName := nodeName }
        some { s' with localBindingCache := s.localBindingCache.insert pod.name binding }
      else
        some s'
  | _ => none

/-- What can happen in the system: changes at the API server, the informer's
    deliveries, a handler's run, and the steps of the worker. -/
inductive Action
  | create (pod : Pod)
  | update (pod : Pod)
  | delete (key : String × String)
  | deliver (key : String × String) (n : Nat)
  | resync (key : String × String)
  | handle
  | checkForAndEnqueuePendingPods (pods : List Pod)
  | listPods (nodes : List K8sNode) (pods : List Pod)
  | selectNodeForPod (bindings : List Binding) (now : Int)
  | bindPodToNode (outcome : BindOutcome)
  | markAsScheduled (eventCreated : Bool)

/-- One step of the system. It is `none` when the action is not possible. -/
def step (c : Cluster) (s : SystemState) : Action → Option SystemState
  | .create pod => s.create pod
  | .update pod => s.update pod
  | .delete key => s.delete key
  | .deliver key n => s.deliver key n
  | .resync key => s.resync key
  | .handle => handle c s
  | .checkForAndEnqueuePendingPods pods => checkForAndEnqueuePendingPods c s pods
  | .listPods nodes pods => listPods c s nodes pods
  | .selectNodeForPod bindings now => selectNodeForPod c s bindings now
  | .bindPodToNode outcome => bindPodToNode s outcome
  | .markAsScheduled eventCreated => markAsScheduled s eventCreated

/-- What the API server has and the informer has listed at the start. -/
def initialPods (pods : List Pod) : Map (String × String) (Timeline Pod) :=
  Map.insertAll ∅ (pods.map fun p => (podKey p, { waiting := [], delivered := [some p] }))

/-- The informer has listed the pods there are, and the handlers have not run
    for any of them. -/
def initial (pods : List Pod) : SystemState where
  pods := initialPods pods
  notifications := ((Map.values (initialPods pods)).filterMap Timeline.seen).map .added
  queue := []
  worker := .idle
  localBindingCache := ∅

/-! ## What a step can do -/

/-- The steps that are enabled, each with its effect. -/
inductive Effect (c : Cluster) (s : SystemState) : Action → SystemState → Prop
  | create (pod : Pod) (hnone : s.api (podKey pod) = none) (hnode : pod.nodeName = "")
      (hfresh : ∀ w, some w ∈ (s.timeline (podKey pod)).versions → w.uid ≠ pod.uid) :
      Effect c s (.create pod) (s.push (podKey pod) (some pod))
  | update (pod v : Pod) (hv : s.api (podKey pod) = some v)
      (hid : v.toPodIdentity = pod.toPodIdentity) (hnode : v.nodeName = pod.nodeName) :
      Effect c s (.update pod) (s.push (podKey pod) (some pod))
  | delete (key : String × String) : Effect c s (.delete key) (s.push key none)
  | deliver (key : String × String) (n : Nat) :
      Effect c s (.deliver key n) { s.setTimeline key ((s.timeline key).deliver n) with
        notifications := s.notifications ++
          notificationsOf (s.store key) ((s.timeline key).deliver n).seen }
  | resync (key : String × String) (p : Pod) (hp : s.store key = some p) :
      Effect c s (.resync key) { s with notifications := s.notifications ++ [.updated p] }
  | handle (n : Notification) (rest : List Notification) (hn : s.notifications = n :: rest) :
      Effect c s .handle (onNotification c { s with notifications := rest } n)
  | enqueue (pods : List Pod) (hpods : pods.Perm s.storePods) :
      Effect c s (.checkForAndEnqueuePendingPods pods)
        { s with queue := s.queue ++ pods.filter fun p => isPendingPodWeHaveToSchedule c p }
  | drop (nodes : List K8sNode) (pods : List Pod) (pod : Pod) (rest : List Pod)
      (hworker : s.worker = .idle) (hqueue : s.queue = pod :: rest)
      (hcached : s.localBindingCache.lookup pod.name ≠ none) :
      Effect c s (.listPods nodes pods) { s with queue := rest }
  | list (nodes : List K8sNode) (pods : List Pod) (pod : Pod) (rest : List Pod)
      (hworker : s.worker = .idle) (hqueue : s.queue = pod :: rest)
      (hcached : s.localBindingCache.lookup pod.name = none) (hnodes : nodes ⊆ c.nodes)
      (hnodup : (nodes.map K8sNode.name).Nodup) (hpods : pods.Perm s.storePods) :
      Effect c s (.listPods nodes pods)
        { s with queue := rest, worker := .listed pod nodes pods }
  | select (bindings : List Binding) (now : Int) (pod : Pod) (nodes : List K8sNode)
      (pods : List Pod) (hworker : s.worker = .listed pod nodes pods)
      (hbindings : bindings.Perm (Map.values s.localBindingCache))
      (hnode : selectNode c nodes pods bindings now pod ≠ "") :
      Effect c s (.selectNodeForPod bindings now)
        { s with worker := .selected pod (selectNode c nodes pods bindings now pod) }
  | giveUp (bindings : List Binding) (now : Int) (pod : Pod) (nodes : List K8sNode)
      (pods : List Pod) (hworker : s.worker = .listed pod nodes pods) :
      Effect c s (.selectNodeForPod bindings now) { s with worker := .idle }
  | bind (pod : Pod) (nodeName : String) (v : Pod) (hworker : s.worker = .selected pod nodeName)
      (hv : s.api (podKey pod) = some v) (hnode : v.nodeName = "") :
      Effect c s (.bindPodToNode .accepted)
        { s.push (podKey pod) (some { v with nodeName := nodeName }) with
          worker := .bound pod nodeName }
  | lose (pod : Pod) (nodeName : String) (v : Pod) (hworker : s.worker = .selected pod nodeName)
      (hv : s.api (podKey pod) = some v) (hnode : v.nodeName = "") :
      Effect c s (.bindPodToNode .lost)
        { s.push (podKey pod) (some { v with nodeName := nodeName }) with worker := .idle }
  | reject (pod : Pod) (nodeName : String) (hworker : s.worker = .selected pod nodeName) :
      Effect c s (.bindPodToNode .rejected) { s with worker := .idle }
  | mark (pod : Pod) (nodeName : String) (hworker : s.worker = .bound pod nodeName) :
      Effect c s (.markAsScheduled true) { s with
        worker := .idle
        localBindingCache :=
          s.localBindingCache.insert pod.name { pod := pod, nodeName := nodeName } }
  | fail (pod : Pod) (nodeName : String) (hworker : s.worker = .bound pod nodeName) :
      Effect c s (.markAsScheduled false) { s with worker := .idle }

/-- A pod is bound at the API server only if it is there and has no node yet. -/
theorem bindPod_eq_some {s s' : SystemState} {pod : Pod} {nodeName : String}
    (h : bindPod s pod nodeName = some s') :
    ∃ v, s.api (podKey pod) = some v ∧ v.nodeName = "" ∧
      s' = s.push (podKey pod) (some { v with nodeName := nodeName }) := by
  rw [bindPod] at h
  split at h
  · exact absurd h (by simp only [reduceCtorEq, not_false_eq_true])
  · next v hv =>
      split_ifs at h with hnode
      exact ⟨v, hv, hnode, (Option.some.inj h).symm⟩

/-- The inversion lemma: what a step does to the versions, the notifications,
    the queue, the worker and the cache. All invariants are derived from it. -/
theorem effect_of_step {c : Cluster} {s s' : SystemState} {a : Action}
    (h : step c s a = some s') : Effect c s a s' := by
  -- Each branch of the step is one of the effects, with its guard.
  cases a with
  | create pod =>
      rw [step, SystemState.create, Option.ite_none_right_eq_some] at h
      rcases h with ⟨⟨hnone, hnode, hfresh⟩, hs⟩
      rw [← Option.some.inj hs]
      exact .create pod hnone hnode fun w hw => hfresh w (List.reduceOption_mem_iff.mpr hw)
  | update pod =>
      rw [step, SystemState.update, Option.ite_none_right_eq_some] at h
      rcases h with ⟨⟨v, hv, hid, hnode⟩, hs⟩
      rw [← Option.some.inj hs]
      exact .update pod v hv hid hnode
  | delete key =>
      rw [step, SystemState.delete, Option.ite_none_left_eq_some] at h
      rw [← Option.some.inj h.2]
      exact .delete key
  | deliver key n =>
      rw [step, SystemState.deliver, Option.ite_none_right_eq_some] at h
      rw [← Option.some.inj h.2]
      exact .deliver key n
  | resync key =>
      rw [step, SystemState.resync] at h
      split at h
      · exact absurd h (by simp only [reduceCtorEq, not_false_eq_true])
      · next p hp =>
          rw [← Option.some.inj h]
          exact .resync key p hp
  | handle =>
      rw [step, handle] at h
      split at h
      · exact absurd h (by simp only [reduceCtorEq, not_false_eq_true])
      · next n rest hn =>
          rw [← Option.some.inj h]
          exact .handle n rest hn
  | checkForAndEnqueuePendingPods pods =>
      rw [step, checkForAndEnqueuePendingPods, Option.ite_none_right_eq_some] at h
      rw [← Option.some.inj h.2]
      exact .enqueue pods h.1
  | listPods nodes pods =>
      rw [step, listPods] at h
      split at h
      · next pod rest hworker hqueue =>
          -- A pod whose name is in the cache is dropped before anything is listed.
          split_ifs at h with hcached hlisted
          · rw [← Option.some.inj h]
            exact .drop nodes pods pod rest hworker hqueue (Option.isSome_iff_ne_none.mp hcached)
          · rw [← Option.some.inj h]
            exact .list nodes pods pod rest hworker hqueue
              (Option.not_isSome_iff_eq_none.mp hcached) hlisted.1 hlisted.2.1 hlisted.2.2
      · exact absurd h (by simp only [reduceCtorEq, not_false_eq_true])
  | selectNodeForPod bindings now =>
      rw [step, selectNodeForPod] at h
      split at h
      · next pod nodes pods hworker =>
          rw [Option.ite_none_right_eq_some] at h
          rcases h with ⟨hbindings, hs⟩
          rw [← Option.some.inj hs]
          by_cases hnode : selectNode c nodes pods bindings now pod = ""
          · simp only [hnode, if_true]
            exact .giveUp bindings now pod nodes pods hworker
          · simp only [hnode, if_false]
            exact .select bindings now pod nodes pods hworker hbindings hnode
      · exact absurd h (by simp only [reduceCtorEq, not_false_eq_true])
  | bindPodToNode outcome =>
      rw [step, bindPodToNode] at h
      split at h
      · next pod nodeName hworker =>
          -- When the reply is lost the pod is bound all the same.
          cases outcome with
          | accepted =>
              rcases Option.map_eq_some_iff.mp h with ⟨t, ht, rfl⟩
              rcases bindPod_eq_some ht with ⟨v, hv, hnode, rfl⟩
              exact .bind pod nodeName v hworker hv hnode
          | lost =>
              rcases Option.map_eq_some_iff.mp h with ⟨t, ht, rfl⟩
              rcases bindPod_eq_some ht with ⟨v, hv, hnode, rfl⟩
              exact .lose pod nodeName v hworker hv hnode
          | rejected =>
              rw [← Option.some.inj h]
              exact .reject pod nodeName hworker
      · exact absurd h (by simp only [reduceCtorEq, not_false_eq_true])
  | markAsScheduled eventCreated =>
      rw [step, markAsScheduled] at h
      split at h
      · next pod nodeName hworker =>
          cases eventCreated with
          | true =>
              rw [if_pos rfl] at h
              rw [← Option.some.inj h]
              exact .mark pod nodeName hworker
          | false =>
              rw [if_neg Bool.false_ne_true] at h
              rw [← Option.some.inj h]
              exact .fail pod nodeName hworker
      · exact absurd h (by simp only [reduceCtorEq, not_false_eq_true])

section

variable (c : Cluster) (s : SystemState) (n : Notification)

theorem pods_onNotification : (onNotification c s n).pods = s.pods := by
  cases n <;> simp only [onNotification] <;> split_ifs <;> rfl

theorem notifications_onNotification :
    (onNotification c s n).notifications = s.notifications := by
  cases n <;> simp only [onNotification] <;> split_ifs <;> rfl

theorem worker_onNotification : (onNotification c s n).worker = s.worker := by
  cases n <;> simp only [onNotification] <;> split_ifs <;> rfl

theorem lookup_onNotification (name : String) :
    (onNotification c s n).localBindingCache.lookup name =
      if n.removes = some name then none else s.localBindingCache.lookup name := by
  cases n with
  | added pod =>
      simp only [onNotification, Notification.removes, reduceCtorEq, if_false]
      split_ifs <;> rfl
  | deleted pod => rfl
  | updated pod =>
      by_cases hbound : pod.nodeName ≠ ""
      · simp only [onNotification, Notification.removes, if_pos hbound, Map.lookup_erase_eq_ite,
          Option.some.injEq, eq_comm]
      · simp only [onNotification, Notification.removes, if_neg hbound, reduceCtorEq, if_false]

end

end Scheduler

end Nxpod
