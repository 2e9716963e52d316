import Mathlib.Algebra.GroupWithZero.Nat
import Mathlib.Data.List.Nodup
import Nxpod.Library.Keyed
import Nxpod.Library.Map

/-!
# The Scheduler's State

What `ws-scheduler` knows when it looks for a node: the nodes with the memory
and the pod slots that are left on them, the pods it was told of, and extra
bindings of pods to nodes. Every update recomputes what is left on each node
from the pods assigned to it, by their `spec.nodeName` or by a binding.

Pods are identified by their namespace and their name in Kubernetes. The state
goes by the name alone. A pod replaces any pod of its name in the list of
pods, whatever its namespace, and of the pods assigned to a node one for each
name is counted. `NamesTellApart` says when that does no harm on a node, and
the node is accounted for exactly then.

Memory is counted in whole bytes. What is left can be negative.

## Main definitions

* `PodIdentity`, `Pod`, `K8sNode`: What the scheduler reads of the cluster.
* `Node`, `Binding`, `State`: The state.
* `getAssignedPods`, `uniquePods`, `updateAssignedPods`: The accounting.
* `updateNode`, `updatePod`, `updateBindings`, `buildState`: The updates.
* `KeyedState`: A state whose nodes are those of a map.
* `AssignedTo`: A pod is assigned to a node.
* `DistinctAssigned`: A list of the distinct pods assigned to a node, each in
  the version that was assigned.
* `AccountsFor`: What is left on a node is what the pods assigned to it leave.
* `NamesTellApart`: Names identify the pods that matter for a node.

## Theorems

* `nodup_uniquePods`, `name_mem_uniquePods`: One pod for each name is counted.
* `buildState_eq`: The state after all updates.
* `nodup_buildState`: No two nodes have one name.
* `used_eq_sum`, `ramAvailable_eq`: The three categories make up the sum.
* `distinctAssigned_of_namesTellApart`: The pods counted are the pods assigned.
* `namesTellApart_of_length`: As many are counted as assigned only then.
* `buildState_accountsFor_iff`: When every node is accounted for.
* `not_accountsFor_two_namespaces`: Two pods of one name, counted once.
-/

namespace Nxpod

namespace Scheduler

open Keyed

/-- What never changes about a pod. -/
structure PodIdentity where
  namespace_ : String
  name : String
  uid : String
  schedulerName : String
  /-- In seconds. -/
  creationTimestamp : Int
  /-- The memory requests of its containers. -/
  memoryRequests : List Nat
  deriving DecidableEq

/-- A version of a pod. -/
structure Pod extends PodIdentity where
  generation : Int
  nodeName : String
  labels : List (String × String)
  /-- The names and the images of its containers. -/
  containers : List (String × String)
  deriving DecidableEq

/-- A node of the cluster. -/
structure K8sNode where
  name : String
  allocatableMemory : Nat
  podCapacity : Int
  /-- The names of each of the images that are on it. -/
  images : List (List String)
  deriving DecidableEq

/-- A node with what is left on it. -/
structure Node where
  node : K8sNode
  ramTotal : Int
  ramAvailable : Int
  usedHeadless : Int
  usedRegular : Int
  usedOther : Int
  podSlotsTotal : Int
  podSlotsAvailable : Int

/-- A pod that is to count as assigned to a node, whatever its specification
    says. -/
structure Binding where
  pod : Pod
  nodeName : String
  deriving DecidableEq

/-- What the scheduler knows. -/
structure State where
  nodes : List Node
  pods : List Pod
  bindings : List Binding

/-- The scheduler knows nothing at first. -/
def newState : State where
  nodes := []
  pods := []
  bindings := []

/-- Pods are identified by their namespace and their name. -/
def podKey (p : Pod) : String × String :=
  (p.namespace_, p.name)

/-- A workspace is told by its label. -/
def isWorkspace (p : Pod) : Bool :=
  p.labels.lookup "component" = some "workspace"

/-- A headless workspace, such as a prebuild, has another label besides. -/
def isHeadlessWorkspace (p : Pod) : Bool :=
  isWorkspace p && p.labels.lookup "headless" = some "true"

/-- The memory requested by all containers of a pod. -/
def getRequestedRAMForPod (p : PodIdentity) : Nat :=
  p.memoryRequests.foldl (· + ·) 0

/-- One turn of the loop of `uniquePods`, over the map of the first pod of each
    name with its index, and the list of the pods kept. A newer pod replaces
    the one in the list; the map keeps the first, since what the source
    changes there is a copy. -/
def uniquePodsStep (acc : Map String (Pod × Nat) × List Pod) (p : Pod) :
    Map String (Pod × Nat) × List Pod :=
  match acc.1.lookup p.name with
  | none => (acc.1.insert p.name (p, acc.2.length), acc.2 ++ [p])
  | some (existingPod, index) =>
      -- a pod of another namespace counts as a version of the existing pod here
      if existingPod.generation < p.generation then (acc.1, acc.2.set index p) else acc

/-- One pod for each name: the first one, or the last one of those that are newer than it. -/
def uniquePods (pods : List Pod) : List Pod :=
  (pods.foldl uniquePodsStep (∅, [])).2

/-- The pods of a node before duplicates are removed. -/
def assignedPods (pods : List Pod) (bindings : List Binding) (nodeName : String) : List Pod :=
  (pods.filter fun p => p.nodeName = nodeName) ++
    (bindings.filter fun b => b.nodeName = nodeName).map Binding.pod

/-- The pods that count on a node. Pods and bindings come together, and one for
    each name is kept. -/
def getAssignedPods (pods : List Pod) (bindings : List Binding) (nodeName : String) : List Pod :=
  uniquePods (assignedPods pods bindings nodeName)

/-- The memory requested by a list of pods. -/
def requestedRAM (pods : List Pod) : Nat :=
  (pods.map fun p => getRequestedRAMForPod p.toPodIdentity).sum

/-- What is left on a node, given all pods and bindings. -/
def updateAssignedPods (pods : List Pod) (bindings : List Binding) (n : Node) : Node :=
  let assigned := getAssignedPods pods bindings n.node.name
  let usedHeadless : Int := requestedRAM (assigned.filter fun p => isHeadlessWorkspace p)
  let usedRegular : Int :=
    requestedRAM (assigned.filter fun p => !isHeadlessWorkspace p && isWorkspace p)
  let usedOther : Int :=
    requestedRAM (assigned.filter fun p => !isHeadlessWorkspace p && !isWorkspace p)
  { n with
    ramAvailable := n.ramTotal - usedOther - usedHeadless - usedRegular
    usedHeadless := usedHeadless
    usedRegular := usedRegular
    usedOther := usedOther
    podSlotsAvailable := n.podSlotsTotal - assigned.length }

/-- A node that nothing was assigned to yet. -/
def createNodeFrom (node : K8sNode) : Node where
  node := node
  ramTotal := node.allocatableMemory
  ramAvailable := node.allocatableMemory
  usedHeadless := 0
  usedRegular := 0
  usedOther := 0
  podSlotsTotal := node.podCapacity
  podSlotsAvailable := node.podCapacity

/-- The name a node is stored under. -/
def Node.name (n : Node) : String := n.node.name

namespace State

variable (s : State)

/-- Integrate a node. Updating one that is there sets all that creating it
    does, and what it has used is recomputed. -/
def updateNode (node : K8sNode) : State :=
  let n := updateAssignedPods s.pods s.bindings (createNodeFrom node)
  { s with nodes := upsert Node.name s.nodes n }

/-- Every node is put into the state, in the place of an older one of its name. -/
def updateNodes (nodes : List K8sNode) : State :=
  nodes.foldl updateNode s

/-- Integrate a pod, in the place of the first pod with its name. -/
def updatePod (pod : Pod) : State :=
  let pods := upsert (fun p : Pod => p.name) s.pods pod
  { s with pods := pods, nodes := s.nodes.map (updateAssignedPods pods s.bindings) }

/-- Every pod is put into the state, in the place of an older one of its name. -/
def updatePods (pods : List Pod) : State :=
  pods.foldl updatePod s

/-- The bindings replace those there were, and every node is computed anew. -/
def updateBindings (bindings : List Binding) : State :=
  { s with bindings := bindings, nodes := s.nodes.map (updateAssignedPods s.pods bindings) }

end State

/-- The state for a list of nodes, all pods and extra bindings. -/
def buildState (nodes : List K8sNode) (pods : List Pod) (bindings : List Binding) : State :=
  ((newState.updateNodes nodes).updatePods pods).updateBindings bindings

/-! ## Counting one pod for each name -/

/-- What the loop of `uniquePods` keeps up: the map has the names of the list,
    each with the index of its pod, and no name is in the list twice. -/
structure UniqueInv (seen : List Pod) (acc : Map String (Pod × Nat) × List Pod) : Prop where
  nodup : (acc.2.map fun p => p.name).Nodup
  lookup_none : ∀ name, acc.1.lookup name = none ↔ name ∉ acc.2.map fun p => p.name
  index : ∀ name p i, acc.1.lookup name = some (p, i) → (acc.2.map fun p => p.name)[i]? = some name
  subset : ∀ p ∈ acc.2, p ∈ seen
  names : ∀ p ∈ seen, p.name ∈ acc.2.map fun p => p.name

/-- One more pod either takes the place of one of its name or is added at the
    end. -/
theorem uniqueInv_step {seen : List Pod} {acc : Map String (Pod × Nat) × List Pod}
    (h : UniqueInv seen acc) (p : Pod) : UniqueInv (seen ++ [p]) (uniquePodsStep acc p) := by
  rw [uniquePodsStep]
  -- Either the name is new and the pod is added at the end, or one of the two pods is kept.
  cases hlookup : acc.1.lookup p.name with
  | none =>
      have hnew := (h.lookup_none p.name).mp hlookup
      constructor
      · rw [List.map_append, List.map_singleton]
        exact List.nodup_append_comm.mp (List.nodup_cons.mpr ⟨hnew, h.nodup⟩)
      · intro name
        rw [Map.lookup_insert_eq_ite, List.map_append, List.mem_append, List.map_singleton,
          List.mem_singleton]
        split_ifs with hname
        · simp only [hname, or_true, not_true_eq_false]
        · simp only [h.lookup_none, hname, or_false]
      · -- The index of the new pod is the length of the list before.
        intro name q i hq
        rw [Map.lookup_insert_eq_ite] at hq
        rw [List.map_append, List.map_singleton]
        split_ifs at hq with hname
        · rw [Option.some.injEq, Prod.mk.injEq] at hq
          rw [← hq.2, List.getElem?_append_right (by rw [List.length_map]), List.length_map,
            Nat.sub_self, hname]
          rfl
        · have hi := h.index name q i hq
          rw [List.getElem?_append_left (List.getElem?_eq_some_iff.mp hi).1]
          exact hi
      · intro q hq
        exact List.mem_append.mpr ((List.mem_append.mp hq).imp (h.subset q) id)
      · intro q hq
        rw [List.map_append, List.mem_append]
        refine (List.mem_append.mp hq).imp (h.names q) fun hqp => ?_
        rw [List.mem_singleton.mp hqp]
        exact List.mem_singleton_self _
  | some existing =>
      rcases existing with ⟨existingPod, index⟩
      have hindex := h.index p.name existingPod index hlookup
      -- the new pod has the name that is there, so the names stay as they are
      have hsame : (acc.2.set index p).map (fun p => p.name) = acc.2.map fun p => p.name := by
        rw [List.map_set]
        rcases List.getElem?_eq_some_iff.mp hindex with ⟨hlt, hname⟩
        rw [← hname]
        exact List.set_getElem_self hlt
      have hnames : ∀ q ∈ seen ++ [p], q.name ∈ acc.2.map fun p => p.name := by
        intro q hq
        rcases List.mem_append.mp hq with hq | hq
        · exact h.names q hq
        · rw [List.mem_singleton.mp hq]
          exact List.mem_of_getElem? hindex
      simp only
      split_ifs
      · -- the newer pod takes the place of the existing one
        refine ⟨?_, ?_, ?_, fun q hq => ?_, ?_⟩
        · rw [hsame]; exact h.nodup
        · rw [hsame]; exact h.lookup_none
        · rw [hsame]; exact h.index
        · rcases List.mem_or_eq_of_mem_set hq with hq | hq
          · exact List.mem_append_left _ (h.subset q hq)
          · rw [hq]
            exact List.mem_append_right _ (List.mem_singleton_self p)
        · rw [hsame]; exact hnames
      · exact ⟨h.nodup, h.lookup_none, h.index,
          fun q hq => List.mem_append_left _ (h.subset q hq), hnames⟩

/-- The invariant after the whole loop, by induction on the pods. -/
theorem uniqueInv_uniquePods (pods : List Pod) :
    UniqueInv pods (pods.foldl uniquePodsStep (∅, [])) := by
  induction pods using List.reverseRecOn with
  | nil =>
      refine ⟨List.nodup_nil, fun name => ?_, fun name p i h => ?_, fun p hp => ?_, fun p hp => ?_⟩
      · exact iff_of_true (AList.lookup_empty name) List.not_mem_nil
      · exact absurd ((AList.lookup_empty name).symm.trans h) (by simp only [reduceCtorEq,
          not_false_eq_true])
      · exact absurd hp List.not_mem_nil
      · exact absurd hp List.not_mem_nil
  | append_singleton pods p ih =>
      rw [List.foldl_append]
      exact uniqueInv_step ih p

theorem nodup_uniquePods (pods : List Pod) : ((uniquePods pods).map fun p => p.name).Nodup :=
  (uniqueInv_uniquePods pods).nodup

theorem uniquePods_subset {pods : List Pod} {p : Pod} (h : p ∈ uniquePods pods) : p ∈ pods :=
  (uniqueInv_uniquePods pods).subset p h

theorem name_mem_uniquePods {pods : List Pod} {p : Pod} (h : p ∈ pods) :
    p.name ∈ (uniquePods pods).map fun p => p.name :=
  (uniqueInv_uniquePods pods).names p h

/-! ## The state after all updates -/

/-- The pods the state knows after it was told of a list of pods. -/
def knownPods (pods : List Pod) : List Pod :=
  pods.foldl (upsert fun p : Pod => p.name) []

/-- Nodes with names of their own do not replace each other. -/
theorem updateNodes_newState {nodes : List K8sNode} (hn : (nodes.map K8sNode.name).Nodup) :
    newState.updateNodes nodes = { newState with
      nodes := nodes.map fun node => updateAssignedPods [] [] (createNodeFrom node) } := by
  induction nodes using List.reverseRecOn with
  | nil => rfl
  | append_singleton nodes node ih =>
      rw [List.map_append, List.map_singleton, List.nodup_append] at hn
      rw [State.updateNodes] at ih ⊢
      rw [List.foldl_append, ih hn.1, List.foldl_cons, List.foldl_nil, State.updateNode,
        upsert_of_new, List.map_append]
      · rfl
      · -- the node is not there, since its name is new
        rw [List.map_map]
        intro hmem
        exact hn.2.2 _ hmem _ (List.mem_singleton_self _) rfl

/-- Each node has its accounts from the last update, whatever it had before. -/
theorem updateBindings_updatePods (s : State) (pods : List Pod) (bindings : List Binding) :
    (s.updatePods pods).updateBindings bindings =
      { nodes := s.nodes.map
          (updateAssignedPods (pods.foldl (upsert fun p : Pod => p.name) s.pods) bindings)
        pods := pods.foldl (upsert fun p : Pod => p.name) s.pods
        bindings := bindings } := by
  induction pods generalizing s with
  | nil => rfl
  | cons pod pods ih =>
      have h := ih (s.updatePod pod)
      rw [State.updatePods] at h ⊢
      rw [List.foldl_cons, h, State.updatePod, List.map_map]
      rfl

theorem buildState_eq {nodes : List K8sNode} (hn : (nodes.map K8sNode.name).Nodup)
    (pods : List Pod) (bindings : List Binding) :
    buildState nodes pods bindings =
      { nodes := nodes.map fun node =>
          updateAssignedPods (knownPods pods) bindings (createNodeFrom node)
        pods := knownPods pods
        bindings := bindings } := by
  rw [buildState, updateBindings_updatePods, updateNodes_newState hn, List.map_map]
  rfl

theorem name_updateAssignedPods (pods : List Pod) (bindings : List Binding) (n : Node) :
    (updateAssignedPods pods bindings n).name = n.name := rfl

/-- The nodes are those of a map, so no two of them have one name. -/
theorem nodup_updateNodes (nodes : List K8sNode) {s : State} (hs : (s.nodes.map Node.name).Nodup) :
    ((s.updateNodes nodes).nodes.map Node.name).Nodup := by
  induction nodes generalizing s with
  | nil => exact hs
  | cons node nodes ih => exact ih (nodup_upsert hs _)

theorem nodup_buildState (nodes : List K8sNode) (pods : List Pod) (bindings : List Binding) :
    ((buildState nodes pods bindings).nodes.map Node.name).Nodup := by
  rw [buildState, updateBindings_updatePods]
  exact nodup_map_of_keys _ (name_updateAssignedPods _ _) (nodup_updateNodes nodes List.nodup_nil)

/-- A state whose nodes all have names of their own. -/
structure KeyedState extends State where
  nodup : (nodes.map Node.name).Nodup

/-- Every state that is built is one. -/
def KeyedState.build (nodes : List K8sNode) (pods : List Pod) (bindings : List Binding) :
    KeyedState where
  toState := buildState nodes pods bindings
  nodup := nodup_buildState nodes pods bindings

theorem KeyedState.eq_of_name (s : KeyedState) {a b : Node} (ha : a ∈ s.nodes) (hb : b ∈ s.nodes)
    (h : a.name = b.name) : a = b :=
  List.inj_on_of_nodup_map s.nodup ha hb h

/-! ## The accounts of a node -/

/-- What is requested splits into the part of some pods and that of the others. -/
theorem requestedRAM_eq_filter_add (q : Pod → Bool) (pods : List Pod) :
    requestedRAM pods =
      requestedRAM (pods.filter q) + requestedRAM (pods.filter fun p => !q p) := by
  induction pods with
  | nil => rfl
  | cons p pods ih =>
      simp only [requestedRAM, List.map_cons, List.sum_cons] at ih ⊢
      cases hq : q p <;>
        simp only [List.filter_cons, hq, Bool.not_true, Bool.not_false, if_true,
          Bool.false_eq_true, if_false, List.map_cons, List.sum_cons] <;>
        omega

/-- Every pod assigned to a node is in one of the three categories. -/
theorem used_eq_sum (pods : List Pod) (bindings : List Binding) (n : Node) :
    (updateAssignedPods pods bindings n).usedHeadless +
        (updateAssignedPods pods bindings n).usedRegular +
        (updateAssignedPods pods bindings n).usedOther =
      requestedRAM (getAssignedPods pods bindings n.node.name) := by
  simp only [updateAssignedPods]
  generalize getAssignedPods pods bindings n.node.name = assigned
  -- headless or not, and those that are not are workspaces or not
  rw [requestedRAM_eq_filter_add (fun p => isHeadlessWorkspace p) assigned,
    requestedRAM_eq_filter_add (fun p => isWorkspace p)
      (assigned.filter fun p => !isHeadlessWorkspace p)]
  simp only [List.filter_filter, Bool.and_comm]
  omega

/-- What is left on a node is what it has less what its pods request. -/
theorem ramAvailable_eq (pods : List Pod) (bindings : List Binding) (n : Node) :
    (updateAssignedPods pods bindings n).ramAvailable =
      n.ramTotal - requestedRAM (getAssignedPods pods bindings n.node.name) := by
  have h := used_eq_sum pods bindings n
  simp only [updateAssignedPods] at h ⊢
  omega

/-- A pod, by its namespace and name, is assigned to a node: its latest version
    says so, or a binding does. -/
def AssignedTo (pods : List Pod) (bindings : List Binding) (nodeName : String)
    (key : String × String) : Prop :=
  (∃ p, findLast podKey key pods = some p ∧ p.nodeName = nodeName) ∨
    ∃ b ∈ bindings, b.nodeName = nodeName ∧ podKey b.pod = key

/-- A list of the distinct pods assigned to a node, each in the version that
    was assigned. -/
structure DistinctAssigned (pods : List Pod) (bindings : List Binding) (nodeName : String)
    (assigned : List Pod) : Prop where
  keys_nodup : (assigned.map podKey).Nodup
  mem_iff : ∀ key, key ∈ assigned.map podKey ↔ AssignedTo pods bindings nodeName key
  version : ∀ p ∈ assigned, (findLast podKey (podKey p) pods = some p ∧ p.nodeName = nodeName) ∨
    ∃ b ∈ bindings, b.nodeName = nodeName ∧ b.pod = p

/-- A node has what the distinct pods assigned to it leave of it. -/
def AccountsFor (pods : List Pod) (bindings : List Binding) (n : Node) : Prop :=
  ∃ assigned, DistinctAssigned pods bindings n.node.name assigned ∧
    n.ramAvailable = n.node.allocatableMemory - requestedRAM assigned ∧
    n.usedHeadless + n.usedRegular + n.usedOther = requestedRAM assigned ∧
    n.podSlotsAvailable = n.node.podCapacity - assigned.length

/-- Names identify the pods that matter for a node. No two pods assigned to it
    share their name, and no pod that is listed as running there is hidden by
    a pod of another namespace listed later under its name, unless a binding
    brings it back. -/
def NamesTellApart (pods : List Pod) (bindings : List Binding) (nodeName : String) : Prop :=
  (∀ key key', AssignedTo pods bindings nodeName key → AssignedTo pods bindings nodeName key' →
    key.2 = key'.2 → key = key') ∧
  ∀ p, findLast podKey (podKey p) pods = some p → p.nodeName = nodeName →
    findLast (fun q : Pod => q.name) p.name pods = some p ∨
      ∃ b ∈ bindings, b.nodeName = nodeName ∧ podKey b.pod = podKey p

instance (pods : List Pod) (bindings : List Binding) (nodeName : String) (key : String × String) :
    Decidable (AssignedTo pods bindings nodeName key) :=
  inferInstanceAs (Decidable ((∃ p ∈ findLast podKey key pods, p.nodeName = nodeName) ∨
    ∃ b ∈ bindings, b.nodeName = nodeName ∧ podKey b.pod = key))

/-- The pods assigned to any node are among those that are listed or bound. -/
theorem mem_keys_of_assignedTo {pods : List Pod} {bindings : List Binding} {nodeName : String}
    {key : String × String} (h : AssignedTo pods bindings nodeName key) :
    key ∈ (pods ++ bindings.map Binding.pod).map podKey := by
  rcases h with ⟨p, hp, -⟩ | ⟨b, hb, -, hkey⟩
  · rcases mem_of_findLast hp with ⟨hmem, hkey⟩
    exact List.mem_map.mpr ⟨p, List.mem_append_left _ hmem, hkey⟩
  · exact List.mem_map.mpr ⟨b.pod, List.mem_append_right _ (List.mem_map_of_mem hb), hkey⟩

instance (pods : List Pod) (bindings : List Binding) (nodeName : String) :
    Decidable (NamesTellApart pods bindings nodeName) :=
  decidable_of_iff
    ((∀ key ∈ (pods ++ bindings.map Binding.pod).map podKey,
      ∀ key' ∈ (pods ++ bindings.map Binding.pod).map podKey,
        AssignedTo pods bindings nodeName key → AssignedTo pods bindings nodeName key' →
          key.2 = key'.2 → key = key') ∧
      ∀ p ∈ pods, findLast podKey (podKey p) pods = some p → p.nodeName = nodeName →
        findLast (fun q : Pod => q.name) p.name pods = some p ∨
          ∃ b ∈ bindings, b.nodeName = nodeName ∧ podKey b.pod = podKey p)
    ⟨fun h => ⟨fun key key' hkey hkey' =>
        h.1 key (mem_keys_of_assignedTo hkey) key' (mem_keys_of_assignedTo hkey') hkey hkey',
        fun p hp => h.2 p (mem_of_findLast hp).1 hp⟩,
      fun h => ⟨fun key _ key' _ => h.1 key key', fun p _ => h.2 p⟩⟩

/-! ## When every node is accounted for -/

variable {pods : List Pod} {bindings : List Binding} {nodeName : String}

/-- What counts on a node, in terms of the pods the state was told of. -/
theorem mem_assignedPods_iff (p : Pod) :
    p ∈ assignedPods (knownPods pods) bindings nodeName ↔
      (findLast (fun q : Pod => q.name) p.name pods = some p ∧ p.nodeName = nodeName) ∨
        ∃ b ∈ bindings, b.nodeName = nodeName ∧ b.pod = p := by
  simp only [assignedPods, knownPods, List.mem_append, List.mem_filter, mem_foldl_upsert_iff,
    decide_eq_true_eq, List.mem_map, and_assoc]

/-- The last pod under a name is the last version of that pod. -/
theorem findLast_podKey {p : Pod} (h : findLast (fun q : Pod => q.name) p.name pods = some p) :
    findLast podKey (podKey p) pods = some p :=
  findLast_of_findLast (fun _ _ hkey => (Prod.mk.inj hkey).2) h

/-- A pod that is counted is the last one of its key, or comes from a binding. -/
theorem version_of_counted {p : Pod} (h : p ∈ getAssignedPods (knownPods pods) bindings nodeName) :
    (findLast podKey (podKey p) pods = some p ∧ p.nodeName = nodeName) ∨
      ∃ b ∈ bindings, b.nodeName = nodeName ∧ b.pod = p :=
  ((mem_assignedPods_iff p).mp (uniquePods_subset h)).imp_left (And.imp_left findLast_podKey)

theorem assignedTo_of_version {p : Pod}
    (h : (findLast podKey (podKey p) pods = some p ∧ p.nodeName = nodeName) ∨
      ∃ b ∈ bindings, b.nodeName = nodeName ∧ b.pod = p) :
    AssignedTo pods bindings nodeName (podKey p) := by
  rcases h with h | ⟨b, hb, hnode, hpod⟩
  · exact Or.inl ⟨p, h⟩
  · exact Or.inr ⟨b, hb, hnode, congrArg podKey hpod⟩

theorem nodup_keys_counted :
    ((getAssignedPods (knownPods pods) bindings nodeName).map podKey).Nodup := by
  have h := nodup_uniquePods (assignedPods (knownPods pods) bindings nodeName)
  refine List.Nodup.of_map Prod.snd ?_
  rw [List.map_map]
  exact h

/-- Pods counted on a node under one name are one pod. -/
theorem eq_of_counted {p q : Pod} (hp : p ∈ getAssignedPods (knownPods pods) bindings nodeName)
    (hq : q ∈ getAssignedPods (knownPods pods) bindings nodeName) (h : p.name = q.name) : p = q :=
  List.inj_on_of_nodup_map
    (nodup_uniquePods (assignedPods (knownPods pods) bindings nodeName)) hp hq h

/-- Where names tell the pods apart, the pods counted are the pods assigned. -/
theorem distinctAssigned_of_namesTellApart (h : NamesTellApart pods bindings nodeName) :
    DistinctAssigned pods bindings nodeName
      (getAssignedPods (knownPods pods) bindings nodeName) := by
  rcases h with ⟨hkeys, hlast⟩
  refine ⟨nodup_keys_counted, fun key => ⟨fun hkey => ?_, fun hkey => ?_⟩,
    fun p hp => version_of_counted hp⟩
  · rcases List.mem_map.mp hkey with ⟨p, hp, rfl⟩
    exact assignedTo_of_version (version_of_counted hp)
  · -- some pod with this key is in the list before duplicates are removed
    have hmem : ∃ p ∈ assignedPods (knownPods pods) bindings nodeName, podKey p = key := by
      have hbound : ∀ k, (∃ b ∈ bindings, b.nodeName = nodeName ∧ podKey b.pod = k) →
          ∃ p ∈ assignedPods (knownPods pods) bindings nodeName, podKey p = k := by
        rintro k ⟨b, hb, hnode, hk⟩
        exact ⟨b.pod, (mem_assignedPods_iff b.pod).mpr (Or.inr ⟨b, hb, hnode, rfl⟩), hk⟩
      rcases hkey with ⟨p, hp, hnode⟩ | hb
      · have hk := (mem_of_findLast hp).2
        rw [← hk] at hp ⊢
        rcases hlast p hp hnode with hname | hb
        · exact ⟨p, (mem_assignedPods_iff p).mpr (Or.inl ⟨hname, hnode⟩), rfl⟩
        · exact hbound _ hb
      · exact hbound key hb
    rcases hmem with ⟨p, hp, hk⟩
    -- the pod counted under its name is assigned as well, so it is that pod
    rcases List.mem_map.mp (name_mem_uniquePods hp) with ⟨q, hq, hname⟩
    have hqp : podKey q = key :=
      hkeys _ _ (assignedTo_of_version (version_of_counted hq)) hkey
        (by rw [← hk]; exact hname)
    exact List.mem_map.mpr ⟨q, hq, hqp⟩

/-- Where as many pods are counted as are assigned, names tell them apart. -/
theorem namesTellApart_of_length {assigned : List Pod}
    (h : DistinctAssigned pods bindings nodeName assigned)
    (hlen : (getAssignedPods (knownPods pods) bindings nodeName).length = assigned.length) :
    NamesTellApart pods bindings nodeName := by
  -- the keys counted are among the keys assigned, and are as many
  have hsub : (getAssignedPods (knownPods pods) bindings nodeName).map podKey ⊆
      assigned.map podKey := by
    intro key hkey
    rcases List.mem_map.mp hkey with ⟨p, hp, rfl⟩
    exact (h.mem_iff _).mpr (assignedTo_of_version (version_of_counted hp))
  have hperm : ((getAssignedPods (knownPods pods) bindings nodeName).map podKey).Perm
      (assigned.map podKey) :=
    (List.subperm_of_subset nodup_keys_counted hsub).perm_of_length_le
      (by rw [List.length_map, List.length_map, hlen])
  have hcounted : ∀ key, AssignedTo pods bindings nodeName key →
      ∃ p ∈ getAssignedPods (knownPods pods) bindings nodeName, podKey p = key := fun key hkey =>
    List.mem_map.mp (hperm.mem_iff.mpr ((h.mem_iff key).mpr hkey))
  constructor
  · intro key key' hkey hkey' hname
    rcases hcounted key hkey with ⟨p, hp, rfl⟩
    rcases hcounted key' hkey' with ⟨q, hq, rfl⟩
    rw [eq_of_counted hp hq hname]
  · intro p hp hnode
    -- some version of the pod is counted, and if no binding brought it, it is this one
    rcases hcounted (podKey p) (Or.inl ⟨p, hp, hnode⟩) with ⟨q, hq, hkey⟩
    rcases (mem_assignedPods_iff q).mp (uniquePods_subset hq) with hlast | ⟨b, hb, hbnode, hbpod⟩
    · left
      have hqp := findLast_podKey hlast.1
      rw [hkey, hp, Option.some.injEq] at hqp
      rw [hqp]
      exact hlast.1
    · exact Or.inr ⟨b, hb, hbnode, by rw [hbpod, hkey]⟩

/-- One node of the state is accounted for exactly when names tell apart the
    pods that matter for it. -/
theorem accountsFor_iff (pods : List Pod) (bindings : List Binding) (node : K8sNode) :
    AccountsFor pods bindings
        (updateAssignedPods (knownPods pods) bindings (createNodeFrom node)) ↔
      NamesTellApart pods bindings node.name := by
  constructor
  · rintro ⟨assigned, hassigned, -, -, hslots⟩
    refine namesTellApart_of_length hassigned ?_
    simp only [updateAssignedPods, createNodeFrom] at hslots
    omega
  · intro h
    exact ⟨_, distinctAssigned_of_namesTellApart h, ramAvailable_eq _ _ _, used_eq_sum _ _ _, rfl⟩

/-- After all updates the state has exactly the nodes given, and accounts for
    each of them, exactly when names tell apart the pods that matter for each
    node. Pods are kept by name without namespace, so of two that share one only
    the last is counted, and the node looks emptier than it is. -/
theorem buildState_accountsFor_iff (nodes : List K8sNode) (pods : List Pod)
    (bindings : List Binding) (hn : (nodes.map K8sNode.name).Nodup) :
    ((buildState nodes pods bindings).nodes.map Node.node = nodes ∧
        ∀ n ∈ (buildState nodes pods bindings).nodes, AccountsFor pods bindings n) ↔
      ∀ node ∈ nodes, NamesTellApart pods bindings node.name := by
  simp only [buildState_eq hn, List.map_map, List.forall_mem_map, accountsFor_iff]
  refine and_iff_right ?_
  calc nodes.map (Node.node ∘ fun node =>
        updateAssignedPods (knownPods pods) bindings (createNodeFrom node))
      = nodes.map id := rfl
    _ = nodes := List.map_id nodes

/-- A node with ten bytes. -/
def tenBytes : K8sNode where
  name := "node"
  allocatableMemory := 10
  podCapacity := 110
  images := []

/-- A pod that requests four bytes and runs on the node. -/
def fourBytesIn (namespace_ : String) : Pod where
  namespace_ := namespace_
  name := "pod"
  uid := namespace_
  schedulerName := "workspace-scheduler"
  creationTimestamp := 0
  memoryRequests := [1, 3]
  generation := 1
  nodeName := "node"
  labels := []
  containers := []

theorem buildState_accountsFor_iff_bound :
    ([tenBytes].map K8sNode.name).Nodup ∧
      (((buildState [tenBytes] [fourBytesIn "default"]
          [{ pod := fourBytesIn "default", nodeName := "node" }]).nodes.map Node.node =
            [tenBytes] ∧
          ∀ n ∈ (buildState [tenBytes] [fourBytesIn "default"]
            [{ pod := fourBytesIn "default", nodeName := "node" }]).nodes,
            AccountsFor [fourBytesIn "default"]
              [{ pod := fourBytesIn "default", nodeName := "node" }] n) ↔
        ∀ node ∈ [tenBytes], NamesTellApart [fourBytesIn "default"]
          [{ pod := fourBytesIn "default", nodeName := "node" }] node.name) :=
  ⟨by decide, buildState_accountsFor_iff [tenBytes] [fourBytesIn "default"]
    [{ pod := fourBytesIn "default", nodeName := "node" }] (by decide)⟩

/-- Two pods of four bytes, of one name in two namespaces, leave six bytes of
    ten: one of them is not counted. -/
theorem not_accountsFor_two_namespaces :
    (buildState [tenBytes] [fourBytesIn "default", fourBytesIn "kube-system"] []).nodes.map
        Node.ramAvailable = [6] ∧
      ¬ ∀ (nodes : List K8sNode) (pods : List Pod) (bindings : List Binding),
        (nodes.map K8sNode.name).Nodup →
          ∀ n ∈ (buildState nodes pods bindings).nodes, AccountsFor pods bindings n := by
  refine ⟨by decide +kernel, fun h => ?_⟩
  have hnodes : ([tenBytes].map K8sNode.name).Nodup := by decide
  have haccounts := h [tenBytes] [fourBytesIn "default", fourBytesIn "kube-system"] [] hnodes
  simp only [buildState_eq hnodes, List.map_singleton,
    List.forall_mem_singleton, accountsFor_iff] at haccounts
  -- both are assigned to the node, and their names do not tell them apart
  have hkeys := haccounts.1 ("default", "pod") ("kube-system", "pod")
    (Or.inl ⟨fourBytesIn "default", by decide, rfl⟩)
    (Or.inl ⟨fourBytesIn "kube-system", by decide, rfl⟩) rfl
  exact absurd hkeys (by decide)

end Scheduler

end Nxpod
