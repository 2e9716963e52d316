import Mathlib.Data.List.Sort
import Nxpod.Scheduler.State

/-!
# The Scheduling Strategies

How `ws-scheduler` selects one of the nodes of its state for a pod. `EvenLoad`
takes the node with the most memory left. `DensityAndExperience` takes the
fullest node the pod fits on, except that it keeps headless workspaces away
from regular ones, and looks for a node that has the image where that makes
nothing worse.

Both select only nodes that have more memory left than the pod requests
(`select_fits`). Whatever else they look at does not matter for that, nor for
whether a node is selected at all (`select_eq_none_iff`). A node that has just
as much memory left as the pod requests is passed over, so a pod that would fit
on no other node is not scheduled (`schedules_iff`).

The nodes of a state come in any order, as those of the map in the source. The
class of a node is computed there with floating point numbers, and is a
parameter here, as a function of the memory used and the total.

## Main definitions

* `fitsOnNode`: The pod requests less than what is left on the node.
* `evenLoadSelect`, `densityAndExperienceSelect`: The two strategies.
* `Strategy`: The strategies that look at the memory left.
* `Strategy.select`: The strategy of a configuration.
* `Complete`: A pod is scheduled unless no node has enough memory left.

## Theorems

* `mem_of_findWithImage`: The search for an image stays within the candidates.
* `evenLoadSelect_fits`, `densityAndExperienceSelect_fits`, `select_fits`: The
  node selected is one of the state, and the pod fits on it.
* `evenLoadSelect_eq_none_iff`, `densityAndExperienceSelect_eq_none_iff`,
  `select_eq_none_iff`: No node is selected when the pod fits on none.
* `schedules_iff`: When a pod is scheduled as it should be.
-/

namespace Nxpod

namespace Scheduler

/-- The memory the containers of a pod request together. -/
def podRAMRequest (pod : PodIdentity) : Nat :=
  pod.memoryRequests.foldl (· + ·) 0

/-- The comparison is strict: a node with just enough memory does not fit. -/
def fitsOnNode (pod : Pod) (node : Node) : Bool :=
  (podRAMRequest pod.toPodIdentity : Int) < node.ramAvailable

/-- The pods that count on a node of this state. -/
def State.getAssignedPods (s : State) (node : Node) : List Pod :=
  Scheduler.getAssignedPods s.pods s.bindings node.node.name

/-- The nodes with the most memory left first. -/
def State.sortNodesByAvailableRAMDesc (s : State) : List Node :=
  s.nodes.insertionSort fun a b => b.ramAvailable ≤ a.ramAvailable

/-- The nodes with the most memory used by regular workspaces first, and by
    their name where that is the same. -/
def State.sortNodesByUsedRegularWorkspaceRAMDesc (s : State) : List Node :=
  s.nodes.insertionSort fun a b =>
    b.usedRegular < a.usedRegular ∨ a.usedRegular = b.usedRegular ∧ ¬ b.name < a.name

/-- The node with the most memory left, if the pod fits on it. -/
def evenLoadSelect (s : State) (pod : Pod) : Option String :=
  match s.sortNodesByAvailableRAMDesc with
  | [] => none
  | candidate :: _ => if fitsOnNode pod candidate then some candidate.name else none

/-- For how long a workspace counts as fresh, and how many fresh ones a node may
    have. -/
structure DensityAndExperienceConfig where
  workspaceFreshPeriodSeconds : Int
  nodeFreshWorkspaceLimit : Int

/-- Durations are counted in nanoseconds. -/
def nanosecondsPerSecond : Int := 1000000000

/-- How many workspaces on a node are fresh. A creation time is in whole
    seconds. -/
def freshWorkspaceCount (s : State) (node : Node) (now freshSeconds : Int) : Nat :=
  ((s.getAssignedPods node).filter fun p => isWorkspace p &&
    decide (now - p.creationTimestamp * nanosecondsPerSecond <
      freshSeconds * nanosecondsPerSecond)).length

/-- The workspaces on a node, without headless ones. -/
def regularWorkspaceCount (s : State) (node : Node) : Nat :=
  ((s.getAssignedPods node).filter fun p => isWorkspace p && !isHeadlessWorkspace p).length

/-- The image of the last container of a name. -/
def workspaceImageName (pod : Pod) : String :=
  pod.containers.foldl (fun imageName c => if c.1 = "workspace" then c.2 else imageName) ""

/-- A node may have the image under any of its names. No node has it when the pod has no
    workspace image. -/
def hasNeededImage (node : Node) (pod : Pod) : Bool :=
  workspaceImageName pod ≠ "" &&
    node.node.images.any fun names => names.any fun name => name = workspaceImageName pod

/-- The class of a node by how full it is: zero for a node without workspaces,
    and at most seven. -/
def classifyNode (tenths : Int → Int → Int) (s : State) (node : Node) : Int :=
  if regularWorkspaceCount s node = 0 then 0
  else if tenths node.usedRegular node.ramTotal ≥ 7 then 7
  else tenths node.usedRegular node.ramTotal

/-- The first candidate that has the image, as long as no candidate is of a
    lower class than the one before it. The last one is not looked at. -/
def findWithImage (tenths : Int → Int → Int) (s : State) (pod : Pod) (candidate : Node) :
    List Node → Option Node
  | [] => none
  | nextCandidate :: rest =>
      if hasNeededImage candidate pod then some candidate
      else if classifyNode tenths s nextCandidate < classifyNode tenths s candidate then none
      else findWithImage tenths s pod nextCandidate rest

/-- The candidates are the nodes that fit, the densest first. A headless pod
    goes to the last of them that has a regular workspace, and any other one is
    looked after by the search for its image. -/
def densityAndExperienceSelect (config : DensityAndExperienceConfig)
    (tenths : Int → Int → Int) (now : Int) (s : State) (pod : Pod) : Option String :=
  match s.sortNodesByUsedRegularWorkspaceRAMDesc.filter fun node => fitsOnNode pod node with
  | [] => none
  | defaultCandidate :: candidates =>
      if isHeadlessWorkspace pod then
        -- as far away from regular workspaces as can be, but not on an empty node
        match (defaultCandidate :: candidates).reverse.find? fun node =>
          regularWorkspaceCount s node > 0 with
        | some node => some node.name
        | none => some defaultCandidate.name
      -- every candidate has too many workspaces that just started
      else if (defaultCandidate :: candidates).all fun node =>
          ¬ (freshWorkspaceCount s node now config.workspaceFreshPeriodSeconds : Int) <
            config.nodeFreshWorkspaceLimit then
        some defaultCandidate.name
      else
        -- the source collects the other candidates, but searches through all of them
        match findWithImage tenths s pod defaultCandidate candidates with
        | some node => some node.name
        | none => some defaultCandidate.name

/-- The strategies that look at the memory left. -/
inductive Strategy
  | evenLoad
  | densityAndExperience (config : DensityAndExperienceConfig)

/-- The strategy that is configured selects. -/
def Strategy.select (strategy : Strategy) (tenths : Int → Int → Int) (now : Int) (s : State)
    (pod : Pod) : Option String :=
  match strategy with
  | .evenLoad => evenLoadSelect s pod
  | .densityAndExperience config => densityAndExperienceSelect config tenths now s pod

/-! ## What is selected fits -/

variable {tenths : Int → Int → Int} {now : Int} {s : State} {pod : Pod} {nodeName : String}

theorem evenLoadSelect_fits (h : evenLoadSelect s pod = some nodeName) :
    ∃ n ∈ s.nodes, n.name = nodeName ∧ fitsOnNode pod n = true := by
  rw [evenLoadSelect] at h
  split at h
  · exact absurd h (by simp only [reduceCtorEq, not_false_eq_true])
  · next candidate rest hsorted =>
      split_ifs at h with hfits
      have hmem : candidate ∈ s.sortNodesByAvailableRAMDesc := by
        rw [hsorted]
        exact List.mem_cons_self
      exact ⟨candidate, (List.mem_insertionSort _).mp hmem, Option.some.inj h, hfits⟩

/-- The search for an image stays within the candidates. -/
theorem mem_of_findWithImage {candidate node : Node} {rest : List Node}
    (h : findWithImage tenths s pod candidate rest = some node) : node ∈ candidate :: rest := by
  induction rest generalizing candidate with
  | nil => exact absurd h (by simp only [findWithImage, reduceCtorEq, not_false_eq_true])
  | cons nextCandidate rest ih =>
      rw [findWithImage] at h
      split_ifs at h
      · rw [Option.some.inj h]
        exact List.mem_cons_self
      · exact List.mem_cons_of_mem candidate (ih h)

/-- A node that `DensityAndExperience` selects has room, whichever branch
    selected it. -/
theorem densityAndExperienceSelect_fits {config : DensityAndExperienceConfig}
    (h : densityAndExperienceSelect config tenths now s pod = some nodeName) :
    ∃ n ∈ s.nodes, n.name = nodeName ∧ fitsOnNode pod n = true := by
  rw [densityAndExperienceSelect] at h
  split at h
  · exact absurd h (by simp only [reduceCtorEq, not_false_eq_true])
  · next defaultCandidate candidates hcandidates =>
      -- choosing any of the candidates would work
      have hany : ∀ n ∈ defaultCandidate :: candidates, some n.name = some nodeName →
          ∃ n ∈ s.nodes, n.name = nodeName ∧ fitsOnNode pod n = true := by
        intro n hn hname
        rw [← hcandidates, List.mem_filter] at hn
        exact ⟨n, (List.mem_insertionSort _).mp hn.1, Option.some.inj hname, hn.2⟩
      have hdefault := hany defaultCandidate List.mem_cons_self
      split_ifs at h
      · split at h
        · next node hnode =>
            exact hany node (List.mem_reverse.mp (List.mem_of_find?_eq_some hnode)) h
        · exact hdefault h
      · exact hdefault h
      · split at h
        · next node hnode => exact hany node (mem_of_findWithImage hnode) h
        · exact hdefault h

/-- The node selected is one of the state, and has more memory left than the
    pod requests. -/
theorem select_fits {strategy : Strategy}
    (h : strategy.select tenths now s pod = some nodeName) :
    ∃ n ∈ s.nodes, n.name = nodeName ∧
      (getRequestedRAMForPod pod.toPodIdentity : Int) < n.ramAvailable := by
  have hfits : ∃ n ∈ s.nodes, n.name = nodeName ∧ fitsOnNode pod n = true := by
    cases strategy with
    | evenLoad => exact evenLoadSelect_fits h
    | densityAndExperience config => exact densityAndExperienceSelect_fits h
  rcases hfits with ⟨n, hn, hname, hfit⟩
  exact ⟨n, hn, hname, of_decide_eq_true hfit⟩

/-! ## When a node is selected -/

theorem fitsOnNode_eq_false_iff (pod : Pod) (n : Node) :
    fitsOnNode pod n = false ↔
      n.ramAvailable ≤ (getRequestedRAMForPod pod.toPodIdentity : Int) := by
  rw [← Int.not_lt]
  exact decide_eq_false_iff_not

/-- The node with the most memory left speaks for all. -/
theorem evenLoadSelect_eq_none_iff :
    evenLoadSelect s pod = none ↔ ∀ n ∈ s.nodes, fitsOnNode pod n = false := by
  have hmem : ∀ n, n ∈ s.nodes ↔ n ∈ s.sortNodesByAvailableRAMDesc := fun n =>
    (List.mem_insertionSort _).symm
  simp only [hmem]
  have hsorted : s.sortNodesByAvailableRAMDesc.Pairwise fun a b =>
      b.ramAvailable ≤ a.ramAvailable := by
    have htotal : Std.Total fun a b : Node => b.ramAvailable ≤ a.ramAvailable :=
      ⟨fun a b => Int.le_total b.ramAvailable a.ramAvailable⟩
    have htrans : IsTrans Node fun a b => b.ramAvailable ≤ a.ramAvailable :=
      ⟨fun _ _ _ hab hbc => Int.le_trans hbc hab⟩
    exact List.pairwise_insertionSort _ _
  rw [evenLoadSelect]
  cases hnodes : s.sortNodesByAvailableRAMDesc with
  | nil => exact iff_of_true rfl nofun
  | cons candidate rest =>
      rw [hnodes, List.pairwise_cons] at hsorted
      cases hfits : fitsOnNode pod candidate with
      | true =>
          refine iff_of_false (by simp [hfits]) fun hall => ?_
          exact absurd (hall candidate List.mem_cons_self) (by simp [hfits])
      | false =>
          refine iff_of_true (by simp [hfits]) (List.forall_mem_cons.mpr ⟨hfits, fun n hn => ?_⟩)
          rw [fitsOnNode_eq_false_iff] at hfits ⊢
          exact Int.le_trans (hsorted.1 n hn) hfits

/-- Whatever the pod, one of the candidates is taken. -/
theorem densityAndExperienceSelect_eq_none_iff (config : DensityAndExperienceConfig) :
    densityAndExperienceSelect config tenths now s pod = none ↔
      ∀ n ∈ s.nodes, fitsOnNode pod n = false := by
  have hmem : ∀ n, n ∈ s.nodes ↔ n ∈ s.sortNodesByUsedRegularWorkspaceRAMDesc := fun n =>
    (List.mem_insertionSort _).symm
  have hcandidates : (s.sortNodesByUsedRegularWorkspaceRAMDesc.filter fun node =>
      fitsOnNode pod node) = [] ↔ ∀ n ∈ s.nodes, fitsOnNode pod n = false := by
    simp only [List.filter_eq_nil_iff, Bool.not_eq_true, hmem]
  rw [← hcandidates, densityAndExperienceSelect]
  cases hsorted : s.sortNodesByUsedRegularWorkspaceRAMDesc.filter fun node =>
      fitsOnNode pod node with
  | nil => exact iff_of_true rfl rfl
  | cons defaultCandidate candidates =>
      refine iff_of_false (fun hnone => ?_) (List.cons_ne_nil _ _)
      dsimp only at hnone
      split_ifs at hnone
      · split at hnone <;> exact absurd hnone nofun
      · split at hnone <;> exact absurd hnone nofun

theorem select_eq_none_iff (strategy : Strategy) :
    strategy.select tenths now s pod = none ↔
      ∀ n ∈ s.nodes, n.ramAvailable ≤ (getRequestedRAMForPod pod.toPodIdentity : Int) := by
  simp only [← fitsOnNode_eq_false_iff]
  cases strategy with
  | evenLoad => exact evenLoadSelect_eq_none_iff
  | densityAndExperience config => exact densityAndExperienceSelect_eq_none_iff config

/-- A pod is scheduled unless every node has less memory left than it requests. -/
def Complete (strategy : Strategy) (tenths : Int → Int → Int) (now : Int) (s : State)
    (pod : Pod) : Prop :=
  strategy.select tenths now s pod = none ↔
    ∀ n ∈ s.nodes, n.ramAvailable < (getRequestedRAMForPod pod.toPodIdentity : Int)

/-- The exception is a pod that some node has just enough memory left for, and
    none more. It is the same for both strategies, since they share the test
    whether a pod fits on a node. -/
theorem schedules_iff (strategy : Strategy) (tenths : Int → Int → Int) (now : Int) (s : State)
    (pod : Pod) :
    Complete strategy tenths now s pod ↔
      (∃ n ∈ s.nodes, (getRequestedRAMForPod pod.toPodIdentity : Int) < n.ramAvailable) ∨
        ∀ n ∈ s.nodes, n.ramAvailable ≠ (getRequestedRAMForPod pod.toPodIdentity : Int) := by
  rw [Complete, select_eq_none_iff]
  constructor
  · intro h
    by_cases hmore : ∃ n ∈ s.nodes,
        (getRequestedRAMForPod pod.toPodIdentity : Int) < n.ramAvailable
    · exact .inl hmore
    · right
      -- no node has more, so by completeness every node has less
      have hless := h.mp fun n hn => Int.not_lt.mp fun hlt => hmore ⟨n, hn, hlt⟩
      exact fun n hn => Int.ne_of_lt (hless n hn)
  · rintro (⟨n, hn, hlt⟩ | hne)
    · refine iff_of_false (fun hall => ?_) fun hall => ?_
      · exact absurd hlt (Int.not_lt.mpr (hall n hn))
      · exact absurd (hall n hn) (Int.not_lt.mpr (Int.le_of_lt hlt))
    · exact ⟨fun hall n hn => lt_of_le_of_ne (hall n hn) (hne n hn),
        fun hall n hn => Int.le_of_lt (hall n hn)⟩

/-- A pod that requests all of the ten bytes of an empty node. -/
def tenBytesPod : Pod where
  namespace_ := "default"
  name := "pod"
  uid := "pod"
  schedulerName := "workspace-scheduler"
  creationTimestamp := 0
  memoryRequests := [10]
  generation := 1
  nodeName := ""
  labels := [("component", "workspace")]
  containers := [("workspace", "image")]

/-- By no strategy, it is scheduled on the node. -/
theorem exact_fit_not_scheduled :
    (buildState [tenBytes] [] []).nodes.map Node.ramAvailable = [10] ∧
      getRequestedRAMForPod tenBytesPod.toPodIdentity = 10 ∧
      ∀ strategy : Strategy,
        strategy.select (fun _ _ => 0) 0 (buildState [tenBytes] [] []) tenBytesPod = none ∧
          ¬ Complete strategy (fun _ _ => 0) 0 (buildState [tenBytes] [] []) tenBytesPod := by
  have hram : (buildState [tenBytes] [] []).nodes.map Node.ramAvailable = [10] := by decide
  have hmem : ∀ n ∈ (buildState [tenBytes] [] []).nodes, n.ramAvailable = 10 := fun n hn =>
    List.mem_singleton.mp (hram ▸ List.mem_map_of_mem hn)
  refine ⟨hram, rfl, fun strategy => ?_⟩
  have hnone : strategy.select (fun _ _ => 0) 0 (buildState [tenBytes] [] []) tenBytesPod = none :=
    (select_eq_none_iff strategy).mpr fun n hn => Int.le_of_eq (hmem n hn)
  refine ⟨hnone, fun hcomplete => ?_⟩
  have hlength : 0 < (buildState [tenBytes] [] []).nodes.length := by decide
  rcases List.exists_mem_of_length_pos hlength with ⟨n, hn⟩
  exact absurd (hmem n hn) (Int.ne_of_lt (hcomplete.mp hnone n hn))

end Scheduler

end Nxpod
