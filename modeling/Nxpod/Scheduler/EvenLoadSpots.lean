import Mathlib.Data.Finset.Max
import Nxpod.Scheduler.Strategy

/-!
# Even Load Spots

`EvenLoadSpots` counts on each node how often the pod would fit on it, and takes
a node with the fewest of these spots. Spots are counted in all memory that the
node has, whether it is used or not, and are bounded by the pod slots that are
left. Of these there may be less than none, and only nodes with exactly no spots
are passed over.

The nodes come in any order, as those of the map in the source, and nodes with
the same number of spots may be sorted in any order. What is selected is good
when it is for every order of the nodes.

## Main definitions

* `Selection`: The result of the strategy.
* `spotsAvailable`: How often the pod would fit on a node.
* `evenLoadSpotsSelect`: The strategy.
* `SelectsRoom`: What is selected has room for the pod, whatever the order.
* `FewestSpots`: A node that is selected in some order.
* `RoomWhereFewest`: The condition on the state.

## Theorems

* `selected_iff`: Which nodes are selected.
* `spots_of_overcommitted`: A node with less than no slots has less than no spots.
* `selectsRoom_iff`: When what is selected has room for the pod.
-/

namespace Nxpod

namespace Scheduler

/-- The result of the strategy. Dividing by zero is the end of the program. -/
inductive Selection
  | selected (nodeName : String)
  | noNodeAvailable
  | divideByZero
  deriving DecidableEq

/-- The memory of the node in parts of what the pod requests, and no more than there are
    slots. -/
def spotsAvailable (pod : Pod) (n : Node) : Int :=
  let spots : Int := ((n.node.allocatableMemory / podRAMRequest pod.toPodIdentity : Nat) : Int)
  if spots > n.podSlotsAvailable then n.podSlotsAvailable else spots

/-- The nodes that are not passed over. -/
def availableNodes (pod : Pod) (nodes : List Node) : List Node :=
  nodes.filter fun n => spotsAvailable pod n ≠ 0

/-- The nodes come in the order in which the source goes through its map. -/
def evenLoadSpotsSelect (nodes : List Node) (pod : Pod) : Selection :=
  if podRAMRequest pod.toPodIdentity = 0 ∧ nodes ≠ [] then .divideByZero
  else match (availableNodes pod nodes).insertionSort fun a b =>
      spotsAvailable pod a ≤ spotsAvailable pod b with
    | [] => .noNodeAvailable
    | n :: _ => .selected n.name

/-- The node has a slot for the pod, and the memory that it requests. -/
def HasRoom (pod : Pod) (n : Node) : Prop :=
  1 ≤ n.podSlotsAvailable ∧ (getRequestedRAMForPod pod.toPodIdentity : Int) ≤ n.ramAvailable

/-- In whichever order the nodes come, nothing is divided by zero, and a node that is
    selected has room for the pod. -/
def SelectsRoom (s : State) (pod : Pod) : Prop :=
  ∀ nodes : List Node, nodes.Perm s.nodes →
    evenLoadSpotsSelect nodes pod ≠ .divideByZero ∧
      ∀ nodeName, evenLoadSpotsSelect nodes pod = .selected nodeName →
        ∃ n ∈ s.nodes, n.name = nodeName ∧ HasRoom pod n

/-- The node is not passed over, and of those that are not it has the fewest spots. -/
def FewestSpots (pod : Pod) (nodes : List Node) (n : Node) : Prop :=
  n ∈ availableNodes pod nodes ∧
    ∀ m ∈ availableNodes pod nodes, spotsAvailable pod n ≤ spotsAvailable pod m

/-- There is no node, or the pod requests memory, no node has less than no slots, and the
    nodes with the fewest spots have the memory that is requested. -/
def RoomWhereFewest (s : State) (pod : Pod) : Prop :=
  s.nodes = [] ∨
    (getRequestedRAMForPod pod.toPodIdentity ≠ 0 ∧ (∀ n ∈ s.nodes, 0 ≤ n.podSlotsAvailable) ∧
      ∀ n, FewestSpots pod s.nodes n →
        (getRequestedRAMForPod pod.toPodIdentity : Int) ≤ n.ramAvailable)

variable {pod : Pod}

/-! ## What is selected -/

/-- A node is passed over when it has exactly no spots. One with less than none is not. -/
theorem mem_availableNodes_iff (nodes : List Node) (n : Node) :
    n ∈ availableNodes pod nodes ↔ n ∈ nodes ∧ spotsAvailable pod n ≠ 0 := by
  rw [availableNodes, List.mem_filter, decide_eq_true_iff]

/-- The order of the nodes does not matter for what the fewest spots are. -/
theorem fewestSpots_perm {nodes nodes' : List Node} (h : nodes.Perm nodes') (n : Node) :
    FewestSpots pod nodes n ↔ FewestSpots pod nodes' n := by
  have hmem : ∀ m, m ∈ availableNodes pod nodes ↔ m ∈ availableNodes pod nodes' := fun m =>
    (h.filter _).mem_iff
  simp only [FewestSpots, hmem]

/-- A node that is selected has the fewest spots. -/
theorem fewestSpots_of_selected {nodes : List Node} {nodeName : String}
    (h : evenLoadSpotsSelect nodes pod = .selected nodeName) :
    ∃ n, FewestSpots pod nodes n ∧ n.name = nodeName := by
  have htotal : Std.Total fun a b : Node => spotsAvailable pod a ≤ spotsAvailable pod b :=
    ⟨fun a b => Int.le_total _ _⟩
  have htrans : IsTrans Node fun a b => spotsAvailable pod a ≤ spotsAvailable pod b :=
    ⟨fun _ _ _ hab hbc => Int.le_trans hab hbc⟩
  have hsorted := List.pairwise_insertionSort
    (fun a b => spotsAvailable pod a ≤ spotsAvailable pod b) (availableNodes pod nodes)
  have hmem : ∀ m, m ∈ (availableNodes pod nodes).insertionSort (fun a b =>
      spotsAvailable pod a ≤ spotsAvailable pod b) ↔ m ∈ availableNodes pod nodes := fun m =>
    List.mem_insertionSort _
  rw [evenLoadSpotsSelect] at h
  split_ifs at h
  cases hnodes : (availableNodes pod nodes).insertionSort fun a b =>
      spotsAvailable pod a ≤ spotsAvailable pod b with
  | nil =>
      rw [hnodes] at h
      exact absurd h nofun
  | cons n rest =>
      rw [hnodes] at h hsorted hmem
      rw [List.pairwise_cons] at hsorted
      refine ⟨n, ⟨(hmem n).mp List.mem_cons_self, fun m hm => ?_⟩, Selection.selected.inj h⟩
      rcases List.mem_cons.mp ((hmem m).mpr hm) with rfl | hm
      · exact Int.le_refl _
      · exact hsorted.1 m hm

/-- Each of the nodes with the fewest spots is selected when it comes first. -/
theorem selected_of_fewestSpots {n : Node} {rest : List Node}
    (hrequest : getRequestedRAMForPod pod.toPodIdentity ≠ 0)
    (h : FewestSpots pod (n :: rest) n) :
    evenLoadSpotsSelect (n :: rest) pod = .selected n.name := by
  have hcons : availableNodes pod (n :: rest) = n :: availableNodes pod rest := by
    rw [availableNodes, List.filter_cons_of_pos]
    · rfl
    · exact decide_eq_true ((mem_availableNodes_iff _ n).mp h.1).2
  have hfewest : ∀ m ∈ availableNodes pod rest,
      spotsAvailable pod n ≤ spotsAvailable pod m := fun m hm =>
    h.2 m (hcons ▸ List.mem_cons_of_mem n hm)
  rw [evenLoadSpotsSelect, if_neg fun hzero => hrequest hzero.1, hcons,
    List.insertionSort_cons_of_forall_rel _ hfewest]

/-- Over all orders, the nodes selected are those with the fewest spots. -/
theorem selected_iff (hrequest : getRequestedRAMForPod pod.toPodIdentity ≠ 0)
    (nodes : List Node) (nodeName : String) :
    (∃ nodes' : List Node, nodes'.Perm nodes ∧
        evenLoadSpotsSelect nodes' pod = .selected nodeName) ↔
      ∃ n, FewestSpots pod nodes n ∧ n.name = nodeName := by
  constructor
  · rintro ⟨nodes', hperm, hselected⟩
    rcases fewestSpots_of_selected hselected with ⟨n, hn, hname⟩
    exact ⟨n, (fewestSpots_perm hperm n).mp hn, hname⟩
  · rintro ⟨n, hn, rfl⟩
    rcases List.append_of_mem ((mem_availableNodes_iff _ _).mp hn.1).1 with ⟨before, behind, rfl⟩
    have hperm : (n :: (before ++ behind)).Perm (before ++ n :: behind) :=
      List.perm_middle.symm
    exact ⟨_, hperm, selected_of_fewestSpots hrequest ((fewestSpots_perm hperm n).mpr hn)⟩

/-! ## Room for the pod -/

/-- An overcommitted node has a negative number of spots. -/
theorem spots_of_overcommitted {n : Node} (h : n.podSlotsAvailable < 0) :
    spotsAvailable pod n = n.podSlotsAvailable := by
  rw [spotsAvailable]
  exact if_pos (Int.lt_of_lt_of_le h (Int.natCast_nonneg _))

/-- No more spots than slots. -/
theorem spots_le_slots (pod : Pod) (n : Node) : spotsAvailable pod n ≤ n.podSlotsAvailable := by
  rw [spotsAvailable]
  split_ifs with h
  · exact Int.le_refl _
  · exact Int.not_lt.mp h

/-- A node that has slots left has no negative number of spots. -/
theorem spots_nonneg (pod : Pod) {n : Node} (h : 0 ≤ n.podSlotsAvailable) :
    0 ≤ spotsAvailable pod n := by
  rw [spotsAvailable]
  split_ifs
  · exact h
  · exact Int.natCast_nonneg _

/-- Among some nodes one has the fewest spots. -/
theorem exists_fewestSpots {nodes : List Node} {n : Node} (hn : n ∈ availableNodes pod nodes) :
    ∃ m, FewestSpots pod nodes m ∧ spotsAvailable pod m ≤ spotsAvailable pod n := by
  have hne : (availableNodes pod nodes : Multiset Node) ≠ 0 := by
    rw [ne_eq, Multiset.coe_eq_zero]
    exact List.ne_nil_of_mem hn
  rcases Multiset.exists_min_image (spotsAvailable pod) hne with ⟨m, hm, hmin⟩
  exact ⟨m, ⟨Multiset.mem_coe.mp hm, fun k hk => hmin k (Multiset.mem_coe.mpr hk)⟩,
    hmin n (Multiset.mem_coe.mpr hn)⟩

/-- For every state whose nodes have names of their own, and every pod. Spots are counted from
    all the memory of a node, so a node that is full already may come out as the one with the
    fewest, and it is then right only where all such nodes have the memory to spare. -/
theorem selectsRoom_iff (s : KeyedState) (pod : Pod) :
    SelectsRoom s.toState pod ↔ RoomWhereFewest s.toState pod := by
  rw [RoomWhereFewest]
  by_cases hnil : s.nodes = []
  · refine iff_of_true (fun nodes hperm => ?_) (.inl hnil)
    rw [hnil, List.perm_nil] at hperm
    have hnone : evenLoadSpotsSelect [] pod = .noNodeAvailable := if_neg fun h => h.2 rfl
    rw [hperm, hnone]
    exact ⟨nofun, nofun⟩
  rw [or_iff_right hnil]
  constructor
  · intro h
    have hrequest : getRequestedRAMForPod pod.toPodIdentity ≠ 0 := fun hzero =>
      (h s.nodes (List.Perm.refl _)).1 (if_pos ⟨hzero, hnil⟩)
    -- A node with the fewest spots is selected in some order.
    have hroom : ∀ n, FewestSpots pod s.nodes n → HasRoom pod n := by
      intro n hn
      rcases (selected_iff hrequest s.nodes n.name).mpr ⟨n, hn, rfl⟩ with ⟨nodes, hperm, hselected⟩
      rcases (h nodes hperm).2 n.name hselected with ⟨m, hm, hname, hroom⟩
      rw [s.eq_of_name hm ((mem_availableNodes_iff _ _).mp hn.1).1 hname] at hroom
      exact hroom
    refine ⟨hrequest, fun n hn => Int.not_lt.mp fun hslots => ?_, fun n hn => (hroom n hn).2⟩
    -- With less than no slots it is not passed over, and none with a slot has fewer spots.
    have hspots : spotsAvailable pod n = n.podSlotsAvailable := spots_of_overcommitted hslots
    have havailable : n ∈ availableNodes pod s.nodes := by
      rw [mem_availableNodes_iff, hspots]
      exact ⟨hn, Int.ne_of_lt hslots⟩
    rcases exists_fewestSpots havailable with ⟨m, hm, hle⟩
    have hslot := (hroom m hm).1
    have hnonneg := spots_nonneg pod (Int.le_trans Int.one_nonneg hslot)
    omega
  · rintro ⟨hrequest, hslots, hfewest⟩ nodes hperm
    constructor
    · rw [evenLoadSpotsSelect, if_neg fun hzero => hrequest hzero.1]
      split <;> exact nofun
    · intro nodeName hselected
      rcases fewestSpots_of_selected hselected with ⟨n, hn, hname⟩
      rw [fewestSpots_perm hperm] at hn
      rcases (mem_availableNodes_iff _ _).mp hn.1 with ⟨hmem, hspots⟩
      -- Its spots are more than none, and so are its slots.
      have hle := spots_le_slots pod n
      have hnonneg := spots_nonneg pod (hslots n hmem)
      exact ⟨n, hmem, hname, by omega, hfewest n hn⟩

/-- A node of ten bytes with a number of slots. -/
def tenBytesAndSlots (name : String) (slots : Int) : K8sNode where
  name := name
  allocatableMemory := 10
  podCapacity := slots
  images := []

/-- A pod that requests some memory, on a node. -/
def podOf (name nodeName : String) (request : Nat) : Pod where
  namespace_ := "default"
  name := name
  uid := name
  schedulerName := "workspace-scheduler"
  creationTimestamp := 0
  memoryRequests := [request]
  generation := 1
  nodeName := nodeName
  labels := []
  containers := []

/-- A pod that requests nothing is divided by. A node that is full is selected, and so is
    one that has less than no slots, before one that has room. -/
theorem no_room_selected :
    (evenLoadSpotsSelect (KeyedState.build [tenBytesAndSlots "node" 5] [] []).nodes
        (podOf "pod" "" 0) = .divideByZero ∧
      ¬ SelectsRoom (KeyedState.build [tenBytesAndSlots "node" 5] [] []).toState
        (podOf "pod" "" 0)) ∧
    (evenLoadSpotsSelect (KeyedState.build [tenBytesAndSlots "node" 5]
        [podOf "other" "node" 10] []).nodes (podOf "pod" "" 4) = .selected "node" ∧
      (KeyedState.build [tenBytesAndSlots "node" 5] [podOf "other" "node" 10] []).nodes.map
        Node.ramAvailable = [0]) ∧
    evenLoadSpotsSelect (KeyedState.build [tenBytesAndSlots "free" 5, tenBytesAndSlots "full" 0]
        [podOf "other" "full" 1] []).nodes (podOf "pod" "" 4) = .selected "full" ∧
      (KeyedState.build [tenBytesAndSlots "free" 5, tenBytesAndSlots "full" 0]
        [podOf "other" "full" 1] []).nodes.map Node.podSlotsAvailable = [5, -1] := by
  refine ⟨⟨by decide +kernel, fun h => ?_⟩, by decide +kernel, by decide +kernel⟩
  exact (h _ (List.Perm.refl _)).1 (by decide +kernel)

end Scheduler

end Nxpod
