import Nxpod.Library.InitialRun
import Nxpod.Scheduler.Strategy

/-!
# Density and Experience

Where `DensityAndExperience` places a workspace of a user. The nodes that the
pod fits on are its candidates, the densest first. Those on which too many
workspaces have just started are to be excluded, and among the others a node
that has the image is to be preferred, as long as its class of density is no
lower than that of the nodes before it.

The source collects the candidates that are not excluded, and only asks whether
there is one. It looks for the image among all candidates, and compares each of
them one step late, so that the last one is never looked at. What follows says
what is looked at (`select_of_fresh`), and with it in which states the limit on
fresh workspaces is kept to all the same (`keepsFreshLimit_iff`), and in which
ones the image is preferred as it should be (`prefersImage_iff`).

## Main definitions

* `candidates`, `belowFreshLimit`, `acceptable`: The nodes that the pod fits on,
  and those of them that are not excluded.
* `NoLessDense`, `lookedAt`: The candidates that are looked at for the image.
* `KeepsFreshLimit`: The node selected has few fresh workspaces if one has.
* `PrefersImage`: The node selected is the first acceptable one with the image.

## Theorems

* `findWithImage_eq`: The search for the image, in terms of the initial run.
* `select_of_fresh`: The node that is selected.
* `keepsFreshLimit_iff`, `prefersImage_iff`: When it is the right one.
-/

namespace Nxpod

namespace Scheduler

open InitialRun

/-- The nodes that the pod fits on, the densest first. -/
def State.candidates (s : State) (pod : Pod) : List Node :=
  s.sortNodesByUsedRegularWorkspaceRAMDesc.filter fun node => fitsOnNode pod node

/-- The node has fewer fresh workspaces than it may have. -/
def belowFreshLimit (config : DensityAndExperienceConfig) (now : Int) (s : State)
    (node : Node) : Bool :=
  (freshWorkspaceCount s node now config.workspaceFreshPeriodSeconds : Int) <
    config.nodeFreshWorkspaceLimit

/-- The candidates without those that are excluded. -/
def acceptable (config : DensityAndExperienceConfig) (now : Int) (s : State) (pod : Pod) :
    List Node :=
  (s.candidates pod).filter fun node => belowFreshLimit config now s node

/-- From one candidate to the next the class does not become lower. -/
def NoLessDense (tenths : Int → Int → Int) (s : State) (a b : Node) : Prop :=
  classifyNode tenths s a ≤ classifyNode tenths s b

instance (tenths : Int → Int → Int) (s : State) : DecidableRel (NoLessDense tenths s) :=
  fun a b => inferInstanceAs (Decidable (classifyNode tenths s a ≤ classifyNode tenths s b))

instance (tenths : Int → Int → Int) (s : State) :
    Trans (NoLessDense tenths s) (NoLessDense tenths s) (NoLessDense tenths s) :=
  ⟨fun hab hbc => Int.le_trans hab hbc⟩

/-- The candidates that the source looks at. -/
def lookedAt (tenths : Int → Int → Int) (s : State) (pod : Pod) : List Node :=
  (initialRun (NoLessDense tenths s) (s.candidates pod)).take ((s.candidates pod).length - 1)

/-- The first of some nodes that has the image. -/
def firstWithImage (pod : Pod) (nodes : List Node) : Option Node :=
  nodes.find? fun node => hasNeededImage node pod

variable {tenths : Int → Int → Int} {now : Int} {s : State} {pod : Pod}
  {config : DensityAndExperienceConfig}

/-! ## The node that is selected -/

theorem firstWithImage_cons (pod : Pod) (node : Node) (nodes : List Node) :
    firstWithImage pod (node :: nodes) =
      if hasNeededImage node pod then some node else firstWithImage pod nodes := by
  rw [firstWithImage, List.find?_cons]
  cases hasNeededImage node pod <;> rfl

/-- The loop over the candidates, as a search in the part of the list it gets to. The induction
    is on the candidates that are left. -/
theorem findWithImage_eq (candidate : Node) (rest : List Node) :
    findWithImage tenths s pod candidate rest = firstWithImage pod
      ((initialRun (NoLessDense tenths s) (candidate :: rest)).take rest.length) := by
  induction rest generalizing candidate with
  | nil => rfl
  | cons nextCandidate rest ih =>
      have hclass : NoLessDense tenths s candidate nextCandidate ↔
          ¬ classifyNode tenths s nextCandidate < classifyNode tenths s candidate := Int.not_lt.symm
      rw [findWithImage, initialRun_cons_cons, List.length_cons]
      by_cases hrun : NoLessDense tenths s candidate nextCandidate
      · rw [if_pos hrun, if_neg (hclass.mp hrun), List.take_succ_cons, firstWithImage_cons, ih]
      · -- The run ends here, and the candidate is looked at all the same.
        rw [if_neg hrun, if_pos (not_not.mp fun h => hrun (hclass.mpr h)), List.take_succ_cons,
          firstWithImage_cons, List.take_nil]
        rfl

/-- The candidates are the nodes the pod fits on, in another order. -/
theorem mem_candidates_iff (n : Node) :
    n ∈ s.candidates pod ↔ n ∈ s.nodes ∧ fitsOnNode pod n = true := by
  rw [State.candidates, List.mem_filter, State.sortNodesByUsedRegularWorkspaceRAMDesc,
    List.mem_insertionSort]

/-- For a workspace of a user, as long as some candidate is not excluded. -/
theorem select_of_fresh (tenths : Int → Int → Int) (hregular : isHeadlessWorkspace pod = false)
    {d : Node} {rest : List Node} (hcandidates : s.candidates pod = d :: rest)
    (hfresh : ∃ n ∈ s.candidates pod, belowFreshLimit config now s n = true) :
    densityAndExperienceSelect config tenths now s pod =
      some ((firstWithImage pod (lookedAt tenths s pod)).getD d).name := by
  have hlooked : lookedAt tenths s pod =
      (initialRun (NoLessDense tenths s) (d :: rest)).take rest.length := by
    rw [lookedAt, hcandidates, List.length_cons, Nat.add_sub_cancel]
  -- The guard against a state in which all candidates are excluded.
  have hnotAll : ¬ (d :: rest).all fun node =>
      ¬ (freshWorkspaceCount s node now config.workspaceFreshPeriodSeconds : Int) <
        config.nodeFreshWorkspaceLimit := by
    rcases hfresh with ⟨n, hn, hbelow⟩
    rw [List.all_eq_true]
    intro hall
    have hn := of_decide_eq_true (hall n (hcandidates ▸ hn))
    exact hn (of_decide_eq_true hbelow)
  rw [State.candidates] at hcandidates
  rw [densityAndExperienceSelect, hcandidates]
  dsimp only
  rw [if_neg (by simp [hregular]), if_neg hnotAll, findWithImage_eq, ← hlooked]
  cases firstWithImage pod (lookedAt tenths s pod) with
  | none => rfl
  | some node => rfl

theorem mem_of_firstWithImage {nodes : List Node} {node : Node}
    (h : firstWithImage pod nodes = some node) : node ∈ nodes :=
  List.mem_of_find?_eq_some h

theorem hasNeededImage_of_firstWithImage {nodes : List Node} {node : Node}
    (h : firstWithImage pod nodes = some node) : hasNeededImage node pod = true := by
  rw [firstWithImage] at h
  have hfound := List.find?_some h
  exact hfound

theorem lookedAt_begins : lookedAt tenths s pod <+:
    initialRun (NoLessDense tenths s) (s.candidates pod) :=
  List.take_prefix _ _

/-- What is looked at is among the candidates. -/
theorem lookedAt_subset {n : Node} (h : n ∈ lookedAt tenths s pod) : n ∈ s.candidates pod :=
  (initialRun_begins _ _).subset (lookedAt_begins.subset h)

theorem selected_mem {d : Node} (hd : (s.candidates pod).head? = some d) :
    (firstWithImage pod (lookedAt tenths s pod)).getD d ∈ s.candidates pod := by
  cases hfirst : firstWithImage pod (lookedAt tenths s pod) with
  | none => exact List.mem_of_head? hd
  | some n => exact lookedAt_subset (mem_of_firstWithImage hfirst)

theorem firstWithImage_eq_none_iff (nodes : List Node) :
    firstWithImage pod nodes = none ↔ ∀ n ∈ nodes, hasNeededImage n pod = false := by
  simp only [firstWithImage, List.find?_eq_none, Bool.not_eq_true]

/-! ## Fresh workspaces -/

/-- The fresh workspaces of a node are counted by its name. -/
theorem belowFreshLimit_congr {a b : Node} (h : a.name = b.name) :
    belowFreshLimit config now s a = belowFreshLimit config now s b := by
  have hname : a.node.name = b.node.name := h
  unfold belowFreshLimit freshWorkspaceCount State.getAssignedPods
  rw [hname]

/-- If some node that the pod fits on has few fresh workspaces, then so has the
    one selected. -/
def KeepsFreshLimit (config : DensityAndExperienceConfig) (tenths : Int → Int → Int) (now : Int)
    (s : State) (pod : Pod) : Prop :=
  (∃ n ∈ s.nodes, fitsOnNode pod n = true ∧ belowFreshLimit config now s n = true) →
    ∃ n ∈ s.nodes, densityAndExperienceSelect config tenths now s pod = some n.name ∧
      belowFreshLimit config now s n = true

/-- The first candidate that is looked at and has the image is not excluded, and
    neither is the densest one if none of them has it. -/
def ExcludesNone (config : DensityAndExperienceConfig) (tenths : Int → Int → Int) (now : Int)
    (s : State) (pod : Pod) : Prop :=
  (∀ n, firstWithImage pod (lookedAt tenths s pod) = some n →
      belowFreshLimit config now s n = true) ∧
    ((∀ n ∈ lookedAt tenths s pod, hasNeededImage n pod = false) →
      ∀ n, (s.candidates pod).head? = some n → belowFreshLimit config now s n = true)

/-- The condition says no more than that what is selected is below the limit. -/
theorem excludesNone_iff {d : Node} (hd : (s.candidates pod).head? = some d) :
    ExcludesNone config tenths now s pod ↔ belowFreshLimit config now s
      ((firstWithImage pod (lookedAt tenths s pod)).getD d) = true := by
  rw [ExcludesNone, ← firstWithImage_eq_none_iff]
  cases hfirst : firstWithImage pod (lookedAt tenths s pod) with
  | none =>
      rw [Option.getD_none]
      refine ⟨fun h => h.2 rfl d hd, fun h => ⟨nofun, fun _ n hn => ?_⟩⟩
      rw [← Option.some.inj (hd.symm.trans hn)]
      exact h
  | some n =>
      rw [Option.getD_some]
      exact ⟨fun h => h.1 n rfl, fun h => ⟨fun m hm => Option.some.inj hm ▸ h, nofun⟩⟩

/-- For every state and every pod that is not headless. Fresh workspaces are those that were
    started lately and still pull and compile, so a node is to have few of them at a time. The
    candidates are filtered by that, and the filter has an effect only where it takes out none
    of those that are chosen from. -/
theorem keepsFreshLimit_iff (config : DensityAndExperienceConfig) (tenths : Int → Int → Int)
    (now : Int) (s : State) {pod : Pod} (hregular : isHeadlessWorkspace pod = false) :
    KeepsFreshLimit config tenths now s pod ↔
      ((∃ n ∈ s.nodes, fitsOnNode pod n = true ∧ belowFreshLimit config now s n = true) →
        ExcludesNone config tenths now s pod) := by
  refine forall_congr' fun ⟨m, hm, hfits, hbelow⟩ => ?_
  have hmem : m ∈ s.candidates pod := (mem_candidates_iff m).mpr ⟨hm, hfits⟩
  rcases List.exists_cons_of_ne_nil (List.ne_nil_of_mem hmem) with ⟨d, rest, hcandidates⟩
  have hhead : (s.candidates pod).head? = some d := by rw [hcandidates, List.head?_cons]
  have hselect := select_of_fresh tenths hregular hcandidates ⟨m, hmem, hbelow⟩
  rw [excludesNone_iff hhead, hselect]
  constructor
  · rintro ⟨n, hn, hname, hbelow⟩
    rw [belowFreshLimit_congr (Option.some.inj hname)]
    exact hbelow
  · intro hbelow
    exact ⟨_, ((mem_candidates_iff _).mp (selected_mem hhead)).1, rfl, hbelow⟩

instance (config : DensityAndExperienceConfig) (tenths : Int → Int → Int) (now : Int) (s : State)
    (pod : Pod) : Decidable (KeepsFreshLimit config tenths now s pod) :=
  inferInstanceAs (Decidable ((∃ n ∈ s.nodes, _ ∧ _) → ∃ n ∈ s.nodes, _ ∧ _))

/-- The configuration the scheduler uses when none is given. -/
def defaultDensityAndExperienceConfig : DensityAndExperienceConfig where
  workspaceFreshPeriodSeconds := 120
  nodeFreshWorkspaceLimit := 2

/-- A node of ten bytes with an image. -/
def tenBytesWith (name image : String) : K8sNode where
  name := name
  allocatableMemory := 10
  podCapacity := 110
  images := [[image]]

/-- A workspace of one byte on a node. -/
def oneByteOn (name nodeName : String) : Pod :=
  { tenBytesPod with name := name, memoryRequests := [1], nodeName := nodeName }

/-- Two workspaces have just started on one of two nodes. -/
def twoFresh : KeyedState :=
  KeyedState.build [tenBytesWith "node1" "other", tenBytesWith "node2" "other"]
    [oneByteOn "pod1" "node1", oneByteOn "pod2" "node1"] []

theorem keepsFreshLimit_iff_twoFresh :
    isHeadlessWorkspace (oneByteOn "pod" "") = false ∧
      (KeepsFreshLimit defaultDensityAndExperienceConfig (fun _ _ => 2) 0 twoFresh.toState
          (oneByteOn "pod" "") ↔
        ((∃ n ∈ twoFresh.nodes, fitsOnNode (oneByteOn "pod" "") n = true ∧
            belowFreshLimit defaultDensityAndExperienceConfig 0 twoFresh.toState n = true) →
          ExcludesNone defaultDensityAndExperienceConfig (fun _ _ => 2) 0 twoFresh.toState
            (oneByteOn "pod" ""))) :=
  ⟨by decide, keepsFreshLimit_iff _ _ _ _ (by decide)⟩

/-- A third workspace is placed on the same node, while the other one is empty. -/
theorem third_fresh_workspace :
    isHeadlessWorkspace (oneByteOn "pod" "") = false ∧
      densityAndExperienceSelect defaultDensityAndExperienceConfig (fun _ _ => 2) 0
        twoFresh.toState (oneByteOn "pod" "") = some "node1" ∧
      (twoFresh.nodes.map fun n => (n.name, fitsOnNode (oneByteOn "pod" "") n,
        belowFreshLimit defaultDensityAndExperienceConfig 0 twoFresh.toState n)) =
          [("node1", true, false), ("node2", true, true)] ∧
      ¬ KeepsFreshLimit defaultDensityAndExperienceConfig (fun _ _ => 2) 0 twoFresh.toState
        (oneByteOn "pod" "") := by
  decide +kernel

/-! ## The image -/

/-- The node selected is one that the pod fits on. Among the acceptable candidates it
    is the first one in the initial run that has the image, and the densest one
    if none of them has it. -/
def PrefersImage (config : DensityAndExperienceConfig) (tenths : Int → Int → Int) (now : Int)
    (s : State) (pod : Pod) : Prop :=
  (∀ name, densityAndExperienceSelect config tenths now s pod = some name →
      ∃ n ∈ s.nodes, n.name = name ∧ fitsOnNode pod n = true) ∧
    ∀ d, (acceptable config now s pod).head? = some d →
      densityAndExperienceSelect config tenths now s pod = some ((firstWithImage pod
        (initialRun (NoLessDense tenths s) (acceptable config now s pod))).getD d).name

/-- No acceptable candidate with the image is overlooked: one that is looked at has
    it, or the densest acceptable one, or none in the run. -/
def OverlooksNone (config : DensityAndExperienceConfig) (tenths : Int → Int → Int) (now : Int)
    (s : State) (pod : Pod) : Prop :=
  (∀ n ∈ lookedAt tenths s pod, hasNeededImage n pod = false) →
    (∀ d, (acceptable config now s pod).head? = some d → hasNeededImage d pod = true) ∨
      ∀ n ∈ initialRun (NoLessDense tenths s) (acceptable config now s pod),
        hasNeededImage n pod = false

/-- An acceptable candidate that is found is the first one of the acceptable ones. -/
theorem firstWithImage_acceptable {n : Node}
    (hfirst : firstWithImage pod (lookedAt tenths s pod) = some n)
    (hbelow : belowFreshLimit config now s n = true) :
    firstWithImage pod (initialRun (NoLessDense tenths s) (acceptable config now s pod)) =
      some n :=
  find?_initialRun_filter _ _ (lookedAt_begins.find?_eq_some hfirst) hbelow

theorem acceptable_subset {n : Node} (h : n ∈ acceptable config now s pod) :
    n ∈ s.candidates pod ∧ belowFreshLimit config now s n = true :=
  List.mem_filter.mp h

theorem getD_firstWithImage_mem {d : Node} {nodes : List Node} (hd : d ∈ nodes) :
    (firstWithImage pod nodes).getD d ∈ nodes := by
  cases hfirst : firstWithImage pod nodes with
  | none => exact hd
  | some n => exact mem_of_firstWithImage hfirst

theorem firstWithImage_cons_of_pos {n : Node} (h : hasNeededImage n pod = true)
    {nodes : List Node} (hhead : nodes.head? = some n) : firstWithImage pod nodes = some n := by
  rcases List.head?_eq_some_iff.mp hhead with ⟨rest, rfl⟩
  rw [firstWithImage_cons, if_pos h]

/-- The densest candidate is the densest acceptable one when it is acceptable. -/
theorem head?_acceptable {c : Node} (hc : (s.candidates pod).head? = some c)
    (hbelow : belowFreshLimit config now s c = true) :
    (acceptable config now s pod).head? = some c := by
  rcases List.head?_eq_some_iff.mp hc with ⟨rest, hcandidates⟩
  rw [acceptable, hcandidates, List.filter_cons_of_pos hbelow, List.head?_cons]

/-- What is selected is what should be. -/
theorem preferred_eq_iff {c d : Node} (hc : (s.candidates pod).head? = some c)
    (hd : (acceptable config now s pod).head? = some d) :
    (firstWithImage pod (lookedAt tenths s pod)).getD c = (firstWithImage pod
        (initialRun (NoLessDense tenths s) (acceptable config now s pod))).getD d ↔
      ExcludesNone config tenths now s pod ∧ OverlooksNone config tenths now s pod := by
  rw [excludesNone_iff hc, OverlooksNone, ← firstWithImage_eq_none_iff,
    ← firstWithImage_eq_none_iff]
  have hrun : (initialRun (NoLessDense tenths s) (acceptable config now s pod)).head? = some d :=
    (head?_initialRun _).trans hd
  -- What should be selected is acceptable, so nothing else can be equal to it.
  have hbelow : belowFreshLimit config now s ((firstWithImage pod
      (initialRun (NoLessDense tenths s) (acceptable config now s pod))).getD d) = true :=
    (acceptable_subset ((initialRun_begins _ _).subset
      (getD_firstWithImage_mem (List.mem_of_head? hrun)))).2
  cases hfirst : firstWithImage pod (lookedAt tenths s pod) with
  | some n =>
      rw [Option.getD_some]
      refine ⟨fun h => ⟨h ▸ hbelow, nofun⟩, fun h => ?_⟩
      rw [firstWithImage_acceptable hfirst h.1, Option.getD_some]
  | none =>
      rw [Option.getD_none]
      constructor
      · intro h
        have hcbelow : belowFreshLimit config now s c = true := h ▸ hbelow
        refine ⟨hcbelow, fun _ => ?_⟩
        cases himage : firstWithImage pod
            (initialRun (NoLessDense tenths s) (acceptable config now s pod)) with
        | none => exact .inr rfl
        | some n =>
            -- What has the image is the densest candidate, and that is acceptable.
            rw [himage, Option.getD_some] at h
            left
            intro m hm
            rw [head?_acceptable hc hcbelow, Option.some.injEq, h] at hm
            exact hm ▸ hasNeededImage_of_firstWithImage himage
      · rintro ⟨hcbelow, hoverlooks⟩
        have hcd := Option.some.inj ((head?_acceptable hc hcbelow).symm.trans hd)
        rcases hoverlooks rfl with himage | hnone
        · rw [firstWithImage_cons_of_pos (himage d hd) hrun, Option.getD_some]
          exact hcd
        · rw [hnone, Option.getD_none]
          exact hcd

/-- For every state whose nodes have names of their own and every pod that is not headless. A
    node that has the image already starts the workspace sooner. The scan stops at the first
    node of less density, so the preference for an image never costs the density that the
    strategy is for. -/
theorem prefersImage_iff (config : DensityAndExperienceConfig) (tenths : Int → Int → Int)
    (now : Int) (s : KeyedState) {pod : Pod} (hregular : isHeadlessWorkspace pod = false) :
    PrefersImage config tenths now s.toState pod ↔
      (acceptable config now s.toState pod ≠ [] →
        ExcludesNone config tenths now s.toState pod ∧
          OverlooksNone config tenths now s.toState pod) := by
  rw [PrefersImage, and_iff_right fun name h => densityAndExperienceSelect_fits h]
  cases hhead : (acceptable config now s.toState pod).head? with
  | none => exact iff_of_true nofun fun hne => absurd (List.head?_eq_none_iff.mp hhead) hne
  | some d =>
      have hd := acceptable_subset (List.mem_of_head? hhead)
      rcases List.exists_cons_of_ne_nil (List.ne_nil_of_mem hd.1) with ⟨c, rest, hcandidates⟩
      have hc : (s.candidates pod).head? = some c := by rw [hcandidates, List.head?_cons]
      have hselect := select_of_fresh tenths hregular hcandidates ⟨d, hd⟩
      -- Both nodes are candidates, so they are the same if their names are.
      have hmem : ∀ n, n ∈ s.candidates pod → n ∈ s.nodes := fun n hn =>
        ((mem_candidates_iff n).mp hn).1
      have hselected : (firstWithImage pod (lookedAt tenths s.toState pod)).getD c ∈ s.nodes :=
        hmem _ (selected_mem hc)
      have hrun : (firstWithImage pod (initialRun (NoLessDense tenths s.toState)
          (acceptable config now s.toState pod))).getD d ∈ initialRun
            (NoLessDense tenths s.toState) (acceptable config now s.toState pod) :=
        getD_firstWithImage_mem (List.mem_of_head? ((head?_initialRun _).trans hhead))
      have hpreferred := hmem _ (acceptable_subset ((initialRun_begins _ _).subset hrun)).1
      have hnames := s.eq_of_name hselected hpreferred
      rw [hselect]
      have hne : acceptable config now s.toState pod ≠ [] :=
        List.ne_nil_of_mem (List.mem_of_head? hhead)
      rw [forall_prop_of_true hne, ← preferred_eq_iff hc hhead]
      constructor
      · exact fun h => hnames (Option.some.inj (h d rfl))
      · intro h d' hd'
        rw [h, ← Option.some.inj hd']

/-- Two empty nodes, of which the second one has the image. -/
def imageOnLast : KeyedState :=
  KeyedState.build [tenBytesWith "node1" "other", tenBytesWith "node2" "image"] [] []

theorem prefersImage_iff_imageOnLast :
    isHeadlessWorkspace (oneByteOn "pod" "") = false ∧
      (PrefersImage defaultDensityAndExperienceConfig (fun _ _ => 0) 0 imageOnLast.toState
          (oneByteOn "pod" "") ↔
        (acceptable defaultDensityAndExperienceConfig 0 imageOnLast.toState
            (oneByteOn "pod" "") ≠ [] →
          ExcludesNone defaultDensityAndExperienceConfig (fun _ _ => 0) 0 imageOnLast.toState
              (oneByteOn "pod" "") ∧
            OverlooksNone defaultDensityAndExperienceConfig (fun _ _ => 0) 0 imageOnLast.toState
              (oneByteOn "pod" ""))) :=
  ⟨by decide, prefersImage_iff _ _ _ _ (by decide)⟩

/-- The last candidate is not looked at, so the image is not found. -/
theorem image_on_last_overlooked :
    isHeadlessWorkspace (oneByteOn "pod" "") = false ∧
      ((acceptable defaultDensityAndExperienceConfig 0 imageOnLast.toState
        (oneByteOn "pod" "")).map fun n => (n.name, classifyNode (fun _ _ => 0)
          imageOnLast.toState n, hasNeededImage n (oneByteOn "pod" ""))) =
            [("node1", 0, false), ("node2", 0, true)] ∧
      densityAndExperienceSelect defaultDensityAndExperienceConfig (fun _ _ => 0) 0
        imageOnLast.toState (oneByteOn "pod" "") = some "node1" ∧
      ¬ PrefersImage defaultDensityAndExperienceConfig (fun _ _ => 0) 0 imageOnLast.toState
        (oneByteOn "pod" "") := by
  refine ⟨by decide, by decide +kernel, by decide +kernel, fun h => ?_⟩
  have hfirst : ∃ d, (acceptable defaultDensityAndExperienceConfig 0 imageOnLast.toState
      (oneByteOn "pod" "")).head? = some d ∧
        densityAndExperienceSelect defaultDensityAndExperienceConfig (fun _ _ => 0) 0
          imageOnLast.toState (oneByteOn "pod" "") ≠ some ((firstWithImage (oneByteOn "pod" "")
            (initialRun (NoLessDense (fun _ _ => 0) imageOnLast.toState) (acceptable
              defaultDensityAndExperienceConfig 0 imageOnLast.toState
                (oneByteOn "pod" "")))).getD d).name := ⟨_, rfl, by decide +kernel⟩
  rcases hfirst with ⟨d, hd, hne⟩
  exact hne (h.2 d hd)

end Scheduler

end Nxpod
