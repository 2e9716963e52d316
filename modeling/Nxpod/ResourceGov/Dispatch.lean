import Nxpod.Library.Map
import Nxpod.ResourceGov.Governer

/-!
# The Workspace Dispatch

The dispatch makes a governer for every workspace container of the node. It is told by containerd
when a container is created and when one is deleted, and by the cluster when a pod changes.
Governers are kept under the id of their container. Since a pod only says which instance it belongs
to, the container that was governed last for an instance is kept as well.

An instance may have several containers. The entry of an instance names one of them, and is removed
with any of them.

What a container's specification unmarshals to is a parameter: the section for Linux, if there is
one, with the path of the cgroup.

## Main definitions

* `Container`: A container as containerd lists it.
* `Pod`: What the dispatch reads of a pod.
* `WorkspaceDispatch.govern`, `handleContainerCreate`, `handleContainerDelete`, `handlePodUpdate`:
  The dispatch.
* `WorkspaceDispatch.start`: What it does with the containers that are there already.
* `Dispatched`, `step`: The dispatch, and the containers that were deleted.
* `Event`: What containerd and the cluster answer comes with the event.
* `Reachable`: Instances lead to governed containers.
* `OnlyOne`: The container that is deleted is the only one of its instance.
* `Governs`: A dispatch after a container was governed that was not governed before.
* `SameBooks`: A dispatch with the same governed containers and the same entries.
* `Entries`: An entry refers to a governed container of its instance, and a governed container was
  not deleted.

## Theorems

* `created_cases`: What a created container does.
* `entries_step`: Entries refer to governed containers of their instance.
* `reachable_step_iff`: One step.
* `reachable_iff_onlyOne`: Every step of a run.
* `handlePodUpdate_reaches`: An update of a pod gets to a governer of the instance.
-/

namespace Nxpod

namespace ResourceGov

open Transition

/-- The label that says what kind of container it is. -/
def containerLabelCRIKind : String := "io.cri-containerd.kind"

/-- The label with the name of the pod. -/
def containerLabelK8sPodName : String := "io.kubernetes.pod.name"

/-- The label with the namespace of the pod. -/
def containerLabelK8sNamespace : String := "io.kubernetes.pod.namespace"

/-- The label that holds the id of the instance. -/
def workspaceIDLabel : String := "workspaceID"

/-- The label with the id that a workspace keeps over its instances. -/
def metaIDLabel : String := "metaID"

/-- The annotation with a fixed limit. -/
def cpuLimitAnnotation : String := "nxpod/cpuLimit"

/-- A label that is not there is empty. -/
def label (labels : Map String String) (name : String) : String :=
  (labels.lookup name).getD ""

/-- A container as containerd lists it. -/
structure Container where
  id : String
  labels : Map String String
  spec : String

/-- What the dispatch reads of a pod. -/
structure Pod where
  labels : Map String String
  annotations : Map String String

/-- What is configured, and what libraries do with texts: quantities are parsed and
    specifications are unmarshalled there. -/
structure Setup where
  kubernetesNamespace : String
  cpuBuckets : List Bucket
  parseQuantity : String → Option Int64
  unmarshalSpec : String → Option (Option String)

/-- The path of the cgroup. There is none if the specification cannot be read or has no section
    for Linux. -/
def extractCGroupPathFromContainer (setup : Setup) (container : Container) : Option String :=
  match setup.unmarshalSpec container.spec with
  | none => none
  | some none => none
  | some (some cgroupsPath) => some cgroupsPath

/-- The books of the dispatch: governers by container, containers by instance, and the labels
    that were looked up for pods. -/
structure WorkspaceDispatch where
  governer : Map String Governer
  wsiContainerID : Map String String
  labelCache : Map String (Map String String)

namespace WorkspaceDispatch

/-- The ids of workspace and instance and the type of the workspace, all empty for a pod whose
sandbox is not known. -/
def getNxpodInfoFromLabelCache (d : WorkspaceDispatch) (podName : String) :
    String × String × String :=
  match d.labelCache.lookup podName with
  | none => ("", "", "")
  | some labels =>
      (label labels metaIDLabel, label labels workspaceIDLabel, label labels "workspaceType")

/-- A container is governed once. The periods are those that a governer has by default, and make
ninety samples. -/
def govern (setup : Setup) (d : WorkspaceDispatch) (container : Container) (pod : Option Pod)
    (instanceID : String) : WorkspaceDispatch :=
  match d.governer.lookup container.id with
  | some _ => d
  | none => match extractCGroupPathFromContainer setup container with
    | none => d
    | some _ =>
        let cpuLimit := pod.bind fun pod => pod.annotations.lookup cpuLimitAnnotation
        let g := newGoverner setup.parseQuantity setup.cpuBuckets instanceID 90 cpuLimit
        { d with
          governer := d.governer.insert container.id g
          wsiContainerID := d.wsiContainerID.insert instanceID container.id }

/-- What the label cache knows of the container's pod decides whether it is a workspace. -/
def governWorkspace (setup : Setup) (d : WorkspaceDispatch) (container : Container)
    (pod : Option Pod) : WorkspaceDispatch :=
  match d.getNxpodInfoFromLabelCache (label container.labels containerLabelK8sPodName) with
  | (workspaceID, instanceID, workspaceType) =>
      if workspaceID = "" ∨ instanceID = "" ∨ workspaceType ≠ "regular" then d
      else d.govern setup container pod instanceID

/-- The container that was created may not be found any more. -/
def handleContainerCreate (setup : Setup) (d : WorkspaceDispatch) (pod : Option Pod) :
    Option Container → WorkspaceDispatch
  | none => d
  | some c =>
      if label c.labels containerLabelK8sNamespace ≠ setup.kubernetesNamespace then d
      else if label c.labels containerLabelCRIKind = "sandbox" then
        { d with
          labelCache := d.labelCache.insert (label c.labels containerLabelK8sPodName) c.labels }
      else if label c.labels containerLabelCRIKind ≠ "container" then d
      else d.governWorkspace setup c pod

/-- The governer of a container that was deleted is dropped, and with it the entry of its
    instance. -/
def handleContainerDelete (d : WorkspaceDispatch) (id : String) : WorkspaceDispatch :=
  match d.governer.lookup id with
  | none => d
  | some gov =>
      { d with
        -- The entry may name another container of the instance by now.
        wsiContainerID := d.wsiContainerID.erase gov.instanceID
        governer := d.governer.erase id }

/-- A pod that has changed is told to the governer which the entry of its instance names, if
    there is one. -/
def handlePodUpdate (setup : Setup) (d : WorkspaceDispatch) (oldPod newPod : Pod) :
    WorkspaceDispatch :=
  let id := (d.wsiContainerID.lookup (label newPod.labels workspaceIDLabel)).getD ""
  match d.governer.lookup id with
  | none => d
  | some gov =>
      { d with
        governer := d.governer.insert id (gov.handlePodUpdate setup.parseQuantity
          (oldPod.annotations.lookup cpuLimitAnnotation)
          (newPod.annotations.lookup cpuLimitAnnotation)) }

/-- The containers of pods in the namespace. -/
def listed (setup : Setup) (container : List Container) (kind : String) : List Container :=
  container.filter fun c => label c.labels containerLabelK8sPodName ≠ "" ∧
    label c.labels containerLabelK8sNamespace = setup.kubernetesNamespace ∧
      label c.labels containerLabelCRIKind = kind

/-- The containers that are there when the dispatch starts: the sandboxes first. -/
def start (setup : Setup) (pods : String → Option Pod) (container : List Container) :
    WorkspaceDispatch :=
  let labelCache := (listed setup container "sandbox").foldl
    (fun cache c => cache.insert (label c.labels containerLabelK8sPodName) c.labels) ∅
  (listed setup container "container").foldl
    (fun d c => d.governWorkspace setup c (pods (label c.labels containerLabelK8sPodName)))
    ⟨∅, ∅, labelCache⟩

/-- The instance of a container that is governed. -/
def instanceOf (d : WorkspaceDispatch) (id : String) : Option String :=
  (d.governer.lookup id).map Governer.instanceID

end WorkspaceDispatch

/-! ## The system -/

/-- The dispatch, and the containers that it was told are deleted. -/
structure Dispatched where
  dispatch : WorkspaceDispatch
  deleted : List String

/-- What containerd and the cluster answer comes with the event. Sandboxes expire. -/
inductive Event
  | containerCreate (id : String) (c : Option Container) (pod : Option Pod)
  | containerDelete (id : String)
  | podUpdate (oldPod newPod : Pod)
  | expire (podName : String)

namespace Dispatched

/-- What the dispatch is told. A container that is created again is not deleted any more. -/
def step (setup : Setup) (s : Dispatched) : Event → Option Dispatched
  | .containerCreate id c pod =>
      if c.all fun c => c.id = id then
        some ⟨s.dispatch.handleContainerCreate setup pod c, s.deleted.filter fun x => x ≠ id⟩
      else none
  | .containerDelete id => some ⟨s.dispatch.handleContainerDelete id, id :: s.deleted⟩
  | .podUpdate oldPod newPod =>
      some { s with dispatch := s.dispatch.handlePodUpdate setup oldPod newPod }
  | .expire podName =>
      some { s with dispatch :=
        { s.dispatch with labelCache := s.dispatch.labelCache.erase podName } }

def start (setup : Setup) (pods : String → Option Pod) (container : List Container) : Dispatched :=
  ⟨.start setup pods container, []⟩

end Dispatched

/-- The instance of a governed container leads to a governed container of this instance, and what
an instance leads to was not deleted. -/
structure Reachable (s : Dispatched) : Prop where
  mapped : ∀ id instanceID, s.dispatch.instanceOf id = some instanceID →
    ∃ id', s.dispatch.wsiContainerID.lookup instanceID = some id' ∧
      s.dispatch.instanceOf id' = some instanceID
  live : ∀ instanceID id, s.dispatch.wsiContainerID.lookup instanceID = some id → id ∉ s.deleted

/-- No other container of its instance is governed when a governed container is deleted. -/
def OnlyOne (s : Dispatched) : Event → Prop
  | .containerDelete id => ∀ instanceID, s.dispatch.instanceOf id = some instanceID →
      ∀ id', s.dispatch.instanceOf id' = some instanceID → id' = id
  | _ => True

/-! ## The operations -/

variable {setup : Setup} {d : WorkspaceDispatch} {s s' : Dispatched} {e : Event}

/-- The instance of a container after a governer was put in. -/
theorem instanceOf_insert (d : WorkspaceDispatch) (id id' : String) (gov : Governer) :
    WorkspaceDispatch.instanceOf { d with governer := d.governer.insert id gov } id' =
      if id' = id then some gov.instanceID else d.instanceOf id' := by
  unfold WorkspaceDispatch.instanceOf
  rw [Map.lookup_insert_eq_ite]
  split <;> rfl

theorem instanceOf_eq_none {id : String} (h : d.governer.lookup id = none) :
    d.instanceOf id = none := by
  rw [WorkspaceDispatch.instanceOf, h, Option.map_none]

/-- A governer keeps its instance when the pod changes. -/
theorem handlePodUpdate_instanceID (gov : Governer) (parseQuantity : String → Option Int64)
    (oldPod newPod : Option String) :
    (gov.handlePodUpdate parseQuantity oldPod newPod).instanceID = gov.instanceID := by
  unfold Governer.handlePodUpdate
  split <;> rfl

/-- A dispatch after a container was governed that was not governed before. -/
structure Governs (d d' : WorkspaceDispatch) (id instanceID : String) : Prop where
  fresh : d.instanceOf id = none
  governed : ∀ id', d'.instanceOf id' = if id' = id then some instanceID else d.instanceOf id'
  entries : ∀ instanceID', d'.wsiContainerID.lookup instanceID' =
    if instanceID' = instanceID then some id else d.wsiContainerID.lookup instanceID'

/-- A dispatch with the same governed containers and the same entries. -/
structure SameBooks (d d' : WorkspaceDispatch) : Prop where
  governed : ∀ id, d'.instanceOf id = d.instanceOf id
  entries : d'.wsiContainerID = d.wsiContainerID

/-- A container is governed or nothing changes, as when its specification cannot be read. -/
theorem govern_cases (setup : Setup) (d : WorkspaceDispatch) (container : Container)
    (pod : Option Pod) (instanceID : String) :
    SameBooks d (d.govern setup container pod instanceID) ∨
      Governs d (d.govern setup container pod instanceID) container.id instanceID := by
  unfold WorkspaceDispatch.govern
  split
  · exact .inl ⟨fun _ => rfl, rfl⟩
  · next hnone =>
      split
      · exact .inl ⟨fun _ => rfl, rfl⟩
      · refine .inr ⟨instanceOf_eq_none hnone, fun id' => ?_, fun instanceID' => ?_⟩
        · exact instanceOf_insert d container.id id' _
        · exact Map.lookup_insert_eq_ite _ _ _ _

theorem governWorkspace_cases (setup : Setup) (d : WorkspaceDispatch) (container : Container)
    (pod : Option Pod) :
    SameBooks d (d.governWorkspace setup container pod) ∨
      ∃ instanceID, Governs d (d.governWorkspace setup container pod) container.id instanceID := by
  unfold WorkspaceDispatch.governWorkspace
  split
  next workspaceID instanceID workspaceType _ =>
    split
    · exact .inl ⟨fun _ => rfl, rfl⟩
    · exact (govern_cases setup d container pod instanceID).imp_right fun h => ⟨instanceID, h⟩

/-- The inversion lemma for a container that was created. -/
theorem created_cases {id : String} {c : Option Container} (hid : c.all fun c => c.id = id)
    (pod : Option Pod) :
    SameBooks d (d.handleContainerCreate setup pod c) ∨
      ∃ instanceID, Governs d (d.handleContainerCreate setup pod c) id instanceID := by
  cases c with
  | none => exact .inl ⟨fun _ => rfl, rfl⟩
  | some c =>
      have hsame : c.id = id := of_decide_eq_true hid
      rw [← hsame]
      rw [WorkspaceDispatch.handleContainerCreate]
      split
      · exact .inl ⟨fun _ => rfl, rfl⟩
      · split
        · exact .inl ⟨fun _ => rfl, rfl⟩
        · split
          · exact .inl ⟨fun _ => rfl, rfl⟩
          · exact governWorkspace_cases setup d c pod

/-- A pod that changes has no effect on which containers are governed. -/
theorem podUpdate_sameBooks (setup : Setup) (d : WorkspaceDispatch) (oldPod newPod : Pod) :
    SameBooks d (d.handlePodUpdate setup oldPod newPod) := by
  unfold WorkspaceDispatch.handlePodUpdate
  dsimp only
  split
  · exact ⟨fun _ => rfl, rfl⟩
  · next gov hgov =>
      refine ⟨fun id' => ?_, rfl⟩
      rw [instanceOf_insert, handlePodUpdate_instanceID]
      split
      · next hid => rw [hid, WorkspaceDispatch.instanceOf, hgov, Option.map_some]
      · rfl

/-- The inversion lemma for a container that was deleted. -/
theorem deleted_cases (d : WorkspaceDispatch) (id : String) :
    (d.instanceOf id = none ∧ d.handleContainerDelete id = d) ∨
      ∃ instanceID, d.instanceOf id = some instanceID ∧
        (∀ id', (d.handleContainerDelete id).instanceOf id' =
          if id' = id then none else d.instanceOf id') ∧
        ∀ instanceID', (d.handleContainerDelete id).wsiContainerID.lookup instanceID' =
          if instanceID' = instanceID then none
          else d.wsiContainerID.lookup instanceID' := by
  unfold WorkspaceDispatch.handleContainerDelete
  split
  · next hnone => exact .inl ⟨instanceOf_eq_none hnone, rfl⟩
  · next gov hgov =>
      refine .inr ⟨gov.instanceID, ?_, fun id' => ?_, fun instanceID' => ?_⟩
      · rw [WorkspaceDispatch.instanceOf, hgov, Option.map_some]
      · unfold WorkspaceDispatch.instanceOf
        rw [Map.lookup_erase_eq_ite]
        split <;> rfl
      · exact Map.lookup_erase_eq_ite _ _ _

/-! ## Entries -/

/-- An entry refers to a governed container of its instance, and a governed container was not
deleted. This holds whether or not a governed container has an entry. -/
structure Entries (s : Dispatched) : Prop where
  entry : ∀ instanceID id, s.dispatch.wsiContainerID.lookup instanceID = some id →
    s.dispatch.instanceOf id = some instanceID
  governed : ∀ id, s.dispatch.instanceOf id ≠ none → id ∉ s.deleted

theorem entries_of_sameBooks {d' : WorkspaceDispatch} (hs : Entries s)
    (h : SameBooks s.dispatch d') : Entries { s with dispatch := d' } where
  entry instanceID id hentry := by
    rw [h.governed]
    rw [h.entries] at hentry
    exact hs.entry instanceID id hentry
  governed id hne := by
    rw [h.governed] at hne
    exact hs.governed id hne

/-- A container that is governed from now on keeps the invariant. -/
theorem entries_of_governs {d' : WorkspaceDispatch} {id instanceID : String} (hs : Entries s)
    (h : Governs s.dispatch d' id instanceID) :
    Entries ⟨d', s.deleted.filter fun x => x ≠ id⟩ where
  entry instanceID' id' hentry := by
    rw [h.entries] at hentry
    rw [h.governed]
    split at hentry
    · next hinstance => rw [if_pos (Option.some.inj hentry).symm, hinstance]
    · have hgoverned := hs.entry instanceID' id' hentry
      have hne : id' ≠ id := by
        rintro rfl
        exact nomatch h.fresh.symm.trans hgoverned
      rw [if_neg hne, hgoverned]
  governed id' hne := by
    rw [h.governed] at hne
    rw [List.mem_filter, decide_eq_true_eq]
    rintro ⟨hmem, hother⟩
    rw [if_neg hother] at hne
    exact hs.governed id' hne hmem

theorem entries_filter (hs : Entries s) (id : String) :
    Entries { s with deleted := s.deleted.filter fun x => x ≠ id } where
  entry := hs.entry
  governed id' hne hmem := hs.governed id' hne (List.mem_of_mem_filter hmem)

/-- The step lemma of the invariant. -/
theorem entries_step (hs : Entries s) (h : s.step setup e = some s') : Entries s' := by
  cases e with
  | containerCreate id c pod =>
      rw [Dispatched.step] at h
      split at h
      · next hid =>
          rw [Option.some.injEq] at h
          rw [← h]
          rcases created_cases hid pod with hsame | ⟨instanceID, hgoverns⟩
          · exact entries_of_sameBooks (entries_filter hs id) hsame
          · exact entries_of_governs hs hgoverns
      · exact nomatch h
  | containerDelete id =>
      rw [Dispatched.step, Option.some.injEq] at h
      rw [← h]
      rcases deleted_cases s.dispatch id with ⟨hnone, hsame⟩ | ⟨instanceID, hid, hgov, hentries⟩
      · rw [hsame]
        refine ⟨hs.entry, fun id' hne hmem => ?_⟩
        rcases List.mem_cons.mp hmem with heq | hmem
        · exact hne (heq ▸ hnone)
        · exact hs.governed id' hne hmem
      · refine ⟨fun instanceID' id' hentry => ?_, fun id' hne hmem => ?_⟩
        · rw [hentries] at hentry
          split at hentry
          · exact nomatch hentry
          · next hother =>
              have hgoverned := hs.entry instanceID' id' hentry
              -- A container of another instance is not the one that is deleted.
              have hne : id' ≠ id := by
                rintro rfl
                exact hother (Option.some.inj (hgoverned.symm.trans hid))
              rw [hgov, if_neg hne, hgoverned]
        · rw [hgov] at hne
          split at hne
          · exact hne rfl
          · next hother =>
              rcases List.mem_cons.mp hmem with heq | hmem
              · exact hother heq
              · exact hs.governed id' hne hmem
  | podUpdate oldPod newPod =>
      rw [Dispatched.step, Option.some.injEq] at h
      rw [← h]
      exact entries_of_sameBooks hs (podUpdate_sameBooks setup s.dispatch oldPod newPod)
  | expire podName =>
      rw [Dispatched.step, Option.some.injEq] at h
      rw [← h]
      exact entries_of_sameBooks hs ⟨fun _ => rfl, rfl⟩

/-! ## Reachable containers -/

/-- Only the way from a governed container to an entry has to be shown. -/
theorem reachable_iff (hs : Entries s) :
    Reachable s ↔ ∀ id instanceID, s.dispatch.instanceOf id = some instanceID →
      s.dispatch.wsiContainerID.lookup instanceID ≠ none := by
  constructor
  · intro h id instanceID hid hnone
    rcases h.mapped id instanceID hid with ⟨id', hentry, -⟩
    exact nomatch hnone.symm.trans hentry
  · intro h
    refine ⟨fun id instanceID hid => ?_, fun instanceID id hentry => ?_⟩
    · rcases Option.ne_none_iff_exists'.mp (h id instanceID hid) with ⟨id', hentry⟩
      exact ⟨id', hentry, hs.entry instanceID id' hentry⟩
    · refine hs.governed id ?_
      rw [hs.entry instanceID id hentry]
      exact Option.some_ne_none _

theorem mapped_of_sameBooks {d' : WorkspaceDispatch} (h : SameBooks s.dispatch d')
    (hmapped : ∀ id instanceID, s.dispatch.instanceOf id = some instanceID →
      s.dispatch.wsiContainerID.lookup instanceID ≠ none) (id instanceID : String)
    (hid : d'.instanceOf id = some instanceID) : d'.wsiContainerID.lookup instanceID ≠ none := by
  rw [h.entries]
  exact hmapped id instanceID ((h.governed id).symm.trans hid)

/-- A container that is governed from now on gets the entry of its instance. -/
theorem mapped_of_governs {d' : WorkspaceDispatch} {newID newInstance : String}
    (h : Governs s.dispatch d' newID newInstance)
    (hmapped : ∀ id instanceID, s.dispatch.instanceOf id = some instanceID →
      s.dispatch.wsiContainerID.lookup instanceID ≠ none) (id instanceID : String)
    (hid : d'.instanceOf id = some instanceID) : d'.wsiContainerID.lookup instanceID ≠ none := by
  rw [h.entries]
  split
  · exact Option.some_ne_none _
  · next hother =>
      rw [h.governed] at hid
      split at hid
      · exact absurd (Option.some.inj hid).symm hother
      · exact hmapped id instanceID hid

/-- Of the containers of an instance, none but the one that is deleted may be governed. -/
theorem reachable_step_iff (hentries : Entries s) (hs : Reachable s)
    (h : s.step setup e = some s') : Reachable s' ↔ OnlyOne s e := by
  rw [reachable_iff (entries_step hentries h)]
  rw [reachable_iff hentries] at hs
  cases e with
  | containerCreate id c pod =>
      rw [Dispatched.step] at h
      split at h
      · next hid =>
          rw [Option.some.injEq] at h
          rw [← h]
          refine iff_of_true ?_ trivial
          rcases created_cases hid pod with hsame | ⟨instanceID, hgoverns⟩
          · exact mapped_of_sameBooks hsame hs
          · exact mapped_of_governs hgoverns hs
      · exact nomatch h
  | containerDelete id =>
      rw [Dispatched.step, Option.some.injEq] at h
      rw [← h]
      rcases deleted_cases s.dispatch id with ⟨hnone, hsame⟩ | ⟨instanceID, hid, hgov, hmap⟩
      · rw [hsame]
        refine iff_of_true hs fun instanceID hid => ?_
        exact nomatch hnone.symm.trans hid
      · constructor
        · intro hall instanceID' hid' id' hother
          -- The entry of the instance is gone, so another container of it has none.
          by_contra hne
          have hsame : instanceID' = instanceID := Option.some.inj (hid'.symm.trans hid)
          refine hall id' instanceID' (by rw [hgov, if_neg hne, hother]) ?_
          rw [hmap, if_pos hsame]
        · intro honly id' instanceID' hgoverned
          rw [hgov] at hgoverned
          split at hgoverned
          · exact nomatch hgoverned
          · next hne =>
              rw [hmap]
              split
              · next hsame => exact absurd (honly instanceID hid id' (hsame ▸ hgoverned)) hne
              · exact hs id' instanceID' hgoverned
  | podUpdate oldPod newPod =>
      rw [Dispatched.step, Option.some.injEq] at h
      rw [← h]
      exact iff_of_true (mapped_of_sameBooks (podUpdate_sameBooks setup _ oldPod newPod) hs) trivial
  | expire podName =>
      rw [Dispatched.step, Option.some.injEq] at h
      rw [← h]
      exact iff_of_true hs trivial

/-! ## The start -/

/-- The dispatch starts with books that are in order, by induction on the containers that were
    there. -/
theorem start_good (setup : Setup) (pods : String → Option Pod) (container : List Container) :
    Entries (.start setup pods container) ∧ Reachable (.start setup pods container) := by
  suffices hfold : ∀ (cs : List Container) (d : WorkspaceDispatch),
      Entries ⟨d, []⟩ → Reachable ⟨d, []⟩ →
        Entries ⟨cs.foldl (fun d c => d.governWorkspace setup c
          (pods (label c.labels containerLabelK8sPodName))) d, []⟩ ∧
        Reachable ⟨cs.foldl (fun d c => d.governWorkspace setup c
          (pods (label c.labels containerLabelK8sPodName))) d, []⟩ by
    refine hfold _ _ ⟨fun instanceID id hentry => ?_, fun id _ => List.not_mem_nil⟩
      ⟨fun id instanceID hid => ?_, fun _ _ _ => List.not_mem_nil⟩
    · exact nomatch hentry
    · exact nomatch hid
  intro cs
  induction cs with
  | nil => exact fun d hentries hreachable => ⟨hentries, hreachable⟩
  | cons c cs ih =>
      intro d hentries hreachable
      rw [reachable_iff hentries] at hreachable
      rw [List.foldl_cons]
      rcases governWorkspace_cases setup d c (pods (label c.labels containerLabelK8sPodName)) with
        hsame | ⟨instanceID, hgoverns⟩
      · have hnext := entries_of_sameBooks hentries hsame
        exact ih _ hnext ((reachable_iff hnext).mpr (mapped_of_sameBooks hsame hreachable))
      · have hnext := entries_of_governs hentries hgoverns
        exact ih _ hnext ((reachable_iff hnext).mpr (mapped_of_governs hgoverns hreachable))

/-- From any start, governed containers stay reachable along a run exactly when no governed
    container is deleted while another one of its instance is governed. A container that cannot
    be reached goes on with the limit it has, whatever is asked for it later. -/
theorem reachable_iff_onlyOne (setup : Setup) (pods : String → Option Pod)
    (container : List Container) (es : List Event) :
    StepsAlong (Dispatched.step setup) (fun _ _ s' => Reachable s') es
        (.start setup pods container) ↔
      MeetsAlong (Dispatched.step setup) OnlyOne es (.start setup pods container) := by
  have hinv : ∀ s e s', Entries s ∧ Reachable s → Dispatched.step setup s e = some s' →
      Reachable s' → Entries s' ∧ Reachable s' := by
    rintro s e s' ⟨hentries, -⟩ hstep hgood
    exact ⟨entries_step hentries hstep, hgood⟩
  refine stepsAlong_iff_meetsAlong_while hinv ?_ es _ (start_good setup pods container)
  rintro s e s' ⟨hentries, hgood⟩ hstep
  exact reachable_step_iff hentries hgood hstep

/-- An update of the pod of an instance gets to a governer of this instance. -/
theorem handlePodUpdate_reaches (setup : Setup) (hs : Reachable s) {id : String}
    {oldPod newPod : Pod}
    (hid : s.dispatch.instanceOf id = some (label newPod.labels workspaceIDLabel)) :
    ∃ id' gov, s.dispatch.governer.lookup id' = some gov ∧
      gov.instanceID = label newPod.labels workspaceIDLabel ∧
      (s.dispatch.handlePodUpdate setup oldPod newPod).governer.lookup id' =
        some (gov.handlePodUpdate setup.parseQuantity
          (oldPod.annotations.lookup cpuLimitAnnotation)
          (newPod.annotations.lookup cpuLimitAnnotation)) := by
  rcases hs.mapped id _ hid with ⟨id', hentry, hinstance⟩
  rcases Option.map_eq_some_iff.mp hinstance with ⟨gov, hgov, hsame⟩
  refine ⟨id', gov, hgov, hsame, ?_⟩
  unfold WorkspaceDispatch.handlePodUpdate
  rw [hentry, Option.getD_some]
  dsimp only
  rw [hgov]
  exact AList.lookup_insert _

/-- A sandbox and two containers of one instance. -/
def restarted : List Event :=
  let pod : Map String String := List.toAList
    [⟨containerLabelK8sPodName, "ws-i"⟩, ⟨containerLabelK8sNamespace, "default"⟩]
  let sandbox : Map String String := List.toAList
    [⟨metaIDLabel, "w"⟩, ⟨workspaceIDLabel, "i"⟩, ⟨"workspaceType", "regular"⟩,
      ⟨containerLabelCRIKind, "sandbox"⟩]
  let container (id : String) : Container := ⟨id, pod.insert containerLabelCRIKind "container", ""⟩
  [.containerCreate "s" (some ⟨"s", sandbox.union pod, ""⟩) none,
    .containerCreate "c1" (some (container "c1")) none,
    .containerCreate "c2" (some (container "c2")) none]

/-- The first container of a workspace is deleted after the second one was created. The instance of
the second one leads nowhere. -/
theorem unmapped_after_restart : ¬ ∀ (setup : Setup) (pods : String → Option Pod)
    (container : List Container) (es : List Event), StepsAlong (Dispatched.step setup)
      (fun _ _ s' => Reachable s') es (.start setup pods container) := by
  intro hall
  have h := hall ⟨"default", [], fun _ => none, fun _ => some (some "/kubepods/ws-i")⟩
    (fun _ => none) [] (restarted ++ [.containerDelete "c1"])
  rcases h.2.2.2.1.mapped "c2" "i" (by decide +kernel) with ⟨id', hentry, -⟩
  refine absurd (hentry.symm.trans (?_ : _ = none)) (Option.some_ne_none id')
  decide +kernel

end ResourceGov

end Nxpod
