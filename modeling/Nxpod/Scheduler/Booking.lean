import Nxpod.Scheduler.Versions

/-!
# No Double Booking

The memory requested by the pods bound to a node fits the node, in every run in
which the scheduler never loses sight of a binding.

The scheduler counts a pod on a node once the informer's store shows it there,
and from its cache of bindings before that. A binding can fall between the two:
when the event for it could not be created or the reply to the request was
lost, since it is not put into the cache then; when a handler drops it from the
cache before the store shows it, since the cache goes by the name of a pod
alone; and when it is dropped after the worker has listed the pods, which do
not show it yet, and before the worker lists the bindings. `Careful` rules this
out, together with pods that share a name on a node and a binding that hits
another pod than the one selected for.

The argument is that of a ledger. Every pod bound at the API server is on
record (`Accounted`), so the memory the worker finds available is there. It is
reserved for the pod from then on (`Reserved`), since nobody else binds pods.

## Main definitions

* `Fits`: The pods bound to a node fit on it.
* `Placed`: A binding the worker made and has a record of.
* `SystemState.views`: The lists of pods that the scheduler counts with.
* `Released`: The record of a binding is not needed any more.
* `Careful`: A step that does not lose sight of a binding.
* `Accounted`, `Current`, `Aligned`, `Reserved`: The invariants.
* `Booked`: What the steps of a careful run keep up.

## Theorems

* `accounted_step`, `current_step`, `aligned_step`: What a step preserves.
* `requestedRAM_boundPods_le`: What the worker finds available is there.
* `boundPods_step`: A pod bound after a step was bound before, or is the one the
  worker was at.
* `fits_of_careful`: Careful runs book no memory twice.
* `not_fits_event_failed`: Memory booked twice after an event failed.
-/

namespace Nxpod

namespace Scheduler

open Keyed Transition

/-- The memory requested by the pods bound to a node fits the node. -/
def Fits (c : Cluster) (s : SystemState) : Prop :=
  ∀ node ∈ c.nodes, requestedRAM (s.boundPods node.name) ≤ node.allocatableMemory

/-- The worker made this binding, and it or the cache has a record of it. -/
def Placed (s : SystemState) (b : Binding) : Prop :=
  (∃ name, s.localBindingCache.lookup name = some b) ∨ s.worker = .bound b.pod b.nodeName

/-- The pods the scheduler counts with: those in the informer's store, and
    those the worker has listed. -/
def SystemState.views (s : SystemState) : List (List Pod) :=
  match s.worker with
  | .listed _ _ pods => [s.storePods, pods]
  | _ => [s.storePods]

/-- A list of pods shows a pod on a node. -/
def ShownOn (pods : List Pod) (id : PodIdentity) (nodeName : String) : Prop :=
  ∃ w ∈ pods, w.toPodIdentity = id ∧ w.nodeName = nodeName

/-- The record of a binding is not needed any more: the pod is gone, or is
    shown on its node wherever it will be looked for. -/
def Released (s : SystemState) (b : Binding) : Prop :=
  (∃ v ∈ s.api (podKey b.pod), v.toPodIdentity = b.pod.toPodIdentity) →
    ∀ pods ∈ s.views, ShownOn pods b.pod.toPodIdentity b.nodeName

/-- The binding a handler drops from the cache next. -/
def droppedNext (s : SystemState) : Option Binding :=
  match s.notifications with
  | .updated pod :: _ => if pod.nodeName ≠ "" then s.localBindingCache.lookup pod.name else none
  | _ => none

/-- A step that does not lose sight of a binding. -/
def Careful (s : SystemState) : Action → Prop
  | .handle => ∀ b ∈ droppedNext s, Released s b
  | .selectNodeForPod bindings _ => match s.worker with
    | .listed _ nodes pods => ∀ node ∈ nodes, NamesTellApart pods bindings node.name
    | _ => True
  | .bindPodToNode .accepted => match s.worker with
    | .selected pod _ => ∀ v ∈ s.api (podKey pod), v.toPodIdentity = pod.toPodIdentity
    | _ => True
  | .bindPodToNode .lost => False
  | .markAsScheduled false => match s.worker with
    | .bound pod nodeName => Released s { pod := pod, nodeName := nodeName }
    | _ => True
  | _ => True

instance (c : Cluster) (s : SystemState) : Decidable (Fits c s) :=
  inferInstanceAs (Decidable (∀ node ∈ c.nodes, _ ≤ _))

instance (s : SystemState) (b : Binding) : Decidable (Released s b) :=
  inferInstanceAs (Decidable ((∃ v ∈ s.api (podKey b.pod),
    v.toPodIdentity = b.pod.toPodIdentity) → ∀ pods ∈ s.views, ∃ w ∈ pods,
      w.toPodIdentity = b.pod.toPodIdentity ∧ w.nodeName = b.nodeName))

instance (s : SystemState) : (a : Action) → Decidable (Careful s a)
  | .create _ | .update _ | .delete _ | .deliver .. | .resync _ | .listPods ..
  | .checkForAndEnqueuePendingPods _ | .bindPodToNode .rejected | .markAsScheduled true =>
      isTrue trivial
  | .handle => inferInstanceAs (Decidable (∀ b ∈ droppedNext s, Released s b))
  | .selectNodeForPod bindings now => match h : s.worker with
    | .listed _ nodes pods =>
        decidable_of_iff (∀ node ∈ nodes, NamesTellApart pods bindings node.name)
          (by rw [Careful, h])
    | .idle | .selected .. | .bound .. => isTrue (by rw [Careful, h]; trivial)
  | .bindPodToNode .accepted => match h : s.worker with
    | .selected pod _ =>
        decidable_of_iff (∀ v ∈ s.api (podKey pod), v.toPodIdentity = pod.toPodIdentity)
          (by rw [Careful, h])
    | .idle | .listed .. | .bound .. => isTrue (by rw [Careful, h]; trivial)
  | .bindPodToNode .lost => isFalse id
  | .markAsScheduled false => match h : s.worker with
    | .bound pod nodeName =>
        decidable_of_iff (Released s { pod := pod, nodeName := nodeName }) (by rw [Careful, h])
    | .idle | .listed .. | .selected .. => isTrue (by rw [Careful, h]; trivial)

/-! ## Every bound pod is on record -/

variable {c : Cluster} {s s' : SystemState} {a : Action}

/-- Every pod bound at the API server is shown on its node, or is placed. -/
def Accounted (s : SystemState) : Prop :=
  ∀ pods ∈ s.views, ∀ key v, s.api key = some v → v.nodeName ≠ "" →
    ShownOn pods v.toPodIdentity v.nodeName ∨
      ∃ b, Placed s b ∧ b.pod.toPodIdentity = v.toPodIdentity ∧ b.nodeName = v.nodeName

/-- The API server's pod under the key of a placed binding, if it is bound, is
    the pod of the binding. -/
def Current (s : SystemState) : Prop :=
  ∀ b, Placed s b → ∀ v, s.api (podKey b.pod) = some v → v.nodeName ≠ "" →
    v.toPodIdentity = b.pod.toPodIdentity ∧ v.nodeName = b.nodeName

/-- The pod the worker is at has no binding in the cache. -/
def Unplaced (s : SystemState) : Prop :=
  ∀ p, s.worker.pod = some p → s.localBindingCache.lookup p.name = none

theorem unplaced_step (hu : Unplaced s) (h : step c s a = some s') : Unplaced s' := by
  intro p hp
  cases effect_of_step h with
  -- the name was looked up when the worker took the pod
  | list _ _ pod rest _ _ hcached =>
      rw [← Option.some.inj hp]
      exact hcached
  | handle n rest _ =>
      rw [worker_onNotification] at hp
      rw [lookup_onNotification]
      split_ifs
      · rfl
      · exact hu p hp
  | select _ _ pod nodes pods hworker =>
      exact hu p (by rw [hworker]; exact hp)
  | bind pod nodeName v hworker =>
      exact hu p (by rw [hworker]; exact hp)
  | giveUp | lose | reject | mark | fail =>
      exact absurd hp (by simp only [Worker.pod, reduceCtorEq, not_false_eq_true])
  | _ => exact hu p hp

/-- The worker's binding as a record. -/
theorem eq_of_bound {b : Binding} {pod : Pod} {nodeName : String}
    (hb : s.worker = .bound b.pod b.nodeName) (hworker : s.worker = .bound pod nodeName) :
    b = { pod := pod, nodeName := nodeName } := by
  rw [hworker, Worker.bound.injEq] at hb
  rw [hb.1, hb.2]

/-- What the next handler drops from the cache, when the next notification is
    known. -/
theorem droppedNext_eq {n : Notification} {rest : List Notification} {name : String}
    (hn : s.notifications = n :: rest) (hremoves : n.removes = some name) :
    droppedNext s = s.localBindingCache.lookup name := by
  cases n with
  | updated pod =>
      rw [Notification.removes, Option.ite_none_right_eq_some] at hremoves
      rw [droppedNext, hn, ← Option.some.inj hremoves.2]
      exact if_pos hremoves.1
  | added pod | deleted pod => exact absurd hremoves (by simp only [Notification.removes,
      reduceCtorEq, not_false_eq_true])

/-- A step keeps the record of a binding, or it was not needed any more. -/
theorem placed_of_placed (hu : Unplaced s) (h : step c s a = some s') (hok : Careful s a)
    {b : Binding} (hb : Placed s b) : Placed s' b ∨ Released s b := by
  -- the worker is at no binding in the other steps it takes
  have hother : ∀ w, s.worker = w → (∀ pod nodeName, w ≠ .bound pod nodeName) →
      ∃ name, s.localBindingCache.lookup name = some b := by
    intro w hw hne
    rcases hb with hcached | hworker
    · exact hcached
    · exact absurd (hw.symm.trans hworker) (hne b.pod b.nodeName)
  cases effect_of_step h with
  | handle n rest hn =>
      rw [Placed, worker_onNotification]
      rcases hb with ⟨name, hname⟩ | hworker
      · -- An entry that the notification removes is released, by the condition.
        by_cases hremoves : n.removes = some name
        · exact Or.inr (hok b (by rw [droppedNext_eq hn hremoves]; exact hname))
        · refine Or.inl (Or.inl ⟨name, ?_⟩)
          rw [lookup_onNotification, if_neg hremoves]
          exact hname
      · exact Or.inl (Or.inr hworker)
  | mark pod nodeName hworker =>
      left; left
      rcases hb with ⟨name, hname⟩ | hb
      · -- the cache has no entry that marking the pod would replace
        refine ⟨name, ?_⟩
        rw [Map.lookup_insert_eq_ite, if_neg, hname]
        intro hc
        have hnone := hu pod (by rw [hworker]; rfl)
        rw [← hc, hname] at hnone
        exact absurd hnone (by simp only [reduceCtorEq, not_false_eq_true])
      · -- The binding of the worker gets its entry now.
        refine ⟨pod.name, ?_⟩
        rw [Map.lookup_insert_eq_ite, if_pos rfl, eq_of_bound hb hworker]
  | fail pod nodeName hworker =>
      rcases hb with hcached | hb
      · exact Or.inl (Or.inl hcached)
      · -- this is the binding that goes without a record
        rw [Careful, hworker] at hok
        rw [eq_of_bound hb hworker]
        exact Or.inr hok
  | list _ _ _ _ hworker =>
      exact Or.inl (Or.inl (hother _ hworker fun _ _ => by simp only [ne_eq, reduceCtorEq,
        not_false_eq_true]))
  | select _ _ _ _ _ hworker =>
      exact Or.inl (Or.inl (hother _ hworker fun _ _ => by simp only [ne_eq, reduceCtorEq,
        not_false_eq_true]))
  | giveUp _ _ _ _ _ hworker =>
      exact Or.inl (Or.inl (hother _ hworker fun _ _ => by simp only [ne_eq, reduceCtorEq,
        not_false_eq_true]))
  | bind _ _ _ hworker =>
      exact Or.inl (Or.inl (hother _ hworker fun _ _ => by simp only [ne_eq, reduceCtorEq,
        not_false_eq_true]))
  -- A lost reply is excluded by the condition.
  | lose => exact absurd hok id
  | reject _ _ hworker =>
      exact Or.inl (Or.inl (hother _ hworker fun _ _ => by simp only [ne_eq, reduceCtorEq,
        not_false_eq_true]))
  | _ => exact Or.inl hb

/-- A binding is placed by being accepted. -/
theorem placed_origin (h : step c s a = some s') {b : Binding} (hb : Placed s' b) :
    Placed s b ∨ a = .bindPodToNode .accepted ∧ s.worker = .selected b.pod b.nodeName ∧
      ∃ v, s.api (podKey b.pod) = some v ∧ v.nodeName = "" := by
  rcases hb with ⟨name, hname⟩ | hworker
  · rcases cache_step h hname with hname | ⟨-, hworker, -⟩
    · exact Or.inl (Or.inl ⟨name, hname⟩)
    · exact Or.inl (Or.inr hworker)
  · cases effect_of_step h with
    | bind pod nodeName v hselected hv hnode =>
        rw [Worker.bound.injEq] at hworker
        rw [← hworker.1, ← hworker.2]
        exact Or.inr ⟨rfl, hselected, v, hv, hnode⟩
    | handle n rest _ =>
        rw [worker_onNotification] at hworker
        exact Or.inl (Or.inr hworker)
    | list | select | giveUp | lose | reject | mark | fail =>
        exact absurd hworker (by simp only [reduceCtorEq, not_false_eq_true])
    | _ => exact Or.inl (Or.inr hworker)

/-- The worker's view of the pods is the store's, or the list it took a moment
    ago. -/
theorem mem_views_iff (s : SystemState) (pods : List Pod) :
    pods ∈ s.views ↔ pods = s.storePods ∨ ∃ pod nodes, s.worker = .listed pod nodes pods := by
  rw [SystemState.views]
  split
  · next pod nodes qs hworker =>
      rw [List.mem_cons, List.mem_singleton, hworker]
      refine or_congr_right ⟨fun hp => ⟨pod, nodes, by rw [hp]⟩, ?_⟩
      rintro ⟨pod', nodes', hp⟩
      exact ((Worker.listed.injEq ..).mp hp).2.2.symm
  · next hworker =>
      rw [List.mem_singleton]
      exact ⟨Or.inl, fun h => h.elim id fun ⟨pod, nodes, hp⟩ => absurd hp (hworker pod nodes pods)⟩

/-- What the worker has listed it listed before, or from the store now. -/
theorem listed_step (h : step c s a = some s') {pod : Pod} {nodes : List K8sNode} {pods : List Pod}
    (hlisted : s'.worker = .listed pod nodes pods) :
    s.worker = .listed pod nodes pods ∨ nodes ⊆ c.nodes ∧ (nodes.map K8sNode.name).Nodup ∧
      pods.Perm s.storePods ∧ s'.storePods = s.storePods := by
  cases effect_of_step h with
  | list nodes' pods' pod' rest _ _ _ hnodes hnodup hpods =>
      rw [Worker.listed.injEq] at hlisted
      rw [← hlisted.2.1, ← hlisted.2.2]
      exact Or.inr ⟨hnodes, hnodup, hpods, rfl⟩
  | handle n rest _ =>
      rw [worker_onNotification] at hlisted
      exact Or.inl hlisted
  | select | giveUp | bind | lose | reject | mark | fail =>
      exact absurd hlisted (by simp only [reduceCtorEq, not_false_eq_true])
  | _ => exact Or.inl hlisted

/-- What the scheduler counts with after a step shows every bound pod that is
    shown before. -/
theorem shownOn_step (hw : WellFormed c s) (h : step c s a = some s') {v : Pod}
    {key : String × String} (hv : s'.api key = some v) (hnode : v.nodeName ≠ "")
    {pods : List Pod} (hpods : pods ∈ s'.views) :
    ∃ qs ∈ s.views, ShownOn qs v.toPodIdentity v.nodeName →
      ShownOn pods v.toPodIdentity v.nodeName := by
  have hw' := wellFormed_step hw h
  -- the store's version of a pod only gets newer, and a binding persists
  have hstore : ShownOn s.storePods v.toPodIdentity v.nodeName →
      ShownOn s'.storePods v.toPodIdentity v.nodeName := by
    rintro ⟨w, hmem, hid, hwnode⟩
    have hkey : podKey w = key := by
      rw [← podKey_of_api hw'.coherent hv]
      exact podKey_eq_of_identity hid
    have hshown := shown_step hw.coherent h
      (shown_of_store hw.coherent ((mem_storePods_iff hw.coherent w).mp hmem))
    rw [Shown, hkey] at hshown
    rcases seen_of_delivered (fun _ _ hf => hf.1) (hw'.coherent key).continuous hshown hv hid with
      ⟨w', hseen, hww', -⟩
    refine ⟨w', ?_, hww'.1.symm.trans hid, ?_⟩
    · rw [mem_storePods_iff hw'.coherent, podKey_of_store hw'.coherent hseen]
      exact hseen
    · rw [hww'.2 (by rw [hwnode]; exact hnode), hwnode]
  have hold : s.storePods ∈ s.views := (mem_views_iff s _).mpr (Or.inl rfl)
  rcases (mem_views_iff s' pods).mp hpods with rfl | ⟨pod, nodes, hlisted⟩
  · exact ⟨s.storePods, hold, hstore⟩
  · rcases listed_step h hlisted with hlisted | ⟨-, -, hperm, -⟩
    · exact ⟨pods, (mem_views_iff s pods).mpr (Or.inr ⟨pod, nodes, hlisted⟩), id⟩
    · refine ⟨s.storePods, hold, ?_⟩
      rintro ⟨w, hmem, hshown⟩
      exact ⟨w, hperm.mem_iff.mpr hmem, hshown⟩

/-- A careful step keeps every bound pod on record. The cases are those of the
    pods of the API server: one keeps its node, is new, or was just bound. -/
theorem accounted_step (hw : WellFormed c s) (hu : Unplaced s) (hacc : Accounted s)
    (h : step c s a = some s') (hok : Careful s a) : Accounted s' := by
  intro pods hpods key v' hv' hnode
  rcases api_step h hv' with ⟨v, hv, hid, hsame⟩ | ⟨hnew, -⟩ |
    ⟨pod, v, hworker, hkey, hv, -, hid, ⟨rfl, hbound⟩ | rfl⟩
  · -- the pod was bound before: it is still shown, or its record was kept
    rcases shownOn_step hw h hv' hnode hpods with ⟨qs, hqs, hmono⟩
    rcases hacc qs hqs key v hv (by rw [hsame]; exact hnode) with hshown | ⟨b, hb, hbid, hbnode⟩
    · rw [hid, hsame] at hshown
      exact Or.inl (hmono hshown)
    · rw [hid] at hbid
      rw [hsame] at hbnode
      rcases placed_of_placed hu h hok hb with hb | hreleased
      · exact Or.inr ⟨b, hb, hbid, hbnode⟩
      · have hbkey : podKey b.pod = key := by
          rw [← podKey_of_api hw.coherent hv]
          exact podKey_eq_of_identity (hbid.trans hid.symm)
        have hshown := hreleased ⟨v, by rw [hbkey]; exact hv, hid.trans hbid.symm⟩ qs hqs
        rw [hbid, hbnode] at hshown
        exact Or.inl (hmono hshown)
  · exact absurd hnew hnode
  · -- the worker has a record of the binding that was just accepted
    rw [Careful, hworker] at hok
    have hpod := hok v (by rw [hkey]; exact hv)
    exact Or.inr ⟨{ pod := pod, nodeName := v'.nodeName }, Or.inr hbound, hpod.symm.trans hid, rfl⟩
  · exact absurd hok id

theorem current_step (hw : WellFormed c s) (hu : Unplaced s) (hcur : Current s)
    (h : step c s a = some s') (hok : Careful s a) : Current s' := by
  intro b hb v' hv' hnode
  have horigin := placed_origin h hb
  rcases api_step h hv' with ⟨v, hv, hid, hsame⟩ | ⟨hnew, -⟩ |
    ⟨pod, v, hworker, hkey, hv, -, hid, ⟨rfl, hbound⟩ | rfl⟩
  · rw [← hid, ← hsame]
    rcases horigin with hb | ⟨-, -, w, hwv, hwnode⟩
    · exact hcur b hb v hv (by rw [hsame]; exact hnode)
    · -- the pod was not bound when its binding was accepted
      rw [hv, Option.some.injEq] at hwv
      rw [hwv, hwnode] at hsame
      exact absurd hsame.symm hnode
  · exact absurd hnew hnode
  · rw [Careful, hworker] at hok
    have hpod := hok v (by rw [hkey]; exact hv)
    rcases horigin with (⟨name, hname⟩ | hb) | ⟨-, hselected, -⟩
    · -- a binding of the cache under this key would have the worker's name
      have hbname : name = pod.name := by
        rw [← (hw.cached name b hname).1]
        exact congrArg Prod.snd hkey.symm
      have hnone := hu pod (by rw [hworker]; rfl)
      rw [← hbname, hname] at hnone
      exact absurd hnone (by simp only [reduceCtorEq, not_false_eq_true])
    · rw [hworker] at hb
      exact absurd hb (by simp only [reduceCtorEq, not_false_eq_true])
    · rw [hworker, Worker.selected.injEq] at hselected
      rw [← hselected.1]
      exact ⟨hid.symm.trans hpod, hselected.2⟩
  · exact absurd hok id

theorem placed_shown (hw : WellFormed c s) {b : Binding} (hb : Placed s b) : Shown s b.pod := by
  rcases hb with ⟨name, hname⟩ | hworker
  · exact (hw.cached name b hname).2.1
  · exact (hw.working b.pod (by rw [hworker]; rfl)).1

/-! ## The memory available is there -/

/-- What the worker has listed: some nodes, and pods in versions that are not
    older than those of the bindings in the cache. -/
structure Aligned (c : Cluster) (s : SystemState) (nodes : List K8sNode) (pods : List Pod) :
    Prop where
  nodes_subset : nodes ⊆ c.nodes
  nodes_nodup : (nodes.map K8sNode.name).Nodup
  keys_nodup : (pods.map podKey).Nodup
  same : ∀ q ∈ pods, ∀ b, Placed s b → ∀ v, s.api (podKey q) = some v →
    b.pod.toPodIdentity = v.toPodIdentity → q.toPodIdentity = v.toPodIdentity

theorem aligned_step (hw : WellFormed c s)
    (ha : ∀ pod nodes pods, s.worker = .listed pod nodes pods → Aligned c s nodes pods)
    (h : step c s a = some s') {pod : Pod} {nodes : List K8sNode} {pods : List Pod}
    (hlisted : s'.worker = .listed pod nodes pods) : Aligned c s' nodes pods := by
  have hw' := wellFormed_step hw h
  rcases listed_step h hlisted with hold | ⟨hsubset, hnodup, hperm, hstore⟩
  · -- no binding is placed while the worker has its list
    have hal := ha pod nodes pods hold
    refine ⟨hal.nodes_subset, hal.nodes_nodup, hal.keys_nodup, fun q hq b hb v' hv' hid => ?_⟩
    have hb : Placed s b := by
      refine (placed_origin h hb).resolve_right fun hselected => ?_
      rw [hold] at hselected
      exact absurd hselected.2.1 (by simp only [reduceCtorEq, not_false_eq_true])
    rcases api_step h hv' with ⟨v, hv, hvid, -⟩ | ⟨-, hfresh⟩ | ⟨_, _, hworker, -⟩
    · exact (hal.same q hq b hb v hv (hid.trans hvid.symm)).trans hvid
    · -- the pod of the binding was there before
      have hshown := Timeline.delivered_subset_versions _ (placed_shown hw hb)
      rw [podKey_eq_of_identity hid, podKey_of_api hw'.coherent hv'] at hshown
      exact absurd hid (hfresh _ hshown)
    · rw [hold] at hworker
      exact absurd hworker (by simp only [reduceCtorEq, not_false_eq_true])
  · refine ⟨hsubset, hnodup, (hperm.map podKey).nodup_iff.mpr (nodup_storePods hw.coherent),
      fun q hq b hb v hv hid => ?_⟩
    -- the store's version is not older than one that was shown
    have hshown := placed_shown hw' hb
    rw [Shown, podKey_eq_of_identity hid, podKey_of_api hw'.coherent hv] at hshown
    rcases seen_of_delivered (fun _ _ hf => hf.1) (hw'.coherent _).continuous hshown hv hid with
      ⟨w, hseen, -, hwv⟩
    have hq' := (mem_storePods_iff hw'.coherent q).mp (by rw [hstore]; exact hperm.mem_iff.mp hq)
    rw [SystemState.store, hseen, Option.some.injEq] at hq'
    rw [← hq']
    exact hwv.1

/-- The pods bound to a node request no more than any list of pods that has
    each of them. -/
theorem requestedRAM_boundPods_le (hw : WellFormed c s) {nodeName : String} {rows : List Pod}
    (hrows : ∀ v, s.api (podKey v) = some v → v.nodeName = nodeName →
      ∃ r ∈ rows, r.toPodIdentity = v.toPodIdentity) :
    requestedRAM (s.boundPods nodeName) ≤ requestedRAM rows := by
  have hn : ((s.boundPods nodeName).map podKey).Nodup :=
    (List.filter_sublist.map podKey).nodup (nodup_apiPods hw.coherent)
  refine sum_le_sum_of_keys hn fun v hv => ?_
  rw [SystemState.boundPods, List.mem_filter, mem_apiPods_iff hw.coherent,
    decide_eq_true_eq] at hv
  rcases hrows v hv.1 hv.2 with ⟨r, hr, hid⟩
  exact ⟨r, hr, podKey_eq_of_identity hid, by rw [hid]⟩

/-- The worker counts every pod that is bound to a node, with what it
    requests. -/
theorem requestedRAM_boundPods_le_assigned (hw : WellFormed c s) (hacc : Accounted s)
    (hcur : Current s) {pod : Pod} {nodes : List K8sNode} {pods : List Pod}
    {bindings : List Binding} (hlisted : s.worker = .listed pod nodes pods)
    (hal : Aligned c s nodes pods) (hperm : bindings.Perm (Map.values s.localBindingCache))
    {nodeName : String} (hne : nodeName ≠ "") (hapart : NamesTellApart pods bindings nodeName) :
    requestedRAM (s.boundPods nodeName) ≤
      requestedRAM (getAssignedPods (knownPods pods) bindings nodeName) := by
  have hassigned := distinctAssigned_of_namesTellApart hapart
  have hmem : ∀ b, b ∈ bindings ↔ ∃ name, s.localBindingCache.lookup name = some b :=
    fun b => hperm.mem_iff.trans (Map.mem_values_iff _ b)
  have hplaced : ∀ b, Placed s b → b ∈ bindings := by
    rintro b (hb | hb)
    · exact (hmem b).mpr hb
    · rw [hlisted] at hb
      exact absurd hb (by simp only [reduceCtorEq, not_false_eq_true])
  refine requestedRAM_boundPods_le hw fun v hv hnode => ?_
  have hshown := hacc pods ((mem_views_iff s pods).mpr (Or.inr ⟨pod, nodes, hlisted⟩)) (podKey v) v
    hv (by rw [hnode]; exact hne)
  -- the pod is assigned to the node as far as the worker can tell
  have hkey : podKey v ∈ (getAssignedPods (knownPods pods) bindings nodeName).map podKey := by
    rw [hassigned.mem_iff]
    rcases hshown with ⟨w, hw', hid, hwnode⟩ | ⟨b, hb, hbid, hbnode⟩
    · rw [← podKey_eq_of_identity hid]
      exact Or.inl ⟨w, findLast_of_nodup hal.keys_nodup hw', hwnode.trans hnode⟩
    · exact Or.inr ⟨b, hplaced b hb, hbnode.trans hnode, podKey_eq_of_identity hbid⟩
  rcases List.mem_map.mp hkey with ⟨q, hq, hqv⟩
  refine ⟨q, hq, ?_⟩
  -- and the version the worker counts is one of that pod
  rcases hassigned.version q hq with ⟨hlast, -⟩ | ⟨b, hb, -, hbq⟩
  · have hqmem := (mem_of_findLast hlast).1
    rcases hshown with ⟨w, hw', hid, -⟩ | ⟨b, hb, hbid, -⟩
    · have hwq : w = q := List.inj_on_of_nodup_map hal.keys_nodup hw' hqmem
        ((podKey_eq_of_identity hid).trans hqv.symm)
      rw [← hwq, hid]
    · exact hal.same q hqmem b hb v (by rw [hqv]; exact hv) hbid
  · rw [← hbq] at hqv ⊢
    exact (hcur b (Or.inl ((hmem b).mp hb)) v (by rw [hqv]; exact hv)
      (by rw [hnode]; exact hne)).1.symm

theorem mem_boundPods_iff (hw : WellFormed c s) (v : Pod) (nodeName : String) :
    v ∈ s.boundPods nodeName ↔ s.api (podKey v) = some v ∧ v.nodeName = nodeName := by
  rw [SystemState.boundPods, List.mem_filter, mem_apiPods_iff hw.coherent, decide_eq_true_eq]

/-- A pod bound after a step was bound before, or is the one the worker was
    at. -/
theorem boundPods_step (hw : WellFormed c s) (h : step c s a = some s') (hok : Careful s a)
    {v' : Pod} {nodeName : String} (hne : nodeName ≠ "") (hv' : v' ∈ s'.boundPods nodeName) :
    (∃ v ∈ s.boundPods nodeName, v.toPodIdentity = v'.toPodIdentity) ∨
      ∃ pod, s.worker = .selected pod nodeName ∧ pod.toPodIdentity = v'.toPodIdentity ∧
        s'.worker = .bound pod nodeName := by
  rw [mem_boundPods_iff (wellFormed_step hw h)] at hv'
  rcases hv' with ⟨hv', rfl⟩
  rcases api_step h hv' with ⟨v, hv, hid, hsame⟩ | ⟨hnew, -⟩ |
    ⟨pod, v, hworker, hkey, hv, -, hid, ⟨rfl, hbound⟩ | rfl⟩
  · refine Or.inl ⟨v, (mem_boundPods_iff hw v _).mpr ⟨?_, hsame⟩, hid⟩
    rw [podKey_eq_of_identity hid]
    exact hv
  · exact absurd hnew hne
  · rw [Careful, hworker] at hok
    exact Or.inr ⟨pod, hworker, (hok v (by rw [hkey]; exact hv)).symm.trans hid, hbound⟩
  · exact absurd hok id

/-- The node selected has room for the pod beside the pods bound to it. -/
def Reserved (c : Cluster) (s : SystemState) : Prop :=
  ∀ pod nodeName, s.worker = .selected pod nodeName → nodeName ≠ "" ∧
    ∀ node ∈ c.nodes, node.name = nodeName → requestedRAM (s.boundPods nodeName) +
      getRequestedRAMForPod pod.toPodIdentity ≤ node.allocatableMemory

/-- What the steps of a careful run keep up. -/
structure Booked (c : Cluster) (s : SystemState) : Prop where
  wellFormed : WellFormed c s
  unplaced : Unplaced s
  accounted : Accounted s
  current : Current s
  aligned : ∀ pod nodes pods, s.worker = .listed pod nodes pods → Aligned c s nodes pods
  reserved : Reserved c s
  fits : Fits c s

/-- The node that is selected has what the pod requests to spare. -/
theorem selectNode_spec {nodes : List K8sNode} (hn : (nodes.map K8sNode.name).Nodup)
    {pods : List Pod} {bindings : List Binding} {now : Int} {pod : Pod}
    (hne : selectNode c nodes pods bindings now pod ≠ "") :
    ∃ node ∈ nodes, node.name = selectNode c nodes pods bindings now pod ∧
      requestedRAM (getAssignedPods (knownPods pods) bindings node.name) +
        getRequestedRAMForPod pod.toPodIdentity < node.allocatableMemory := by
  rw [selectNode] at hne ⊢
  split_ifs at hne ⊢ with hempty
  · exact absurd rfl hne
  · cases hselect : c.strategy.select c.tenths now (buildState nodes pods bindings) pod with
    | none =>
        rw [hselect] at hne
        exact absurd rfl hne
    | some nodeName =>
        rcases select_fits hselect with ⟨n, hmem, hname, hfit⟩
        rw [buildState_eq hn] at hmem
        rcases List.mem_map.mp hmem with ⟨node, hnode, rfl⟩
        rw [ramAvailable_eq] at hfit
        refine ⟨node, hnode, hname, ?_⟩
        simp only [createNodeFrom] at hfit
        omega

/-- A careful step keeps the memory for the selected pod: nobody else binds pods
    in between. -/
theorem reserved_step (hb : Booked c s) (h : step c s a = some s') (hok : Careful s a) :
    Reserved c s' := by
  intro pod nodeName hselected
  -- nothing more is bound to the node while the pod waits to be
  have hkept : s.worker = .selected pod nodeName → nodeName ≠ "" ∧
      ∀ node ∈ c.nodes, node.name = nodeName → requestedRAM (s'.boundPods nodeName) +
        getRequestedRAMForPod pod.toPodIdentity ≤ node.allocatableMemory := by
    intro hworker
    rcases hb.reserved pod nodeName hworker with ⟨hne, hroom⟩
    refine ⟨hne, fun node hnode hname => ?_⟩
    have hle : requestedRAM (s'.boundPods nodeName) ≤ requestedRAM (s.boundPods nodeName) := by
      refine requestedRAM_boundPods_le (wellFormed_step hb.wellFormed h) fun v hv hvnode => ?_
      rcases boundPods_step hb.wellFormed h hok hne
        ((mem_boundPods_iff (wellFormed_step hb.wellFormed h) v nodeName).mpr ⟨hv, hvnode⟩) with
        hv | ⟨_, -, -, hbound⟩
      · exact hv
      · rw [hselected] at hbound
        exact absurd hbound (by simp only [reduceCtorEq, not_false_eq_true])
    have := hroom node hnode hname
    omega
  cases effect_of_step h with
  | select bindings now p nodes pods hworker hperm hne =>
      rw [Worker.selected.injEq] at hselected
      rw [← hselected.1, ← hselected.2]
      -- what the worker counts on the node is at least what is bound to it
      have hal := hb.aligned p nodes pods hworker
      rcases selectNode_spec hal.nodes_nodup hne with ⟨node, hnode, hname, hroom⟩
      refine ⟨hne, fun node' hnode' hname' => ?_⟩
      have hsame : node' = node := List.inj_on_of_nodup_map c.nodes_nodup hnode'
        (hal.nodes_subset hnode) (hname'.trans hname.symm)
      rw [Careful, hworker] at hok
      have hle := requestedRAM_boundPods_le_assigned hb.wellFormed hb.accounted hb.current hworker
        hal hperm (by rw [hname]; exact hne) (hok node hnode)
      rw [hname] at hle hroom
      have hpods : ∀ w, SystemState.boundPods { s with worker := w } =
          s.boundPods := fun _ => rfl
      rw [hpods, hsame]
      omega
  | handle n rest _ =>
      rw [worker_onNotification] at hselected
      exact hkept hselected
  | list | giveUp | bind | lose | reject | mark | fail =>
      exact absurd hselected (by simp only [reduceCtorEq, not_false_eq_true])
  | _ => exact hkept hselected

/-- A careful step keeps every node within its memory. Only a binding adds to a
    node, and what it adds was reserved. -/
theorem fits_step (hb : Booked c s) (h : step c s a = some s') (hok : Careful s a) :
    Fits c s' := by
  intro node hnode
  have hw' := wellFormed_step hb.wellFormed h
  have hne := c.nodes_named node hnode
  -- the pods bound before, with the one the worker may have bound
  have hrows : ∃ rows, requestedRAM rows ≤ node.allocatableMemory ∧
      (∀ v ∈ s.boundPods node.name, v ∈ rows) ∧
      ∀ pod, s.worker = .selected pod node.name → pod ∈ rows := by
    by_cases hworker : ∃ pod, s.worker = .selected pod node.name
    · rcases hworker with ⟨pod, hworker⟩
      refine ⟨pod :: s.boundPods node.name, ?_, fun v hv => List.mem_cons_of_mem pod hv,
        fun p hp => ?_⟩
      · have hroom := (hb.reserved pod node.name hworker).2 node hnode rfl
        simp only [requestedRAM, List.map_cons, List.sum_cons] at hroom ⊢
        omega
      · rw [hworker, Worker.selected.injEq] at hp
        rw [← hp.1]
        exact List.mem_cons_self
    · exact ⟨s.boundPods node.name, hb.fits node hnode, fun _ hv => hv,
        fun pod hp => absurd ⟨pod, hp⟩ hworker⟩
  rcases hrows with ⟨rows, hle, hbound, hselected⟩
  refine (requestedRAM_boundPods_le hw' fun v hv hvnode => ?_).trans hle
  rcases boundPods_step hb.wellFormed h hok hne
    ((mem_boundPods_iff hw' v node.name).mpr ⟨hv, hvnode⟩) with ⟨w, hw, hid⟩ | ⟨pod, hpod, hid, -⟩
  · exact ⟨w, hbound w hw, hid⟩
  · exact ⟨pod, hselected pod hpod, hid⟩

/-- The step lemma of the whole ledger. -/
theorem booked_step (hb : Booked c s) (h : step c s a = some s') (hok : Careful s a) :
    Booked c s' where
  wellFormed := wellFormed_step hb.wellFormed h
  unplaced := unplaced_step hb.unplaced h
  accounted := accounted_step hb.wellFormed hb.unplaced hb.accounted h hok
  current := current_step hb.wellFormed hb.unplaced hb.current h hok
  aligned := fun _ _ _ hlisted => aligned_step hb.wellFormed hb.aligned h hlisted
  reserved := reserved_step hb h hok
  fits := fits_step hb h hok

/-- The ledger of a cluster that starts within its memory. -/
theorem booked_initial {pods : List Pod} (h : Fits c (initial pods)) : Booked c (initial pods) := by
  have hidle : (initial pods).worker = .idle := rfl
  have hnone : ∀ b, ¬ Placed (initial pods) b := by
    rintro b (⟨name, hname⟩ | hworker)
    · exact absurd ((AList.lookup_empty name).symm.trans hname) (by simp only [reduceCtorEq,
        not_false_eq_true])
    · exact absurd hworker (by simp only [hidle, reduceCtorEq, not_false_eq_true])
  refine ⟨wellFormed_initial pods, fun p hp => ?_, fun qs hqs key v hv hnode => ?_,
    fun b hb => absurd hb (hnone b), fun p nodes qs hworker => ?_, fun p n hworker => ?_, h⟩
  · exact absurd hp (by simp only [hidle, Worker.pod, reduceCtorEq, not_false_eq_true])
  · -- the informer has all that the API server has
    left
    have hseen : (initial pods).store key = some v := by
      rw [← hv, SystemState.store, SystemState.api]
      rcases timeline_initial pods key with ht | ⟨p, -, ht⟩
      · rw [ht]; rfl
      · rw [ht]; rfl
    have hkey := podKey_of_store (wellFormed_initial (c := c) pods).coherent hseen
    rcases (mem_views_iff _ qs).mp hqs with rfl | ⟨p, nodes, hworker⟩
    · refine ⟨v, (mem_storePods_iff (wellFormed_initial (c := c) pods).coherent v).mpr ?_, rfl, rfl⟩
      rw [hkey]
      exact hseen
    · exact absurd hworker (by simp only [hidle, reduceCtorEq, not_false_eq_true])
  · exact absurd hworker (by simp only [hidle, reduceCtorEq, not_false_eq_true])
  · exact absurd hworker (by simp only [hidle, reduceCtorEq, not_false_eq_true])

/-- Where the pods bound at the start fit their nodes, so do the pods bound in
    every state reached by steps that do not lose sight of a binding. The list
    of pods the scheduler decides on is always late, and between a binding and
    the update that shows it the cache alone knows of it, so an entry that goes
    too early books the memory of a node twice. -/
theorem fits_of_careful (c : Cluster) (pods : List Pod) (s : SystemState)
    (hfits : Fits c (initial pods))
    (hr : ReachesWithin (step c) Careful (initial pods) s) : Fits c s :=
  (invariant_of_reachesWithin (fun _ _ _ _ hb hok hstep => booked_step hb hstep hok) hr
    (booked_initial hfits)).fits

/-- A cluster with one node of ten bytes. -/
def oneNode (strategy : Strategy) : Cluster where
  nodes := [tenBytes]
  nodes_nodup := by decide
  nodes_named := by decide
  schedulerName := "workspace-scheduler"
  namespace_ := "default"
  strategy := strategy
  tenths := fun _ _ => 0

/-- A pod of six bytes that waits to be scheduled. -/
def sixBytes (name : String) : Pod where
  namespace_ := "default"
  name := name
  uid := name
  schedulerName := "workspace-scheduler"
  creationTimestamp := 0
  memoryRequests := [6]
  generation := 0
  nodeName := ""
  labels := [("component", "workspace")]
  containers := []

/-- The worker schedules the next pod of the queue, which goes well but for the
    event. -/
def schedulePod (pods : List Pod) (bindings : List Binding) (eventCreated : Bool) : List Action :=
  [.listPods [tenBytes] pods, .selectNodeForPod bindings 0, .bindPodToNode .accepted,
    .markAsScheduled eventCreated]

/-- Two pods that do not fit on the node together. The second one is turned
    down while the first one is only in the cache, and again after the store
    shows it and the cache has dropped it. -/
theorem fits_of_careful_turned_down :
    ∃ s, runActions (step (oneNode .evenLoad))
      ([.handle, .handle] ++ schedulePod [sixBytes "a", sixBytes "b"] [] true ++
        [.listPods [tenBytes] [sixBytes "a", sixBytes "b"],
          .selectNodeForPod [{ pod := sixBytes "a", nodeName := "node" }] 0,
          .deliver ("default", "a") 0, .handle,
          .checkForAndEnqueuePendingPods [{ sixBytes "a" with nodeName := "node" }, sixBytes "b"],
          .listPods [tenBytes] [{ sixBytes "a" with nodeName := "node" }, sixBytes "b"],
          .selectNodeForPod [] 0])
      (initial [sixBytes "b", sixBytes "a"]) = some s ∧ Fits (oneNode .evenLoad) s := by
  refine exists_run_of_any (fun _ => true) (by decide +kernel) fun s hrun _ => ?_
  exact fits_of_careful _ _ s (by decide +kernel)
    (reachesWithin_of_runActions _ _ _ (by decide +kernel) hrun)

/-- The first pod is bound and its event cannot be created. The second one is
    bound to the same node. -/
theorem not_fits_event_failed :
    ¬ ∀ (c : Cluster) (pods : List Pod) (s : SystemState), Fits c (initial pods) →
      ReachesWithin (step c) (fun _ _ => True) (initial pods) s → Fits c s := by
  intro hall
  rcases exists_of_runActions_any (step (oneNode .evenLoad))
    (([.handle, .handle] : List Action) ++ schedulePod [sixBytes "a", sixBytes "b"] [] false ++
      schedulePod [sixBytes "a", sixBytes "b"] [] true)
    (initial [sixBytes "b", sixBytes "a"])
    (fun s => decide (requestedRAM (s.boundPods "node") = 12)) (by decide +kernel)
    with ⟨s, hrun, hbooked⟩
  have hfits := hall (oneNode .evenLoad) [sixBytes "b", sixBytes "a"] s (by decide +kernel)
    (reaches_of_runActions hrun) tenBytes (List.mem_singleton_self _)
  have hname : tenBytes.name = "node" := rfl
  rw [hname, of_decide_eq_true hbooked] at hfits
  exact absurd hfits (by decide)

/-- The same when every event is created, but a handler drops the first pod's
    binding between the listing of the pods and that of the bindings. -/
example : (runActions (step (oneNode .evenLoad))
    (.handle :: .handle :: schedulePod [sixBytes "a", sixBytes "b"] [] true ++
      ([.listPods [tenBytes] [sixBytes "a", sixBytes "b"], .deliver ("default", "a") 0, .handle,
        .selectNodeForPod [] 0, .bindPodToNode .accepted] : List Action))
    (initial [sixBytes "b", sixBytes "a"])).any
      (fun s => decide (requestedRAM (s.boundPods "node") = 12)) = true := by decide +kernel

end Scheduler

end Nxpod
