import Nxpod.Scheduler.Booking

/-!
# The Local Binding Cache

An entry of the scheduler's cache of bindings leaves it in one place: the
handler of an update that shows a pod of its name on a node. So the entry of a
pod stays for good if the informer's store loses the pod without such an
update, be it gone or replaced by another pod that is not bound yet. The
handlers do nothing when a pod is gone. The same happens when the worker adds
the entry after the store has lost the pod already.

A pod that is created under the name later is then dropped as scheduled each
time it is taken from the queue (`not_live_recreated`).

`Tracks` says that a step does neither of the two. In a run of such steps, once
all is delivered, every entry is of a pod that is there and no pending pod has
its name in the cache.

## Main definitions

* `Settled`: All versions are delivered and all handlers have run.
* `UpdateWaiting`: An update that will remove the entries of a name.
* `Tracked`: The entry of a pod will be removed, or the store has the pod.
* `Tracks`: A step that does not let an entry go astray.
* `BoundOnce`: The pod of a placed binding is bound while it is there.
* `TrackedInv`: The invariant of a run whose steps keep track: every entry of
  the cache is of a pod that is tracked.

## Theorems

* `tracked_step`, `boundOnce_step`: What a step preserves.
* `live_of_tracks`: The cache of a settled state reached by such steps.
* `not_live_recreated`: A pod that is never scheduled.
-/

namespace Nxpod

namespace Scheduler

open Transition

/-- All versions are delivered and all handlers have run. -/
def Settled (s : SystemState) : Prop :=
  (∀ t ∈ Map.values s.pods, t.waiting = []) ∧ s.notifications = []

instance (s : SystemState) : Decidable (Settled s) :=
  inferInstanceAs (Decidable ((∀ t ∈ Map.values s.pods, t.waiting = []) ∧ s.notifications = []))

/-- A handler is going to remove the entry under a name. -/
def UpdateWaiting (s : SystemState) (name : String) : Prop :=
  ∃ n ∈ s.notifications, n.removes = some name

/-- The informer's store has this pod, or its entry is going to be removed. -/
def Tracked (s : SystemState) (p : Pod) : Prop :=
  (∃ w ∈ s.store (podKey p), w.toPodIdentity = p.toPodIdentity) ∨ UpdateWaiting s p.name

/-- What the store has of a pod after a delivery: the pod, or another one that
    the handlers are told of as an update, on a node. -/
def Replaced (s : SystemState) (p : Pod) (seen : Option Pod) : Prop :=
  ∃ w ∈ seen, w.toPodIdentity = p.toPodIdentity ∨
    w.nodeName ≠ "" ∧ s.store (podKey p) ≠ none

/-- A step that does not let an entry of the cache go astray. -/
def Tracks (s : SystemState) : Action → Prop
  | .deliver key n => ∀ b ∈ Map.values s.localBindingCache, podKey b.pod = key →
      UpdateWaiting s b.pod.name ∨ Replaced s b.pod ((s.timeline key).deliver n).seen
  | .markAsScheduled true => match s.worker with
    | .bound pod _ => Tracked s pod
    | _ => True
  | _ => True

instance (s : SystemState) (name : String) : Decidable (UpdateWaiting s name) :=
  inferInstanceAs (Decidable (∃ n ∈ s.notifications, n.removes = some name))

instance (s : SystemState) (p : Pod) : Decidable (Tracked s p) :=
  inferInstanceAs (Decidable ((∃ w ∈ s.store (podKey p), w.toPodIdentity = p.toPodIdentity) ∨
    UpdateWaiting s p.name))

instance (s : SystemState) (p : Pod) (seen : Option Pod) : Decidable (Replaced s p seen) :=
  inferInstanceAs (Decidable (∃ w ∈ seen, w.toPodIdentity = p.toPodIdentity ∨
    w.nodeName ≠ "" ∧ s.store (podKey p) ≠ none))

instance (s : SystemState) : (a : Action) → Decidable (Tracks s a)
  | .create _ | .update _ | .delete _ | .resync _ | .handle | .listPods ..
  | .checkForAndEnqueuePendingPods _ | .selectNodeForPod .. | .bindPodToNode _
  | .markAsScheduled false => isTrue trivial
  | .deliver key n =>
      inferInstanceAs (Decidable (∀ b ∈ Map.values s.localBindingCache, podKey b.pod = key →
        UpdateWaiting s b.pod.name ∨ Replaced s b.pod ((s.timeline key).deliver n).seen))
  | .markAsScheduled true => match h : s.worker with
    | .bound pod _ => decidable_of_iff (Tracked s pod) (by rw [Tracks, h])
    | .idle | .listed .. | .selected .. => isTrue (by rw [Tracks, h]; trivial)

/-! ## Entries do not go astray -/

variable {c : Cluster} {s s' : SystemState} {a : Action}

/-- An update that is waiting is still waiting when more notifications are. -/
theorem updateWaiting_mono {name : String} (h : UpdateWaiting s name)
    (hsub : s.notifications ⊆ s'.notifications) : UpdateWaiting s' name := by
  rcases h with ⟨n, hn, hname⟩
  exact ⟨n, hsub hn, hname⟩

/-- A pod stays tracked as long as the store keeps what it has for the pod and
    no notification is lost. -/
theorem tracked_mono {p : Pod} (h : Tracked s p) (hstore : s'.store (podKey p) = s.store (podKey p))
    (hsub : s.notifications ⊆ s'.notifications) : Tracked s' p := by
  refine h.imp ?_ fun hwaiting => updateWaiting_mono hwaiting hsub
  rw [hstore]
  exact id

theorem store_push (s : SystemState) (key key' : String × String) (v : Option Pod) :
    (s.push key v).store key' = s.store key' := by
  rw [SystemState.store, SystemState.push, timeline_setTimeline]
  split_ifs with hkey
  · rw [Timeline.seen_push, hkey]
    rfl
  · rfl

/-- An entry that is there before and after a step stays tracked. -/
theorem tracked_step (hw : WellFormed c s) (h : step c s a = some s') (hok : Tracks s a)
    {name : String} {b : Binding} (hb : s.localBindingCache.lookup name = some b)
    (hb' : s'.localBindingCache.lookup name = some b) (ht : Tracked s b.pod) :
    Tracked s' b.pod := by
  have hbname := (hw.cached name b hb).1
  have hw' := wellFormed_step hw h
  cases effect_of_step h with
  | deliver key n =>
      have hsub := List.subset_append_left s.notifications
        (notificationsOf (s.store key) ((s.timeline key).deliver n).seen)
      have htimeline := timeline_setTimeline s key (podKey b.pod) ((s.timeline key).deliver n)
      split_ifs at htimeline with hkey
      · rcases hok b ((Map.mem_values_iff _ b).mpr ⟨name, hb⟩) hkey with
          hwaiting | ⟨w, hseen, hid | ⟨hnode, hold⟩⟩
        · exact Or.inr (updateWaiting_mono hwaiting hsub)
        · exact Or.inl ⟨w, (congrArg Timeline.seen htimeline).trans hseen, hid⟩
        · -- the handlers are told of the pod that is there now
          right
          have hwkey : podKey w = podKey b.pod := podKey_of_store hw'.coherent
            ((congrArg Timeline.seen htimeline).trans hseen)
          rcases Option.ne_none_iff_exists'.mp hold with ⟨old, hold⟩
          rw [← hkey]
          refine ⟨.updated w, List.mem_append_right _ ?_, ?_⟩
          · rw [hold, hkey, Option.mem_def.mp hseen]
            exact List.mem_singleton_self _
          · rw [Notification.removes, if_pos hnode]
            exact congrArg (fun key : String × String => some key.2) hwkey
      · exact tracked_mono ht (congrArg Timeline.seen htimeline) hsub
  | handle n rest hn =>
      -- the store stays as it is, and one notification fewer waits
      refine ht.imp ?_ ?_
      · rw [SystemState.store, SystemState.store, SystemState.timeline, SystemState.timeline,
          pods_onNotification]
        exact id
      · rintro ⟨m, hm, hremoves⟩
        rw [hn, List.mem_cons] at hm
        rcases hm with rfl | hm
        · -- the handler would have removed the entry
          rw [hbname] at hremoves
          rw [lookup_onNotification, if_pos hremoves] at hb'
          exact absurd hb' (by simp only [reduceCtorEq, not_false_eq_true])
        · exact ⟨m, by rw [notifications_onNotification]; exact hm, hremoves⟩
  | create | update | delete | bind | lose =>
      exact tracked_mono ht (store_push s _ _ _) (List.Subset.refl _)
  | resync => exact tracked_mono ht rfl (List.subset_append_left _ _)
  | enqueue | drop | list | select | giveUp | reject | mark | fail =>
      exact tracked_mono ht rfl (List.Subset.refl _)

/-- The pod of a placed binding is bound as long as it is there. -/
def BoundOnce (s : SystemState) : Prop :=
  ∀ b, Placed s b → ∀ v, s.api (podKey b.pod) = some v →
    v.toPodIdentity = b.pod.toPodIdentity → v.nodeName ≠ ""

/-- A node is selected by its name. -/
def Named (s : SystemState) : Prop :=
  ∀ pod nodeName, s.worker = .selected pod nodeName → nodeName ≠ ""

/-- A node that is selected has a name, also after the step. -/
theorem named_step (hn : Named s) (h : step c s a = some s') : Named s' := by
  intro pod nodeName hselected
  cases effect_of_step h with
  | select bindings now p nodes pods _ _ hne =>
      rw [Worker.selected.injEq] at hselected
      rw [← hselected.2]
      exact hne
  | handle n rest _ =>
      rw [worker_onNotification] at hselected
      exact hn pod nodeName hselected
  | list | giveUp | bind | lose | reject | mark | fail =>
      exact absurd hselected (by simp only [reduceCtorEq, not_false_eq_true])
  | _ => exact hn pod nodeName hselected

/-- Once a binding is accepted the API server's pod is bound. -/
theorem api_of_accepted {pod : Pod} {nodeName : String} {v : Pod}
    (h : step c s (.bindPodToNode .accepted) = some s')
    (hworker : s.worker = .selected pod nodeName) (hv : s'.api (podKey pod) = some v) :
    v.nodeName = nodeName := by
  cases effect_of_step h with
  | bind pod' nodeName' w hworker' hw hnode =>
      rw [hworker, Worker.selected.injEq] at hworker'
      have hpush := (api_push s (podKey pod') (podKey pod)
        (some { w with nodeName := nodeName' })).symm.trans hv
      rw [if_pos (by rw [hworker'.1]), Option.some.injEq] at hpush
      rw [← hpush, hworker'.2]

/-- The pod of a placed binding stays bound. A pod keeps its node, one that is new under the key
    has another identity, and a binding that was just placed was just accepted. -/
theorem boundOnce_step (hw : WellFormed c s) (hn : Named s) (hbound : BoundOnce s)
    (h : step c s a = some s') : BoundOnce s' := by
  intro b hb v' hv' hid
  rcases placed_origin h hb with hb | ⟨rfl, hselected, -⟩
  · rcases api_step h hv' with ⟨v, hv, hvid, hsame⟩ | ⟨-, hfresh⟩ | ⟨pod, _, hworker, -⟩
    · rw [← hsame]
      exact hbound b hb v hv (hvid.trans hid)
    · -- a pod that is new has another identity
      have hshown := Timeline.delivered_subset_versions _ (placed_shown hw hb)
      exact absurd hid.symm (hfresh _ hshown)
    · exact hn pod _ hworker
  · rw [api_of_accepted h hselected hv']
    exact hn _ _ hselected

/-! ## The cache of a settled state -/

/-- Every binding of the cache is of a pod that is there. -/
def Live (s : SystemState) : Prop :=
  ∀ b ∈ Map.values s.localBindingCache,
    ∃ v ∈ s.api (podKey b.pod), v.toPodIdentity = b.pod.toPodIdentity

/-- No pod to schedule has its name in the cache, so the worker does not drop
    it. -/
def NotDropped (c : Cluster) (s : SystemState) : Prop :=
  ∀ p ∈ s.apiPods, isPendingPodWeHaveToSchedule c p = true →
    s.localBindingCache.lookup p.name = none

/-- The invariant of a run whose steps keep track: every entry of the cache is
    of a pod that is tracked. -/
structure TrackedInv (c : Cluster) (s : SystemState) : Prop where
  wellFormed : WellFormed c s
  named : Named s
  boundOnce : BoundOnce s
  tracked : ∀ name b, s.localBindingCache.lookup name = some b → Tracked s b.pod

/-- The step lemma: a step that neither loses a pod silently nor adds an entry
    too late keeps the invariant. -/
theorem trackedInv_step (hi : TrackedInv c s) (h : step c s a = some s') (hok : Tracks s a) :
    TrackedInv c s' := by
  refine ⟨wellFormed_step hi.wellFormed h, named_step hi.named h,
    boundOnce_step hi.wellFormed hi.named hi.boundOnce h, fun name b hb => ?_⟩
  rcases cache_step h hb with hold | ⟨rfl, hworker, -⟩
  · exact tracked_step hi.wellFormed h hok hold hb (hi.tracked name b hold)
  · -- the entry is new, and was tracked when the worker added it
    rw [Tracks, hworker] at hok
    cases effect_of_step h with
    | mark pod nodeName _ => exact tracked_mono hok rfl (List.Subset.refl _)

theorem trackedInv_initial (pods : List Pod) : TrackedInv c (initial pods) := by
  have hnone : ∀ name, (initial pods).localBindingCache.lookup name = none :=
    fun name => AList.lookup_empty name
  refine ⟨wellFormed_initial pods, fun pod n hworker => ?_, fun b hb => ?_, fun name b hb => ?_⟩
  · exact absurd hworker (by simp only [initial, reduceCtorEq, not_false_eq_true])
  · rcases hb with ⟨name, hname⟩ | hworker
    · exact absurd ((hnone name).symm.trans hname) (by simp only [reduceCtorEq,
        not_false_eq_true])
    · exact absurd hworker (by simp only [initial, reduceCtorEq, not_false_eq_true])
  · exact absurd ((hnone name).symm.trans hb) (by simp only [reduceCtorEq, not_false_eq_true])

/-- Once all is delivered the store shows what the API server has. -/
theorem store_eq_api (hs : Settled s) (key : String × String) : s.store key = s.api key := by
  refine Timeline.seen_eq_current ?_
  rw [SystemState.timeline]
  cases hkey : s.pods.lookup key with
  | none => rfl
  | some t => exact hs.1 t ((Map.mem_values_iff s.pods t).mpr ⟨key, hkey⟩)

/-- Once all is delivered, a tracked entry is of a pod that is there. -/
theorem live_of_trackedInv (hi : TrackedInv c s) (hs : Settled s) : Live s := by
  intro b hb
  rcases (Map.mem_values_iff _ b).mp hb with ⟨name, hname⟩
  rcases hi.tracked name b hname with hstore | ⟨n, hn, -⟩
  · rw [store_eq_api hs] at hstore
    exact hstore
  · rw [hs.2] at hn
    exact absurd hn List.not_mem_nil

/-- A binding under the name of a pod to schedule would be one of that pod,
    which is not bound. -/
theorem notDropped_of_live (hi : TrackedInv c s) (hlive : Live s) : NotDropped c s := by
  intro p hp hpending
  by_contra hne
  rcases Option.ne_none_iff_exists'.mp hne with ⟨b, hb⟩
  rcases hi.wellFormed.cached p.name b hb with ⟨hname, -, hours⟩
  rcases hlive b ((Map.mem_values_iff _ b).mpr ⟨p.name, hb⟩) with ⟨v, hv, hid⟩
  simp only [isPendingPodWeHaveToSchedule, Bool.and_eq_true, decide_eq_true_eq] at hpending hours
  have hkey : podKey b.pod = podKey p := Prod.ext (hours.2.trans hpending.2.symm) hname
  have hpapi := (mem_apiPods_iff hi.wellFormed.coherent p).mp hp
  rw [hkey, Option.mem_def, hpapi, Option.some.injEq] at hv
  refine hi.boundOnce b (Or.inl ⟨p.name, hb⟩) p ?_ (hv ▸ hid) hpending.1.1
  rw [hkey]
  exact hpapi

/-- In a run whose steps let no entry go astray, once all is delivered the cache
    has only bindings of pods that are there, and no pod to schedule is dropped.
    What takes an entry out later on is an update that shows the pod on its
    node, so for a pod that is never shown there it stays, and with it the
    memory and the name that it holds. -/
theorem live_of_tracks (c : Cluster) (pods : List Pod) (s : SystemState)
    (hr : ReachesWithin (step c) Tracks (initial pods) s) (hs : Settled s) :
    Live s ∧ NotDropped c s := by
  have hinv : TrackedInv c s :=
    invariant_of_reachesWithin (fun _ _ _ _ hi hok hstep => trackedInv_step hi hstep hok) hr
      (trackedInv_initial pods)
  exact ⟨live_of_trackedInv hinv hs, notDropped_of_live hinv (live_of_trackedInv hinv hs)⟩

/-- A pod that is bound, shown as bound, deleted and created anew. -/
theorem live_of_tracks_recreated :
    ∃ s, runActions (step (oneNode .evenLoad))
      ([.handle] ++ schedulePod [sixBytes "a"] [] true ++
        [.deliver ("default", "a") 0, .delete ("default", "a"), .handle,
          .create { sixBytes "a" with uid := "b" }, .deliver ("default", "a") 1,
          .deliver ("default", "a") 0, .handle, .handle])
      (initial [sixBytes "a"]) = some s ∧ Live s ∧ NotDropped (oneNode .evenLoad) s := by
  refine exists_run_of_any (fun s => decide (Settled s)) (by decide +kernel) fun s hrun hs => ?_
  exact live_of_tracks _ _ s (reachesWithin_of_runActions _ _ _ (by decide +kernel) hrun)
    (of_decide_eq_true hs)

/-- A pod is bound, deleted and created anew before the informer learns that
    it was bound. The new pod is dropped whenever the worker takes it from the
    queue. -/
theorem not_live_recreated :
    ¬ ∀ (c : Cluster) (pods : List Pod) (s : SystemState),
      ReachesWithin (step c) (fun _ _ => True) (initial pods) s → Settled s →
        Live s ∧ NotDropped c s := by
  intro hall
  rcases exists_of_runActions_any (step (oneNode .evenLoad))
    (([.handle] : List Action) ++ schedulePod [sixBytes "a"] [] true ++
      ([.delete ("default", "a"), .create { sixBytes "a" with uid := "b" },
        .deliver ("default", "a") 0, .handle,
        .checkForAndEnqueuePendingPods [{ sixBytes "a" with uid := "b" }], .listPods [] [],
        .checkForAndEnqueuePendingPods [{ sixBytes "a" with uid := "b" }]] : List Action))
    (initial [sixBytes "a"]) (fun s => decide (Settled s) &&
      decide (s.apiPods = [{ sixBytes "a" with uid := "b" }]) &&
      decide (s.queue = [{ sixBytes "a" with uid := "b" }]) &&
      decide (s.localBindingCache.lookup "a" ≠ none)) (by decide +kernel) with ⟨s, hrun, hs⟩
  simp only [Bool.and_eq_true, decide_eq_true_eq] at hs
  rcases hs with ⟨⟨⟨hsettled, hpods⟩, -⟩, hcached⟩
  have hlive := hall _ _ s (reaches_of_runActions hrun) hsettled
  refine hcached (hlive.2 { sixBytes "a" with uid := "b" } ?_ (by decide))
  rw [hpods]
  exact List.mem_singleton_self _

end Scheduler

end Nxpod
