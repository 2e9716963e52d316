import Nxpod.Scheduler.Cluster

/-!
# What the Informer Has Shown

What a step of the cluster does to the versions of a pod, and what follows for
those the scheduler sees.

A version follows from the one before it or starts a pod that was never there,
so a pod has one lifetime. Whatever pod the scheduler holds, in a notification,
the queue, the worker or the cache, the informer has shown it, and what was
shown stays shown. The pods of the API server change in three ways only: a pod
keeps its identity and its node, is new and not bound, or was just bound by the
worker.

## Main definitions

* `Coherent`: The versions of the pods under one namespace and name.
* `TimelineStep`: What can happen to them in one step.
* `Shown`: The informer has shown this version of a pod.
* `WellFormed`: Every pod the scheduler holds was shown.

## Theorems

* `timeline_step`: What a step does to the versions of a pod.
* `shown_step`: What was shown stays shown.
* `notifications_step`, `queue_step`, `worker_step`, `cache_step`: Where the
  pods the scheduler holds come from.
* `wellFormed_step`: A step keeps the state well formed: what the worker, the
  queue and the cache hold was shown.
* `wellFormed_reaches`: Every state reached is well formed.
* `api_step`: Where the pods of the API server come from.
-/

namespace Nxpod

namespace Scheduler

open Transition

/-! ## The versions of a pod -/

/-- A version that may come next: it follows from the latest one, or is of a
    pod that was never there. -/
def MayCome (key : String × String) (t : Timeline Pod) (v : Option Pod) : Prop :=
  ∀ p, v = some p → podKey p = key ∧ ((∃ b, t.current = some b ∧ Follows b p) ∨
    ∀ w, some w ∈ t.versions → w.toPodIdentity ≠ p.toPodIdentity)

/-- The versions are of pods with this namespace and name, each with one
    lifetime. -/
structure Coherent (key : String × String) (t : Timeline Pod) : Prop where
  keyed : ∀ v, some v ∈ t.versions → podKey v = key
  continuous : Continuous Pod.toPodIdentity Follows t.versions

/-- What can happen to the versions of a pod in one step. -/
inductive TimelineStep (key : String × String) (t : Timeline Pod) : Timeline Pod → Prop
  | same : TimelineStep key t t
  | push (v : Option Pod) (h : MayCome key t v) : TimelineStep key t (t.push v)
  | deliver (n : Nat) : TimelineStep key t (t.deliver n)

theorem coherent_of_timelineStep {key : String × String} {t t' : Timeline Pod}
    (hc : Coherent key t) (h : TimelineStep key t t') : Coherent key t' := by
  cases h with
  | same => exact hc
  | push v hv =>
      refine ⟨fun w hw => ?_, hc.continuous, fun p hp => ?_⟩
      · rw [Timeline.versions_push, List.mem_cons] at hw
        rcases hw with hw | hw
        · exact (hv w hw.symm).1
        · exact hc.keyed w hw
      · refine (hv p hp).2.imp_left ?_
        rintro ⟨b, hb, hbp⟩
        exact ⟨b, Option.join_eq_some_iff.mp hb, hbp⟩
  | deliver n =>
      refine ⟨?_, ?_⟩
      · rw [Timeline.versions_deliver]
        exact hc.keyed
      · rw [Timeline.versions_deliver]
        exact hc.continuous

theorem delivered_of_timelineStep {key : String × String} {t t' : Timeline Pod}
    (h : TimelineStep key t t') : t.delivered ⊆ t'.delivered := by
  cases h with
  | same => exact List.Subset.refl _
  | push v _ => exact List.Subset.refl _
  | deliver n => exact Timeline.delivered_subset_deliver t n

theorem timeline_setTimeline (s : SystemState) (key key' : String × String) (t : Timeline Pod) :
    (s.setTimeline key t).timeline key' = if key' = key then t else s.timeline key' := by
  rw [SystemState.timeline, SystemState.setTimeline, Map.lookup_insert_eq_ite]
  split_ifs with hkey
  · rfl
  · rfl

theorem timelineStep_setTimeline {s : SystemState} {key : String × String} {t : Timeline Pod}
    (h : TimelineStep key (s.timeline key) t) (key' : String × String) :
    TimelineStep key' (s.timeline key') ((s.setTimeline key t).timeline key') := by
  rw [timeline_setTimeline]
  split_ifs with hkey
  · rw [hkey]
    exact h
  · exact .same

variable {c : Cluster} {s s' : SystemState} {a : Action}

/-- What a step does to the versions of a pod. -/
theorem timeline_step (hc : ∀ key, Coherent key (s.timeline key)) (h : step c s a = some s')
    (key : String × String) : TimelineStep key (s.timeline key) (s'.timeline key) := by
  have hbind : ∀ (pod v : Pod) (nodeName : String), s.api (podKey pod) = some v →
      v.nodeName = "" → MayCome (podKey pod) (s.timeline (podKey pod))
        (some { v with nodeName := nodeName }) := by
    intro pod v nodeName hv hnode p hp
    have hkey := (hc (podKey pod)).keyed v (Timeline.mem_versions_of_current hv)
    rw [← Option.some.inj hp]
    exact ⟨hkey, Or.inl ⟨v, hv, rfl, fun hne => absurd hnode hne⟩⟩
  cases effect_of_step h with
  | create pod hnone hnode hfresh =>
      refine timelineStep_setTimeline (.push _ fun p hp => ?_) key
      rw [← Option.some.inj hp]
      exact ⟨rfl, Or.inr fun w hw hid => hfresh w hw (congrArg PodIdentity.uid hid)⟩
  | update pod v hv hid hnode =>
      refine timelineStep_setTimeline (.push _ fun p hp => ?_) key
      rw [← Option.some.inj hp]
      exact ⟨rfl, Or.inl ⟨v, hv, hid, fun _ => hnode.symm⟩⟩
  | delete k =>
      exact timelineStep_setTimeline (.push _ fun p hp => absurd hp (by simp only [reduceCtorEq,
        not_false_eq_true])) key
  | deliver k n => exact timelineStep_setTimeline (.deliver n) key
  -- a binding follows from the version that was not bound
  | bind pod nodeName v _ hv hnode =>
      exact timelineStep_setTimeline (.push _ (hbind pod v nodeName hv hnode)) key
  | lose pod nodeName v _ hv hnode =>
      exact timelineStep_setTimeline (.push _ (hbind pod v nodeName hv hnode)) key
  | handle n rest _ =>
      rw [SystemState.timeline, SystemState.timeline, pods_onNotification]
      exact .same
  | resync | enqueue | drop | list | select | giveUp | reject | mark | fail => exact .same

/-! ## The pods the scheduler holds -/

/-- A pod of a list is the pod of its key, since every pod is kept under its own
    key. -/
theorem mem_pods_iff (pods : Map (String × String) (Timeline Pod)) (f : Timeline Pod → Option Pod)
    (hf : f Timeline.empty = none) (p : Pod) :
    p ∈ (Map.values pods).filterMap f ↔
      ∃ key, f ((pods.lookup key).getD Timeline.empty) = some p := by
  rw [List.mem_filterMap]
  constructor
  · rintro ⟨t, ht, hp⟩
    rcases (Map.mem_values_iff pods t).mp ht with ⟨key, hkey⟩
    exact ⟨key, by rw [hkey, Option.getD_some, hp]⟩
  · rintro ⟨key, hp⟩
    cases hkey : pods.lookup key with
    | none =>
        rw [hkey, Option.getD_none, hf] at hp
        exact absurd hp (by simp only [reduceCtorEq, not_false_eq_true])
    | some t =>
        rw [hkey, Option.getD_some] at hp
        exact ⟨t, (Map.mem_values_iff pods t).mpr ⟨key, hkey⟩, hp⟩

theorem podKey_of_api (hc : ∀ key, Coherent key (s.timeline key)) {key : String × String} {p : Pod}
    (h : s.api key = some p) : podKey p = key :=
  (hc key).keyed p (Timeline.mem_versions_of_current h)

theorem podKey_of_store (hc : ∀ key, Coherent key (s.timeline key)) {key : String × String}
    {p : Pod} (h : s.store key = some p) : podKey p = key :=
  (hc key).keyed p (Timeline.delivered_subset_versions _ (Timeline.mem_delivered_of_seen h))

theorem mem_storePods_iff (hc : ∀ key, Coherent key (s.timeline key)) (p : Pod) :
    p ∈ s.storePods ↔ s.store (podKey p) = some p := by
  rw [SystemState.storePods, mem_pods_iff s.pods Timeline.seen rfl]
  exact ⟨fun ⟨key, hp⟩ => by rw [podKey_of_store hc hp]; exact hp, fun hp => ⟨podKey p, hp⟩⟩

/-- Listing the API server's pods gives what looking up gives. -/
theorem mem_apiPods_iff (hc : ∀ key, Coherent key (s.timeline key)) (p : Pod) :
    p ∈ s.apiPods ↔ s.api (podKey p) = some p := by
  rw [SystemState.apiPods, mem_pods_iff s.pods Timeline.current rfl]
  exact ⟨fun ⟨key, hp⟩ => by rw [podKey_of_api hc hp]; exact hp, fun hp => ⟨podKey p, hp⟩⟩

/-- The informer has shown this version of the pod. -/
def Shown (s : SystemState) (p : Pod) : Prop :=
  some p ∈ (s.timeline (podKey p)).delivered

/-- What was shown stays shown. -/
theorem shown_step (hc : ∀ key, Coherent key (s.timeline key)) (h : step c s a = some s') {p : Pod}
    (hp : Shown s p) : Shown s' p :=
  delivered_of_timelineStep (timeline_step hc h (podKey p)) hp

theorem shown_of_store (hc : ∀ key, Coherent key (s.timeline key)) {key : String × String} {p : Pod}
    (h : s.store key = some p) : Shown s p := by
  rw [Shown, podKey_of_store hc h]
  exact Timeline.mem_delivered_of_seen h

/-- The version of a pod the handlers are told of. -/
def Notification.shows : Notification → Option Pod
  | .added pod => some pod
  | .updated pod => some pod
  | .deleted _ => none

theorem shows_notificationsOf {old new : Option Pod} {n : Notification} {p : Pod}
    (hn : n ∈ notificationsOf old new) (hp : n.shows = some p) : new = some p := by
  cases old <;> cases new <;>
    simp only [notificationsOf, List.mem_singleton, List.not_mem_nil] at hn <;>
    rw [hn, Notification.shows] at hp
  · exact hp
  · exact absurd hp (by simp only [reduceCtorEq, not_false_eq_true])
  · exact hp

/-- A notification was there or is of what the informer's store now has. -/
theorem notifications_step (h : step c s a = some s') {n : Notification} {p : Pod}
    (hn : n ∈ s'.notifications) (hp : n.shows = some p) :
    n ∈ s.notifications ∨ ∃ key, s'.store key = some p := by
  cases effect_of_step h with
  | deliver key m =>
      refine (List.mem_append.mp hn).imp_right fun hn => ⟨key, ?_⟩
      have hseen := shows_notificationsOf hn hp
      rw [SystemState.store, ← hseen]
      have ht := timeline_setTimeline s key key ((s.timeline key).deliver m)
      rw [if_pos rfl] at ht
      exact congrArg Timeline.seen ht
  | resync key q hq =>
      refine (List.mem_append.mp hn).imp_right fun hn => ⟨key, ?_⟩
      rw [List.mem_singleton.mp hn] at hp
      rw [← hp]
      exact hq
  | handle m rest hm =>
      left
      rw [notifications_onNotification] at hn
      rw [hm]
      exact List.mem_cons_of_mem m hn
  | _ => exact Or.inl hn

/-- A pod gets into the queue from a notification or from the informer's
    store, and only if it is pending. -/
theorem queue_step (h : step c s a = some s') {p : Pod} (hp : p ∈ s'.queue) :
    p ∈ s.queue ∨ isPendingPodWeHaveToSchedule c p = true ∧
      ((∃ n ∈ s.notifications, n.shows = some p) ∨ p ∈ s.storePods) := by
  cases effect_of_step h with
  | handle n rest hn =>
      cases n with
      | added q =>
          simp only [onNotification] at hp
          split_ifs at hp with hq
          · refine (List.mem_append.mp hp).imp_right fun hp => ?_
            rw [List.mem_singleton.mp hp]
            exact ⟨hq, Or.inl ⟨_, by rw [hn]; exact List.mem_cons_self, rfl⟩⟩
          · exact Or.inl hp
      | updated q =>
          simp only [onNotification] at hp
          split_ifs at hp <;> exact Or.inl hp
      | deleted q => exact Or.inl hp
  | enqueue pods hpods =>
      refine (List.mem_append.mp hp).imp_right fun hp => ?_
      rw [List.mem_filter] at hp
      exact ⟨hp.2, Or.inr (hpods.mem_iff.mp hp.1)⟩
  | drop _ _ pod rest _ hqueue _ =>
      rw [hqueue]
      exact Or.inl (List.mem_cons_of_mem pod hp)
  | list _ _ pod rest _ hqueue =>
      rw [hqueue]
      exact Or.inl (List.mem_cons_of_mem pod hp)
  | _ => exact Or.inl hp

/-- The worker takes its pods from the queue. -/
theorem worker_step (h : step c s a = some s') {p : Pod} (hp : s'.worker.pod = some p) :
    s.worker.pod = some p ∨ p ∈ s.queue := by
  cases effect_of_step h with
  | handle n rest _ =>
      rw [worker_onNotification] at hp
      exact Or.inl hp
  | list _ _ pod rest _ hqueue =>
      right
      rw [hqueue, ← Option.some.inj hp]
      exact List.mem_cons_self
  | select _ _ pod nodes pods hworker =>
      left
      rw [hworker]
      exact hp
  | bind pod nodeName _ hworker =>
      left
      rw [hworker]
      exact hp
  | giveUp | lose | reject | mark | fail =>
      exact absurd hp (by simp only [Worker.pod, reduceCtorEq, not_false_eq_true])
  | _ => exact Or.inl hp

/-- A binding of the cache was there, or is the one the worker marks. -/
theorem cache_step (h : step c s a = some s') {name : String} {b : Binding}
    (hb : s'.localBindingCache.lookup name = some b) :
    s.localBindingCache.lookup name = some b ∨ a = .markAsScheduled true ∧
      s.worker = .bound b.pod b.nodeName ∧ name = b.pod.name := by
  cases effect_of_step h with
  | handle n rest _ =>
      rw [lookup_onNotification] at hb
      split_ifs at hb
      exact Or.inl hb
  | mark pod nodeName hworker =>
      rw [Map.lookup_insert_eq_ite] at hb
      split_ifs at hb with hname
      · rw [← Option.some.inj hb]
        exact Or.inr ⟨rfl, hworker, hname⟩
      · exact Or.inl hb
  | _ => exact Or.inl hb

/-- A pod the scheduler may hold: it was shown, and is one to schedule. -/
def Ours (c : Cluster) (s : SystemState) (p : Pod) : Prop :=
  Shown s p ∧ isPendingPodWeHaveToSchedule c p = true

/-- Every pod the scheduler holds was shown by the informer. -/
structure WellFormed (c : Cluster) (s : SystemState) : Prop where
  coherent : ∀ key, Coherent key (s.timeline key)
  notified : ∀ n ∈ s.notifications, ∀ p, n.shows = some p → Shown s p
  queued : ∀ p ∈ s.queue, Ours c s p
  working : ∀ p, s.worker.pod = some p → Ours c s p
  cached : ∀ name b, s.localBindingCache.lookup name = some b →
    b.pod.name = name ∧ Ours c s b.pod

/-- A step keeps the state well formed: what the worker, the queue and the cache
    hold was shown. -/
theorem wellFormed_step (hw : WellFormed c s) (h : step c s a = some s') : WellFormed c s' := by
  have hcoherent : ∀ key, Coherent key (s'.timeline key) := fun key =>
    coherent_of_timelineStep (hw.coherent key) (timeline_step hw.coherent h key)
  have hours : ∀ {p}, Ours c s p → Ours c s' p := fun hp =>
    ⟨shown_step hw.coherent h hp.1, hp.2⟩
  refine ⟨hcoherent, fun n hn p hp => ?_, fun p hp => ?_, fun p hp => ?_, fun name b hb => ?_⟩
  · rcases notifications_step h hn hp with hn | ⟨key, hkey⟩
    · exact shown_step hw.coherent h (hw.notified n hn p hp)
    · exact shown_of_store hcoherent hkey
  · rcases queue_step h hp with hp | ⟨hpending, ⟨n, hn, hshows⟩ | hstore⟩
    · exact hours (hw.queued p hp)
    · exact hours ⟨hw.notified n hn p hshows, hpending⟩
    · exact hours ⟨shown_of_store hw.coherent ((mem_storePods_iff hw.coherent p).mp hstore),
        hpending⟩
  · rcases worker_step h hp with hp | hp
    · exact hours (hw.working p hp)
    · exact hours (hw.queued p hp)
  · rcases cache_step h hb with hb | ⟨-, hworker, hname⟩
    · exact ⟨(hw.cached name b hb).1, hours (hw.cached name b hb).2⟩
    · exact ⟨hname.symm, hours (hw.working b.pod (by rw [hworker]; rfl))⟩

theorem timeline_initial (pods : List Pod) (key : String × String) :
    (initial pods).timeline key = Timeline.empty ∨
      ∃ p, podKey p = key ∧ (initial pods).timeline key =
        { waiting := [], delivered := [some p] } := by
  rw [SystemState.timeline]
  by_cases hkey : key ∈ (pods.map fun p =>
      ((podKey p, { waiting := [], delivered := [some p] }) : (_ × _) × Timeline Pod)).map Prod.fst
  · rcases Map.lookup_insertAll_mem ∅ _ key hkey with ⟨t, ht, hmem⟩
    rcases List.mem_map.mp hmem with ⟨p, -, hp⟩
    rw [Prod.mk.injEq] at hp
    refine Or.inr ⟨p, hp.1, ?_⟩
    rw [hp.2]
    exact congrArg (Option.getD · Timeline.empty) ht
  · left
    have ht := Map.lookup_insertAll_of_not_mem (∅ : Map _ (Timeline Pod)) _ key hkey
    rw [AList.lookup_empty] at ht
    exact congrArg (Option.getD · Timeline.empty) ht

theorem wellFormed_initial (pods : List Pod) : WellFormed c (initial pods) := by
  have hcoherent : ∀ key, Coherent key ((initial pods).timeline key) := by
    intro key
    rcases timeline_initial pods key with ht | ⟨p, hp, ht⟩
    · rw [ht]
      exact ⟨fun v hv => absurd hv List.not_mem_nil, trivial⟩
    · rw [ht]
      refine ⟨fun v hv => ?_, trivial, fun _ _ => Or.inr fun w hw => absurd hw List.not_mem_nil⟩
      rw [Option.some.inj (List.mem_singleton.mp hv)]
      exact hp
  refine ⟨hcoherent, fun n hn p hp => ?_, fun p hp => absurd hp List.not_mem_nil,
    fun p hp => absurd hp (by simp only [initial, Worker.pod, reduceCtorEq, not_false_eq_true]),
    fun name b hb => ?_⟩
  · rcases List.mem_map.mp hn with ⟨q, hq, rfl⟩
    rw [← Option.some.inj hp]
    exact shown_of_store hcoherent ((mem_storePods_iff hcoherent q).mp hq)
  · exact absurd ((AList.lookup_empty name).symm.trans hb) (by simp only [reduceCtorEq,
      not_false_eq_true])

/-- Every state reached is well formed. -/
theorem wellFormed_reaches {ok : SystemState → Action → Prop} {pods : List Pod}
    (h : ReachesWithin (step c) ok (initial pods) s) : WellFormed c s :=
  invariant_of_reachesWithin (fun _ _ _ _ hw _ hstep => wellFormed_step hw hstep) h
    (wellFormed_initial pods)

/-! ## The pods at the API server -/

/-- A change at the API server is seen there at once, and nowhere else. -/
theorem api_push (s : SystemState) (key key' : String × String) (v : Option Pod) :
    (s.push key v).api key' = if key' = key then v else s.api key' := by
  rw [SystemState.api, SystemState.push, timeline_setTimeline]
  split_ifs
  · exact Timeline.current_push _ v
  · rfl

/-- A pod the API server has was there, with the same identity and node; or it
    is new and not bound; or the worker has just had it bound. -/
theorem api_step (h : step c s a = some s') {key : String × String} {v' : Pod}
    (hv' : s'.api key = some v') :
    (∃ v, s.api key = some v ∧ v.toPodIdentity = v'.toPodIdentity ∧ v.nodeName = v'.nodeName) ∨
    (v'.nodeName = "" ∧
      ∀ w, some w ∈ (s.timeline key).versions → w.toPodIdentity ≠ v'.toPodIdentity) ∨
    ∃ pod v, s.worker = .selected pod v'.nodeName ∧ podKey pod = key ∧ s.api key = some v ∧
      v.nodeName = "" ∧ v.toPodIdentity = v'.toPodIdentity ∧
      (a = .bindPodToNode .accepted ∧ s'.worker = .bound pod v'.nodeName ∨
        a = .bindPodToNode .lost) := by
  -- Most steps leave the version under the key as it is.
  have hsame : s.api key = some v' →
      ∃ v, s.api key = some v ∧ v.toPodIdentity = v'.toPodIdentity ∧ v.nodeName = v'.nodeName :=
    fun hv => ⟨v', hv, rfl, rfl⟩
  cases effect_of_step h with
  -- The API server gives a new pod an ID that was not there before.
  | create pod hnone hnode hfresh =>
      rw [api_push] at hv'
      split_ifs at hv' with hkey
      · rw [← Option.some.inj hv', hkey]
        exact Or.inr (Or.inl ⟨hnode, fun w hw hid => hfresh w hw (congrArg PodIdentity.uid hid)⟩)
      · exact Or.inl (hsame hv')
  | update pod v hv hid hnode =>
      rw [api_push] at hv'
      split_ifs at hv' with hkey
      · rw [← Option.some.inj hv', hkey]
        exact Or.inl ⟨v, hv, hid, hnode⟩
      · exact Or.inl (hsame hv')
  | delete k =>
      rw [api_push] at hv'
      split_ifs at hv' with hkey
      exact Or.inl (hsame hv')
  | deliver k n =>
      -- a delivery changes what is seen, not what is there
      have hapi : ({ s.setTimeline k ((s.timeline k).deliver n) with
          notifications := s.notifications ++ notificationsOf (s.store k)
            ((s.timeline k).deliver n).seen } : SystemState).api key = s.api key := by
        have ht := timeline_setTimeline s k key ((s.timeline k).deliver n)
        refine (congrArg Timeline.current ht).trans ?_
        split_ifs with hkey
        · rw [Timeline.current_deliver, hkey]
          rfl
        · rfl
      exact Or.inl (hsame (hapi.symm.trans hv'))
  -- Only a pod without a node is bound, and it keeps its identity.
  | bind pod nodeName v hworker hv hnode =>
      have hpush := (api_push s (podKey pod) key (some { v with nodeName := nodeName })).symm.trans
        hv'
      split_ifs at hpush with hkey
      · rw [← Option.some.inj hpush, hkey]
        exact Or.inr (Or.inr ⟨pod, v, hworker, rfl, hv, hnode, rfl, Or.inl ⟨rfl, rfl⟩⟩)
      · exact Or.inl (hsame hpush)
  -- Here the reply is lost, and the pod is bound all the same.
  | lose pod nodeName v hworker hv hnode =>
      have hpush := (api_push s (podKey pod) key (some { v with nodeName := nodeName })).symm.trans
        hv'
      split_ifs at hpush with hkey
      · rw [← Option.some.inj hpush, hkey]
        exact Or.inr (Or.inr ⟨pod, v, hworker, rfl, hv, hnode, rfl, Or.inr rfl⟩)
      · exact Or.inl (hsame hpush)
  | handle n rest _ =>
      rw [SystemState.api, SystemState.timeline, pods_onNotification] at hv'
      exact Or.inl (hsame hv')
  | resync | enqueue | drop | list | select | giveUp | reject | mark | fail =>
      exact Or.inl (hsame hv')

theorem nodup_apiPods (hc : ∀ key, Coherent key (s.timeline key)) :
    (s.apiPods.map podKey).Nodup := by
  refine Map.nodup_filterMap_values s.pods Timeline.current fun key t p ht hp => ?_
  have hapi : s.api key = some p := by
    rw [SystemState.api, SystemState.timeline, ht, Option.getD_some, hp]
  exact podKey_of_api hc hapi

theorem nodup_storePods (hc : ∀ key, Coherent key (s.timeline key)) :
    (s.storePods.map podKey).Nodup := by
  refine Map.nodup_filterMap_values s.pods Timeline.seen fun key t p ht hp => ?_
  have hstore : s.store key = some p := by
    rw [SystemState.store, SystemState.timeline, ht, Option.getD_some, hp]
  exact podKey_of_store hc hstore

end Scheduler

end Nxpod
