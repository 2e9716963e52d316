import Nxpod.WsProxy.InfoCache

/-!
# Keeping the Workspace Info Cache Up to Date

`listen` of ws-proxy and the part of ws-manager it talks to. The proxy fetches
the statuses of all workspace instances, rebuilds its cache from them, then
subscribes to status updates and applies these one by one. When the
subscription ends it starts over.

A status change at ws-manager is published to the subscribers of that moment,
in one step with the change. Each subscriber has a channel; one whose channel
is full is dropped, and still receives what its channel holds.

Two things can leave the cache wrong for good. What changes after the fetch
and before the subscription is seen by neither. And updates delete by the ID
of the workspace: when an instance of a workspace stops while another one
runs, the update removes the info of the one that runs. A third one is in the
fetch, which lists stopped instances as well and takes their infos for those
of workspaces that run. `KeepsView` is the condition on a step that avoids all
three.

## Main definitions

* `WorkspacePhase`, `PhasedStatus`: A status update.
* `System`: ws-manager's statuses, the subscription, and the proxy's cache.
* `SyncAction`: What can happen.
* `applyUpdate`: The body of the loop of `listen`.
* `syncStep`: The system after a step.
* `Shows`: A cache has the infos of the instances that are not stopped.
* `KeepsView`: A step that loses no update and stops no running workspace.

## Theorems

* `shows_applyUpdate`: One update applied in order.
* `shows_reinit`: A rebuilt cache.
* `syncInv_syncStep`: One step.
* `converged_of_delivered`: The cache once all updates are delivered.
-/

namespace Nxpod

namespace WsProxy

open Transition WsManager

/-- The phases in the order of the interface. -/
inductive WorkspacePhase where
  | unknown
  | pending
  | creating
  | initializing
  | running
  | interrupted
  | stopping
  | stopped
  deriving DecidableEq

deriving instance DecidableEq for WorkspaceStatus, PortInfo, WorkspaceInfo

/-- The status of a workspace instance with the phase the instance is in. -/
structure PhasedStatus extends WorkspaceStatus where
  phase : WorkspacePhase
  deriving DecidableEq

/-- Where `listen` is: not connected, between the fetch and the subscription,
    subscribed, or dropped by ws-manager with a channel to empty. -/
inductive Link where
  | disconnected
  | fetched
  | subscribed
  | dropped
  deriving DecidableEq

/-- The status of each instance at ws-manager by its ID, the updates on their
    way to the proxy, and the proxy's cache. -/
structure System where
  instances : Map String PhasedStatus
  link : Link
  queue : List PhasedStatus
  cache : WorkspaceInfoCache

/-- There are no instances, and the proxy is not connected. -/
def newSystem : System where
  instances := ∅
  link := .disconnected
  queue := []
  cache := newWorkspaceInfoCache

/-- What can happen. A status changes, and the proxy's channel may be full; a
    stopped instance is removed; the proxy fetches the statuses in some order,
    subscribes, receives the next update, or loses the connection. -/
inductive SyncAction where
  | change (status : PhasedStatus) (full : Bool)
  | remove (id : String)
  | fetch (ids : List String)
  | subscribe
  | recv
  | disconnect

/-- The capacity of a subscriber's channel. -/
def channelCapacity : Nat := 250

section System

variable (getPortStr : String → String)

/-- The info of a status. -/
def infoOf (status : PhasedStatus) : WorkspaceInfo :=
  mapWorkspaceStatusToInfo getPortStr status.toWorkspaceStatus

/-- What `listen` does with an update. -/
def applyUpdate (c : WorkspaceInfoCache) (status : PhasedStatus) : WorkspaceInfoCache :=
  if status.phase = .stopped then c.delete status.metaId
  else c.insert (infoOf getPortStr status)

/-- `publishToSubscribers`, for the proxy's subscription: the update goes into
    the channel, or else the subscriber is dropped. -/
def publish (s : System) (status : PhasedStatus) (full : Bool) : Option System :=
  if s.link = .subscribed then
    if full then
      if channelCapacity ≤ s.queue.length then some { s with link := .dropped } else none
    else some { s with queue := s.queue ++ [status] }
  else if full then none
  else some s

/-- The system after a step, or `none` where the step cannot be taken. An
    instance stays with its workspace. -/
def syncStep (s : System) : SyncAction → Option System
  | .change status full =>
      if ∀ old ∈ s.instances.lookup status.id, old.metaId = status.metaId then
        publish { s with instances := s.instances.insert status.id status } status full
      else none
  | .remove id =>
      if ∀ old ∈ s.instances.lookup id, old.phase = .stopped then
        some { s with instances := s.instances.erase id }
      else none
  | .fetch ids =>
      if s.link = .disconnected ∧ ids.Perm s.instances.keys then
        some { s with
          link := .fetched
          cache := WorkspaceInfoCache.reinit
            ((ids.filterMap fun id => s.instances.lookup id).map (infoOf getPortStr)) }
      else none
  | .subscribe =>
      if s.link = .fetched then some { s with link := .subscribed } else none
  | .recv =>
      if s.link = .subscribed ∨ s.link = .dropped then
        match s.queue with
        | status :: queue =>
            some { s with queue := queue, cache := applyUpdate getPortStr s.cache status }
        | [] => if s.link = .dropped then some { s with link := .disconnected } else none
      else none
  | .disconnect => some { s with link := .disconnected, queue := [] }

/-- A cache shows the instances that are not stopped: each of its infos is the
    latest one of such an instance, and each workspace with such an instance
    has one. -/
structure Shows (c : WorkspaceInfoCache) (instances : Map String PhasedStatus) : Prop where
  latest : ∀ workspaceID info, c.infos.lookup workspaceID = some info →
    ∃ id status, instances.lookup id = some status ∧ status.phase ≠ .stopped ∧
      status.metaId = workspaceID ∧ info = infoOf getPortStr status
  present : ∀ id status, instances.lookup id = some status → status.phase ≠ .stopped →
    c.infos.lookup status.metaId ≠ none

end System

section Guard

variable (getPortStr : String → String)

/-- The cache already shows what a change says: the new info is the one it
    has, or the instance that stopped is not the one it has the info of. -/
def AlreadyShown (c : WorkspaceInfoCache) (status : PhasedStatus) : Prop :=
  if status.phase = .stopped then
    ∀ info ∈ c.infos.lookup status.metaId, info.instanceID ≠ status.id
  else c.infos.lookup status.metaId = some (infoOf getPortStr status)

/-- Another instance of the workspace of a status is not stopped. -/
def RunsElsewhere (instances : Map String PhasedStatus) (status : PhasedStatus) : Prop :=
  ∃ other ∈ Map.values instances,
    other.id ≠ status.id ∧ other.metaId = status.metaId ∧ other.phase ≠ .stopped

/-- The statuses of a fetch that are the last ones for their workspace. -/
def lastListed (instances : Map String PhasedStatus) (ids : List String) :
    Map String PhasedStatus :=
  Map.insertAll ∅ ((ids.filterMap fun id => instances.lookup id).map fun status =>
    (status.metaId, status))

/-- A step that keeps the cache right. A change between the fetch and the
    subscription says nothing new; no instance stops, for a subscriber that
    receives the update, while another instance of its workspace is not
    stopped; and the statuses of a fetch that decide are of such instances. -/
def KeepsView (s : System) : SyncAction → Prop
  | .change status full =>
      (s.link = .fetched → AlreadyShown getPortStr s.cache status) ∧
        (s.link = .subscribed → full = false → status.phase = .stopped →
          ¬ RunsElsewhere s.instances status)
  | .fetch ids => ∀ status ∈ Map.values (lastListed s.instances ids), status.phase ≠ .stopped
  | _ => True

instance (c : WorkspaceInfoCache) (status : PhasedStatus) :
    Decidable (AlreadyShown getPortStr c status) :=
  inferInstanceAs (Decidable (if status.phase = .stopped then
    ∀ info ∈ c.infos.lookup status.metaId, info.instanceID ≠ status.id
  else c.infos.lookup status.metaId = some (infoOf getPortStr status)))

instance (instances : Map String PhasedStatus) (status : PhasedStatus) :
    Decidable (RunsElsewhere instances status) :=
  inferInstanceAs (Decidable (∃ other ∈ Map.values instances,
    other.id ≠ status.id ∧ other.metaId = status.metaId ∧ other.phase ≠ .stopped))

instance (s : System) : ∀ a, Decidable (KeepsView getPortStr s a)
  | .change status full => inferInstanceAs (Decidable (
      (s.link = .fetched → AlreadyShown getPortStr s.cache status) ∧
        (s.link = .subscribed → full = false → status.phase = .stopped →
          ¬ RunsElsewhere s.instances status)))
  | .fetch ids => inferInstanceAs (Decidable (
      ∀ status ∈ Map.values (lastListed s.instances ids), status.phase ≠ .stopped))
  | .remove _ | .subscribe | .recv | .disconnect => isTrue trivial

end Guard

/-! ## What single steps do to the view -/

section Steps

variable {getPortStr : String → String} {c : WorkspaceInfoCache}
  {instances : Map String PhasedStatus} {status : PhasedStatus}

theorem lookup_applyUpdate (workspaceID : String) :
    (applyUpdate getPortStr c status).infos.lookup workspaceID =
      if workspaceID = status.metaId then
        if status.phase = .stopped then none else some (infoOf getPortStr status)
      else c.infos.lookup workspaceID := by
  rw [applyUpdate]
  by_cases hstop : status.phase = .stopped
  · rw [if_pos hstop, if_pos hstop, WorkspaceInfoCache.lookup_infos_delete]
  · rw [if_neg hstop, if_neg hstop, WorkspaceInfoCache.lookup_infos_insert]
    rfl

/-- A cache shows a changed status if it has the right entry for the workspace
    and the same entries as before for the others. -/
theorem shows_of_change {c' : WorkspaceInfoCache} (hc : Shows getPortStr c instances)
    (howner : ∀ old ∈ instances.lookup status.id, old.metaId = status.metaId)
    (hother : ∀ workspaceID, workspaceID ≠ status.metaId →
      c'.infos.lookup workspaceID = c.infos.lookup workspaceID)
    (hlatest : ∀ info, c'.infos.lookup status.metaId = some info →
      ∃ id st, (instances.insert status.id status).lookup id = some st ∧ st.phase ≠ .stopped ∧
        st.metaId = status.metaId ∧ info = infoOf getPortStr st)
    (hpresent : ∀ id st, (instances.insert status.id status).lookup id = some st →
      st.phase ≠ .stopped → st.metaId = status.metaId →
        c'.infos.lookup status.metaId ≠ none) :
    Shows getPortStr c' (instances.insert status.id status) := by
  constructor
  · intro workspaceID info hinfo
    by_cases hw : workspaceID = status.metaId
    · subst hw
      exact hlatest info hinfo
    · rw [hother workspaceID hw] at hinfo
      rcases hc.latest workspaceID info hinfo with ⟨id, st, hst, hphase, hmeta, heq⟩
      -- an instance of another workspace is not the one that changed
      have hid : id ≠ status.id := by
        rintro rfl
        exact hw (hmeta.symm.trans (howner st hst))
      exact ⟨id, st, (AList.lookup_insert_ne hid).trans hst, hphase, hmeta, heq⟩
  · intro id st hst hphase
    by_cases hw : st.metaId = status.metaId
    · rw [hw]
      exact hpresent id st hst hphase hw
    · rw [hother st.metaId hw]
      have hid : id ≠ status.id := by
        rintro rfl
        rw [AList.lookup_insert, Option.some.injEq] at hst
        exact hw (congrArg (fun st => st.metaId) hst.symm)
      rw [AList.lookup_insert_ne hid] at hst
      exact hc.present id st hst hphase

/-- Applying an update right after the change it reports. -/
theorem shows_applyUpdate (hc : Shows getPortStr c instances)
    (hid : ∀ id st, instances.lookup id = some st → st.id = id)
    (howner : ∀ old ∈ instances.lookup status.id, old.metaId = status.metaId)
    (hstop : status.phase = .stopped → ¬ RunsElsewhere instances status) :
    Shows getPortStr (applyUpdate getPortStr c status) (instances.insert status.id status) := by
  refine shows_of_change hc howner (fun w hw => ?_) (fun info hinfo => ?_)
    fun id st hst hphase hw => ?_
  · rw [lookup_applyUpdate, if_neg hw]
  · rw [lookup_applyUpdate, if_pos rfl] at hinfo
    split_ifs at hinfo with hphase
    exact ⟨status.id, status, AList.lookup_insert _, hphase, rfl, (Option.some.inj hinfo).symm⟩
  · rw [lookup_applyUpdate, if_pos rfl]
    split_ifs with hphase'
    · -- only another instance can be running, and none is
      exfalso
      by_cases hsame : id = status.id
      · rw [hsame, AList.lookup_insert, Option.some.injEq] at hst
        exact hphase (hst ▸ hphase')
      · rw [AList.lookup_insert_ne hsame] at hst
        exact hstop hphase' ⟨st, (Map.mem_values_iff _ _).mpr ⟨id, hst⟩,
          fun hc => hsame ((hid id st hst).symm.trans hc), hw, hphase⟩
    · exact Option.some_ne_none _

/-- A change that a cache shows already. -/
theorem shows_of_alreadyShown (hc : Shows getPortStr c instances)
    (hid : ∀ id st, instances.lookup id = some st → st.id = id)
    (howner : ∀ old ∈ instances.lookup status.id, old.metaId = status.metaId)
    (hshown : AlreadyShown getPortStr c status) :
    Shows getPortStr c (instances.insert status.id status) := by
  refine shows_of_change hc howner (fun _ _ => rfl) (fun info hinfo => ?_)
    fun id st hst hphase hw => ?_
  · by_cases hstop : status.phase = .stopped
    · rw [AlreadyShown, if_pos hstop] at hshown
      rcases hc.latest status.metaId info hinfo with ⟨id, st, hst, hphase, hmeta, heq⟩
      have hne : id ≠ status.id := by
        rintro rfl
        refine hshown info hinfo ?_
        rw [heq]
        exact hid status.id st hst
      exact ⟨id, st, (AList.lookup_insert_ne hne).trans hst, hphase, hmeta, heq⟩
    · rw [AlreadyShown, if_neg hstop, hinfo, Option.some.injEq] at hshown
      exact ⟨status.id, status, AList.lookup_insert _, hstop, rfl, hshown⟩
  · by_cases hstop : status.phase = .stopped
    · have hne : id ≠ status.id := by
        rintro rfl
        rw [AList.lookup_insert, Option.some.injEq] at hst
        exact hphase (hst ▸ hstop)
      rw [AList.lookup_insert_ne hne] at hst
      rw [← hw]
      exact hc.present id st hst hphase
    · rw [AlreadyShown, if_neg hstop] at hshown
      rw [hshown]
      exact Option.some_ne_none _

/-- A stopped instance that is removed is not shown. -/
theorem shows_erase {id : String} (hc : Shows getPortStr c instances)
    (hstopped : ∀ old ∈ instances.lookup id, old.phase = .stopped) :
    Shows getPortStr c (instances.erase id) := by
  constructor
  · intro workspaceID info hinfo
    rcases hc.latest workspaceID info hinfo with ⟨id', st, hst, hphase, hmeta, heq⟩
    have hne : id' ≠ id := by
      rintro rfl
      exact hphase (hstopped st hst)
    exact ⟨id', st, (AList.lookup_erase_ne hne).trans hst, hphase, hmeta, heq⟩
  · intro id' st hst hphase
    rw [Map.lookup_erase_eq_ite] at hst
    split_ifs at hst
    exact hc.present id' st hst hphase

/-- A cache rebuilt from all statuses, in any order. -/
theorem shows_reinit {ids : List String} (hids : ids.Perm instances.keys)
    (hlast : ∀ status ∈ Map.values (lastListed instances ids), status.phase ≠ .stopped) :
    Shows getPortStr (WorkspaceInfoCache.reinit
      ((ids.filterMap fun id => instances.lookup id).map (infoOf getPortStr))) instances := by
  -- the infos are those of the statuses listed last
  have hinfos : ∀ workspaceID, (WorkspaceInfoCache.reinit ((ids.filterMap fun id =>
      instances.lookup id).map (infoOf getPortStr))).infos.lookup workspaceID =
      ((lastListed instances ids).lookup workspaceID).map (infoOf getPortStr) := by
    intro workspaceID
    rw [WorkspaceInfoCache.reinit, WorkspaceInfoCache.infos_foldl_doInsert, lastListed,
      ← Map.lookup_insertAll_map (infoOf getPortStr) ∅ ∅ _ workspaceID fun _ => rfl,
      List.map_map, List.map_map]
    rfl
  have hlisted : ∀ status, status ∈ ids.filterMap (fun id => instances.lookup id) ↔
      ∃ id, instances.lookup id = some status := by
    intro status
    rw [List.mem_filterMap]
    constructor
    · rintro ⟨id, _, h⟩
      exact ⟨id, h⟩
    · rintro ⟨id, h⟩
      exact ⟨id, hids.mem_iff.mpr ((Map.mem_keys_iff _ _).mpr fun hc => by
        rw [h] at hc; exact Option.some_ne_none _ hc), h⟩
  constructor
  · intro workspaceID info hinfo
    rw [hinfos, Option.map_eq_some_iff] at hinfo
    rcases hinfo with ⟨status, hstatus, heq⟩
    have hphase := hlast status ((Map.mem_values_iff _ _).mpr ⟨workspaceID, hstatus⟩)
    have hkey : workspaceID ∈ ((ids.filterMap fun id => instances.lookup id).map fun status =>
        (status.metaId, status)).map Prod.fst := by
      by_contra hno
      rw [lastListed, Map.lookup_insertAll_of_not_mem _ _ _ hno, AList.lookup_empty] at hstatus
      exact absurd hstatus (by simp only [reduceCtorEq, not_false_eq_true])
    rcases Map.lookup_insertAll_mem ∅ _ workspaceID hkey with ⟨status', hstatus', hmem⟩
    rw [lastListed, hstatus', Option.some.injEq] at hstatus
    subst hstatus
    rcases List.mem_map.mp hmem with ⟨st, hst, hpair⟩
    rw [Prod.mk.injEq] at hpair
    rcases hpair with ⟨hmeta, rfl⟩
    rcases (hlisted st).mp hst with ⟨id, hid⟩
    exact ⟨id, st, hid, hphase, hmeta, heq.symm⟩
  · intro id status hstatus _
    rw [hinfos, ne_eq, Option.map_eq_none_iff]
    have hkey : status.metaId ∈ ((ids.filterMap fun id => instances.lookup id).map fun status =>
        (status.metaId, status)).map Prod.fst := by
      rw [List.map_map]
      exact List.mem_map_of_mem ((hlisted status).mpr ⟨id, hstatus⟩)
    rcases Map.lookup_insertAll_mem ∅ _ status.metaId hkey with ⟨status', hstatus', _⟩
    rw [lastListed, hstatus']
    exact Option.some_ne_none _

end Steps

/-! ## Whole runs -/

section Runs

variable {getPortStr : String → String}

/-- What holds as long as the steps keep the view: once the updates on their
    way are applied, the cache shows the instances that are not stopped. -/
structure SyncInv (getPortStr : String → String) (s : System) : Prop where
  id_of_lookup : ∀ id status, s.instances.lookup id = some status → status.id = id
  queue_empty : s.link = .disconnected ∨ s.link = .fetched → s.queue = []
  viewRight : s.link = .fetched ∨ s.link = .subscribed →
    Shows getPortStr (s.queue.foldl (applyUpdate getPortStr) s.cache) s.instances

theorem id_of_lookup_insert {instances : Map String PhasedStatus} (status : PhasedStatus)
    (h : ∀ id st, instances.lookup id = some st → st.id = id) (id : String) (st : PhasedStatus)
    (hst : (instances.insert status.id status).lookup id = some st) : st.id = id := by
  rw [Map.lookup_insert_eq_ite] at hst
  split_ifs at hst with hid
  · rw [← Option.some.inj hst, hid]
  · exact h id st hst

/-- A change that keeps the view is on its way to the proxy, if this is
    connected. -/
theorem syncInv_change {s s' : System} {status : PhasedStatus} {full : Bool}
    (hs : SyncInv getPortStr s) (hok : KeepsView getPortStr s (.change status full))
    (h : syncStep getPortStr s (.change status full) = some s') : SyncInv getPortStr s' := by
  simp only [syncStep] at h
  split_ifs at h with howner
  have hkeys := id_of_lookup_insert status hs.id_of_lookup
  rw [publish] at h
  split_ifs at h with hsub hfull hroom hnotfull
  · -- the subscriber is dropped, and nothing is asked of its cache any more
    rw [← Option.some.inj h]
    exact ⟨hkeys, fun hl => by simp only [reduceCtorEq, or_self] at hl,
      fun hl => by simp only [reduceCtorEq, or_self] at hl⟩
  · rw [← Option.some.inj h]
    refine ⟨hkeys, fun hl => ?_, fun _ => ?_⟩
    · simp only at hsub hl
      rw [hsub] at hl
      simp only [reduceCtorEq, or_self] at hl
    · rw [List.foldl_append]
      exact shows_applyUpdate (hs.viewRight (Or.inr hsub)) hs.id_of_lookup howner
        (hok.2 hsub (Bool.eq_false_iff.mpr hfull))
  · rw [← Option.some.inj h]
    refine ⟨hkeys, hs.queue_empty, fun hl => ?_⟩
    have hfetched : s.link = .fetched := hl.resolve_right hsub
    have hqueue := hs.queue_empty (Or.inr hfetched)
    have hview := hs.viewRight (Or.inl hfetched)
    simp only [hqueue, List.foldl_nil] at hview ⊢
    exact shows_of_alreadyShown hview hs.id_of_lookup howner (hok.1 hfetched)

/-- What is received is the oldest that was on its way. -/
theorem syncInv_recv {s s' : System} (hs : SyncInv getPortStr s)
    (h : syncStep getPortStr s .recv = some s') : SyncInv getPortStr s' := by
  simp only [syncStep] at h
  cases hqueue : s.queue with
  | nil =>
      simp only [hqueue] at h
      split_ifs at h
      rw [← Option.some.inj h]
      exact ⟨hs.id_of_lookup, fun _ => rfl,
        fun hl => by simp only [reduceCtorEq, or_self] at hl⟩
  | cons status queue =>
      simp only [hqueue] at h
      split_ifs at h
      rw [← Option.some.inj h]
      refine ⟨hs.id_of_lookup, fun hl => ?_, fun hl => ?_⟩
      · have hempty := hs.queue_empty hl
        rw [hqueue] at hempty
        exact absurd hempty (List.cons_ne_nil status queue)
      · have hview := hs.viewRight hl
        rw [hqueue] at hview
        exact hview

theorem syncInv_syncStep {s s' : System} {a : SyncAction} (hs : SyncInv getPortStr s)
    (hok : KeepsView getPortStr s a) (h : syncStep getPortStr s a = some s') :
    SyncInv getPortStr s' := by
  cases a with
  | change status full => exact syncInv_change hs hok h
  | recv => exact syncInv_recv hs h
  | remove id =>
      simp only [syncStep] at h
      split_ifs at h with hstopped
      rw [← Option.some.inj h]
      refine ⟨fun id' status hst => ?_, hs.queue_empty,
        fun hl => shows_erase (hs.viewRight hl) hstopped⟩
      rw [Map.lookup_erase_eq_ite] at hst
      split_ifs at hst
      exact hs.id_of_lookup id' status hst
  | fetch ids =>
      simp only [syncStep] at h
      split_ifs at h with hfetch
      -- Before the subscription there are no updates to catch up with.
      have hqueue := hs.queue_empty (Or.inl hfetch.1)
      rw [← Option.some.inj h]
      refine ⟨hs.id_of_lookup, fun _ => hqueue, fun _ => ?_⟩
      simp only [hqueue, List.foldl_nil]
      exact shows_reinit hfetch.2 hok
  | subscribe =>
      simp only [syncStep] at h
      split_ifs at h with hfetched
      rw [← Option.some.inj h]
      exact ⟨hs.id_of_lookup, fun hl => by simp only [reduceCtorEq, or_self] at hl,
        fun _ => hs.viewRight (Or.inl hfetched)⟩
  | disconnect =>
      rw [← Option.some.inj h]
      exact ⟨hs.id_of_lookup, fun _ => rfl, fun hl => by simp only [reduceCtorEq, or_self] at hl⟩

theorem syncInv_newSystem : SyncInv getPortStr newSystem := by
  refine ⟨fun id status h => ?_, fun _ => rfl, fun hl => ?_⟩
  · exact absurd ((AList.lookup_empty id).symm.trans h) (by simp only [reduceCtorEq,
      not_false_eq_true])
  · simp only [newSystem, reduceCtorEq, or_self] at hl

/-- In a run whose steps keep the view, whenever the proxy is subscribed and all
    updates are delivered its cache shows the instances that are not stopped: it
    has the latest info of one for each of their workspaces, and nothing else.
    The run has reconnects in it, in which the list is read again and updates
    come in between. -/
theorem converged_of_delivered (getPortStr : String → String) (s : System)
    (hreach : ReachesWithin (syncStep getPortStr) (KeepsView getPortStr) newSystem s)
    (hlink : s.link = .subscribed) (hqueue : s.queue = []) :
    Shows getPortStr s.cache s.instances := by
  have hinv : SyncInv getPortStr s :=
    invariant_of_reachesWithin (fun _ _ _ _ hs hok h => syncInv_syncStep hs hok h) hreach
      syncInv_newSystem
  have hview := hinv.viewRight (Or.inr hlink)
  rw [hqueue] at hview
  exact hview

/-- A workspace whose second instance starts after the first one stopped. -/
theorem converged_of_delivered_restart :
    ∃ s, runActions (syncStep fun _ => "4000")
      [.fetch [], .subscribe, .change ⟨⟨"i", "ws", "", [], none⟩, .running⟩ false,
        .change ⟨⟨"i", "ws", "", [], none⟩, .stopped⟩ false, .recv,
        .change ⟨⟨"j", "ws", "", [], none⟩, .running⟩ false, .recv, .recv] newSystem = some s ∧
      Shows (fun _ => "4000") s.cache s.instances := by
  refine exists_run_of_any (fun s => decide (s.link = .subscribed) && s.queue.isEmpty)
    (by decide +kernel) fun s hrun hs => ?_
  rw [Bool.and_eq_true, decide_eq_true_eq, List.isEmpty_iff] at hs
  exact converged_of_delivered _ s
    (reachesWithin_of_runActions _ _ _ (by decide +kernel) hrun) hs.1 hs.2

/-- A workspace that starts between the fetch and the subscription is never
    seen. -/
theorem missed_between_fetch_and_subscribe :
    ¬ ∀ (getPortStr : String → String) (s : System),
      ReachesWithin (syncStep getPortStr) (fun _ _ => True) newSystem s →
        s.link = .subscribed → s.queue = [] → Shows getPortStr s.cache s.instances := by
  intro hall
  rcases exists_of_runActions_any (syncStep fun _ => "4000")
    [.fetch [], .change ⟨⟨"i", "ws", "", [], none⟩, .running⟩ false, .subscribe] newSystem
    (fun s => decide (s.link = .subscribed) && s.queue.isEmpty &&
      decide (s.instances.lookup "i" = some ⟨⟨"i", "ws", "", [], none⟩, .running⟩) &&
      decide (s.cache.infos.lookup "ws" = none)) (by decide +kernel)
    with ⟨s, hrun, hs⟩
  simp only [Bool.and_eq_true, decide_eq_true_eq, List.isEmpty_iff] at hs
  rcases hs with ⟨⟨⟨hlink, hqueue⟩, hinstance⟩, hmissing⟩
  have hshows := hall _ s (reaches_of_runActions hrun) hlink hqueue
  exact hshows.present "i" _ hinstance (by decide) hmissing

end Runs

end WsProxy

end Nxpod
