import Nxpod.WsManager.IngressAllocator

/-!
# The Books of the Ingress Port Allocator

What a call of `UpdateAllocatedPorts` leaves behind in the two maps of the
allocator, over one call, over a call that fails, over two calls with the same
ports, and over whole runs.

No run hands an ingress port out twice. What runs do lose is ports:
`allocatedPorts` keeps an ingress port whose workspace port was removed from
its service, and the first ingress port of a workspace port that occurs twice
in a list is overwritten by the second one. `KeepsBooks` is the condition on a
call that rules both out, and a run in which all marked ports are held after
every call is a run all of whose calls meet it.

A call that fails has already applied its removals and all the allocations
before the one that failed. It leaves the allocator as it was when there was
neither, which is to say that nothing was to be removed and that no ingress
port was free to begin with.

## Main definitions

* `heldPorts`: The ingress ports of the live services, as a list.
* `KeepsBooks`: A call that loses no ingress port.
* `Unchanged`: Two allocators with the same allocations and marks.
* `RepeatQuiet`: A call that changes nothing when it is made again.

## Theorems

* `exact_callStep_iff`: One call from exact books.
* `exact_stepsAlong_iff`: The marked ports are the held ones, over a run.
* `unchanged_updateAllocatedPorts_iff`: What leaves the allocator unchanged.
* `unchanged_of_error_iff`: The same for a call that fails.
* `mem_keys_updateAllocatedPorts`: The workspace ports of a service after a
  call that succeeds.
* `stable_iff`: Two successive calls for one service.
-/

namespace Nxpod

namespace WsManager

open Transition

namespace KubernetesBackedPortAllocator

variable {rng : IngressPortRange} {pa pa' : KubernetesBackedPortAllocator} {svc : String}
  {updated : List Int} {draws : List Nat}

/-- The ingress ports held by the workspace ports of the live services. -/
def heldPorts (pa : KubernetesBackedPortAllocator) : List Int :=
  (Map.values pa.services).flatMap fun aps => (Map.values aps).map AllocatedPort.ingressPort

theorem mem_heldPorts_of_held {i : String × Int} {r : Int} (h : pa.toPool.held i = some r) :
    r ∈ heldPorts pa := by
  simp only [toPool, getAllocatedPorts, AllocatedPorts.allocatedPort,
    Option.map_eq_some_iff] at h
  rcases h with ⟨ap, hap, hr⟩
  cases haps : pa.services.lookup i.1 with
  | none =>
      rw [haps, Option.getD_none, AList.lookup_empty] at hap
      exact absurd hap (by simp only [reduceCtorEq, not_false_eq_true])
  | some aps =>
      rw [haps, Option.getD_some] at hap
      simp only [heldPorts, List.mem_flatMap, List.mem_map, Map.mem_values_iff]
      exact ⟨aps, ⟨i.1, haps⟩, ap, ⟨i.2, hap⟩, hr⟩

/-! ## Whole runs -/

/-- A call that loses no ingress port: it removes no workspace port its
    service has, and of the new ports it comes to allocate, as far as the free
    ingress ports reach, none occurs twice and none is one its service has
    already. -/
def KeepsBooks (rng : IngressPortRange) (pa : KubernetesBackedPortAllocator) : Call → Prop
  | .update svc updated _ =>
      (∀ port ∈ (pa.getAllocatedPorts svc).keys, port ∈ updated) ∧
        ((newPorts pa svc updated).take (freeIngressPorts rng pa).card).Nodup ∧
        ∀ port ∈ (newPorts pa svc updated).take (freeIngressPorts rng pa).card,
          port ∉ (pa.getAllocatedPorts svc).keys
  | .free _ => True

/-- One call from exact books. -/
theorem exact_callStep_iff (hpa : pa.toPool.Exact) {c : Call}
    (h : callStep rng pa c = some pa') : pa'.toPool.Exact ↔ KeepsBooks rng pa c := by
  cases c with
  | free svc =>
      rw [← Option.some.inj h, toPool_freeAllocatedPorts]
      exact iff_of_true (Pool.exact_release _ hpa) trivial
  | update svc updated draws =>
      have htakes := (updateAllocatedPorts_spec rng pa svc updated draws).1
      rw [← Option.some.inj h, KeepsBooks, ← gonePorts_eq_nil_iff]
      by_cases hgone : gonePorts pa svc updated = []
      · -- nothing is forgotten, so the new ports are taken from the pool as it is
        have hsame : (pa.toPool.discard fun i => i.1 = svc ∧ i.2 ∈ gonePorts pa svc updated) =
            pa.toPool := Pool.discard_eq_self _ fun i hi => by
          rw [hgone] at hi
          exact absurd hi.2 List.not_mem_nil
        rw [hsame] at htakes
        rw [Pool.exact_takes_iff htakes hpa,
          List.nodup_map_iff (Prod.mk_right_injective svc), List.forall_mem_map]
        simp only [held_toPool_eq_none, hgone, true_and]
      · -- what a removed port held is lost, whatever is allocated after
        rcases List.exists_mem_of_ne_nil _ hgone with ⟨port, hport⟩
        have hheld : pa.toPool.held (svc, port) ≠ none :=
          fun hc => held_toPool_eq_none.mp hc (mem_gonePorts.mp hport).1
        rcases Option.ne_none_iff_exists'.mp hheld with ⟨r, hr⟩
        have hleak := Pool.leaked_of_takes htakes
          (Pool.leaked_discard (fun i => i.1 = svc ∧ i.2 ∈ gonePorts pa svc updated)
            hpa.toSound ⟨rfl, hport⟩ hr)
        refine iff_of_false (fun hex => ?_) fun hkeeps => hgone hkeeps.1
        exact (Pool.exact_iff_no_leak hex.toSound).mp hex r hleak

theorem exact_newIngressPortAllocator : newIngressPortAllocator.toPool.Exact :=
  ⟨sound_newIngressPortAllocator, fun r hr => absurd (AList.lookup_empty r) hr⟩

/-- In a run from the empty allocator the marked ingress ports are, after every
    call, exactly those held, each by one workspace port of one service, if and
    only if no call loses one. A port that is marked and not held is lost to all
    services, since a port is only given back by the service that holds it. -/
theorem exact_stepsAlong_iff (rng : IngressPortRange) (calls : List Call) :
    StepsAlong (callStep rng) (fun _ _ pa => pa.toPool.Exact) calls newIngressPortAllocator ↔
      MeetsAlong (callStep rng) (KeepsBooks rng) calls newIngressPortAllocator :=
  stepsAlong_good_iff_meetsAlong (fun _ _ _ hpa h => exact_callStep_iff hpa h) calls
    newIngressPortAllocator exact_newIngressPortAllocator

/-- A workspace port that is removed does not give its ingress port back. -/
theorem marked_after_removal :
    ¬ ∀ (rng : IngressPortRange) (calls : List Call) (pa : KubernetesBackedPortAllocator),
      runActions (callStep rng) calls newIngressPortAllocator = some pa → pa.toPool.Exact := by
  intro hall
  have hbad := exists_of_runActions_any (callStep ⟨10, 20, by decide⟩)
    [.update "ws" [8080] [0], .update "ws" [] []] newIngressPortAllocator
    (fun pa => decide (pa.allocatedPorts.lookup 10 ≠ none) && decide (10 ∉ heldPorts pa))
    (by decide +kernel)
  rcases hbad with ⟨pa, hrun, hp⟩
  simp only [Bool.and_eq_true, decide_eq_true_eq] at hp
  rcases (hall _ _ pa hrun).held_of_marked 10 hp.1 with ⟨i, hi⟩
  exact hp.2 (mem_heldPorts_of_held hi)

/-! ## Calls that change nothing -/

/-- The same allocation of every service and the same marked ports. -/
def Unchanged (pa pa' : KubernetesBackedPortAllocator) : Prop :=
  (∀ svc port, (pa'.getAllocatedPorts svc).lookup port = (pa.getAllocatedPorts svc).lookup port) ∧
    ∀ port, pa'.allocatedPorts.lookup port = pa.allocatedPorts.lookup port

theorem unchanged_withService_self :
    Unchanged pa (pa.withService svc (pa.getAllocatedPorts svc)) := by
  refine ⟨fun svc' port => ?_, fun _ => rfl⟩
  rw [getAllocatedPorts_withService]
  split_ifs with hsvc
  · rw [hsvc]
  · rfl

theorem toPool_eq_of_unchanged (h : Unchanged pa pa') : pa'.toPool = pa.toPool := by
  refine Pool.ext ?_ ?_
  · funext i
    simp only [toPool, AllocatedPorts.allocatedPort, h.1]
  · ext r
    simp only [toPool, Set.mem_ofPred_eq, h.2]

theorem freeIngressPorts_eq_of_unchanged (h : Unchanged pa pa') :
    freeIngressPorts rng pa' = freeIngressPorts rng pa := by
  simp only [freeIngressPorts, h.2]

/-- With nothing to allocate, or nothing free to allocate, the ports stay. -/
theorem allocateAll_eq_self {additions : List Int}
    (h : additions = [] ∨ freeIngressPorts rng pa = ∅) :
    (allocateAll rng svc additions draws pa).2 = pa := by
  cases additions with
  | nil => rfl
  | cons addition additions =>
      have hempty := h.resolve_left (List.cons_ne_nil addition additions)
      rw [allocateAll]
      cases hfind : findNextIngressPort rng pa (draws.headD 0) with
      | none => rw [allocatePort_eq_error hfind]
      | some port =>
          have hport := findNextIngressPort_eq_some hfind
          rw [hempty] at hport
          exact absurd hport (Finset.notMem_empty port)

theorem updateAllocatedPorts_snd :
    (updateAllocatedPorts rng pa svc updated draws).2 =
      (allocateAll rng svc (newPorts pa svc updated) draws
        (pa.withService svc (Map.eraseAll (pa.getAllocatedPorts svc)
          (gonePorts pa svc updated)))).2 := by
  rw [updateAllocatedPorts_eq]
  split
  · next heq => rw [heq]
  · next heq => rw [heq]

/-- A call changes nothing exactly when it has no port to remove and either no
    port to allocate or no free ingress port for the first one. -/
theorem unchanged_updateAllocatedPorts_iff :
    Unchanged pa (updateAllocatedPorts rng pa svc updated draws).2 ↔
      (∀ port ∈ (pa.getAllocatedPorts svc).keys, port ∈ updated) ∧
        (newPorts pa svc updated = [] ∨ freeIngressPorts rng pa = ∅) := by
  rcases updateAllocatedPorts_spec rng pa svc updated draws with ⟨htakes, hcard⟩
  constructor
  · intro h
    refine ⟨?_, ?_⟩
    · by_contra hgone
      rw [← gonePorts_eq_nil_iff] at hgone
      rcases List.exists_mem_of_ne_nil _ hgone with ⟨port, hport⟩
      rcases mem_gonePorts.mp hport with ⟨hmem, hnot⟩
      -- a port that is gone is not new, so nothing is allocated for it again
      have hnew : (svc, port) ∉ ((newPorts pa svc updated).take
          (freeIngressPorts rng pa).card).map (svc, ·) := by
        simp only [List.mem_map, Prod.mk.injEq, true_and, exists_eq_right]
        intro hc
        have hpos := List.count_pos_iff.mpr (List.mem_of_mem_take hc)
        rw [count_newPorts_of_mem hmem, List.count_eq_zero.mpr hnot] at hpos
        exact absurd hpos (Nat.not_lt_zero _)
      have hheld := Pool.held_of_takes_of_not_mem htakes hnew
      rw [toPool_eq_of_unchanged h] at hheld
      simp only [Pool.discard, hport, and_self, if_true] at hheld
      exact held_toPool_eq_none.mp hheld hmem
    · rw [freeIngressPorts_eq_of_unchanged h] at hcard
      rw [← List.length_eq_zero_iff, ← Finset.card_eq_zero]
      omega
  · rintro ⟨hkeys, hnew⟩
    have hstate : (updateAllocatedPorts rng pa svc updated draws).2 =
        pa.withService svc (pa.getAllocatedPorts svc) := by
      rw [updateAllocatedPorts_snd, gonePorts_eq_nil_iff.mpr hkeys]
      exact allocateAll_eq_self hnew
    rw [hstate]
    exact unchanged_withService_self

/-- A call that fails leaves the allocator as it was if and only if it had no
    port to remove and no ingress port was free. A call removes before it adds,
    so what was removed stays so, and with a free port at hand it may have given
    some away before it ran out. -/
theorem unchanged_of_error_iff (rng : IngressPortRange) (pa : KubernetesBackedPortAllocator)
    (svc : String) (updated : List Int) (draws : List Nat) (err : String)
    (h : (updateAllocatedPorts rng pa svc updated draws).1 = .error err) :
    Unchanged pa (updateAllocatedPorts rng pa svc updated draws).2 ↔
      (∀ port ∈ (pa.getAllocatedPorts svc).keys, port ∈ updated) ∧
        freeIngressPorts rng pa = ∅ := by
  rw [unchanged_updateAllocatedPorts_iff]
  refine and_congr_right fun _ => or_iff_right fun hnil => ?_
  have hlt := of_updateAllocatedPorts_eq_error h
  rw [hnil] at hlt
  exact absurd hlt (Nat.not_lt_zero _)

/-- A failing call on a full range leaves the allocator as it was. -/
theorem unchanged_of_error_iff_full :
    Unchanged (updateAllocatedPorts ⟨10, 11, by decide⟩ newIngressPortAllocator "ws" [8080] []).2
      (updateAllocatedPorts ⟨10, 11, by decide⟩
        (updateAllocatedPorts ⟨10, 11, by decide⟩ newIngressPortAllocator "ws" [8080] []).2
        "ws" [8080, 3000] []).2 :=
  (unchanged_of_error_iff _ _ _ _ _ "unable to allocate ingress port for ws:3000"
    (by decide +kernel)).mpr ⟨by decide +kernel, by decide +kernel⟩

/-- The ports allocated before the one that fails stay allocated. -/
theorem changed_by_error :
    ¬ ∀ (rng : IngressPortRange) (pa : KubernetesBackedPortAllocator) (svc : String)
      (updated : List Int) (draws : List Nat) (err : String),
      (updateAllocatedPorts rng pa svc updated draws).1 = .error err →
        Unchanged pa (updateAllocatedPorts rng pa svc updated draws).2 := by
  intro hall
  have hsame := (hall ⟨10, 11, by decide⟩ newIngressPortAllocator "ws" [3000, 8080] []
    "unable to allocate ingress port for ws:8080" (by decide +kernel)).2 10
  have hbad : (updateAllocatedPorts ⟨10, 11, by decide⟩ newIngressPortAllocator "ws"
      [3000, 8080] []).2.allocatedPorts.lookup 10 ≠
      newIngressPortAllocator.allocatedPorts.lookup 10 := by decide +kernel
  exact hbad hsame

/-! ## Two calls for one service -/

/-- After a call that succeeds, the service has the ports of the list. -/
theorem mem_keys_updateAllocatedPorts {aps : AllocatedPorts}
    (h : (updateAllocatedPorts rng pa svc updated draws).1 = .ok aps) (port : Int) :
    port ∈ aps.keys ↔ port ∈ updated := by
  rcases of_updateAllocatedPorts_eq_ok h with ⟨haps, hle⟩
  have htakes := (updateAllocatedPorts_spec rng pa svc updated draws).1
  rw [List.take_of_length_le hle] at htakes
  have hkeys : port ∈ aps.keys ↔
      (updateAllocatedPorts rng pa svc updated draws).2.toPool.held (svc, port) ≠ none := by
    rw [haps, ne_eq, held_toPool_eq_none, not_not]
  rw [hkeys]
  by_cases hnew : port ∈ newPorts pa svc updated
  · have hmem : port ∈ updated := by
      have hpos := List.count_pos_iff.mpr hnew
      rw [newPorts, count_diff_additions] at hpos
      exact List.count_pos_iff.mp (by omega)
    rcases Pool.held_of_takes_of_mem htakes (List.mem_map_of_mem hnew) with ⟨r, hr, _⟩
    rw [hr]
    exact iff_of_true (Option.some_ne_none r) hmem
  · have hnot : (svc, port) ∉ (newPorts pa svc updated).map (svc, ·) := by
      simpa only [List.mem_map, Prod.mk.injEq, true_and, exists_eq_right] using hnew
    rw [Pool.held_of_takes_of_not_mem htakes hnot]
    -- a port of the list that is not new is one the service had
    have hhad : port ∈ updated → port ∈ (pa.getAllocatedPorts svc).keys := by
      intro hmem
      by_contra hno
      refine hnew (List.count_pos_iff.mp ?_)
      rw [count_newPorts_of_not_mem hno]
      exact List.count_pos_iff.mpr hmem
    simp only [Pool.discard, true_and, mem_gonePorts]
    split_ifs with hgone
    · exact iff_of_false (not_not.mpr rfl) hgone.2
    · rw [ne_eq, held_toPool_eq_none, not_not]
      exact ⟨fun hk => by_contra fun hno => hgone ⟨hk, hno⟩, hhad⟩

/-- A call that changes nothing when it is made again: its list has no port
    twice, or else it uses up the last free ingress ports, so that the call
    fails the second time before it has changed anything. -/
def RepeatQuiet (rng : IngressPortRange) (pa : KubernetesBackedPortAllocator) (svc : String)
    (updated : List Int) : Prop :=
  updated.Nodup ∨ (freeIngressPorts rng pa).card = (newPorts pa svc updated).length

/-- After a call that succeeded, the same call once more has only its ports that
    stand twice to deal with. -/
theorem unchanged_again_iff {aps : AllocatedPorts}
    (h : (updateAllocatedPorts rng pa svc updated draws).1 = .ok aps) (draws' : List Nat) :
    Unchanged (updateAllocatedPorts rng pa svc updated draws).2
        (updateAllocatedPorts rng (updateAllocatedPorts rng pa svc updated draws).2 svc updated
          draws').2 ↔ RepeatQuiet rng pa svc updated := by
  rcases of_updateAllocatedPorts_eq_ok h with ⟨haps, hle⟩
  have hcard := (updateAllocatedPorts_spec rng pa svc updated draws).2
  have hkeys := mem_keys_updateAllocatedPorts h
  rw [haps] at hkeys
  have hnodup : newPorts (updateAllocatedPorts rng pa svc updated draws).2 svc updated = [] ↔
      updated.Nodup := by
    rw [List.nodup_iff_count_le_one, List.eq_nil_iff_forall_not_mem]
    refine forall_congr' fun port => ?_
    rw [← List.count_eq_zero]
    by_cases hport : port ∈ updated
    · rw [count_newPorts_of_mem ((hkeys port).mpr hport)]
      omega
    · rw [count_newPorts_of_not_mem fun hc => hport ((hkeys port).mp hc),
        List.count_eq_zero.mpr hport]
      omega
  rw [unchanged_updateAllocatedPorts_iff, and_iff_right fun port => (hkeys port).mp, hnodup,
    ← Finset.card_eq_zero, RepeatQuiet]
  refine or_congr_right ?_
  omega

/-- Calls for other services leave what a service holds alone. -/
theorem held_callStep_of_other {c : Call} (h : callStep rng pa c = some pa')
    (hc : c.serviceName ≠ svc) (port : Int) :
    pa'.toPool.held (svc, port) = pa.toPool.held (svc, port) := by
  cases c with
  | update svc' updated draws =>
      have htakes := (updateAllocatedPorts_spec rng pa svc' updated draws).1
      have hother : (svc, port) ∉ ((newPorts pa svc' updated).take
          (freeIngressPorts rng pa).card).map (svc', ·) := by
        simp only [List.mem_map, Prod.mk.injEq, not_exists, not_and]
        exact fun _ _ hsvc => absurd hsvc hc
      rw [← Option.some.inj h, Pool.held_of_takes_of_not_mem htakes hother, Pool.discard]
      exact if_neg fun hs => hc hs.1.symm
  | free svc' =>
      rw [← Option.some.inj h, toPool_freeAllocatedPorts]
      exact if_neg (Ne.symm hc)

theorem held_of_reachesWithin_other
    (h : ReachesWithin (callStep rng) (fun _ c => c.serviceName ≠ svc) pa pa') (port : Int) :
    pa'.toPool.held (svc, port) = pa.toPool.held (svc, port) := by
  induction h with
  | refl => rfl
  | step s' s'' c _ hok hstep ih => rw [held_callStep_of_other hstep hok port, ih]

/-- In a call that succeeds, a port the service has keeps its ingress port
    unless the list has it twice. -/
theorem held_updateAllocatedPorts_eq_iff (hpa : pa.toPool.Sound) {aps : AllocatedPorts}
    (h : (updateAllocatedPorts rng pa svc updated draws).1 = .ok aps) {port : Int}
    (hkey : port ∈ (pa.getAllocatedPorts svc).keys) (hport : port ∈ updated) :
    (updateAllocatedPorts rng pa svc updated draws).2.toPool.held (svc, port) =
      pa.toPool.held (svc, port) ↔ updated.count port ≤ 1 := by
  have htakes := (updateAllocatedPorts_spec rng pa svc updated draws).1
  rw [List.take_of_length_le (of_updateAllocatedPorts_eq_ok h).2] at htakes
  have hcount : (newPorts pa svc updated).count port = updated.count port - 1 :=
    count_newPorts_of_mem hkey
  by_cases hnew : port ∈ newPorts pa svc updated
  · -- the port is allocated again, and gets a port that was not marked
    have hpos := List.count_pos_iff.mpr hnew
    rcases Pool.held_of_takes_of_mem htakes (List.mem_map_of_mem hnew) with ⟨r, hr, hfresh⟩
    refine iff_of_false (fun hsame => ?_) (by omega)
    rw [hr] at hsame
    exact hfresh (hpa.marked_of_held (svc, port) r hsame.symm)
  · have hzero := List.count_eq_zero.mpr hnew
    have hother : (svc, port) ∉ (newPorts pa svc updated).map (svc, ·) := by
      simpa only [List.mem_map, Prod.mk.injEq, true_and, exists_eq_right] using hnew
    refine iff_of_true ?_ (by omega)
    rw [Pool.held_of_takes_of_not_mem htakes hother]
    exact if_neg fun hs => (mem_gonePorts.mp hs.2).2 hport

/-- What two successive calls for a service, with `updated₁` before and with
    `updated₂` after, are to do. -/
structure StableCalls (rng : IngressPortRange) (svc : String) (updated₁ updated₂ : List Int)
    (aps₁ aps₂ : AllocatedPorts) (after₁ after₂ : KubernetesBackedPortAllocator) : Prop where
  /-- The allocations are for the ports of the lists. -/
  keys₁ : ∀ port, port ∈ aps₁.keys ↔ port ∈ updated₁
  keys₂ : ∀ port, port ∈ aps₂.keys ↔ port ∈ updated₂
  /-- A port of both lists keeps its ingress port. -/
  keeps : ∀ port ∈ updated₁, port ∈ updated₂ →
    aps₂.allocatedPort port = aps₁.allocatedPort port
  /-- A call made again changes nothing. -/
  again₁ : ∀ draws, Unchanged after₁ (updateAllocatedPorts rng after₁ svc updated₁ draws).2
  again₂ : ∀ draws, Unchanged after₂ (updateAllocatedPorts rng after₂ svc updated₂ draws).2

/-- Two successive calls for one service that succeed, with calls for other
    services in between, from any state the allocator can reach. A port of both
    lists is to keep its ingress port, and a call made once more is to change
    nothing. The second call is where a port that stands twice in the list does
    harm. -/
theorem stable_iff (rng : IngressPortRange) (pa pa₂ : KubernetesBackedPortAllocator)
    (svc : String) (updated₁ updated₂ : List Int) (draws₁ draws₂ : List Nat)
    (aps₁ aps₂ : AllocatedPorts)
    (hreach : ReachesWithin (callStep rng) (fun _ _ => True) newIngressPortAllocator pa)
    (h₁ : (updateAllocatedPorts rng pa svc updated₁ draws₁).1 = .ok aps₁)
    (hother : ReachesWithin (callStep rng) (fun _ c => c.serviceName ≠ svc)
      (updateAllocatedPorts rng pa svc updated₁ draws₁).2 pa₂)
    (h₂ : (updateAllocatedPorts rng pa₂ svc updated₂ draws₂).1 = .ok aps₂) :
    StableCalls rng svc updated₁ updated₂ aps₁ aps₂
        (updateAllocatedPorts rng pa svc updated₁ draws₁).2
        (updateAllocatedPorts rng pa₂ svc updated₂ draws₂).2 ↔
      (∀ port ∈ updated₁, port ∈ updated₂ → updated₂.count port ≤ 1) ∧
        RepeatQuiet rng pa svc updated₁ ∧ RepeatQuiet rng pa₂ svc updated₂ := by
  -- The state between the two calls is one the allocator can reach.
  have hsound : pa₂.toPool.Sound := by
    have hstep : ReachesWithin (callStep rng) (fun _ _ => True) newIngressPortAllocator
        (updateAllocatedPorts rng pa svc updated₁ draws₁).2 :=
      ReachesWithin.step _ _ _ (.update svc updated₁ draws₁) hreach trivial rfl
    exact sound_of_reachesWithin
      (reachesWithin_trans hstep (reachesWithin_mono (fun _ _ _ => trivial) hother))
  rcases of_updateAllocatedPorts_eq_ok h₁ with ⟨haps₁, _⟩
  rcases of_updateAllocatedPorts_eq_ok h₂ with ⟨haps₂, _⟩
  have hkeeps : ∀ port ∈ updated₁, port ∈ updated₂ →
      (aps₂.allocatedPort port = aps₁.allocatedPort port ↔ updated₂.count port ≤ 1) := by
    intro port hport₁ hport₂
    have hsame := held_of_reachesWithin_other hother port
    -- The calls for other services have left the port alone.
    have hkey : port ∈ (pa₂.getAllocatedPorts svc).keys := by
      by_contra hno
      have hnone : pa₂.toPool.held (svc, port) = none := held_toPool_eq_none.mpr hno
      rw [hsame, held_toPool_eq_none, ← haps₁, mem_keys_updateAllocatedPorts h₁] at hnone
      exact hnone hport₁
    rw [← held_updateAllocatedPorts_eq_iff hsound h₂ hkey hport₂, hsame, haps₁, haps₂]
    exact Iff.rfl
  constructor
  · intro hst
    exact ⟨fun port h1 h2 => (hkeeps port h1 h2).mp (hst.keeps port h1 h2),
      (unchanged_again_iff h₁ []).mp (hst.again₁ []),
      (unchanged_again_iff h₂ []).mp (hst.again₂ [])⟩
  · rintro ⟨hcount, hquiet₁, hquiet₂⟩
    exact ⟨mem_keys_updateAllocatedPorts h₁, mem_keys_updateAllocatedPorts h₂,
      fun port h1 h2 => (hkeeps port h1 h2).mpr (hcount port h1 h2),
      fun draws => (unchanged_again_iff h₁ draws).mpr hquiet₁,
      fun draws => (unchanged_again_iff h₂ draws).mpr hquiet₂⟩

theorem stable_iff_distinct :
    StableCalls ⟨10, 20, by decide⟩ "ws" [8080] [3000, 8080]
      ((updateAllocatedPorts ⟨10, 20, by decide⟩ newIngressPortAllocator "ws" [8080]
        []).2.getAllocatedPorts "ws")
      ((updateAllocatedPorts ⟨10, 20, by decide⟩
        (updateAllocatedPorts ⟨10, 20, by decide⟩ newIngressPortAllocator "ws" [8080] []).2
        "ws" [3000, 8080] []).2.getAllocatedPorts "ws")
      (updateAllocatedPorts ⟨10, 20, by decide⟩ newIngressPortAllocator "ws" [8080] []).2
      (updateAllocatedPorts ⟨10, 20, by decide⟩
        (updateAllocatedPorts ⟨10, 20, by decide⟩ newIngressPortAllocator "ws" [8080] []).2
        "ws" [3000, 8080] []).2 :=
  (stable_iff ⟨10, 20, by decide⟩ newIngressPortAllocator _ "ws" [8080] [3000, 8080] [] [] _ _
    (ReachesWithin.refl _) (updateAllocatedPorts_eq_ok (by decide +kernel))
    (ReachesWithin.refl _) (updateAllocatedPorts_eq_ok (by decide +kernel))).mpr
    ⟨by decide +kernel, Or.inl (by decide +kernel), Or.inl (by decide +kernel)⟩

/-- A port that the second list has twice changes its ingress port. -/
theorem unstable_of_repeated_port :
    ¬ ∀ (rng : IngressPortRange) (pa pa₂ : KubernetesBackedPortAllocator) (svc : String)
      (updated₁ updated₂ : List Int) (draws₁ draws₂ : List Nat) (aps₁ aps₂ : AllocatedPorts),
      ReachesWithin (callStep rng) (fun _ _ => True) newIngressPortAllocator pa →
      (updateAllocatedPorts rng pa svc updated₁ draws₁).1 = .ok aps₁ →
      ReachesWithin (callStep rng) (fun _ c => c.serviceName ≠ svc)
        (updateAllocatedPorts rng pa svc updated₁ draws₁).2 pa₂ →
      (updateAllocatedPorts rng pa₂ svc updated₂ draws₂).1 = .ok aps₂ →
      StableCalls rng svc updated₁ updated₂ aps₁ aps₂
        (updateAllocatedPorts rng pa svc updated₁ draws₁).2
        (updateAllocatedPorts rng pa₂ svc updated₂ draws₂).2 := by
  intro hall
  have hkeeps := (hall ⟨10, 20, by decide⟩ newIngressPortAllocator _ "ws" [8080] [8080, 8080] [] []
    _ _ (ReachesWithin.refl _) (updateAllocatedPorts_eq_ok (by decide +kernel))
    (ReachesWithin.refl _) (updateAllocatedPorts_eq_ok (by decide +kernel))).keeps 8080
      (by decide) (by decide)
  have hbad : ((updateAllocatedPorts ⟨10, 20, by decide⟩
      (updateAllocatedPorts ⟨10, 20, by decide⟩ newIngressPortAllocator "ws" [8080] []).2
      "ws" [8080, 8080] []).2.getAllocatedPorts "ws").allocatedPort 8080 ≠
      ((updateAllocatedPorts ⟨10, 20, by decide⟩ newIngressPortAllocator "ws" [8080]
        []).2.getAllocatedPorts "ws").allocatedPort 8080 := by decide +kernel
  exact hbad hkeeps

end KubernetesBackedPortAllocator

end WsManager

end Nxpod
