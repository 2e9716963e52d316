import Mathlib.Algebra.Order.Ring.Int
import Mathlib.Data.Finset.Card
import Mathlib.Data.Finset.Range
import Mathlib.Data.List.Sort
import Nxpod.Library.Map
import Nxpod.Library.Pool
import Nxpod.Library.Transition

/-!
# The Ingress Port Allocator

`kubernetesBackedPortAllocator` of ws-manager. Every workspace service exposes
some workspace ports, and the allocator maps each to an ingress port out of a
configured range.

The allocator keeps two maps. `services` has, for each service, the ingress
port of each of its workspace ports, and `allocatedPorts` has all ingress
ports that are taken. `UpdateAllocatedPorts` compares the workspace ports of a
service with a new list, removes those that are gone and allocates those that
are new. `FreeAllocatedPorts` removes a service.

The maps of the source are shared by reference. `getAllocatedPorts` returns
the service's own map, and removing a port from it or adding one changes what
`services` holds. Here the changed map is stored back.

Where an ingress port is searched from is random in the source. A draw is an
argument here, any number at all, of which the remainder by the size of the
range counts. A call of `UpdateAllocatedPorts` gets one draw for each port it
allocates.

The second half reads the two maps as a resource pool. A holder is a workspace
port of a service, and the marked resources are the keys of `allocatedPorts`.
Removing a port forgets what the holder has, allocating takes, and
`FreeAllocatedPorts` releases.

## Main definitions

* `IngressPortRange`, `AllocatedPort`, `AllocatedPorts`,
  `KubernetesBackedPortAllocator`: The data.
* `diff`: The ports that are gone and the ports that are new.
* `findNextIngressPort`, `allocatePort`, `updateAllocatedPorts`,
  `freeAllocatedPorts`: The source's functions.
* `freeIngressPorts`: What is left of the range.
* `toPool`: The allocator as a resource pool.
* `Call`: A call of the allocator, with the draws it gets.

## Theorems

* `count_diff_removals`, `count_diff_additions`: `diff` is the difference of
  lists with repetitions.
* `findNextIngressPort_eq_some`, `findNextIngressPort_eq_none`: A search
  returns a free port, and fails when there is none.
* `allocateAll_spec`: Allocating a list of ports takes, as far as the free
  ports reach.
* `updateAllocatedPorts_spec`: A call discards and then takes.
* `toPool_freeAllocatedPorts`: Freeing a service releases.
* `sound_of_reachesWithin`: No run hands a port out twice.
-/

namespace Nxpod

namespace WsManager

/-- The range of ingress ports: `start` is the first, `end_` the first that is
    not in it. -/
structure IngressPortRange where
  start : Int
  end_ : Int
  start_lt_end : start < end_

namespace IngressPortRange

variable (rng : IngressPortRange)

theorem start_add_injective : Function.Injective fun k : Nat => rng.start + (k : Int) :=
  fun _ _ h => Int.ofNat_inj.mp (Int.add_left_cancel h)

/-- The ports of the range. -/
def ports : Finset Int :=
  (Finset.range (rng.end_ - rng.start).toNat).map
    ⟨fun k : Nat => rng.start + (k : Int), rng.start_add_injective⟩

theorem mem_ports (port : Int) : port ∈ rng.ports ↔ rng.start ≤ port ∧ port < rng.end_ := by
  rw [ports, Finset.mem_map]
  constructor
  · rintro ⟨k, hk, rfl⟩
    rw [Finset.mem_range] at hk
    show rng.start ≤ rng.start + (k : Int) ∧ rng.start + (k : Int) < rng.end_
    omega
  · intro h
    refine ⟨(port - rng.start).toNat, Finset.mem_range.mpr (by omega), ?_⟩
    show rng.start + ((port - rng.start).toNat : Int) = port
    omega

end IngressPortRange

/-- A workspace port mapped to an allocated ingress port. -/
structure AllocatedPort where
  workspacePort : Int
  ingressPort : Int
  deriving DecidableEq

/-- The allocation of one service, by workspace port. -/
abbrev AllocatedPorts := Map Int AllocatedPort

/-- The allocator: the allocation of each service, and all allocated ports by
    ingress port. -/
structure KubernetesBackedPortAllocator where
  services : Map String AllocatedPorts
  allocatedPorts : Map Int AllocatedPort

/-- The allocator before anything is allocated. -/
def newIngressPortAllocator : KubernetesBackedPortAllocator where
  services := ∅
  allocatedPorts := ∅

/-- `PortAllocation.AllocatedPort`: the ingress port of a workspace port. -/
def AllocatedPorts.allocatedPort (aps : AllocatedPorts) (port : Int) : Option Int :=
  (aps.lookup port).map AllocatedPort.ingressPort

/-- The loop of `diff`, over the rest of the two sorted lists. -/
def diffSorted : List Int → List Int → List Int × List Int
  | [], us => ([], us)
  | c :: cs, [] => (c :: cs, [])
  | c :: cs, u :: us =>
      if u > c then
        let rest := diffSorted cs (u :: us)
        (c :: rest.1, rest.2)
      else if u < c then
        let rest := diffSorted (c :: cs) us
        (rest.1, u :: rest.2)
      else
        diffSorted cs us
  termination_by cs us => cs.length + us.length

/-- The removals and the additions between the current ports and an updated
    list. -/
def diff (current updated : List Int) : List Int × List Int :=
  diffSorted (current.insertionSort (· ≤ ·)) (updated.insertionSort (· ≤ ·))

namespace KubernetesBackedPortAllocator

variable (rng : IngressPortRange) (pa : KubernetesBackedPortAllocator)

/-- The allocation of a service. The source also stores the empty map it
    returns for a service that has none; see `withService`. -/
def getAllocatedPorts (serviceName : String) : AllocatedPorts :=
  (pa.services.lookup serviceName).getD ∅

/-- Store the map of a service. -/
def withService (serviceName : String) (aps : AllocatedPorts) : KubernetesBackedPortAllocator :=
  { pa with services := pa.services.insert serviceName aps }

/-- The ports of the range that are not allocated. -/
def freeIngressPorts : Finset Int :=
  rng.ports.filter fun port => pa.allocatedPorts.lookup port = none

/-- Search `tries` ports from `candidate` on, wrapping around at the end of
    the range. -/
def tryCandidates : Nat → Int → Option Int
  | 0, _ => none
  | tries + 1, candidate =>
      match pa.allocatedPorts.lookup candidate with
      | none => some candidate
      | some _ =>
          tryCandidates tries (((candidate - rng.start + 1) % (rng.end_ - rng.start)) + rng.start)

/-- A port of the range that is not allocated, searched from a random one. -/
def findNextIngressPort (draw : Nat) : Option Int :=
  tryCandidates rng pa (rng.end_ - rng.start).toNat
    (rng.start + (draw : Int) % (rng.end_ - rng.start))

/-- Allocate an ingress port for one workspace port of a service. -/
def allocatePort (serviceName : String) (workspacePort : Int) (draw : Nat) :
    Except String AllocatedPort × KubernetesBackedPortAllocator :=
  match findNextIngressPort rng pa draw with
  | none =>
      (.error s!"unable to allocate ingress port for {serviceName}:{workspacePort}", pa)
  | some ingressPort =>
      let ap : AllocatedPort := ⟨workspacePort, ingressPort⟩
      let aps := (pa.getAllocatedPorts serviceName).insert ap.workspacePort ap
      (.ok ap,
        { pa with allocatedPorts := pa.allocatedPorts.insert ap.ingressPort ap }.withService
          serviceName aps)

/-- Allocate for one port after the other, until one fails. What was allocated
    before stays. -/
def allocateAll (serviceName : String) :
    List Int → List Nat → KubernetesBackedPortAllocator →
      Except String Unit × KubernetesBackedPortAllocator
  | [], _, pa => (.ok (), pa)
  | addition :: additions, draws, pa =>
      match allocatePort rng pa serviceName addition (draws.headD 0) with
      | (.error err, pa') => (.error err, pa')
      | (.ok _, pa') => allocateAll serviceName additions draws.tail pa'

/-- Allocate ingress ports for exactly the given workspace ports of a service.
    The ports that are gone are removed from the service's map; nothing is
    removed from `allocatedPorts`. -/
def updateAllocatedPorts (serviceName : String) (updatedPorts : List Int) (draws : List Nat) :
    Except String AllocatedPorts × KubernetesBackedPortAllocator :=
  let aps := pa.getAllocatedPorts serviceName
  let (removals, additions) := diff aps.keys updatedPorts
  let pa' := pa.withService serviceName (Map.eraseAll aps removals)
  match allocateAll rng serviceName additions draws pa' with
  | (.error err, pa'') => (.error err, pa'')
  | (.ok _, pa'') => (.ok (pa''.getAllocatedPorts serviceName), pa'')

/-- Free all allocated ports of a service. -/
def freeAllocatedPorts (serviceName : String) : KubernetesBackedPortAllocator :=
  let aps := pa.getAllocatedPorts serviceName
  if (Map.values aps).isEmpty then
    { pa with services := pa.services.erase serviceName }
  else
    { services := pa.services.erase serviceName
      allocatedPorts :=
        Map.eraseAll pa.allocatedPorts ((Map.values aps).map AllocatedPort.ingressPort) }

end KubernetesBackedPortAllocator

/-! ## The difference of two port lists -/

section Diff

theorem count_eq_zero_of_lt_head {c u : Int} {us : List Int} (hlt : c < u)
    (hu : (u :: us).Pairwise (· ≤ ·)) : (u :: us).count c = 0 := by
  refine List.count_eq_zero_of_not_mem fun hmem => ?_
  rcases List.mem_cons.mp hmem with hcu | hcu
  · exact absurd hlt (hcu ▸ lt_irrefl c)
  · exact absurd (lt_of_lt_of_le hlt (List.rel_of_pairwise_cons hu hcu)) (lt_irrefl c)

/-- The loop leaves of each list what the other one does not account for. -/
theorem count_diffSorted (v : Int) (cs us : List Int) (hc : cs.Pairwise (· ≤ ·))
    (hu : us.Pairwise (· ≤ ·)) :
    (diffSorted cs us).1.count v = cs.count v - us.count v ∧
      (diffSorted cs us).2.count v = us.count v - cs.count v := by
  induction cs, us using diffSorted.induct with
  | case1 us => simp only [diffSorted, List.count_nil, Nat.zero_sub, Nat.sub_zero, and_self]
  | case2 c cs => simp only [diffSorted, List.count_nil, Nat.zero_sub, Nat.sub_zero, and_self]
  | case3 c cs u us hlt ih =>
      rcases ih (List.Pairwise.of_cons hc) hu with ⟨ih1, ih2⟩
      have hcount : (u :: us).count c = 0 := count_eq_zero_of_lt_head hlt hu
      rw [diffSorted, if_pos hlt]
      rcases eq_or_ne v c with rfl | hv
      · simp only [List.count_cons_self, ih1, ih2, hcount]
        omega
      · simp only [List.count_cons_of_ne hv.symm, ih1, ih2, and_self]
  | case4 c cs u us hlt hlt' ih =>
      rcases ih hc (List.Pairwise.of_cons hu) with ⟨ih1, ih2⟩
      have hcount : (c :: cs).count u = 0 := count_eq_zero_of_lt_head hlt' hc
      rw [diffSorted, if_neg hlt, if_pos hlt']
      rcases eq_or_ne v u with rfl | hv
      · simp only [List.count_cons_self, ih1, ih2, hcount]
        omega
      · simp only [List.count_cons_of_ne hv.symm, ih1, ih2, and_self]
  | case5 c cs u us hlt hlt' ih =>
      rcases ih (List.Pairwise.of_cons hc) (List.Pairwise.of_cons hu) with ⟨ih1, ih2⟩
      have heq : u = c := le_antisymm (not_lt.mp hlt) (not_lt.mp hlt')
      rw [diffSorted, if_neg hlt, if_neg hlt', ih1, ih2, heq, List.count_cons, List.count_cons]
      omega

variable (current updated : List Int) (v : Int)

/-- What is removed are the ports that the new list has not, as often as it has
    not. -/
theorem count_diff_removals :
    (diff current updated).1.count v = current.count v - updated.count v := by
  rw [diff, (count_diffSorted v _ _ (List.pairwise_insertionSort _ _)
      (List.pairwise_insertionSort _ _)).1,
    (List.perm_insertionSort _ current).count_eq, (List.perm_insertionSort _ updated).count_eq]

theorem count_diff_additions :
    (diff current updated).2.count v = updated.count v - current.count v := by
  rw [diff, (count_diffSorted v _ _ (List.pairwise_insertionSort _ _)
      (List.pairwise_insertionSort _ _)).2,
    (List.perm_insertionSort _ current).count_eq, (List.perm_insertionSort _ updated).count_eq]

end Diff

/-! ## The search for a free port -/

namespace KubernetesBackedPortAllocator

variable {rng : IngressPortRange} {pa : KubernetesBackedPortAllocator}

theorem mem_freeIngressPorts_of_tryCandidates {tries : Nat} {candidate port : Int}
    (hc : candidate ∈ rng.ports)
    (h : tryCandidates rng pa tries candidate = some port) : port ∈ freeIngressPorts rng pa := by
  induction tries generalizing candidate with
  | zero => exact absurd h (by simp only [tryCandidates, reduceCtorEq, not_false_eq_true])
  | succ tries ih =>
      rw [tryCandidates] at h
      cases hlookup : pa.allocatedPorts.lookup candidate with
      | none =>
          rw [hlookup] at h
          rw [← Option.some.inj h]
          exact Finset.mem_filter.mpr ⟨hc, hlookup⟩
      | some ap =>
          rw [hlookup] at h
          refine ih ((rng.mem_ports _).mpr ?_) h
          have hpos : 0 < rng.end_ - rng.start := Int.sub_pos_of_lt rng.start_lt_end
          have hnonneg := Int.emod_nonneg (candidate - rng.start + 1) (ne_of_gt hpos)
          have hlt := Int.emod_lt_of_pos (candidate - rng.start + 1) hpos
          omega

/-- A failed search has looked at each of the `tries` ports from the first
    candidate on, counted around the range. -/
theorem lookup_of_tryCandidates_eq_none {tries : Nat} {x : Int}
    (h : tryCandidates rng pa tries (rng.start + x % (rng.end_ - rng.start)) = none)
    {j : Nat} (hj : j < tries) :
    pa.allocatedPorts.lookup (rng.start + (x + j) % (rng.end_ - rng.start)) ≠ none := by
  induction tries generalizing x j with
  | zero => exact absurd hj (Nat.not_lt_zero j)
  | succ tries ih =>
      rw [tryCandidates] at h
      cases hlookup : pa.allocatedPorts.lookup (rng.start + x % (rng.end_ - rng.start)) with
      | none =>
          rw [hlookup] at h
          exact absurd h (by simp only [reduceCtorEq, not_false_eq_true])
      | some ap =>
          cases j with
          | zero =>
              rw [Nat.cast_zero, add_zero, hlookup]
              exact Option.some_ne_none ap
          | succ j =>
              -- the next candidate is the first one of the remaining tries
              have hnext : (rng.start + x % (rng.end_ - rng.start) - rng.start + 1) %
                  (rng.end_ - rng.start) + rng.start =
                  rng.start + (x + 1) % (rng.end_ - rng.start) := by
                rw [add_sub_cancel_left, Int.emod_add_emod, add_comm]
              rw [hlookup, hnext] at h
              have := ih h (Nat.lt_of_succ_lt_succ hj)
              rwa [add_assoc, add_comm (1 : Int), ← Nat.cast_succ] at this

/-- Wherever the search begins, it begins in the range. -/
theorem mem_range_of_draw (rng : IngressPortRange) (draw : Nat) :
    rng.start + (draw : Int) % (rng.end_ - rng.start) ∈ rng.ports := by
  have hpos : 0 < rng.end_ - rng.start := Int.sub_pos_of_lt rng.start_lt_end
  have hnonneg := Int.emod_nonneg (draw : Int) (ne_of_gt hpos)
  have hlt := Int.emod_lt_of_pos (draw : Int) hpos
  rw [IngressPortRange.mem_ports]
  omega

/-- A search returns a free port. -/
theorem findNextIngressPort_eq_some {draw : Nat} {port : Int}
    (h : findNextIngressPort rng pa draw = some port) : port ∈ freeIngressPorts rng pa :=
  mem_freeIngressPorts_of_tryCandidates (mem_range_of_draw rng draw) h

/-- A search fails when no port is free: it went all the way around. -/
theorem findNextIngressPort_eq_none {draw : Nat}
    (h : findNextIngressPort rng pa draw = none) : freeIngressPorts rng pa = ∅ := by
  refine Finset.eq_empty_of_forall_notMem fun port hport => ?_
  rcases Finset.mem_filter.mp hport with ⟨hrange, hfree⟩
  rw [IngressPortRange.mem_ports] at hrange
  have hpos : 0 < rng.end_ - rng.start := Int.sub_pos_of_lt rng.start_lt_end
  -- how far `port` is from the first candidate
  have hnonneg := Int.emod_nonneg (port - rng.start - draw) (ne_of_gt hpos)
  have hlt := Int.emod_lt_of_pos (port - rng.start - draw) hpos
  have hj : ((port - rng.start - draw) % (rng.end_ - rng.start)).toNat <
      (rng.end_ - rng.start).toNat := by omega
  have hlook := lookup_of_tryCandidates_eq_none h hj
  rw [Int.toNat_of_nonneg hnonneg, Int.add_emod_emod, add_sub_cancel,
    Int.emod_eq_of_lt (by omega) (by omega), add_sub_cancel] at hlook
  exact hlook hfree

end KubernetesBackedPortAllocator

/-! ## The allocator as a resource pool -/

namespace KubernetesBackedPortAllocator

/-- The workspace ports of the services hold ingress ports, and the keys of
    `allocatedPorts` are marked. -/
def toPool (pa : KubernetesBackedPortAllocator) : Pool (String × Int) Int where
  held i := (pa.getAllocatedPorts i.1).allocatedPort i.2
  marked := {port | pa.allocatedPorts.lookup port ≠ none}

variable {rng : IngressPortRange} {pa : KubernetesBackedPortAllocator}

theorem held_toPool_eq_none {i : String × Int} :
    pa.toPool.held i = none ↔ i.2 ∉ (pa.getAllocatedPorts i.1).keys := by
  simp only [toPool, AllocatedPorts.allocatedPort, Option.map_eq_none_iff, AList.lookup_eq_none,
    AList.mem_keys]

theorem getAllocatedPorts_withService (svc svc' : String) (aps : AllocatedPorts) :
    (pa.withService svc aps).getAllocatedPorts svc' =
      if svc' = svc then aps else pa.getAllocatedPorts svc' := by
  rw [getAllocatedPorts, withService, Map.lookup_insert_eq_ite]
  split_ifs
  · rfl
  · rfl

/-- Removing workspace ports of a service forgets their ingress ports. -/
theorem toPool_removals (svc : String) (removals : List Int) :
    (pa.withService svc (Map.eraseAll (pa.getAllocatedPorts svc) removals)).toPool =
      pa.toPool.discard fun i => i.1 = svc ∧ i.2 ∈ removals := by
  refine Pool.ext ?_ rfl
  funext ⟨svc', port⟩
  simp only [toPool, Pool.discard, getAllocatedPorts_withService, AllocatedPorts.allocatedPort]
  by_cases hsvc : svc' = svc
  · rw [if_pos hsvc, Map.lookup_eraseAll, hsvc]
    simp only [true_and]
    split_ifs
    · rfl
    · rfl
  · simp only [hsvc, if_false, false_and]

theorem allocatePort_eq_error {svc : String} {port : Int} {draw : Nat}
    (h : findNextIngressPort rng pa draw = none) :
    allocatePort rng pa svc port draw =
      (.error s!"unable to allocate ingress port for {svc}:{port}", pa) := by
  simp only [allocatePort, h]

theorem allocatePort_eq_ok {svc : String} {port ingressPort : Int} {draw : Nat}
    (h : findNextIngressPort rng pa draw = some ingressPort) :
    allocatePort rng pa svc port draw =
      (.ok ⟨port, ingressPort⟩, (allocatePort rng pa svc port draw).2) := by
  simp only [allocatePort, h]

/-- Allocating for one port takes the ingress port that was found. -/
theorem toPool_allocatePort (svc : String) (port : Int) {ingressPort : Int} {draw : Nat}
    (h : findNextIngressPort rng pa draw = some ingressPort) :
    (allocatePort rng pa svc port draw).2.toPool = pa.toPool.take (svc, port) ingressPort := by
  simp only [allocatePort, h]
  refine Pool.ext ?_ ?_
  · funext ⟨svc', port'⟩
    rw [Pool.held_take]
    simp only [toPool, getAllocatedPorts_withService, AllocatedPorts.allocatedPort, Prod.mk.injEq]
    by_cases hsvc : svc' = svc
    · rw [if_pos hsvc, Map.lookup_insert_eq_ite, hsvc]
      simp only [true_and]
      split_ifs
      · rfl
      · rfl
    · simp only [hsvc, if_false, false_and]
      rfl
  · ext r
    simp only [toPool, Pool.take, withService, Set.mem_ofPred_eq, Map.lookup_insert_eq_ite,
      Set.mem_insert_iff]
    split_ifs with hr
    · simp only [hr, ne_eq, reduceCtorEq, not_false_eq_true, true_or]
    · simp only [hr, false_or]

theorem freeIngressPorts_allocatePort (svc : String) (port : Int) {ingressPort : Int}
    {draw : Nat}
    (h : findNextIngressPort rng pa draw = some ingressPort) :
    freeIngressPorts rng (allocatePort rng pa svc port draw).2 =
      (freeIngressPorts rng pa).erase ingressPort := by
  simp only [allocatePort, h]
  ext r
  simp only [freeIngressPorts, withService, Finset.mem_filter, Map.lookup_insert_eq_ite,
    Finset.mem_erase]
  split_ifs with hr
  · simp only [hr, and_false, ne_eq, not_true_eq_false, false_and]
  · simp only [hr, ne_eq, not_false_eq_true, true_and]

/-- What allocating for a list of ports does: each of them takes an ingress
    port, as many as are free, and it fails when they do not suffice. -/
theorem allocateAll_spec (rng : IngressPortRange) (svc : String) (additions : List Int)
    (draws : List Nat) (pa : KubernetesBackedPortAllocator) :
    Pool.Takes ((additions.take (freeIngressPorts rng pa).card).map (svc, ·)) pa.toPool
        (allocateAll rng svc additions draws pa).2.toPool ∧
      (freeIngressPorts rng (allocateAll rng svc additions draws pa).2).card =
        (freeIngressPorts rng pa).card - additions.length ∧
      ((allocateAll rng svc additions draws pa).1 = .ok () ↔
        additions.length ≤ (freeIngressPorts rng pa).card) := by
  induction additions generalizing draws pa with
  | nil =>
      rw [List.take_nil]
      exact ⟨Pool.Takes.nil _, rfl, iff_of_true rfl (Nat.zero_le _)⟩
  | cons addition additions ih =>
      rw [allocateAll]
      cases hfind : findNextIngressPort rng pa (draws.headD 0) with
      | none =>
          -- nothing is free, so the first port already fails
          rw [allocatePort_eq_error hfind]
          simp only [findNextIngressPort_eq_none hfind, Finset.card_empty, List.take_zero,
            List.map_nil, Nat.zero_sub, reduceCtorEq, List.length_cons, Nat.le_zero_eq,
            Nat.add_eq_zero_iff, one_ne_zero, and_false, and_true]
          exact Pool.Takes.nil _
      | some ingressPort =>
          have hfree := findNextIngressPort_eq_some hfind
          have htake := toPool_allocatePort svc addition hfind
          have hcard := congrArg Finset.card (freeIngressPorts_allocatePort svc addition hfind)
          rw [Finset.card_erase_of_mem hfree] at hcard
          have hpos := Finset.card_pos.mpr ⟨ingressPort, hfree⟩
          rw [allocatePort_eq_ok hfind]
          rcases ih draws.tail (allocatePort rng pa svc addition (draws.headD 0)).2 with
            ⟨htakes, hrest, hok⟩
          rw [hcard] at htakes hrest hok
          rw [htake] at htakes
          refine ⟨?_, ?_, ?_⟩
          · rw [← Nat.succ_pred_eq_of_pos hpos, List.take_succ_cons, List.map_cons]
            exact Pool.Takes.cons _ ingressPort _ _ _ (not_not.mpr (Finset.mem_filter.mp hfree).2)
              htakes
          · rw [List.length_cons, hrest]
            omega
          · rw [List.length_cons]
            exact hok.trans (Nat.le_sub_one_iff_lt hpos)

section Update

variable (pa) (svc : String) (updated : List Int)

/-- The workspace ports of a service that a call removes. -/
def gonePorts : List Int :=
  (diff (pa.getAllocatedPorts svc).keys updated).1

/-- The workspace ports that a call is to allocate. -/
def newPorts : List Int :=
  (diff (pa.getAllocatedPorts svc).keys updated).2

variable {pa svc updated}

/-- The ports to be removed are those that the service has and the list has not. -/
theorem mem_gonePorts {port : Int} :
    port ∈ gonePorts pa svc updated ↔ port ∈ (pa.getAllocatedPorts svc).keys ∧ port ∉ updated := by
  rw [gonePorts, ← List.count_pos_iff, count_diff_removals, ← List.count_pos_iff (a := port),
    ← List.count_eq_zero]
  have hnodup := List.nodup_iff_count_le_one.mp (pa.getAllocatedPorts svc).keys_nodup port
  omega

theorem gonePorts_eq_nil_iff :
    gonePorts pa svc updated = [] ↔ ∀ port ∈ (pa.getAllocatedPorts svc).keys, port ∈ updated := by
  simp only [List.eq_nil_iff_forall_not_mem, mem_gonePorts, not_and, not_not]

/-- A port the service does not have is new. -/
theorem count_newPorts_of_not_mem {port : Int} (h : port ∉ (pa.getAllocatedPorts svc).keys) :
    (newPorts pa svc updated).count port = updated.count port := by
  rw [newPorts, count_diff_additions, List.count_eq_zero.mpr h, Nat.sub_zero]

/-- A port the service has is new from its second occurrence on. -/
theorem count_newPorts_of_mem {port : Int} (h : port ∈ (pa.getAllocatedPorts svc).keys) :
    (newPorts pa svc updated).count port = updated.count port - 1 := by
  rw [newPorts, count_diff_additions,
    List.count_eq_one_of_mem (pa.getAllocatedPorts svc).keys_nodup h]

end Update

variable {svc : String} {updated : List Int} {draws : List Nat}

/-- A call first removes and then allocates, and stops at the first port that
    there is nothing for. -/
theorem updateAllocatedPorts_eq :
    updateAllocatedPorts rng pa svc updated draws =
      match allocateAll rng svc (newPorts pa svc updated) draws
        (pa.withService svc (Map.eraseAll (pa.getAllocatedPorts svc) (gonePorts pa svc updated)))
      with
      | (.error err, pa') => (.error err, pa')
      | (.ok _, pa') => (.ok (pa'.getAllocatedPorts svc), pa') :=
  rfl

/-- Removing a port from a service frees no ingress port. -/
theorem freeIngressPorts_withService (aps : AllocatedPorts) :
    freeIngressPorts rng (pa.withService svc aps) = freeIngressPorts rng pa :=
  rfl

variable (rng pa svc updated draws) in
/-- What a call does: the ports that are gone are forgotten, and as many of
    the new ones as there are free ingress ports take one each. -/
theorem updateAllocatedPorts_spec :
    Pool.Takes
        (((newPorts pa svc updated).take (freeIngressPorts rng pa).card).map (svc, ·))
        (pa.toPool.discard fun i => i.1 = svc ∧ i.2 ∈ gonePorts pa svc updated)
        (updateAllocatedPorts rng pa svc updated draws).2.toPool ∧
      (freeIngressPorts rng (updateAllocatedPorts rng pa svc updated draws).2).card =
        (freeIngressPorts rng pa).card - (newPorts pa svc updated).length := by
  rcases allocateAll_spec rng svc (newPorts pa svc updated) draws
    (pa.withService svc (Map.eraseAll (pa.getAllocatedPorts svc) (gonePorts pa svc updated)))
    with ⟨htakes, hcard, _⟩
  rw [toPool_removals, freeIngressPorts_withService] at htakes
  rw [updateAllocatedPorts_eq]
  split
  · next heq =>
      rw [heq] at htakes hcard
      exact ⟨htakes, hcard⟩
  · next heq =>
      rw [heq] at htakes hcard
      exact ⟨htakes, hcard⟩

variable (rng pa svc updated draws) in
/-- A call returns the service's allocation when there are enough free ingress
    ports for the new ports, and fails otherwise. -/
theorem updateAllocatedPorts_fst :
    (updateAllocatedPorts rng pa svc updated draws).1 =
        .ok ((updateAllocatedPorts rng pa svc updated draws).2.getAllocatedPorts svc) ∧
        (newPorts pa svc updated).length ≤ (freeIngressPorts rng pa).card ∨
      (∃ err, (updateAllocatedPorts rng pa svc updated draws).1 = .error err) ∧
        (freeIngressPorts rng pa).card < (newPorts pa svc updated).length := by
  have hok := (allocateAll_spec rng svc (newPorts pa svc updated) draws
    (pa.withService svc (Map.eraseAll (pa.getAllocatedPorts svc) (gonePorts pa svc updated)))).2.2
  rw [freeIngressPorts_withService] at hok
  rw [updateAllocatedPorts_eq]
  split
  · next err _ heq =>
      rw [heq] at hok
      have hnot : ¬ (newPorts pa svc updated).length ≤ (freeIngressPorts rng pa).card :=
        fun hle => absurd (hok.mpr hle) (by simp only [reduceCtorEq, not_false_eq_true])
      exact Or.inr ⟨⟨err, rfl⟩, not_le.mp hnot⟩
  · next heq =>
      rw [heq] at hok
      exact Or.inl ⟨rfl, hok.mp rfl⟩

/-- A call that succeeds returns what the service has after it, and there were
    ports enough. -/
theorem of_updateAllocatedPorts_eq_ok {aps : AllocatedPorts}
    (h : (updateAllocatedPorts rng pa svc updated draws).1 = .ok aps) :
    aps = (updateAllocatedPorts rng pa svc updated draws).2.getAllocatedPorts svc ∧
      (newPorts pa svc updated).length ≤ (freeIngressPorts rng pa).card := by
  rcases updateAllocatedPorts_fst rng pa svc updated draws with ⟨hok, hle⟩ | ⟨⟨err, herr⟩, _⟩
  · exact ⟨Except.ok.inj (h.symm.trans hok), hle⟩
  · exact absurd (h.symm.trans herr) (by simp only [reduceCtorEq, not_false_eq_true])

/-- A call that fails has asked for more ports than were free. -/
theorem of_updateAllocatedPorts_eq_error {err : String}
    (h : (updateAllocatedPorts rng pa svc updated draws).1 = .error err) :
    (freeIngressPorts rng pa).card < (newPorts pa svc updated).length := by
  rcases updateAllocatedPorts_fst rng pa svc updated draws with ⟨hok, _⟩ | ⟨_, hlt⟩
  · exact absurd (h.symm.trans hok) (by simp only [reduceCtorEq, not_false_eq_true])
  · exact hlt

/-- With ports enough it succeeds, whatever the draws are. -/
theorem updateAllocatedPorts_eq_ok
    (h : (newPorts pa svc updated).length ≤ (freeIngressPorts rng pa).card) :
    (updateAllocatedPorts rng pa svc updated draws).1 =
      .ok ((updateAllocatedPorts rng pa svc updated draws).2.getAllocatedPorts svc) := by
  rcases updateAllocatedPorts_fst rng pa svc updated draws with ⟨hok, _⟩ | ⟨_, hlt⟩
  · exact hok
  · exact absurd h (not_le.mpr hlt)

/-- A service that was removed has nothing, and the others keep what they have. -/
theorem getAllocatedPorts_freeAllocatedPorts (svc' : String) :
    (pa.freeAllocatedPorts svc).getAllocatedPorts svc' =
      if svc' = svc then ∅ else pa.getAllocatedPorts svc' := by
  have hservices : (pa.freeAllocatedPorts svc).services = pa.services.erase svc := by
    simp only [freeAllocatedPorts]
    split_ifs
    · rfl
    · rfl
  rw [getAllocatedPorts, hservices, Map.lookup_erase_eq_ite]
  split_ifs
  · rfl
  · rfl

/-- Freeing a service releases what its ports hold. -/
theorem toPool_freeAllocatedPorts :
    (pa.freeAllocatedPorts svc).toPool = pa.toPool.release fun i => i.1 = svc := by
  -- What is released are the ports that are held for the service.
  have hvalues : ∀ r, (∃ port, (pa.getAllocatedPorts svc).allocatedPort port = some r) ↔
      r ∈ (Map.values (pa.getAllocatedPorts svc)).map AllocatedPort.ingressPort := by
    intro r
    simp only [List.mem_map, Map.mem_values_iff, AllocatedPorts.allocatedPort,
      Option.map_eq_some_iff]
    constructor
    · rintro ⟨port, ap, hap, hr⟩
      exact ⟨ap, ⟨port, hap⟩, hr⟩
    · rintro ⟨ap, ⟨port, hap⟩, hr⟩
      exact ⟨port, ap, hap, hr⟩
  refine Pool.ext ?_ ?_
  · funext ⟨svc', port⟩
    simp only [toPool, Pool.release, getAllocatedPorts_freeAllocatedPorts]
    split_ifs
    · rfl
    · rfl
  · ext r
    have hnone : (∀ i : String × Int, i.1 = svc → pa.toPool.held i ≠ some r) ↔
        r ∉ (Map.values (pa.getAllocatedPorts svc)).map AllocatedPort.ingressPort := by
      rw [← hvalues r, not_exists]
      exact ⟨fun h port => h (svc, port) rfl, fun h i hi => by subst hi; exact h i.2⟩
    simp only [Pool.release, Set.mem_ofPred_eq, hnone]
    simp only [toPool, freeAllocatedPorts]
    split_ifs with hempty
    · rw [List.isEmpty_iff.mp hempty, List.map_nil]
      simp only [Set.mem_ofPred_eq, List.not_mem_nil, not_false_eq_true, and_true]
    · simp only [Set.mem_ofPred_eq, Map.lookup_eraseAll]
      split_ifs with hr
      · simp only [hr, ne_eq, not_true_eq_false, and_false]
      · simp only [hr, not_false_eq_true, and_true]

/-! ## Runs -/

/-- A call of the allocator, with the draws it gets. -/
inductive Call where
  | update (serviceName : String) (updatedPorts : List Int) (draws : List Nat)
  | free (serviceName : String)
  deriving DecidableEq

/-- The service that a call is for. -/
def Call.serviceName : Call → String
  | .update serviceName _ _ => serviceName
  | .free serviceName => serviceName

/-- The allocator after a call. -/
def callStep (rng : IngressPortRange) (pa : KubernetesBackedPortAllocator) :
    Call → Option KubernetesBackedPortAllocator
  | .update serviceName updatedPorts draws =>
      some (updateAllocatedPorts rng pa serviceName updatedPorts draws).2
  | .free serviceName => some (freeAllocatedPorts pa serviceName)

theorem sound_newIngressPortAllocator : newIngressPortAllocator.toPool.Sound := by
  have hnone : ∀ i r, newIngressPortAllocator.toPool.held i ≠ some r := by
    intro i r
    simp only [toPool, newIngressPortAllocator, getAllocatedPorts, AList.lookup_empty,
      Option.getD_none, AllocatedPorts.allocatedPort, Option.map_none, ne_eq, reduceCtorEq,
      not_false_eq_true]
  exact ⟨fun i _ r hi => absurd hi (hnone i r), fun i r hi => absurd hi (hnone i r)⟩

theorem sound_callStep {pa' : KubernetesBackedPortAllocator} {c : Call}
    (hpa : pa.toPool.Sound) (h : callStep rng pa c = some pa') : pa'.toPool.Sound := by
  cases c with
  | update svc updated draws =>
      rw [← Option.some.inj h]
      exact Pool.sound_of_takes (updateAllocatedPorts_spec rng pa svc updated draws).1
        (Pool.sound_discard _ hpa)
  | free svc =>
      rw [← Option.some.inj h, toPool_freeAllocatedPorts]
      exact Pool.sound_release _ hpa

/-- No run hands an ingress port out twice, and all that are held are marked. -/
theorem sound_of_reachesWithin {ok : KubernetesBackedPortAllocator → Call → Prop}
    (h : Transition.ReachesWithin (callStep rng) ok newIngressPortAllocator pa) :
    pa.toPool.Sound := by
  have hstep : ∀ s s' c, Transition.ReachesWithin (callStep rng) ok newIngressPortAllocator s →
      s.toPool.Sound → ok s c → callStep rng s c = some s' → s'.toPool.Sound :=
    fun _ _ _ _ hs _ h => sound_callStep hs h
  exact (Transition.invariant_of_reachesWithin hstep h sound_newIngressPortAllocator :)

end KubernetesBackedPortAllocator

end WsManager

end Nxpod
