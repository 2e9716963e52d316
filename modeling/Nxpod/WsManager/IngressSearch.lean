import Mathlib.Data.List.Rotate
import Nxpod.WsManager.IngressAllocator

/-!
# The Search for an Ingress Port

The allocator looks for a free port from a random one on, and goes back to the start of the range
at its end. The ports that it may look at are the range, rotated by the random offset. So each of
them is there once, whatever the offset is, and the search is for the first free port of this list.

## Main definitions

* `searchFrom`: The loop, with the ports that it looks at.
* `candidates`: The range, from a port on.
* `Searches`: What is asked of a search.

## Theorems

* `searchFrom_snd`: The loop is that of the allocator.
* `mem_candidates_iff`, `nodup_candidates`: The range, each port once.
* `findNextIngressPort_eq_find`: The first free port.
* `tried_isPrefix`: The ports that are looked at.
* `findNextIngressPort_searches`: Every search.
-/

namespace Nxpod

namespace WsManager

namespace IngressSearch

open KubernetesBackedPortAllocator

variable (rng : IngressPortRange) (pa : KubernetesBackedPortAllocator)

/-! ## What is asked of a search -/

/-- The loop of the search: the ports that are looked at, and the one that is found. -/
def searchFrom : Nat → Int → List Int × Option Int
  | 0, _ => ([], none)
  | tries + 1, candidate => match pa.allocatedPorts.lookup candidate with
    | none => ([candidate], some candidate)
    | some _ =>
        let rest := searchFrom tries
          (((candidate - rng.start + 1) % (rng.end_ - rng.start)) + rng.start)
        (candidate :: rest.1, rest.2)

/-- The search of the allocator together with the ports it has looked at. -/
def search (draw : Nat) : List Int × Option Int :=
  searchFrom rng pa (rng.end_ - rng.start).toNat
    (rng.start + (draw : Int) % (rng.end_ - rng.start))

/-- The ports that a search looks at, one try after the other. -/
def tried (draw : Nat) : List Int :=
  (search rng pa draw).1

/-- What the search is to do, for one state and one draw. -/
structure Searches (draw : Nat) : Prop where
  /-- The search is the allocator's. -/
  loop : (search rng pa draw).2 = findNextIngressPort rng pa draw
  /-- There are no more tries than ports. -/
  bounded : (tried rng pa draw).length ≤ (rng.end_ - rng.start).toNat
  once : (tried rng pa draw).Nodup
  found : ∀ port, findNextIngressPort rng pa draw = some port →
    rng.start ≤ port ∧ port < rng.end_ ∧ pa.allocatedPorts.lookup port = none
  finds : (∃ port, rng.start ≤ port ∧ port < rng.end_ ∧ pa.allocatedPorts.lookup port = none) →
    ∃ port, findNextIngressPort rng pa draw = some port
  fails : findNextIngressPort rng pa draw = none ↔
    ∀ port, rng.start ≤ port → port < rng.end_ → pa.allocatedPorts.lookup port ≠ none

/-- The ports of the range, from one of them on. -/
def candidates (draw : Nat) : List Int :=
  ((List.range (rng.end_ - rng.start).toNat).rotate draw).map fun k : Nat => rng.start + (k : Int)

/-- The port is not marked. -/
def isFree (port : Int) : Bool :=
  pa.allocatedPorts.lookup port = none

/-! ## The candidates -/

variable {rng pa}

theorem toNat_width : (((rng.end_ - rng.start).toNat : Nat) : Int) = rng.end_ - rng.start :=
  Int.toNat_of_nonneg (Int.sub_pos_of_lt rng.start_lt_end).le

theorem length_candidates (draw : Nat) :
    (candidates rng draw).length = (rng.end_ - rng.start).toNat := by
  rw [candidates, List.length_map, List.length_rotate, List.length_range]

theorem nodup_candidates (draw : Nat) : (candidates rng draw).Nodup :=
  (List.nodup_rotate.mpr List.nodup_range).map rng.start_add_injective

theorem mem_candidates_iff {draw : Nat} {port : Int} :
    port ∈ candidates rng draw ↔ rng.start ≤ port ∧ port < rng.end_ := by
  rw [candidates, List.mem_map]
  simp only [List.mem_rotate, List.mem_range]
  constructor
  · rintro ⟨k, hk, rfl⟩
    omega
  · intro h
    exact ⟨(port - rng.start).toNat, by omega, by omega⟩

/-- The candidate of a try. -/
def candidateAt (rng : IngressPortRange) (x : Nat) : Int :=
  rng.start + (x : Int) % (rng.end_ - rng.start)

/-- The candidates in the order in which they are looked at. -/
theorem candidates_eq (draw : Nat) : candidates rng draw =
    (List.range (rng.end_ - rng.start).toNat).map fun j => candidateAt rng (draw + j) := by
  unfold candidates candidateAt
  refine List.ext_getElem ?_ fun j hj hj' => ?_
  · rw [List.length_map, List.length_rotate, List.length_map]
  · rw [List.getElem_map, List.getElem_map, List.getElem_rotate, List.getElem_range,
      List.getElem_range, List.length_range, Int.natCast_mod, toNat_width, Nat.add_comm]

/-- What is tried after a candidate. -/
theorem next_candidateAt (x : Nat) :
    (candidateAt rng x - rng.start + 1) % (rng.end_ - rng.start) + rng.start =
      candidateAt rng (x + 1) := by
  unfold candidateAt
  rw [add_sub_cancel_left, Int.emod_add_emod, add_comm, Nat.cast_succ]

/-! ## The loop -/

/-- The loop is that of the allocator. -/
theorem searchFrom_snd (tries : Nat) (candidate : Int) :
    (searchFrom rng pa tries candidate).2 = tryCandidates rng pa tries candidate := by
  induction tries generalizing candidate with
  | zero => rfl
  | succ tries ih =>
      rw [searchFrom, tryCandidates]
      cases pa.allocatedPorts.lookup candidate with
      | none => rfl
      | some ap => exact ih _

/-- The candidates of the next tries. -/
theorem map_range_succ (tries x : Nat) :
    (List.range (tries + 1)).map (fun j => candidateAt rng (x + j)) =
      candidateAt rng x :: (List.range tries).map fun j => candidateAt rng (x + 1 + j) := by
  rw [List.range_succ_eq_map, List.map_cons, List.map_map]
  refine congrArg _ (List.map_congr_left fun j _ => ?_)
  rw [Function.comp_apply, Nat.succ_eq_add_one, Nat.add_right_comm, Nat.add_assoc]

theorem tryCandidates_eq_find (tries x : Nat) :
    tryCandidates rng pa tries (candidateAt rng x) =
      ((List.range tries).map fun j => candidateAt rng (x + j)).find? (isFree pa) := by
  induction tries generalizing x with
  | zero => rfl
  | succ tries ih =>
      rw [map_range_succ, tryCandidates, next_candidateAt, ih]
      cases hlookup : pa.allocatedPorts.lookup (candidateAt rng x) with
      | none => rw [List.find?_cons_of_pos (by exact decide_eq_true hlookup)]
      | some ap =>
          rw [List.find?_cons_of_neg]
          rw [isFree, decide_eq_true_iff, hlookup]
          intro hc
          cases hc

theorem searchFrom_isPrefix (tries x : Nat) :
    (searchFrom rng pa tries (candidateAt rng x)).1 <+:
      (List.range tries).map fun j => candidateAt rng (x + j) := by
  induction tries generalizing x with
  | zero => exact List.prefix_refl _
  | succ tries ih =>
      rw [map_range_succ, searchFrom, next_candidateAt]
      cases pa.allocatedPorts.lookup (candidateAt rng x) with
      | none => exact List.prefix_append [candidateAt rng x] _
      | some ap => exact List.cons_prefix_cons.mpr ⟨rfl, ih (x + 1)⟩

/-! ## The search -/

/-- The first free port from the random one on. -/
theorem findNextIngressPort_eq_find (draw : Nat) :
    findNextIngressPort rng pa draw = (candidates rng draw).find? (isFree pa) := by
  rw [candidates_eq]
  exact tryCandidates_eq_find _ draw

theorem tried_isPrefix (draw : Nat) : tried rng pa draw <+: candidates rng draw := by
  rw [candidates_eq]
  exact searchFrom_isPrefix _ draw

/-- The search fails only if there is nothing to find. -/
theorem findNextIngressPort_eq_none_iff {draw : Nat} : findNextIngressPort rng pa draw = none ↔
    ∀ port, rng.start ≤ port → port < rng.end_ → pa.allocatedPorts.lookup port ≠ none := by
  rw [findNextIngressPort_eq_find, List.find?_eq_none]
  simp only [mem_candidates_iff, isFree, decide_eq_true_iff, and_imp, ne_eq]

/-- The search for a port looks at each port of the range once at most, and finds a free one if
    there is any. It begins at a random port and goes round at the end of the range, so it comes
    back to where it began after as many tries as the range has ports. -/
theorem findNextIngressPort_searches (rng : IngressPortRange) (pa : KubernetesBackedPortAllocator)
    (draw : Nat) : Searches rng pa draw where
  loop := searchFrom_snd _ _
  bounded := by
    rw [← length_candidates draw]
    exact (tried_isPrefix draw).length_le
  once := (nodup_candidates draw).sublist (tried_isPrefix draw).sublist
  found port h := by
    rw [findNextIngressPort_eq_find] at h
    have hrange := mem_candidates_iff.mp (List.mem_of_find?_eq_some h)
    have hfree : isFree pa port = true := List.find?_some h
    exact ⟨hrange.1, hrange.2, of_decide_eq_true hfree⟩
  finds := by
    rintro ⟨port, hstart, hend, hfree⟩
    rw [← Option.ne_none_iff_exists']
    exact fun hnone => findNextIngressPort_eq_none_iff.mp hnone port hstart hend hfree
  fails := findNextIngressPort_eq_none_iff

end IngressSearch

end WsManager

end Nxpod
