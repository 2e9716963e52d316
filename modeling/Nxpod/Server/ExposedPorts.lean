import Mathlib.Data.List.Nodup
import Mathlib.Data.List.ReduceOption
import Mathlib.Tactic.Common

/-!
# The Ports a Workspace Exposes

The ports of a workspace's configuration become the port specifications that the manager is asked
for. A port that is configured again is left out. Every other one is served by a target port inside
the workspace, which is 30000 above it, or the port itself if that is too much.

So a port between 30001 and 35535 is the target of one port and has another target itself, but one
above 35535 is its own target, and the target of the port that is 30000 below it as well.

## Main definitions

* `PortVisibility`: Who may come to the port.
* `PortConfig`: What is read of the configuration of a port.
* `PortSpec`: What the manager is asked for.
* `portSpec`, `portSpecs`: The specifications.
* `Exposes`: Every configured port once, with a valid target of its own.
* `Apart`: No port is 30000 above another one that is shifted.

## Theorems

* `mem_specsOf_iff`, `nodup_specsOf`: The ports that are specified.
* `targetOf_eq_iff`: Two ports with one target.
* `exposes_iff`: When the targets are distinct.
-/

namespace Nxpod

namespace ExposedPorts

/-- Who may come to the port. -/
inductive PortVisibility
  | portVisibilityPrivate
  | portVisibilityPublic
  deriving DecidableEq

/-- What is read of the configuration of a port. -/
structure PortConfig where
  port : Nat
  deriving DecidableEq

/-- What the manager is asked for. -/
structure PortSpec where
  port : Nat
  target : Nat
  visibility : PortVisibility
  deriving DecidableEq

/-- The port 30000 above, if there is one. -/
def targetOf (port : Nat) : Nat :=
  let target := port + 30000
  if target > 65535 then port else target

/-- Every port is open to everyone. -/
def portSpec (p : PortConfig) : PortSpec where
  port := p.port
  target := targetOf p.port
  visibility := .portVisibilityPublic

/-- The specifications of the ports that are not in the index yet. -/
def specsOf (portIndex : List Nat) : List PortConfig → List (Option PortSpec)
  | [] => []
  | p :: ps =>
      if p.port ∈ portIndex then none :: specsOf portIndex ps
      else some (portSpec p) :: specsOf (p.port :: portIndex) ps

/-- The configuration may have no ports. -/
def portSpecs (ports : Option (List PortConfig)) : List PortSpec :=
  (specsOf [] (ports.getD [])).reduceOption

/-! ## The ports -/

variable {portIndex : List Nat} {ps : List PortConfig} {port : Nat}

/-- A port is there if it is configured and was not there before. -/
theorem mem_specsOf_iff : port ∈ (specsOf portIndex ps).reduceOption.map PortSpec.port ↔
    port ∉ portIndex ∧ port ∈ ps.map PortConfig.port := by
  induction ps generalizing portIndex with
  | nil => simp [specsOf]
  | cons p ps ih =>
      rw [specsOf]
      by_cases hseen : p.port ∈ portIndex
      · rw [if_pos hseen, List.reduceOption_cons_of_none, ih, List.map_cons, List.mem_cons]
        constructor
        · rintro ⟨hnew, hport⟩
          exact ⟨hnew, .inr hport⟩
        · rintro ⟨hnew, rfl | hport⟩
          · exact absurd hseen hnew
          · exact ⟨hnew, hport⟩
      · rw [if_neg hseen, List.reduceOption_cons_of_some, List.map_cons, List.mem_cons, ih,
          List.map_cons, List.mem_cons, List.mem_cons]
        by_cases heq : port = p.port
        · subst heq
          exact iff_of_true (.inl rfl) ⟨hseen, .inl rfl⟩
        · simp only [portSpec, heq, false_or]

theorem nodup_specsOf : ((specsOf portIndex ps).reduceOption.map PortSpec.port).Nodup := by
  induction ps generalizing portIndex with
  | nil => exact List.nodup_nil
  | cons p ps ih =>
      rw [specsOf]
      by_cases hseen : p.port ∈ portIndex
      · rw [if_pos hseen, List.reduceOption_cons_of_none]
        exact ih
      · rw [if_neg hseen, List.reduceOption_cons_of_some, List.map_cons, List.nodup_cons]
        refine ⟨fun hmem => ?_, ih⟩
        -- From here on the port is in the index.
        exact (mem_specsOf_iff.mp hmem).1 List.mem_cons_self

/-- Every specification is that of its port. -/
theorem eq_of_mem_specsOf {spec : PortSpec} (h : spec ∈ (specsOf portIndex ps).reduceOption) :
    spec = portSpec ⟨spec.port⟩ := by
  induction ps generalizing portIndex with
  | nil => exact nomatch h
  | cons p ps ih =>
      rw [specsOf] at h
      by_cases hseen : p.port ∈ portIndex
      · rw [if_pos hseen, List.reduceOption_cons_of_none] at h
        exact ih h
      · rw [if_neg hseen, List.reduceOption_cons_of_some, List.mem_cons] at h
        rcases h with heq | h
        · rw [heq]
          rfl
        · exact ih h

theorem target_of_mem_specsOf {spec : PortSpec} (h : spec ∈ (specsOf portIndex ps).reduceOption) :
    spec.target = targetOf spec.port := by
  have htarget := congrArg PortSpec.target (eq_of_mem_specsOf h)
  simpa only [portSpec] using htarget

/-! ## The targets -/

theorem targetOf_eq_iff {p q : Nat} (hne : p ≠ q) : targetOf p = targetOf q ↔
    (p ≤ 35535 ∧ q = p + 30000 ∧ 35535 < q) ∨ (q ≤ 35535 ∧ p = q + 30000 ∧ 35535 < p) := by
  simp only [targetOf]
  by_cases hp : p + 30000 > 65535
  · rw [if_pos hp]
    by_cases hq : q + 30000 > 65535
    · rw [if_pos hq]
      omega
    · rw [if_neg hq]
      omega
  · rw [if_neg hp]
    by_cases hq : q + 30000 > 65535
    · rw [if_pos hq]
      omega
    · rw [if_neg hq]
      omega

theorem targetOf_valid (hlower : 1 ≤ port) (hupper : port ≤ 65535) :
    1 ≤ targetOf port ∧ targetOf port ≤ 65535 := by
  simp only [targetOf]
  split <;> omega

/-- Every configured port is exposed once and nothing else is. The targets are ports, and no two of
them are the same. -/
structure Exposes (ports : Option (List PortConfig)) : Prop where
  nodup : ((portSpecs ports).map PortSpec.port).Nodup
  mem : ∀ port, port ∈ (portSpecs ports).map PortSpec.port ↔
    port ∈ (ports.getD []).map PortConfig.port
  valid : ∀ spec ∈ portSpecs ports, 1 ≤ spec.target ∧ spec.target ≤ 65535
  targets : ((portSpecs ports).map PortSpec.target).Nodup

/-- No port that is its own target is 30000 above another port. -/
def Apart (ports : Option (List PortConfig)) : Prop :=
  ∀ port ∈ (ports.getD []).map PortConfig.port, 5535 < port → port ≤ 35535 →
    port + 30000 ∉ (ports.getD []).map PortConfig.port

theorem map_target (ports : Option (List PortConfig)) :
    (portSpecs ports).map PortSpec.target =
      ((portSpecs ports).map PortSpec.port).map targetOf := by
  rw [List.map_map]
  refine List.map_congr_left fun spec hspec => ?_
  rw [Function.comp_apply]
  exact target_of_mem_specsOf hspec

theorem mem_portSpecs_iff (ports : Option (List PortConfig)) (port : Nat) :
    port ∈ (portSpecs ports).map PortSpec.port ↔ port ∈ (ports.getD []).map PortConfig.port := by
  rw [portSpecs, mem_specsOf_iff]
  exact and_iff_right List.not_mem_nil

theorem nodup_portSpecs (ports : Option (List PortConfig)) :
    ((portSpecs ports).map PortSpec.port).Nodup :=
  nodup_specsOf

theorem nodup_targets_iff (ports : Option (List PortConfig)) :
    ((portSpecs ports).map PortSpec.target).Nodup ↔ Apart ports := by
  rw [map_target, List.nodup_map_iff_inj_on (nodup_portSpecs ports)]
  simp only [mem_portSpecs_iff]
  constructor
  · intro hinj port hport hlower hupper hmem
    have heq := hinj port hport (port + 30000) hmem
      ((targetOf_eq_iff (by omega)).mpr (.inl ⟨hupper, rfl, by omega⟩))
    omega
  · intro hapart p hp q hq heq
    by_contra hne
    rcases (targetOf_eq_iff hne).mp heq with ⟨hle, hshift, hlt⟩ | ⟨hle, hshift, hlt⟩
    · exact hapart p hp (by omega) hle (hshift ▸ hq)
    · exact hapart q hq (by omega) hle (hshift ▸ hp)

/-- The ports are exposed apart from each other exactly when no two of them are 30000 apart,
    with the upper one its own target. A port is served inside the workspace by another one that
    is 30000 above it, unless there is none so high. Then it is served by itself, which may be
    the one that another port was given. -/
theorem exposes_iff (ports : Option (List PortConfig))
    (hvalid : ∀ p ∈ ports.getD [], 1 ≤ p.port ∧ p.port ≤ 65535) :
    Exposes ports ↔ Apart ports := by
  constructor
  · exact fun h => (nodup_targets_iff ports).mp h.targets
  · intro hapart
    refine ⟨nodup_portSpecs ports, mem_portSpecs_iff ports, fun spec hspec => ?_,
      (nodup_targets_iff ports).mpr hapart⟩
    have hmem := (mem_portSpecs_iff ports spec.port).mp (List.mem_map_of_mem hspec)
    rcases List.mem_map.mp hmem with ⟨p, hp, heq⟩
    rw [target_of_mem_specsOf hspec, ← heq]
    exact targetOf_valid (hvalid p hp).1 (hvalid p hp).2

/-- A port twice, one that is shifted into another, and one that is its own target. -/
theorem exposes_iff_four : Exposes (some [⟨3000⟩, ⟨33000⟩, ⟨3000⟩, ⟨40000⟩]) := by
  refine (exposes_iff _ (by decide)).mpr ?_
  intro port hport hlower hupper
  simp only [Option.getD_some, List.map_cons, List.map_nil, List.mem_cons, List.not_mem_nil,
    or_false] at hport ⊢
  omega

/-- Port 8080 is served by the port 38080, which is exposed itself. -/
theorem exposed_together : ¬ ∀ ports : Option (List PortConfig),
    (∀ p ∈ ports.getD [], 1 ≤ p.port ∧ p.port ≤ 65535) → Exposes ports := by
  intro hall
  have htargets := (hall (some [⟨8080⟩, ⟨38080⟩]) (by decide)).targets
  exact absurd htargets (by decide)

end ExposedPorts

end Nxpod
